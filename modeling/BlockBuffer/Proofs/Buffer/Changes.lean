import BlockBuffer.Buffer.Insertion
import BlockBuffer.Buffer.Removal
import BlockBuffer.Buffer.Storage
import BlockBuffer.Proofs.Reservation.Growth
import BlockBuffer.Proofs.Reservation.Shrink

/-!
# Changes of a buffer of values

The values are a list already.  What an operation adds to the list operation is what it does to
the reservation beside the list, which has to count the values at every moment, and to the
array, which has room for exactly the reserved slots.
-/

namespace BlockBuffer
namespace Buffer

variable {α : Type} {items : List α} {r : Reservation} {index : Nat}

/-- The buffer of these values with this reservation, and with room for all reserved slots. -/
def holding (r : Reservation) (items : List α) : Buffer α where
  items := items
  reservation := r
  capacity := r.header.reserved

@[simp] theorem items_holding : (holding r items).items = items := rfl

@[simp] theorem reservation_holding : (holding r items).reservation = r := rfl

/-!
## The array behind it
-/

theorem backs_slots (items : List α) (count : Nat) :
    (holding r items).slots.Backs r.header.elementSize count (.mk count) :=
  Slots.backs_ofValues r.header.elementSize count

theorem growFor_slots (hvalid : r.Valid) (hlength : r.header.length = items.length)
    (limit length : Nat) :
    (holding r items).slots.growFor limit r length (holding r items).extent =
      Attempt.ofResult r (.mk items.length) <$> r.ensure limit length := by
  have hle := hvalid.length_le
  rw [hlength] at hle
  exact Slots.growFor_eq (backs_slots items _) hle limit length

theorem reserve_slots (hvalid : r.Valid) (hlength : r.header.length = items.length)
    (limit amount : Nat) :
    (holding r items).slots.reserve limit r amount (holding r items).extent =
      Attempt.ofResult r (.mk items.length) <$> r.reserve limit amount := by
  have hle := hvalid.length_le
  rw [hlength] at hle
  exact Slots.reserve_eq (backs_slots items _) hle limit amount

theorem compact_slots (hvalid : r.Valid) (hlength : r.header.length = items.length) :
    (holding r items).slots.compact r (holding r items).extent =
      Slots.paired (.mk items.length) <$> r.compact := by
  have hextent : (holding r items).extent = .mk r.header.length r.header.reserved :=
    congrArg (Extent.mk · _) hlength.symm
  rw [hextent, ← hlength]
  exact Slots.compact_eq (backs_slots items _) hvalid

theorem settle_slots (hvalid : r.Valid) (hlength : r.header.length = items.length) :
    (holding r items).slots.settle r (holding r items).extent =
      Slots.paired (.mk items.length) <$> r.settle := by
  have hextent : (holding r items).extent = .mk r.header.length r.header.reserved :=
    congrArg (Extent.mk · _) hlength.symm
  rw [hextent, ← hlength]
  exact Slots.settle_eq (backs_slots items _) hvalid

theorem release_slots (hvalid : r.Valid) :
    (holding r ([] : List α)).slots.release r (holding r ([] : List α)).extent =
      Slots.paired (.mk 0) <$> r.release := by
  exact Slots.release_eq (backs_slots [] 0) hvalid

theorem copy_holding (hvalid : r.Valid) (hlength : r.header.length = items.length) :
    (holding r items).copy = pure (holding r items) := by
  have hfits : r.header.reserved * r.header.elementSize < Word.limit :=
    hvalid.span_lt_limit (Nat.le_refl _)
  have hroom : items.length ≤ r.header.reserved := by
    rw [← hlength]
    exact hvalid.length_le
  have hpayload : (holding r items).reservation.payload = pure _ := Word.mul_of_lt hfits
  unfold copy
  rw [hpayload, pure_bind]
  exact congrArg (· >>= fun _ => pure (holding r items)) (Traced.require_of_holds hroom _)

/-!
## Putting values in
-/

theorem insert_of_lt (limit : Nat) (hindex : items.length < index) (value : α) :
    (holding r items).insert limit index value =
      pure (.refused (.indexOutOfBounds index items.length) (holding r items)) :=
  if_pos hindex

theorem insert_of_le (limit : Nat) (hvalid : r.Valid)
    (hlength : r.header.length = items.length) (hindex : index ≤ items.length) (value : α) :
    (holding r items).insert limit index value = (do
      match ← r.ensure limit (items.length + 1) with
      | .error error => pure (.refused error (holding r items))
      | .ok grown =>
          pure { result := .ok (),
                 state := holding (grown.withLength (items.length + 1))
                   (items.insertIdx index value) }) := by
  have hword : items.length + 1 < Word.limit := by
    rw [← hlength]
    exact hvalid.length_succ_lt_limit
  have hensured := (Reservation.ensure_succ limit hvalid hlength).right
  have hgrow := growFor_slots hvalid hlength limit (items.length + 1)
  unfold insert
  dsimp only [holding] at hgrow ⊢
  rw [if_neg (Nat.not_lt_of_le hindex), Word.add_of_lt hword, pure_bind, hgrow, bind_map_left]
  apply Traced.bind_congr_value
  generalize (r.ensure limit (items.length + 1)).value = ensured at hensured ⊢
  cases hensured with
  | refused => rfl
  | @enough slots hslots _ =>
      have hroom : items.length + 1 ≤ (r.withSlots slots).header.reserved := hslots
      rw [Attempt.ofResult_ok]
      dsimp only
      rw [Traced.require_of_holds hroom, pure_bind, Reservation.setLength_of_le _ _ hslots,
        pure_bind]
      rfl

/-!
## Taking values out
-/

theorem remove_of_le (hindex : items.length ≤ index) :
    (holding r items).remove index =
      pure (.refused (.indexOutOfBounds index items.length) (holding r items)) := by
  have hnone : (holding r items).items[index]? = none := List.getElem?_eq_none hindex
  unfold remove
  rw [hnone]
  rfl

theorem valid_removed (hvalid : r.Valid) (hlength : r.header.length = items.length) :
    (r.withLength (items.length - 1)).Valid := by
  apply hvalid.withLength
  rw [← hlength]
  exact Nat.le_trans (Nat.sub_le _ _) hvalid.length_le

theorem remove_of_lt (hvalid : r.Valid) (hlength : r.header.length = items.length)
    (hindex : index < items.length) :
    (holding r items).remove index = (do
      let settled ← (r.withLength (items.length - 1)).settle
      pure { result := .ok items[index],
             state := holding settled (items.eraseIdx index) }) := by
  have hshorter := valid_removed hvalid hlength
  have hleft := (List.length_eraseIdx_of_lt hindex).symm
  have hle : items.length - 1 ≤ r.header.reserved := hshorter.length_le
  have hsome : (holding r items).items[index]? = some items[index] :=
    List.getElem?_eq_getElem hindex
  have hsettle : (holding r items).slots.settle (r.withLength (items.length - 1))
      ({ holding r items with items := items.eraseIdx index } : Buffer α).extent = _ :=
    settle_slots hshorter hleft
  unfold remove
  rw [hsome]
  dsimp only [holding] at hsettle ⊢
  rw [Word.sub_of_le (Nat.one_le_of_lt hindex), pure_bind, Reservation.setLength_of_le _ _ hle,
    pure_bind, hsettle, bind_map_left]
  rfl

/-!
## Storage
-/

theorem reserve_holding (hvalid : r.Valid) (hlength : r.header.length = items.length)
    (limit amount : Nat) :
    (holding r items).reserve limit amount = (do
      match ← r.reserve limit amount with
      | .error error => pure (.refused error (holding r items))
      | .ok grown => pure { result := .ok (), state := holding grown items }) := by
  have hreserve := reserve_slots hvalid hlength limit amount
  unfold reserve
  dsimp only [holding] at hreserve ⊢
  rw [hreserve, bind_map_left]
  apply Traced.bind_congr_value
  cases (r.reserve limit amount).value with
  | error error => rfl
  | ok grown => rfl

theorem compact_holding (hvalid : r.Valid) (hlength : r.header.length = items.length) :
    (holding r items).compact = (do
      let tight ← r.compact
      Traced.emit (.compacted .typed tight.header.reserved)
      pure (holding tight items)) := by
  have hcompact := compact_slots hvalid hlength
  unfold compact
  dsimp only [holding] at hcompact ⊢
  rw [hcompact, bind_map_left]
  rfl

theorem destroyWith_of_interrupted {buffer : Buffer α} {interruptAt : Option Nat}
    (hending : (sweep id interruptAt buffer.items).ending = .interrupted) :
    buffer.destroyWith interruptAt =
      pure { result := (sweep id interruptAt buffer.items).report,
             state := { buffer with
                        items := []
                        reservation := buffer.reservation.withLength 0 } } := by
  unfold destroyWith
  rw [Reservation.setLength_of_le _ _ (Nat.zero_le _), pure_bind]
  dsimp only
  rw [hending]

theorem destroyWith_of_completed (hvalid : r.Valid) {interruptAt : Option Nat}
    (hending : (sweep id interruptAt items).ending = .completed) :
    (holding r items).destroyWith interruptAt = (do
      let released ← r.release
      Traced.emit (.destroyed .typed)
      pure { result := (sweep id interruptAt items).report,
             state := holding released [] }) := by
  have hempty := hvalid.withLength (Nat.zero_le r.header.reserved)
  have hrelease : (r.withLength 0).release = r.release := by
    rw [Reservation.release_eq hempty, Reservation.release_eq hvalid]
    rfl
  have hslots : ({ holding r [] with reservation := r.withLength 0 } : Buffer α).slots.release
      (r.withLength 0)
      ({ holding r [] with reservation := r.withLength 0 } : Buffer α).extent = _ :=
    release_slots hempty
  unfold destroyWith
  dsimp only [holding] at hslots ⊢
  rw [Reservation.setLength_of_le _ _ (Nat.zero_le _), pure_bind, hending]
  dsimp only
  rw [hslots, bind_map_left, hrelease]
  rfl

end Buffer
end BlockBuffer
