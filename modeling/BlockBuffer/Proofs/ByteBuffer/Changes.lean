import BlockBuffer.ByteBuffer.Insertion
import BlockBuffer.ByteBuffer.Removal
import BlockBuffer.ByteBuffer.Storage
import BlockBuffer.Proofs.ByteBuffer.Holding
import BlockBuffer.Proofs.Reservation.Growth
import BlockBuffer.Proofs.Reservation.Shrink

/-!
# Changes of the elements and of the storage

Each equation splits an operation into what its reservation does and what happens to the list
of elements.  The reservation is asked first and never sees the elements, and the bytes follow
the list.
-/

namespace BlockBuffer

def Delivery.taken (delivery : Delivery (Result Unit)) : Delivery (Result Status) where
  result := delivery.result.map fun _ => .ok
  dest := delivery.dest

namespace ByteBuffer

variable {r : Reservation} {elements : List Bytes} {index : Nat} {source : Bytes}

/-!
## Putting elements in
-/

theorem checkInsert_of_le (h : r.Counts elements) (hindex : index ≤ elements.length)
    (size : Nat) :
    (holding r elements).checkInsert index size =
      if size = r.header.elementSize then .ok r
      else .error (.sizeMismatch r.header.elementSize size) := by
  unfold checkInsert Header.checkPosition Header.checkSize
  rw [initialized_holding]
  simp only [bind, Except.bind, h.length_eq]
  rw [if_neg (Nat.not_lt_of_le hindex)]
  by_cases hsize : size = r.header.elementSize
  · rw [if_pos hsize]
    simp only [if_pos hsize]
    rfl
  · rw [if_neg hsize]
    simp only [if_neg hsize]

theorem checkInsert_of_lt (h : r.Counts elements) (hindex : elements.length < index)
    (size : Nat) :
    (holding r elements).checkInsert index size =
      .error (.indexOutOfBounds index elements.length) := by
  unfold checkInsert Header.checkPosition
  rw [initialized_holding]
  simp only [bind, Except.bind, h.length_eq]
  rw [if_pos hindex]

theorem insert_of_error {buffer : ByteBuffer} {error : BufferError} (limit : Nat)
    (h : buffer.checkInsert index source.length = .error error) :
    buffer.insert limit index source = pure (.refused error buffer) := by
  unfold insert
  rw [h]

/-- A growth that gave room for one more element also gave a reservation that can count it. -/
theorem counts_insertIdx (h : r.Counts elements) (hindex : index ≤ elements.length)
    (hsource : source.length = r.header.elementSize) {slots : Nat}
    (hslots : elements.length + 1 ≤ slots) (hvalid : (r.withSlots slots).Valid) :
    ((r.withSlots slots).withLength (elements.length + 1)).Counts
      (elements.insertIdx index source) where
  valid := hvalid.withLength hslots
  length_eq := (List.length_insertIdx_of_le_length hindex source).symm
  uniform := h.uniform.insertIdx hsource hindex

theorem insert_of_fits (limit : Nat) (h : r.Counts elements) (hindex : index ≤ elements.length)
    (hsource : source.length = r.header.elementSize) :
    (holding r elements).insert limit index source = (do
      match ← r.ensure limit (elements.length + 1) with
      | .error error => pure (.refused error (holding r elements))
      | .ok grown =>
          pure { result := .ok (),
                 state := holding (grown.withLength (elements.length + 1))
                   (elements.insertIdx index source) }) := by
  have hword := h.length_succ_lt_limit
  have hensured := (Reservation.ensure_succ limit h.valid h.length_eq).right
  unfold insert
  rw [checkInsert_of_le h hindex, if_pos hsource]
  dsimp only
  rw [h.length_eq, Word.add_of_lt hword, pure_bind, growFor_slots h, bind_map_left]
  apply Traced.bind_congr_value
  generalize (r.ensure limit (elements.length + 1)).value = ensured at hensured ⊢
  cases hensured with
  | refused => rfl
  | @enough slots hslots hvalid =>
      have hfits : (elements.length + 1) * r.header.elementSize < Word.limit :=
        hvalid.span_lt_limit hslots
      have hlonger := counts_insertIdx h hindex hsource hslots hvalid
      have hroom : (elements.insertIdx index source).flatten.length ≤
          (Extent.ofSlots r.header.elementSize elements.length
            (r.withSlots slots).header.reserved).capacity := by
        rw [hlonger.uniform.length_flatten]
        exact Nat.mul_le_mul_right _ hlonger.length_le_reserved
      rw [Attempt.ofResult_ok]
      dsimp only
      rw [bytes_holding,
        h.uniform.insertBytes_flatten h.valid.elementSize_pos hindex hsource hfits, pure_bind,
        Traced.require_of_holds hroom, pure_bind, Reservation.setLength_of_le _ _ hslots,
        pure_bind]
      rfl

/-!
## Taking elements out
-/

theorem remove_of_error {buffer : ByteBuffer} {dest : Option Bytes} {error : BufferError}
    (h : buffer.checkRemove index dest = .error error) :
    buffer.remove index dest = pure (Delivery.refused error dest buffer) := by
  unfold remove
  rw [h]

theorem counts_eraseIdx (h : r.Counts elements) (hindex : index < elements.length) :
    (r.withLength (elements.length - 1)).Counts (elements.eraseIdx index) where
  valid := h.valid.withLength (Nat.le_trans (Nat.sub_le _ _) h.length_le_reserved)
  length_eq := (List.length_eraseIdx_of_lt hindex).symm
  uniform := h.uniform.eraseIdx index

theorem checkRemove_of_fits (h : r.Counts elements) (hindex : index < elements.length)
    {dest : Option Bytes} (hdest : ∀ place ∈ dest, place.length = r.header.elementSize) :
    (holding r elements).checkRemove index dest = .ok r := by
  cases dest with
  | none => exact checkElement_of_lt h hindex
  | some place =>
      unfold checkRemove
      dsimp only
      rw [checkCopy_of_lt h hindex, if_pos (hdest place rfl)]

theorem remove_of_fits (h : r.Counts elements) (hindex : index < elements.length)
    {dest : Option Bytes} (hdest : ∀ place ∈ dest, place.length = r.header.elementSize) :
    (holding r elements).remove index dest = (do
      let settled ← (r.withLength (elements.length - 1)).settle
      pure { result := { result := .ok (), dest := dest.map fun _ => elements[index] },
             state := holding settled (elements.eraseIdx index) }) := by
  have hcopied : (holding r elements).copyOut index dest =
      pure { result := .ok (), dest := dest.map fun _ => elements[index] } := by
    cases dest with
    | none => rfl
    | some place =>
        unfold copyOut
        dsimp only
        rw [copyTo_of_fits h hindex (hdest place rfl), pure_bind]
        rfl
  have hfits : elements.length * r.header.elementSize < Word.limit :=
    h.valid.span_lt_limit h.length_le_reserved
  have hle : elements.length - 1 ≤ r.header.reserved :=
    Nat.le_trans (Nat.sub_le _ _) h.length_le_reserved
  have hleft := counts_eraseIdx h hindex
  unfold remove
  rw [checkRemove_of_fits h hindex hdest]
  dsimp only
  rw [hcopied, pure_bind]
  dsimp only
  rw [h.length_eq, bytes_holding,
    h.uniform.closeGap_flatten h.valid.elementSize_pos hindex hfits, pure_bind,
    Word.sub_of_le (Nat.one_le_of_lt hindex), pure_bind, Reservation.setLength_of_le _ _ hle,
    pure_bind]
  have hsettle : (holding r elements).slots.settle (r.withLength (elements.length - 1))
      (ByteBuffer.extent
        { holding r elements with bytes := (elements.eraseIdx index).flatten }) =
        _ := settle_slots hleft
  rw [hsettle, bind_map_left]
  apply Traced.bind_congr_value
  rw [Reservation.value_settle hleft.valid]
  rfl

theorem popAt_of_nil {place : Nat → Traced Nat} (h : r.Counts []) (dest : Option Bytes) :
    (holding r []).popAt place dest =
      pure { result := { result := .ok .warning, dest := dest }, state := holding r [] } := by
  have hnone : r.header.length = 0 := h.length_eq
  unfold popAt
  rw [initialized_holding]
  dsimp only
  rw [if_pos hnone]

theorem popAt_of_ne_nil {place : Nat → Traced Nat} (h : r.Counts elements)
    (hne : elements ≠ []) (hplace : place elements.length = pure index) (dest : Option Bytes) :
    (holding r elements).popAt place dest =
      Outcome.map Delivery.taken <$> (holding r elements).remove index dest := by
  have hsome : r.header.length ≠ 0 := by
    rw [h.length_eq]
    exact fun hzero => hne (List.length_eq_zero_iff.mp hzero)
  unfold popAt
  rw [initialized_holding]
  dsimp only
  rw [if_neg hsome, h.length_eq, hplace, pure_bind, ← bind_pure_comp]
  rfl

/-!
## Storage
-/

theorem reserve_holding (limit amount : Nat) (h : r.Counts elements) :
    (holding r elements).reserve limit amount = (do
      match ← r.reserve limit amount with
      | .error error => pure (.refused error (holding r elements))
      | .ok grown => pure { result := .ok (), state := holding grown elements }) := by
  unfold reserve
  rw [initialized_holding]
  dsimp only
  rw [reserve_slots h, bind_map_left]
  apply Traced.bind_congr_value
  have hreserved := Reservation.suffices_reserve limit amount h.valid
  generalize (r.reserve limit amount).value = reserved at hreserved ⊢
  cases hreserved with
  | refused => rfl
  | enough hslots hvalid => rfl

theorem compact_holding (h : r.Counts elements) :
    (holding r elements).compact = (do
      let tight ← r.compact
      Traced.emit (.compacted .raw tight.header.reserved)
      pure { result := .ok (), state := holding tight elements }) := by
  unfold compact
  rw [initialized_holding]
  dsimp only
  rw [compact_slots h, bind_map_left]
  apply Traced.bind_congr_value
  rw [Reservation.value_compact h.valid]
  rfl

theorem destroyWith_of_completed (h : r.Counts elements) {change : InPlace}
    {interruptAt : Option Nat}
    (hending : (sweep change.edit interruptAt elements).ending = .completed) :
    (holding r elements).destroyWith change interruptAt = (do
      let released ← r.release
      Traced.emit (.destroyed .raw)
      pure { result := .ok (sweep change.edit interruptAt elements).report,
             state := holding released [] }) := by
  have hsize : r.header.elementSize ≠ 0 := Nat.ne_of_gt h.valid.elementSize_pos
  unfold destroyWith
  rw [initialized_holding]
  dsimp only
  rw [Traced.require_of_holds hsize, pure_bind, bytes_holding,
    Bytes.chunks_flatten h.valid.elementSize_pos h.uniform, hending]
  have hrelease : (holding r elements).slots.release r
      ({ holding r elements with bytes := [] } : ByteBuffer).extent = _ := release_slots h
  dsimp only
  rw [hrelease, bind_map_left]
  apply Traced.bind_congr_value
  rw [Reservation.release_eq h.valid]
  rfl

theorem destroyWith_of_interrupted (h : r.Counts elements) {change : InPlace}
    {interruptAt : Option Nat}
    (hending : (sweep change.edit interruptAt elements).ending = .interrupted) :
    (holding r elements).destroyWith change interruptAt =
      pure { result := .ok (sweep change.edit interruptAt elements).report,
             state := holding r (sweep change.edit interruptAt elements).elements } := by
  have hsize : r.header.elementSize ≠ 0 := Nat.ne_of_gt h.valid.elementSize_pos
  unfold destroyWith
  rw [initialized_holding]
  dsimp only
  rw [Traced.require_of_holds hsize, pure_bind, bytes_holding,
    Bytes.chunks_flatten h.valid.elementSize_pos h.uniform, hending]
  rfl

end ByteBuffer
end BlockBuffer
