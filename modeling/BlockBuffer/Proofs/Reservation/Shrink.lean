import BlockBuffer.Proofs.Reservation.Backing

/-!
# What a shrink leaves

A valid reservation shrinks to any number of slots between its length and what it has, without
a fault and with one event.  Compaction, removal and release are shrinks to three particular
numbers of slots.
-/

namespace BlockBuffer
namespace Reservation

variable {r : Reservation}

theorem shrinkTo_of_le (hvalid : r.Valid) {slots : Nat} (hle : r.header.length ≤ slots)
    (hslots : slots ≤ r.header.reserved) :
    r.shrinkTo slots = (do
      Traced.emit (.shrunk r.header.reserved slots)
      pure (r.withSlots slots)) := by
  have hfits : slots * r.header.elementSize + headerSize < Word.limit :=
    (hvalid.withSlots_of_le hle hslots).fits
  unfold shrinkTo Slots.shrinkTo
  rw [Traced.require_of_holds hle, pure_bind, Traced.require_of_holds hslots, pure_bind,
    Header.bytesFor_eq, if_pos hfits]
  rfl

/-!
## Compaction
-/

theorem compact_eq (hvalid : r.Valid) :
    r.compact =
      if r.header.length = r.header.reserved then pure r
      else (do
        Traced.emit (.shrunk r.header.reserved r.header.length)
        pure (r.withSlots r.header.length)) := by
  unfold compact Slots.compact
  split
  · rfl
  · exact shrinkTo_of_le hvalid (Nat.le_refl _) hvalid.length_le

theorem value_compact (hvalid : r.Valid) : r.compact.value = r.withSlots r.header.length := by
  rw [compact_eq hvalid]
  split
  · rename_i hfull
    rw [hfull, hvalid.withSlots_reserved]
    rfl
  · rfl

theorem faults_compact (hvalid : r.Valid) : r.compact.faults = [] := by
  rw [compact_eq hvalid]
  split
  · rfl
  · rfl

theorem valid_compact (hvalid : r.Valid) : r.compact.value.Valid := by
  rw [value_compact hvalid]
  exact hvalid.withSlots_of_le (Nat.le_refl _) hvalid.length_le

/-!
## Removal

The two policies that shrink differ only in whether a shrink to the present number of slots is
carried out.
-/

def settledSlots (r : Reservation) : Nat :=
  match r.config.shrink with
  | .deferred => r.header.reserved
  | .lazy => min (r.config.recommended r.header.length) r.header.reserved
  | .eager => min (r.config.recommended r.header.length) r.header.reserved

theorem settle_eq (hvalid : r.Valid) :
    r.settle =
      match r.config.shrink with
      | .deferred => pure r
      | .lazy =>
          if r.config.recommended r.header.length < r.header.reserved then do
            Traced.emit (.shrunk r.header.reserved (r.config.recommended r.header.length))
            pure (r.withSlots (r.config.recommended r.header.length))
          else pure r
      | .eager =>
          if r.config.recommended r.header.length ≤ r.header.reserved then do
            Traced.emit (.shrunk r.header.reserved (r.config.recommended r.header.length))
            pure (r.withSlots (r.config.recommended r.header.length))
          else pure r := by
  have hlimit : r.header.length < Word.limit := Nat.lt_of_succ_lt hvalid.length_succ_lt_limit
  have hle := Config.le_recommended r.config hlimit
  unfold settle Slots.settle
  rw [Config.capacity_eq_pure, pure_bind]
  cases r.config.shrink with
  | deferred => rfl
  | lazy =>
      by_cases htarget : r.config.recommended r.header.length < r.header.reserved
      · simp only [htarget, if_true]
        exact shrinkTo_of_le hvalid hle (Nat.le_of_lt htarget)
      · simp only [htarget, if_false]
        rfl
  | eager =>
      by_cases htarget : r.config.recommended r.header.length ≤ r.header.reserved
      · simp only [htarget, if_true]
        exact shrinkTo_of_le hvalid hle htarget
      · simp only [htarget, if_false]
        rfl

theorem value_settle (hvalid : r.Valid) : r.settle.value = r.withSlots r.settledSlots := by
  rw [settle_eq hvalid]
  unfold settledSlots
  cases r.config.shrink with
  | deferred => exact hvalid.withSlots_reserved.symm
  | lazy =>
      by_cases htarget : r.config.recommended r.header.length < r.header.reserved
      · simp only [htarget, if_true, Traced.value_bind, Traced.value_pure]
        rw [Nat.min_eq_left (Nat.le_of_lt htarget)]
      · simp only [htarget, if_false, Traced.value_pure]
        rw [Nat.min_eq_right (Nat.le_of_not_lt htarget), hvalid.withSlots_reserved]
  | eager =>
      by_cases htarget : r.config.recommended r.header.length ≤ r.header.reserved
      · simp only [htarget, if_true, Traced.value_bind, Traced.value_pure]
        rw [Nat.min_eq_left htarget]
      · simp only [htarget, if_false, Traced.value_pure]
        rw [Nat.min_eq_right (Nat.le_of_not_le htarget), hvalid.withSlots_reserved]

theorem faults_settle (hvalid : r.Valid) : r.settle.faults = [] := by
  rw [settle_eq hvalid]
  cases r.config.shrink with
  | deferred => rfl
  | lazy =>
      dsimp only
      split
      · rfl
      · rfl
  | eager =>
      dsimp only
      split
      · rfl
      · rfl

theorem valid_settle (hvalid : r.Valid) : r.settle.value.Valid := by
  have hlimit : r.header.length < Word.limit := Nat.lt_of_succ_lt hvalid.length_succ_lt_limit
  have hle := Config.le_recommended r.config hlimit
  have hlength := hvalid.length_le
  rw [value_settle hvalid]
  apply hvalid.withSlots_of_le
  · unfold settledSlots
    split
    · exact hlength
    · exact Nat.le_min.mpr ⟨hle, hlength⟩
    · exact Nat.le_min.mpr ⟨hle, hlength⟩
  · unfold settledSlots
    split
    · exact Nat.le_refl _
    · exact Nat.min_le_right _ _
    · exact Nat.min_le_right _ _

/-!
## Release
-/

theorem release_eq (hvalid : r.Valid) :
    r.release = (do
      Traced.emit (.shrunk r.header.reserved 0)
      pure ((r.withLength 0).withSlots 0)) :=
  shrinkTo_of_le (hvalid.withLength (Nat.zero_le _)) (Nat.le_refl 0) (Nat.zero_le _)

/-- A reservation that was released is a new one. -/
theorem released_eq (r : Reservation) :
    (r.withLength 0).withSlots 0 =
      { header := .unreserved r.header.elementSize, config := r.config } := by
  unfold withLength withSlots
  simp only [Nat.zero_mul, Nat.zero_add]
  rfl

theorem valid_release (hvalid : r.Valid) : ((r.withLength 0).withSlots 0).Valid :=
  (hvalid.withLength (Nat.zero_le _)).withSlots_of_le (Nat.le_refl 0) (Nat.zero_le _)

end Reservation
end BlockBuffer
