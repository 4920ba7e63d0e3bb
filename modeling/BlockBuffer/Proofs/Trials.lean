import BlockBuffer.Proofs.BackOff
import BlockBuffer.Proofs.Reservation.Trials

/-!
# Growth on any storage

A growth asks for fewer and fewer slots until the storage grants some, whatever the storage is
like.  No size tells in advance whether it succeeds, but it always ends soon: either with the
first slots that are granted, or after the bare length was refused.
-/

namespace BlockBuffer

/-- A growth for `length` slots that consists of the trials `refused` and, after them, `last`.
Every trial leaves its mark in the log, and the growth ends as the last one does. -/
structure ConsistsOf {σ : Type} (storage : Slots σ) (limit : Nat) (r : Reservation)
    (length : Nat) (state : σ) (refused : List (Trial σ)) (last : Trial σ)
    (growth : Traced (Attempt σ)) : Prop where
  first : (refused ++ [last]).head? = some ⟨r.config.recommended length, state⟩
  goesOn : (refused ++ [last]).IsChain fun trial next =>
    next = ⟨length + (trial.slots - length) / 2, (trial.attempt storage limit r).state⟩
  count_le : (refused ++ [last]).length ≤ 1 + (r.config.recommended length - length).size
  count_le_word : (refused ++ [last]).length ≤ 65
  decreasing : (refused ++ [last]).Pairwise fun trial later => later.slots < trial.slots
  enough : ∀ trial ∈ refused ++ [last], length ≤ trial.slots ∧ r.header.reserved < trial.slots
  not_admitted : ∀ trial ∈ refused, ¬ trial.Admitted storage limit r
  ends : growth.value = last.attempt storage limit r
  faults_eq : growth.faults = (refused ++ [last]).flatMap (Trial.faults storage limit r)
  succeeds_iff : refusal growth.value.result = none ↔
    ∃ trial ∈ refused ++ [last], trial.Admitted storage limit r
  granted : last.Admitted storage limit r →
    growth.value.reservation.config = r.config ∧
    growth.value.reservation.header =
      { r.header with
        reserved := last.slots
        bytesAllocated := 32 + last.slots * r.header.elementSize } ∧
    growth.events = refused.map (Reservation.warning length) ++
      [.grown r.header.reserved last.slots (32 + last.slots * r.header.elementSize)]
  failed : ¬ last.Admitted storage limit r →
    last.slots = length ∧
      refusal growth.value.result =
        some (.allocation (min (32 + length * r.header.elementSize) (UInt64.size - 1))) ∧
      growth.value.reservation = r ∧
      growth.events = refused.map (Reservation.warning length) ++
        [.growthFailed length r.header.reserved]

namespace Reservation

variable {σ : Type} {storage : Slots σ} {limit : Nat} {r : Reservation}
  {length : Nat} {state : σ} {refused : List (Trial σ)} {last : Trial σ}

theorem Tries.admitted_iff {slack : Nat}
    (h : Tries storage limit r length slack state refused last) :
    (∃ trial ∈ refused ++ [last], trial.Admitted storage limit r) ↔
      last.Admitted storage limit r := by
  constructor
  · rintro ⟨trial, hmem, hadmitted⟩
    rcases List.mem_append.mp hmem with hrefused | hlast
    · exact absurd hadmitted (h.not_admitted trial hrefused)
    · rwa [← List.mem_singleton.mp hlast]
  · intro hadmitted
    exact ⟨last, List.mem_append_right refused List.mem_cons_self, hadmitted⟩

theorem Tries.consistsOf
    (h : Tries storage limit r length (r.config.recommended length - length)
      state refused last)
    (hgrows : r.header.reserved < length) (hword : length < Word.limit) :
    ConsistsOf storage limit r length state refused last
      (storage.growFor limit r length state) := by
  have hcapacity : length + (r.config.recommended length - length) =
      r.config.recommended length :=
    Nat.add_sub_of_le (Config.le_recommended r.config hword)
  have hfirst := h.first_eq
  rw [hcapacity] at hfirst
  have hcount : (refused ++ [last]).length ≤
      1 + (r.config.recommended length - length).size := by
    rw [List.length_append, List.length_singleton, Nat.add_comm]
    exact Nat.add_le_add_left h.length_le 1
  have hdigits : (r.config.recommended length - length).size ≤ 64 := by
    apply Nat.size_le.mpr
    exact Nat.lt_of_le_of_lt (Nat.sub_le _ _) (Config.recommended_lt_limit r.config length)
  rw [growFor_of_lt storage limit state hgrows hword,
    h.backOff_eq (length_add_slack_lt r.config hword)]
  constructor
  case first => exact hfirst
  case goesOn => exact h.goesOn
  case count_le => exact hcount
  case count_le_word => exact Nat.le_trans hcount (Nat.add_le_add_left hdigits 1)
  case decreasing => exact h.decreasing
  case enough =>
    intro trial hmem
    have hle := (h.slots_bounds trial hmem).left
    exact ⟨hle, Nat.lt_of_lt_of_le hgrows hle⟩
  case not_admitted => exact h.not_admitted
  case ends => rfl
  case faults_eq => rfl
  case succeeds_iff =>
    rw [h.admitted_iff]
    by_cases hlast : last.Admitted storage limit r
    · rw [(Trial.attempt_of_admitted hlast).right.left]
      exact iff_of_true rfl hlast
    · rw [(Trial.attempt_of_not_admitted hlast).right.left]
      exact iff_of_false (Option.some_ne_none _) hlast
  case granted =>
    intro hlast
    rw [(Trial.attempt_of_admitted hlast).right.right, Trial.grown_of_admitted hlast,
      Nat.add_comm 32]
    exact ⟨rfl, rfl, rfl⟩
  case failed =>
    intro hlast
    rcases Trial.attempt_of_not_admitted hlast with ⟨_, hresult, hkept⟩
    rw [hresult, hkept, Trial.grown_of_not_admitted hlast, h.bare_of_not_admitted hlast,
      ← demand_eq]
    exact ⟨rfl, rfl, rfl, rfl⟩

end Reservation

/-- A growth ends on any storage after few trials, with the first slots that are granted or the
error of the bare length.  Only the storage itself can be at fault. -/
theorem growth_ends_on_any_storage {σ : Type} (storage : Slots σ) (limit : Nat)
    (config : Config) (header : Header) {length : Nat} (state : σ)
    (hgrows : header.reserved < length)
    (hword : length < UInt64.size) :
    let r : Reservation := { header := header, config := config }
    let growth := storage.growFor limit r length state
    (storage.Faultless → growth.faults = []) ∧
      ∃ refused last, ConsistsOf storage limit r length state refused last growth := by
  intro r growth
  rcases Reservation.exists_tries storage limit r length
    (config.recommended length - length) state
    with ⟨refused, last, htries⟩
  refine ⟨?_, refused, last, htries.consistsOf hgrows hword⟩
  intro hfaultless
  exact Reservation.faults_growFor hfaultless limit r state hword

/-- A storage that grants its third request, whatever the size. -/
theorem growth_ends_on_a_storage_that_refuses_twice :
    let storage : Slots Nat :=
      { grow := fun _ _ asked => pure (decide (asked = 2), asked + 1)
        shrink := fun _ asked => pure asked }
    let r : Reservation := { header := .unreserved 4, config := {} }
    let growth := storage.growFor 0 r 1 0
    r.header.reserved < 1 ∧ 1 < UInt64.size ∧ storage.Faultless ∧ growth.faults = [] ∧
      (∃ refused last, ConsistsOf storage 0 r 1 0 refused last growth) ∧
      growth.value.state = 3 ∧
      growth.events = [.backingOff 1 7, .backingOff 1 3, .grown 0 4 48] := by
  intro storage r growth
  have hgrows : r.header.reserved < 1 := by decide
  have hword : 1 < UInt64.size := by decide
  have hfaultless : storage.Faultless := fun _ _ _ => rfl
  have hstate : growth.value.state = 3 := by cbv
  have hevents : growth.events = [.backingOff 1 7, .backingOff 1 3, .grown 0 4 48] := by cbv
  have hends := growth_ends_on_any_storage storage 0 r.config r.header 0 hgrows hword
  exact ⟨hgrows, hword, hfaultless, hends.left hfaultless, hends.right, hstate, hevents⟩

end BlockBuffer
