import BlockBuffer.Proofs.Reservation.Validity
import BlockBuffer.Reservation.Growth
import Mathlib.Data.List.Chain
import Mathlib.Data.Nat.Size

/-!
# Trials on any storage

Nothing is assumed here of the storage: it may grant some slots and refuse fewer, and what it
answers may depend on what it was asked before.  A growth is then a row of trials, each of
which finds the storage as the one before left it.  The slack is halved after every refusal, so
there are no more trials than the slack has binary digits, and one.  `Tries.backOff_eq` says
what the growth makes of its trials, and what a growth can do on one kind of storage is read
off it.
-/

namespace BlockBuffer

def Attempt.grown {σ : Type} (attempt : Attempt σ) : Result Reservation :=
  attempt.result.map fun _ => attempt.reservation

/-!
## One attempt
-/

namespace Reservation

variable {σ : Type} {r : Reservation}

/-- The bytes that a refusal of so many slots reports: the greatest word if they are none. -/
def demand (r : Reservation) (slots : Nat) : Nat :=
  min (slots * r.header.elementSize + headerSize) Word.top

theorem growTo_of_admits (storage : Slots σ) (limit : Nat) {slots : Nat} (state : σ)
    (h : r.Admits slots) :
    storage.growTo limit r slots state = (do
      let answer ← storage.grow limit slots state
      if answer.1 then do
        Traced.emit (.grown r.header.reserved slots
          (slots * r.header.elementSize + headerSize))
        pure { result := .ok (), reservation := r.withSlots slots, state := answer.2 }
      else
        pure { result := .error (.allocation (r.demand slots)),
               reservation := r,
               state := answer.2 }) := by
  have hdemand : r.demand slots = slots * r.header.elementSize + headerSize :=
    Nat.min_eq_left (Word.le_top_iff_lt.mpr h.left)
  unfold Slots.growTo
  rw [Header.bytesFor_eq, if_pos h.left]
  simp only [h.right, Bool.false_eq_true, if_false]
  rw [hdemand]
  rfl

theorem growTo_of_not_admits (storage : Slots σ) (limit : Nat) {slots : Nat} (state : σ)
    (h : ¬ r.Admits slots) :
    storage.growTo limit r slots state =
      pure { result := .error (.allocation (r.demand slots)),
             reservation := r, state := state } := by
  unfold Slots.growTo demand
  rw [Header.bytesFor_eq]
  rcases Nat.lt_or_ge (slots * r.header.elementSize + headerSize) Word.limit with hfits | hfits
  · have hexceeds : r.config.exceeds (slots * r.header.elementSize + headerSize) = true := by
      rw [← Bool.not_eq_false]
      intro hbelow
      exact h ⟨hfits, hbelow⟩
    rw [if_pos hfits, Nat.min_eq_left (Word.le_top_iff_lt.mpr hfits)]
    simp only [hexceeds, if_true]
  · have hle : Word.top ≤ slots * r.header.elementSize + headerSize :=
      Nat.le_trans (Nat.sub_le _ _) hfits
    rw [if_neg (Nat.not_lt_of_le hfits), Nat.min_eq_right hle]

end Reservation

/-- A request for slots, to storage that remembers what came before it. -/
structure Trial (σ : Type) where
  slots : Nat
  state : σ

namespace Trial

variable {σ : Type} {storage : Slots σ} {limit : Nat} {r : Reservation} {trial : Trial σ}

/-- Whether the reservation lets so many slots through to the storage, and the storage grants
them. -/
def Admitted (storage : Slots σ) (limit : Nat) (r : Reservation) (trial : Trial σ) : Prop :=
  r.Admits trial.slots ∧ (storage.grow limit trial.slots trial.state).value.1 = true

def attempt (storage : Slots σ) (limit : Nat) (r : Reservation)
    (trial : Trial σ) : Attempt σ :=
  (storage.growTo limit r trial.slots trial.state).value

def faults (storage : Slots σ) (limit : Nat) (r : Reservation)
    (trial : Trial σ) : List Fault :=
  (storage.growTo limit r trial.slots trial.state).faults

theorem growTo_eq {events : List Event}
    (h : (storage.growTo limit r trial.slots trial.state).events = events) :
    storage.growTo limit r trial.slots trial.state =
      { value := trial.attempt storage limit r
        events := events
        faults := trial.faults storage limit r } := by
  rw [← h]
  rfl

/-- An attempt has the faults of the storage, and none of its own. -/
theorem faults_eq_nil (trial : Trial σ)
    (h : (storage.grow limit trial.slots trial.state).faults = []) :
    trial.faults storage limit r = [] := by
  unfold faults
  by_cases hadmits : r.Admits trial.slots
  · rw [Reservation.growTo_of_admits storage limit trial.state hadmits, Traced.faults_bind, h]
    split
    · rfl
    · rfl
  · rw [Reservation.growTo_of_not_admits storage limit trial.state hadmits]
    rfl

/-- What an admitted trial leaves. -/
theorem attempt_of_admitted (h : trial.Admitted storage limit r) :
    (storage.growTo limit r trial.slots trial.state).events =
        [.grown r.header.reserved trial.slots
          (trial.slots * r.header.elementSize + headerSize)] ∧
      (trial.attempt storage limit r).result = .ok () ∧
      (trial.attempt storage limit r).reservation = r.withSlots trial.slots := by
  unfold attempt
  rw [Reservation.growTo_of_admits storage limit trial.state h.left, Traced.events_bind,
    storage.events_grow, Traced.value_bind, if_pos h.right]
  exact ⟨rfl, rfl, rfl⟩

/-- A trial that is not admitted leaves the reservation as it was. -/
theorem attempt_of_not_admitted (h : ¬ trial.Admitted storage limit r) :
    (storage.growTo limit r trial.slots trial.state).events = [] ∧
      (trial.attempt storage limit r).result = .error (.allocation (r.demand trial.slots)) ∧
      (trial.attempt storage limit r).reservation = r := by
  unfold attempt
  by_cases hadmits : r.Admits trial.slots
  · have hrefused : ¬ (storage.grow limit trial.slots trial.state).value.1 = true :=
      fun hgranted => h ⟨hadmits, hgranted⟩
    rw [Reservation.growTo_of_admits storage limit trial.state hadmits, Traced.events_bind,
      storage.events_grow, Traced.value_bind, if_neg hrefused]
    exact ⟨rfl, rfl, rfl⟩
  · rw [Reservation.growTo_of_not_admits storage limit trial.state hadmits]
    exact ⟨rfl, rfl, rfl⟩

theorem grown_of_admitted (h : trial.Admitted storage limit r) :
    (trial.attempt storage limit r).grown = .ok (r.withSlots trial.slots) := by
  rcases attempt_of_admitted h with ⟨_, hresult, hgrown⟩
  unfold Attempt.grown
  rw [hresult, hgrown]
  rfl

theorem grown_of_not_admitted (h : ¬ trial.Admitted storage limit r) :
    (trial.attempt storage limit r).grown = .error (.allocation (r.demand trial.slots)) := by
  unfold Attempt.grown
  rw [(attempt_of_not_admitted h).right.left]
  rfl

end Trial

namespace Reservation

variable {σ : Type} {storage : Slots σ} {limit : Nat} {r : Reservation} {length slack : Nat}
  {state : σ} {refused : List (Trial σ)} {last : Trial σ}

/-- The trials for `length` slots and no more than `slack` others: first those after which the
slack was halved, then the last one.  That one is admitted, or it is for the bare length. -/
inductive Tries (storage : Slots σ) (limit : Nat) (r : Reservation) (length : Nat) :
    Nat → σ → List (Trial σ) → Trial σ → Prop where
  | admitted {slack : Nat} {state : σ} :
      Trial.Admitted storage limit r ⟨length + slack, state⟩ →
      Tries storage limit r length slack state [] ⟨length + slack, state⟩
  | exhausted {state : σ} :
      ¬ Trial.Admitted storage limit r ⟨length, state⟩ →
      Tries storage limit r length 0 state [] ⟨length, state⟩
  | halved {slack : Nat} {state : σ} {refused : List (Trial σ)} {last : Trial σ} :
      slack ≠ 0 →
      ¬ Trial.Admitted storage limit r ⟨length + slack, state⟩ →
      Tries storage limit r length (slack / 2)
        (Trial.attempt storage limit r ⟨length + slack, state⟩).state refused last →
      Tries storage limit r length slack state (⟨length + slack, state⟩ :: refused) last

theorem exists_tries (storage : Slots σ) (limit : Nat) (r : Reservation) (length slack : Nat)
    (state : σ) :
    ∃ refused last, Tries storage limit r length slack state refused last := by
  induction slack using Nat.strongRecOn generalizing state with
  | ind slack ih =>
      by_cases hadmitted : Trial.Admitted storage limit r ⟨length + slack, state⟩
      · exact ⟨_, _, .admitted hadmitted⟩
      · by_cases hslack : slack = 0
        · subst hslack
          exact ⟨_, _, .exhausted hadmitted⟩
        · have hhalf : slack / 2 < slack :=
            Nat.div_lt_self (Nat.pos_of_ne_zero hslack) Nat.one_lt_two
          rcases ih (slack / 2) hhalf
            (Trial.attempt storage limit r ⟨length + slack, state⟩).state
          with ⟨refused, last, htries⟩
          exact ⟨_, _, .halved hslack hadmitted htries⟩

/-!
## The slots of the trials
-/

theorem size_half_lt (hslack : slack ≠ 0) : (slack / 2).size < slack.size := by
  have hdigits : 0 < slack.size := Nat.size_pos.mpr (Nat.pos_of_ne_zero hslack)
  rcases Nat.exists_eq_succ_of_ne_zero (Nat.ne_of_gt hdigits) with ⟨digits, hsize⟩
  have hbound : slack < 2 ^ (digits + 1) := by
    rw [← Nat.succ_eq_add_one, ← hsize]
    exact Nat.lt_size_self slack
  rw [Nat.pow_succ] at hbound
  rw [hsize]
  exact Nat.lt_succ_of_le (Nat.size_le.mpr (Nat.div_lt_of_lt_mul (by omega)))

namespace Tries

theorem length_le (h : Tries storage limit r length slack state refused last) :
    refused.length ≤ slack.size := by
  induction h with
  | admitted _ => exact Nat.zero_le _
  | exhausted _ => exact Nat.zero_le _
  | halved hslack _ _ ih => exact Nat.lt_of_le_of_lt ih (size_half_lt hslack)

theorem slots_bounds (h : Tries storage limit r length slack state refused last) :
    ∀ trial ∈ refused ++ [last], length ≤ trial.slots ∧ trial.slots ≤ length + slack := by
  induction h with
  | admitted _ =>
      intro trial hmem
      rw [List.mem_singleton.mp hmem]
      exact ⟨Nat.le_add_right _ _, Nat.le_refl _⟩
  | exhausted _ =>
      intro trial hmem
      rw [List.mem_singleton.mp hmem]
      exact ⟨Nat.le_refl _, Nat.le_refl _⟩
  | halved hslack _ _ ih =>
      intro trial hmem
      rcases List.mem_cons.mp hmem with rfl | hlater
      · exact ⟨Nat.le_add_right _ _, Nat.le_refl _⟩
      · have hbounds := ih trial hlater
        exact ⟨hbounds.left,
          Nat.le_trans hbounds.right (Nat.add_le_add_left (Nat.div_le_self _ _) length)⟩

theorem decreasing (h : Tries storage limit r length slack state refused last) :
    (refused ++ [last]).Pairwise fun trial later => later.slots < trial.slots := by
  induction h with
  | admitted _ => exact List.pairwise_singleton _ _
  | exhausted _ => exact List.pairwise_singleton _ _
  | @halved slack state refused last hslack _ hlater ih =>
      rw [List.cons_append, List.pairwise_cons]
      refine ⟨?_, ih⟩
      intro later hmem
      have hhalf : slack / 2 < slack :=
        Nat.div_lt_self (Nat.pos_of_ne_zero hslack) Nat.one_lt_two
      exact Nat.lt_of_le_of_lt (hlater.slots_bounds later hmem).right
        (Nat.add_lt_add_left hhalf length)

/-!
## Their order
-/

theorem first_eq (h : Tries storage limit r length slack state refused last) :
    (refused ++ [last]).head? = some ⟨length + slack, state⟩ := by
  cases h with
  | admitted _ => rfl
  | exhausted _ => rfl
  | halved _ _ _ => rfl

theorem goesOn (h : Tries storage limit r length slack state refused last) :
    (refused ++ [last]).IsChain fun trial next =>
      next = ⟨length + (trial.slots - length) / 2, (trial.attempt storage limit r).state⟩ := by
  induction h with
  | admitted _ => exact .singleton _
  | exhausted _ => exact .singleton _
  | halved _ _ hlater ih =>
      have hfirst := hlater.first_eq
      rw [List.cons_append, List.isChain_cons]
      refine ⟨?_, ih⟩
      intro next hnext
      rw [hfirst] at hnext
      cases hnext
      rw [Nat.add_sub_cancel_left]

theorem not_admitted (h : Tries storage limit r length slack state refused last) :
    ∀ trial ∈ refused, ¬ trial.Admitted storage limit r := by
  induction h with
  | admitted _ =>
      intro trial hmem
      cases hmem
  | exhausted _ =>
      intro trial hmem
      cases hmem
  | halved _ hrefused _ ih =>
      intro trial hmem
      rcases List.mem_cons.mp hmem with rfl | hlater
      · exact hrefused
      · exact ih trial hlater

theorem bare_of_not_admitted (h : Tries storage limit r length slack state refused last)
    (hlast : ¬ last.Admitted storage limit r) : last.slots = length := by
  induction h with
  | admitted hadmitted => exact absurd hadmitted hlast
  | exhausted _ => rfl
  | halved _ _ _ ih => exact ih hlast

end Tries

/-!
## What the growth makes of them
-/

def warning (length : Nat) (trial : Trial σ) : Event :=
  .backingOff length ((trial.slots - length) / 2)

theorem warning_mk (length slack : Nat) (state : σ) :
    warning length ⟨length + slack, state⟩ = .backingOff length (slack / 2) := by
  unfold warning
  rw [Nat.add_sub_cancel_left]

def ending (r : Reservation) (length : Nat) (last : Trial σ) : Result Reservation → Event
  | .ok _ =>
    .grown r.header.reserved last.slots (last.slots * r.header.elementSize + headerSize)
  | .error _ => .growthFailed length r.header.reserved

theorem Tries.backOff_eq (h : Tries storage limit r length slack state refused last)
    (hword : length + slack < Word.limit) :
    storage.backOff limit r length slack state =
      { value := last.attempt storage limit r
        events := refused.map (warning length) ++
          [r.ending length last (last.attempt storage limit r).grown]
        faults := (refused ++ [last]).flatMap (Trial.faults storage limit r) } := by
  induction h with
  | admitted hadmitted =>
      rcases Trial.attempt_of_admitted hadmitted with ⟨hevents, hresult, _⟩
      have hgrow := Trial.growTo_eq hevents
      dsimp only at hgrow
      rw [Slots.backOff, Word.add_of_lt hword, pure_bind, hgrow,
        Trial.grown_of_admitted hadmitted]
      show Traced.bind _ _ = _
      unfold Traced.bind
      dsimp only
      rw [hresult]
      rfl
  | exhausted hrefused =>
      rcases Trial.attempt_of_not_admitted hrefused with ⟨hevents, hresult, hkept⟩
      have hgrow := Trial.growTo_eq hevents
      dsimp only at hgrow
      rw [Slots.backOff, Word.add_of_lt hword, pure_bind, Nat.add_zero, hgrow,
        Trial.grown_of_not_admitted hrefused]
      show Traced.bind _ _ = _
      unfold Traced.bind
      dsimp only
      rw [hresult, hkept]
      rfl
  | @halved slack state refused last hslack hrefused _ ih =>
      rcases Trial.attempt_of_not_admitted hrefused with ⟨hevents, hresult, hkept⟩
      have hgrow := Trial.growTo_eq hevents
      have hless : length + slack / 2 < Word.limit :=
        Nat.lt_of_le_of_lt (Nat.add_le_add_left (Nat.div_le_self _ _) length) hword
      dsimp only at hgrow
      rw [Slots.backOff, Word.add_of_lt hword, pure_bind, hgrow]
      show Traced.bind _ _ = _
      unfold Traced.bind
      dsimp only
      -- The error of this trial is dropped; only what the storage remembers of it goes on.
      rw [hresult, hkept]
      simp only [hslack, if_false]
      rw [ih hless, List.map_cons, warning_mk]
      rfl

end Reservation
end BlockBuffer
