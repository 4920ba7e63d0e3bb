import BlockBuffer.Proofs.Runs

/-!
# Histories

The history of a run has an entry for each command, with the state that the command met and
with what it did there.  What a run comes to is read off its history from left to right, and
what every step keeps holds at its end.
-/

namespace BlockBuffer

/-- A command in a run, with the state that it met and what it did. -/
structure Entry (σ κ ρ : Type) where
  before : σ
  command : κ
  step : Traced (Outcome σ ρ)

namespace Entry

variable {σ κ ρ : Type}

def reply (entry : Entry σ κ ρ) : ρ :=
  entry.step.value.result

def after (entry : Entry σ κ ρ) : σ :=
  entry.step.value.state

end Entry

section Histories

variable {σ κ ρ τ : Type} {step : Nat → σ → κ → Traced (Outcome σ ρ)}

def history (step : Nat → σ → κ → Traced (Outcome σ ρ)) :
    List (Nat × κ) → σ → List (Entry σ κ ρ)
  | [], _ => []
  | (limit, command) :: rest, state =>
      let entry : Entry σ κ ρ :=
        { before := state, command := command, step := step limit state command }
      entry :: history step rest entry.after

theorem history_take (commands : List (Nat × κ)) (state : σ) (count : Nat) :
    history step (commands.take count) state = (history step commands state).take count := by
  induction commands generalizing state count with
  | nil =>
      rw [List.take_nil, history, List.take_nil]
  | cons entry rest ih =>
      cases count with
      | zero => rfl
      | succ count => exact congrArg (List.cons _) (ih _ count)

theorem exists_mem_of_mem_history {commands : List (Nat × κ)} {state : σ} {entry : Entry σ κ ρ}
    (h : entry ∈ history step commands state) :
    ∃ limit, (limit, entry.command) ∈ commands := by
  induction commands generalizing state with
  | nil => cases h
  | cons first rest ih =>
      rcases List.mem_cons.mp h with rfl | hlater
      · exact ⟨first.1, List.mem_cons_self⟩
      · rcases ih hlater with ⟨limit, hmem⟩
        exact ⟨limit, List.mem_cons_of_mem _ hmem⟩

/-- What holds of every allowed step from a good state holds of every entry, if the steps leave
good states. -/
theorem forall_mem_history (good : σ → Prop) {allowed holds : Entry σ κ ρ → Prop}
    (hstep : ∀ limit state command, good state →
      allowed { before := state, command := command, step := step limit state command } →
      holds { before := state, command := command, step := step limit state command } ∧
        good (step limit state command).value.state)
    (commands : List (Nat × κ)) {state : σ} (h : good state)
    (hallowed : ∀ entry ∈ history step commands state, allowed entry) :
    ∀ entry ∈ history step commands state, holds entry := by
  induction commands generalizing state with
  | nil => exact List.forall_mem_nil _
  | cons entry rest ih =>
      rcases entry with ⟨limit, command⟩
      rcases List.forall_mem_cons.mp hallowed with ⟨hfirst, hlater⟩
      rcases hstep limit state command h hfirst with ⟨hholds, hgood⟩
      exact List.forall_mem_cons.mpr ⟨hholds, ih hgood hlater⟩

/-- What is noted along a run stays related to the state, if every step keeps it so. -/
theorem runAll_notes {good : Entry σ κ ρ → Prop} {related : σ → τ → Prop}
    {note : τ → Entry σ κ ρ → τ}
    (hstep : ∀ limit state seen command,
      let entry : Entry σ κ ρ :=
        { before := state, command := command, step := step limit state command }
      good entry → related state seen → related entry.after (note seen entry))
    (commands : List (Nat × κ)) {state : σ} {seen : τ} (h : related state seen)
    (hgood : ∀ entry ∈ history step commands state, good entry) :
    related (runAll step commands state).value.state
      ((history step commands state).foldl note seen) := by
  induction commands generalizing state seen with
  | nil => exact h
  | cons entry rest ih =>
      rcases entry with ⟨limit, command⟩
      rcases List.forall_mem_cons.mp hgood with ⟨hfirst, hlater⟩
      exact ih (hstep limit state seen command hfirst h) hlater

end Histories

end BlockBuffer
