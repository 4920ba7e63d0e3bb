import BlockBuffer.Outcome
import BlockBuffer.Traced

/-!
# Runs

A run is a sequence of commands, each on a heap with a limit of its own, and goes on after
refusals.
-/

namespace BlockBuffer

variable {σ κ ρ : Type}

def runAll (step : Nat → σ → κ → Traced (Outcome σ ρ)) :
    List (Nat × κ) → σ → Traced (Outcome σ (List ρ))
  | [], state => pure { result := [], state := state }
  | (limit, command) :: rest, state => do
      let first ← step limit state command
      let later ← runAll step rest first.state
      pure { result := first.result :: later.result, state := later.state }

theorem events_runAll_cons (step : Nat → σ → κ → Traced (Outcome σ ρ)) (limit : Nat)
    (command : κ) (rest : List (Nat × κ)) (state : σ) :
    (runAll step ((limit, command) :: rest) state).events =
      (step limit state command).events ++
        (runAll step rest (step limit state command).value.state).events := by
  rw [runAll, Traced.events_bind, Traced.events_bind, Traced.events_pure, List.append_nil]

theorem faults_runAll_cons (step : Nat → σ → κ → Traced (Outcome σ ρ)) (limit : Nat)
    (command : κ) (rest : List (Nat × κ)) (state : σ) :
    (runAll step ((limit, command) :: rest) state).faults =
      (step limit state command).faults ++
        (runAll step rest (step limit state command).value.state).faults := by
  rw [runAll, Traced.faults_bind, Traced.faults_bind, Traced.faults_pure, List.append_nil]

/-- A run goes on where the commands before it end. -/
theorem state_runAll_append (step : Nat → σ → κ → Traced (Outcome σ ρ))
    (first later : List (Nat × κ)) (state : σ) :
    (runAll step (first ++ later) state).value.state =
      (runAll step later (runAll step first state).value.state).value.state := by
  induction first generalizing state with
  | nil => rfl
  | cons entry rest ih => exact ih _

end BlockBuffer
