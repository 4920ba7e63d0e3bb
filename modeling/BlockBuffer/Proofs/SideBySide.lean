import BlockBuffer.Proofs.Histories
import Mathlib.Data.List.Forall2

/-!
# Histories side by side

Two runs on the same heaps are compared entry by entry.  If related states are left related by
every allowed pair of commands, then whatever holds of such a pair holds all along the two
histories.  The commands of a pair need not be the same, nor even commands of the same machine.
-/

namespace BlockBuffer

section SideBySide

variable {σ τ κ μ ρ ν : Type} {left : Nat → σ → κ → Traced (Outcome σ ρ)}
  {right : Nat → τ → μ → Traced (Outcome τ ν)}

theorem forall₂_history (related : σ → τ → Prop)
    {allowed holds : Entry σ κ ρ → Entry τ μ ν → Prop}
    (hstep : ∀ limit {state state'} command command', related state state' →
      let entry : Entry σ κ ρ :=
        { before := state, command := command, step := left limit state command }
      let entry' : Entry τ μ ν :=
        { before := state', command := command', step := right limit state' command' }
      allowed entry entry' → holds entry entry' ∧ related entry.after entry'.after)
    {commands : List (Nat × κ)} {commands' : List (Nat × μ)} {state : σ} {state' : τ}
    (hlimits : commands.map Prod.fst = commands'.map Prod.fst) (h : related state state')
    (hallowed : List.Forall₂ allowed (history left commands state)
      (history right commands' state')) :
    List.Forall₂ holds (history left commands state) (history right commands' state') := by
  induction commands generalizing commands' state state' with
  | nil =>
      cases commands' with
      | nil => exact .nil
      | cons _ _ => cases hlimits
  | cons entry rest ih =>
      cases commands' with
      | nil => cases hlimits
      | cons entry' rest' =>
          rcases entry with ⟨limit, command⟩
          rcases entry' with ⟨limit', command'⟩
          rcases List.cons.inj hlimits with ⟨hlimit, hlater⟩
          change limit = limit' at hlimit
          subst hlimit
          cases hallowed with
          | cons hfirst hrest =>
              rcases hstep limit command command' h hfirst with ⟨hholds, hrelated⟩
              exact .cons hholds (ih hlater hrelated hrest)

/-- Runs of the same commands, on machines whose answers may differ, have the same commands in
their histories. -/
theorem forall₂_command_eq {right : Nat → τ → κ → Traced (Outcome τ ν)}
    (commands : List (Nat × κ)) (state : σ) (state' : τ) :
    List.Forall₂ (fun entry entry' => entry'.command = entry.command)
      (history left commands state) (history right commands state') := by
  induction commands generalizing state state' with
  | nil => exact .nil
  | cons entry rest ih => exact .cons rfl (ih _ _)

end SideBySide

end BlockBuffer
