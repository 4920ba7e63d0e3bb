import BlockBuffer.Proofs.Runs

/-!
# Paired computations

Two computations are paired when neither meets a fault, their values are related, and their
logs are related by a relation that holds of whole logs when it holds of their parts.  Pairs of
computations in a row are paired again, so runs are paired as soon as single commands are.
-/

namespace BlockBuffer

/-- A relation of logs that can be read part by part. -/
structure PartByPart (logs : List Event → List Event → Prop) : Prop where
  refl : ∀ events, logs events events
  append : ∀ {first first' later later'}, logs first first' → logs later later' →
    logs (first ++ later) (first' ++ later')

theorem partByPart_eq : PartByPart Eq where
  refl _ := rfl
  append hfirst hlater := by rw [hfirst, hlater]

section Paired

variable {α β γ δ σ τ ρ ν κ : Type} {logs : List Event → List Event → Prop}

structure Paired (logs : List Event → List Event → Prop) (related : α → β → Prop)
    (x : Traced α) (y : Traced β) : Prop where
  left_faults : x.faults = []
  right_faults : y.faults = []
  logs : logs x.events y.events
  related : related x.value y.value

theorem Paired.pure {related : α → β → Prop} (hlogs : PartByPart logs) {a : α} {b : β}
    (h : related a b) : Paired logs related (pure a) (pure b) where
  left_faults := rfl
  right_faults := rfl
  logs := hlogs.refl []
  related := h

theorem Paired.emit (hlogs : PartByPart logs) (event : Event) :
    Paired logs (fun _ _ => True) (Traced.emit event) (Traced.emit event) where
  left_faults := rfl
  right_faults := rfl
  logs := hlogs.refl [event]
  related := trivial

theorem Paired.bind {related : α → β → Prop} {related' : γ → δ → Prop}
    (hlogs : PartByPart logs)
    {x : Traced α} {y : Traced β} {f : α → Traced γ} {g : β → Traced δ}
    (hx : Paired logs related x y)
    (h : ∀ a b, related a b → Paired logs related' (f a) (g b)) :
    Paired logs related' (x >>= f) (y >>= g) := by
  have hlater := h _ _ hx.related
  constructor
  · rw [Traced.faults_bind, hx.left_faults, hlater.left_faults]
    rfl
  · rw [Traced.faults_bind, hx.right_faults, hlater.right_faults]
    rfl
  · exact hlogs.append hx.logs hlater.logs
  · exact hlater.related

theorem Paired.emit_pure {related : α → β → Prop} (hlogs : PartByPart logs) (event : Event)
    {a : α} {b : β} (h : related a b) :
    Paired logs related
      (do
        Traced.emit event
        Pure.pure a)
      (do
        Traced.emit event
        Pure.pure b) := by
  apply Paired.bind hlogs (Paired.emit hlogs event)
  intro _ _ _
  exact Paired.pure hlogs h

theorem Paired.of_map_eq (hlogs : PartByPart logs) {x : Traced α} {y : Traced β}
    {f : α → β} (h : y = f <$> x) (hfaults : x.faults = []) :
    Paired logs (fun a b => a = x.value ∧ b = f a) x y := by
  subst h
  constructor
  · exact hfaults
  · rw [Traced.faults_map, hfaults]
  · rw [Traced.events_map]
    exact hlogs.refl _
  · exact ⟨rfl, rfl⟩

theorem Paired.imp {related related' : α → β → Prop} {x : Traced α} {y : Traced β}
    (h : Paired logs related x y) (himp : ∀ a b, related a b → related' a b) :
    Paired logs related' x y :=
  ⟨h.left_faults, h.right_faults, h.logs, himp _ _ h.related⟩

/-- What is related to the second value is the first value itself. -/
theorem Paired.of_value {related : α → β → Prop} {x : Traced α} {y : Traced β}
    (h : Paired logs related x y) : Paired logs (fun a b => a = x.value ∧ related a b) x y :=
  ⟨h.left_faults, h.right_faults, h.logs, rfl, h.related⟩

structure SameAnswer (related : σ → τ → Prop) (left : Outcome σ ρ) (right : Outcome τ ρ) :
    Prop where
  result_eq : left.result = right.result
  state_related : related left.state right.state

theorem Paired.map {related : σ → τ → Prop} {x : Traced (Outcome σ ρ)}
    {y : Traced (Outcome τ ρ)} (h : Paired logs (SameAnswer related) x y) (f : ρ → ν) :
    Paired logs (SameAnswer related) (Outcome.map f <$> x) (Outcome.map f <$> y) where
  left_faults := by rw [Traced.faults_map, h.left_faults]
  right_faults := by rw [Traced.faults_map, h.right_faults]
  logs := by
    rw [Traced.events_map, Traced.events_map]
    exact h.logs
  related := ⟨congrArg f h.related.result_eq, h.related.state_related⟩

theorem runAll_paired {related : σ → τ → Prop} {limits : Nat → Nat}
    {left : Nat → σ → κ → Traced (Outcome σ ρ)} {right : Nat → τ → κ → Traced (Outcome τ ρ)}
    (hlogs : PartByPart logs)
    (hstep : ∀ limit state state' command, related state state' →
      Paired logs (SameAnswer related) (left limit state command)
        (right (limits limit) state' command))
    (commands : List (Nat × κ)) {state : σ} {state' : τ} (h : related state state') :
    Paired logs (SameAnswer related) (runAll left commands state)
      (runAll right (commands.map (Prod.map limits id)) state') := by
  induction commands generalizing state state' with
  | nil => exact Paired.pure hlogs ⟨rfl, h⟩
  | cons entry rest ih =>
      rcases entry with ⟨limit, command⟩
      apply Paired.bind hlogs (hstep limit state state' command h)
      intro first first' hfirst
      apply Paired.bind hlogs (ih hfirst.state_related)
      intro later later' hlater
      apply Paired.pure hlogs
      refine ⟨?_, hlater.state_related⟩
      show first.result :: later.result = first'.result :: later'.result
      rw [hfirst.result_eq, hlater.result_eq]

end Paired

end BlockBuffer
