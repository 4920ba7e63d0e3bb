import BlockBuffer.Buffer.Command
import BlockBuffer.ByteBuffer.Command
import BlockBuffer.Proofs.Reservation.Growth

/-!
# Runs against a machine on lists

Both kinds of buffer carry out commands one after the other, each on a heap with a limit of its
own.  A machine on lists knows no heaps: with each command it is told whether the storage that
the command may ask for is refused, and how many bytes the refusal reports.  If each step of a
buffer follows the machine for some such answer, then so does each run, for some sequence of
answers.
-/

namespace BlockBuffer

section Runs

variable {σ τ κ ρ ν : Type}

/-- Carries out commands in a row on a machine, each with what is refused to it. -/
def replay (machine : Option Nat → τ → κ → Outcome τ ρ) :
    List (Option Nat × κ) → τ → Outcome τ (List ρ)
  | [], state => { result := [], state := state }
  | (refusal, command) :: rest, state =>
      let first := machine refusal state command
      let later := replay machine rest first.state
      { result := first.result :: later.result, state := later.state }

/-- A computation without faults that answers as the machine does and leaves a related state.
-/
structure Follows (related : σ → τ → Prop) (x : Traced (Outcome σ ρ))
    (y : Outcome τ ρ) : Prop where
  faults_eq : x.faults = []
  result_eq : x.value.result = y.result
  state_related : related x.value.state y.state

variable {related agree : σ → τ → Prop}

theorem Follows.imp {x : Traced (Outcome σ ρ)} {y : Outcome τ ρ} (h : Follows related x y)
    (hagree : ∀ {state other}, related state other → agree state other) :
    Follows agree x y where
  faults_eq := h.faults_eq
  result_eq := h.result_eq
  state_related := hagree h.state_related

theorem Follows.map {x : Traced (Outcome σ ρ)} {y : Outcome τ ρ} (h : Follows related x y)
    (f : ρ → ν) : Follows related (Outcome.map f <$> x) (y.map f) where
  faults_eq := by rw [Traced.faults_map, h.faults_eq]
  result_eq := congrArg f h.result_eq
  state_related := h.state_related

theorem Follows.pure {state : σ} {other : τ} (h : related state other) (result : ρ) :
    Follows related (pure { result := result, state := state })
      { result := result, state := other } where
  faults_eq := rfl
  result_eq := rfl
  state_related := h

theorem Follows.bind {x : Traced ν} {f : ν → Traced (Outcome σ ρ)} {y : Outcome τ ρ}
    (hx : x.faults = []) (h : Follows related (f x.value) y) :
    Follows related (x >>= f) y where
  faults_eq := by rw [Traced.faults_bind, hx, h.faults_eq, List.append_nil]
  result_eq := h.result_eq
  state_related := h.state_related

/-- A step that starts with a growth is told what is refused to it by the end of the growth. -/
theorem Follows.growth {r : Reservation} {length : Nat} {x : Traced (Result Reservation)}
    {f : Result Reservation → Traced (Outcome σ ρ)} {y : Option Nat → Outcome τ ρ}
    (hfaults : x.faults = []) (hx : r.Suffices length x.value)
    (hrefused : Follows related (f (.error (.allocation (r.demand length))))
      (y (some (r.demand length))))
    (henough : ∀ slots, length ≤ slots → (r.withSlots slots).Valid →
      Follows related (f (.ok (r.withSlots slots))) (y none)) :
    ∃ refusal, Follows related (x >>= f) (y refusal) := by
  generalize hresult : x.value = result at hx
  cases hx with
  | refused =>
      refine ⟨some (r.demand length), Follows.bind hfaults ?_⟩
      rw [hresult]
      exact hrefused
  | enough hslots hvalid =>
      refine ⟨none, Follows.bind hfaults ?_⟩
      rw [hresult]
      exact henough _ hslots hvalid

theorem Follows.cons {x : Traced (Outcome σ ρ)} {first : Outcome τ ρ}
    {later : σ → Traced (Outcome σ (List ρ))} {rest : Outcome τ (List ρ)}
    (hfirst : Follows related x first) (hrest : Follows related (later x.value.state) rest) :
    Follows related
      (do
        let step ← x
        let steps ← later step.state
        Pure.pure { result := step.result :: steps.result, state := steps.state })
      { result := first.result :: rest.result, state := rest.state } where
  faults_eq := by
    rw [Traced.faults_bind, Traced.faults_bind, hfirst.faults_eq, hrest.faults_eq]
    rfl
  result_eq := by
    show x.value.result :: (later x.value.state).value.result = _
    rw [hfirst.result_eq, hrest.result_eq]
  state_related := hrest.state_related

theorem runAll_follows {step : Nat → σ → κ → Traced (Outcome σ ρ)}
    {machine : Option Nat → τ → κ → Outcome τ ρ}
    (hstep : ∀ limit state other command, related state other →
      ∃ refusal, Follows related (step limit state command) (machine refusal other command))
    (commands : List (Nat × κ)) {state : σ} {other : τ} (h : related state other) :
    ∃ refusals : List (Option Nat), refusals.length = commands.length ∧
      ∀ moment, Follows related (runAll step (commands.take moment) state)
        (replay machine ((refusals.zip (commands.map Prod.snd)).take moment) other) := by
  induction commands generalizing state other with
  | nil =>
      refine ⟨[], rfl, ?_⟩
      intro moment
      rw [List.take_nil, List.zip_nil_left, List.take_nil]
      exact Follows.pure h []
  | cons entry rest ih =>
      rcases entry with ⟨limit, command⟩
      -- What the later commands are refused depends on the state that this one leaves.
      rcases hstep limit state other command h with ⟨refusal, hfirst⟩
      rcases ih hfirst.state_related with ⟨refusals, hlength, hlater⟩
      refine ⟨refusal :: refusals, congrArg Nat.succ hlength, ?_⟩
      intro moment
      cases moment with
      | zero => exact Follows.pure h []
      | succ moment =>
          rw [List.map_cons, List.zip_cons_cons, List.take_succ_cons, List.take_succ_cons]
          exact hfirst.cons (hlater moment)

/-- Every run from a state follows the machine from another one, and at every moment the two
states agree. -/
def ActsAs (step : Nat → σ → κ → Traced (Outcome σ ρ))
    (machine : Option Nat → τ → κ → Outcome τ ρ) (agree : σ → τ → Prop) (state : σ)
    (other : τ) : Prop :=
  ∀ commands : List (Nat × κ), ∃ refusals : List (Option Nat),
    refusals.length = commands.length ∧
    ∀ moment, Follows agree (runAll step (commands.take moment) state)
      (replay machine ((refusals.zip (commands.map Prod.snd)).take moment) other)

theorem actsAs_of_steps {step : Nat → σ → κ → Traced (Outcome σ ρ)}
    {machine : Option Nat → τ → κ → Outcome τ ρ}
    (hstep : ∀ limit state other command, related state other →
      ∃ refusal, Follows related (step limit state command) (machine refusal other command))
    (hagree : ∀ {state other}, related state other → agree state other) {state : σ} {other : τ}
    (h : related state other) : ActsAs step machine agree state other := by
  intro commands
  rcases runAll_follows hstep commands h with ⟨refusals, hlength, hfollows⟩
  exact ⟨refusals, hlength, fun moment => (hfollows moment).imp hagree⟩

end Runs

end BlockBuffer
