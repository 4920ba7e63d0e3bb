import BlockBuffer.Proofs.Runs

/-!
# Computations in lockstep

Two computations that leave related states and agree in their answers may differ in what they
log about themselves.  What a reservation logs is the same in both, since both ask the same
reservation.
-/

namespace BlockBuffer

/-- The events that a reservation logs, whatever kind of buffer it belongs to. -/
def Event.ofReservation : Event → Bool
  | .grown .. => true
  | .shrunk .. => true
  | .backingOff .. => true
  | .growthFailed .. => true
  | .ready .. => false
  | .compacted .. => false
  | .destroyed .. => false

theorem Event.ofReservation_of_warn {event : Event} (h : event.level = .warn) :
    event.ofReservation = true := by
  cases event with
  | backingOff _ _ => rfl
  | growthFailed _ _ => rfl
  | _ => cases h

def Traced.reservationEvents {α : Type} (x : Traced α) : List Event :=
  x.events.filter Event.ofReservation

theorem Traced.reservationEvents_bind {α β : Type} (x : Traced α) (f : α → Traced β) :
    (x >>= f).reservationEvents = x.reservationEvents ++ (f x.value).reservationEvents := by
  unfold reservationEvents
  rw [Traced.events_bind, List.filter_append]

/-- Answers to commands in a row, in two runs that agree at each of them. -/
inductive AllAgree {κ ρ ν : Type} (agree : κ → ρ → ν → Prop) :
    List κ → List ρ → List ν → Prop where
  | nil : AllAgree agree [] [] []
  | cons {command : κ} {left : ρ} {right : ν} {commands : List κ} {lefts : List ρ}
      {rights : List ν} :
      agree command left right → AllAgree agree commands lefts rights →
        AllAgree agree (command :: commands) (left :: lefts) (right :: rights)

section Lockstep

variable {σ τ ρ ρ' ν ν' ι κ : Type} {related : σ → τ → Prop} {agree : ρ → ν → Prop}

/-- Two computations without faults that log the same of their reservations, agree in their
answers and leave related states. -/
structure Lockstep (related : σ → τ → Prop) (agree : ρ → ν → Prop) (x : Traced (Outcome σ ρ))
    (y : Traced (Outcome τ ν)) : Prop where
  left_faults : x.faults = []
  right_faults : y.faults = []
  events_eq : x.reservationEvents = y.reservationEvents
  agree : agree x.value.result y.value.result
  state_related : related x.value.state y.value.state

theorem Lockstep.pure {left : σ} {right : τ} {answer : ρ} {answer' : ν}
    (hstate : related left right) (hagree : agree answer answer') :
    Lockstep related agree (pure { result := answer, state := left })
      (pure { result := answer', state := right }) where
  left_faults := rfl
  right_faults := rfl
  events_eq := rfl
  agree := hagree
  state_related := hstate

theorem Lockstep.bind {x : Traced ι} {f : ι → Traced (Outcome σ ρ)}
    {g : ι → Traced (Outcome τ ν)} (hx : x.faults = [])
    (h : Lockstep related agree (f x.value) (g x.value)) :
    Lockstep related agree (x >>= f) (x >>= g) where
  left_faults := by rw [Traced.faults_bind, hx, h.left_faults, List.append_nil]
  right_faults := by rw [Traced.faults_bind, hx, h.right_faults, List.append_nil]
  events_eq := by
    rw [Traced.reservationEvents_bind, Traced.reservationEvents_bind, h.events_eq]
  agree := h.agree
  state_related := h.state_related

theorem Lockstep.growth {r : Reservation} {length : Nat} {x : Traced (Result Reservation)}
    {f : Result Reservation → Traced (Outcome σ ρ)}
    {g : Result Reservation → Traced (Outcome τ ν)} (hfaults : x.faults = [])
    (hx : r.Suffices length x.value)
    (hrefused : ∀ error, Lockstep related agree (f (.error error)) (g (.error error)))
    (henough : ∀ slots, length ≤ slots → (r.withSlots slots).Valid →
      Lockstep related agree (f (.ok (r.withSlots slots))) (g (.ok (r.withSlots slots)))) :
    Lockstep related agree (x >>= f) (x >>= g) := by
  apply Lockstep.bind hfaults
  generalize x.value = result at hx ⊢
  cases hx with
  | refused => exact hrefused _
  | enough hslots hvalid => exact henough _ hslots hvalid

/-- Each computation may log that something was done to its own kind of buffer. -/
theorem Lockstep.emit {left right : Event} {x : Traced (Outcome σ ρ)}
    {y : Traced (Outcome τ ν)} (hleft : left.ofReservation = false)
    (hright : right.ofReservation = false)
    (h : Lockstep related agree x y) :
    Lockstep related agree (Traced.emit left >>= fun _ => x)
      (Traced.emit right >>= fun _ => y) where
  left_faults := h.left_faults
  right_faults := h.right_faults
  events_eq := by
    have hnone : ∀ event : Event, event.ofReservation = false →
        (Traced.emit event).reservationEvents = [] := by
      intro event hevent
      simp [Traced.reservationEvents, hevent]
    rw [Traced.reservationEvents_bind, Traced.reservationEvents_bind, hnone left hleft,
      hnone right hright, h.events_eq]
  agree := h.agree
  state_related := h.state_related

/-- One of them may log more than the other. -/
theorem Lockstep.emit_left {event : Event} {x : Traced (Outcome σ ρ)}
    {y : Traced (Outcome τ ν)} (hevent : event.ofReservation = false)
    (h : Lockstep related agree x y) :
    Lockstep related agree (Traced.emit event >>= fun _ => x) y where
  left_faults := h.left_faults
  right_faults := h.right_faults
  events_eq := by
    have hnone : (Traced.emit event).reservationEvents = [] := by
      simp [Traced.reservationEvents, hevent]
    rw [Traced.reservationEvents_bind, hnone, h.events_eq]
    rfl
  agree := h.agree
  state_related := h.state_related

theorem Lockstep.mem_left {x : Traced (Outcome σ ρ)} {y : Traced (Outcome τ ν)}
    (h : Lockstep related agree x y) {event : Event} (hmem : event ∈ y.events)
    (hevent : event.ofReservation = true) : event ∈ x.events := by
  have hlogged : event ∈ y.reservationEvents := List.mem_filter.mpr ⟨hmem, hevent⟩
  rw [← h.events_eq] at hlogged
  exact (List.mem_filter.mp hlogged).left

theorem Lockstep.mem_right {x : Traced (Outcome σ ρ)} {y : Traced (Outcome τ ν)}
    (h : Lockstep related agree x y) {event : Event} (hmem : event ∈ x.events)
    (hevent : event.ofReservation = true) : event ∈ y.events := by
  have hlogged : event ∈ x.reservationEvents := List.mem_filter.mpr ⟨hmem, hevent⟩
  rw [h.events_eq] at hlogged
  exact (List.mem_filter.mp hlogged).left

theorem Lockstep.countP_eq {x : Traced (Outcome σ ρ)} {y : Traced (Outcome τ ν)}
    (h : Lockstep related agree x y) {p : Event → Bool}
    (hp : ∀ {event : Event}, p event = true → event.ofReservation = true) :
    x.events.countP p = y.events.countP p := by
  have hboth : (fun event : Event => p event && event.ofReservation) = p := by
    funext event
    cases hevent : p event with
    | false => rfl
    | true => exact hp hevent
  have hlogged := congrArg (List.countP p) h.events_eq
  unfold Traced.reservationEvents at hlogged
  rwa [List.countP_filter, List.countP_filter, hboth] at hlogged

theorem Lockstep.map {agree' : ρ' → ν' → Prop} {x : Traced (Outcome σ ρ)}
    {y : Traced (Outcome τ ν)} {f : ρ → ρ'} {g : ν → ν'} (h : Lockstep related agree x y)
    (hagree : ∀ answer answer', agree answer answer' → agree' (f answer) (g answer')) :
    Lockstep related agree' (Outcome.map f <$> x) (Outcome.map g <$> y) where
  left_faults := by rw [Traced.faults_map, h.left_faults]
  right_faults := by rw [Traced.faults_map, h.right_faults]
  events_eq := by
    unfold Traced.reservationEvents
    rw [Traced.events_map, Traced.events_map]
    exact h.events_eq
  agree := hagree _ _ h.agree
  state_related := h.state_related

theorem Lockstep.imp {agree' : ρ → ν → Prop} {x : Traced (Outcome σ ρ)}
    {y : Traced (Outcome τ ν)} (h : Lockstep related agree x y)
    (hagree : ∀ answer answer', agree answer answer' → agree' answer answer') :
    Lockstep related agree' x y where
  left_faults := h.left_faults
  right_faults := h.right_faults
  events_eq := h.events_eq
  agree := hagree _ _ h.agree
  state_related := h.state_related

theorem Lockstep.map_left {agree' : ρ' → ν → Prop} {x : Traced (Outcome σ ρ)}
    {y : Traced (Outcome τ ν)} {f : ρ → ρ'} (h : Lockstep related agree x y)
    (hagree : ∀ answer answer', agree answer answer' → agree' (f answer) answer') :
    Lockstep related agree' (Outcome.map f <$> x) y := by
  have hmapped := h.map (g := id) hagree
  have hsame : Outcome.map id <$> y = y := id_map y
  rwa [hsame] at hmapped

theorem runAll_lockstep {left : Nat → σ → κ → Traced (Outcome σ ρ)}
    {right : Nat → τ → κ → Traced (Outcome τ ν)} {agree : κ → ρ → ν → Prop}
    (hstep : ∀ limit state state' command, related state state' →
      Lockstep related (agree command) (left limit state command) (right limit state' command))
    (commands : List (Nat × κ)) {state : σ} {state' : τ} (h : related state state') :
    Lockstep related (AllAgree agree (commands.map Prod.snd)) (runAll left commands state)
      (runAll right commands state') := by
  induction commands generalizing state state' with
  | nil => exact Lockstep.pure h .nil
  | cons entry rest ih =>
      rcases entry with ⟨limit, command⟩
      have hfirst := hstep limit state state' command h
      have hlater := ih hfirst.state_related
      unfold runAll
      constructor
      · rw [Traced.faults_bind, Traced.faults_bind, hfirst.left_faults, hlater.left_faults]
        rfl
      · rw [Traced.faults_bind, Traced.faults_bind, hfirst.right_faults, hlater.right_faults]
        rfl
      · simp only [Traced.reservationEvents_bind, hfirst.events_eq, hlater.events_eq]
        rfl
      · exact .cons hfirst.agree hlater.agree
      · exact hlater.state_related

end Lockstep

end BlockBuffer
