import BlockBuffer.Proofs.Buffer.Activities
import BlockBuffer.Proofs.ByteBuffer.Activities

/-!
# What a buffer says of itself

A buffer says at most one thing of itself in a step: that it is ready, that it was compacted,
or that it is gone.  It says so last, and what it says depends on its move alone.  So the whole
log of a step, down to the order of its events, is what the reservation logs with the move and
that one event after it.
-/

namespace BlockBuffer

def Move.announcement (flavour : Flavour) (outcome : Outcome Reservation (Result Unit)) :
    Move → List Event
  | .start elementSize =>
      match outcome.result with
      | .ok _ => [.ready elementSize]
      | .error _ => []
  | .compact => [.compacted flavour outcome.state.header.reserved]
  | .release => [.destroyed flavour]
  | _ => []

namespace Reservation

variable (flavour : Flavour) (limit : Nat) (r : Reservation)

def journal (move : Move) : List Event :=
  (r.play limit move).events ++ move.announcement flavour (r.play limit move).value

theorem journal_compact :
    r.journal flavour limit .compact =
      r.compact.events ++ [.compacted flavour r.compact.value.header.reserved] := by
  rw [journal, play, Traced.events_bind, Traced.events_pure, List.append_nil]
  rfl

theorem journal_release :
    r.journal flavour limit .release = r.release.events ++ [.destroyed flavour] := by
  rw [journal, play, Traced.events_bind, Traced.events_pure, List.append_nil]
  rfl

end Reservation

theorem Activity.Asks.announcement_of_silent {length : Nat} {activity : Activity} {move : Move}
    (h : activity.Asks length move) (hsilent : ∀ event, ¬ activity.Announces event)
    (flavour : Flavour) (outcome : Outcome Reservation (Result Unit)) :
    move.announcement flavour outcome = [] := by
  cases move with
  | start elementSize =>
      have hactivity := h.eq_of_move rfl
      subst hactivity
      exact absurd (.ready elementSize) (hsilent _)
  | compact =>
      have hactivity := h.eq_of_move rfl
      subst hactivity
      exact absurd (.compacted flavour 0) (hsilent _)
  | release =>
      have hactivity := h.eq_of_move rfl
      subst hactivity
      exact absurd (.destroyed flavour) (hsilent _)
  | _ => rfl

/-- A kind of buffer that logs what its moves tell, and nothing else. -/
structure LoggingKind (σ κ ρ : Type) extends ActiveKind σ κ ρ where
  flavour : Flavour
  events_eq : ∀ {state r} limit, keeps state r → ∀ command,
    (step limit state command).events = r.journal flavour limit (move state command)

theorem ActiveKind.journal_of_silent {σ κ ρ : Type} (kind : ActiveKind σ κ ρ) {state : σ}
    {r : Reservation} (hkeeps : kind.keeps state r) (flavour : Flavour) (limit : Nat)
    {command : κ} (hsilent : ∀ event, ¬ (kind.activity command).Announces event) :
    (kind.step limit state command).events =
      r.journal flavour limit (kind.move state command) := by
  have hasks := kind.asks hkeeps command
  unfold Reservation.journal
  rw [hasks.announcement_of_silent hsilent, List.append_nil]
  exact events_of_silent hkeeps limit hsilent

/-!
## Byte buffers
-/

namespace ByteBuffer

variable {config : Config} {buffer : ByteBuffer} {r : Reservation}

theorem init_events (h : Keeps config buffer r) (limit elementSize : Nat) :
    (buffer.init elementSize).events = r.journal .raw limit (.start elementSize) := by
  have hsame : buffer.config = r.config := by
    cases h with
    | uninitialized => rfl
    | initialized _ _ => rfl
  rw [init, Reservation.journal, Reservation.play, hsame]
  cases Reservation.create elementSize r.config with
  | error error => rfl
  | ok fresh => rfl

theorem compact_events (h : Keeps config buffer r) (limit : Nat) :
    buffer.compact.events = r.journal .raw limit (.guarded buffer.initialized .compact) := by
  cases h with
  | uninitialized => rfl
  | initialized _ hcounts =>
      rw [compact_holding hcounts, initialized_holding, Move.guarded,
        Reservation.journal_compact]
      rfl

theorem destroyWith_events (h : Keeps config buffer r) (limit : Nat) (change : InPlace)
    (interruptAt : Option Nat) :
    (buffer.destroyWith change interruptAt).events =
      r.journal .raw limit (.guarded buffer.initialized
        (match (sweep change.edit interruptAt buffer.elements).ending with
        | .completed => .release
        | .interrupted => .keep)) := by
  cases h with
  | uninitialized => rfl
  | @initialized r elements hconfig hcounts =>
      rw [initialized_holding, elements_holding hcounts, Move.guarded]
      cases hending : (sweep change.edit interruptAt elements).ending with
      | interrupted =>
          rw [destroyWith_of_interrupted hcounts hending]
          rfl
      | completed =>
          rw [destroyWith_of_completed hcounts hending, Reservation.journal_release]
          rfl

def loggingKind (config : Config) : LoggingKind ByteBuffer Command Reply where
  toActiveKind := activeKind config
  flavour := .raw
  events_eq limit h command := by
    cases command with
    | init elementSize => exact (Traced.events_map _ _).trans (init_events h limit elementSize)
    | compact => exact (Traced.events_map _ _).trans (compact_events h limit)
    | destroy =>
        have hlogged := destroyWith_events h limit .id none
        rw [sweep_none] at hlogged
        exact (Traced.events_map _ _).trans ((List.append_nil _).trans hlogged)
    | destroyWith change interruptAt =>
        exact (Traced.events_map _ _).trans (destroyWith_events h limit change interruptAt)
    | _ => exact (activeKind config).journal_of_silent h _ limit nofun

end ByteBuffer

/-!
## Buffers of values
-/

namespace Buffer

variable {α : Type} {elementSize : Nat} {config : Config} {buffer : Buffer α} {r : Reservation}

theorem compact_events (h : Keeps elementSize config buffer r) (limit : Nat) :
    buffer.compact.events = r.journal .typed limit .compact := by
  cases h with
  | intro _ _ hvalid hcount =>
      rw [compact_holding hvalid hcount, Reservation.journal_compact]
      rfl

theorem destroyWith_events (h : Keeps elementSize config buffer r) (limit : Nat)
    (interruptAt : Option Nat) :
    (buffer.destroyWith interruptAt).events =
      r.journal .typed limit (buffer.move (.destroyWith interruptAt)) := by
  cases h with
  | @intro items r _ _ hvalid _ =>
      rw [move, items_holding]
      cases hending : (sweep id interruptAt items).ending with
      | interrupted =>
          rw [destroyWith_of_interrupted hending]
          rfl
      | completed =>
          rw [destroyWith_of_completed hvalid hending, Reservation.journal_release]
          rfl

def loggingKind (α : Type) (elementSize : Nat) (config : Config) :
    LoggingKind (Buffer α) (Command α) (Reply α) where
  toActiveKind := activeKind α elementSize config
  flavour := .typed
  events_eq limit h command := by
    cases command with
    | compact =>
        exact (List.append_nil _).trans (compact_events h limit)
    | destroy =>
        have hlogged := destroyWith_events h limit none
        rw [move, sweep_none] at hlogged
        exact (List.append_nil _).trans ((List.append_nil _).trans hlogged)
    | destroyWith interruptAt =>
        exact (Traced.events_map _ _).trans (destroyWith_events h limit interruptAt)
    | _ => exact (activeKind α elementSize config).journal_of_silent h _ limit nofun

end Buffer
end BlockBuffer
