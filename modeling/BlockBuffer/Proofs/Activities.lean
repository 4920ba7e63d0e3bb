import BlockBuffer.Proofs.Kinds
import BlockBuffer.Proofs.Reservation.Ledger

/-!
# What commands are for

A command is for one activity, and the activity limits what the command can ask of the
reservation and what it can announce of the buffer.  Whatever else a command logs comes from
the reservation.
-/

namespace BlockBuffer

inductive Activity where
  | initialization
  | access
  | insertion
  | removal
  | reservation
  | compaction
  | cleanup
  | other
deriving DecidableEq, Repr

namespace Activity

/-- The activities that leave the slots to the elements. -/
def OnElements : Activity → Prop
  | access => True
  | insertion => True
  | removal => True
  | _ => False

def lengthAfter (length : Nat) : Activity → Nat
  | insertion => length + 1
  | removal => length - 1
  | _ => length

theorem lengthAfter_le (length : Nat) (activity : Activity) :
    activity.lengthAfter length ≤ length + if activity = .insertion then 1 else 0 := by
  cases activity with
  | insertion => exact Nat.le_refl _
  | removal => exact Nat.sub_le _ _
  | _ => exact Nat.le_refl _

/-- The moves that a command of an activity can make with so many elements. -/
inductive Asks (length : Nat) : Activity → Move → Prop where
  | refused {activity : Activity} {error : BufferError} :
      activity ≠ .insertion → Asks length activity (.refuse error)
  /-- An insertion that is refused by a check has not asked for storage. -/
  | misplaced {error : BufferError} :
      (∀ bytes, error ≠ .allocation bytes) → Asks length .insertion (.refuse error)
  | start (elementSize : Nat) : Asks length .initialization (.start elementSize)
  | touch : Asks length .access .keep
  | extend : Asks length .insertion .extend
  | drop : Asks length .removal .drop
  | nothing : length = 0 → Asks length .removal .keep
  | reserve (amount : Nat) : Asks length .reservation (.reserve amount)
  | compact : Asks length .compaction .compact
  | release : Asks length .cleanup .release
  /-- A cleanup that is broken off may leave the elements. -/
  | spare : Asks length .cleanup .keep
  | vacate : Asks length .cleanup .vacate
  | keep : Asks length .other .keep

theorem Asks.guarded {length : Nat} {activity : Activity} {move : Move} {ρ : Type}
    (h : Asks length activity move) (hne : activity ≠ .insertion) (check : Result ρ) :
    Asks length activity (Move.guarded check move) := by
  cases check with
  | ok _ => exact h
  | error error => exact .refused hne

theorem Asks.guarded_extend {length : Nat} {ρ : Type} {check : Result ρ}
    (h : ∀ error, check = .error error → ∀ bytes, error ≠ .allocation bytes) :
    Asks length .insertion (Move.guarded check .extend) := by
  cases check with
  | ok _ => exact .extend
  | error error => exact .misplaced (h error rfl)

def ofMove : Move → Option Activity
  | .keep => none
  | .refuse _ => none
  | .start _ => some .initialization
  | .extend => some .insertion
  | .reserve _ => some .reservation
  | .drop => some .removal
  | .compact => some .compaction
  | .release => some .cleanup
  | .vacate => some .cleanup

theorem Asks.eq_of_move {length : Nat} {activity expected : Activity} {move : Move}
    (h : Asks length activity move) (hmove : ofMove move = some expected) :
    activity = expected := by
  cases h with
  | refused _ => cases hmove
  | misplaced _ => cases hmove
  | touch => cases hmove
  | nothing _ => cases hmove
  | spare => cases hmove
  | keep => cases hmove
  | _ => exact Option.some.inj hmove

inductive Announces : Activity → Event → Prop where
  | ready (elementSize : Nat) : Announces .initialization (.ready elementSize)
  | compacted (flavour : Flavour) (reserved : Nat) :
      Announces .compaction (.compacted flavour reserved)
  | destroyed (flavour : Flavour) : Announces .cleanup (.destroyed flavour)

theorem OnElements.silent {activity : Activity} (h : activity.OnElements) (event : Event) :
    ¬ activity.Announces event := by
  intro hannounced
  cases hannounced with
  | _ => exact h

end Activity

/-!
## Logs of one activity
-/

/-- A computation that logs what its reservation logs and what its activity announces. -/
def Traced.Reports {β : Type} (activity : Activity) (x : Traced β) : Prop :=
  ∀ event ∈ x.events, event.ofReservation = true ∨ activity.Announces event

section Reports

variable {β γ : Type} {activity : Activity}

theorem Traced.Reports.pure (value : β) : (pure value : Traced β).Reports activity :=
  List.forall_mem_nil _

theorem Traced.Reports.bind {x : Traced β} {f : β → Traced γ} (hx : x.Reports activity)
    (h : (f x.value).Reports activity) : (x >>= f).Reports activity := by
  intro event hmem
  rcases List.mem_append.mp hmem with hfirst | hlater
  · exact hx event hfirst
  · exact h event hlater

theorem Traced.Reports.of_bind {x : Traced β} {f : β → Traced γ}
    (h : (x >>= f).Reports activity) :
    x.Reports activity :=
  fun event hmem => h event (List.mem_append_left _ hmem)

theorem Traced.Reports.map {x : Traced β} (h : x.Reports activity) (f : β → γ) :
    (f <$> x).Reports activity := by
  unfold Traced.Reports
  rw [Traced.events_map]
  exact h

theorem Traced.Reports.emit {event : Event} (h : activity.Announces event) :
    (Traced.emit event).Reports activity :=
  List.forall_mem_singleton.mpr (Or.inr h)

end Reports

namespace Reservation

variable {r : Reservation} {activity : Activity}

theorem reports_play (limit : Nat) (move : Move) (hvalid : r.Valid) :
    (r.play limit move).Reports activity :=
  fun event hmem => Or.inl ((logs_play limit move (Or.inl hvalid)).ofReservation event hmem)

theorem reports_ensure (limit : Nat) (hvalid : r.Valid) {count : Nat}
    (hlength : r.header.length = count) : (r.ensure limit (count + 1)).Reports activity := by
  subst hlength
  exact Traced.Reports.of_bind (reports_play limit .extend hvalid)

theorem reports_reserve (limit amount : Nat) (hvalid : r.Valid) :
    (r.reserve limit amount).Reports activity :=
  Traced.Reports.of_bind (reports_play limit (.reserve amount) hvalid)

theorem reports_settle (hvalid : r.Valid) {count : Nat} (hlength : r.header.length = count) :
    (r.withLength (count - 1)).settle.Reports activity := by
  subst hlength
  exact Traced.Reports.of_bind (reports_play 0 .drop hvalid)

theorem reports_compact (hvalid : r.Valid) : r.compact.Reports activity :=
  Traced.Reports.of_bind (reports_play 0 .compact hvalid)

theorem reports_release (hvalid : r.Valid) : r.release.Reports activity :=
  Traced.Reports.of_bind (reports_play 0 .release hvalid)

end Reservation

/-!
## Kinds of buffer whose commands are for an activity
-/

structure ActiveKind (σ κ ρ : Type) extends Kind σ κ ρ where
  activity : κ → Activity
  /-- The commands on elements whose places are there and whose byte strings are one element
  long. -/
  accepts : σ → κ → Prop
  asks : ∀ {state r}, keeps state r → ∀ command,
    (activity command).Asks r.header.length (move state command)
  accepted : ∀ {state r}, keeps state r → r.Valid → ∀ {command}, accepts state command →
    ∀ error, move state command ≠ .refuse error
  reports : ∀ {state r} limit, keeps state r → ∀ command,
    (step limit state command).Reports (activity command)
  starts : ∀ {state r} limit, keeps state r → ∀ command, activity command = .initialization →
    (∃ error, refusal (step limit state command).value.result = some error ∧
      (step limit state command).events = []) ∨
    ∃ elementSize, (step limit state command).events = [.ready elementSize] ∧
      header (step limit state command).value.state = .unreserved elementSize

namespace ActiveKind

variable {σ κ ρ : Type} {kind : ActiveKind σ κ ρ} {state : σ} {command : κ} {r : Reservation}

theorem logs (hkeeps : kind.keeps state r) (limit : Nat) (command : κ) :
    r.LogsMove limit (kind.move state command) :=
  Reservation.logs_play limit _ (kind.valid_or_idle hkeeps command)

/-- An activity that has nothing to announce leaves the log to the reservation. -/
theorem events_of_silent (hkeeps : kind.keeps state r) (limit : Nat)
    (hsilent : ∀ event, ¬ (kind.activity command).Announces event) :
    (kind.step limit state command).events =
      (r.play limit (kind.move state command)).events := by
  have hleft : ∀ event ∈ (kind.step limit state command).events, event.ofReservation = true :=
    fun event hmem =>
      (kind.reports limit hkeeps command event hmem).resolve_right (hsilent event)
  have hright := (logs hkeeps limit command).ofReservation
  have hsame := (kind.plays limit hkeeps command).events_eq
  unfold Traced.reservationEvents at hsame
  rwa [List.filter_eq_self.mpr hleft, List.filter_eq_self.mpr hright] at hsame

end ActiveKind

end BlockBuffer
