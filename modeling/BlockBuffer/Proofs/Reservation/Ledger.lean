import BlockBuffer.Proofs.Moves

/-!
# What a move logs

A log is replayed like a ledger: each growth and each shrink has to start at the number of
slots that the events before it left, and a growth has to tell the bytes of the slots that it
leaves.  A move changes the slots at most once.  The warnings of refused attempts come before
that, and a growth that is refused for good ends in a warning of its own.
-/

namespace BlockBuffer

def Event.isGrowthFailed : Event → Bool
  | .growthFailed .. => true
  | _ => false

theorem Event.ofReservation_of_isGrowthFailed {event : Event}
    (h : event.isGrowthFailed = true) :
    event.ofReservation = true := by
  cases event with
  | growthFailed _ _ => rfl
  | _ => cases h

/-- What a log comes to: the bytes of an element, and the number of slots. -/
structure Tally where
  elementSize : Nat
  slots : Nat
deriving DecidableEq, Repr

def Header.tally (header : Header) : Tally where
  elementSize := header.elementSize
  slots := header.reserved

namespace Tally

/-- The tally after one more event, unless the event does not go on from it. -/
def note (tally : Tally) : Event → Option Tally
  | .grown before after bytes =>
      if before = tally.slots ∧ before < after ∧ bytes = 32 + after * tally.elementSize then
        some { tally with slots := after }
      else none
  | .shrunk before after =>
      if before = tally.slots ∧ after ≤ before then some { tally with slots := after }
      else none
  | .ready elementSize => some { elementSize := elementSize, slots := 0 }
  | .backingOff .. => some tally
  | .growthFailed .. => some tally
  | .compacted .. => some tally
  | .destroyed .. => some tally

def replay (tally : Tally) (events : List Event) : Option Tally :=
  events.foldlM note tally

variable {tally : Tally} {event : Event} {events later : List Event}

theorem replay_cons :
    tally.replay (event :: events) =
      (tally.note event).bind fun noted => noted.replay events := rfl

theorem replay_append :
    tally.replay (events ++ later) =
      (tally.replay events).bind fun noted => noted.replay later :=
  List.foldlM_append

theorem replay_singleton : tally.replay [event] = tally.note event := by
  rw [replay_cons]
  cases tally.note event with
  | none => rfl
  | some noted => rfl

theorem replay_of_kept (h : ∀ event ∈ events, tally.note event = some tally) :
    tally.replay events = some tally := by
  induction events with
  | nil => rfl
  | cons event rest ih =>
      rcases List.forall_mem_cons.mp h with ⟨hfirst, hrest⟩
      rw [replay_cons, hfirst]
      exact ih hrest

theorem note_grown {slots bytes : Nat} (hlt : tally.slots < slots)
    (hbytes : bytes = 32 + slots * tally.elementSize) :
    tally.note (.grown tally.slots slots bytes) = some { tally with slots := slots } :=
  if_pos ⟨rfl, hlt, hbytes⟩

theorem note_shrunk {slots : Nat} (hle : slots ≤ tally.slots) :
    tally.note (.shrunk tally.slots slots) = some { tally with slots := slots } :=
  if_pos ⟨rfl, hle⟩

/-- Besides the events of reservations, only an initialization has a part in the tally. -/
theorem replay_filter (h : ∀ event ∈ events, ∀ elementSize, event ≠ .ready elementSize) :
    tally.replay (events.filter Event.ofReservation) = tally.replay events := by
  induction events generalizing tally with
  | nil => rfl
  | cons event rest ih =>
      rcases List.forall_mem_cons.mp h with ⟨hfirst, hrest⟩
      cases event with
      | ready elementSize => exact absurd rfl (hfirst elementSize)
      | compacted flavour reserved => exact ih hrest
      | destroyed flavour => exact ih hrest
      | _ =>
          rw [List.filter_cons_of_pos rfl, replay_cons, replay_cons]
          exact Option.bind_congr fun _ _ => ih hrest

end Tally

namespace Reservation

variable {r after : Reservation} {move : Move} {result : Result Unit} {events : List Event}

theorem exists_of_mem_warnings {length slack retries : Nat} {event : Event}
    (h : event ∈ warnings length slack retries) : ∃ left, event = .backingOff length left := by
  rcases List.mem_map.mp h with ⟨retry, _, rfl⟩
  exact ⟨_, rfl⟩

theorem eq_of_mem_warnings_append {length slack retries : Nat} {event last : Event}
    (h : event ∈ warnings length slack retries ++ [last]) :
    (∃ left, event = .backingOff length left) ∨ event = last := by
  rcases List.mem_append.mp h with hwarning | hend
  · exact Or.inl (exists_of_mem_warnings hwarning)
  · exact Or.inr (List.mem_singleton.mp hend)

/-- What a move logs, given how it ends.  A new start leaves the log to the buffer that starts
over. -/
inductive Logs (r : Reservation) : Move → Result Unit → Reservation → List Event → Prop where
  | started {elementSize : Nat} {result : Result Unit} {after : Reservation} :
      Logs r (.start elementSize) result after []
  | quiet {move : Move} {result : Result Unit} {after : Reservation} :
      after.header.tally = r.header.tally → (move = .extend → result = .ok ()) →
      Logs r move result after []
  | grown {move : Move} {after : Reservation} {slots : Nat} (length slack retries : Nat) :
      after.header.tally = (r.withSlots slots).header.tally → r.header.reserved < slots →
      Logs r move (.ok ()) after
        (warnings length slack retries ++
          [.grown r.header.reserved slots (slots * r.header.elementSize + headerSize)])
  | failed (bytes slack retries : Nat) :
      Logs r .extend (.error (.allocation bytes)) r
        (warnings (r.header.length + 1) slack retries ++
          [.growthFailed (r.header.length + 1) r.header.reserved])
  | shrunk {move : Move} {after : Reservation} {slots : Nat} :
      after.header.tally = (r.withSlots slots).header.tally → slots ≤ r.header.reserved →
      (slots = r.header.reserved →
        move = .release ∨ move = .drop ∧ r.config.shrink = .eager) →
      Logs r move (.ok ()) after [.shrunk r.header.reserved slots]

/-!
## What the log of a move says
-/

theorem Logs.ofReservation (h : Logs r move result after events) :
    ∀ event ∈ events, event.ofReservation = true := by
  intro event hmem
  cases h with
  | started => cases hmem
  | quiet _ _ => cases hmem
  | grown length slack retries _ _ =>
      rcases eq_of_mem_warnings_append hmem with ⟨left, rfl⟩ | rfl
      · rfl
      · rfl
  | failed bytes slack retries =>
      rcases eq_of_mem_warnings_append hmem with ⟨left, rfl⟩ | rfl
      · rfl
      · rfl
  | shrunk _ _ _ =>
      rw [List.mem_singleton.mp hmem]
      rfl

/-- The tally goes from the slots before a move to the slots after it. -/
theorem Logs.replays (h : Logs r move result after events)
    (hstart : ∀ elementSize, move ≠ .start elementSize) :
    r.header.tally.replay events = some after.header.tally := by
  have hwarned : ∀ length slack retries,
      r.header.tally.replay (warnings length slack retries) = some r.header.tally := by
    intro length slack retries
    apply Tally.replay_of_kept
    intro event hmem
    rcases exists_of_mem_warnings hmem with ⟨left, rfl⟩
    rfl
  cases h with
  | started => exact absurd rfl (hstart _)
  | quiet hsame _ =>
      rw [hsame]
      rfl
  | grown length slack retries hsame hlt =>
      rw [Tally.replay_append, hwarned, Option.bind_some, Tally.replay_singleton, hsame]
      exact Tally.note_grown hlt (Nat.add_comm _ _)
  | failed bytes slack retries =>
      rw [Tally.replay_append, hwarned, Option.bind_some, Tally.replay_singleton]
      rfl
  | shrunk hsame hle _ =>
      rw [Tally.replay_singleton, hsame]
      exact Tally.note_shrunk hle

theorem Logs.shrunk_same (h : Logs r move result after events) {slots : Nat}
    (hmem : .shrunk slots slots ∈ events) :
    move = .release ∨ move = .drop ∧ r.config.shrink = .eager := by
  cases h with
  | started => cases hmem
  | quiet _ _ => cases hmem
  | grown length slack retries _ _ =>
      rcases eq_of_mem_warnings_append hmem with ⟨left, hleft⟩ | hlast
      · cases hleft
      · cases hlast
  | failed bytes slack retries =>
      rcases eq_of_mem_warnings_append hmem with ⟨left, hleft⟩ | hlast
      · cases hleft
      · cases hlast
  | shrunk _ _ hsame =>
      cases List.mem_singleton.mp hmem
      exact hsame rfl

theorem Logs.growthFailed_last (h : Logs r .extend result after events) {error : BufferError}
    (hrefused : refusal result = some error) :
    ∃ earlier, events = earlier ++ [.growthFailed (r.header.length + 1) r.header.reserved] ∧
      ∀ event ∈ earlier, event.isGrowthFailed = false := by
  cases h with
  | quiet _ hgranted =>
      rw [hgranted rfl] at hrefused
      cases hrefused
  | grown length slack retries _ _ => cases hrefused
  | failed bytes slack retries =>
      refine ⟨_, rfl, ?_⟩
      intro event hmem
      rcases exists_of_mem_warnings hmem with ⟨left, rfl⟩
      rfl
  | shrunk _ _ _ => cases hrefused

theorem Logs.extend_of_growthFailed (h : Logs r move result after events) {event : Event}
    (hmem : event ∈ events) (hfailed : event.isGrowthFailed = true) :
    move = .extend ∧ ∃ bytes, refusal result = some (.allocation bytes) := by
  cases h with
  | started => cases hmem
  | quiet _ _ => cases hmem
  | grown length slack retries _ _ =>
      rcases eq_of_mem_warnings_append hmem with ⟨left, rfl⟩ | rfl
      · cases hfailed
      · cases hfailed
  | failed bytes slack retries => exact ⟨rfl, bytes, rfl⟩
  | shrunk _ _ _ =>
      rw [List.mem_singleton.mp hmem] at hfailed
      cases hfailed

/-!
## What each move logs
-/

variable (limit : Nat)

def LogsMove (limit : Nat) (r : Reservation) (move : Move) : Prop :=
  Logs r move (r.play limit move).value.result (r.play limit move).value.state
    (r.play limit move).events

theorem logs_extend (hvalid : r.Valid) : LogsMove limit r .extend := by
  unfold LogsMove
  rw [events_play_extend, play, Traced.value_bind]
  rcases Nat.lt_or_ge r.header.reserved (r.header.length + 1) with hgrows | hkept
  · have hgrown := grows_ensure limit hgrows hvalid.length_succ_lt_limit
    generalize (r.ensure limit (r.header.length + 1)).value = ensured at hgrown ⊢
    generalize (r.ensure limit (r.header.length + 1)).events = logged at hgrown ⊢
    cases hgrown with
    | granted retries _ _ =>
        exact .grown _ _ _ rfl (Nat.lt_of_lt_of_le hgrows (Nat.le_add_right _ _))
    | refused retries _ _ => exact .failed _ _ _
  · rw [ensure_of_le hkept]
    exact .quiet rfl fun _ => rfl

theorem logs_reserve (hvalid : r.Valid) (amount : Nat) :
    LogsMove limit r (.reserve amount) := by
  unfold LogsMove
  rw [play]
  rcases Nat.lt_or_ge r.header.reserved (r.header.length + amount) with hgrows | hkept
  · by_cases hfits : r.Fits limit (r.header.length + amount)
    · rw [reserve_of_fits hgrows hvalid.elementSize_pos hfits]
      exact .grown 0 0 0 rfl hgrows
    · rw [reserve_of_not_fits hvalid hgrows hfits]
      exact .quiet rfl Move.noConfusion
  · rw [reserve_of_le hvalid hkept]
    exact .quiet rfl Move.noConfusion

theorem logs_drop (hvalid : r.Valid) : LogsMove limit r .drop := by
  have hshorter : (r.withLength (r.header.length - 1)).Valid :=
    hvalid.withLength (Nat.le_trans (Nat.sub_le _ _) hvalid.length_le)
  have hsettled := settle_eq hshorter
  unfold LogsMove
  rw [play, hsettled]
  cases hpolicy : (r.withLength (r.header.length - 1)).config.shrink with
  | deferred => exact .quiet rfl Move.noConfusion
  | lazy =>
      dsimp only
      split
      · rename_i hless
        exact .shrunk rfl (Nat.le_of_lt hless) fun hsame => absurd hsame (Nat.ne_of_lt hless)
      · exact .quiet rfl Move.noConfusion
  | eager =>
      dsimp only
      split
      · rename_i hle
        exact .shrunk rfl hle fun _ => Or.inr ⟨rfl, hpolicy⟩
      · exact .quiet rfl Move.noConfusion

theorem logs_compact (hvalid : r.Valid) : LogsMove limit r .compact := by
  unfold LogsMove
  rw [play, compact_eq hvalid]
  split
  · exact .quiet rfl Move.noConfusion
  · rename_i hslack
    exact .shrunk rfl hvalid.length_le fun hsame => absurd hsame hslack

theorem logs_release (hvalid : r.Valid) : LogsMove limit r .release := by
  unfold LogsMove
  rw [play, release_eq hvalid]
  exact .shrunk rfl (Nat.zero_le _) fun _ => Or.inl rfl

theorem logs_play (move : Move) (hvalid : r.Valid ∨ move.Idle) : LogsMove limit r move := by
  have hbusy : ¬ move.Idle → r.Valid := fun hidle => hvalid.resolve_right hidle
  cases move with
  | keep => exact .quiet rfl Move.noConfusion
  | refuse error => exact .quiet rfl Move.noConfusion
  | start elementSize =>
      unfold LogsMove
      rw [play]
      cases create elementSize r.config with
      | error error => exact .started
      | ok fresh => exact .started
  | extend => exact logs_extend limit (hbusy id)
  | reserve amount => exact logs_reserve limit (hbusy id) amount
  | drop => exact logs_drop limit (hbusy id)
  | compact => exact logs_compact limit (hbusy id)
  | release => exact logs_release limit (hbusy id)
  | vacate => exact .quiet rfl Move.noConfusion

end Reservation
end BlockBuffer
