import BlockBuffer.Proofs.Buffer.Activities
import BlockBuffer.Proofs.ByteBuffer.Activities

/-!
# The log accounts for the slots

From no slots at the creation of a buffer on, every change of its slots stands in its log, and
a new start begins a new account.  So whoever replays the log knows how many slots the buffer
has, without looking at it.  The warning of a growth that was refused for good is the last word
of an insertion, and of no other command.
-/

namespace BlockBuffer

structure Explained {σ κ ρ : Type} (reading : Reading σ κ ρ) (activity : κ → Activity)
    (policy : ShrinkPolicy) (entry : Entry σ κ ρ) : Prop where
  replay_eq : (reading.header entry.before).tally.replay entry.step.events =
    some (reading.header entry.after).tally
  /-- Slots are given back to the number of before by a cleanup, or by a removal that looks no
  further. -/
  shrunk_same : ∀ slots, .shrunk slots slots ∈ entry.step.events →
    activity entry.command = .cleanup ∨ activity entry.command = .removal ∧ policy = .eager
  /-- An insertion that finds no storage says so once, at its end. -/
  growthFailed_last : activity entry.command = .insertion →
    ∀ bytes, reading.refusal entry.reply = some (.allocation bytes) →
      ∃ earlier, entry.step.events = earlier ++
          [.growthFailed ((reading.header entry.before).length + 1)
            (reading.header entry.before).reserved] ∧
        ∀ event ∈ earlier, event.isGrowthFailed = false
  of_growthFailed : ∀ event ∈ entry.step.events, event.isGrowthFailed = true →
    activity entry.command = .insertion ∧
      ∃ bytes, reading.refusal entry.reply = some (.allocation bytes)

/-- A run whose log accounts for the slots, from an opening tally on. -/
structure Balanced {σ κ ρ : Type} (reading : Reading σ κ ρ) (activity : κ → Activity)
    (policy : ShrinkPolicy) (opening : Tally) (entries : List (Entry σ κ ρ))
    (run : Traced (Outcome σ (List ρ))) : Prop where
  faults_eq : run.faults = []
  replay_eq : opening.replay run.events = some (reading.header run.value.state).tally
  explained : ∀ entry ∈ entries, Explained reading activity policy entry

/-!
## One step
-/

namespace ActiveKind

variable {σ κ ρ : Type} {kind : ActiveKind σ κ ρ} {limit : Nat} {state : σ} {command : κ}
  {r : Reservation}

/-- Besides its reservation, only an initialization says that a buffer is ready. -/
theorem ne_ready (hkeeps : kind.keeps state r)
    (hactivity : kind.activity command ≠ .initialization) :
    ∀ event ∈ (kind.step limit state command).events,
      ∀ elementSize, event ≠ .ready elementSize := by
  rintro _ hmem elementSize rfl
  rcases kind.reports limit hkeeps command _ hmem with hreservation | hannounced
  · cases hreservation
  · generalize kind.activity command = activity at hactivity hannounced
    cases hannounced with
    | ready _ => exact hactivity rfl

theorem replay_step (hkeeps : kind.keeps state r) (limit : Nat) (command : κ) :
    (kind.header state).tally.replay (kind.step limit state command).events =
      some (kind.header (kind.step limit state command).value.state).tally := by
  by_cases hactivity : kind.activity command = .initialization
  · rcases kind.starts limit hkeeps command hactivity with
      ⟨error, herror, hnone⟩ | ⟨elementSize, hready, hheader⟩
    · rw [hnone, kind.unchanged limit hkeeps command error herror]
      rfl
    · rw [hready, hheader]
      rfl
  · have hplays := kind.plays limit hkeeps command
    have hlogs := logs hkeeps limit command
    have hstart : ∀ elementSize, kind.move state command ≠ .start elementSize := by
      intro elementSize hmove
      have hasks := kind.asks hkeeps command
      rw [hmove] at hasks
      exact hactivity (hasks.eq_of_move rfl)
    have hplayed : ∀ event ∈ (r.play limit (kind.move state command)).events,
        ∀ elementSize, event ≠ .ready elementSize := by
      rintro _ hmem elementSize rfl
      cases hlogs.ofReservation _ hmem
    have hsame := hplays.events_eq
    unfold Traced.reservationEvents at hsame
    rw [← Tally.replay_filter (ne_ready hkeeps hactivity), hsame, Tally.replay_filter hplayed,
      kind.header_eq hkeeps, kind.header_eq hplays.state_related]
    exact hlogs.replays hstart

/-- An insertion that finds no storage has asked for it. -/
theorem move_of_allocation (hkeeps : kind.keeps state r)
    (hactivity : kind.activity command = .insertion) {bytes : Nat}
    (hrefused : kind.refusal (kind.step limit state command).value.result =
      some (.allocation bytes)) : kind.move state command = .extend := by
  have hasks := kind.asks hkeeps command
  have hagree := (kind.plays limit hkeeps command).agree
  rw [hrefused] at hagree
  rw [hactivity] at hasks
  generalize kind.move state command = move at hasks hagree
  cases hasks with
  | refused hne => exact absurd rfl hne
  | misplaced hchecked => exact absurd (Option.some.inj hagree).symm (hchecked bytes)
  | extend => rfl

theorem explained_step (hkeeps : kind.keeps state r) (limit : Nat) (command : κ) :
    Explained kind.toKind.toReading kind.activity kind.config.shrink
      { before := state, command := command, step := kind.step limit state command } := by
  have hplays := kind.plays limit hkeeps command
  have hlogs := logs hkeeps limit command
  have hasks := kind.asks hkeeps command
  constructor
  · exact replay_step hkeeps limit command
  · intro slots hmem
    rcases hlogs.shrunk_same (hplays.mem_right hmem rfl) with hmove | ⟨hmove, hpolicy⟩
    · rw [hmove] at hasks
      exact Or.inl (hasks.eq_of_move rfl)
    · rw [hmove] at hasks
      rw [kind.config_eq hkeeps] at hpolicy
      exact Or.inr ⟨hasks.eq_of_move rfl, hpolicy⟩
  · intro hactivity bytes hrefused
    have hmove := move_of_allocation hkeeps hactivity hrefused
    have hagree := hplays.agree
    have hevents : (kind.step limit state command).events =
        (r.play limit (kind.move state command)).events := by
      apply events_of_silent hkeeps limit
      rw [hactivity]
      exact nofun
    rw [hmove] at hagree hevents hlogs
    rw [hevents, kind.header_eq hkeeps]
    exact hlogs.growthFailed_last (hagree.symm.trans hrefused)
  · intro event hmem hfailed
    have hplayed := hplays.mem_right hmem (Event.ofReservation_of_isGrowthFailed hfailed)
    rcases hlogs.extend_of_growthFailed hplayed hfailed with ⟨hmove, bytes, hrefused⟩
    rw [hmove] at hasks
    exact ⟨hasks.eq_of_move rfl, bytes, hplays.agree.trans hrefused⟩

/-!
## Whole runs
-/

theorem replay_run (hkeeps : kind.keeps state r) (commands : List (Nat × κ)) :
    (kind.header state).tally.replay (runAll kind.step commands state).events =
      some (kind.header (runAll kind.step commands state).value.state).tally := by
  induction commands generalizing state r with
  | nil => rfl
  | cons entry rest ih =>
      rcases entry with ⟨limit, command⟩
      have hfirst := replay_step hkeeps limit command
      have hnext := (kind.plays limit hkeeps command).state_related
      rw [events_runAll_cons, Tally.replay_append, hfirst]
      exact ih hnext

theorem balanced_run (hkeeps : kind.keeps state r) (commands : List (Nat × κ)) :
    Balanced kind.toKind.toReading kind.activity kind.config.shrink (kind.header state).tally
      (history kind.step commands state) (runAll kind.step commands state) where
  faults_eq := kind.faults_runAll hkeeps commands
  replay_eq := replay_run hkeeps commands
  explained := by
    refine forall_mem_history (fun state => ∃ r, kind.keeps state r) ?_ commands ⟨r, hkeeps⟩
      fun _ _ => trivial
    rintro limit state command ⟨r, hkept⟩ _
    exact ⟨explained_step hkept limit command, _,
      (kind.plays limit hkept command).state_related⟩

end ActiveKind

/-!
## Both kinds of buffer
-/

/-- Whatever is done to a buffer of either kind from its creation on, on whatever heaps, its
log accounts for its slots, step by step and as a whole. -/
theorem log_accounts_for_the_slots :
    (∀ (config : Config) (commands : List (Nat × ByteBuffer.Command)),
      let fresh : ByteBuffer := { config := config }
      Balanced ByteBuffer.reading ByteBuffer.Command.activity config.shrink
        { elementSize := 0, slots := 0 } (history ByteBuffer.step commands fresh)
        (ByteBuffer.run commands fresh)) ∧
    ∀ (α : Type) (elementSize : Nat) (config : Config) (fresh : Buffer α)
      (commands : List (Nat × Buffer.Command α)),
        Buffer.create elementSize config = .ok fresh →
      Balanced (Buffer.reading α) Buffer.Command.activity config.shrink
        { elementSize := elementSize, slots := 0 } (history Buffer.step commands fresh)
        (Buffer.run commands fresh) := by
  constructor
  · intro config commands fresh
    rw [ByteBuffer.run]
    exact (ByteBuffer.activeKind config).balanced_run .uninitialized commands
  · intro α elementSize config fresh commands hcreate
    have hkeeps := (Buffer.represents_of_create hcreate).keeps
    have hbalanced := (Buffer.activeKind α elementSize config).balanced_run hkeeps commands
    have htally : fresh.header.tally = { elementSize := elementSize, slots := 0 } :=
      congrArg Header.tally (Buffer.header_of_create hcreate)
    rw [Buffer.run, ← htally]
    exact hbalanced

theorem log_accounts_for_the_slots_of_an_eager_buffer :
    let config : Config := { minCapacity := 2, shrink := .eager }
    let fresh : Buffer Bool :=
      { items := [], reservation := { header := .unreserved 4, config := config } }
    let commands : List (Nat × Buffer.Command Bool) :=
      [(8, .pushBack true), (8, .popFront), (0, .destroy), (3, .pushBack false)]
    Buffer.create 4 config = .ok fresh ∧
      Balanced (Buffer.reading Bool) Buffer.Command.activity .eager
        { elementSize := 4, slots := 0 } (history Buffer.step commands fresh)
        (Buffer.run commands fresh) ∧
      (Buffer.run commands fresh).events =
        [.grown 0 2 40, .shrunk 2 2, .shrunk 2 0, .destroyed .typed, .backingOff 1 0,
          .growthFailed 1 0] := by
  intro config fresh commands
  have hevents : (Buffer.run commands fresh).events =
      [.grown 0 2 40, .shrunk 2 2, .shrunk 2 0, .destroyed .typed, .backingOff 1 0,
        .growthFailed 1 0] := by cbv
  exact ⟨rfl, log_accounts_for_the_slots.right Bool 4 config fresh commands rfl, hevents⟩

end BlockBuffer
