import BlockBuffer.Proofs.Announcements
import BlockBuffer.Proofs.Buffer.Twins
import BlockBuffer.Proofs.ByteBuffer.Twins
import BlockBuffer.Proofs.Reservation.Settling
import BlockBuffer.Proofs.SideBySide

/-!
# The lazy policy and the eager one

After a removal the eager policy carries out a shrink also where it changes nothing.  That is
all there is between the two policies: a lazy buffer and an eager one answer every command
alike, have the same header and the same contents at every moment, and log the same but for
these shrinks.
-/

namespace BlockBuffer

/-- What an eager buffer reports and a lazy one does not: that an element is gone and that the
slots which were there are the recommended ones. -/
def echo (config : Config) (activity : Activity) (before after : Header) : List Event :=
  if activity = .removal ∧ after.length < before.length ∧
      config.recommended after.length = before.reserved then
    [.shrunk before.reserved before.reserved]
  else []

structure SameButEcho {σ κ ρ γ : Type} (reading : Reading σ κ ρ) (contents : σ → γ)
    (activity : κ → Activity) (config : Config) (lazy eager : Entry σ κ ρ) : Prop where
  command_eq : eager.command = lazy.command
  reply_eq : eager.reply = lazy.reply
  header_eq : reading.header eager.after = reading.header lazy.after
  contents_eq : contents eager.after = contents lazy.after
  events_eq : eager.step.events = lazy.step.events ++
    echo config (activity lazy.command) (reading.header lazy.before)
      (reading.header lazy.after)

structure SameButEchoes {σ κ ρ γ : Type} (reading : Reading σ κ ρ) (contents : σ → γ)
    (activity : κ → Activity) (config : Config) (commands : List (Nat × κ)) (lazy eager : σ) :
    Prop where
  lazy_faults : (runAll reading.step commands lazy).faults = []
  eager_faults : (runAll reading.step commands eager).faults = []
  steps : List.Forall₂ (SameButEcho reading contents activity config)
    (history reading.step commands lazy) (history reading.step commands eager)
  result_eq : (runAll reading.step commands eager).value.result =
    (runAll reading.step commands lazy).value.result
  echoes : Echoes (runAll reading.step commands lazy).events
    (runAll reading.step commands eager).events

/-!
## One step
-/

theorem echo_settling (policy : ShrinkPolicy) (config : Config) :
    echo (config.settling policy) = echo config := by
  funext activity before after
  unfold echo
  rw [Config.recommended_settling]

theorem Move.announcement_settling (move : Move) (flavour : Flavour) (policy : ShrinkPolicy)
    (outcome : Outcome Reservation (Result Unit)) :
    move.announcement flavour (outcome.settling policy) =
      move.announcement flavour outcome := by
  cases move with
  | _ => rfl

theorem Reservation.length_play_drop {r : Reservation} (hvalid : r.Valid) (limit : Nat) :
    (r.play limit .drop).value.state.header.length = r.header.length - 1 := by
  have hshorter : (r.withLength (r.header.length - 1)).Valid :=
    hvalid.withLength (Nat.le_trans (Nat.sub_le _ _) hvalid.length_le)
  rw [play, Traced.value_bind, value_settle hshorter]
  rfl

/-- Whatever a removal does other than dropping an element leaves the header as it is. -/
theorem Activity.Asks.state_of_ne_drop {length : Nat} {move : Move}
    (h : Activity.removal.Asks length move) (hne : move ≠ .drop) (limit : Nat)
    (r : Reservation) :
    (r.play limit move).value.state = r := by
  cases h with
  | refused _ => rfl
  | nothing _ => rfl
  | drop => exact absurd rfl hne

namespace LoggingKind

variable {σ κ ρ : Type} {state state' : σ} {r : Reservation} {command : κ}

theorem events_eager (lazy eager : LoggingKind σ κ ρ) (config : Config) (limit : Nat)
    (hkeeps : lazy.keeps state r)
    (hkeeps' : eager.keeps state' (r.under (config.settling .eager)))
    (hconfig : r.config = config.settling .lazy) (hflavour : eager.flavour = lazy.flavour)
    (hmove : eager.move state' command = lazy.move state command)
    (hpos : lazy.move state command = .drop → 0 < r.header.length) :
    (eager.step limit state' command).events = (lazy.step limit state command).events ++
      echo config (lazy.activity command) (lazy.header state)
        (lazy.header (lazy.step limit state command).value.state) := by
  have hlazy : r.config.shrink = .lazy := congrArg Config.shrink hconfig
  have heager : r.under (config.settling .eager) = r.settling .eager := by
    unfold Reservation.settling
    rw [hconfig]
    rfl
  rw [heager] at hkeeps'
  rw [← echo_settling .lazy config, ← hconfig]
  have hasks := lazy.asks hkeeps command
  have hidle := lazy.valid_or_idle hkeeps command
  have hafter := lazy.header_eq (lazy.plays limit hkeeps command).state_related
  rw [eager.events_eq limit hkeeps', lazy.events_eq limit hkeeps, hmove, hflavour, hafter,
    lazy.header_eq hkeeps]
  by_cases hdrop : lazy.move state command = .drop
  · rw [hdrop] at hasks hidle ⊢
    have hvalid : r.Valid := hidle.resolve_right id
    have hactivity : lazy.activity command = .removal := hasks.eq_of_move rfl
    have hless : r.header.length - 1 < r.header.length := Nat.sub_one_lt_of_lt (hpos hdrop)
    have hecho : echo r.config (lazy.activity command) r.header
        (r.play limit .drop).value.state.header =
          if r.config.recommended (r.header.length - 1) = r.header.reserved then
            [.shrunk r.header.reserved r.header.reserved]
          else [] := by
      unfold echo
      rw [hactivity, Reservation.length_play_drop hvalid]
      simp only [hless, true_and]
    have hevents := Reservation.events_drop_eager limit hvalid hlazy
    rw [hecho, Reservation.journal, Reservation.journal]
    simp only [Move.announcement, List.append_nil]
    exact hevents
  · have hsame := Reservation.play_settling .eager limit hdrop hidle
    have hecho : echo r.config (lazy.activity command) r.header
        (r.play limit (lazy.move state command)).value.state.header = [] := by
      apply if_neg
      rintro ⟨hactivity, hless, _⟩
      rw [hactivity] at hasks
      rw [hasks.state_of_ne_drop hdrop] at hless
      exact Nat.lt_irrefl _ hless
    rw [hecho, List.append_nil, Reservation.journal, Reservation.journal, hsame,
      Traced.events_map, Traced.value_map, Move.announcement_settling]

end LoggingKind

variable {config : Config}

theorem ByteBuffer.same_but_echo {buffer buffer' : ByteBuffer} (limit : Nat)
    (command : Command)
    (h : Twins (config.settling .lazy) (config.settling .eager) buffer buffer') :
    SameButEcho reading ByteBuffer.bytes Command.activity config
      { before := buffer, command := command, step := buffer.step limit command }
      { before := buffer', command := command, step := buffer'.step limit command } := by
  have halike := config.alike_settling
  have hpaired := step_twins halike limit h command
  rcases keeps_twins halike h with ⟨r, hkeeps, hkeeps'⟩
  have hevents := (loggingKind (config.settling .lazy)).events_eager
    (loggingKind (config.settling .eager)) config limit hkeeps hkeeps' hkeeps.config_eq rfl
    (move_twins halike h command) (length_pos_of_drop hkeeps)
  refine ⟨rfl, ?_, ?_, ?_, hevents⟩
  · exact hpaired.related.result_eq.symm
  · exact hpaired.related.state_related.header_eq.symm
  · exact hpaired.related.state_related.bytes_eq.symm

theorem Buffer.same_but_echo {α : Type} {buffer buffer' : Buffer α} (limit : Nat)
    (command : Command α)
    (h : Twins (config.settling .lazy) (config.settling .eager) buffer buffer') :
    SameButEcho (reading α) Buffer.items Command.activity config
      { before := buffer, command := command, step := buffer.step limit command }
      { before := buffer', command := command, step := buffer'.step limit command } := by
  have halike := config.alike_settling
  have hpaired := step_twins halike limit h command
  rcases keeps_twins halike h with ⟨r, hkeeps, hkeeps'⟩
  have hevents := (loggingKind α _ (config.settling .lazy)).events_eager
    (loggingKind α _ (config.settling .eager)) config limit hkeeps hkeeps' hkeeps.config_eq rfl
    (move_twins h command) (length_pos_of_drop hkeeps)
  refine ⟨rfl, ?_, ?_, ?_, hevents⟩
  · exact hpaired.related.result_eq.symm
  · exact hpaired.related.state_related.header_eq.symm
  · exact hpaired.related.state_related.items_eq.symm

/-!
## Whole runs
-/

theorem SameButEchoes.of_steps {σ κ ρ γ : Type} {reading : Reading σ κ ρ} {contents : σ → γ}
    {activity : κ → Activity} (related : σ → σ → Prop)
    (hpaired : ∀ limit state state' command, related state state' →
      Paired Echoes (SameAnswer related) (reading.step limit state command)
        (reading.step limit state' command))
    (hstep : ∀ limit {state state'} command, related state state' →
      SameButEcho reading contents activity config
        { before := state, command := command, step := reading.step limit state command }
        { before := state', command := command, step := reading.step limit state' command })
    (commands : List (Nat × κ)) {lazy eager : σ} (h : related lazy eager) :
    SameButEchoes reading contents activity config commands lazy eager := by
  have hsame : commands.map (Prod.map (fun limit => limit) id) = commands :=
    List.map_id commands
  have hrun := runAll_paired partByPart_echoes hpaired commands h
  rw [hsame] at hrun
  have hsteps : List.Forall₂ (SameButEcho reading contents activity config)
      (history reading.step commands lazy) (history reading.step commands eager) := by
    apply forall₂_history related ?_ rfl h (forall₂_command_eq commands lazy eager)
    intro limit state state' command command' hrelated entry entry' hcommand
    change command' = command at hcommand
    subst hcommand
    exact ⟨hstep limit command' hrelated,
      (hpaired limit _ _ command' hrelated).related.state_related⟩
  exact ⟨hrun.left_faults, hrun.right_faults, hsteps, hrun.related.result_eq.symm, hrun.logs⟩

/-- A lazy buffer and an eager one of the same configuration, of either kind, are the same on
every run but for the shrinks that only the eager one reports. -/
theorem policies_differ_in_echoes (config : Config) :
    (∀ commands : List (Nat × ByteBuffer.Command),
      SameButEchoes ByteBuffer.reading ByteBuffer.bytes ByteBuffer.Command.activity
        config commands
        { config := config.settling .lazy } { config := config.settling .eager }) ∧
    ∀ (α : Type) (elementSize : Nat), 0 < elementSize → config.blockSize ≠ 0 →
      ∃ lazy eager : Buffer α,
        Buffer.create elementSize (config.settling .lazy) = .ok lazy ∧
        Buffer.create elementSize (config.settling .eager) = .ok eager ∧
        ∀ commands : List (Nat × Buffer.Command α),
          SameButEchoes (Buffer.reading α) Buffer.items Buffer.Command.activity config commands
            lazy eager := by
  have halike := config.alike_settling
  constructor
  · intro commands
    exact .of_steps (ByteBuffer.Twins _ _)
      (fun limit _ _ command h => ByteBuffer.step_twins halike limit h command)
      (fun limit _ _ command h => ByteBuffer.same_but_echo limit command h) commands
        .uninitialized
  · intro α elementSize hsize hblock
    have hnew : Buffer.Twins (config.settling .lazy) (config.settling .eager)
        ({ items := [], reservation := ⟨.unreserved elementSize, config.settling .lazy⟩ } :
          Buffer α)
        { items := [], reservation := ⟨.unreserved elementSize, config.settling .eager⟩ } :=
      .intro rfl (Reservation.valid_unreserved hsize hblock) rfl
    refine ⟨_, _, Buffer.create_of_pos hsize hblock, Buffer.create_of_pos hsize hblock, ?_⟩
    intro commands
    exact .of_steps (Buffer.Twins _ _)
      (fun limit _ _ command h => Buffer.step_twins halike limit h command)
      (fun limit _ _ command h => Buffer.same_but_echo limit command h) commands hnew

theorem policies_differ_in_echoes_of_a_pop :
    let config : Config := { minCapacity := 2 }
    let buffer : ShrinkPolicy → Buffer Bool := fun policy =>
      { items := [], reservation := ⟨.unreserved 4, config.settling policy⟩ }
    let commands : List (Nat × Buffer.Command Bool) := [(8, .pushBack true), (8, .popFront)]
    config.blockSize ≠ 0 ∧
      Buffer.create 4 (config.settling .lazy) = .ok (buffer .lazy) ∧
      Buffer.create 4 (config.settling .eager) = .ok (buffer .eager) ∧
      SameButEchoes (Buffer.reading Bool) Buffer.items Buffer.Command.activity config commands
        (buffer .lazy) (buffer .eager) ∧
      (Buffer.run commands (buffer .lazy)).events = [.grown 0 2 40] ∧
      (Buffer.run commands (buffer .eager)).events = [.grown 0 2 40, .shrunk 2 2] := by
  intro config buffer commands
  have hblock : config.blockSize ≠ 0 := by decide
  rcases (policies_differ_in_echoes config).right Bool 4 (by decide) hblock with
    ⟨left, right, hleft, hright, hsame⟩
  have hlazy : Buffer.create 4 (config.settling .lazy) = .ok (buffer .lazy) := rfl
  have heager : Buffer.create 4 (config.settling .eager) = .ok (buffer .eager) := rfl
  cases hlazy.symm.trans hleft
  cases heager.symm.trans hright
  have hevents : (Buffer.run commands (buffer .lazy)).events = [.grown 0 2 40] := by cbv
  have hevents' : (Buffer.run commands (buffer .eager)).events =
      [.grown 0 2 40, .shrunk 2 2] := by cbv
  exact ⟨hblock, rfl, rfl, hsame commands, hevents, hevents'⟩

end BlockBuffer
