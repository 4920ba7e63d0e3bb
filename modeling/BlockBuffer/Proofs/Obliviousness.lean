import BlockBuffer.Proofs.Announcements
import BlockBuffer.Proofs.Reachability
import BlockBuffer.Proofs.SideBySide

/-!
# Storage is oblivious to places and contents

What a buffer does with its storage depends on how many elements there are, and not on what
they are or where they are put in and taken out.  So of two buffers with the same header, each
does with its storage what the other one does, as long as both insert, remove, overwrite and so
on at the same moments.
-/

namespace BlockBuffer

/-- What a command is for when places, values and ends are disregarded. -/
inductive Task where
  | insertion
  | removal
  | overwriting
  | reservation (amount : Nat)
  | compaction
  | cleanup
deriving DecidableEq, Repr

def Task.move : Task → Move
  | insertion => .extend
  | removal => .drop
  | overwriting => .keep
  | reservation amount => .reserve amount
  | compaction => .compact
  | cleanup => .release

/-- The commands that perform a task on a byte buffer: at a place that is there, with byte
strings of one element, and without breaking off. -/
inductive ByteBuffer.Performs (buffer : ByteBuffer) : Task → Command → Prop where
  | push {command : Command} : buffer.Pushes command → Performs buffer .insertion command
  | remove {index : Nat} {dest : Option Bytes} :
      index < buffer.length → (∀ place ∈ dest, place.length = buffer.elementSize) →
        Performs buffer .removal (.remove index dest)
  | popFront {dest : Option Bytes} :
      0 < buffer.length → (∀ place ∈ dest, place.length = buffer.elementSize) →
        Performs buffer .removal (.popFront dest)
  | popBack {dest : Option Bytes} :
      0 < buffer.length → (∀ place ∈ dest, place.length = buffer.elementSize) →
        Performs buffer .removal (.popBack dest)
  | copyFrom {index : Nat} {source : Bytes} :
      index < buffer.length → source.length = buffer.elementSize →
        Performs buffer .overwriting (.copyFrom index source)
  | modify {index : Nat} (change : InPlace) :
      index < buffer.length → Performs buffer .overwriting (.modify index change)
  | reserve (amount : Nat) : Performs buffer (.reservation amount) (.reserve amount)
  | compact : Performs buffer .compaction .compact
  | destroy : Performs buffer .cleanup .destroy
  | destroyWith (change : InPlace) {interruptAt : Option Nat} :
      (∀ calls ∈ interruptAt, buffer.length ≤ calls) →
        Performs buffer .cleanup (.destroyWith change interruptAt)

inductive Buffer.Performs {α : Type} (buffer : Buffer α) : Task → Command α → Prop where
  | push {command : Command α} : buffer.Pushes command → Performs buffer .insertion command
  | remove {index : Nat} : index < buffer.length → Performs buffer .removal (.remove index)
  | popFront : 0 < buffer.length → Performs buffer .removal .popFront
  | popBack : 0 < buffer.length → Performs buffer .removal .popBack
  | set {index : Nat} (value : α) :
      index < buffer.length → Performs buffer .overwriting (.set index value)
  | replace {index : Nat} (value : α) :
      index < buffer.length → Performs buffer .overwriting (.replace index value)
  | reserve (amount : Nat) : Performs buffer (.reservation amount) (.reserve amount)
  | compact : Performs buffer .compaction .compact
  | destroy : Performs buffer .cleanup .destroy
  | destroyWith {interruptAt : Option Nat} :
      (∀ calls ∈ interruptAt, buffer.length ≤ calls) →
        Performs buffer .cleanup (.destroyWith interruptAt)

def SameTask {σ τ κ μ ρ ν : Type} (performs : σ → Task → κ → Prop)
    (performs' : τ → Task → μ → Prop) (entry : Entry σ κ ρ) (entry' : Entry τ μ ν) : Prop :=
  ∃ task, performs entry.before task entry.command ∧
    performs' entry'.before task entry'.command

structure SameStorage {σ τ κ μ ρ ν : Type} (reading : Reading σ κ ρ) (reading' : Reading τ μ ν)
    (entry : Entry σ κ ρ) (entry' : Entry τ μ ν) : Prop where
  refusal_eq : reading'.refusal entry'.reply = reading.refusal entry.reply
  /-- No other error can come up. -/
  of_refused : ∀ error, reading.refusal entry.reply = some error →
    ∃ bytes, error = .allocation bytes
  header_eq : reading'.header entry'.after = reading.header entry.after
  events_eq : entry'.step.events = entry.step.events

/-!
## One step
-/

theorem Task.allocation_of_refused (task : Task) {r : Reservation} (hvalid : r.Valid)
    (limit : Nat) {error : BufferError}
    (h : refusal (r.play limit task.move).value.result = some error) :
    ∃ bytes, error = .allocation bytes := by
  cases task with
  | insertion => exact ⟨_, (Reservation.obtains_extend limit hvalid).of_refused h⟩
  | reservation amount =>
    exact ⟨_, (Reservation.obtains_reserve limit amount hvalid).of_refused h⟩
  | _ => cases h

theorem LoggingKind.sameStorage {σ τ κ μ ρ ν : Type} {kind : LoggingKind σ κ ρ}
    {kind' : LoggingKind τ μ ν} (hflavour : kind'.flavour = kind.flavour) {state : σ}
    {state' : τ} {r : Reservation} (hkeeps : kind.keeps state r)
    (hkeeps' : kind'.keeps state' r) (hvalid : r.Valid) (limit : Nat) {command : κ}
    {command' : μ} {task : Task} (hmove : kind.move state command = task.move)
    (hmove' : kind'.move state' command' = task.move) :
    SameStorage kind.toReading kind'.toReading
      { before := state, command := command, step := kind.step limit state command }
      { before := state', command := command', step := kind'.step limit state' command' } := by
  have hplays := kind.plays limit hkeeps command
  have hplays' := kind'.plays limit hkeeps' command'
  have hagree := hplays.agree
  have hagree' := hplays'.agree
  have hafter := kind.header_eq hplays.state_related
  have hafter' := kind'.header_eq hplays'.state_related
  rw [hmove] at hagree hafter
  rw [hmove'] at hagree' hafter'
  constructor
  · exact hagree'.trans hagree.symm
  · intro error hrefused
    exact task.allocation_of_refused hvalid limit (hagree.symm.trans hrefused)
  · exact hafter'.trans hafter.symm
  · show (kind'.step limit state' command').events = (kind.step limit state command).events
    rw [kind.events_eq limit hkeeps, kind'.events_eq limit hkeeps', hmove, hmove', hflavour]

/-!
## Tasks and moves
-/

theorem ending_of_unbroken {α : Type} (edit : α → α) {interruptAt : Option Nat}
    {elements : List α} (h : ∀ calls ∈ interruptAt, elements.length ≤ calls) :
    (sweep edit interruptAt elements).ending = .completed := by
  rw [sweep_of_unbroken edit h]

namespace ByteBuffer

variable {r : Reservation} {task : Task} {command : Command}

theorem move_of_performs {config : Config} {buffer : ByteBuffer} (h : Keeps config buffer r)
    (hvalid : r.Valid) (hperforms : Performs buffer task command) :
    buffer.move command = task.move := by
  cases h with
  | uninitialized => exact absurd hvalid.elementSize_pos (Nat.lt_irrefl 0)
  | @initialized r elements hconfig hcounts =>
      have hlength := length_holding hcounts
      have hremove : ∀ {index : Nat} {dest : Option Bytes}, index < elements.length →
          (∀ place ∈ dest, place.length = r.header.elementSize) →
          Move.guarded ((holding r elements).checkRemove index dest) .drop = .drop := by
        intro index dest hindex hdest
        rw [checkRemove_of_fits hcounts hindex hdest]
        rfl
      cases hperforms with
      | push hpush => exact move_of_pushes (.initialized hconfig hcounts) hvalid hpush
      | remove hindex hdest =>
          rw [hlength] at hindex
          exact hremove hindex hdest
      | popFront hsome hdest =>
          rw [move, initialized_holding, Move.guarded, if_neg (Nat.ne_of_gt hsome)]
          rw [hlength] at hsome
          exact hremove hsome hdest
      | popBack hsome hdest =>
          rw [move, initialized_holding, Move.guarded, if_neg (Nat.ne_of_gt hsome), hlength]
          rw [hlength] at hsome
          exact hremove (Nat.sub_one_lt_of_lt hsome) hdest
      | copyFrom hindex hsize =>
          rw [hlength] at hindex
          rw [elementSize_holding] at hsize
          rw [move, checkCopy_of_lt hcounts hindex, if_pos hsize]
          rfl
      | modify _ _ => rfl
      | reserve _ => rfl
      | compact => rfl
      | destroy => rfl
      | destroyWith change hcalls =>
          rw [hlength] at hcalls
          rw [move, initialized_holding, elements_holding hcounts,
            ending_of_unbroken change.edit hcalls]
          rfl

end ByteBuffer

theorem Buffer.Performs.move_eq {α : Type} {buffer : Buffer α} {task : Task}
    {command : Command α}
    (h : Performs buffer task command) : buffer.move command = task.move := by
  cases h with
  | push hpush => exact move_of_pushes hpush
  | remove hindex =>
      rw [move, checkIndex_of_lt hindex]
      rfl
  | popFront hsome => exact if_neg (Nat.ne_of_gt hsome)
  | popBack hsome => exact if_neg (Nat.ne_of_gt hsome)
  | set _ _ => rfl
  | replace _ hindex =>
      rw [move, checkIndex_of_lt hindex]
      rfl
  | reserve _ => rfl
  | compact => rfl
  | destroy => rfl
  | destroyWith hcalls =>
      rw [move, ending_of_unbroken id hcalls]
      rfl

/-!
## Whole runs
-/

theorem Reservation.eq_of_header_eq {r r' : Reservation} (hheader : r.header = r'.header)
    (hconfig : r.config = r'.config) : r = r' := by
  cases r with
  | mk header config =>
      cases r' with
      | mk header' config' =>
          cases hheader
          cases hconfig
          rfl

theorem LoggingKind.forall₂_sameStorage {σ τ κ μ ρ ν : Type} (kind : LoggingKind σ κ ρ)
    (kind' : LoggingKind τ μ ν) (hflavour : kind'.flavour = kind.flavour)
    (hconfig : kind'.config = kind.config)
    {performs : σ → Task → κ → Prop} {performs' : τ → Task → μ → Prop}
    (hmove : ∀ {state r task command}, kind.keeps state r → r.Valid →
      performs state task command → kind.move state command = task.move)
    (hmove' : ∀ {state r task command}, kind'.keeps state r → r.Valid →
      performs' state task command → kind'.move state command = task.move)
    {commands : List (Nat × κ)} {commands' : List (Nat × μ)} {state : σ} {state' : τ}
    {r r' : Reservation} (hlimits : commands.map Prod.fst = commands'.map Prod.fst)
    (hkeeps : kind.keeps state r) (hkeeps' : kind'.keeps state' r') (hvalid : r.Valid)
    (hheader : kind.header state = kind'.header state')
    (htasks : List.Forall₂ (SameTask performs performs') (history kind.step commands state)
      (history kind'.step commands' state')) :
    List.Forall₂ (SameStorage kind.toReading kind'.toReading)
      (history kind.step commands state) (history kind'.step commands' state') := by
  have hsame : r = r' := by
    apply Reservation.eq_of_header_eq
    · exact (kind.header_eq hkeeps).symm.trans (hheader.trans (kind'.header_eq hkeeps'))
    · exact (kind.config_eq hkeeps).trans (hconfig.symm.trans (kind'.config_eq hkeeps').symm)
  subst hsame
  refine forall₂_history
    (fun state state' => ∃ r, kind.keeps state r ∧ kind'.keeps state' r ∧ r.Valid) ?_ hlimits
    ⟨r, hkeeps, hkeeps', hvalid⟩ htasks
  rintro limit state state' command command' ⟨r, hkept, hkept', hvalid⟩ entry entry'
    ⟨task, hperforms, hperforms'⟩
  have hplayed := hmove hkept hvalid hperforms
  have hplayed' := hmove' hkept' hvalid hperforms'
  have hnext := (kind.plays limit hkept command).state_related
  have hnext' := (kind'.plays limit hkept' command').state_related
  rw [hplayed] at hnext
  rw [hplayed'] at hnext'
  exact ⟨kind.sameStorage hflavour hkept hkept' hvalid limit hplayed hplayed',
    _, hnext, hnext', r.valid_play limit _ hvalid⟩

/-- Two buffers of one kind with the same header, whatever they hold, do the same with their
storage on every run, as long as they perform the same tasks on the same heaps. -/
theorem storage_is_oblivious :
    (∀ (config : Config) (left right : ByteBuffer), ByteBuffer.Reachable config left →
      ByteBuffer.Reachable config right → left.isInitialized = true →
      left.header = right.header →
      ∀ commands commands' : List (Nat × ByteBuffer.Command),
        commands.map Prod.fst = commands'.map Prod.fst →
        List.Forall₂ (SameTask ByteBuffer.Performs ByteBuffer.Performs)
          (history ByteBuffer.step commands left) (history ByteBuffer.step commands' right) →
        List.Forall₂ (SameStorage ByteBuffer.reading ByteBuffer.reading)
          (history ByteBuffer.step commands left) (history ByteBuffer.step commands' right)) ∧
    ∀ (α β : Type) (elementSize : Nat) (config : Config) (left : Buffer α) (right : Buffer β),
      Buffer.Reachable elementSize config left → Buffer.Reachable elementSize config right →
      left.header = right.header →
      ∀ (commands : List (Nat × Buffer.Command α)) (commands' : List (Nat × Buffer.Command β)),
        commands.map Prod.fst = commands'.map Prod.fst →
        List.Forall₂ (SameTask Buffer.Performs Buffer.Performs)
          (history Buffer.step commands left) (history Buffer.step commands' right) →
        List.Forall₂ (SameStorage (Buffer.reading α) (Buffer.reading β))
          (history Buffer.step commands left) (history Buffer.step commands' right) := by
  constructor
  · intro config left right hleft hright hinitialized hheader commands commands' hlimits htasks
    rcases hleft.represents with ⟨list, hlist⟩
    rcases hright.represents with ⟨list', hlist'⟩
    rcases hlist.keeps with ⟨r, hkeeps⟩
    rcases hlist'.keeps with ⟨r', hkeeps'⟩
    exact (ByteBuffer.loggingKind config).forall₂_sameStorage
      (ByteBuffer.loggingKind config) rfl rfl
      ByteBuffer.move_of_performs ByteBuffer.move_of_performs hlimits hkeeps hkeeps'
      (hkeeps.valid hinitialized) hheader htasks
  · intro α β elementSize config left right hleft hright hheader commands commands'
      hlimits htasks
    rcases hleft.represents with ⟨items, hitems⟩
    rcases hright.represents with ⟨items', hitems'⟩
    exact (Buffer.loggingKind α elementSize config).forall₂_sameStorage
      (Buffer.loggingKind β elementSize config) rfl rfl (fun _ _ h => h.move_eq)
      (fun _ _ h => h.move_eq) hlimits hitems.keeps hitems'.keeps hitems.keeps.valid
        hheader htasks

theorem storage_is_oblivious_at_either_end :
    let config : Config := { minCapacity := 0, blockSize := 4, shrink := .lazy }
    let left : Buffer Bool := { items := [], reservation := ⟨.unreserved 4, config⟩ }
    let right : Buffer Nat := { items := [], reservation := ⟨.unreserved 4, config⟩ }
    let commands : List (Nat × Buffer.Command Bool) :=
      [(15, .pushFront true), (15, .pushBack false), (0, .popFront)]
    let commands' : List (Nat × Buffer.Command Nat) :=
      [(15, .pushBack 7), (15, .insert 0 8), (0, .remove 1)]
    Buffer.Reachable 4 config left ∧ Buffer.Reachable 4 config right ∧
      left.header = right.header ∧
      commands.map Prod.fst = commands'.map Prod.fst ∧
      List.Forall₂ (SameTask Buffer.Performs Buffer.Performs)
        (history Buffer.step commands left) (history Buffer.step commands' right) ∧
      List.Forall₂ (SameStorage (Buffer.reading Bool) (Buffer.reading Nat))
        (history Buffer.step commands left) (history Buffer.step commands' right) := by
  intro config left right commands commands'
  have hleft : Buffer.Reachable 4 config left := ⟨left, [], rfl, rfl⟩
  have hright : Buffer.Reachable 4 config right := ⟨right, [], rfl, rfl⟩
  have htasks : List.Forall₂ (SameTask Buffer.Performs Buffer.Performs)
      (history Buffer.step commands left) (history Buffer.step commands' right) := by
    refine .cons ⟨_, .push trivial, .push trivial⟩
      (.cons ⟨_, .push trivial, .push (Nat.zero_le _)⟩
        (.cons ⟨_, .popFront ?_, .remove ?_⟩ .nil))
    · cbv
    · cbv
  exact ⟨hleft, hright, rfl, rfl, htasks,
    storage_is_oblivious.right Bool Nat 4 config left right hleft hright rfl
      commands commands' rfl
      htasks⟩

end BlockBuffer
