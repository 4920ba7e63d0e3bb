import BlockBuffer.Proofs.Buffer.Activities
import BlockBuffer.Proofs.ByteBuffer.Activities
import BlockBuffer.Proofs.Reachability

/-!
# A reservation is a promise

Slots that were reserved ahead are filled without a word to the heap, so it does not matter
what becomes of the heap later.  The promise holds for as many insertions as slots were asked
for, whatever the policy is; if removals give nothing back, it holds as long as the length
stays within the slots that were asked for.
-/

namespace BlockBuffer

/-- What it comes to that `amount` slots are reserved ahead of the elements. -/
structure Reserves {σ ρ : Type} (header : σ → Header) (refusal : ρ → Option BufferError)
    (config : Config) (limit amount : Nat) (before : Header) (step : Traced (Outcome σ ρ)) :
    Prop where
  faults_eq : step.faults = []
  granted_iff : refusal step.value.result = none ↔
    before.length + amount < UInt64.size ∧
      (before.length + amount ≤ before.reserved ∨
        config.Grants limit before.elementSize (before.length + amount))
  header_eq : refusal step.value.result = none →
    header step.value.state =
      { before with
        reserved := max before.reserved (before.length + amount)
        bytesAllocated :=
          32 + max before.reserved (before.length + amount) * before.elementSize }
  events_eq : refusal step.value.result = none →
    step.events =
      if before.length + amount ≤ before.reserved then []
      else [.grown before.reserved (before.length + amount)
        (32 + (before.length + amount) * before.elementSize)]

structure Served {σ κ ρ : Type} (reading : Reading σ κ ρ) (activity : κ → Activity)
    (accepts : σ → κ → Prop) (promised : Header) (entry : Entry σ κ ρ) : Prop where
  faults_eq : entry.step.faults = []
  events_eq : entry.step.events = []
  reserved_eq : (reading.header entry.after).reserved = promised.reserved
  bytesAllocated_eq : (reading.header entry.after).bytesAllocated = promised.bytesAllocated
  succeeds : accepts entry.before entry.command →
    reading.refusal entry.reply = none ∧
      (reading.header entry.after).length =
        (activity entry.command).lengthAfter (reading.header entry.before).length

/-- A buffer that has just promised room for `amount` more elements. -/
structure KeepsPromise {σ κ ρ : Type} (reading : Reading σ κ ρ) (activity : κ → Activity)
    (accepts : σ → κ → Prop) (config : Config) (amount : Nat) (start : σ) : Prop where
  of_count : ∀ commands : List (Nat × κ),
    (∀ entry ∈ commands, activity entry.2 = .insertion ∨ activity entry.2 = .access) →
    commands.countP (fun entry => activity entry.2 = .insertion) ≤ amount →
    ∀ entry ∈ history reading.step commands start,
      Served reading activity accepts (reading.header start) entry
  of_deferred : config.shrink = .deferred → ∀ commands : List (Nat × κ),
    (∀ entry ∈ commands, (activity entry.2).OnElements) →
    (∀ entry ∈ history reading.step commands start, activity entry.command = .insertion →
      (reading.header entry.before).length < (reading.header start).length + amount) →
    ∀ entry ∈ history reading.step commands start,
      Served reading activity accepts (reading.header start) entry

/-!
## What a reservation does
-/

namespace Reservation

variable {r : Reservation} {activity : Activity} {move : Move} {limit amount : Nat}

theorem reserves_of_le (hvalid : r.Valid) (h : r.header.length + amount ≤ r.header.reserved) :
    Reserves Reservation.header refusal r.config limit amount r.header
      (r.play limit (.reserve amount)) := by
  have hreserved : r.header.reserved < Word.limit :=
    Nat.lt_of_le_of_lt (Nat.le_add_right _ _) hvalid.reserved_lt_limit
  have hmax := Nat.max_eq_left h
  rw [play, reserve_of_le hvalid h]
  constructor
  · rfl
  · exact iff_of_true rfl ⟨Nat.lt_of_le_of_lt h hreserved, Or.inl h⟩
  · intro _
    rw [hmax, Nat.add_comm 32, ← headerSize, ← hvalid.bytesAllocated_eq]
    rfl
  · intro _
    rw [if_pos h]
    rfl

theorem reserves_of_fits (hvalid : r.Valid) (h : r.header.reserved < r.header.length + amount)
    (hfits : r.Fits limit (r.header.length + amount)) :
    Reserves Reservation.header refusal r.config limit amount r.header
      (r.play limit (.reserve amount)) := by
  have hgrants := fits_iff_grants.mp hfits
  have hslots : r.header.length + amount ≤
      (r.header.length + amount) * r.header.elementSize + headerSize :=
    Nat.le_add_right_of_le (Nat.le_mul_of_pos_right _ hvalid.elementSize_pos)
  rw [play, reserve_of_fits h hvalid.elementSize_pos hfits]
  constructor
  · rfl
  · exact iff_of_true rfl ⟨Nat.lt_of_le_of_lt hslots hgrants.left, Or.inr hgrants⟩
  · intro _
    rw [Nat.max_eq_right (Nat.le_of_lt h), Nat.add_comm 32]
    rfl
  · intro _
    rw [if_neg (Nat.not_le_of_lt h), Nat.add_comm 32]
    rfl

theorem reserves_of_not_fits (hvalid : r.Valid)
    (h : r.header.reserved < r.header.length + amount)
    (hfits : ¬ r.Fits limit (r.header.length + amount)) :
    Reserves Reservation.header refusal r.config limit amount r.header
      (r.play limit (.reserve amount)) := by
  rw [play, reserve_of_not_fits hvalid h hfits]
  constructor
  · rfl
  · apply iff_of_false (Option.some_ne_none _)
    rintro ⟨_, hle | hgrants⟩
    · exact Nat.not_le_of_lt h hle
    · exact hfits (fits_iff_grants.mpr hgrants)
  · exact fun hnone => absurd hnone (Option.some_ne_none _)
  · exact fun hnone => absurd hnone (Option.some_ne_none _)

theorem reserves_play (limit amount : Nat) (hvalid : r.Valid) :
    Reserves Reservation.header refusal r.config limit amount r.header
      (r.play limit (.reserve amount)) := by
  rcases Nat.lt_or_ge r.header.reserved (r.header.length + amount) with hgrows | hkept
  · by_cases hfits : r.Fits limit (r.header.length + amount)
    · exact reserves_of_fits hvalid hgrows hfits
    · exact reserves_of_not_fits hvalid hgrows hfits
  · exact reserves_of_le hvalid hkept

inductive Ends (r : Reservation) (activity : Activity) (move : Move) :
    Outcome Reservation (Result Unit) → Prop where
  | refused {error : BufferError} :
      move = .refuse error → Ends r activity move (.refused error r)
  | done : activity.lengthAfter r.header.length ≤ r.header.reserved →
      Ends r activity move
        { result := .ok (), state := r.withLength (activity.lengthAfter r.header.length) }

/-- With a slot for what is put in, and with removals that give nothing back, the slots are
left alone. -/
theorem play_of_room (limit : Nat) (hvalid : r.Valid)
    (hasks : activity.Asks r.header.length move) (hactivity : activity.OnElements)
    (hroom : activity = .insertion → r.header.length < r.header.reserved)
    (hpolicy : activity = .removal → r.config.shrink = .deferred) :
    ∃ outcome, r.play limit move = pure outcome ∧ r.Ends activity move outcome := by
  have hless : r.header.length - 1 ≤ r.header.reserved :=
    Nat.le_trans (Nat.sub_le _ _) hvalid.length_le
  cases hasks with
  | refused _ => exact ⟨_, rfl, .refused rfl⟩
  | misplaced _ => exact ⟨_, rfl, .refused rfl⟩
  | touch => exact ⟨_, rfl, .done hvalid.length_le⟩
  | extend =>
      refine ⟨_, ?_, .done (hroom rfl)⟩
      rw [play, ensure_of_le (hroom rfl), pure_bind]
      rfl
  | drop =>
      refine ⟨_, ?_, .done hless⟩
      rw [play, settle_eq (hvalid.withLength hless), config_withLength, hpolicy rfl]
      rfl
  | nothing hnone =>
      have hsame : r.header.length = r.header.length - 1 := by rw [hnone]
      refine ⟨_, ?_, .done hless⟩
      rw [Activity.lengthAfter, ← hsame]
      rfl
  | _ => exact absurd hactivity id

end Reservation

/-!
## One step
-/

namespace ActiveKind

variable {σ κ ρ : Type} {kind : ActiveKind σ κ ρ} {state : σ} {command : κ} {r : Reservation}
  {promised : Header} {amount : Nat} {commands : List (Nat × κ)}

theorem reserves_step (hkeeps : kind.keeps state r) (hvalid : r.Valid) (limit : Nat)
    (hmove : kind.move state command = .reserve amount) :
    Reserves kind.header kind.refusal kind.config limit amount (kind.header state)
      (kind.step limit state command) := by
  have hplays := kind.plays limit hkeeps command
  have hasks := kind.asks hkeeps command
  rw [hmove] at hasks
  have hactivity : kind.activity command = .reservation := hasks.eq_of_move rfl
  have hsilent : ∀ event, ¬ (kind.activity command).Announces event := by
    rw [hactivity]
    exact nofun
  have hevents := events_of_silent hkeeps limit hsilent
  have hreserves := Reservation.reserves_play limit amount hvalid
  have hagree := hplays.agree
  have hheader := kind.header_eq hplays.state_related
  rw [hmove] at hagree hheader hevents
  rw [kind.config_eq hkeeps] at hreserves
  rw [kind.header_eq hkeeps]
  constructor
  · exact hplays.left_faults
  · rw [hagree]
    exact hreserves.granted_iff
  · intro hgranted
    rw [hagree] at hgranted
    rw [hheader]
    exact hreserves.header_eq hgranted
  · intro hgranted
    rw [hagree] at hgranted
    rw [hevents]
    exact hreserves.events_eq hgranted

def Promised (kind : ActiveKind σ κ ρ) (promised : Header) (state : σ) : Prop :=
  ∃ r, kind.keeps state r ∧ r.Valid ∧ r.header.reserved = promised.reserved ∧
    r.header.bytesAllocated = promised.bytesAllocated

/-- A command on elements that finds a slot for what it puts in and gives none back. -/
structure HasRoom (kind : ActiveKind σ κ ρ) (promised : Header) (state : σ)
    (command : κ) : Prop where
  onElements : (kind.activity command).OnElements
  room : kind.activity command = .insertion → (kind.header state).length < promised.reserved
  policy : kind.activity command = .removal → kind.config.shrink = .deferred

theorem ends_step (hkeeps : kind.keeps state r) (hvalid : r.Valid)
    (hreserved : r.header.reserved = promised.reserved) (limit : Nat)
    (hroom : kind.HasRoom promised state command) :
    ∃ outcome, r.Ends (kind.activity command) (kind.move state command) outcome ∧
      (kind.step limit state command).faults = [] ∧
        (kind.step limit state command).events = [] ∧
      kind.refusal (kind.step limit state command).value.result = refusal outcome.result ∧
      kind.keeps (kind.step limit state command).value.state outcome.state := by
  have hplays := kind.plays limit hkeeps command
  have hslot : kind.activity command = .insertion → r.header.length < r.header.reserved := by
    rw [hreserved, ← kind.header_eq hkeeps]
    exact hroom.room
  have hpolicy : kind.activity command = .removal → r.config.shrink = .deferred := by
    rw [kind.config_eq hkeeps]
    exact hroom.policy
  rcases Reservation.play_of_room limit hvalid (kind.asks hkeeps command)
    hroom.onElements hslot
    hpolicy with ⟨outcome, hplayed, hends⟩
  have hevents := events_of_silent hkeeps limit hroom.onElements.silent
  rw [hplayed] at hplays hevents
  exact ⟨outcome, hends, hplays.left_faults, hevents, hplays.agree, hplays.state_related⟩

theorem served_step (h : kind.Promised promised state) (limit : Nat)
    (hroom : kind.HasRoom promised state command) :
    Served kind.toKind.toReading kind.activity kind.accepts promised
        { before := state, command := command, step := kind.step limit state command } ∧
      kind.Promised promised (kind.step limit state command).value.state ∧
      (kind.header (kind.step limit state command).value.state).length ≤
        (kind.header state).length + if kind.activity command = .insertion then 1 else 0 := by
  rcases h with ⟨r, hkeeps, hvalid, hreserved, hbytes⟩
  rcases ends_step hkeeps hvalid hreserved limit hroom with
    ⟨outcome, hends, hfaults, hevents, hagree, hstate⟩
  have hbefore := kind.header_eq hkeeps
  have hafter := kind.header_eq hstate
  cases hends with
  | @refused error hmove =>
      refine ⟨⟨hfaults, hevents, ?_, ?_, ?_⟩, ⟨r, hstate, hvalid, hreserved, hbytes⟩, ?_⟩
      · exact (congrArg Header.reserved hafter).trans hreserved
      · exact (congrArg Header.bytesAllocated hafter).trans hbytes
      · intro haccepts
        exact absurd hmove (kind.accepted hkeeps hvalid haccepts error)
      · rw [hafter, hbefore]
        exact Nat.le_add_right _ _
  | done hlength =>
      refine ⟨⟨hfaults, hevents, ?_, ?_, ?_⟩,
        ⟨_, hstate, hvalid.withLength hlength, hreserved, hbytes⟩, ?_⟩
      · exact (congrArg Header.reserved hafter).trans hreserved
      · exact (congrArg Header.bytesAllocated hafter).trans hbytes
      · intro _
        refine ⟨hagree, ?_⟩
        rw [hbefore]
        exact congrArg Header.length hafter
      · rw [hafter, hbefore]
        exact Activity.lengthAfter_le _ _

/-!
## Whole runs
-/

theorem served_run (h : kind.Promised promised state)
    (hroom : ∀ entry ∈ history kind.step commands state,
      kind.HasRoom promised entry.before entry.command) :
    ∀ entry ∈ history kind.step commands state,
      Served kind.toKind.toReading kind.activity kind.accepts promised entry := by
  refine forall_mem_history (kind.Promised promised) ?_ commands h hroom
  intro limit state command hpromised hfirst
  rcases served_step hpromised limit hfirst with ⟨hserved, hnext, _⟩
  exact ⟨hserved, hnext⟩

/-- As long as there are slots for all insertions that are to come, each of them finds a slot.
-/
theorem hasRoom_of_count (h : kind.Promised promised state)
    (hactivity : ∀ entry ∈ commands,
      kind.activity entry.2 = .insertion ∨ kind.activity entry.2 = .access)
    (hcount : (kind.header state).length +
      commands.countP (fun entry => kind.activity entry.2 = .insertion) ≤ promised.reserved) :
    ∀ entry ∈ history kind.step commands state,
      kind.HasRoom promised entry.before entry.command := by
  induction commands generalizing state with
  | nil => exact List.forall_mem_nil _
  | cons entry rest ih =>
      rcases entry with ⟨limit, command⟩
      rcases List.forall_mem_cons.mp hactivity with ⟨hfirst, hlater⟩
      simp only [List.countP_cons, decide_eq_true_eq] at hcount
      have hroom : kind.HasRoom promised state command := by
        constructor
        · rcases hfirst with hinsertion | haccess
          · rw [hinsertion]
            exact trivial
          · rw [haccess]
            exact trivial
        · intro hinsertion
          rw [if_pos hinsertion] at hcount
          exact Nat.lt_of_lt_of_le (Nat.lt_add_of_pos_right (Nat.succ_pos _)) hcount
        · intro hremoval
          rw [hremoval] at hfirst
          rcases hfirst with hinsertion | haccess
          · cases hinsertion
          · cases haccess
      -- The slot that an insertion takes is one less to count, so the sum stays within bounds.
      rcases served_step h limit hroom with ⟨_, hnext, hlength⟩
      refine List.forall_mem_cons.mpr ⟨hroom, ih hnext hlater ?_⟩
      apply Nat.le_trans (Nat.add_le_add_right hlength _)
      rwa [Nat.add_right_comm, Nat.add_assoc]

theorem keepsPromise (hkeeps : kind.keeps state r) (hvalid : r.Valid)
    (hreserved : r.header.length + amount ≤ r.header.reserved) :
    KeepsPromise kind.toKind.toReading kind.activity kind.accepts kind.config
      amount state := by
  have hheader := kind.header_eq hkeeps
  have hpromised : kind.Promised (kind.header state) state :=
    ⟨r, hkeeps, hvalid, congrArg Header.reserved hheader.symm,
      congrArg Header.bytesAllocated hheader.symm⟩
  rw [← hheader] at hreserved
  constructor
  · intro commands hactivity hcount
    apply served_run hpromised
    exact hasRoom_of_count hpromised hactivity
      (Nat.le_trans (Nat.add_le_add_left hcount _) hreserved)
  · intro hpolicy commands honElements hlength
    apply served_run hpromised
    intro entry hmem
    rcases exists_mem_of_mem_history hmem with ⟨limit, hcommand⟩
    constructor
    · exact honElements _ hcommand
    · intro hinsertion
      exact Nat.lt_of_lt_of_le (hlength entry hmem hinsertion) hreserved
    · intro _
      exact hpolicy

theorem keepsPromise_step (hkeeps : kind.keeps state r) (hvalid : r.Valid) (limit : Nat)
    (hmove : kind.move state command = .reserve amount)
    (hgranted : kind.refusal (kind.step limit state command).value.result = none) :
    KeepsPromise kind.toKind.toReading kind.activity kind.accepts kind.config amount
      (kind.step limit state command).value.state := by
  have hplays := kind.plays limit hkeeps command
  have hagree := hplays.agree
  have hstate := hplays.state_related
  have hreserved := Reservation.suffices_reserve limit amount hvalid
  rw [hgranted] at hagree
  rw [hmove, Reservation.play, Traced.value_bind] at hagree hstate
  generalize (r.reserve limit amount).value = reserved at hagree hstate hreserved
  cases hreserved with
  | refused => cases hagree
  | enough hslots hgrown => exact keepsPromise hstate hgrown hslots

end ActiveKind

/-!
## Both kinds of buffer
-/

/-- A buffer of either kind that can be reached reserves slots exactly if it has them or the
ceiling and the heap have their bytes, and then keeps its promise on whatever heaps there are
later. -/
theorem reservation_is_a_promise :
    (∀ (config : Config) (buffer : ByteBuffer), ByteBuffer.Reachable config buffer →
      buffer.isInitialized = true → ∀ limit amount : Nat,
      let asked := buffer.step limit (.reserve amount)
      Reserves ByteBuffer.header ByteBuffer.Reply.refusal config limit amount
        buffer.header asked ∧
        (asked.value.result.refusal = none →
          KeepsPromise ByteBuffer.reading ByteBuffer.Command.activity ByteBuffer.Accepts config
            amount asked.value.state)) ∧
    ∀ (α : Type) (elementSize : Nat) (config : Config) (buffer : Buffer α),
      Buffer.Reachable elementSize config buffer → ∀ limit amount : Nat,
      let asked := buffer.step limit (.reserve amount)
      Reserves Buffer.header Buffer.Reply.refusal config limit amount buffer.header asked ∧
        (asked.value.result.refusal = none →
          KeepsPromise (Buffer.reading α) Buffer.Command.activity Buffer.Accepts config amount
            asked.value.state) := by
  constructor
  · intro config buffer hreachable hinitialized limit amount asked
    rcases hreachable.represents with ⟨list, hlist⟩
    cases hlist with
    | uninitialized => cases hinitialized
    | @initialized r elements hconfig hcounts =>
        have hkeeps : (ByteBuffer.activeKind config).keeps (ByteBuffer.holding r elements) r :=
          .initialized hconfig hcounts
        have hmove : (ByteBuffer.activeKind config).move (ByteBuffer.holding r elements)
            (.reserve amount) = .reserve amount := rfl
        exact ⟨ActiveKind.reserves_step hkeeps hcounts.valid limit hmove,
          ActiveKind.keepsPromise_step hkeeps hcounts.valid limit hmove⟩
  · intro α elementSize config buffer hreachable limit amount asked
    rcases hreachable.represents with ⟨items, hitems⟩
    have hkeeps : (Buffer.activeKind α elementSize config).keeps buffer buffer.reservation :=
      hitems.keeps
    have hmove : (Buffer.activeKind α elementSize config).move buffer (.reserve amount) =
        .reserve amount := rfl
    have hvalid := hitems.keeps.valid
    exact ⟨ActiveKind.reserves_step hkeeps hvalid limit hmove,
      ActiveKind.keepsPromise_step hkeeps hvalid limit hmove⟩

theorem reservation_is_a_promise_on_an_exhausted_heap :
    let buffer := ByteBuffer.holding { header := .unreserved 4, config := {} } []
    let asked := buffer.step 8 (.reserve 2)
    let pushes : List (Nat × ByteBuffer.Command) :=
      [(0, .pushBack [1, 2, 3, 4]), (0, .get 0), (0, .insert 0 [5, 6, 7, 8])]
    let turns : List (Nat × ByteBuffer.Command) :=
      [(0, .pushBack [1, 2, 3, 4]), (0, .popFront none), (0, .pushFront [5, 6, 7, 8])]
    let serves (commands : List (Nat × ByteBuffer.Command)) : Prop :=
      ∀ entry ∈ history ByteBuffer.step commands asked.value.state,
        Served ByteBuffer.reading ByteBuffer.Command.activity ByteBuffer.Accepts
          asked.value.state.header entry
    ByteBuffer.Reachable {} buffer ∧ buffer.isInitialized = true ∧
      asked.value.result.refusal = none ∧ asked.value.state.reserved = 2 ∧ serves pushes ∧
      serves turns := by
  intro buffer asked pushes turns serves
  have hreachable : ByteBuffer.Reachable {} buffer := ⟨[(96, .init 4)], rfl⟩
  have hgranted : asked.value.result.refusal = none := rfl
  rcases reservation_is_a_promise.left {} buffer hreachable rfl 8 2 with ⟨_, hkeeps⟩
  have hpushes : ∀ entry ∈ pushes,
      entry.2.activity = .insertion ∨ entry.2.activity = .access := by decide
  have hturns : ∀ entry ∈ turns, entry.2.activity.OnElements :=
    List.forall_mem_cons.mpr ⟨trivial, List.forall_mem_cons.mpr ⟨trivial,
      List.forall_mem_singleton.mpr trivial⟩⟩
  have hlength : ∀ entry ∈ history ByteBuffer.step turns asked.value.state,
      entry.command.activity = .insertion →
        entry.before.header.length < asked.value.state.header.length + 2 := by
    intro entry hmem _
    cases hmem with
    | head => decide
    | tail _ hmem =>
        cases hmem with
        | head => decide
        | tail _ hmem =>
            cases hmem with
            | head => decide
            | tail _ hmem => cases hmem
  exact ⟨hreachable, rfl, hgranted, rfl, (hkeeps hgranted).of_count pushes hpushes (by decide),
    (hkeeps hgranted).of_deferred rfl turns hturns hlength⟩

end BlockBuffer
