import BlockBuffer.Proofs.Announcements
import BlockBuffer.Proofs.Reachability
import BlockBuffer.Proofs.Reservation.BackOff

/-!
# The exact result of a growth

Three things can refuse an attempt to grow: a number of bytes that is no word, the ceiling, and
the heap.  Together they come to one number, the greatest number of slots that is granted.  A
growth succeeds exactly if the bare length is no greater, ends with the first slack that is
small enough, and logs every slack before it.
-/

namespace BlockBuffer

/-- What a growth for `length` slots comes to.  If it is granted the header is `base` with the
new slots, and if it is refused the header is the one before. -/
structure BacksOff (config : Config) (limit : Nat) (before base : Header) (length : Nat)
    (refusal : Option BufferError) (after : Header) (events : List Event) : Prop where
  succeeds_iff : refusal = none ↔ length ≤ config.room limit before.elementSize
  granted : length ≤ config.room limit before.elementSize →
    ∃ retries slots,
      slots = length + (config.recommended length - length) / 2 ^ retries ∧
      IsLeast {retries | length + (config.recommended length - length) / 2 ^ retries ≤
        config.room limit before.elementSize} retries ∧
      after = { base with
                reserved := slots
                bytesAllocated := 32 + slots * before.elementSize } ∧
      events = (List.range retries).map (fun retry =>
          .backingOff length ((config.recommended length - length) / 2 ^ (retry + 1))) ++
        [.grown before.reserved slots (32 + slots * before.elementSize)]
  refused : config.room limit before.elementSize < length →
    refusal = some (.allocation (min (32 + length * before.elementSize) (UInt64.size - 1))) ∧
      after = before ∧
      ∃ retries,
        IsLeast {retries | (config.recommended length - length) / 2 ^ retries = 0} retries ∧
        events = (List.range retries).map (fun retry =>
            .backingOff length ((config.recommended length - length) / 2 ^ (retry + 1))) ++
          [.growthFailed length before.reserved]

/-- A growth that makes room for one more element also counts it. -/
theorem BacksOff.counted {config : Config} {limit length : Nat} {before after : Header}
    {events : List Event} {refusal : Option BufferError}
    (h : BacksOff config limit before before length refusal after events)
    {counted : Header} (hgranted : refusal = none → counted = { after with length := length })
    (hrefused : refusal ≠ none → counted = after) :
    BacksOff config limit before { before with length := length } length refusal counted
      events where
  succeeds_iff := h.succeeds_iff
  granted hroom := by
    rcases h.granted hroom with ⟨retries, slots, hslots, hleast, hafter, hevents⟩
    refine ⟨retries, slots, hslots, hleast, ?_, hevents⟩
    rw [hgranted (h.succeeds_iff.mpr hroom), hafter]
  refused hless := by
    rcases h.refused hless with ⟨hrefusal, hafter, hevents⟩
    refine ⟨hrefusal, ?_, hevents⟩
    rw [hrefused (by rw [hrefusal]; exact Option.some_ne_none _), hafter]

namespace Reservation

variable {r : Reservation} {limit length : Nat} {result : Result Reservation}
  {events : List Event}

theorem Descends.backsOff {σ : Type} (state : Nat → σ)
    (h : Descends limit r length (r.config.recommended length - length) result events) :
    BacksOff r.config limit r.header r.header length
      (refusal (Attempt.ofResult r state result).result)
      (Attempt.ofResult r state result).reservation.header events := by
  cases h with
  | @granted retries hroom hleast =>
      constructor
      · exact iff_of_true rfl hroom
      · intro _
        refine ⟨retries, _, rfl, hleast, ?_, ?_⟩
        · rw [Nat.add_comm 32]
          rfl
        · rw [Nat.add_comm 32]
          rfl
      · intro hless
        exact absurd hroom (Nat.not_le_of_lt hless)
  | @refused retries hless hleast =>
      constructor
      · exact iff_of_false (Option.some_ne_none _) (Nat.not_le_of_lt hless)
      · intro hroom
        exact absurd hroom (Nat.not_le_of_lt hless)
      · intro _
        refine ⟨?_, rfl, retries, hleast, rfl⟩
        rw [← demand_eq]
        rfl

/-- A growth on storage that has room for exactly the reserved slots. -/
theorem backsOff_growFor {σ : Type} {storage : Slots σ} {state : Nat → σ} {count : Nat}
    (h : storage.Backs r.header.elementSize count state) (hcount : count ≤ r.header.reserved)
    (limit : Nat) (hsize : 0 < r.header.elementSize) (hgrows : r.header.reserved < length)
    (hword : length < Word.limit) :
    let growth := storage.growFor limit r length (state r.header.reserved)
    growth.faults = [] ∧
      BacksOff r.config limit r.header r.header length (refusal growth.value.result)
        growth.value.reservation.header growth.events := by
  intro growth
  have hgrowth : growth = Attempt.ofResult r state <$> r.ensure limit length :=
    Slots.growFor_eq h hcount limit length
  rw [hgrowth, Traced.faults_map, Traced.events_map, Traced.value_map]
  exact ⟨faults_ensure limit r hword,
    (descends_ensure limit hsize hgrows hword).backsOff state⟩

theorem backsOff_extend (limit : Nat) (hvalid : r.Valid)
    (hfull : r.header.reserved < r.header.length + 1) :
    BacksOff r.config limit r.header { r.header with length := r.header.length + 1 }
      (r.header.length + 1) (refusal (r.play limit .extend).value.result)
      (r.play limit .extend).value.state.header (r.play limit .extend).events := by
  have hdescends := descends_ensure limit hvalid.elementSize_pos hfull
    hvalid.length_succ_lt_limit
  rw [events_play_extend, play, Traced.value_bind]
  generalize (r.ensure limit (r.header.length + 1)).value = result at hdescends ⊢
  have hbacks := hdescends.backsOff (Extent.mk r.header.length)
  cases result with
  | error error => exact hbacks.counted (absurd · (Option.some_ne_none error)) (fun _ => rfl)
  | ok grown => exact hbacks.counted (fun _ => rfl) (fun hne => absurd rfl hne)

end Reservation

theorem LoggingKind.backsOff_step {σ κ ρ : Type} (kind : LoggingKind σ κ ρ) {state : σ}
    {r : Reservation} (hkeeps : kind.keeps state r) (hvalid : r.Valid) (limit : Nat) {push : κ}
    (hmove : kind.move state push = .extend)
    (hfull : r.header.reserved < r.header.length + 1) :
    BacksOff kind.config limit (kind.header state)
      { kind.header state with length := (kind.header state).length + 1 }
      ((kind.header state).length + 1)
      (kind.refusal (kind.step limit state push).value.result)
      (kind.header (kind.step limit state push).value.state)
        (kind.step limit state push).events := by
  have hplays := kind.plays limit hkeeps push
  have hagree := hplays.agree
  have hafter := kind.header_eq hplays.state_related
  have hevents := kind.events_eq limit hkeeps push
  rw [hmove] at hagree hafter hevents
  have hlogged : (kind.step limit state push).events = (r.play limit .extend).events :=
    hevents.trans (List.append_nil _)
  rw [hagree, hafter, hlogged, kind.header_eq hkeeps, ← kind.config_eq hkeeps]
  exact Reservation.backsOff_extend limit hvalid hfull

/-!
## All growths for more elements
-/

/-- A growth finds the greatest number of slots that is granted, if it is asked for no more.
This holds of every header, and so of every insertion into a full buffer of either kind. -/
theorem growth_backs_off_to_the_room (config : Config) (limit : Nat) :
    (∀ elementSize, 0 < elementSize →
      config.IsCap limit elementSize (config.room limit elementSize)) ∧
    (∀ (header : Header) (count length : Nat), 0 < header.elementSize →
      count ≤ header.reserved → header.reserved < length → length < UInt64.size →
      let r : Reservation := { header := header, config := config }
      let bytes := (Slots.ofBytes header.elementSize).growFor limit r length
        { length := count * header.elementSize
          capacity := header.reserved * header.elementSize }
      let values := (Slots.ofValues header.elementSize).growFor limit r length
        { length := count
          capacity := header.reserved }
      bytes.faults = [] ∧ values.faults = [] ∧
        BacksOff config limit header header length (refusal bytes.value.result)
          bytes.value.reservation.header bytes.events ∧
        BacksOff config limit header header length (refusal values.value.result)
          values.value.reservation.header values.events) ∧
    (∀ buffer : ByteBuffer, ByteBuffer.Reachable config buffer → buffer.isInitialized = true →
      buffer.header.length = buffer.header.reserved →
      ∀ push : ByteBuffer.Command, buffer.Pushes push →
      let step := buffer.step limit push
      BacksOff config limit buffer.header
        { buffer.header with length := buffer.header.length + 1 } (buffer.header.length + 1)
        step.value.result.refusal step.value.state.header step.events) ∧
    ∀ (α : Type) (elementSize : Nat) (buffer : Buffer α),
      Buffer.Reachable elementSize config buffer →
      buffer.header.length = buffer.header.reserved →
      ∀ push : Buffer.Command α, buffer.Pushes push →
      let step := buffer.step limit push
      BacksOff config limit buffer.header
        { buffer.header with length := buffer.header.length + 1 } (buffer.header.length + 1)
        step.value.result.refusal step.value.state.header step.events := by
  refine ⟨fun elementSize hsize => config.isCap_room limit hsize, ?_, ?_, ?_⟩
  · intro header count length hsize hcount hgrows hword r bytes values
    rcases Reservation.backsOff_growFor (r := r) (Slots.backs_ofBytes hsize count) hcount limit
      hsize hgrows hword with ⟨hbytesFaults, hbytes⟩
    rcases Reservation.backsOff_growFor (r := r)
      (Slots.backs_ofValues header.elementSize count)
      hcount limit hsize hgrows hword with ⟨hvaluesFaults, hvalues⟩
    exact ⟨hbytesFaults, hvaluesFaults, hbytes, hvalues⟩
  · intro buffer hreachable hinitialized hfull push hpush step
    rcases hreachable.represents with ⟨list, hlist⟩
    rcases hlist.keeps with ⟨r, hkeeps⟩
    have hvalid := hkeeps.valid hinitialized
    rw [hkeeps.header_eq] at hfull
    exact (ByteBuffer.loggingKind config).backsOff_step hkeeps hvalid limit
      (ByteBuffer.move_of_pushes hkeeps hvalid hpush)
      (Nat.lt_succ_of_le (Nat.le_of_eq hfull.symm))
  · intro α elementSize buffer hreachable hfull push hpush step
    rcases hreachable.represents with ⟨items, hitems⟩
    have hkeeps : (Buffer.loggingKind α elementSize config).keeps buffer buffer.reservation :=
      hitems.keeps
    exact (Buffer.loggingKind α elementSize config).backsOff_step hkeeps
      hitems.keeps.valid limit
      (Buffer.move_of_pushes hpush) (Nat.lt_succ_of_le (Nat.le_of_eq hfull.symm))

theorem growth_backs_off_to_four_slots :
    let config : Config := { minCapacity := 8 }
    let r : Reservation := { header := .unreserved 4, config := config }
    let growth := (Slots.ofBytes 4).growFor 16 r 1 { length := 0, capacity := 0 }
    0 < r.header.elementSize ∧ r.header.reserved < 1 ∧ 1 < UInt64.size ∧ config.room 16 4 = 4 ∧
      BacksOff config 16 r.header r.header 1 (refusal growth.value.result)
        growth.value.reservation.header growth.events ∧
      growth.value.state = { length := 0, capacity := 16 } ∧
      growth.events = [.backingOff 1 3, .grown 0 4 48] := by
  intro config r growth
  have hsize : 0 < r.header.elementSize := by decide
  have hgrows : r.header.reserved < 1 := by decide
  have hword : 1 < UInt64.size := by decide
  have hroom : config.room 16 4 = 4 := by decide
  have hstate : growth.value.state = { length := 0, capacity := 16 } := by cbv
  have hevents : growth.events = [.backingOff 1 3, .grown 0 4 48] := by cbv
  have hbacks := (growth_backs_off_to_the_room config 16).right.left r.header 0 1 hsize
    (Nat.le_refl 0) hgrows hword
  exact ⟨hsize, hgrows, hword, hroom, hbacks.right.right.left, hstate, hevents⟩

end BlockBuffer
