import BlockBuffer.Proofs.Buffer.Refinement
import BlockBuffer.Proofs.ByteBuffer.Refinement
import BlockBuffer.Proofs.Encoding
import BlockBuffer.Proofs.Lockstep
import Mathlib.Data.List.InsertIdx

/-!
# The two kinds of buffer agree

A buffer of values and a byte buffer of their encodings keep the same reservation.  Each
operation asks the same of it in both, so the headers, the answers and what the reservation
logs never differ.
-/

namespace BlockBuffer

variable {α : Type}

structure Encoding.Counts (encoding : Encoding α) (r : Reservation)
    (items : List α) : Prop where
  counts : r.Counts (items.map encoding.encode)
  size_eq : r.header.elementSize = encoding.size

/-- A buffer of values beside the byte buffer of their encodings, with the same reservation. -/
inductive Mirrors (encoding : Encoding α) : Buffer α → ByteBuffer → Prop where
  | intro {items : List α} {r : Reservation} : encoding.Counts r items →
      Mirrors encoding (Buffer.holding r items)
        (.holding r (items.map encoding.encode))

variable {encoding : Encoding α} {r : Reservation} {items : List α}

namespace Encoding.Counts

theorem valid (h : encoding.Counts r items) : r.Valid :=
  h.counts.valid

theorem length_eq (h : encoding.Counts r items) : r.header.length = items.length := by
  rw [h.counts.length_eq, List.length_map]

theorem length_encode (h : encoding.Counts r items) (value : α) :
    (encoding.encode value).length = r.header.elementSize := by
  rw [encoding.length_encode, h.size_eq]

theorem length_place (h : encoding.Counts r items) (place : Place encoding.size) :
    (place : Bytes).length = r.header.elementSize := by
  rw [place.property, h.size_eq]

theorem withSlots (h : encoding.Counts r items) {slots : Nat}
    (hvalid : (r.withSlots slots).Valid) : encoding.Counts (r.withSlots slots) items where
  counts := h.counts.withSlots hvalid
  size_eq := h.size_eq

end Encoding.Counts

/-!
## Putting values in and writing over them
-/

theorem insert_lockstep (limit : Nat) (h : encoding.Counts r items) (index : Nat) (value : α) :
    Lockstep (Mirrors encoding) Eq
      (Buffer.insert limit (Buffer.holding r items) index value)
      (ByteBuffer.insert limit (.holding r (items.map encoding.encode)) index
        (encoding.encode value)) := by
  rcases Nat.lt_or_ge items.length index with hindex | hindex
  · have houtside : (items.map encoding.encode).length < index := by rwa [List.length_map]
    rw [Buffer.insert_of_lt limit hindex,
      ByteBuffer.insert_of_error limit (ByteBuffer.checkInsert_of_lt h.counts houtside _),
      List.length_map]
    exact Lockstep.pure (.intro h) rfl
  · have hinside : index ≤ (items.map encoding.encode).length := by rwa [List.length_map]
    have hsource := h.length_encode value
    rcases Reservation.ensure_succ limit h.valid h.length_eq with ⟨hfaults, hensured⟩
    rw [Buffer.insert_of_le limit h.valid h.length_eq hindex,
      ByteBuffer.insert_of_fits limit h.counts hinside hsource, List.length_map]
    apply Lockstep.growth hfaults hensured
    · intro error
      exact Lockstep.pure (.intro h) rfl
    · intro slots hslots hgrown
      have hroom : (items.map encoding.encode).length + 1 ≤ slots := by rwa [List.length_map]
      have hcounts := ByteBuffer.counts_insertIdx h.counts hinside hsource hroom hgrown
      rw [List.length_map] at hcounts
      rw [← List.map_insertIdx] at hcounts ⊢
      exact Lockstep.pure (.intro ⟨hcounts, h.size_eq⟩) rfl

theorem exchange_lockstep (h : encoding.Counts r items) (index : Nat) (value : α)
    (place : Place encoding.size) :
    Lockstep (Mirrors encoding) (Agrees encoding.encode (some place))
      (pure ((Buffer.replace (Buffer.holding r items) index value).map .taken))
      (Outcome.map .delivered <$>
        ByteBuffer.exchange (.holding r (items.map encoding.encode)) index
          (encoding.encode value) place) := by
  unfold Buffer.replace ByteBuffer.exchange
  rw [Buffer.items_holding]
  rcases Nat.lt_or_ge index items.length with hindex | hindex
  · have hinside : index < (items.map encoding.encode).length := by rwa [List.length_map]
    have hsource := h.length_encode value
    have hcounts : encoding.Counts r (items.set index value) := by
      refine ⟨h.counts.exchange ?_ ?_, h.size_eq⟩
      · rw [List.length_map, List.length_map, List.length_set]
      · rw [List.map_set]
        exact h.counts.uniform.set hsource index
    rw [List.getElem?_eq_getElem hindex, ByteBuffer.copyTo_of_fits h.counts hinside
      (h.length_place place), pure_bind]
    dsimp only
    rw [ByteBuffer.copyFrom_of_fits h.counts hinside hsource, pure_bind, ← List.map_set,
      List.getElem_map]
    exact Lockstep.pure (.intro hcounts) (.taken _)
  · have houtside : (items.map encoding.encode).length ≤ index := by rwa [List.length_map]
    rw [List.getElem?_eq_none hindex,
      ByteBuffer.copyTo_of_error (ByteBuffer.checkCopy_of_le h.counts houtside _), pure_bind,
      List.length_map]
    exact Lockstep.pure (.intro h) (.refused _)

/-!
## Taking values out
-/

inductive Handed (encode : α → Bytes) : Result α → Delivery (Result Unit) → Prop where
  | intro (value : α) :
      Handed encode (.ok value) { result := .ok (), dest := some (encode value) }

theorem remove_lockstep_of_lt (h : encoding.Counts r items) {index : Nat}
    (hindex : index < items.length) (place : Place encoding.size) :
    Lockstep (Mirrors encoding) (Handed encoding.encode)
      (Buffer.remove (Buffer.holding r items) index)
      (ByteBuffer.remove (.holding r (items.map encoding.encode)) index (some place)) := by
  have hinside : index < (items.map encoding.encode).length := by rwa [List.length_map]
  have hplace : ∀ dest ∈ some (place : Bytes), dest.length = r.header.elementSize := by
    intro dest hdest
    cases hdest
    exact h.length_place place
  have hcounts := ByteBuffer.counts_eraseIdx h.counts hinside
  rw [List.length_map, List.eraseIdx_map] at hcounts
  rw [Buffer.remove_of_lt h.valid h.length_eq hindex,
    ByteBuffer.remove_of_fits h.counts hinside hplace, List.length_map, List.eraseIdx_map]
  apply Lockstep.bind (Reservation.faults_settle hcounts.valid)
  have hsettled := Reservation.valid_settle hcounts.valid
  rw [Reservation.value_settle hcounts.valid] at hsettled ⊢
  rw [List.getElem_map]
  exact Lockstep.pure (.intro ⟨hcounts.withSlots hsettled, h.size_eq⟩) (.intro _)

theorem remove_lockstep (h : encoding.Counts r items) (index : Nat)
    (place : Place encoding.size) :
    Lockstep (Mirrors encoding) (Agrees encoding.encode (some place))
      (Outcome.map .taken <$> Buffer.remove (Buffer.holding r items) index)
      (Outcome.map .delivered <$>
        ByteBuffer.remove (.holding r (items.map encoding.encode)) index (some place)) := by
  rcases Nat.lt_or_ge index items.length with hindex | hindex
  · apply (remove_lockstep_of_lt h hindex place).map
    intro taken delivery hhanded
    cases hhanded with
    | intro value => exact .taken value
  · have houtside : (items.map encoding.encode).length ≤ index := by rwa [List.length_map]
    have hrefused : (ByteBuffer.holding r (items.map encoding.encode)).checkRemove index
        (some place) = .error (.indexOutOfBounds index (items.map encoding.encode).length) :=
      ByteBuffer.checkCopy_of_le h.counts houtside _
    rw [Buffer.remove_of_le hindex, ByteBuffer.remove_of_error hrefused, List.length_map]
    exact Lockstep.pure (.intro h) (.refused _)

theorem pop_lockstep (h : encoding.Counts r items) {index : Nat}
    (hindex : index < items.length) {position : Nat → Traced Nat}
    (hposition : position items.length = pure index)
    (place : Place encoding.size) :
    Lockstep (Mirrors encoding) (Agrees encoding.encode (some place))
      (Outcome.map .value <$> Outcome.map Except.toOption <$>
        Buffer.remove (Buffer.holding r items) index)
      (Outcome.map .popped <$>
        ByteBuffer.popAt position (.holding r (items.map encoding.encode)) (some place)) := by
  have hne : items.map encoding.encode ≠ [] := by
    intro hnil
    rw [List.map_eq_nil_iff.mp hnil] at hindex
    exact Nat.not_lt_zero index hindex
  have hsame : position (items.map encoding.encode).length = pure index := by
    rwa [List.length_map]
  have hremoved := remove_lockstep_of_lt h hindex place
  rw [ByteBuffer.popAt_of_ne_nil h.counts hne hsame]
  have hpopped : Lockstep (Mirrors encoding)
      (fun value delivery =>
        Agrees encoding.encode (some place) (.value value) (.popped delivery))
      (Outcome.map Except.toOption <$> Buffer.remove (Buffer.holding r items) index)
      (Outcome.map Delivery.taken <$>
        ByteBuffer.remove (.holding r (items.map encoding.encode)) index (some place)) := by
    apply hremoved.map
    intro taken delivery hhanded
    cases hhanded with
    | intro value => exact .popped value
  exact hpopped.map fun _ _ hagrees => hagrees

theorem pop_lockstep_of_nil (h : encoding.Counts r []) (position : Nat → Traced Nat)
    (place : Place encoding.size) :
    Lockstep (Mirrors encoding) (Agrees encoding.encode (some place))
      (pure { result := .value none, state := (Buffer.holding r []) })
      (Outcome.map .popped <$> ByteBuffer.popAt position (.holding r []) (some place)) := by
  rw [ByteBuffer.popAt_of_nil h.counts]
  exact Lockstep.pure (.intro h) .nothing

theorem popFront_lockstep (h : encoding.Counts r items) (place : Place encoding.size) :
    Lockstep (Mirrors encoding) (Agrees encoding.encode (some place))
      (Outcome.map .value <$> Buffer.popFront (Buffer.holding r items))
      (Outcome.map .popped <$>
        ByteBuffer.popFront (.holding r (items.map encoding.encode)) (some place)) := by
  cases items with
  | nil => exact pop_lockstep_of_nil h _ place
  | cons item rest => exact pop_lockstep h (Nat.succ_pos _) rfl place

theorem popBack_lockstep (h : encoding.Counts r items) (place : Place encoding.size) :
    Lockstep (Mirrors encoding) (Agrees encoding.encode (some place))
      (Outcome.map .value <$> Buffer.popBack (Buffer.holding r items))
      (Outcome.map .popped <$>
        ByteBuffer.popBack (.holding r (items.map encoding.encode)) (some place)) := by
  cases items with
  | nil => exact pop_lockstep_of_nil h _ place
  | cons item rest =>
      have hposition : Word.sub (item :: rest).length 1 = pure ((item :: rest).length - 1) :=
        Word.sub_of_le (Nat.succ_pos _)
      exact pop_lockstep h (Nat.lt_succ_self _) hposition place

/-!
## Storage
-/

theorem reserve_lockstep (limit : Nat) (h : encoding.Counts r items) (amount : Nat) :
    Lockstep (Mirrors encoding) Eq
      (Buffer.reserve limit (Buffer.holding r items) amount)
      (ByteBuffer.reserve limit (.holding r (items.map encoding.encode)) amount) := by
  rw [Buffer.reserve_holding h.valid h.length_eq,
    ByteBuffer.reserve_holding limit amount h.counts]
  apply Lockstep.growth (Reservation.faults_reserve limit r amount)
    (Reservation.suffices_reserve limit amount h.valid)
  · intro error
    exact Lockstep.pure (.intro h) rfl
  · intro slots _ hgrown
    exact Lockstep.pure (.intro (h.withSlots hgrown)) rfl

theorem compact_lockstep (h : encoding.Counts r items) (limit : Nat) :
    Lockstep (Mirrors encoding) (Agrees encoding.encode none)
      (Buffer.step limit (Buffer.holding r items) .compact)
      (ByteBuffer.step limit (.holding r (items.map encoding.encode)) .compact) := by
  have htight := Reservation.valid_compact h.valid
  rw [Buffer.step, ByteBuffer.step, Buffer.compact_holding h.valid h.length_eq,
    ByteBuffer.compact_holding h.counts, bind_assoc, ← bind_pure_comp, bind_assoc]
  apply Lockstep.bind (Reservation.faults_compact h.valid)
  rw [Reservation.value_compact h.valid] at htight ⊢
  simp only [bind_assoc, pure_bind]
  exact Lockstep.emit rfl rfl (Lockstep.pure (.intro (h.withSlots htight)) .unit)

theorem destroy_lockstep (h : encoding.Counts r items) (limit : Nat) :
    Lockstep (Mirrors encoding) (Agrees encoding.encode none)
      (Buffer.step limit (Buffer.holding r items) .destroy)
      (ByteBuffer.step limit (.holding r (items.map encoding.encode)) .destroy) := by
  have hvalues : (sweep id none items).ending = .completed := by rw [sweep_none]
  have hbytes : (sweep InPlace.id.edit none (items.map encoding.encode)).ending =
      .completed := by
    rw [sweep_none]
  have hempty : encoding.Counts ((r.withLength 0).withSlots 0) [] :=
    ⟨⟨Reservation.valid_release h.valid, rfl, Bytes.Uniform.nil _⟩, h.size_eq⟩
  rw [Buffer.step, ByteBuffer.step, Buffer.destroy, ByteBuffer.destroy,
    Buffer.destroyWith_of_completed h.valid hvalues,
    ByteBuffer.destroyWith_of_completed h.counts hbytes, ← bind_pure_comp]
  simp only [bind_assoc, pure_bind]
  have hreleased : r.release.faults = [] := by
    rw [Reservation.release_eq h.valid]
    rfl
  apply Lockstep.bind hreleased
  rw [Reservation.release_eq h.valid]
  exact Lockstep.emit rfl rfl (Lockstep.pure (.intro hempty) .unit)

/-!
## Steps and runs
-/

theorem requiredBytes_lockstep (h : encoding.Counts r items) (limit length : Nat) :
    Lockstep (Mirrors encoding) (Agrees encoding.encode none)
      (Buffer.step limit (Buffer.holding r items) (.requiredBytes length))
      (ByteBuffer.step limit (.holding r (items.map encoding.encode))
        (.requiredBytes length)) := by
  rw [Buffer.step, ByteBuffer.step, Buffer.requiredBytes, Reservation.requiredBytes_eq_pure,
    ByteBuffer.requiredBytes_eq (.initialized rfl h.counts), pure_bind, pure_bind,
    ByteList.requiredBytes, Buffer.reservation_holding]
  dsimp only
  cases r.config.bytesFor r.header.elementSize length with
  | none => exact Lockstep.pure (.intro h) .noSize
  | some bytes => exact Lockstep.pure (.intro h) (.size bytes)

theorem get_lockstep (h : encoding.Counts r items) (limit index : Nat) :
    Lockstep (Mirrors encoding) (Agrees encoding.encode none)
      (Buffer.step limit (Buffer.holding r items) (.get index))
      (ByteBuffer.step limit (.holding r (items.map encoding.encode)) (.get index)) := by
  rw [Buffer.step, ByteBuffer.step, ByteBuffer.get_holding h.counts, pure_bind,
    List.getElem?_map]
  exact Lockstep.pure (.intro h) (.element _)

theorem step_lockstep {buffer : Buffer α} {bytes : ByteBuffer} (limit : Nat)
    (operation : Operation α encoding.size) (h : Mirrors encoding buffer bytes) :
    Lockstep (Mirrors encoding) (Agrees encoding.encode operation.place?)
      (buffer.step limit operation.onValues)
      (operation.onBytes encoding.encode limit bytes) := by
  have hdone : ∀ {place : Option Bytes} (left right : Result Unit), left = right →
      Agrees encoding.encode place (.done left) (.done right) := by
    intro place left right heq
    rw [heq]
    exact .done right
  cases h with
  | @intro items r h =>
      cases operation with
      | requiredBytes length => exact requiredBytes_lockstep h limit length
      | get index => exact get_lockstep h limit index
      | reserve amount => exact (reserve_lockstep limit h amount).map hdone
      | compact => exact compact_lockstep h limit
      | insert index value => exact (insert_lockstep limit h index value).map hdone
      | pushFront value => exact (insert_lockstep limit h 0 value).map hdone
      | pushBack value =>
          have hlength : (ByteBuffer.holding r (items.map encoding.encode)).length =
              items.length := h.length_eq
          rw [Operation.onBytes, ByteBuffer.step, ByteBuffer.pushBack, hlength]
          exact (insert_lockstep limit h items.length value).map hdone
      | remove index place => exact remove_lockstep h index place
      | replace index value place => exact exchange_lockstep h index value place
      | popFront place => exact popFront_lockstep h place
      | popBack place => exact popBack_lockstep h place
      | destroy => exact destroy_lockstep h limit

theorem Mirrors.header_eq {buffer : Buffer α} {bytes : ByteBuffer}
    (h : Mirrors encoding buffer bytes) : buffer.header = bytes.header := by
  cases h with
  | intro _ => rfl

theorem Mirrors.bytes_eq {buffer : Buffer α} {bytes : ByteBuffer}
    (h : Mirrors encoding buffer bytes) :
    bytes.bytes = (buffer.items.map encoding.encode).flatten := by
  cases h with
  | intro _ => rfl

theorem run_onValues (operations : List (Nat × Operation α encoding.size))
    (buffer : Buffer α) :
    Buffer.run (operations.map (Prod.map id Operation.onValues)) buffer =
      runAll (fun limit buffer operation => buffer.step limit operation.onValues) operations
        buffer := by
  unfold Buffer.run
  induction operations generalizing buffer with
  | nil => rfl
  | cons entry rest ih => simp only [List.map_cons, Prod.map, runAll, id_eq, ih]

/-- The same operations on a new buffer of values and on a new byte buffer for their encodings:
at every moment all answers have agreed, and so do the headers, the contents and all that the
reservations have logged. -/
theorem runs_agree (encoding : Encoding α) {config : Config} (hblock : config.blockSize ≠ 0)
    (operations : List (Nat × Operation α encoding.size)) :
    ∃ (fresh : Buffer α) (started : ByteBuffer),
      Buffer.create encoding.size config = .ok fresh ∧
      (ByteBuffer.init { config := config } encoding.size).value =
        { result := .ok (), state := started } ∧
      ∀ moment,
        let values :=
          Buffer.run ((operations.take moment).map (Prod.map id Operation.onValues)) fresh
        let bytes := runAll (fun limit buffer operation =>
          operation.onBytes encoding.encode limit buffer) (operations.take moment) started
        values.faults = [] ∧ bytes.faults = [] ∧
          values.reservationEvents = bytes.reservationEvents ∧
          AllAgree (fun operation => Agrees encoding.encode operation.place?)
            ((operations.take moment).map Prod.snd) values.value.result bytes.value.result ∧
          values.value.state.header = bytes.value.state.header ∧
          bytes.value.state.bytes =
            (values.value.state.items.map encoding.encode).flatten := by
  have hvalid := Reservation.valid_unreserved encoding.size_pos hblock
  have hnew : Mirrors encoding
      { items := [], reservation := { header := .unreserved encoding.size, config := config } }
      (.holding { header := .unreserved encoding.size, config := config } []) :=
    .intro ⟨⟨hvalid, rfl, Bytes.Uniform.nil _⟩, rfl⟩
  have hinit : (ByteBuffer.init { config := config } encoding.size).value =
      { result := .ok ()
        state := .holding { header := .unreserved encoding.size, config := config } [] } := by
    rw [ByteBuffer.init_of_create (Reservation.create_of_pos encoding.size_pos hblock)]
    rfl
  refine ⟨_, _, Buffer.create_of_pos encoding.size_pos hblock, hinit, ?_⟩
  intro moment
  have hrun := runAll_lockstep (fun limit _ _ operation h => step_lockstep limit operation h)
    (operations.take moment) hnew
  rw [run_onValues]
  exact ⟨hrun.left_faults, hrun.right_faults, hrun.events_eq, hrun.agree,
    hrun.state_related.header_eq, hrun.state_related.bytes_eq⟩

def Encoding.byte : Encoding UInt8 where
  size := 1
  encode byte := [byte]
  size_pos := Nat.one_pos
  length_encode _ := rfl

theorem runs_agree_on_bytes :
    let operations : List (Nat × Operation UInt8 1) :=
      [(16, .pushBack 7), (0, .pushFront 5), (0, .replace 0 9 ⟨[0], rfl⟩),
        (0, .popFront ⟨[0], rfl⟩), (0, .remove 1 ⟨[0], rfl⟩)]
    ({} : Config).blockSize ≠ 0 ∧
    ∃ (fresh : Buffer UInt8) (started : ByteBuffer),
      Buffer.create 1 {} = .ok fresh ∧
      (ByteBuffer.init {} 1).value = { result := .ok (), state := started } ∧
      (∀ moment,
        let values :=
          Buffer.run ((operations.take moment).map (Prod.map id Operation.onValues)) fresh
        let bytes := runAll (fun limit buffer operation =>
          operation.onBytes Encoding.byte.encode limit buffer) (operations.take moment) started
        values.faults = [] ∧ bytes.faults = [] ∧
          values.reservationEvents = bytes.reservationEvents ∧
          AllAgree (fun operation => Agrees Encoding.byte.encode operation.place?)
            ((operations.take moment).map Prod.snd) values.value.result bytes.value.result ∧
          values.value.state.header = bytes.value.state.header ∧
          bytes.value.state.bytes =
            (values.value.state.items.map Encoding.byte.encode).flatten) ∧
      let values := Buffer.run (operations.map (Prod.map id Operation.onValues)) fresh
      let bytes := runAll (fun limit buffer operation =>
        operation.onBytes Encoding.byte.encode limit buffer) operations started
      values.value.result =
        [.done (.ok ()), .done (.ok ()), .taken (.ok 5), .value (some 9),
          .taken (.error (.indexOutOfBounds 1 1))] ∧
      bytes.value.result =
        [.done (.ok ()), .done (.ok ()), .delivered ⟨.ok (), some [5]⟩,
          .popped ⟨.ok .ok, some [9]⟩,
          .delivered ⟨.error (.indexOutOfBounds 1 1), some [0]⟩] ∧
      values.value.state.items = [7] ∧ bytes.value.state.bytes = [7] ∧
      values.value.state.header = ⟨1, 1, 16, 48⟩ := by
  intro operations
  have hblock : ({} : Config).blockSize ≠ 0 := by decide
  rcases runs_agree Encoding.byte hblock operations with
    ⟨fresh, started, hcreate, hinit, hagree⟩
  have hfresh := hcreate
  have hstarted := congrArg Outcome.state hinit
  cases hfresh
  cases hstarted
  refine ⟨hblock, _, _, hcreate, hinit, hagree, ?_, ?_, ?_, ?_, ?_⟩
  · decide +kernel
  · decide +kernel
  · decide +kernel
  · decide +kernel
  · decide +kernel

end BlockBuffer
