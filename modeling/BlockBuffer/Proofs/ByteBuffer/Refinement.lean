import BlockBuffer.Proofs.ByteBuffer.ByteList
import BlockBuffer.Proofs.Bytes.Cursor
import BlockBuffer.Proofs.Runs

/-!
# Byte buffers refine lists of byte strings

A byte buffer stands for a list of byte strings from its creation on.  Every command answers as
the operation on the list does, and leaves a buffer that stands for the list that the operation
leaves.
-/

namespace BlockBuffer
namespace ByteBuffer

/-- The buffers of a configuration that stand for a list. -/
inductive Represents (config : Config) : ByteBuffer → ByteList → Prop where
  | uninitialized : Represents config { config := config } {}
  | initialized {r : Reservation} {elements : List Bytes} :
      r.config = config → r.Counts elements →
        Represents config (holding r elements)
          { size := some r.header.elementSize, elements := elements }

variable {config : Config} {buffer : ByteBuffer} {list : ByteList}

theorem Represents.config_eq (h : Represents config buffer list) : buffer.config = config := by
  cases h with
  | uninitialized => rfl
  | initialized hconfig _ => exact hconfig

/-!
## Creation and views
-/

theorem init_follows (h : Represents config buffer list) (elementSize : Nat) :
    Follows (Represents config) (buffer.init elementSize) (list.init config elementSize) := by
  have hcreate := Reservation.create_eq elementSize buffer.config
  rw [h.config_eq] at hcreate
  unfold ByteList.init
  by_cases hsize : elementSize = 0
  · rw [if_pos hsize] at hcreate ⊢
    rw [init, h.config_eq, hcreate]
    exact Follows.pure h _
  · by_cases hblock : config.blockSize = 0
    · rw [if_neg hsize, if_pos hblock] at hcreate ⊢
      rw [init, h.config_eq, hcreate]
      exact Follows.pure h _
    · have hempty : Reservation.Counts { header := .unreserved elementSize, config := config }
          [] :=
        ⟨Reservation.valid_unreserved (Nat.pos_of_ne_zero hsize) hblock, rfl,
          Bytes.Uniform.nil _⟩
      have hnew : Represents config
          (holding { header := .unreserved elementSize, config := config } [])
          { size := some elementSize, elements := [] } := .initialized rfl hempty
      rw [if_neg hsize, if_neg hblock] at hcreate ⊢
      rw [← h.config_eq] at hcreate
      rw [init_of_create hcreate, h.config_eq]
      exact Follows.bind rfl (Follows.pure hnew _)

theorem requiredBytes_eq (h : Represents config buffer list) (length : Nat) :
    buffer.requiredBytes length = pure (list.requiredBytes config length) := by
  cases h with
  | uninitialized => rfl
  | @initialized r elements hconfig _ =>
      subst hconfig
      unfold requiredBytes ByteList.requiredBytes
      rw [initialized_holding]
      dsimp only
      rw [Reservation.requiredBytes_eq_pure, pure_bind]
      cases r.config.bytesFor r.header.elementSize length with
      | none => rfl
      | some bytes => rfl

theorem get_eq (h : Represents config buffer list) (index : Nat) :
    buffer.get index = pure list.elements[index]? := by
  cases h with
  | uninitialized => rfl
  | initialized _ hcounts => exact get_holding hcounts index

theorem cursor_observes (h : Represents config buffer list) :
    ∃ cursor, buffer.cursor = pure cursor ∧
      ∀ probes, DoubleEnded.observeAll probes cursor =
        DoubleEnded.observeAll probes list.elements := by
  cases h with
  | uninitialized =>
      refine ⟨Cursor.onElements 1 [], rfl, ?_⟩
      exact Cursor.observeAll_onElements Nat.one_pos (Bytes.Uniform.nil 1)
  | @initialized r elements _ hcounts =>
      have hsize := hcounts.valid.elementSize_pos
      refine ⟨Cursor.onElements r.header.elementSize elements, ?_, ?_⟩
      · unfold cursor
        rw [elementSize_holding, Nat.max_eq_left hsize]
        exact Cursor.ofBytes_flatten hsize hcounts.uniform
      · exact Cursor.observeAll_onElements hsize hcounts.uniform

theorem copy_eq (h : Represents config buffer list) : buffer.copy = pure buffer := by
  cases h with
  | uninitialized => rfl
  | initialized _ hcounts => exact copy_holding hcounts

/-!
## Access to one element

Three commands take an index at which there must be an element, and byte strings of its size.
What the buffer refuses about them the list refuses too, and otherwise both have the element.
-/

/-- The check of an access, with the number of bytes to be read or written if there are any. -/
def checkAccess (buffer : ByteBuffer) (index : Nat) (width : Option Nat) :
    Result Reservation :=
  match width with
  | none => buffer.checkElement index
  | some size => buffer.checkCopy index size

inductive Access (config : Config) (index : Nat) (width : Option Nat) :
    ByteBuffer → ByteList → Prop where
  | refused {buffer : ByteBuffer} {list : ByteList} {error : BufferError} :
      buffer.checkAccess index width = .error error → list.element index width = .error error →
        Access config index width buffer list
  | allowed {r : Reservation} {elements : List Bytes} (hindex : index < elements.length) :
      r.config = config → r.Counts elements → (∀ size ∈ width, size = r.header.elementSize) →
        ByteList.element { size := some r.header.elementSize, elements := elements }
            index width =
          .ok elements[index] →
        Access config index width (holding r elements)
          { size := some r.header.elementSize, elements := elements }

theorem Represents.access (h : Represents config buffer list) (index : Nat)
    (width : Option Nat) : Access config index width buffer list := by
  cases h with
  | uninitialized =>
      cases width with
      | none => exact .refused rfl rfl
      | some size => exact .refused rfl rfl
  | @initialized r elements hconfig hcounts =>
      rcases Nat.lt_or_ge index elements.length with hindex | hindex
      · have hsome : elements[index]? = some elements[index] := List.getElem?_eq_getElem hindex
        cases width with
        | none =>
            apply Access.allowed hindex hconfig hcounts
            · intro size hsize
              cases hsize
            · simp only [ByteList.element, hsome]
        | some size =>
            by_cases hsize : size = r.header.elementSize
            · apply Access.allowed hindex hconfig hcounts
              · intro actual hactual
                cases hactual
                exact hsize
              · simp only [ByteList.element, hsome, if_pos hsize]
            · have hbuffer : (holding r elements).checkAccess index (some size) =
                  .error (.sizeMismatch r.header.elementSize size) := by
                rw [checkAccess, checkCopy_of_lt hcounts hindex, if_neg hsize]
              apply Access.refused hbuffer
              simp only [ByteList.element, hsome, if_neg hsize]
      · have hnone : elements[index]? = none := List.getElem?_eq_none hindex
        have hbuffer : (holding r elements).checkAccess index width =
            .error (.indexOutOfBounds index elements.length) := by
          cases width with
          | none => exact checkElement_of_le hcounts hindex
          | some size => exact checkCopy_of_le hcounts hindex size
        apply Access.refused hbuffer
        simp only [ByteList.element, hnone]

theorem modify_follows (h : Represents config buffer list) (index : Nat) (change : InPlace) :
    Follows (Represents config) (buffer.modify index change) (list.modify index change) := by
  cases h with
  | uninitialized => exact Follows.pure .uninitialized none
  | @initialized r elements hconfig hcounts =>
      rw [modify_holding hcounts]
      unfold ByteList.modify
      dsimp only
      cases hget : elements[index]? with
      | none => exact Follows.pure (.initialized hconfig hcounts) none
      | some element =>
          have hsize : (change.edit element).length = r.header.elementSize := by
            rw [change.length_edit]
            exact hcounts.uniform element (List.mem_of_getElem? hget)
          exact Follows.pure (.initialized hconfig
            (hcounts.exchange List.length_set (hcounts.uniform.set hsize index))) _

theorem copyTo_follows (h : Represents config buffer list) (index : Nat) (dest : Bytes) :
    Follows (Represents config) (buffer.copyTo index dest) (list.copyTo index dest) := by
  unfold ByteList.copyTo
  cases h.access index (some dest.length) with
  | refused hbuffer hlist =>
      rw [copyTo_of_error hbuffer, hlist]
      exact Follows.pure h _
  | allowed hindex hconfig hcounts hsize hlist =>
      rw [copyTo_of_fits hcounts hindex (hsize _ rfl), hlist]
      exact Follows.pure h _

theorem copyFrom_follows (h : Represents config buffer list) (index : Nat) (source : Bytes) :
    Follows (Represents config) (buffer.copyFrom index source)
      (list.copyFrom index source) := by
  unfold ByteList.copyFrom
  cases h.access index (some source.length) with
  | refused hbuffer hlist =>
      rw [copyFrom_of_error hbuffer, hlist]
      exact Follows.pure h _
  | allowed hindex hconfig hcounts hsize hlist =>
      have huniform := hcounts.uniform.set (hsize _ rfl) index
      rw [copyFrom_of_fits hcounts hindex (hsize _ rfl), hlist]
      exact Follows.pure (.initialized hconfig (hcounts.exchange List.length_set huniform)) _

/-!
## Putting elements in and taking them out
-/

theorem represents_settle {r : Reservation} {elements : List Bytes} {index : Nat}
    (hconfig : r.config = config) (hcounts : r.Counts elements)
    (hindex : index < elements.length) :
    Represents config
      (holding (r.withLength (elements.length - 1)).settle.value (elements.eraseIdx index))
      { size := some r.header.elementSize, elements := elements.eraseIdx index } := by
  have hleft := counts_eraseIdx hcounts hindex
  have hvalid := Reservation.valid_settle hleft.valid
  rw [Reservation.value_settle hleft.valid] at hvalid ⊢
  exact .initialized hconfig (hleft.withSlots hvalid)

theorem remove_follows (h : Represents config buffer list) (index : Nat)
    (dest : Option Bytes) :
    Follows (Represents config) (buffer.remove index dest) (list.remove index dest) := by
  have hcheck : ∀ other : ByteBuffer,
      other.checkRemove index dest = other.checkAccess index (dest.map List.length) := by
    intro other
    cases dest with
    | none => rfl
    | some place => rfl
  unfold ByteList.remove
  cases h.access index (dest.map List.length) with
  | refused hbuffer hlist =>
      rw [remove_of_error ((hcheck _).trans hbuffer), hlist]
      exact Follows.pure h _
  | allowed hindex hconfig hcounts hsize hlist =>
      have hdest : ∀ place ∈ dest, place.length = _ :=
        fun place hplace => hsize _ (Option.mem_map_of_mem List.length hplace)
      rw [remove_of_fits hcounts hindex hdest, hlist]
      apply Follows.bind (Reservation.faults_settle (counts_eraseIdx hcounts hindex).valid)
      exact Follows.pure (represents_settle hconfig hcounts hindex) _

theorem insert_follows (limit : Nat) (h : Represents config buffer list) (index : Nat)
    (source : Bytes) :
    ∃ refusal, Follows (Represents config) (buffer.insert limit index source)
      (list.insert refusal index source) := by
  cases h with
  | uninitialized => exact ⟨none, Follows.pure .uninitialized _⟩
  | @initialized r elements hconfig hcounts =>
      have hkept : Represents config (holding r elements)
          { size := some r.header.elementSize, elements := elements } :=
        .initialized hconfig hcounts
      unfold ByteList.insert
      dsimp only
      rcases Nat.lt_or_ge elements.length index with hindex | hindex
      · refine ⟨none, ?_⟩
        rw [insert_of_error limit (checkInsert_of_lt hcounts hindex source.length),
          if_pos hindex]
        exact Follows.pure hkept _
      · have hinside := Nat.not_lt_of_le hindex
        by_cases hsource : source.length = r.header.elementSize
        · rcases Reservation.ensure_succ limit hcounts.valid hcounts.length_eq with
            ⟨hfaults, hensured⟩
          rw [insert_of_fits limit hcounts hindex hsource]
          simp only [if_neg hinside, hsource, ne_eq, not_true_eq_false, if_false]
          apply Follows.growth hfaults hensured
          · exact Follows.pure hkept _
          · intro slots hslots hvalid
            have hlonger := counts_insertIdx hcounts hindex hsource hslots hvalid
            exact Follows.pure (.initialized hconfig hlonger) _
        · have hchecked := checkInsert_of_le hcounts hindex source.length
          rw [if_neg hsource] at hchecked
          refine ⟨none, ?_⟩
          rw [insert_of_error limit hchecked, if_neg hinside, if_pos hsource]
          exact Follows.pure hkept _

theorem popAt_follows {place : Nat → Traced Nat} {index : Nat → Nat}
    (hplace : ∀ length, 0 < length → place length = pure (index length))
    (h : Represents config buffer list) (dest : Option Bytes) :
    Follows (Represents config) (buffer.popAt place dest) (list.pop index dest) := by
  cases h with
  | uninitialized => exact Follows.pure .uninitialized _
  | @initialized r elements hconfig hcounts =>
      have hkept : Represents config (holding r elements)
          { size := some r.header.elementSize, elements := elements } :=
        .initialized hconfig hcounts
      unfold ByteList.pop
      cases elements with
      | nil =>
          rw [popAt_of_nil hcounts]
          exact Follows.pure hkept _
      | cons element rest =>
          have hpos : 0 < (element :: rest).length := Nat.succ_pos rest.length
          rw [popAt_of_ne_nil hcounts (List.cons_ne_nil element rest) (hplace _ hpos)]
          dsimp only
          rw [if_neg (Nat.ne_of_gt hpos)]
          exact (remove_follows hkept _ dest).map Delivery.taken

/-!
## Storage
-/

theorem reserve_follows (limit : Nat) (h : Represents config buffer list) (amount : Nat) :
    ∃ refusal, Follows (Represents config) (buffer.reserve limit amount)
      (list.reserve refusal) := by
  cases h with
  | uninitialized => exact ⟨none, Follows.pure .uninitialized _⟩
  | @initialized r elements hconfig hcounts =>
      have hreserved := Reservation.suffices_reserve limit amount hcounts.valid
      have hfaults := Reservation.faults_reserve limit r amount
      rw [reserve_holding limit amount hcounts]
      apply Follows.growth hfaults hreserved
      · exact Follows.pure (.initialized hconfig hcounts) _
      · intro slots _ hvalid
        exact Follows.pure (.initialized hconfig (hcounts.withSlots hvalid)) _

theorem compact_follows (h : Represents config buffer list) :
    Follows (Represents config) buffer.compact list.compact := by
  cases h with
  | uninitialized => exact Follows.pure .uninitialized _
  | @initialized r elements hconfig hcounts =>
      have hvalid := Reservation.valid_compact hcounts.valid
      rw [compact_holding hcounts]
      apply Follows.bind (Reservation.faults_compact hcounts.valid)
      rw [Reservation.value_compact hcounts.valid] at hvalid ⊢
      apply Follows.bind rfl
      exact Follows.pure (.initialized hconfig (hcounts.withSlots hvalid)) _

/-- A walk that was broken off changed elements in their places only. -/
theorem counts_sweep {r : Reservation} {elements : List Bytes} (hcounts : r.Counts elements)
    (change : InPlace) (interruptAt : Option Nat) :
    r.Counts (sweep change.edit interruptAt elements).elements := by
  have hall : r.Counts (sweep change.edit none elements).elements := by
    rw [sweep_none]
    exact hcounts.exchange (List.length_map _) (hcounts.uniform.map_edit change)
  cases interruptAt with
  | none => exact hall
  | some calls =>
      rcases Nat.lt_or_ge calls elements.length with hcalls | hcalls
      · rw [sweep_of_lt _ hcalls]
        apply hcounts.exchange
        · simp only [List.length_append, List.length_map, List.length_take, List.length_drop]
          omega
        · exact ((hcounts.uniform.take _).map_edit change).append (hcounts.uniform.drop _)
      · rw [sweep_of_le _ hcalls]
        exact hall

theorem destroyWith_follows (h : Represents config buffer list) (change : InPlace)
    (interruptAt : Option Nat) :
    Follows (Represents config) (buffer.destroyWith change interruptAt)
      (list.destroyWith change interruptAt) := by
  cases h with
  | uninitialized => exact Follows.pure .uninitialized _
  | @initialized r elements hconfig hcounts =>
      unfold ByteList.destroyWith
      dsimp only
      cases hending : (sweep change.edit interruptAt elements).ending with
      | interrupted =>
          rw [destroyWith_of_interrupted hcounts hending]
          exact Follows.pure (.initialized hconfig (counts_sweep hcounts change interruptAt)) _
      | completed =>
          have hempty : ((r.withLength 0).withSlots 0).Counts [] :=
            ⟨Reservation.valid_release hcounts.valid, rfl, Bytes.Uniform.nil _⟩
          rw [destroyWith_of_completed hcounts hending, Reservation.release_eq hcounts.valid]
          apply Follows.bind rfl
          apply Follows.bind rfl
          exact Follows.pure (.initialized hconfig hempty) _

theorem destroy_follows (h : Represents config buffer list) :
    Follows (Represents config) buffer.destroy list.destroy := by
  have hwith := (destroyWith_follows h .id none).map (Except.map fun _ => ())
  have hlist : (list.destroyWith .id none).map (Except.map fun _ => ()) = list.destroy := by
    unfold ByteList.destroyWith ByteList.destroy
    cases list.size with
    | none => rfl
    | some size =>
        simp only [sweep_none]
        rfl
  rw [hlist] at hwith
  exact hwith

/-!
## Steps and runs
-/

theorem step_follows (limit : Nat) (command : Command) (h : Represents config buffer list) :
    ∃ refusal, Follows (Represents config) (buffer.step limit command)
      (list.step config refusal command) := by
  cases command with
  | init elementSize => exact ⟨none, (init_follows h elementSize).map _⟩
  | requiredBytes length =>
      refine ⟨none, ?_⟩
      rw [step, requiredBytes_eq h, pure_bind]
      exact Follows.pure h _
  | get index =>
      refine ⟨none, ?_⟩
      rw [step, get_eq h, pure_bind]
      exact Follows.pure h _
  | modify index change => exact ⟨none, (modify_follows h index change).map _⟩
  | copyTo index dest => exact ⟨none, (copyTo_follows h index dest).map _⟩
  | copyFrom index source => exact ⟨none, (copyFrom_follows h index source).map _⟩
  | observe probes =>
      rcases cursor_observes h with ⟨cursor, hcursor, hshown⟩
      refine ⟨none, ?_⟩
      rw [step, hcursor, pure_bind, hshown]
      exact Follows.pure h _
  | reserve amount =>
      rcases reserve_follows limit h amount with ⟨refusal, hreserve⟩
      exact ⟨refusal, hreserve.map _⟩
  | compact => exact ⟨none, (compact_follows h).map _⟩
  | insert index source =>
      rcases insert_follows limit h index source with ⟨refusal, hinsert⟩
      exact ⟨refusal, hinsert.map _⟩
  | pushFront source =>
      rcases insert_follows limit h 0 source with ⟨refusal, hinsert⟩
      exact ⟨refusal, hinsert.map _⟩
  | pushBack source =>
      have hlength : buffer.length = list.elements.length := by
        cases h with
        | uninitialized => rfl
        | initialized _ hcounts => exact length_holding hcounts
      rcases insert_follows limit h list.elements.length source with ⟨refusal, hinsert⟩
      refine ⟨refusal, ?_⟩
      rw [step, pushBack, hlength]
      exact hinsert.map _
  | remove index dest => exact ⟨none, (remove_follows h index dest).map _⟩
  | popFront dest => exact ⟨none, (popAt_follows (fun _ _ => rfl) h dest).map _⟩
  | popBack dest =>
      exact ⟨none, (popAt_follows (fun _ hpos => Word.sub_of_le hpos) h dest).map _⟩
  | destroy => exact ⟨none, (destroy_follows h).map _⟩
  | destroyWith change interruptAt =>
      exact ⟨none, (destroyWith_follows h change interruptAt).map _⟩
  | copy =>
      refine ⟨none, ?_⟩
      rw [step, copy_eq h, pure_bind]
      exact Follows.pure h _

theorem run_follows (config : Config) (commands : List (Nat × Command)) :
    ∃ refusals : List (Option Nat), refusals.length = commands.length ∧
      ∀ moment, Follows (Represents config)
        (ByteBuffer.run (commands.take moment) { config := config })
        (replay (ByteList.step config)
          ((refusals.zip (commands.map Prod.snd)).take moment) {}) := by
  simp only [run]
  exact runAll_follows (fun limit _ _ command h => step_follows limit command h) commands
    .uninitialized

/-!
## What a caller sees
-/

structure Shows (buffer : ByteBuffer) (list : ByteList) : Prop where
  bytes_eq : buffer.bytes = list.elements.flatten
  length_eq : buffer.length = list.elements.length
  get_eq : ∀ index, buffer.get index = pure list.elements[index]?
  elementSize_eq : buffer.elementSize = list.size.getD 0
  size_eq : ∀ element ∈ list.elements, list.size = some element.length

theorem Represents.shows (h : Represents config buffer list) : buffer.Shows list := by
  have hget : ∀ index, buffer.get index = pure list.elements[index]? := get_eq h
  cases h with
  | uninitialized => exact ⟨rfl, rfl, hget, rfl, fun element hmem => by cases hmem⟩
  | initialized _ hcounts =>
      refine ⟨rfl, length_holding hcounts, hget, rfl, ?_⟩
      intro element hmem
      exact congrArg some (hcounts.uniform element hmem).symm

theorem Represents.elements_eq (h : Represents config buffer list) :
    buffer.elements = list.elements := by
  cases h with
  | uninitialized => exact List.eq_nil_of_length_eq_zero (Bytes.length_chunks 0 [])
  | initialized _ hcounts => exact elements_holding hcounts

theorem Shows.length_of_mem (h : buffer.Shows list) {element : Bytes}
    (hmem : element ∈ list.elements) :
    element.length = buffer.elementSize := by
  rw [h.elementSize_eq, h.size_eq element hmem]
  rfl

theorem Represents.actsAs (h : Represents config buffer list) :
    ActsAs ByteBuffer.step (ByteList.step config) Shows buffer list :=
  actsAs_of_steps (fun limit _ _ command h => step_follows limit command h)
    (fun h => h.shows) h

/-- Whatever is done to a new buffer, on whatever heaps: at every moment it meets no fault, has
answered as the list of its elements, and shows this list. -/
theorem run_refines_byteList (config : Config) (commands : List (Nat × Command)) :
    ∃ refusals : List (Option Nat), refusals.length = commands.length ∧
      ∀ moment,
        let run := ByteBuffer.run (commands.take moment) { config := config }
        let expected := replay (ByteList.step config)
          ((refusals.zip (commands.map Prod.snd)).take moment) {}
        run.faults = [] ∧ run.value.result = expected.result ∧
          run.value.state.Shows expected.state := by
  rcases run_follows config commands with ⟨refusals, hlength, hfollows⟩
  refine ⟨refusals, hlength, ?_⟩
  intro moment
  have hmoment := hfollows moment
  exact ⟨hmoment.faults_eq, hmoment.result_eq, hmoment.state_related.shows⟩

end ByteBuffer
end BlockBuffer
