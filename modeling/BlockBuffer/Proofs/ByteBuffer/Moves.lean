import BlockBuffer.Proofs.ByteBuffer.Refinement
import BlockBuffer.Proofs.Moves

/-!
# The moves of a byte buffer

Each command makes one move on the reservation of a byte buffer.  Before the initialization the
buffer shows the header of a reservation for elements of no bytes, and only an initialization
moves it.
-/

namespace BlockBuffer
namespace ByteBuffer

def move (buffer : ByteBuffer) : Command → Move
  | .init elementSize => .start elementSize
  | .requiredBytes length => .guarded (buffer.requiredBytes length).value .keep
  | .get _ => .keep
  | .modify _ _ => .keep
  | .copyTo index dest => .guarded (buffer.checkCopy index dest.length) .keep
  | .copyFrom index source => .guarded (buffer.checkCopy index source.length) .keep
  | .observe _ => .keep
  | .reserve amount => .guarded buffer.initialized (.reserve amount)
  | .compact => .guarded buffer.initialized .compact
  | .insert index source => .guarded (buffer.checkInsert index source.length) .extend
  | .pushFront source => .guarded (buffer.checkInsert 0 source.length) .extend
  | .pushBack source => .guarded (buffer.checkInsert buffer.length source.length) .extend
  | .remove index dest => .guarded (buffer.checkRemove index dest) .drop
  | .popFront dest =>
      .guarded buffer.initialized
        (if buffer.length = 0 then .keep else .guarded (buffer.checkRemove 0 dest) .drop)
  | .popBack dest =>
      .guarded buffer.initialized
        (if buffer.length = 0 then .keep
          else .guarded (buffer.checkRemove (buffer.length - 1) dest) .drop)
  | .destroy => .guarded buffer.initialized .release
  | .destroyWith change interruptAt =>
      .guarded buffer.initialized
        (match (sweep change.edit interruptAt buffer.elements).ending with
        | .completed => .release
        | .interrupted => .keep)
  | .copy => .keep

def Command.role : Command → Role
  | .init _ => .empties
  | .insert _ _ => .inserts
  | .pushFront _ => .inserts
  | .pushBack _ => .inserts
  | .reserve _ => .reserves
  | .compact => .compacts
  | .destroy => .empties
  | .destroyWith _ _ => .empties
  | _ => .other

def Reply.interrupted : Reply → Bool
  | .cleaned (.ok report) => report.ending = .interrupted
  | _ => false

def Reply.refusal : Reply → Option BufferError
  | .done result => BlockBuffer.refusal result
  | .size result => BlockBuffer.refusal result
  | .element _ => none
  | .observed _ => none
  | .delivered delivery => BlockBuffer.refusal delivery.result
  | .popped delivery => BlockBuffer.refusal delivery.result
  | .cleaned result => BlockBuffer.refusal result

inductive Keeps (config : Config) : ByteBuffer → Reservation → Prop where
  | uninitialized :
      Keeps config { config := config } { header := .unreserved 0, config := config }
  | initialized {r : Reservation} {elements : List Bytes} :
      r.config = config → r.Counts elements → Keeps config (holding r elements) r

variable {config : Config} {buffer : ByteBuffer} {r : Reservation}

theorem Keeps.header_eq (h : Keeps config buffer r) : buffer.header = r.header := by
  cases h with
  | uninitialized => rfl
  | initialized _ _ => rfl

theorem Keeps.config_eq (h : Keeps config buffer r) : r.config = config := by
  cases h with
  | uninitialized => rfl
  | initialized hconfig _ => exact hconfig

theorem Keeps.represents (h : Keeps config buffer r) :
    ∃ list, Represents config buffer list := by
  cases h with
  | uninitialized => exact ⟨_, .uninitialized⟩
  | initialized hconfig hcounts => exact ⟨_, .initialized hconfig hcounts⟩

theorem Represents.keeps {list : ByteList} (h : Represents config buffer list) :
    ∃ r, Keeps config buffer r := by
  cases h with
  | uninitialized => exact ⟨_, .uninitialized⟩
  | initialized hconfig hcounts => exact ⟨_, .initialized hconfig hcounts⟩

theorem Keeps.valid (h : Keeps config buffer r) (hinitialized : buffer.isInitialized = true) :
    r.Valid := by
  cases h with
  | uninitialized => cases hinitialized
  | initialized _ hcounts => exact hcounts.valid

theorem Keeps.valid_or_idle (h : Keeps config buffer r) (command : Command) :
    r.Valid ∨ (buffer.move command).Idle := by
  cases h with
  | initialized _ hcounts => exact Or.inl hcounts.valid
  | uninitialized =>
      apply Or.inr
      cases command with
      | remove index dest =>
          cases dest with
          | none => exact trivial
          | some place => exact trivial
      | _ => exact trivial

/-!
## What a check that was passed says
-/

section Checks

variable {elements : List Bytes} {index size : Nat} {dest : Option Bytes}
  {passed : Reservation}

theorem of_checkInsert (h : r.Counts elements)
    (hpassed : (holding r elements).checkInsert index size = .ok passed) :
    index ≤ elements.length ∧ size = r.header.elementSize := by
  rcases Nat.lt_or_ge elements.length index with hindex | hindex
  · rw [checkInsert_of_lt h hindex] at hpassed
    cases hpassed
  · rw [checkInsert_of_le h hindex] at hpassed
    refine ⟨hindex, ?_⟩
    split at hpassed
    · assumption
    · cases hpassed

theorem of_checkElement (h : r.Counts elements)
    (hpassed : (holding r elements).checkElement index = .ok passed) :
    index < elements.length := by
  rcases Nat.lt_or_ge index elements.length with hindex | hindex
  · exact hindex
  · rw [checkElement_of_le h hindex] at hpassed
    cases hpassed

theorem of_checkCopy (h : r.Counts elements)
    (hpassed : (holding r elements).checkCopy index size = .ok passed) :
    index < elements.length ∧ size = r.header.elementSize := by
  rcases Nat.lt_or_ge index elements.length with hindex | hindex
  · rw [checkCopy_of_lt h hindex] at hpassed
    refine ⟨hindex, ?_⟩
    split at hpassed
    · assumption
    · cases hpassed
  · rw [checkCopy_of_le h hindex] at hpassed
    cases hpassed

theorem of_checkRemove (h : r.Counts elements)
    (hpassed : (holding r elements).checkRemove index dest = .ok passed) :
    index < elements.length ∧ ∀ place ∈ dest, place.length = r.header.elementSize := by
  cases dest with
  | none =>
      refine ⟨of_checkElement h hpassed, ?_⟩
      intro place hplace
      cases hplace
  | some place =>
      rcases of_checkCopy h hpassed with ⟨hindex, hsize⟩
      refine ⟨hindex, ?_⟩
      intro other hother
      cases hother
      exact hsize

end Checks

/-!
## Each operation plays its move
-/

variable (limit : Nat)

theorem init_plays (h : Keeps config buffer r) (elementSize : Nat) :
    Lockstep (Keeps config) SameRefusal (buffer.init elementSize)
      (r.play limit (.start elementSize)) := by
  have hsame : r.config = buffer.config := by
    rw [h.config_eq]
    cases h with
    | uninitialized => rfl
    | initialized hconfig _ => exact hconfig.symm
  rw [Reservation.play, hsame]
  cases hcreate : Reservation.create elementSize buffer.config with
  | error error =>
      rw [init, hcreate]
      exact Lockstep.pure h rfl
  | ok fresh =>
      rcases Reservation.of_create hcreate with ⟨hvalid, hconfig, hheader⟩
      have hnew : Keeps config (holding fresh []) fresh :=
        .initialized (hconfig.trans (hsame.symm.trans h.config_eq))
          ⟨hvalid, by rw [hheader]; rfl, Bytes.Uniform.nil _⟩
      rw [init_of_create hcreate]
      exact Lockstep.emit_left rfl (Lockstep.pure hnew rfl)

theorem copyTo_plays (h : Keeps config buffer r) (index : Nat) (dest : Bytes) :
    Lockstep (Keeps config) (fun delivery result => SameRefusal delivery.result result)
      (buffer.copyTo index dest)
      (r.play limit (.guarded (buffer.checkCopy index dest.length) .keep)) := by
  cases hchecked : buffer.checkCopy index dest.length with
  | error error =>
      rw [copyTo_of_error hchecked]
      exact Lockstep.pure h rfl
  | ok passed =>
      cases h with
      | uninitialized => cases hchecked
      | initialized hconfig hcounts =>
          rcases of_checkCopy hcounts hchecked with ⟨hindex, hsize⟩
          rw [copyTo_of_fits hcounts hindex hsize]
          exact Lockstep.pure (.initialized hconfig hcounts) rfl

theorem copyFrom_plays (h : Keeps config buffer r) (index : Nat) (source : Bytes) :
    Lockstep (Keeps config) SameRefusal (buffer.copyFrom index source)
      (r.play limit (.guarded (buffer.checkCopy index source.length) .keep)) := by
  cases hchecked : buffer.checkCopy index source.length with
  | error error =>
      rw [copyFrom_of_error hchecked]
      exact Lockstep.pure h rfl
  | ok passed =>
      cases h with
      | uninitialized => cases hchecked
      | initialized hconfig hcounts =>
          rcases of_checkCopy hcounts hchecked with ⟨hindex, hsize⟩
          have hcopied := hcounts.exchange List.length_set (hcounts.uniform.set hsize index)
          rw [copyFrom_of_fits hcounts hindex hsize]
          exact Lockstep.pure (.initialized hconfig hcopied) rfl

theorem modify_plays (h : Keeps config buffer r) (index : Nat) (change : InPlace) :
    Lockstep (Keeps config) (fun _ result => refusal result = none)
      (buffer.modify index change) (r.play limit .keep) := by
  cases h with
  | uninitialized => exact Lockstep.pure .uninitialized rfl
  | @initialized r elements hconfig hcounts =>
      rw [modify_holding hcounts]
      cases hget : elements[index]? with
      | none => exact Lockstep.pure (.initialized hconfig hcounts) rfl
      | some element =>
          have hsize : (change.edit element).length = r.header.elementSize := by
            rw [change.length_edit]
            exact hcounts.uniform element (List.mem_of_getElem? hget)
          have hchanged := hcounts.exchange List.length_set (hcounts.uniform.set hsize index)
          exact Lockstep.pure (.initialized hconfig hchanged) rfl

theorem insert_plays (h : Keeps config buffer r) (index : Nat) (source : Bytes) :
    Lockstep (Keeps config) SameRefusal (buffer.insert limit index source)
      (r.play limit (.guarded (buffer.checkInsert index source.length) .extend)) := by
  cases hchecked : buffer.checkInsert index source.length with
  | error error =>
      rw [insert_of_error limit hchecked]
      exact Lockstep.pure h rfl
  | ok passed =>
      cases h with
      | uninitialized => cases hchecked
      | @initialized r elements hconfig hcounts =>
          rcases of_checkInsert hcounts hchecked with ⟨hindex, hsize⟩
          rcases Reservation.ensure_succ limit hcounts.valid hcounts.length_eq with
            ⟨hfaults, hensured⟩
          rw [insert_of_fits limit hcounts hindex hsize]
          simp only [Move.guarded, Reservation.play, hcounts.length_eq]
          apply Lockstep.growth hfaults hensured
          · intro error
            exact Lockstep.pure (.initialized hconfig hcounts) rfl
          · intro slots hslots hvalid
            have hlonger := counts_insertIdx hcounts hindex hsize hslots hvalid
            exact Lockstep.pure (.initialized hconfig hlonger) rfl

theorem remove_plays (h : Keeps config buffer r) (index : Nat) (dest : Option Bytes) :
    Lockstep (Keeps config) (fun delivery result => SameRefusal delivery.result result)
      (buffer.remove index dest)
      (r.play limit (.guarded (buffer.checkRemove index dest) .drop)) := by
  cases hchecked : buffer.checkRemove index dest with
  | error error =>
      rw [remove_of_error hchecked]
      exact Lockstep.pure h rfl
  | ok passed =>
      cases h with
      | uninitialized =>
          cases dest with
          | none => cases hchecked
          | some place => cases hchecked
      | initialized hconfig hcounts =>
          rcases of_checkRemove hcounts hchecked with ⟨hindex, hdest⟩
          have hleft := counts_eraseIdx hcounts hindex
          rw [remove_of_fits hcounts hindex hdest]
          simp only [Move.guarded, Reservation.play, hcounts.length_eq]
          apply Lockstep.bind (Reservation.faults_settle hleft.valid)
          have hsettled := Reservation.valid_settle hleft.valid
          rw [Reservation.value_settle hleft.valid] at hsettled ⊢
          exact Lockstep.pure (.initialized hconfig (hleft.withSlots hsettled)) rfl

theorem popAt_plays {place : Nat → Traced Nat} {index : Nat → Nat}
    (hplace : ∀ length, 0 < length → place length = pure (index length))
    (h : Keeps config buffer r) (dest : Option Bytes) :
    Lockstep (Keeps config) (fun delivery result => SameRefusal delivery.result result)
      (buffer.popAt place dest)
      (r.play limit (.guarded buffer.initialized
        (if buffer.length = 0 then .keep
          else .guarded (buffer.checkRemove (index buffer.length) dest) .drop))) := by
  cases h with
  | uninitialized => exact Lockstep.pure .uninitialized rfl
  | @initialized r elements hconfig hcounts =>
      have hkept : Keeps config (holding r elements) r := .initialized hconfig hcounts
      rw [initialized_holding, length_holding hcounts, Move.guarded]
      cases elements with
      | nil =>
          rw [popAt_of_nil hcounts]
          exact Lockstep.pure hkept rfl
      | cons element rest =>
          have hpos : 0 < (element :: rest).length := Nat.succ_pos rest.length
          rw [popAt_of_ne_nil hcounts (List.cons_ne_nil element rest) (hplace _ hpos),
            if_neg (Nat.ne_of_gt hpos)]
          exact (remove_plays limit hkept _ dest).map_left fun _ _ hsame => hsame.map_left _

theorem reserve_plays (h : Keeps config buffer r) (amount : Nat) :
    Lockstep (Keeps config) SameRefusal (buffer.reserve limit amount)
      (r.play limit (.guarded buffer.initialized (.reserve amount))) := by
  cases h with
  | uninitialized => exact Lockstep.pure .uninitialized rfl
  | initialized hconfig hcounts =>
      rw [reserve_holding limit amount hcounts]
      apply Lockstep.growth (Reservation.faults_reserve limit _ amount)
        (Reservation.suffices_reserve limit amount hcounts.valid)
      · intro error
        exact Lockstep.pure (.initialized hconfig hcounts) rfl
      · intro slots _ hvalid
        exact Lockstep.pure (.initialized hconfig (hcounts.withSlots hvalid)) rfl

theorem compact_plays (h : Keeps config buffer r) :
    Lockstep (Keeps config) SameRefusal buffer.compact
      (r.play limit (.guarded buffer.initialized .compact)) := by
  cases h with
  | uninitialized => exact Lockstep.pure .uninitialized rfl
  | initialized hconfig hcounts =>
      have hvalid := Reservation.valid_compact hcounts.valid
      rw [compact_holding hcounts]
      apply Lockstep.bind (Reservation.faults_compact hcounts.valid)
      rw [Reservation.value_compact hcounts.valid] at hvalid ⊢
      exact Lockstep.emit_left rfl
        (Lockstep.pure (.initialized hconfig (hcounts.withSlots hvalid)) rfl)

theorem destroyWith_plays (h : Keeps config buffer r) (change : InPlace)
    (interruptAt : Option Nat) :
    Lockstep (Keeps config) SameRefusal (buffer.destroyWith change interruptAt)
      (r.play limit (.guarded buffer.initialized
        (match (sweep change.edit interruptAt buffer.elements).ending with
        | .completed => .release
        | .interrupted => .keep))) := by
  cases h with
  | uninitialized => exact Lockstep.pure .uninitialized rfl
  | @initialized r elements hconfig hcounts =>
      rw [initialized_holding, elements_holding hcounts, Move.guarded]
      cases hending : (sweep change.edit interruptAt elements).ending with
      | interrupted =>
          rw [destroyWith_of_interrupted hcounts hending]
          exact Lockstep.pure
            (.initialized hconfig (counts_sweep hcounts change interruptAt)) rfl
      | completed =>
          have hempty : ((r.withLength 0).withSlots 0).Counts [] :=
            ⟨Reservation.valid_release hcounts.valid, rfl, Bytes.Uniform.nil _⟩
          have hreleased : r.release.faults = [] := by
            rw [Reservation.release_eq hcounts.valid]
            rfl
          rw [destroyWith_of_completed hcounts hending]
          apply Lockstep.bind hreleased
          rw [Reservation.release_eq hcounts.valid]
          exact Lockstep.emit_left rfl (Lockstep.pure (.initialized hconfig hempty) rfl)

/-- Each command plays its move on the reservation of the buffer. -/
theorem step_plays (h : Keeps config buffer r) (command : Command) :
    Lockstep (Keeps config) (fun reply result => reply.refusal = refusal result)
      (buffer.step limit command) (r.play limit (buffer.move command)) := by
  cases command with
  | init elementSize => exact (init_plays limit h elementSize).map_left fun _ _ hsame => hsame
  | requiredBytes length =>
      rcases h.represents with ⟨list, hlist⟩
      rw [step, move, requiredBytes_eq hlist, pure_bind]
      cases hresult : list.requiredBytes config length with
      | error error => exact Lockstep.pure h rfl
      | ok bytes => exact Lockstep.pure h rfl
  | get index =>
      rcases h.represents with ⟨list, hlist⟩
      rw [step, get_eq hlist, pure_bind]
      exact Lockstep.pure h rfl
  | modify index change =>
    exact (modify_plays limit h index change).map_left fun _ _ hkept => hkept.symm
  | copyTo index dest =>
    exact (copyTo_plays limit h index dest).map_left fun _ _ hsame => hsame
  | copyFrom index source =>
    exact (copyFrom_plays limit h index source).map_left fun _ _ hsame => hsame
  | observe probes =>
      rcases h.represents with ⟨list, hlist⟩
      rcases cursor_observes hlist with ⟨cursor, hcursor, _⟩
      rw [step, hcursor, pure_bind]
      exact Lockstep.pure h rfl
  | reserve amount => exact (reserve_plays limit h amount).map_left fun _ _ hsame => hsame
  | compact => exact (compact_plays limit h).map_left fun _ _ hsame => hsame
  | insert index source =>
    exact (insert_plays limit h index source).map_left fun _ _ hsame => hsame
  | pushFront source => exact (insert_plays limit h 0 source).map_left fun _ _ hsame => hsame
  | pushBack source =>
      exact (insert_plays limit h buffer.length source).map_left fun _ _ hsame => hsame
  | remove index dest =>
    exact (remove_plays limit h index dest).map_left fun _ _ hsame => hsame
  | popFront dest =>
      exact (popAt_plays limit (fun _ _ => rfl) h dest).map_left fun _ _ hsame => hsame
  | popBack dest =>
      exact (popAt_plays limit (fun _ hpos => Word.sub_of_le hpos) h dest).map_left
        fun _ _ hsame => hsame
  | destroy =>
      have hplays := destroyWith_plays limit h .id none
      rw [sweep_none] at hplays
      exact (hplays.map_left fun _ _ hsame => hsame.map_left _).map_left fun _ _ hsame => hsame
  | destroyWith change interruptAt =>
      exact (destroyWith_plays limit h change interruptAt).map_left fun _ _ hsame => hsame
  | copy =>
      rcases h.represents with ⟨list, hlist⟩
      rw [step, copy_eq hlist, pure_bind]
      exact Lockstep.pure h rfl

/-!
## Roles
-/

/-- Unless it reserves slots ahead or is broken off, a command plays a move of its role. -/
theorem move_serves (h : Keeps config buffer r) (command : Command)
    (hreserves : command.role ≠ .reserves)
    (hwhole : (buffer.step limit command).value.result.interrupted = false) :
    (buffer.move command).Serves command.role := by
  have hkeep : Move.keep.Serves .other := .plain trivial rfl
  have hextend : Move.extend.Serves .inserts := .plain trivial rfl
  have hdrop : Move.drop.Serves .other := .plain trivial rfl
  have hcompact : Move.compact.Serves .compacts := .plain trivial rfl
  have hrelease : Move.release.Serves .empties := .plain trivial rfl
  cases command with
  | init elementSize => exact .plain trivial rfl
  | requiredBytes length => exact hkeep.guarded _
  | get index => exact hkeep
  | modify index change => exact hkeep
  | copyTo index dest => exact hkeep.guarded _
  | copyFrom index source => exact hkeep.guarded _
  | observe probes => exact hkeep
  | reserve amount => exact absurd rfl hreserves
  | compact => exact hcompact.guarded _
  | insert index source => exact hextend.guarded _
  | pushFront source => exact hextend.guarded _
  | pushBack source => exact hextend.guarded _
  | remove index dest => exact hdrop.guarded _
  | popFront dest =>
      apply Move.Serves.guarded
      split
      · exact hkeep
      · exact hdrop.guarded _
  | popBack dest =>
      apply Move.Serves.guarded
      split
      · exact hkeep
      · exact hdrop.guarded _
  | destroy => exact hrelease.guarded _
  | destroyWith change interruptAt =>
      apply Move.Serves.guarded
      cases h with
      | uninitialized =>
          have hnone : ({ config := config } : ByteBuffer).elements = [] := by
            unfold elements Bytes.chunks
            rw [List.length_nil, Nat.zero_div]
            rfl
          rw [hnone]
          cases interruptAt with
          | none => exact hrelease
          | some calls => exact hrelease
      | @initialized r elements _ hcounts =>
          rw [elements_holding hcounts]
          cases hending : (sweep change.edit interruptAt elements).ending with
          | completed => exact hrelease
          | interrupted =>
              rw [step, destroyWith_of_interrupted hcounts hending] at hwhole
              exact absurd hending (of_decide_eq_false hwhole)
  | copy => exact hkeep

end ByteBuffer
end BlockBuffer
