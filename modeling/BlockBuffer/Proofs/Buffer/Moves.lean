import BlockBuffer.Proofs.Buffer.Refinement
import BlockBuffer.Proofs.Moves

/-!
# The moves of a buffer of values

Each command makes one move on the reservation of a buffer of values.  Here a cleanup that was
broken off does move the reservation, since the values that were not handed over are lost as
well.
-/

namespace BlockBuffer
namespace Buffer

variable {α : Type}

def checkPosition (buffer : Buffer α) (index : Nat) : Result Unit :=
  if buffer.items.length < index then .error (.indexOutOfBounds index buffer.items.length)
  else .ok ()

def checkIndex (buffer : Buffer α) (index : Nat) : Result Unit :=
  if buffer.items.length ≤ index then .error (.indexOutOfBounds index buffer.items.length)
  else .ok ()

theorem checkIndex_of_lt {buffer : Buffer α} {index : Nat} (h : index < buffer.length) :
    buffer.checkIndex index = .ok () :=
  if_neg (Nat.not_le_of_lt h)

def move (buffer : Buffer α) : Command α → Move
  | .requiredBytes _ => .keep
  | .get _ => .keep
  | .set _ _ => .keep
  | .reverse => .keep
  | .observe _ => .keep
  | .reserve amount => .reserve amount
  | .compact => .compact
  | .insert index _ => .guarded (buffer.checkPosition index) .extend
  | .pushFront _ => .extend
  | .pushBack _ => .extend
  | .remove index => .guarded (buffer.checkIndex index) .drop
  | .replace index _ => .guarded (buffer.checkIndex index) .keep
  | .popFront => if buffer.items.length = 0 then .keep else .drop
  | .popBack => if buffer.items.length = 0 then .keep else .drop
  | .destroy => .release
  | .destroyWith interruptAt =>
      match (sweep id interruptAt buffer.items).ending with
      | .completed => .release
      | .interrupted => .vacate
  | .copy => .keep

def Command.role : Command α → Role
  | .insert _ _ => .inserts
  | .pushFront _ => .inserts
  | .pushBack _ => .inserts
  | .reserve _ => .reserves
  | .compact => .compacts
  | .destroy => .empties
  | .destroyWith _ => .empties
  | _ => .other

def Reply.interrupted : Reply α → Bool
  | .cleaned report => report.ending = .interrupted
  | _ => false

def Reply.refusal : Reply α → Option BufferError
  | .unit => none
  | .done result => BlockBuffer.refusal result
  | .size _ => none
  | .value _ => none
  | .written _ => none
  | .observed _ => none
  | .taken result => BlockBuffer.refusal result
  | .cleaned _ => none

/-- The buffers for values of a size, under a configuration, with this reservation. -/
inductive Keeps (elementSize : Nat) (config : Config) : Buffer α → Reservation → Prop where
  | intro {items : List α} {r : Reservation} :
      r.header.elementSize = elementSize → r.config = config → r.Valid →
        r.header.length = items.length →
        Keeps elementSize config (holding r items) r

variable {elementSize : Nat} {config : Config} {buffer : Buffer α} {r : Reservation}

theorem Keeps.header_eq (h : Keeps elementSize config buffer r) :
    buffer.header = r.header := by
  cases h with
  | intro _ _ _ _ => rfl

theorem Keeps.config_eq (h : Keeps elementSize config buffer r) : r.config = config := by
  cases h with
  | intro _ hconfig _ _ => exact hconfig

theorem Keeps.valid (h : Keeps elementSize config buffer r) : r.Valid := by
  cases h with
  | intro _ _ hvalid _ => exact hvalid

theorem Represents.keeps {items : List α} (h : Represents elementSize config buffer items) :
    Keeps elementSize config buffer buffer.reservation := by
  cases h with
  | intro hsize hconfig hvalid hcount => exact .intro hsize hconfig hvalid hcount

theorem Keeps.represents (h : Keeps elementSize config buffer r) :
    Represents elementSize config buffer buffer.items := by
  cases h with
  | intro hsize hconfig hvalid hcount => exact .intro hsize hconfig hvalid hcount

theorem header_of_create (h : create elementSize config = .ok buffer) :
    buffer.header = .unreserved elementSize := by
  unfold create at h
  cases hreservation : Reservation.create elementSize config with
  | error error =>
      rw [hreservation] at h
      cases h
  | ok r =>
      rw [hreservation] at h
      cases h
      exact (Reservation.of_create hreservation).right.right

theorem Keeps.exchange (h : Keeps elementSize config buffer r) {others : List α}
    (hlength : others.length = buffer.items.length) :
    Keeps elementSize config { buffer with items := others } r := by
  cases h with
  | intro hsize hconfig hvalid hcount =>
      exact .intro hsize hconfig hvalid (hcount.trans hlength.symm)

/-!
## Each operation plays its move
-/

variable (limit : Nat)

theorem insert_plays (h : Keeps elementSize config buffer r) (index : Nat) (value : α) :
    Lockstep (Keeps elementSize config) SameRefusal (buffer.insert limit index value)
      (r.play limit (.guarded (buffer.checkPosition index) .extend)) := by
  cases h with
  | @intro items r hsize hconfig hvalid hcount =>
      have hkept : Keeps elementSize config (holding r items) r :=
        .intro hsize hconfig hvalid hcount
      unfold checkPosition
      rw [items_holding]
      rcases Nat.lt_or_ge items.length index with hindex | hindex
      · rw [insert_of_lt limit hindex, if_pos hindex]
        exact Lockstep.pure hkept rfl
      · rcases Reservation.ensure_succ limit hvalid hcount with ⟨hfaults, hensured⟩
        rw [insert_of_le limit hvalid hcount hindex, if_neg (Nat.not_lt_of_le hindex)]
        simp only [Move.guarded, Reservation.play, hcount]
        apply Lockstep.growth hfaults hensured
        · intro error
          exact Lockstep.pure hkept rfl
        · intro slots hslots hgrown
          have hlonger := (List.length_insertIdx_of_le_length hindex value).symm
          exact Lockstep.pure (.intro hsize hconfig (hgrown.withLength hslots) hlonger) rfl

theorem push_plays (h : Keeps elementSize config buffer r) {index : Nat}
    (hindex : index ≤ buffer.items.length) (value : α) :
    Lockstep (Keeps elementSize config) SameRefusal (buffer.insert limit index value)
      (r.play limit .extend) := by
  have hplays := insert_plays limit h index value
  rw [checkPosition, if_neg (Nat.not_lt_of_le hindex)] at hplays
  exact hplays

theorem drop_plays (h : Keeps elementSize config buffer r) {index : Nat}
    (hindex : index < buffer.items.length) :
    Lockstep (Keeps elementSize config)
      (fun removed result => refusal removed = none ∧ refusal result = none)
      (buffer.remove index) (r.play limit .drop) := by
  cases h with
  | intro hsize hconfig hvalid hcount =>
      have hshorter := valid_removed hvalid hcount
      have hsettled := Reservation.valid_settle hshorter
      rw [remove_of_lt hvalid hcount hindex, Reservation.play, hcount]
      apply Lockstep.bind (Reservation.faults_settle hshorter)
      rw [Reservation.value_settle hshorter] at hsettled ⊢
      have hleft := (List.length_eraseIdx_of_lt hindex).symm
      exact Lockstep.pure (.intro hsize hconfig hsettled hleft) ⟨rfl, rfl⟩

theorem remove_plays (h : Keeps elementSize config buffer r) (index : Nat) :
    Lockstep (Keeps elementSize config) SameRefusal (buffer.remove index)
      (r.play limit (.guarded (buffer.checkIndex index) .drop)) := by
  unfold checkIndex
  rcases Nat.lt_or_ge index buffer.items.length with hindex | hindex
  · rw [if_neg (Nat.not_le_of_lt hindex)]
    exact (drop_plays limit h hindex).imp fun _ _ hnone => hnone.left.trans hnone.right.symm
  · rw [if_pos hindex]
    cases h with
    | intro hsize hconfig hvalid hcount =>
        rw [items_holding] at hindex ⊢
        rw [remove_of_le hindex]
        exact Lockstep.pure (.intro hsize hconfig hvalid hcount) rfl

theorem replace_plays (h : Keeps elementSize config buffer r) (index : Nat) (value : α) :
    Lockstep (Keeps elementSize config) SameRefusal (pure (buffer.replace index value))
      (r.play limit (.guarded (buffer.checkIndex index) .keep)) := by
  unfold replace checkIndex
  rcases Nat.lt_or_ge index buffer.items.length with hindex | hindex
  · rw [List.getElem?_eq_getElem hindex, if_neg (Nat.not_le_of_lt hindex)]
    exact Lockstep.pure (h.exchange List.length_set) rfl
  · rw [List.getElem?_eq_none hindex, if_pos hindex]
    exact Lockstep.pure h rfl

theorem popFront_plays (h : Keeps elementSize config buffer r) :
    Lockstep (Keeps elementSize config) (fun _ result => refusal result = none) buffer.popFront
      (r.play limit (if buffer.items.length = 0 then .keep else .drop)) := by
  by_cases hnone : buffer.items.length = 0
  · have hnil : buffer.items = [] := List.length_eq_zero_iff.mp hnone
    rw [if_pos hnone]
    unfold popFront remove
    rw [hnil]
    exact Lockstep.pure h rfl
  · rw [if_neg hnone]
    exact (drop_plays limit h (Nat.pos_of_ne_zero hnone)).map_left fun _ _ hkept => hkept.right

theorem popBack_plays (h : Keeps elementSize config buffer r) :
    Lockstep (Keeps elementSize config) (fun _ result => refusal result = none) buffer.popBack
      (r.play limit (if buffer.items.length = 0 then .keep else .drop)) := by
  unfold popBack
  by_cases hnone : buffer.items.length = 0
  · rw [if_pos hnone, if_pos hnone]
    exact Lockstep.pure h rfl
  · rw [if_neg hnone, if_neg hnone]
    exact (drop_plays limit h (Nat.sub_one_lt hnone)).map_left fun _ _ hkept => hkept.right

theorem reserve_plays (h : Keeps elementSize config buffer r) (amount : Nat) :
    Lockstep (Keeps elementSize config) SameRefusal (buffer.reserve limit amount)
      (r.play limit (.reserve amount)) := by
  cases h with
  | intro hsize hconfig hvalid hcount =>
      rw [reserve_holding hvalid hcount, Reservation.play]
      apply Lockstep.growth (Reservation.faults_reserve limit _ amount)
        (Reservation.suffices_reserve limit amount hvalid)
      · intro error
        exact Lockstep.pure (.intro hsize hconfig hvalid hcount) rfl
      · intro slots _ hgrown
        exact Lockstep.pure (.intro hsize hconfig hgrown hcount) rfl

theorem compact_plays (h : Keeps elementSize config buffer r) :
    Lockstep (Keeps elementSize config) (fun reply result => reply.refusal = refusal result)
      (buffer.step limit .compact) (r.play limit .compact) := by
  cases h with
  | intro hsize hconfig hvalid hcount =>
      have htight := Reservation.valid_compact hvalid
      rw [step, compact_holding hvalid hcount, bind_assoc]
      apply Lockstep.bind (Reservation.faults_compact hvalid)
      rw [Reservation.value_compact hvalid] at htight ⊢
      rw [bind_assoc]
      exact Lockstep.emit_left rfl (Lockstep.pure (.intro hsize hconfig htight hcount) rfl)

theorem destroyWith_plays (h : Keeps elementSize config buffer r)
    (interruptAt : Option Nat) :
    Lockstep (Keeps elementSize config) (fun _ result => refusal result = none)
      (buffer.destroyWith interruptAt)
      (r.play limit
        (match (sweep id interruptAt buffer.items).ending with
        | .completed => .release
        | .interrupted => .vacate)) := by
  cases h with
  | @intro items r hsize hconfig hvalid hcount =>
      rw [items_holding]
      cases hending : (sweep id interruptAt items).ending with
      | interrupted =>
          rw [destroyWith_of_interrupted hending]
          exact Lockstep.pure
            (.intro hsize hconfig (hvalid.withLength (Nat.zero_le _)) rfl) rfl
      | completed =>
          have hreleased : r.release.faults = [] := by
            rw [Reservation.release_eq hvalid]
            rfl
          rw [destroyWith_of_completed hvalid hending]
          apply Lockstep.bind hreleased
          rw [Reservation.release_eq hvalid]
          exact Lockstep.emit_left rfl
            (Lockstep.pure (.intro hsize hconfig (Reservation.valid_release hvalid) rfl) rfl)

/-- Each command plays its move on the reservation of the buffer. -/
theorem step_plays (h : Keeps elementSize config buffer r) (command : Command α) :
    Lockstep (Keeps elementSize config) (fun reply result => reply.refusal = refusal result)
      (buffer.step limit command) (r.play limit (buffer.move command)) := by
  cases command with
  | requiredBytes length =>
      rw [step, requiredBytes, Reservation.requiredBytes_eq_pure, pure_bind]
      exact Lockstep.pure h rfl
  | get index => exact Lockstep.pure h rfl
  | set index value => exact Lockstep.pure (h.exchange List.length_set) rfl
  | reverse => exact Lockstep.pure (h.exchange List.length_reverse) rfl
  | observe probes => exact Lockstep.pure h rfl
  | reserve amount => exact (reserve_plays limit h amount).map_left fun _ _ hsame => hsame
  | compact => exact compact_plays limit h
  | insert index value =>
    exact (insert_plays limit h index value).map_left fun _ _ hsame => hsame
  | pushFront value =>
      exact (push_plays limit h (Nat.zero_le _) value).map_left fun _ _ hsame => hsame
  | pushBack value =>
      exact (push_plays limit h (Nat.le_refl _) value).map_left fun _ _ hsame => hsame
  | remove index => exact (remove_plays limit h index).map_left fun _ _ hsame => hsame
  | replace index value =>
      exact (replace_plays limit h index value).map_left fun _ _ hsame => hsame
  | popFront => exact (popFront_plays limit h).map_left fun _ _ hkept => hkept.symm
  | popBack => exact (popBack_plays limit h).map_left fun _ _ hkept => hkept.symm
  | destroy =>
      have hplays := destroyWith_plays limit h none
      rw [sweep_none] at hplays
      have hdestroyed : Lockstep (Keeps elementSize config)
          (fun reply result => reply.refusal = refusal result)
          (Outcome.map (fun _ => (.unit : Reply α)) <$> buffer.destroyWith none)
          (r.play limit .release) :=
        hplays.map_left fun _ _ hkept => hkept.symm
      rw [step, destroy, bind_assoc]
      exact hdestroyed
  | destroyWith interruptAt =>
      exact (destroyWith_plays limit h interruptAt).map_left fun _ _ hkept => hkept.symm
  | copy =>
      rw [step, copy_eq h.represents, pure_bind]
      exact Lockstep.pure h rfl

/-!
## Roles
-/

/-- Unless it reserves slots ahead or is broken off, a command plays a move of its role. -/
theorem move_serves (limit : Nat) (buffer : Buffer α) (command : Command α)
    (hreserves : command.role ≠ .reserves)
    (hwhole : (buffer.step limit command).value.result.interrupted = false) :
    (buffer.move command).Serves command.role := by
  have hkeep : Move.keep.Serves .other := .plain trivial rfl
  have hextend : Move.extend.Serves .inserts := .plain trivial rfl
  have hdrop : Move.drop.Serves .other := .plain trivial rfl
  have hrelease : Move.release.Serves .empties := .plain trivial rfl
  cases command with
  | requiredBytes length => exact hkeep
  | get index => exact hkeep
  | set index value => exact hkeep
  | reverse => exact hkeep
  | observe probes => exact hkeep
  | reserve amount => exact absurd rfl hreserves
  | compact => exact .plain trivial rfl
  | insert index value => exact hextend.guarded _
  | pushFront value => exact hextend
  | pushBack value => exact hextend
  | remove index => exact hdrop.guarded _
  | replace index value => exact hkeep.guarded _
  | popFront =>
      rw [move]
      split
      · exact hkeep
      · exact hdrop
  | popBack =>
      rw [move]
      split
      · exact hkeep
      · exact hdrop
  | destroy => exact hrelease
  | destroyWith interruptAt =>
      rw [move]
      cases hending : (sweep id interruptAt buffer.items).ending with
      | completed => exact hrelease
      | interrupted =>
          rw [step, destroyWith_of_interrupted hending] at hwhole
          exact absurd hending (of_decide_eq_false hwhole)
  | copy => exact hkeep

end Buffer
end BlockBuffer
