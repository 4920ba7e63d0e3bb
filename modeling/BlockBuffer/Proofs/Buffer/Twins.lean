import BlockBuffer.Proofs.Buffer.Moves
import BlockBuffer.Proofs.Reservation.Alike

/-!
# Buffers of values under two configurations

Two buffers of the same values with the same header answer every command alike, if their
configurations make no difference to their reservations.
-/

namespace BlockBuffer
namespace Buffer

variable {α : Type}

inductive Twins (left right : Config) : Buffer α → Buffer α → Prop where
  | intro {items : List α} {r : Reservation} :
      r.config = left → r.Valid → r.header.length = items.length →
        Twins left right (holding r items)
          (holding (r.under right) items)

variable {logs : List Event → List Event → Prop} {limits : Nat → Nat} {left right : Config}
  {buffer buffer' : Buffer α}

theorem Twins.header_eq (h : Twins left right buffer buffer') :
    buffer.header = buffer'.header := by
  cases h with
  | intro _ _ _ => rfl

theorem Twins.items_eq (h : Twins left right buffer buffer') :
    buffer.items = buffer'.items := by
  cases h with
  | intro _ _ _ => rfl

theorem Twins.exchange (h : Twins left right buffer buffer') {others : List α}
    (hlength : others.length = buffer.items.length) :
    Twins left right { buffer with items := others } { buffer' with items := others } := by
  cases h with
  | intro hconfig hvalid hcount => exact .intro hconfig hvalid (hcount.trans hlength.symm)

/-- A command makes the same move on both. -/
theorem move_twins (h : Twins left right buffer buffer') (command : Command α) :
    buffer'.move command = buffer.move command := by
  cases h with
  | intro _ _ _ =>
      cases command with
      | _ => rfl

section Operations

variable (alike : Config.Alike logs limits left right)

include alike

theorem represents_twins (h : Twins left right buffer buffer') :
    Represents buffer.header.elementSize left buffer buffer.items ∧
      Represents buffer.header.elementSize right buffer' buffer.items := by
  cases h with
  | intro hconfig hvalid hcount =>
      constructor
      · exact .intro rfl hconfig hvalid hcount
      · exact .intro rfl rfl (alike.valid hvalid hconfig) hcount

theorem keeps_twins (h : Twins left right buffer buffer') :
    ∃ r, Keeps buffer.header.elementSize left buffer r ∧
      Keeps buffer.header.elementSize right buffer' (r.under right) := by
  cases h with
  | intro hconfig hvalid hcount =>
      have hvalid' := alike.valid hvalid hconfig
      exact ⟨_, .intro rfl hconfig hvalid hcount, .intro rfl rfl hvalid' hcount⟩

/-!
## Putting values in and taking them out
-/

theorem insert_twins (limit : Nat) (h : Twins left right buffer buffer') (index : Nat)
    (value : α) :
    Paired logs (SameAnswer (Twins left right)) (buffer.insert limit index value)
      (buffer'.insert (limits limit) index value) := by
  cases h with
  | @intro items r hconfig hvalid hcount =>
      have hvalid' := alike.valid hvalid hconfig
      rcases Nat.lt_or_ge items.length index with hindex | hindex
      · rw [insert_of_lt limit hindex, insert_of_lt (limits limit) hindex]
        exact Paired.pure alike.partByPart ⟨rfl, .intro hconfig hvalid hcount⟩
      · rw [insert_of_le limit hvalid hcount hindex,
          insert_of_le (limits limit) hvalid' hcount hindex]
        apply Paired.growth alike.partByPart (alike.ensure hvalid hconfig hcount limit)
        · intro error
          exact Paired.pure alike.partByPart ⟨rfl, .intro hconfig hvalid hcount⟩
        · intro slots hslots hgrown
          have hlonger := (List.length_insertIdx_of_le_length hindex value).symm
          exact Paired.pure alike.partByPart
            ⟨rfl, .intro hconfig (hgrown.withLength hslots) hlonger⟩

theorem remove_twins (h : Twins left right buffer buffer') (index : Nat) :
    Paired logs (SameAnswer (Twins left right)) (buffer.remove index)
      (buffer'.remove index) := by
  cases h with
  | @intro items r hconfig hvalid hcount =>
      have hvalid' := alike.valid hvalid hconfig
      rcases Nat.lt_or_ge index items.length with hindex | hindex
      · have hshorter := valid_removed hvalid hcount
        have hsettled := Reservation.valid_settle hshorter
        have hleft := (List.length_eraseIdx_of_lt hindex).symm
        rw [Reservation.value_settle hshorter] at hsettled
        rw [remove_of_lt hvalid hcount hindex, remove_of_lt hvalid' hcount hindex]
        apply Paired.bind alike.partByPart (alike.settle hshorter hconfig).of_value
        rintro settled settled' ⟨rfl, rfl⟩
        rw [Reservation.value_settle hshorter]
        exact Paired.pure alike.partByPart ⟨rfl, .intro hconfig hsettled hleft⟩
      · rw [remove_of_le hindex, remove_of_le hindex]
        exact Paired.pure alike.partByPart ⟨rfl, .intro hconfig hvalid hcount⟩

theorem popBack_twins (h : Twins left right buffer buffer') :
    Paired logs (SameAnswer (Twins left right)) buffer.popBack buffer'.popBack := by
  unfold popBack
  rw [← h.items_eq]
  split
  · exact Paired.pure alike.partByPart ⟨rfl, h⟩
  · exact (remove_twins alike h _).map Except.toOption

theorem replace_twins (h : Twins left right buffer buffer') (index : Nat) (value : α) :
    Paired logs (SameAnswer (Twins left right)) (pure (buffer.replace index value))
      (pure (buffer'.replace index value)) := by
  unfold replace
  rw [← h.items_eq]
  cases buffer.items[index]? with
  | none => exact Paired.pure alike.partByPart ⟨rfl, h⟩
  | some old => exact Paired.pure alike.partByPart ⟨rfl, h.exchange List.length_set⟩

/-!
## Storage
-/

theorem reserve_twins (limit : Nat) (h : Twins left right buffer buffer') (amount : Nat) :
    Paired logs (SameAnswer (Twins left right)) (buffer.reserve limit amount)
      (buffer'.reserve (limits limit) amount) := by
  cases h with
  | intro hconfig hvalid hcount =>
      rw [reserve_holding hvalid hcount, reserve_holding (alike.valid hvalid hconfig) hcount]
      apply Paired.growth alike.partByPart (alike.reserve hvalid hconfig limit amount)
      · intro error
        exact Paired.pure alike.partByPart ⟨rfl, .intro hconfig hvalid hcount⟩
      · intro slots _ hgrown
        exact Paired.pure alike.partByPart ⟨rfl, .intro hconfig hgrown hcount⟩

theorem compact_twins (h : Twins left right buffer buffer') :
    Paired logs (Twins left right) buffer.compact buffer'.compact := by
  cases h with
  | intro hconfig hvalid hcount =>
      have htight := Reservation.valid_compact hvalid
      rw [Reservation.value_compact hvalid] at htight
      rw [compact_holding hvalid hcount, compact_holding (alike.valid hvalid hconfig) hcount]
      apply Paired.bind alike.partByPart (alike.compact hvalid hconfig)
      rintro tight tight' ⟨rfl, rfl⟩
      exact Paired.emit_pure alike.partByPart _ (.intro hconfig htight hcount)

theorem destroyWith_twins (h : Twins left right buffer buffer') (interruptAt : Option Nat) :
    Paired logs (SameAnswer (Twins left right)) (buffer.destroyWith interruptAt)
      (buffer'.destroyWith interruptAt) := by
  cases h with
  | @intro items r hconfig hvalid hcount =>
      cases hending : (sweep id interruptAt items).ending with
      | interrupted =>
          rw [destroyWith_of_interrupted hending, destroyWith_of_interrupted hending]
          exact Paired.pure alike.partByPart
            ⟨rfl, .intro hconfig (hvalid.withLength (Nat.zero_le _)) rfl⟩
      | completed =>
          rw [destroyWith_of_completed hvalid hending,
            destroyWith_of_completed (alike.valid hvalid hconfig) hending]
          apply Paired.bind alike.partByPart (alike.release hvalid hconfig)
          rintro released released' ⟨rfl, rfl⟩
          exact Paired.emit_pure alike.partByPart _
            ⟨rfl, .intro hconfig (Reservation.valid_release hvalid) rfl⟩

theorem destroy_twins (h : Twins left right buffer buffer') :
    Paired logs (Twins left right) buffer.destroy buffer'.destroy := by
  apply Paired.bind alike.partByPart (destroyWith_twins alike h none)
  intro outcome outcome' hsame
  exact Paired.pure alike.partByPart hsame.state_related

/-- A command answers alike on both, and leaves buffers that are the same but for their
configuration. -/
theorem step_twins (limit : Nat) (h : Twins left right buffer buffer') (command : Command α) :
    Paired logs (SameAnswer (Twins left right)) (buffer.step limit command)
      (buffer'.step (limits limit) command) := by
  have hlogs := alike.partByPart
  rcases represents_twins alike h with ⟨hlist, hlist'⟩
  cases command with
  | requiredBytes length =>
      rw [step, step, requiredBytes, requiredBytes, Reservation.requiredBytes_eq_pure,
        Reservation.requiredBytes_eq_pure, pure_bind, pure_bind]
      cases h with
      | @intro items r hconfig hvalid hcount =>
          have hbytes := alike.bytesFor_eq r.header.elementSize length
          rw [← hconfig] at hbytes
          exact Paired.pure hlogs
            ⟨congrArg Reply.size hbytes.symm, .intro hconfig hvalid hcount⟩
  | get index =>
      rw [step, step, get, get, ← h.items_eq]
      exact Paired.pure hlogs ⟨rfl, h⟩
  | set index value =>
      rw [step, step, set, set, ← h.items_eq]
      exact Paired.pure hlogs ⟨rfl, h.exchange List.length_set⟩
  | reverse =>
      rw [step, step, reverse, reverse, ← h.items_eq]
      exact Paired.pure hlogs ⟨rfl, h.exchange List.length_reverse⟩
  | observe probes =>
      rw [step, step, ← h.items_eq]
      exact Paired.pure hlogs ⟨rfl, h⟩
  | reserve amount => exact (reserve_twins alike limit h amount).map _
  | compact =>
      apply Paired.bind hlogs (compact_twins alike h)
      intro tight tight' htight
      exact Paired.pure hlogs ⟨rfl, htight⟩
  | insert index value => exact (insert_twins alike limit h index value).map _
  | pushFront value => exact (insert_twins alike limit h 0 value).map _
  | pushBack value =>
      rw [step, step, pushBack, pushBack, ← h.items_eq]
      exact (insert_twins alike limit h _ value).map _
  | remove index => exact (remove_twins alike h index).map _
  | replace index value => exact (replace_twins alike h index value).map _
  | popFront => exact ((remove_twins alike h 0).map Except.toOption).map _
  | popBack => exact (popBack_twins alike h).map _
  | destroy =>
      apply Paired.bind hlogs (destroy_twins alike h)
      intro emptied emptied' hempty
      exact Paired.pure hlogs ⟨rfl, hempty⟩
  | destroyWith interruptAt => exact (destroyWith_twins alike h interruptAt).map _
  | copy =>
      rw [step, step, copy_eq hlist, copy_eq hlist', pure_bind, pure_bind]
      exact Paired.pure hlogs ⟨rfl, h⟩

end Operations

end Buffer
end BlockBuffer
