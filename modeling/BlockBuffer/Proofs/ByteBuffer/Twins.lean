import BlockBuffer.Proofs.ByteBuffer.Moves
import BlockBuffer.Proofs.Reservation.Alike

/-!
# Byte buffers under two configurations

Two byte buffers with the same elements and the same header answer every command alike, if
their configurations make no difference to their reservations.
-/

namespace BlockBuffer
namespace ByteBuffer

inductive Twins (left right : Config) : ByteBuffer → ByteBuffer → Prop where
  | uninitialized : Twins left right { config := left } { config := right }
  | initialized {r : Reservation} {elements : List Bytes} :
      r.config = left → r.Counts elements →
        Twins left right (holding r elements) (holding (r.under right) elements)

variable {logs : List Event → List Event → Prop} {limits : Nat → Nat} {left right : Config}
  {buffer buffer' : ByteBuffer} {r : Reservation} {elements : List Bytes} {index size : Nat}
  {dest : Option Bytes}

theorem Twins.header_eq (h : Twins left right buffer buffer') :
    buffer.header = buffer'.header := by
  cases h with
  | uninitialized => rfl
  | initialized _ _ => rfl

theorem Twins.bytes_eq (h : Twins left right buffer buffer') :
    buffer.bytes = buffer'.bytes := by
  cases h with
  | uninitialized => rfl
  | initialized _ _ => rfl

theorem Twins.config_eq (h : Twins left right buffer buffer') : buffer.config = left := by
  cases h with
  | uninitialized => rfl
  | initialized hconfig _ => exact hconfig

theorem Twins.config_eq' (h : Twins left right buffer buffer') : buffer'.config = right := by
  cases h with
  | uninitialized => rfl
  | initialized _ _ => rfl

/-!
## Checks
-/

theorem checkInsert_under (right : Config) (r : Reservation) (elements : List Bytes)
    (index size : Nat) :
    (holding (r.under right) elements).checkInsert index size =
      ((holding r elements).checkInsert index size).map (Reservation.under right) := by
  unfold checkInsert
  rw [initialized_holding, initialized_holding]
  simp only [bind, Except.bind, Reservation.header_under]
  cases r.header.checkPosition index with
  | error error => rfl
  | ok _ =>
      cases r.header.checkSize size with
      | error error => rfl
      | ok _ => rfl

theorem checkElement_under (right : Config) (r : Reservation) (elements : List Bytes)
    (index : Nat) :
    (holding (r.under right) elements).checkElement index =
      ((holding r elements).checkElement index).map (Reservation.under right) := by
  unfold checkElement
  rw [initialized_holding, initialized_holding]
  simp only [bind, Except.bind, Reservation.header_under]
  cases r.header.checkIndex index with
  | error error => rfl
  | ok _ => rfl

theorem checkCopy_under (right : Config) (r : Reservation) (elements : List Bytes)
    (index size : Nat) :
    (holding (r.under right) elements).checkCopy index size =
      ((holding r elements).checkCopy index size).map (Reservation.under right) := by
  unfold checkCopy
  rw [checkElement_under]
  cases (holding r elements).checkElement index with
  | error error => rfl
  | ok passed =>
      simp only [bind, Except.bind, Except.map, Reservation.header_under]
      cases passed.header.checkSize size with
      | error error => rfl
      | ok _ => rfl

theorem checkRemove_under (right : Config) (r : Reservation) (elements : List Bytes)
    (index : Nat) (dest : Option Bytes) :
    (holding (r.under right) elements).checkRemove index dest =
      ((holding r elements).checkRemove index dest).map (Reservation.under right) := by
  cases dest with
  | none => exact checkElement_under right r elements index
  | some place => exact checkCopy_under right r elements index place.length

/-!
## Each operation
-/

section Operations

variable (alike : Config.Alike logs limits left right)

include alike

theorem counts_under (hconfig : r.config = left) (hcounts : r.Counts elements) :
    (r.under right).Counts elements :=
  ⟨alike.valid hcounts.valid hconfig, hcounts.length_eq, hcounts.uniform⟩

theorem represents_twins (h : Twins left right buffer buffer') :
    ∃ list, Represents left buffer list ∧ Represents right buffer' list := by
  cases h with
  | uninitialized => exact ⟨_, .uninitialized, .uninitialized⟩
  | initialized hconfig hcounts =>
      have hcounts' := counts_under alike hconfig hcounts
      exact ⟨_, .initialized hconfig hcounts, .initialized rfl hcounts'⟩

theorem keeps_twins (h : Twins left right buffer buffer') :
    ∃ r, Keeps left buffer r ∧ Keeps right buffer' (r.under right) := by
  cases h with
  | uninitialized => exact ⟨_, .uninitialized, .uninitialized⟩
  | initialized hconfig hcounts =>
      have hcounts' := counts_under alike hconfig hcounts
      exact ⟨_, .initialized hconfig hcounts, .initialized rfl hcounts'⟩

theorem init_twins (h : Twins left right buffer buffer') (elementSize : Nat) :
    Paired logs (SameAnswer (Twins left right)) (buffer.init elementSize)
      (buffer'.init elementSize) := by
  have hlogs := alike.partByPart
  have hcreate := Reservation.create_eq elementSize buffer.config
  have hcreate' := Reservation.create_eq elementSize buffer'.config
  rw [h.config_eq] at hcreate
  rw [h.config_eq', alike.blockSize_eq] at hcreate'
  by_cases hsize : elementSize = 0
  · rw [if_pos hsize] at hcreate hcreate'
    rw [init, init, h.config_eq, h.config_eq', hcreate, hcreate']
    exact Paired.pure hlogs ⟨rfl, h⟩
  · by_cases hblock : left.blockSize = 0
    · rw [if_neg hsize, if_pos hblock] at hcreate hcreate'
      rw [init, init, h.config_eq, h.config_eq', hcreate, hcreate']
      exact Paired.pure hlogs ⟨rfl, h⟩
    · have hpos := Nat.pos_of_ne_zero hsize
      have hnew : Twins left right
          (holding { header := .unreserved elementSize, config := left } [])
          (holding { header := .unreserved elementSize, config := right } []) :=
        .initialized rfl ⟨Reservation.valid_unreserved hpos hblock, rfl, Bytes.Uniform.nil _⟩
      rw [if_neg hsize, if_neg hblock, ← h.config_eq] at hcreate
      rw [if_neg hsize, if_neg hblock, ← h.config_eq'] at hcreate'
      rw [init_of_create hcreate, init_of_create hcreate', h.config_eq, h.config_eq']
      exact Paired.emit_pure hlogs _ ⟨rfl, hnew⟩

theorem requiredBytes_twins (h : Twins left right buffer buffer') (length : Nat) :
    Paired logs Eq (buffer.requiredBytes length) (buffer'.requiredBytes length) := by
  cases h with
  | uninitialized => exact Paired.pure alike.partByPart rfl
  | @initialized r elements hconfig hcounts =>
      have hcounts' := counts_under alike hconfig hcounts
      rw [requiredBytes_eq (.initialized hconfig hcounts),
        requiredBytes_eq (.initialized rfl hcounts')]
      apply Paired.pure alike.partByPart
      unfold ByteList.requiredBytes
      dsimp only [Reservation.header_under, Reservation.under]
      rw [alike.bytesFor_eq]

/-- A command makes the same move on both. -/
theorem move_twins (h : Twins left right buffer buffer') (command : Command) :
    buffer'.move command = buffer.move command := by
  have hrequired := fun length => (requiredBytes_twins alike h length).related
  cases h with
  | uninitialized =>
      cases command with
      | remove index dest =>
          cases dest with
          | none => rfl
          | some place => rfl
      | _ => rfl
  | @initialized r elements _ _ =>
      have hremove := fun index dest =>
        congrArg (Move.guarded · .drop) (checkRemove_under right r elements index dest)
      simp only [Move.guarded_map] at hremove
      cases command with
      | requiredBytes length => exact congrArg (Move.guarded · .keep) (hrequired length).symm
      | copyTo index dest =>
          rw [move, move, checkCopy_under, Move.guarded_map]
      | copyFrom index source =>
          rw [move, move, checkCopy_under, Move.guarded_map]
      | insert index source =>
          rw [move, move, checkInsert_under, Move.guarded_map]
      | pushFront source =>
          rw [move, move, checkInsert_under, Move.guarded_map]
      | pushBack source =>
          rw [move, move, checkInsert_under, Move.guarded_map]
          rfl
      | remove index dest => exact hremove index dest
      | popFront dest =>
          rw [move, move, hremove]
          rfl
      | popBack dest =>
          rw [move, move, hremove]
          rfl
      | _ => rfl

theorem copyTo_twins (h : Twins left right buffer buffer') (index : Nat) (dest : Bytes) :
    Paired logs (SameAnswer (Twins left right)) (buffer.copyTo index dest)
      (buffer'.copyTo index dest) := by
  cases h with
  | uninitialized => exact Paired.pure alike.partByPart ⟨rfl, .uninitialized⟩
  | @initialized r elements hconfig hcounts =>
      have hcounts' := counts_under alike hconfig hcounts
      have hchecked' := checkCopy_under right r elements index dest.length
      cases hchecked : (holding r elements).checkCopy index dest.length with
      | error error =>
          rw [hchecked] at hchecked'
          rw [copyTo_of_error hchecked, copyTo_of_error hchecked']
          exact Paired.pure alike.partByPart ⟨rfl, .initialized hconfig hcounts⟩
      | ok passed =>
          rcases of_checkCopy hcounts hchecked with ⟨hindex, hsize⟩
          rw [copyTo_of_fits hcounts hindex hsize, copyTo_of_fits hcounts' hindex hsize]
          exact Paired.pure alike.partByPart ⟨rfl, .initialized hconfig hcounts⟩

theorem copyFrom_twins (h : Twins left right buffer buffer') (index : Nat) (source : Bytes) :
    Paired logs (SameAnswer (Twins left right)) (buffer.copyFrom index source)
      (buffer'.copyFrom index source) := by
  cases h with
  | uninitialized => exact Paired.pure alike.partByPart ⟨rfl, .uninitialized⟩
  | @initialized r elements hconfig hcounts =>
      have hcounts' := counts_under alike hconfig hcounts
      have hchecked' := checkCopy_under right r elements index source.length
      cases hchecked : (holding r elements).checkCopy index source.length with
      | error error =>
          rw [hchecked] at hchecked'
          rw [copyFrom_of_error hchecked, copyFrom_of_error hchecked']
          exact Paired.pure alike.partByPart ⟨rfl, .initialized hconfig hcounts⟩
      | ok passed =>
          rcases of_checkCopy hcounts hchecked with ⟨hindex, hsize⟩
          have huniform := hcounts.uniform.set hsize index
          rw [copyFrom_of_fits hcounts hindex hsize, copyFrom_of_fits hcounts' hindex hsize]
          exact Paired.pure alike.partByPart
            ⟨rfl, .initialized hconfig (hcounts.exchange List.length_set huniform)⟩

theorem modify_twins (h : Twins left right buffer buffer') (index : Nat) (change : InPlace) :
    Paired logs (SameAnswer (Twins left right)) (buffer.modify index change)
      (buffer'.modify index change) := by
  cases h with
  | uninitialized => exact Paired.pure alike.partByPart ⟨rfl, .uninitialized⟩
  | @initialized r elements hconfig hcounts =>
      have hcounts' := counts_under alike hconfig hcounts
      rw [modify_holding hcounts, modify_holding hcounts']
      cases hget : elements[index]? with
      | none => exact Paired.pure alike.partByPart ⟨rfl, .initialized hconfig hcounts⟩
      | some element =>
          have hsize : (change.edit element).length = r.header.elementSize := by
            rw [change.length_edit]
            exact hcounts.uniform element (List.mem_of_getElem? hget)
          have huniform := hcounts.uniform.set hsize index
          exact Paired.pure alike.partByPart
            ⟨rfl, .initialized hconfig (hcounts.exchange List.length_set huniform)⟩

theorem insert_twins (limit : Nat) (h : Twins left right buffer buffer') (index : Nat)
    (source : Bytes) :
    Paired logs (SameAnswer (Twins left right)) (buffer.insert limit index source)
      (buffer'.insert (limits limit) index source) := by
  cases h with
  | uninitialized => exact Paired.pure alike.partByPart ⟨rfl, .uninitialized⟩
  | @initialized r elements hconfig hcounts =>
      have hkept : Twins left right (holding r elements) (holding (r.under right) elements) :=
        .initialized hconfig hcounts
      have hcounts' := counts_under alike hconfig hcounts
      have hchecked' := checkInsert_under right r elements index source.length
      cases hchecked : (holding r elements).checkInsert index source.length with
      | error error =>
          rw [hchecked] at hchecked'
          rw [insert_of_error limit hchecked, insert_of_error (limits limit) hchecked']
          exact Paired.pure alike.partByPart ⟨rfl, hkept⟩
      | ok passed =>
          rcases of_checkInsert hcounts hchecked with ⟨hindex, hsize⟩
          rw [insert_of_fits limit hcounts hindex hsize,
            insert_of_fits (limits limit) hcounts' hindex hsize]
          apply Paired.growth alike.partByPart
            (alike.ensure hcounts.valid hconfig hcounts.length_eq limit)
          · intro error
            exact Paired.pure alike.partByPart ⟨rfl, hkept⟩
          · intro slots hslots hvalid
            exact Paired.pure alike.partByPart
              ⟨rfl, .initialized hconfig (counts_insertIdx hcounts hindex hsize hslots hvalid)⟩

theorem remove_twins (h : Twins left right buffer buffer') (index : Nat)
    (dest : Option Bytes) :
    Paired logs (SameAnswer (Twins left right)) (buffer.remove index dest)
      (buffer'.remove index dest) := by
  cases h with
  | uninitialized =>
      cases dest with
      | none => exact Paired.pure alike.partByPart ⟨rfl, .uninitialized⟩
      | some place => exact Paired.pure alike.partByPart ⟨rfl, .uninitialized⟩
  | @initialized r elements hconfig hcounts =>
      have hcounts' := counts_under alike hconfig hcounts
      have hchecked' := checkRemove_under right r elements index dest
      cases hchecked : (holding r elements).checkRemove index dest with
      | error error =>
          rw [hchecked] at hchecked'
          rw [remove_of_error hchecked, remove_of_error hchecked']
          exact Paired.pure alike.partByPart ⟨rfl, .initialized hconfig hcounts⟩
      | ok passed =>
          rcases of_checkRemove hcounts hchecked with ⟨hindex, hdest⟩
          have hleft := counts_eraseIdx hcounts hindex
          have hsettled := Reservation.valid_settle hleft.valid
          rw [Reservation.value_settle hleft.valid] at hsettled
          rw [remove_of_fits hcounts hindex hdest, remove_of_fits hcounts' hindex hdest]
          apply Paired.bind alike.partByPart (alike.settle hleft.valid hconfig).of_value
          rintro settled settled' ⟨rfl, rfl⟩
          rw [Reservation.value_settle hleft.valid]
          exact Paired.pure alike.partByPart
            ⟨rfl, .initialized hconfig (hleft.withSlots hsettled)⟩

theorem popAt_twins {place : Nat → Traced Nat} {index : Nat → Nat}
    (hplace : ∀ length, 0 < length → place length = pure (index length))
    (h : Twins left right buffer buffer') (dest : Option Bytes) :
    Paired logs (SameAnswer (Twins left right)) (buffer.popAt place dest)
      (buffer'.popAt place dest) := by
  cases h with
  | uninitialized => exact Paired.pure alike.partByPart ⟨rfl, .uninitialized⟩
  | @initialized r elements hconfig hcounts =>
      have hkept : Twins left right (holding r elements) (holding (r.under right) elements) :=
        .initialized hconfig hcounts
      have hcounts' := counts_under alike hconfig hcounts
      cases elements with
      | nil =>
          rw [popAt_of_nil hcounts, popAt_of_nil hcounts']
          exact Paired.pure alike.partByPart ⟨rfl, hkept⟩
      | cons element rest =>
          have hsome := List.cons_ne_nil element rest
          have hindex := hplace (element :: rest).length (Nat.succ_pos _)
          rw [popAt_of_ne_nil hcounts hsome hindex, popAt_of_ne_nil hcounts' hsome hindex]
          exact (remove_twins alike hkept _ dest).map Delivery.taken

theorem reserve_twins (limit : Nat) (h : Twins left right buffer buffer') (amount : Nat) :
    Paired logs (SameAnswer (Twins left right)) (buffer.reserve limit amount)
      (buffer'.reserve (limits limit) amount) := by
  cases h with
  | uninitialized => exact Paired.pure alike.partByPart ⟨rfl, .uninitialized⟩
  | initialized hconfig hcounts =>
      rw [reserve_holding limit amount hcounts,
        reserve_holding (limits limit) amount (counts_under alike hconfig hcounts)]
      apply Paired.growth alike.partByPart (alike.reserve hcounts.valid hconfig limit amount)
      · intro error
        exact Paired.pure alike.partByPart ⟨rfl, .initialized hconfig hcounts⟩
      · intro slots _ hvalid
        exact Paired.pure alike.partByPart
          ⟨rfl, .initialized hconfig (hcounts.withSlots hvalid)⟩

theorem compact_twins (h : Twins left right buffer buffer') :
    Paired logs (SameAnswer (Twins left right)) buffer.compact buffer'.compact := by
  cases h with
  | uninitialized => exact Paired.pure alike.partByPart ⟨rfl, .uninitialized⟩
  | initialized hconfig hcounts =>
      have hvalid := Reservation.valid_compact hcounts.valid
      rw [Reservation.value_compact hcounts.valid] at hvalid
      rw [compact_holding hcounts, compact_holding (counts_under alike hconfig hcounts)]
      apply Paired.bind alike.partByPart (alike.compact hcounts.valid hconfig)
      rintro tight tight' ⟨rfl, rfl⟩
      exact Paired.emit_pure alike.partByPart _
        ⟨rfl, .initialized hconfig (hcounts.withSlots hvalid)⟩

theorem destroyWith_twins (h : Twins left right buffer buffer') (change : InPlace)
    (interruptAt : Option Nat) :
    Paired logs (SameAnswer (Twins left right)) (buffer.destroyWith change interruptAt)
      (buffer'.destroyWith change interruptAt) := by
  cases h with
  | uninitialized => exact Paired.pure alike.partByPart ⟨rfl, .uninitialized⟩
  | @initialized r elements hconfig hcounts =>
      have hcounts' := counts_under alike hconfig hcounts
      cases hending : (sweep change.edit interruptAt elements).ending with
      | interrupted =>
          rw [destroyWith_of_interrupted hcounts hending,
            destroyWith_of_interrupted hcounts' hending]
          exact Paired.pure alike.partByPart
            ⟨rfl, .initialized hconfig (counts_sweep hcounts change interruptAt)⟩
      | completed =>
          have hempty : ((r.withLength 0).withSlots 0).Counts [] :=
            ⟨Reservation.valid_release hcounts.valid, rfl, Bytes.Uniform.nil _⟩
          rw [destroyWith_of_completed hcounts hending,
            destroyWith_of_completed hcounts' hending]
          apply Paired.bind alike.partByPart (alike.release hcounts.valid hconfig)
          rintro released released' ⟨rfl, rfl⟩
          exact Paired.emit_pure alike.partByPart _ ⟨rfl, .initialized hconfig hempty⟩

/-- A command answers alike on both, and leaves buffers that are the same but for their
configuration. -/
theorem step_twins (limit : Nat) (h : Twins left right buffer buffer') (command : Command) :
    Paired logs (SameAnswer (Twins left right)) (buffer.step limit command)
      (buffer'.step (limits limit) command) := by
  rcases represents_twins alike h with ⟨list, hlist, hlist'⟩
  cases command with
  | init elementSize => exact (init_twins alike h elementSize).map _
  | requiredBytes length =>
      apply Paired.bind alike.partByPart (requiredBytes_twins alike h length)
      rintro result _ rfl
      exact Paired.pure alike.partByPart ⟨rfl, h⟩
  | get index =>
      rw [step, step, get_eq hlist, get_eq hlist', pure_bind, pure_bind]
      exact Paired.pure alike.partByPart ⟨rfl, h⟩
  | modify index change => exact (modify_twins alike h index change).map _
  | copyTo index dest => exact (copyTo_twins alike h index dest).map _
  | copyFrom index source => exact (copyFrom_twins alike h index source).map _
  | observe probes =>
      rcases cursor_observes hlist with ⟨cursor, hcursor, hshown⟩
      rcases cursor_observes hlist' with ⟨cursor', hcursor', hshown'⟩
      rw [step, step, hcursor, hcursor', pure_bind, pure_bind, hshown, hshown']
      exact Paired.pure alike.partByPart ⟨rfl, h⟩
  | reserve amount => exact (reserve_twins alike limit h amount).map _
  | compact => exact (compact_twins alike h).map _
  | insert index source => exact (insert_twins alike limit h index source).map _
  | pushFront source => exact (insert_twins alike limit h 0 source).map _
  | pushBack source =>
      have hinsert := insert_twins alike limit h buffer.length source
      have hlength : buffer.length = buffer'.length := congrArg Header.length h.header_eq
      rw [step, step, pushBack, pushBack, ← hlength]
      exact hinsert.map _
  | remove index dest => exact (remove_twins alike h index dest).map _
  | popFront dest => exact (popAt_twins alike (fun _ _ => rfl) h dest).map _
  | popBack dest =>
      exact (popAt_twins alike (fun _ hpos => Word.sub_of_le hpos) h dest).map _
  | destroy => exact ((destroyWith_twins alike h .id none).map (Except.map fun _ => ())).map _
  | destroyWith change interruptAt =>
    exact (destroyWith_twins alike h change interruptAt).map _
  | copy =>
      rw [step, step, copy_eq hlist, copy_eq hlist', pure_bind, pure_bind]
      exact Paired.pure alike.partByPart ⟨rfl, h⟩

end Operations

end ByteBuffer
end BlockBuffer
