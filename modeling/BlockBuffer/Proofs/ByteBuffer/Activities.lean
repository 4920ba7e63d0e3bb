import BlockBuffer.Proofs.Activities
import BlockBuffer.Proofs.Ceiling

/-!
# What the commands on a byte buffer are for

Only its checks refuse an insertion before storage is asked for, and no check speaks of
storage.  A command on elements whose places are there, with byte strings of one element,
passes every check.
-/

namespace BlockBuffer
namespace ByteBuffer

def Command.activity : Command → Activity
  | .init _ => .initialization
  | .requiredBytes _ => .other
  | .get _ => .access
  | .modify _ _ => .access
  | .copyTo _ _ => .access
  | .copyFrom _ _ => .access
  | .observe _ => .access
  | .reserve _ => .reservation
  | .compact => .compaction
  | .insert _ _ => .insertion
  | .pushFront _ => .insertion
  | .pushBack _ => .insertion
  | .remove _ _ => .removal
  | .popFront _ => .removal
  | .popBack _ => .removal
  | .destroy => .cleanup
  | .destroyWith _ _ => .cleanup
  | .copy => .other

/-- The commands on elements whose places are there and whose byte strings are one element
long. -/
def Accepts (buffer : ByteBuffer) : Command → Prop
  | .get _ => True
  | .modify _ _ => True
  | .copyTo index dest => index < buffer.length ∧ dest.length = buffer.elementSize
  | .copyFrom index source => index < buffer.length ∧ source.length = buffer.elementSize
  | .observe _ => True
  | .remove index dest =>
      index < buffer.length ∧ ∀ place ∈ dest, place.length = buffer.elementSize
  | .popFront dest => ∀ place ∈ dest, place.length = buffer.elementSize
  | .popBack dest => ∀ place ∈ dest, place.length = buffer.elementSize
  | command => buffer.Pushes command

variable {config : Config} {buffer : ByteBuffer} {r : Reservation}

/-!
## What they ask
-/

theorem checkInsert_ne_allocation {index size : Nat} {error : BufferError}
    (h : buffer.checkInsert index size = .error error) :
    ∀ bytes, error ≠ .allocation bytes := by
  rintro bytes rfl
  unfold checkInsert initialized Header.checkPosition Header.checkSize at h
  cases hreservation : buffer.reservation with
  | none =>
      rw [hreservation] at h
      cases h
  | some reservation =>
      rw [hreservation] at h
      simp only [bind, Except.bind] at h
      split at h
      · rename_i hposition
        split at hposition
        · cases hposition
          cases h
        · cases hposition
      · split at h
        · rename_i hsize
          split at hsize
          · cases hsize
          · cases hsize
            cases h
        · cases h

theorem asks (h : Keeps config buffer r) (command : Command) :
    command.activity.Asks r.header.length (buffer.move command) := by
  have hlength : buffer.length = r.header.length := congrArg Header.length h.header_eq
  have hpops : ∀ {ρ : Type} (check : Result ρ),
      Activity.removal.Asks r.header.length
        (if buffer.length = 0 then .keep else .guarded check .drop) := by
    intro ρ check
    split
    · rename_i hnone
      exact .nothing (hlength.symm.trans hnone)
    · exact Activity.Asks.drop.guarded Activity.noConfusion check
  cases command with
  | init elementSize => exact .start elementSize
  | requiredBytes length => exact Activity.Asks.keep.guarded Activity.noConfusion _
  | get index => exact .touch
  | modify index change => exact .touch
  | copyTo index dest => exact Activity.Asks.touch.guarded Activity.noConfusion _
  | copyFrom index source => exact Activity.Asks.touch.guarded Activity.noConfusion _
  | observe probes => exact .touch
  | reserve amount => exact (Activity.Asks.reserve amount).guarded Activity.noConfusion _
  | compact => exact Activity.Asks.compact.guarded Activity.noConfusion _
  | insert index source => exact .guarded_extend fun _ => checkInsert_ne_allocation
  | pushFront source => exact .guarded_extend fun _ => checkInsert_ne_allocation
  | pushBack source => exact .guarded_extend fun _ => checkInsert_ne_allocation
  | remove index dest => exact Activity.Asks.drop.guarded Activity.noConfusion _
  | popFront dest => exact (hpops _).guarded Activity.noConfusion _
  | popBack dest => exact (hpops _).guarded Activity.noConfusion _
  | destroy => exact Activity.Asks.release.guarded Activity.noConfusion _
  | destroyWith change interruptAt =>
      have hcleanup : Command.activity (.destroyWith change interruptAt) ≠ .insertion :=
        Activity.noConfusion
      refine Activity.Asks.guarded ?_ hcleanup _
      split
      · exact .release
      · exact .spare
  | copy => exact .keep

/-- An element is dropped only where there is one. -/
theorem length_pos_of_drop (h : Keeps config buffer r) {command : Command}
    (hmove : buffer.move command = .drop) : 0 < r.header.length := by
  have hasks := asks h command
  rw [hmove] at hasks
  have hactivity : command.activity = .removal := hasks.eq_of_move rfl
  cases h with
  | uninitialized =>
      cases command with
      | remove index dest =>
          cases dest with
          | none => cases hmove
          | some place => cases hmove
      | popFront dest => cases hmove
      | popBack dest => cases hmove
      | _ => cases hactivity
  | @initialized r elements _ hcounts =>
      have hplace : ∀ {index : Nat} {dest : Option Bytes},
          Move.guarded ((holding r elements).checkRemove index dest) .drop = .drop →
            0 < r.header.length := by
        intro index dest hguarded
        cases hchecked : (holding r elements).checkRemove index dest with
        | error error =>
            rw [hchecked] at hguarded
            cases hguarded
        | ok passed =>
            rw [hcounts.length_eq]
            exact Nat.zero_lt_of_lt (of_checkRemove hcounts hchecked).left
      cases command with
      | remove index dest => exact hplace hmove
      | popFront dest =>
          rw [move, initialized_holding, Move.guarded] at hmove
          split at hmove
          · cases hmove
          · exact hplace hmove
      | popBack dest =>
          rw [move, initialized_holding, Move.guarded] at hmove
          split at hmove
          · cases hmove
          · exact hplace hmove
      | _ => cases hactivity

theorem accepted (h : Keeps config buffer r) (hvalid : r.Valid) {command : Command}
    (haccepts : buffer.Accepts command) (error : BufferError) :
    buffer.move command ≠ .refuse error := by
  cases h with
  | uninitialized => exact absurd hvalid.elementSize_pos (Nat.lt_irrefl 0)
  | @initialized r elements hconfig hcounts =>
      have hlength := length_holding hcounts
      have hpushes : (holding r elements).Pushes command →
          (holding r elements).move command ≠ .refuse error := by
        intro hpush
        rw [move_of_pushes (.initialized hconfig hcounts) hvalid hpush]
        exact Move.noConfusion
      have hpops : ∀ {index : Nat} {dest : Option Bytes}, index < elements.length →
          (∀ place ∈ dest, place.length = r.header.elementSize) →
          Move.guarded ((holding r elements).checkRemove index dest) .drop ≠
            .refuse error := by
        intro index dest hindex hdest
        rw [checkRemove_of_fits hcounts hindex hdest]
        exact Move.noConfusion
      have hcopies : ∀ {index size : Nat}, index < elements.length →
          size = r.header.elementSize →
          Move.guarded ((holding r elements).checkCopy index size) .keep ≠ .refuse error := by
        intro index size hindex hsize
        rw [checkCopy_of_lt hcounts hindex, if_pos hsize]
        exact Move.noConfusion
      cases command with
      | get index => exact Move.noConfusion
      | modify index change => exact Move.noConfusion
      | observe probes => exact Move.noConfusion
      | copyTo index dest =>
          rcases haccepts with ⟨hindex, hsize⟩
          rw [hlength] at hindex
          exact hcopies hindex hsize
      | copyFrom index source =>
          rcases haccepts with ⟨hindex, hsize⟩
          rw [hlength] at hindex
          exact hcopies hindex hsize
      | remove index dest =>
          rcases haccepts with ⟨hindex, hdest⟩
          rw [hlength] at hindex
          exact hpops hindex hdest
      | popFront dest =>
          rw [move, initialized_holding, Move.guarded, hlength]
          split
          · exact Move.noConfusion
          · rename_i hsome
            exact hpops (Nat.pos_of_ne_zero hsome) haccepts
      | popBack dest =>
          rw [move, initialized_holding, Move.guarded, hlength]
          split
          · exact Move.noConfusion
          · rename_i hsome
            exact hpops (Nat.sub_one_lt hsome) haccepts
      | _ => exact hpushes haccepts

/-!
## What they log
-/

variable (limit : Nat) {activity : Activity}

theorem copyTo_reports (h : Keeps config buffer r) (index : Nat) (dest : Bytes) :
    (buffer.copyTo index dest).Reports activity := by
  cases hchecked : buffer.checkCopy index dest.length with
  | error error =>
      rw [copyTo_of_error hchecked]
      exact Traced.Reports.pure _
  | ok passed =>
      cases h with
      | uninitialized => cases hchecked
      | initialized hconfig hcounts =>
          rcases of_checkCopy hcounts hchecked with ⟨hindex, hsize⟩
          rw [copyTo_of_fits hcounts hindex hsize]
          exact Traced.Reports.pure _

theorem copyFrom_reports (h : Keeps config buffer r) (index : Nat) (source : Bytes) :
    (buffer.copyFrom index source).Reports activity := by
  cases hchecked : buffer.checkCopy index source.length with
  | error error =>
      rw [copyFrom_of_error hchecked]
      exact Traced.Reports.pure _
  | ok passed =>
      cases h with
      | uninitialized => cases hchecked
      | initialized hconfig hcounts =>
          rcases of_checkCopy hcounts hchecked with ⟨hindex, hsize⟩
          rw [copyFrom_of_fits hcounts hindex hsize]
          exact Traced.Reports.pure _

theorem modify_reports (h : Keeps config buffer r) (index : Nat) (change : InPlace) :
    (buffer.modify index change).Reports activity := by
  cases h with
  | uninitialized => exact Traced.Reports.pure _
  | @initialized r elements hconfig hcounts =>
      rw [modify_holding hcounts]
      cases elements[index]? with
      | none => exact Traced.Reports.pure _
      | some element => exact Traced.Reports.pure _

theorem insert_reports (h : Keeps config buffer r) (index : Nat) (source : Bytes) :
    (buffer.insert limit index source).Reports activity := by
  cases hchecked : buffer.checkInsert index source.length with
  | error error =>
      rw [insert_of_error limit hchecked]
      exact Traced.Reports.pure _
  | ok passed =>
      cases h with
      | uninitialized => cases hchecked
      | initialized hconfig hcounts =>
          rcases of_checkInsert hcounts hchecked with ⟨hindex, hsize⟩
          rw [insert_of_fits limit hcounts hindex hsize]
          apply Traced.Reports.bind
            (Reservation.reports_ensure limit hcounts.valid hcounts.length_eq)
          split
          · exact Traced.Reports.pure _
          · exact Traced.Reports.pure _

theorem remove_reports (h : Keeps config buffer r) (index : Nat) (dest : Option Bytes) :
    (buffer.remove index dest).Reports activity := by
  cases hchecked : buffer.checkRemove index dest with
  | error error =>
      rw [remove_of_error hchecked]
      exact Traced.Reports.pure _
  | ok passed =>
      cases h with
      | uninitialized =>
          cases dest with
          | none => cases hchecked
          | some place => cases hchecked
      | initialized hconfig hcounts =>
          rcases of_checkRemove hcounts hchecked with ⟨hindex, hdest⟩
          rw [remove_of_fits hcounts hindex hdest]
          exact (Reservation.reports_settle hcounts.valid hcounts.length_eq).bind
            (Traced.Reports.pure _)

theorem popAt_reports {place : Nat → Traced Nat} {index : Nat → Nat}
    (hplace : ∀ length, 0 < length → place length = pure (index length))
    (h : Keeps config buffer r) (dest : Option Bytes) :
    (buffer.popAt place dest).Reports activity := by
  cases h with
  | uninitialized => exact Traced.Reports.pure _
  | @initialized r elements hconfig hcounts =>
      cases elements with
      | nil =>
          rw [popAt_of_nil hcounts]
          exact Traced.Reports.pure _
      | cons element rest =>
          rw [popAt_of_ne_nil hcounts (List.cons_ne_nil element rest)
            (hplace _ (Nat.succ_pos rest.length))]
          exact (remove_reports (.initialized hconfig hcounts) _ dest).map _

theorem reserve_reports (h : Keeps config buffer r) (amount : Nat) :
    (buffer.reserve limit amount).Reports activity := by
  cases h with
  | uninitialized => exact Traced.Reports.pure _
  | initialized hconfig hcounts =>
      rw [reserve_holding limit amount hcounts]
      apply Traced.Reports.bind (Reservation.reports_reserve limit amount hcounts.valid)
      split
      · exact Traced.Reports.pure _
      · exact Traced.Reports.pure _

theorem compact_reports (h : Keeps config buffer r) : buffer.compact.Reports .compaction := by
  cases h with
  | uninitialized => exact Traced.Reports.pure _
  | initialized hconfig hcounts =>
      rw [compact_holding hcounts]
      apply Traced.Reports.bind (Reservation.reports_compact hcounts.valid)
      exact Traced.Reports.bind (.emit (.compacted _ _)) (Traced.Reports.pure _)

theorem destroyWith_reports (h : Keeps config buffer r) (change : InPlace)
    (interruptAt : Option Nat) : (buffer.destroyWith change interruptAt).Reports .cleanup := by
  cases h with
  | uninitialized => exact Traced.Reports.pure _
  | @initialized r elements hconfig hcounts =>
      cases hending : (sweep change.edit interruptAt elements).ending with
      | interrupted =>
          rw [destroyWith_of_interrupted hcounts hending]
          exact Traced.Reports.pure _
      | completed =>
          rw [destroyWith_of_completed hcounts hending]
          apply Traced.Reports.bind (Reservation.reports_release hcounts.valid)
          exact Traced.Reports.bind (.emit (.destroyed _)) (Traced.Reports.pure _)

/-- An initialization is refused silently, or leaves a buffer without slots and says so. -/
theorem init_starts (buffer : ByteBuffer) (elementSize : Nat) :
    (∃ error, (buffer.init elementSize).value.result = .error error ∧
      (buffer.init elementSize).events = []) ∨
    (buffer.init elementSize).events = [.ready elementSize] ∧
      (buffer.init elementSize).value.state.header = .unreserved elementSize := by
  unfold init
  cases hcreate : Reservation.create elementSize buffer.config with
  | error error => exact Or.inl ⟨error, rfl, rfl⟩
  | ok fresh => exact Or.inr ⟨rfl, (Reservation.of_create hcreate).right.right⟩

theorem reports (h : Keeps config buffer r) (command : Command) :
    (buffer.step limit command).Reports command.activity := by
  cases command with
  | init elementSize =>
      apply Traced.Reports.map
      rcases init_starts buffer elementSize with ⟨error, _, hnone⟩ | ⟨hready, _⟩
      · unfold Traced.Reports
        rw [hnone]
        exact List.forall_mem_nil _
      · unfold Traced.Reports
        rw [hready]
        exact Traced.Reports.emit (.ready elementSize)
  | requiredBytes length =>
      rcases h.represents with ⟨list, hlist⟩
      rw [step, requiredBytes_eq hlist, pure_bind]
      exact Traced.Reports.pure _
  | get index =>
      rcases h.represents with ⟨list, hlist⟩
      rw [step, get_eq hlist, pure_bind]
      exact Traced.Reports.pure _
  | modify index change => exact (modify_reports h index change).map _
  | copyTo index dest => exact (copyTo_reports h index dest).map _
  | copyFrom index source => exact (copyFrom_reports h index source).map _
  | observe probes =>
      rcases h.represents with ⟨list, hlist⟩
      rcases cursor_observes hlist with ⟨cursor, hcursor, _⟩
      rw [step, hcursor, pure_bind]
      exact Traced.Reports.pure _
  | reserve amount => exact (reserve_reports limit h amount).map _
  | compact => exact (compact_reports h).map _
  | insert index source => exact (insert_reports limit h index source).map _
  | pushFront source => exact (insert_reports limit h 0 source).map _
  | pushBack source => exact (insert_reports limit h buffer.length source).map _
  | remove index dest => exact (remove_reports h index dest).map _
  | popFront dest => exact (popAt_reports (fun _ _ => rfl) h dest).map _
  | popBack dest => exact (popAt_reports (fun _ hpos => Word.sub_of_le hpos) h dest).map _
  | destroy =>
      apply Traced.Reports.map
      exact (destroyWith_reports h .id none).bind (Traced.Reports.pure _)
  | destroyWith change interruptAt => exact (destroyWith_reports h change interruptAt).map _
  | copy =>
      rcases h.represents with ⟨list, hlist⟩
      rw [step, copy_eq hlist, pure_bind]
      exact Traced.Reports.pure _

def activeKind (config : Config) : ActiveKind ByteBuffer Command Reply where
  toKind := kind config
  activity := Command.activity
  accepts := Accepts
  asks h command := asks h command
  accepted h hvalid _ haccepts error := accepted h hvalid haccepts error
  reports limit h command := reports limit h command
  starts limit h command hactivity := by
    cases command with
    | init elementSize =>
        rcases init_starts _ elementSize with ⟨error, hresult, hnone⟩ | ⟨hready, hheader⟩
        · refine Or.inl ⟨error, ?_, ?_⟩
          · exact congrArg refusal hresult
          · exact (Traced.events_map _ _).trans hnone
        · exact Or.inr ⟨elementSize, (Traced.events_map _ _).trans hready, hheader⟩
    | _ => cases hactivity

end ByteBuffer
end BlockBuffer
