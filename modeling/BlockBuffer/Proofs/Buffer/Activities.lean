import BlockBuffer.Proofs.Activities
import BlockBuffer.Proofs.Ceiling

/-!
# What the commands on a buffer of values are for

A buffer of values is never without a reservation, so nothing but an index can be refused
before storage is asked for.  It has no initialization, and none of its commands starts over.
-/

namespace BlockBuffer
namespace Buffer

variable {α : Type}

def Command.activity : Command α → Activity
  | .requiredBytes _ => .other
  | .get _ => .access
  | .set _ _ => .access
  | .reverse => .access
  | .observe _ => .access
  | .reserve _ => .reservation
  | .compact => .compaction
  | .insert _ _ => .insertion
  | .pushFront _ => .insertion
  | .pushBack _ => .insertion
  | .remove _ => .removal
  | .replace _ _ => .access
  | .popFront => .removal
  | .popBack => .removal
  | .destroy => .cleanup
  | .destroyWith _ => .cleanup
  | .copy => .other

def Accepts (buffer : Buffer α) : Command α → Prop
  | .get _ => True
  | .set _ _ => True
  | .reverse => True
  | .observe _ => True
  | .remove index => index < buffer.length
  | .replace index _ => index < buffer.length
  | .popFront => True
  | .popBack => True
  | command => buffer.Pushes command

variable {elementSize : Nat} {config : Config} {buffer : Buffer α} {r : Reservation}

/-!
## What they ask
-/

theorem checkPosition_ne_allocation {index : Nat} {error : BufferError}
    (h : buffer.checkPosition index = .error error) : ∀ bytes, error ≠ .allocation bytes := by
  rintro bytes rfl
  unfold checkPosition at h
  split at h
  · cases h
  · cases h

theorem asks (h : Keeps elementSize config buffer r) (command : Command α) :
    command.activity.Asks r.header.length (buffer.move command) := by
  have hpops : Activity.removal.Asks r.header.length
      (if buffer.items.length = 0 then .keep else .drop) := by
    cases h with
    | intro _ _ _ hcount =>
        split
        · rename_i hnone
          exact .nothing (hcount.trans hnone)
        · exact .drop
  have hcleanup : ∀ interruptAt : Option Nat,
      Activity.cleanup.Asks r.header.length (buffer.move (.destroyWith interruptAt)) := by
    intro interruptAt
    rw [move]
    split
    · exact .release
    · exact .vacate
  cases command with
  | requiredBytes length => exact .keep
  | get index => exact .touch
  | set index value => exact .touch
  | reverse => exact .touch
  | observe probes => exact .touch
  | reserve amount => exact .reserve amount
  | compact => exact .compact
  | insert index value => exact .guarded_extend fun _ => checkPosition_ne_allocation
  | pushFront value => exact .extend
  | pushBack value => exact .extend
  | remove index => exact Activity.Asks.drop.guarded Activity.noConfusion _
  | replace index value => exact Activity.Asks.touch.guarded Activity.noConfusion _
  | popFront => exact hpops
  | popBack => exact hpops
  | destroy => exact .release
  | destroyWith interruptAt => exact hcleanup interruptAt
  | copy => exact .keep

/-- A value is dropped only where there is one. -/
theorem length_pos_of_drop (h : Keeps elementSize config buffer r) {command : Command α}
    (hmove : buffer.move command = .drop) : 0 < r.header.length := by
  have hasks := asks h command
  rw [hmove] at hasks
  have hactivity : command.activity = .removal := hasks.eq_of_move rfl
  cases h with
  | @intro items r _ _ _ hcount =>
      rw [hcount]
      cases command with
      | remove index =>
          rw [move, checkIndex] at hmove
          split at hmove
          · cases hmove
          · rename_i hindex
            exact Nat.zero_lt_of_lt (Nat.lt_of_not_le hindex)
      | popFront =>
          rw [move] at hmove
          split at hmove
          · cases hmove
          · rename_i hsome
            exact Nat.pos_of_ne_zero hsome
      | popBack =>
          rw [move] at hmove
          split at hmove
          · cases hmove
          · rename_i hsome
            exact Nat.pos_of_ne_zero hsome
      | _ => cases hactivity

theorem accepted {command : Command α} (haccepts : buffer.Accepts command)
    (error : BufferError) :
    buffer.move command ≠ .refuse error := by
  have hpushes : buffer.Pushes command → buffer.move command ≠ .refuse error := by
    intro hpush
    rw [move_of_pushes hpush]
    exact Move.noConfusion
  cases command with
  | get index => exact Move.noConfusion
  | set index value => exact Move.noConfusion
  | reverse => exact Move.noConfusion
  | observe probes => exact Move.noConfusion
  | remove index =>
      rw [move, checkIndex_of_lt haccepts]
      exact Move.noConfusion
  | replace index value =>
      rw [move, checkIndex_of_lt haccepts]
      exact Move.noConfusion
  | popFront =>
      rw [move]
      split
      · exact Move.noConfusion
      · exact Move.noConfusion
  | popBack =>
      rw [move]
      split
      · exact Move.noConfusion
      · exact Move.noConfusion
  | _ => exact hpushes haccepts

/-!
## What they log
-/

variable (limit : Nat) {activity : Activity}

theorem insert_reports (h : Keeps elementSize config buffer r) (index : Nat) (value : α) :
    (buffer.insert limit index value).Reports activity := by
  cases h with
  | @intro items r _ _ hvalid hcount =>
      rcases Nat.lt_or_ge items.length index with hindex | hindex
      · rw [insert_of_lt limit hindex]
        exact Traced.Reports.pure _
      · rw [insert_of_le limit hvalid hcount hindex]
        apply Traced.Reports.bind (Reservation.reports_ensure limit hvalid hcount)
        split
        · exact Traced.Reports.pure _
        · exact Traced.Reports.pure _

theorem remove_reports (h : Keeps elementSize config buffer r) (index : Nat) :
    (buffer.remove index).Reports activity := by
  cases h with
  | @intro items r _ _ hvalid hcount =>
      rcases Nat.lt_or_ge index items.length with hindex | hindex
      · rw [remove_of_lt hvalid hcount hindex]
        exact (Reservation.reports_settle hvalid hcount).bind (Traced.Reports.pure _)
      · rw [remove_of_le hindex]
        exact Traced.Reports.pure _

theorem popBack_reports (h : Keeps elementSize config buffer r) :
    buffer.popBack.Reports activity := by
  unfold popBack
  split
  · exact Traced.Reports.pure _
  · exact (remove_reports h _).map _

theorem reserve_reports (h : Keeps elementSize config buffer r) (amount : Nat) :
    (buffer.reserve limit amount).Reports activity := by
  cases h with
  | intro _ _ hvalid hcount =>
      rw [reserve_holding hvalid hcount]
      apply Traced.Reports.bind (Reservation.reports_reserve limit amount hvalid)
      split
      · exact Traced.Reports.pure _
      · exact Traced.Reports.pure _

theorem compact_reports (h : Keeps elementSize config buffer r) :
    buffer.compact.Reports .compaction := by
  cases h with
  | intro _ _ hvalid hcount =>
      rw [compact_holding hvalid hcount]
      apply Traced.Reports.bind (Reservation.reports_compact hvalid)
      exact Traced.Reports.bind (.emit (.compacted _ _)) (Traced.Reports.pure _)

theorem destroyWith_reports (h : Keeps elementSize config buffer r)
    (interruptAt : Option Nat) :
    (buffer.destroyWith interruptAt).Reports .cleanup := by
  cases h with
  | @intro items r _ _ hvalid _ =>
      cases hending : (sweep id interruptAt items).ending with
      | interrupted =>
          rw [destroyWith_of_interrupted hending]
          exact Traced.Reports.pure _
      | completed =>
          rw [destroyWith_of_completed hvalid hending]
          apply Traced.Reports.bind (Reservation.reports_release hvalid)
          exact Traced.Reports.bind (.emit (.destroyed _)) (Traced.Reports.pure _)

theorem reports (h : Keeps elementSize config buffer r) (command : Command α) :
    (buffer.step limit command).Reports command.activity := by
  cases command with
  | requiredBytes length =>
      rw [step, requiredBytes, Reservation.requiredBytes_eq_pure, pure_bind]
      exact Traced.Reports.pure _
  | get index => exact Traced.Reports.pure _
  | set index value => exact Traced.Reports.pure _
  | reverse => exact Traced.Reports.pure _
  | observe probes => exact Traced.Reports.pure _
  | reserve amount => exact (reserve_reports limit h amount).map _
  | compact => exact (compact_reports h).bind (Traced.Reports.pure _)
  | insert index value => exact (insert_reports limit h index value).map _
  | pushFront value => exact (insert_reports limit h 0 value).map _
  | pushBack value => exact (insert_reports limit h _ value).map _
  | remove index => exact (remove_reports h index).map _
  | replace index value => exact Traced.Reports.pure _
  | popFront => exact ((remove_reports h 0).map _).map _
  | popBack => exact (popBack_reports h).map _
  | destroy =>
      rw [step, destroy, bind_assoc]
      exact (destroyWith_reports h none).bind (Traced.Reports.pure _)
  | destroyWith interruptAt => exact (destroyWith_reports h interruptAt).map _
  | copy =>
      rw [step, copy_eq h.represents, pure_bind]
      exact Traced.Reports.pure _

def activeKind (α : Type) (elementSize : Nat) (config : Config) :
    ActiveKind (Buffer α) (Command α) (Reply α) where
  toKind := kind α elementSize config
  activity := Command.activity
  accepts := Accepts
  asks h command := asks h command
  accepted _ _ _ haccepts error := accepted haccepts error
  reports limit h command := reports limit h command
  starts _ _ command hactivity := by
    cases command with
    | _ => cases hactivity

end Buffer
end BlockBuffer
