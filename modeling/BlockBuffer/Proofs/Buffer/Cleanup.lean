import BlockBuffer.Proofs.Buffer.Activities
import BlockBuffer.Proofs.Buffer.Custody
import BlockBuffer.Proofs.Ceiling
import BlockBuffer.Proofs.Reachability

/-!
# Cleaning up a buffer of values

A cleanup hands its callback the values, each once and in order.  A callback that breaks off
leaves an empty buffer too, since it owns what it was handed and the rest is dropped; but the
slots are not given back, so as many insertions are sure to succeed afterwards.  Either way the
buffer goes on as an empty list, and no value is let go a second time.
-/

namespace BlockBuffer
namespace Buffer

variable {α : Type}

def Inserts (entry : Entry (Buffer α) (Command α) (Reply α)) : Prop :=
  entry.command.activity = .insertion ∧ entry.reply.refusal = none

instance : DecidablePred (Inserts (α := α)) :=
  fun _ => inferInstanceAs (Decidable (_ ∧ _))

/-- What a cleanup reports and leaves: an empty buffer with some of the slots. -/
structure Emptied (elementSize : Nat) (config : Config) (report : CleanupReport α)
    (reserved : Nat) (cleanup : Traced (Outcome (Buffer α) (CleanupReport α))) : Prop where
  faults_eq : cleanup.faults = []
  result_eq : cleanup.value.result = report
  items_eq : cleanup.value.state.items = []
  header_eq : cleanup.value.state.header =
    ⟨elementSize, 0, reserved, 32 + reserved * elementSize⟩
  config_eq : cleanup.value.state.config = config
  reachable : Reachable elementSize config cleanup.value.state
  actsAs : ActsAs step (Items.step elementSize config)
    (fun buffer items => buffer.items = items)
    cleanup.value.state []
  /-- The slots are there for as many insertions, on whatever heaps, until some are given back.
  -/
  refills : ∀ earlier : List (Nat × Command α),
    (∀ entry ∈ history step earlier cleanup.value.state,
      entry.before.header.reserved ≤ entry.after.header.reserved) →
    (history step earlier cleanup.value.state).countP (fun entry => Inserts entry) < reserved →
    ∀ (limit : Nat) (push : Command α),
      (runAll step earlier cleanup.value.state).value.state.Pushes push →
        ((runAll step earlier cleanup.value.state).value.state.step limit
          push).value.result.refusal = none

end Buffer

/-!
## Room for insertions
-/

namespace Items

open Buffer

variable {α : Type}

theorem length_insert_le (refusal : Option Nat) (items : List α) (index : Nat) (value : α) :
    (insert refusal items index value).state.length ≤
      items.length + if BlockBuffer.refusal (insert refusal items index value).result = none
        then 1 else 0 := by
  unfold insert
  rcases Nat.lt_or_ge items.length index with hindex | hindex
  · rw [if_pos hindex]
    exact Nat.le_add_right _ _
  · rw [if_neg (Nat.not_lt_of_le hindex)]
    cases refusal with
    | some requested => exact Nat.le_add_right _ _
    | none => exact Nat.le_of_eq (List.length_insertIdx_of_le_length hindex value)

theorem length_remove_le (items : List α) (index : Nat) :
    (remove items index).state.length ≤ items.length := by
  unfold remove
  split
  · exact List.length_eraseIdx_le items index
  · exact Nat.le_refl _

theorem length_replace (items : List α) (index : Nat) (value : α) :
    (replace items index value).state.length = items.length := by
  unfold replace
  split
  · exact List.length_set
  · rfl

theorem length_popFront_le (items : List α) :
    (popFront items).state.length ≤ items.length := by
  cases items with
  | nil => exact Nat.le_refl _
  | cons item rest => exact Nat.le_succ _

variable (elementSize : Nat) (config : Config) (refusal : Option Nat) (items : List α)
  {command : Command α}

theorem length_step_le_of_ne (h : command.activity ≠ .insertion) :
    (step elementSize config refusal items command).state.length ≤ items.length := by
  cases command with
  | insert index value => exact absurd rfl h
  | pushFront value => exact absurd rfl h
  | pushBack value => exact absurd rfl h
  | set index value => exact Nat.le_of_eq List.length_set
  | reverse => exact Nat.le_of_eq List.length_reverse
  | reserve amount =>
      cases refusal with
      | none => exact Nat.le_refl _
      | some requested => exact Nat.le_refl _
  | remove index => exact length_remove_le items index
  | replace index value => exact Nat.le_of_eq (length_replace items index value)
  | popFront => exact length_popFront_le items
  | popBack => exact Nat.le_trans (Nat.le_of_eq List.length_dropLast) (Nat.sub_le _ _)
  | destroy => exact Nat.zero_le _
  | destroyWith interruptAt => exact Nat.zero_le _
  | _ => exact Nat.le_refl _

/-- Only an insertion that is carried out makes a list longer. -/
theorem length_step_le (command : Command α) :
    (step elementSize config refusal items command).state.length ≤ items.length +
      if command.activity = .insertion ∧
          (step elementSize config refusal items command).result.refusal = none
        then 1 else 0 := by
  by_cases hactivity : command.activity = .insertion
  · simp only [hactivity, true_and]
    cases command with
    | insert index value => exact length_insert_le refusal items index value
    | pushFront value => exact length_insert_le refusal items 0 value
    | pushBack value => exact length_insert_le refusal items items.length value
    | _ => cases hactivity
  · have hkept := length_step_le_of_ne elementSize config refusal items hactivity
    exact Nat.le_trans hkept (Nat.le_add_right _ _)

end Items

namespace Buffer

variable {α : Type} {elementSize : Nat} {config : Config} {buffer : Buffer α} {items : List α}

/-- A run that gives no slots back has as many slots as it started with, and at most as many
new values as insertions were carried out. -/
theorem slots_and_length (h : Represents elementSize config buffer items)
    (commands : List (Nat × Command α))
    (hslots : ∀ entry ∈ history step commands buffer,
      entry.before.header.reserved ≤ entry.after.header.reserved) :
    buffer.header.reserved ≤ (runAll step commands buffer).value.state.header.reserved ∧
      (runAll step commands buffer).value.state.length ≤
        buffer.length +
          (history step commands buffer).countP (fun entry => Inserts entry) := by
  induction commands generalizing buffer items with
  | nil => exact ⟨Nat.le_refl _, Nat.le_refl _⟩
  | cons entry rest ih =>
      rcases entry with ⟨limit, command⟩
      rcases List.forall_mem_cons.mp hslots with ⟨hfirst, hlater⟩
      rcases step_follows limit command h with ⟨refusal, hfollows⟩
      rcases ih hfollows.state_related hlater with ⟨hreserved, hlength⟩
      refine ⟨Nat.le_trans hfirst hreserved, ?_⟩
      have hstep := Items.length_step_le elementSize config refusal items command
      rw [← hfollows.result_eq, ← hfollows.state_related.items_eq, ← h.items_eq] at hstep
      simp only [history, List.countP_cons, decide_eq_true_eq]
      apply Nat.le_trans hlength
      rw [Nat.add_comm (List.countP _ _), ← Nat.add_assoc]
      exact Nat.add_le_add_right hstep _

theorem Represents.length_header (h : Represents elementSize config buffer items) :
    buffer.reservation.header.length = buffer.length := by
  cases h with
  | intro _ _ _ hcount => exact hcount

theorem push_of_room (h : Represents elementSize config buffer items) (limit : Nat)
    {push : Command α} (hpush : buffer.Pushes push)
    (hroom : buffer.length < buffer.header.reserved) :
    (buffer.step limit push).value.result.refusal = none := by
  have hkeeps : (kind α elementSize config).keeps buffer buffer.reservation := h.keeps
  have hceiling : buffer.reservation.header.length < buffer.reservation.ceiling limit := by
    rw [h.length_header]
    exact Nat.lt_of_lt_of_le hroom (Nat.le_max_left _ _)
  exact (Kind.push_of_lt hkeeps h.keeps.valid (move_of_pushes hpush) hceiling).right.left

/-- Slots that are there and are not given back serve as many insertions on whatever heaps. -/
theorem push_of_slots (hreach : Reachable elementSize config buffer)
    (earlier : List (Nat × Command α))
    (hslots : ∀ entry ∈ history step earlier buffer,
      entry.before.header.reserved ≤ entry.after.header.reserved)
    (hcount : buffer.length +
        (history step earlier buffer).countP (fun entry => Inserts entry) <
      buffer.header.reserved)
    (limit : Nat) {push : Command α}
    (hpush : (runAll step earlier buffer).value.state.Pushes push) :
    ((runAll step earlier buffer).value.state.step limit push).value.result.refusal =
      none := by
  rcases hreach.represents with ⟨items, hitems⟩
  rcases (hreach.runAll earlier).represents with ⟨final, hfinal⟩
  rcases slots_and_length hitems earlier hslots with ⟨hreserved, hlength⟩
  exact push_of_room hfinal limit hpush
    (Nat.lt_of_lt_of_le (Nat.lt_of_le_of_lt hlength hcount) hreserved)

/-!
## Both ends of a cleanup
-/

theorem Represents.header_of_nil (h : Represents elementSize config buffer []) :
    buffer.header =
      ⟨elementSize, 0, buffer.header.reserved, 32 + buffer.header.reserved * elementSize⟩ := by
  cases h with
  | @intro _ r hsize _ hvalid hcount =>
      have hbytes : r.header.bytesAllocated =
          32 + r.header.reserved * r.header.elementSize := by
        rw [hvalid.bytesAllocated_eq, Nat.add_comm]
        rfl
      have hlength : r.header.length = 0 := hcount
      rw [← hsize]
      show r.header =
        ⟨r.header.elementSize, 0, r.header.reserved,
          32 + r.header.reserved * r.header.elementSize⟩
      rw [← hbytes, ← hlength]

theorem emptied_destroyWith (hreach : Reachable elementSize config buffer)
    (interruptAt : Option Nat) :
    Emptied elementSize config (sweep id interruptAt buffer.items).report
      (buffer.destroyWith interruptAt).value.state.header.reserved
      (buffer.destroyWith interruptAt) := by
  rcases hreach.represents with ⟨items, hitems⟩
  have hfollows := destroyWith_follows hitems interruptAt
  have hempty := hfollows.state_related
  have hnext : Reachable elementSize config (buffer.destroyWith interruptAt).value.state :=
    hreach.step 0 (.destroyWith interruptAt)
  constructor
  · exact hfollows.faults_eq
  · rw [hitems.items_eq]
    exact hfollows.result_eq
  · exact hempty.items_eq
  · exact hempty.header_of_nil
  · exact hempty.keeps.config_eq
  · exact hnext
  · exact hempty.actsAs
  · intro earlier hslots hcount limit push hpush
    apply push_of_slots hnext earlier hslots ?_ limit hpush
    rw [length, hempty.items_eq, List.length_nil, Nat.zero_add]
    exact hcount

theorem reserved_of_completed (h : Represents elementSize config buffer items)
    {interruptAt : Option Nat} (hcalls : ∀ calls ∈ interruptAt, buffer.length ≤ calls) :
    (buffer.destroyWith interruptAt).value.state.header.reserved = 0 := by
  cases h with
  | @intro _ r _ _ hvalid _ =>
      have hending : (sweep id interruptAt items).ending = .completed := by
        exact congrArg Sweep.ending (sweep_of_unbroken id hcalls)
      rw [destroyWith_of_completed hvalid hending, Reservation.release_eq hvalid]
      rfl

theorem reserved_of_interrupted {calls : Nat} (hcalls : calls < buffer.length) :
    (buffer.destroyWith (some calls)).value.state.header.reserved =
      buffer.header.reserved := by
  have hending : (sweep id (some calls) buffer.items).ending = .interrupted := by
    rw [sweep_of_lt id hcalls]
  rw [destroyWith_of_interrupted hending]
  rfl

/-- Whatever was done to a buffer before, and wherever the callback of a cleanup breaks off,
the buffer is left empty; and no run lets a value go twice. -/
theorem destroyWith_empties (α : Type) (elementSize : Nat) (config : Config)
    (buffer : Buffer α) (hreach : Reachable elementSize config buffer) :
    (∀ interruptAt : Option Nat, (∀ calls ∈ interruptAt, buffer.length ≤ calls) →
      Emptied elementSize config { ending := .completed, seen := buffer.items } 0
        (buffer.destroyWith interruptAt)) ∧
    (∀ calls < buffer.length,
      Emptied elementSize config
        { ending := .interrupted, seen := buffer.items.take (calls + 1) }
        buffer.header.reserved (buffer.destroyWith (some calls))) ∧
    ∀ commands : List (Nat × Command α), (∀ entry ∈ commands, entry.2 ≠ .copy) →
      Custody buffer commands := by
  rcases hreach.represents with ⟨items, hitems⟩
  refine ⟨?_, ?_, hitems.custody⟩
  · intro interruptAt hcalls
    have hemptied := emptied_destroyWith hreach interruptAt
    rw [sweep_of_unbroken id hcalls, reserved_of_completed hitems hcalls] at hemptied
    exact hemptied
  · intro calls hcalls
    have hemptied := emptied_destroyWith hreach (some calls)
    rw [sweep_of_lt id hcalls, reserved_of_interrupted hcalls] at hemptied
    exact hemptied

theorem destroyWith_empties_at_the_second_value :
    let config : Config := { minCapacity := 1, blockSize := 2, shrink := .lazy }
    let fresh : Buffer Bool := { items := [], reservation := ⟨.unreserved 4, config⟩ }
    let commands : List (Nat × Command Bool) :=
      [(99, .pushBack true), (99, .pushBack false), (99, .pushBack true)]
    let buffer : Buffer Bool :=
      { items := [true, false, true], reservation := ⟨⟨4, 3, 3, 44⟩, config⟩, capacity := 3 }
    let broken := buffer.destroyWith (some 1)
    let later : List (Nat × Command Bool) :=
      [(0, .destroyWith (some 1)), (0, .pushBack true), (0, .popFront), (0, .destroyWith none)]
    (run commands fresh).value.state = buffer ∧ Reachable 4 config buffer ∧ 1 < buffer.length ∧
      Emptied 4 config { ending := .interrupted, seen := [true, false] } 3 broken ∧
      Emptied 4 config { ending := .completed, seen := [true, false, true] } 0
        (buffer.destroyWith none) ∧
      (broken.value.state.step 0 (.pushBack true)).value.result.refusal = none ∧
      (∀ entry ∈ later, entry.2 ≠ .copy) ∧ Custody buffer later := by
  intro config fresh commands buffer broken later
  have hrun : (run commands fresh).value.state = buffer := by cbv
  have hreach : Reachable 4 config buffer := ⟨fresh, commands, rfl, hrun⟩
  have hlength : 1 < buffer.length := by decide
  have hcopy : ∀ entry ∈ later, entry.2 ≠ .copy := by decide
  rcases destroyWith_empties Bool 4 config buffer hreach with
    ⟨hcompleted, hinterrupted, hcustody⟩
  have hbroken : Emptied 4 config { ending := .interrupted, seen := [true, false] } 3 broken :=
    hinterrupted 1 hlength
  have hnone : ∀ calls ∈ (none : Option Nat), buffer.length ≤ calls := by
    intro calls hcalls
    cases hcalls
  have hpushed := hbroken.refills [] (List.forall_mem_nil _) (by decide) 0
    (.pushBack true) trivial
  exact ⟨hrun, hreach, hlength, hbroken, hcompleted none hnone, hpushed, hcopy,
    hcustody later hcopy⟩

end Buffer
end BlockBuffer
