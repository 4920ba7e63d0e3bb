import BlockBuffer.Proofs.Buffer.Naturality
import BlockBuffer.Proofs.Buffer.Refinement
import Mathlib.Data.List.Perm.Basic

/-!
# Who has the values

Every value that is put into a buffer is there until it leaves, and it leaves once: it is
returned by a removal, handed to the callback of a cleanup, or dropped when it is overwritten
or a callback breaks off.  A run tells occurrences of equal values apart by names, which the
buffer does not see.
-/

namespace BlockBuffer
namespace Buffer

variable {α β : Type}

/-!
## What comes in and what goes out
-/

def Command.offered? : Command α → Option α
  | .set _ value => some value
  | .insert _ value => some value
  | .pushFront value => some value
  | .pushBack value => some value
  | .replace _ value => some value
  | _ => none

def Reply.accepts : Reply α → Bool
  | .written found => found
  | .done (.ok _) => true
  | .taken (.ok _) => true
  | _ => false

/-- The values that a command put into a buffer with these items.  The values of a copy are new
ones. -/
def Command.stored (items : List α) (command : Command α) (reply : Reply α) : List α :=
  match command with
  | .copy => items
  | _ => if reply.accepts then command.offered?.toList else []

def Command.returned : Command α → Reply α → List α
  | .remove _, .taken (.ok value) => [value]
  | .replace _ _, .taken (.ok old) => [old]
  | .popFront, .value found => found.toList
  | .popBack, .value found => found.toList
  | _, _ => []

/-- The values that a command handed to the callback of a cleanup, which without a callback are
all. -/
def Command.handedOver (items : List α) : Command α → Reply α → List α
  | .destroy, _ => items
  | .destroyWith _, .cleaned report => report.seen
  | _, _ => []

/-- The values that a command dropped, or left in a buffer that it does not go on with. -/
def Command.dropped (items : List α) : Command α → Reply α → List α
  | .set index _, _ => items[index]?.toList
  | .destroyWith _, .cleaned report => items.drop report.seen.length
  | .copy, _ => items
  | _, _ => []

def Command.released (items : List α) (command : Command α) (reply : Reply α) : List α :=
  command.returned reply ++ command.handedOver items reply ++ command.dropped items reply

def stored (entry : Entry (Buffer α) (Command α) (Reply α)) : List α :=
  entry.command.stored entry.before.items entry.reply

def released (entry : Entry (Buffer α) (Command α) (Reply α)) : List α :=
  entry.command.released entry.before.items entry.reply

end Buffer

/-!
## One operation on a list
-/

namespace Items

open Buffer List

variable {α : Type} {items : List α}

theorem perm_insert (refusal : Option Nat) (index : Nat) (value : α) :
    items ++ (if (Reply.done (insert refusal items index value).result : Reply α).accepts
      then [value] else []) ~ (insert refusal items index value).state := by
  unfold insert
  rcases Nat.lt_or_ge items.length index with hindex | hindex
  · rw [if_pos hindex]
    exact Perm.of_eq (List.append_nil items)
  · rw [if_neg (Nat.not_lt_of_le hindex)]
    cases refusal with
    | some requested => exact Perm.of_eq (List.append_nil items)
    | none =>
      exact (perm_append_singleton value items).trans (perm_insertIdx value items hindex).symm

theorem perm_set (value : α) {index : Nat} (hindex : index < items.length) :
    items ++ [value] ~ items[index] :: items.set index value := by
  have hset := set_perm_cons_eraseIdx hindex value
  have hget := getElem_cons_eraseIdx_perm hindex
  calc
    items ++ [value] ~ value :: items := perm_append_singleton value items
    _ ~ value :: items[index] :: items.eraseIdx index := hget.symm.cons value
    _ ~ items[index] :: value :: items.eraseIdx index := Perm.swap _ _ _
    _ ~ items[index] :: items.set index value := hset.symm.cons _

theorem perm_popBack (items : List α) : items ~ items.getLast?.toList ++ items.dropLast := by
  rcases List.eq_nil_or_concat' items with rfl | ⟨front, last, rfl⟩
  · exact Perm.refl _
  · rw [List.getLast?_concat, List.dropLast_concat]
    exact perm_append_singleton last front

theorem seen_append_drop (interruptAt : Option Nat) (items : List α) :
    (sweep id interruptAt items).seen ++ items.drop (sweep id interruptAt items).seen.length =
      items := by
  have hunbroken : (sweep id none items).seen ++ items.drop (sweep id none items).seen.length =
      items := by
    rw [sweep_none, List.drop_length, List.append_nil]
  cases interruptAt with
  | none => exact hunbroken
  | some calls =>
      rcases Nat.lt_or_ge calls items.length with hcalls | hcalls
      · rw [sweep_of_lt id hcalls, List.length_take_of_le hcalls]
        exact List.take_append_drop (calls + 1) items
      · rw [sweep_of_le id hcalls]
        exact hunbroken

/-- What was there and what a step puts in is what the step lets go and what is there after it.
-/
theorem step_perm (elementSize : Nat) (config : Config) (refusal : Option Nat) (items : List α)
    (command : Command α) :
    items ++ command.stored items (step elementSize config refusal items command).result ~
      command.released items (step elementSize config refusal items command).result ++
        (step elementSize config refusal items command).state := by
  have hnothing : items ++ [] ~ items := Perm.of_eq (List.append_nil items)
  cases command with
  | set index value =>
      rw [step]
      rcases Nat.lt_or_ge index items.length with hindex | hindex
      · rw [decide_eq_true hindex, Command.released, Command.dropped,
          List.getElem?_eq_getElem hindex]
        exact perm_set value hindex
      · rw [decide_eq_false (Nat.not_lt_of_le hindex), Command.released, Command.dropped,
          List.getElem?_eq_none hindex, List.set_eq_of_length_le hindex]
        exact hnothing
  | reverse => exact hnothing.trans (reverse_perm items).symm
  | reserve amount =>
      cases refusal with
      | none => exact hnothing
      | some requested => exact hnothing
  | insert index value => exact perm_insert refusal index value
  | pushFront value => exact perm_insert refusal 0 value
  | pushBack value => exact perm_insert refusal items.length value
  | remove index =>
      rw [step, remove]
      rcases Nat.lt_or_ge index items.length with hindex | hindex
      · rw [dif_pos hindex]
        exact hnothing.trans (getElem_cons_eraseIdx_perm hindex).symm
      · rw [dif_neg (Nat.not_lt_of_le hindex)]
        exact hnothing
  | replace index value =>
      rw [step, replace]
      rcases Nat.lt_or_ge index items.length with hindex | hindex
      · rw [dif_pos hindex]
        exact perm_set value hindex
      · rw [dif_neg (Nat.not_lt_of_le hindex)]
        exact hnothing
  | popFront =>
      cases items with
      | nil => exact Perm.refl _
      | cons item rest => exact hnothing
  | popBack =>
      show items ++ [] ~ items.getLast?.toList ++ [] ++ [] ++ items.dropLast
      simp only [List.append_nil]
      exact perm_popBack items
  | destroy =>
      show items ++ [] ~ items ++ [] ++ []
      rw [List.append_nil, List.append_nil]
  | destroyWith interruptAt =>
      show items ++ [] ~ (sweep id interruptAt items).seen ++
        items.drop (sweep id interruptAt items).seen.length ++ []
      rw [seen_append_drop]
  | copy => exact Perm.refl _
  | _ => exact hnothing

end Items

/-!
## Whole runs
-/

namespace Buffer

open List

variable {α : Type} {elementSize : Nat} {config : Config} {buffer : Buffer α} {items : List α}

theorem entry_perm (h : Represents elementSize config buffer items) (limit : Nat)
    (command : Command α) :
    let entry : Entry (Buffer α) (Command α) (Reply α) :=
      { before := buffer, command := command, step := buffer.step limit command }
    buffer.items ++ stored entry ~ released entry ++ entry.after.items := by
  rcases step_follows limit command h with ⟨refusal, hfollows⟩
  have hperm := Items.step_perm elementSize config refusal items command
  rw [← hfollows.result_eq, ← hfollows.state_related.items_eq, ← h.items_eq] at hperm
  exact hperm

/-- Nothing that came in is lost, and nothing goes out that was not there. -/
theorem run_perm (h : Represents elementSize config buffer items)
    (commands : List (Nat × Command α)) :
    buffer.items ++ (history step commands buffer).flatMap stored ~
      (history step commands buffer).flatMap released ++
        (runAll step commands buffer).value.state.items := by
  induction commands generalizing buffer items with
  | nil => exact Perm.of_eq (List.append_nil _)
  | cons entry rest ih =>
      rcases entry with ⟨limit, command⟩
      rcases step_follows limit command h with ⟨refusal, hfollows⟩
      let first : Entry (Buffer α) (Command α) (Reply α) :=
        { before := buffer, command := command, step := buffer.step limit command }
      have hfirst : buffer.items ++ stored first ~ released first ++ first.after.items :=
        entry_perm h limit command
      let later := history step rest first.after
      have hlater : first.after.items ++ later.flatMap stored ~
          later.flatMap released ++ (runAll step rest first.after).value.state.items :=
        ih hfollows.state_related
      rw [history, List.flatMap_cons, List.flatMap_cons]
      calc
        buffer.items ++ (stored first ++ later.flatMap stored) =
            buffer.items ++ stored first ++ later.flatMap stored :=
              (List.append_assoc _ _ _).symm
        _ ~ released first ++ first.after.items ++ later.flatMap stored :=
          hfirst.append_right _
        _ = released first ++ (first.after.items ++ later.flatMap stored) :=
          List.append_assoc _ _ _
        _ ~ released first ++
            (later.flatMap released ++ (runAll step rest first.after).value.state.items) :=
          hlater.append_left _
        _ = released first ++ later.flatMap released ++
            (runAll step rest first.after).value.state.items := (List.append_assoc _ _ _).symm

/-!
## Names
-/

def named (buffer : Buffer α) : Buffer (α × Nat) where
  items := buffer.items.zipIdx
  reservation := buffer.reservation
  capacity := buffer.capacity

/-- The commands with a name on each value that they offer, counted from a number on. -/
def nameAll : Nat → List (Nat × Command α) → List (Nat × Command (α × Nat))
  | _, [] => []
  | name, (limit, command) :: rest => (limit, command.map (·, name)) :: nameAll (name + 1) rest

theorem map_named (buffer : Buffer α) : buffer.named.map Prod.fst = buffer := by
  unfold named map
  rw [List.zipIdx_map_fst]

theorem Command.map_map {β γ : Type} (f : α → β) (g : β → γ) (command : Command α) :
    (command.map f).map g = command.map (g ∘ f) := by
  cases command with
  | _ => rfl

theorem Command.map_id (command : Command α) : command.map id = command := by
  cases command with
  | _ => rfl

theorem map_nameAll (name : Nat) (commands : List (Nat × Command α)) :
    mapCommands Prod.fst (nameAll name commands) = commands := by
  induction commands generalizing name with
  | nil => rfl
  | cons entry rest ih =>
      rcases entry with ⟨limit, command⟩
      have hcommand : (command.map (·, name)).map Prod.fst = command :=
        (command.map_map _ _).trans command.map_id
      rw [nameAll, mapCommands_cons, hcommand, ih]

theorem Represents.named (h : Represents elementSize config buffer items) :
    Represents elementSize config buffer.named items.zipIdx := by
  cases h with
  | intro hsize hconfig hvalid hcount =>
      exact .intro hsize hconfig hvalid (hcount.trans List.length_zipIdx.symm)

theorem stored_sublist (items : List α) {command : Command α} (hcopy : command ≠ .copy)
    (reply : Reply α) : command.stored items reply <+ command.offered?.toList := by
  have hstored : command.stored items reply =
      if reply.accepts then command.offered?.toList else [] := by
    cases command with
    | copy => exact absurd rfl hcopy
    | _ => rfl
  rw [hstored]
  split
  · exact Sublist.refl _
  · exact List.nil_sublist _

theorem Command.offered?_map {β : Type} (f : α → β) (command : Command α) :
    (command.map f).offered? = command.offered?.map f := by
  cases command with
  | _ => rfl

theorem Command.map_ne_copy {β : Type} (f : α → β) {command : Command α}
    (h : command ≠ .copy) :
    command.map f ≠ .copy := by
  cases command with
  | copy => exact absurd rfl h
  | _ => exact nofun

theorem names_offered (name : Nat) (command : Command α) :
    ((command.map (·, name)).offered?.toList).map Prod.snd <+ [name] := by
  rw [Command.offered?_map]
  cases command.offered? with
  | none => exact List.nil_sublist _
  | some value => exact Sublist.refl _

/-- The names of what a run puts in are those that its commands were given. -/
theorem names_stored (name : Nat) (commands : List (Nat × Command α))
    (buffer : Buffer (α × Nat)) (hcopy : ∀ entry ∈ commands, entry.2 ≠ .copy) :
    ((history step (nameAll name commands) buffer).flatMap stored).map Prod.snd <+
      List.range' name commands.length := by
  induction commands generalizing name buffer with
  | nil => exact List.nil_sublist _
  | cons entry rest ih =>
      rcases entry with ⟨limit, command⟩
      rcases List.forall_mem_cons.mp hcopy with ⟨hfirst, hlater⟩
      have hstored := stored_sublist buffer.items (Command.map_ne_copy (·, name) hfirst)
        (buffer.step limit (command.map (·, name))).value.result
      -- The first command has the first name, and the later ones have those after it.
      rw [nameAll, history, List.flatMap_cons, List.map_append, List.length_cons,
        List.range'_succ]
      exact ((hstored.map Prod.snd).trans (names_offered name command)).append (ih _ _ hlater)

/-- Every name is in one place at the end, and it came there once. -/
theorem nodup_names (h : Represents elementSize config buffer items)
    (commands : List (Nat × Command α)) (hcopy : ∀ entry ∈ commands, entry.2 ≠ .copy) :
    (((history step (nameAll buffer.length commands) buffer.named).flatMap released ++
      (runAll step (nameAll buffer.length commands) buffer.named).value.state.items).map
        Prod.snd).Nodup := by
  have hperm := (run_perm h.named (nameAll buffer.length commands)).map Prod.snd
  have hstart : buffer.named.items.map Prod.snd = List.range' 0 buffer.length :=
    List.zipIdx_map_snd 0 buffer.items
  have hstored := names_stored buffer.length commands buffer.named hcopy
  have hall : List.range' 0 buffer.length ++ List.range' buffer.length commands.length =
      List.range' 0 (buffer.length + commands.length) := by
    have happend := List.range'_append_1 (s := 0) (m := buffer.length) (n := commands.length)
    rwa [Nat.zero_add] at happend
  apply hperm.nodup_iff.mp
  rw [List.map_append, hstart]
  apply List.Nodup.sublist (hstored.append_left _)
  rw [hall]
  exact List.nodup_range'

theorem Command.returned_map {β : Type} (f : α → β) (command : Command α) (reply : Reply α) :
    (command.map f).returned (reply.map f) = (command.returned reply).map f := by
  cases command with
  | remove index =>
      cases reply with
      | taken result =>
          cases result with
          | ok value => rfl
          | error error => rfl
      | _ => rfl
  | replace index value =>
      cases reply with
      | taken result =>
          cases result with
          | ok value => rfl
          | error error => rfl
      | _ => rfl
  | popFront =>
      cases reply with
      | value found =>
          cases found with
          | none => rfl
          | some value => rfl
      | _ => rfl
  | popBack =>
      cases reply with
      | value found =>
          cases found with
          | none => rfl
          | some value => rfl
      | _ => rfl
  | _ => rfl

theorem Command.handedOver_map {β : Type} (f : α → β) (items : List α) (command : Command α)
    (reply : Reply α) :
    (command.map f).handedOver (items.map f) (reply.map f) =
      (command.handedOver items reply).map f := by
  cases command with
  | destroyWith interruptAt =>
      cases reply with
      | _ => rfl
  | _ => rfl

theorem Command.dropped_map {β : Type} (f : α → β) (items : List α) (command : Command α)
    (reply : Reply α) :
    (command.map f).dropped (items.map f) (reply.map f) =
      (command.dropped items reply).map f := by
  cases command with
  | set index value =>
      rw [Command.map, Command.dropped, Command.dropped, List.getElem?_map, Option.toList_map]
  | destroyWith interruptAt =>
      cases reply with
      | cleaned report =>
          rw [Command.map, Reply.map, Command.dropped, Command.dropped, CleanupReport.map,
            List.length_map, List.map_drop]
      | _ => rfl
  | _ => rfl

theorem released_through {β : Type} (f : α → β)
    (entry : Entry (Buffer α) (Command α) (Reply α)) :
    released (entry.through (map f) (Command.map f) (Reply.map f)) =
      (released entry).map f := by
  unfold released Command.released
  rw [List.map_append, List.map_append, ← Command.returned_map, ← Command.handedOver_map,
    ← Command.dropped_map]
  rfl

theorem released_named (buffer : Buffer α) (commands : List (Nat × Command α)) :
    ((history step (nameAll buffer.length commands) buffer.named).flatMap released).map
        Prod.fst =
      (history step commands buffer).flatMap released := by
  have hhistory := history_map Prod.fst buffer.named (nameAll buffer.length commands)
  rw [map_nameAll, map_named] at hhistory
  rw [hhistory, List.flatMap_map, List.map_flatMap]
  simp only [released_through]

/-!
## Custody
-/

/-- The values of a buffer over a run, none of them lost and none of them let go twice. -/
structure Custody (start : Buffer α) (commands : List (Nat × Command α)) : Prop where
  /-- What was there and what came in is what went out and what is there. -/
  balance : start.items ++ (history step commands start).flatMap stored ~
    (history step commands start).flatMap released ++
      (runAll step commands start).value.state.items
  named_eq : runAll step commands start =
    Outcome.through (map Prod.fst) (List.map (Reply.map Prod.fst)) <$>
      runAll step (nameAll start.length commands) start.named
  released_eq : (history step commands start).flatMap released =
    ((history step (nameAll start.length commands) start.named).flatMap released).map Prod.fst
  /-- No name is let go twice, or let go and still there. -/
  once : (((history step (nameAll start.length commands) start.named).flatMap released ++
    (runAll step (nameAll start.length commands) start.named).value.state.items).map
      Prod.snd).Nodup

theorem Represents.custody (h : Represents elementSize config buffer items)
    (commands : List (Nat × Command α)) (hcopy : ∀ entry ∈ commands, entry.2 ≠ .copy) :
    Custody buffer commands where
  balance := run_perm h commands
  named_eq := by
    have hrun := runAll_map Prod.fst buffer.named (nameAll buffer.length commands)
    rwa [map_nameAll, map_named] at hrun
  released_eq := (released_named buffer commands).symm
  once := nodup_names h commands hcopy

end Buffer
end BlockBuffer
