import BlockBuffer.Buffer.Command
import BlockBuffer.Proofs.DoubleEnded
import BlockBuffer.Proofs.Histories
import Mathlib.Data.List.InsertIdx

/-!
# A buffer does not look at its values

What a buffer does is the same for all values: to replace the values by others, in the buffer
and in the commands, replaces them in the answers and in the buffer that is left, and changes
nothing else.  So values can be given names of their own without disturbing a run.
-/

namespace BlockBuffer

/-!
## Replacing values
-/

def Outcome.through {σ τ ρ ν : Type} (f : σ → τ) (g : ρ → ν) (outcome : Outcome σ ρ) :
    Outcome τ ν where
  result := g outcome.result
  state := f outcome.state

/-- Results may be read before the values are replaced or after. -/
theorem Outcome.map_through {σ τ ρ ρ' ν ν' : Type} {f : σ → τ} {g : ρ → ν} {g' : ρ' → ν'}
    {read : ν → ν'} {read' : ρ → ρ'} (h : ∀ result, read (g result) = g' (read' result))
    (x : Traced (Outcome σ ρ)) :
    Outcome.map read <$> Outcome.through f g <$> x =
      Outcome.through f g' <$> Outcome.map read' <$> x := by
  rw [Functor.map_map, Functor.map_map]
  apply congrArg (· <$> x)
  funext outcome
  exact congrArg (Outcome.mk · (f outcome.state)) (h outcome.result)

def Observation.map {ε δ : Type} (f : ε → δ) : Observation ε → Observation δ
  | .item found => .item (found.map f)
  | .sizeHint lower upper => .sizeHint lower upper
  | .length count => .length count
  | .items found => .items (found.map f)

def CleanupReport.map {α β : Type} (f : α → β) (report : CleanupReport α) :
    CleanupReport β where
  ending := report.ending
  seen := report.seen.map f

def Entry.through {σ τ κ μ ρ ν : Type} (f : σ → τ) (g : κ → μ) (h : ρ → ν)
    (entry : Entry σ κ ρ) :
    Entry τ μ ν where
  before := f entry.before
  command := g entry.command
  step := Outcome.through f h <$> entry.step

namespace Buffer

variable {α β : Type}

def map (f : α → β) (buffer : Buffer α) : Buffer β where
  items := buffer.items.map f
  reservation := buffer.reservation
  capacity := buffer.capacity

theorem slots_map (f : α → β) (buffer : Buffer α) : (buffer.map f).slots = buffer.slots := rfl

theorem reservation_map (f : α → β) (buffer : Buffer α) :
    (buffer.map f).reservation = buffer.reservation := rfl

theorem extent_map (f : α → β) (buffer : Buffer α) :
    (buffer.map f).extent = buffer.extent := by
  unfold extent map
  rw [List.length_map]

def Command.map (f : α → β) : Command α → Command β
  | .requiredBytes length => .requiredBytes length
  | .get index => .get index
  | .set index value => .set index (f value)
  | .reverse => .reverse
  | .observe probes => .observe probes
  | .reserve amount => .reserve amount
  | .compact => .compact
  | .insert index value => .insert index (f value)
  | .pushFront value => .pushFront (f value)
  | .pushBack value => .pushBack (f value)
  | .remove index => .remove index
  | .replace index value => .replace index (f value)
  | .popFront => .popFront
  | .popBack => .popBack
  | .destroy => .destroy
  | .destroyWith interruptAt => .destroyWith interruptAt
  | .copy => .copy

def Reply.map (f : α → β) : Reply α → Reply β
  | .unit => .unit
  | .done result => .done result
  | .size bytes => .size bytes
  | .value found => .value (found.map f)
  | .written found => .written found
  | .observed observations => .observed (observations.map (Observation.map f))
  | .taken result => .taken (result.map f)
  | .cleaned report => .cleaned (report.map f)

end Buffer

/-!
## Walks and probes
-/

theorem sweep_map {α β : Type} (f : α → β) (interruptAt : Option Nat) (items : List α) :
    (sweep id interruptAt (items.map f)).report =
      (sweep id interruptAt items).report.map f := by
  have hunbroken : (sweep id none (items.map f)).report =
      (sweep id none items).report.map f := by
    rw [sweep_none, sweep_none]
    rfl
  cases interruptAt with
  | none => exact hunbroken
  | some calls =>
      rcases Nat.lt_or_ge calls items.length with hcalls | hcalls
      · have hmapped : calls < (items.map f).length := by rwa [List.length_map]
        rw [sweep_of_lt id hcalls, sweep_of_lt id hmapped]
        exact congrArg (CleanupReport.mk .interrupted) List.map_take.symm
      · have hmapped : (items.map f).length ≤ calls := by rwa [List.length_map]
        rw [sweep_of_le id hcalls, sweep_of_le id hmapped]
        exact hunbroken

namespace DoubleEnded

variable {ε δ : Type}

theorem view_map (f : ε → δ) (items : List ε) (probe : Probe) :
    probe.view (items.map f) = (probe.view items).map f := by
  cases probe with
  | next => exact congrArg Observation.item List.head?_map
  | nextBack => exact congrArg Observation.item List.getLast?_map
  | sizeHint =>
      rw [Probe.view, List.length_map]
      rfl
  | length =>
      rw [Probe.view, List.length_map]
      rfl
  | forwards => rfl
  | backwards => exact congrArg Observation.items List.map_reverse.symm

theorem rest_map (f : ε → δ) (items : List ε) (probe : Probe) :
    (observe (items.map f) probe).2 = (observe items probe).2.map f := by
  cases probe with
  | next =>
      cases items with
      | nil => rfl
      | cons item rest => rfl
  | nextBack =>
      rcases List.eq_nil_or_concat' items with rfl | ⟨front, last, rfl⟩
      · rfl
      · rw [List.map_append, List.map_singleton, observe, observe, nextBack_concat,
          nextBack_concat]
  | _ => rfl

theorem observeAll_map (f : ε → δ) (probes : List Probe) (items : List ε) :
    observeAll probes (items.map f) = (observeAll probes items).map (Observation.map f) := by
  induction probes generalizing items with
  | nil => rfl
  | cons probe rest ih =>
      rw [observeAll, observeAll, observe_list, observe_list, view_map, rest_map, ih]
      rfl

end DoubleEnded

namespace Buffer

variable {α β : Type} (f : α → β) (limit : Nat) (buffer : Buffer α)

/-!
## One operation
-/

theorem set_map (index : Nat) (value : α) :
    (buffer.map f).set index (f value) = (buffer.set index value).through (map f) id := by
  unfold set map
  rw [List.length_map, ← List.map_set]
  rfl

theorem reverse_map : (buffer.map f).reverse = buffer.reverse.map f := by
  unfold reverse map
  rw [List.map_reverse]

theorem replace_map (index : Nat) (value : α) :
    (buffer.map f).replace index (f value) =
      (buffer.replace index value).through (map f) (Except.map f) := by
  unfold replace map
  rw [List.getElem?_map]
  cases buffer.items[index]? with
  | none =>
      rw [List.length_map]
      rfl
  | some old =>
      rw [Option.map_some, ← List.map_set]
      rfl

theorem insert_map (index : Nat) (value : α) :
    (buffer.map f).insert limit index (f value) =
      Outcome.through (map f) id <$> buffer.insert limit index value := by
  have hlength : (buffer.map f).items.length = buffer.items.length := List.length_map f
  unfold insert
  rw [hlength, slots_map, reservation_map, extent_map]
  dsimp only
  split
  · rfl
  · rw [map_bind]
    apply Traced.bind_congr_value
    rw [map_bind]
    apply Traced.bind_congr_value
    cases (buffer.slots.growFor limit buffer.reservation (Word.add buffer.items.length 1).value
      buffer.extent).value.result with
    | error error => rfl
    | ok _ =>
        simp only [map_bind, map, ← List.map_insertIdx]
        rfl

theorem remove_map (index : Nat) :
    (buffer.map f).remove index =
      Outcome.through (map f) (Except.map f) <$> buffer.remove index := by
  unfold remove map
  rw [List.length_map, List.getElem?_map]
  dsimp only
  cases buffer.items[index]? with
  | none => rfl
  | some value =>
      have hextent := extent_map f { buffer with items := buffer.items.eraseIdx index }
      rw [Option.map_some, List.eraseIdx_map]
      dsimp only [map] at hextent ⊢
      rw [hextent]
      simp only [map_bind]
      rfl

theorem toOption_map (result : Result α) :
    (result.map f).toOption = result.toOption.map f := by
  cases result with
  | ok value => rfl
  | error error => rfl

theorem popFront_map :
    (buffer.map f).popFront = Outcome.through (map f) (Option.map f) <$> buffer.popFront := by
  unfold popFront
  rw [remove_map]
  exact Outcome.map_through (toOption_map f) _

theorem popBack_map :
    (buffer.map f).popBack = Outcome.through (map f) (Option.map f) <$> buffer.popBack := by
  have hlength : (buffer.map f).items.length = buffer.items.length := List.length_map f
  unfold popBack
  rw [hlength, remove_map]
  split
  · rfl
  · exact Outcome.map_through (toOption_map f) _

theorem reserve_map (amount : Nat) :
    (buffer.map f).reserve limit amount =
      Outcome.through (map f) id <$> buffer.reserve limit amount := by
  unfold reserve
  rw [slots_map, reservation_map, extent_map, map_bind]
  rfl

theorem compact_map : (buffer.map f).compact = map f <$> buffer.compact := by
  unfold compact
  rw [slots_map, reservation_map, extent_map]
  simp only [map_bind]
  rfl

theorem destroyWith_map (interruptAt : Option Nat) :
    (buffer.map f).destroyWith interruptAt =
      Outcome.through (map f) (CleanupReport.map f) <$> buffer.destroyWith interruptAt := by
  have hreport := sweep_map f interruptAt buffer.items
  have hending : (sweep id interruptAt (buffer.items.map f)).ending =
      (sweep id interruptAt buffer.items).ending := congrArg CleanupReport.ending hreport
  unfold destroyWith map
  dsimp only
  rw [map_bind, hreport, hending]
  apply Traced.bind_congr_value
  cases (sweep id interruptAt buffer.items).ending with
  | interrupted => rfl
  | completed =>
      simp only [map_bind]
      rfl

theorem destroy_map : (buffer.map f).destroy = map f <$> buffer.destroy := by
  unfold destroy
  rw [destroyWith_map, map_bind, bind_map_left]
  rfl

theorem copy_map : (buffer.map f).copy = map f <$> buffer.copy := by
  have hlength : (buffer.map f).items.length = buffer.items.length := List.length_map f
  unfold copy
  rw [hlength]
  simp only [map_bind]
  rfl

/-!
## Steps and runs
-/

/-- A step on other values is the same step. -/
theorem step_map (command : Command α) :
    (buffer.map f).step limit (command.map f) =
      Outcome.through (map f) (Reply.map f) <$> buffer.step limit command := by
  cases command with
  | requiredBytes length =>
      rw [Command.map, step, step, map_bind]
      rfl
  | get index =>
      have hget : (buffer.map f).get index = (buffer.get index).map f := List.getElem?_map
      rw [Command.map, step, step, hget]
      rfl
  | set index value =>
      rw [Command.map, step, step, set_map]
      rfl
  | reverse =>
      rw [Command.map, step, step, reverse_map]
      rfl
  | observe probes =>
      have hshown : DoubleEnded.observeAll probes (buffer.map f).items = _ :=
        DoubleEnded.observeAll_map f probes buffer.items
      rw [Command.map, step, step, hshown]
      rfl
  | reserve amount =>
      rw [Command.map, step, step, reserve_map]
      exact Outcome.map_through (fun _ => rfl) _
  | compact =>
      rw [Command.map, step, step, compact_map, map_bind, bind_map_left]
      rfl
  | insert index value =>
      rw [Command.map, step, step, insert_map]
      exact Outcome.map_through (fun _ => rfl) _
  | pushFront value =>
      rw [Command.map, step, step, pushFront, insert_map]
      exact Outcome.map_through (fun _ => rfl) _
  | pushBack value =>
      have hlength : (buffer.map f).items.length = buffer.items.length := List.length_map f
      rw [Command.map, step, step, pushBack, hlength, insert_map]
      exact Outcome.map_through (fun _ => rfl) _
  | remove index =>
      rw [Command.map, step, step, remove_map]
      exact Outcome.map_through (fun _ => rfl) _
  | replace index value =>
      rw [Command.map, step, step, replace_map]
      rfl
  | popFront =>
      rw [Command.map, step, step, popFront_map]
      exact Outcome.map_through (fun _ => rfl) _
  | popBack =>
      rw [Command.map, step, step, popBack_map]
      exact Outcome.map_through (fun _ => rfl) _
  | destroy =>
      rw [Command.map, step, step, destroy_map, map_bind, bind_map_left]
      rfl
  | destroyWith interruptAt =>
      rw [Command.map, step, step, destroyWith_map]
      exact Outcome.map_through (fun _ => rfl) _
  | copy =>
      rw [Command.map, step, step, copy_map, map_bind, bind_map_left]
      rfl

def mapCommands (f : α → β) (commands : List (Nat × Command α)) : List (Nat × Command β) :=
  commands.map (Prod.map id (Command.map f))

theorem mapCommands_cons (limit : Nat) (command : Command α) (rest : List (Nat × Command α)) :
    mapCommands f ((limit, command) :: rest) =
      (limit, command.map f) :: mapCommands f rest := rfl

theorem runAll_map (commands : List (Nat × Command α)) :
    runAll step (mapCommands f commands) (buffer.map f) =
      Outcome.through (map f) (List.map (Reply.map f)) <$> runAll step commands buffer := by
  induction commands generalizing buffer with
  | nil => rfl
  | cons entry rest ih =>
      rcases entry with ⟨limit, command⟩
      rw [mapCommands_cons, runAll, runAll, step_map, bind_map_left, map_bind]
      apply Traced.bind_congr_value
      dsimp only [Outcome.through]
      rw [ih, bind_map_left, map_bind]
      rfl

theorem history_map (commands : List (Nat × Command α)) :
    history step (mapCommands f commands) (buffer.map f) =
      (history step commands buffer).map
        (Entry.through (map f) (Command.map f) (Reply.map f)) := by
  induction commands generalizing buffer with
  | nil => rfl
  | cons entry rest ih =>
      rcases entry with ⟨limit, command⟩
      rw [mapCommands_cons, history, history, step_map]
      exact congrArg (List.cons _) (ih (buffer.step limit command).value.state)

end Buffer
end BlockBuffer
