import BlockBuffer.Bulk
import BlockBuffer.Proofs.Reachability
import BlockBuffer.Proofs.Histories

/-!
# Filling and draining as runs

A filling does nothing but its pushes, and a draining nothing but its pops.  Each is the run of
these commands up to the first one that does not go through, and its record is read off the
history of that run.  What comes out of a draining are the elements at that end, in order.
-/

namespace BlockBuffer

section Rows

variable {σ κ ε ρ τ : Type} {header : σ → Header} {step : Nat → σ → κ → Traced (Outcome σ ρ)}
  {limit : Nat} {state : σ}

def Entry.changes (header : σ → Header) (entry : Entry σ κ ρ) : List Change :=
  Change.between (header entry.before) (header entry.after)

/-- A row of commands that ends after `tried` of them is the run of these. -/
structure RunsFirst (step : Nat → σ → κ → Traced (Outcome σ ρ)) (commands : List (Nat × κ))
    (tried : Nat) (state : σ) (row : Traced (Outcome σ τ)) : Prop where
  events_eq : row.events = (runAll step (commands.take tried) state).events
  faults_eq : row.faults = (runAll step (commands.take tried) state).faults
  state_eq : row.value.state = (runAll step (commands.take tried) state).value.state

theorem RunsFirst.nil (commands : List (Nat × κ)) (state : σ) (result : τ) :
    RunsFirst step commands 0 state (pure { result := result, state := state }) :=
  ⟨rfl, rfl, rfl⟩

/-- A row that ends with its first command. -/
theorem RunsFirst.single (command : κ) (rest : List (Nat × κ)) (result : τ) :
    RunsFirst step ((limit, command) :: rest) 1 state
      (step limit state command >>= fun first =>
        pure { result := result, state := first.state }) :=
  ⟨rfl, rfl, rfl⟩

theorem RunsFirst.cons {ν : Type} {command : κ} {rest : List (Nat × κ)} {tried : Nat}
    {later : σ → Traced (Outcome σ ν)} (note : Outcome σ ν → τ)
    (h : RunsFirst step rest tried (step limit state command).value.state
      (later (step limit state command).value.state)) :
    RunsFirst step ((limit, command) :: rest) (tried + 1) state
      (step limit state command >>= fun first => do
        let row ← later first.state
        pure { result := note row, state := row.state }) where
  events_eq := by
    rw [List.take_succ_cons, events_runAll_cons, ← h.events_eq, Traced.events_bind,
      Traced.events_bind]
    exact congrArg (_ ++ ·) (List.append_nil _)
  faults_eq := by
    rw [List.take_succ_cons, faults_runAll_cons, ← h.faults_eq, Traced.faults_bind,
      Traced.faults_bind]
    exact congrArg (_ ++ ·) (List.append_nil _)
  state_eq := h.state_eq

/-!
## Filling
-/

namespace Filling

def tried (filling : Filling) : Nat :=
  filling.pushed + filling.stopped.toList.length

def after (changes : List Change) (filling : Filling) : Filling where
  pushed := filling.pushed + 1
  changes := changes ++ filling.changes
  stopped := filling.stopped

theorem tried_after (changes : List Change) (filling : Filling) :
    (filling.after changes).tried = filling.tried + 1 :=
  Nat.add_right_comm _ _ _

end Filling

/-- A filling that consists of the pushes among `commands` up to the one that was refused. -/
structure FillsByPushes (header : σ → Header) (step : Nat → σ → κ → Traced (Outcome σ ρ))
    (answer : ρ → Result Unit) (commands : List (Nat × κ)) (state : σ)
    (filling : Traced (Outcome σ Filling)) : Prop
    extends RunsFirst step commands filling.value.result.tried state filling where
  answers_eq :
    (runAll step (commands.take filling.value.result.tried) state).value.result.map answer =
      List.replicate filling.value.result.pushed (.ok ()) ++
        filling.value.result.stopped.toList.map .error
  changes_eq : filling.value.result.changes =
    ((history step commands state).take filling.value.result.pushed).flatMap
      (Entry.changes header)
  all_of_not_stopped :
    filling.value.result.stopped = none → filling.value.result.pushed = commands.length

theorem fill_of_error {push : σ → ε → Traced (Outcome σ (Result Unit))} {element : Nat → ε}
    {number : Nat} {error : BufferError}
    (h : (push state (element number)).value.result = .error error) (count : Nat) :
    fill header push element (count + 1) number state = (do
      let outcome ← push state (element number)
      pure { result := { stopped := some error }, state := outcome.state }) := by
  rw [fill]
  apply Traced.bind_congr_value
  rw [h]

theorem fill_of_ok {push : σ → ε → Traced (Outcome σ (Result Unit))} {element : Nat → ε}
    {number : Nat} (h : (push state (element number)).value.result = .ok ()) (count : Nat) :
    fill header push element (count + 1) number state = (do
      let outcome ← push state (element number)
      let later ← fill header push element count (number + 1) outcome.state
      pure { result := later.result.after (Change.between (header state)
               (header (push state (element number)).value.state)),
             state := later.state }) := by
  rw [fill]
  apply Traced.bind_congr_value
  rw [h]
  rfl

theorem fill_is_run {push : σ → ε → Traced (Outcome σ (Result Unit))}
    {answer : ρ → Result Unit} {command : ε → κ}
    (hpush : ∀ state value,
      push state value = Outcome.map answer <$> step limit state (command value))
    (element : Nat → ε) (count number : Nat) (state : σ) :
    FillsByPushes header step answer
      ((List.range' number count).map fun index => (limit, command (element index))) state
      (fill header push element count number state) := by
  induction count generalizing number state with
  | zero => exact ⟨.nil _ _ _, rfl, rfl, fun _ => rfl⟩
  | succ count ih =>
      have hlater := ih (number + 1) (step limit state (command (element number))).value.state
      have hresult : (push state (element number)).value.result =
          answer (step limit state (command (element number))).value.result := by
        rw [hpush]
        rfl
      rw [List.range'_succ, List.map_cons]
      cases hanswer : answer (step limit state (command (element number))).value.result with
      | error error =>
          rw [fill_of_error (hresult.trans hanswer), hpush, bind_map_left]
          exact {
            toRunsFirst := .single _ _ _
            answers_eq := congrArg ([·]) hanswer
            changes_eq := rfl
            all_of_not_stopped := nofun }
      | ok _ =>
          have hstate : (push state (element number)).value.state =
              (step limit state (command (element number))).value.state := by
            rw [hpush]
            rfl
          let changes := Change.between (header state)
            (header (step limit state (command (element number))).value.state)
          have hrow := hlater.toRunsFirst.cons fun row => row.result.after changes
          have hanswers := congrArg₂ List.cons hanswer hlater.answers_eq
          rw [fill_of_ok (hresult.trans hanswer), hstate, hpush, bind_map_left]
          rw [← Filling.tried_after changes] at hrow
          exact {
            toRunsFirst := hrow
            answers_eq := by
              show
                (runAll step (List.take (Filling.after changes _).tried _)
                  state).value.result.map answer = _
              rw [Filling.tried_after]
              exact hanswers
            changes_eq := congrArg (changes ++ ·) hlater.changes_eq
            all_of_not_stopped := fun hnone =>
              congrArg Nat.succ (hlater.all_of_not_stopped hnone) }

/-!
## Draining
-/

def Stop.answer : Stop → Result (Option ε)
  | .empty => .ok none
  | .refused error => .error error

namespace Draining

def tried (draining : Draining ε) : Nat :=
  draining.popped + draining.stopped.toList.length

def after (changes : List Change) (element : ε) (draining : Draining ε) : Draining ε where
  popped := draining.popped + 1
  changes := changes ++ draining.changes
  stopped := draining.stopped
  last := draining.last <|> some element

theorem tried_after (changes : List Change) (element : ε) (draining : Draining ε) :
    (draining.after changes element).tried = draining.tried + 1 :=
  Nat.add_right_comm _ _ _

end Draining

/-- A draining that consists of the pops among `commands` up to the one that gave nothing.  It
keeps the last element that was popped. -/
structure DrainsByPops (header : σ → Header) (step : Nat → σ → κ → Traced (Outcome σ ρ))
    (answer : ρ → Result (Option ε)) (commands : List (Nat × κ)) (state : σ)
    (draining : Traced (Outcome σ (Draining ε))) : Prop
    extends RunsFirst step commands draining.value.result.tried state draining where
  answers_eq : ∃ elements : List ε,
    elements.length = draining.value.result.popped ∧
    elements.getLast? = draining.value.result.last ∧
    (runAll step (commands.take draining.value.result.tried) state).value.result.map answer =
      elements.map (fun element => .ok (some element)) ++
        draining.value.result.stopped.toList.map Stop.answer
  changes_eq : draining.value.result.changes =
    ((history step commands state).take draining.value.result.popped).flatMap
      (Entry.changes header)
  all_of_not_stopped :
    draining.value.result.stopped = none → draining.value.result.popped = commands.length

variable {pop : σ → Traced (Outcome σ (Result (Option ε)))}

theorem drain_of_stop {stop : Stop} (h : (pop state).value.result = stop.answer)
    (count : Nat) :
    drain header pop (count + 1) state = (do
      let outcome ← pop state
      pure { result := { stopped := some stop }, state := outcome.state }) := by
  rw [drain]
  apply Traced.bind_congr_value
  rw [h]
  cases stop with
  | empty => rfl
  | refused error => rfl

theorem drain_of_some {element : ε} (h : (pop state).value.result = .ok (some element))
    (count : Nat) :
    drain header pop (count + 1) state = (do
      let outcome ← pop state
      let later ← drain header pop count outcome.state
      pure { result := later.result.after
               (Change.between (header state) (header (pop state).value.state)) element,
             state := later.state }) := by
  rw [drain]
  apply Traced.bind_congr_value
  rw [h]
  rfl

/-- Either there is an element, or the draining ends here. -/
theorem some_or_stop (result : Result (Option ε)) :
    (∃ element, result = .ok (some element)) ∨ ∃ stop : Stop, result = stop.answer := by
  cases result with
  | error error => exact Or.inr ⟨.refused error, rfl⟩
  | ok found =>
      cases found with
      | none => exact Or.inr ⟨.empty, rfl⟩
      | some element => exact Or.inl ⟨element, rfl⟩

theorem getLast?_cons_eq (element : ε) (rest : List ε) :
    (element :: rest).getLast? = (rest.getLast? <|> some element) := by
  rw [List.getLast?_cons]
  cases rest.getLast? with
  | none => rfl
  | some last => rfl

/-- A draining by pops that are the same command in every good state. -/
theorem drain_is_run (good : σ → Prop) {answer : ρ → Result (Option ε)} {command : κ}
    (hpop : ∀ state, good state → pop state = Outcome.map answer <$> step limit state command)
    (hgood : ∀ state, good state → good (step limit state command).value.state)
    (count : Nat) {state : σ} (h : good state) :
    DrainsByPops header step answer (List.replicate count (limit, command)) state
      (drain header pop count state) := by
  induction count generalizing state with
  | zero => exact ⟨.nil _ _ _, ⟨[], rfl, rfl, rfl⟩, rfl, fun _ => rfl⟩
  | succ count ih =>
      have hlater := ih (hgood state h)
      have hresult : (pop state).value.result =
          answer (step limit state command).value.result := by
        rw [hpop state h]
        rfl
      rw [List.replicate_succ]
      rcases some_or_stop (answer (step limit state command).value.result) with
        ⟨element, hanswer⟩ | ⟨stop, hanswer⟩
      · have hstate : (pop state).value.state = (step limit state command).value.state := by
          rw [hpop state h]
          rfl
        let changes := Change.between (header state)
          (header (step limit state command).value.state)
        have hrow := hlater.toRunsFirst.cons fun row => row.result.after changes element
        rcases hlater.answers_eq with ⟨elements, hlength, hlast, hanswers⟩
        rw [drain_of_some (hresult.trans hanswer), hstate, hpop state h, bind_map_left]
        rw [← Draining.tried_after changes element] at hrow
        exact {
          toRunsFirst := hrow
          answers_eq := by
            refine ⟨element :: elements, congrArg Nat.succ hlength, ?_, ?_⟩
            · rw [getLast?_cons_eq, hlast]
              rfl
            · show
                (runAll step (List.take (Draining.after changes element _).tried _)
                  state).value.result.map answer = _
              rw [Draining.tried_after]
              exact congrArg₂ List.cons hanswer hanswers
          changes_eq := congrArg (changes ++ ·) hlater.changes_eq
          all_of_not_stopped := fun hnone =>
            congrArg Nat.succ (hlater.all_of_not_stopped hnone) }
      · rw [drain_of_stop (hresult.trans hanswer), hpop state h, bind_map_left]
        exact {
          toRunsFirst := .single _ _ _
          answers_eq := ⟨[], rfl, rfl, congrArg ([·]) hanswer⟩
          changes_eq := rfl
          all_of_not_stopped := nofun }

/-- The record of a draining of at most `count` elements from the list. -/
structure Draining.Takes (draining : Draining ε) (count : Nat) (list : List ε) : Prop where
  popped_eq : draining.popped = min count list.length
  last_eq : draining.last = (list.take count).getLast?
  stopped_eq : draining.stopped = if list.length < count then some .empty else none

/-- A draining by pops that take the first element of the list a buffer stands for. -/
theorem drain_takes {related : σ → List ε → Prop}
    (hpop : ∀ state list, related state list →
      Follows related (pop state) { result := .ok list.head?, state := list.tail })
    (count : Nat) {state : σ} {list : List ε} (h : related state list) :
    (drain header pop count state).value.result.Takes count list ∧
      related (drain header pop count state).value.state (list.drop count) := by
  induction count generalizing state list with
  | zero => exact ⟨⟨(Nat.zero_min _).symm, rfl, rfl⟩, h⟩
  | succ count ih =>
      have hfirst := hpop state list h
      cases list with
      | nil =>
          have hstop : (pop state).value.result = Stop.empty.answer := hfirst.result_eq
          rw [drain_of_stop hstop]
          exact ⟨⟨(Nat.min_zero _).symm, rfl, rfl⟩, hfirst.state_related⟩
      | cons element rest =>
          have hleft : related (pop state).value.state rest := hfirst.state_related
          rcases ih hleft with ⟨htakes, hrest⟩
          rw [drain_of_some hfirst.result_eq]
          refine ⟨⟨?_, ?_, ?_⟩, hrest⟩
          · rw [List.length_cons, Nat.succ_min_succ]
            exact congrArg Nat.succ htakes.popped_eq
          · rw [List.take_succ_cons, getLast?_cons_eq, ← htakes.last_eq]
            rfl
          · simp only [List.length_cons, Nat.succ_lt_succ_iff]
            exact htakes.stopped_eq

/-- The same at the other end of the list. -/
theorem drain_takes_back {related : σ → List ε → Prop}
    (hpop : ∀ state list, related state list →
      Follows related (pop state) { result := .ok list.getLast?, state := list.dropLast })
    (count : Nat) {state : σ} {list : List ε} (h : related state list) :
    (drain header pop count state).value.result.Takes count list.reverse ∧
      related (drain header pop count state).value.state
        (list.reverse.drop count).reverse := by
  have hturned : ∀ state (list : List ε), related state list.reverse →
      Follows (fun state list => related state list.reverse) (pop state)
        { result := .ok list.head?, state := list.tail } := by
    intro state list hlist
    have hfollows := hpop state list.reverse hlist
    rw [List.getLast?_reverse, List.dropLast_reverse] at hfollows
    exact ⟨hfollows.faults_eq, hfollows.result_eq, hfollows.state_related⟩
  rw [← list.reverse_reverse] at h
  exact drain_takes hturned count h

/-- A result that can be read off the reply to a command. -/
theorem map_answer {ν ν' : Type} {answer : ρ → ν'} {reply : ν → ρ} {read : ν → ν'}
    (h : ∀ result, read result = answer (reply result)) (x : Traced (Outcome σ ν)) :
    Outcome.map read <$> x = Outcome.map answer <$> Outcome.map reply <$> x := by
  rw [Functor.map_map]
  apply congrArg (· <$> x)
  funext outcome
  exact congrArg (Outcome.mk · outcome.state) (h outcome.result)

theorem eq_map_answer {ν : Type} {answer : ρ → ν} {reply : ν → ρ}
    (h : ∀ result, result = answer (reply result)) (x : Traced (Outcome σ ν)) :
    x = Outcome.map answer <$> Outcome.map reply <$> x :=
  (id_map x).symm.trans (map_answer h x)

end Rows

/-!
## Buffers of values
-/

namespace Buffer

variable {α : Type} {elementSize : Nat} {config : Config} {buffer : Buffer α}

/-- A pop as a draining makes it.  It is never refused. -/
def takeFront (buffer : Buffer α) : Traced (Outcome (Buffer α) (Result (Option α))) :=
  Outcome.map .ok <$> buffer.popFront

def takeBack (buffer : Buffer α) : Traced (Outcome (Buffer α) (Result (Option α))) :=
  Outcome.map .ok <$> buffer.popBack

def Reply.pushed : Reply α → Result Unit
  | .done result => result
  | _ => .ok ()

def Reply.found : Reply α → Result (Option α)
  | .value found => .ok found
  | _ => .ok none

theorem fill_pushes (limit : Nat) (element : Nat → α) (count number : Nat)
    (buffer : Buffer α) :
    FillsByPushes header step Reply.pushed
      ((List.range' number count).map fun index => (limit, .pushFront (element index))) buffer
      (fill header (pushFront limit) element count number buffer) ∧
    FillsByPushes header step Reply.pushed
      ((List.range' number count).map fun index => (limit, .pushBack (element index))) buffer
      (fill header (pushBack limit) element count number buffer) := by
  constructor
  · exact fill_is_run (fun _ _ => eq_map_answer (fun _ => rfl) _) element count number buffer
  · exact fill_is_run (fun _ _ => eq_map_answer (fun _ => rfl) _) element count number buffer

theorem drain_pops (limit count : Nat) (buffer : Buffer α) :
    DrainsByPops header step Reply.found (List.replicate count (limit, .popFront)) buffer
      (drain header takeFront count buffer) ∧
    DrainsByPops header step Reply.found (List.replicate count (limit, .popBack)) buffer
      (drain header takeBack count buffer) := by
  constructor
  · exact drain_is_run (fun _ => True) (fun _ _ => map_answer (fun _ => rfl) _)
      (fun _ _ => trivial) count trivial
  · exact drain_is_run (fun _ => True) (fun _ _ => map_answer (fun _ => rfl) _)
      (fun _ _ => trivial) count trivial

theorem takeFront_follows {items : List α} (h : Represents elementSize config buffer items) :
    Follows (Represents elementSize config) buffer.takeFront
      { result := .ok items.head?, state := items.tail } := by
  have hfollows : Follows _ buffer.takeFront _ := (popFront_follows h).map Except.ok
  cases items with
  | nil => exact hfollows
  | cons item rest => exact hfollows

theorem takeBack_follows {items : List α} (h : Represents elementSize config buffer items) :
    Follows (Represents elementSize config) buffer.takeBack
      { result := .ok items.getLast?, state := items.dropLast } :=
  (popBack_follows h).map Except.ok

/-- Draining at the front takes the values in order. -/
theorem drain_takeFront (h : Reachable elementSize config buffer) (count : Nat) :
    let draining := drain header takeFront count buffer
    draining.value.result.Takes count buffer.items ∧
      draining.value.state.items = buffer.items.drop count := by
  intro draining
  rcases h.represents with ⟨items, hitems⟩
  rcases drain_takes (fun _ _ => takeFront_follows) count hitems with ⟨htakes, hleft⟩
  rw [hitems.items_eq]
  exact ⟨htakes, hleft.items_eq⟩

/-- Draining at the back takes them in the other order. -/
theorem drain_takeBack (h : Reachable elementSize config buffer) (count : Nat) :
    let draining := drain header takeBack count buffer
    draining.value.result.Takes count buffer.items.reverse ∧
      draining.value.state.items = (buffer.items.reverse.drop count).reverse := by
  intro draining
  rcases h.represents with ⟨items, hitems⟩
  rcases drain_takes_back (fun _ _ => takeBack_follows) count hitems with ⟨htakes, hleft⟩
  rw [hitems.items_eq]
  exact ⟨htakes, hleft.items_eq⟩

end Buffer

/-!
## Byte buffers
-/

namespace ByteBuffer

variable {config : Config} {buffer : ByteBuffer} {size : Nat} {elements : List Bytes}

def Reply.pushed : Reply → Result Unit
  | .done result => result
  | _ => .ok ()

def Reply.found : Reply → Result (Option Bytes)
  | .popped delivery => delivery.found
  | _ => .ok none

theorem fill_pushes (limit : Nat) (element : Nat → Bytes) (count number : Nat)
    (buffer : ByteBuffer) :
    FillsByPushes header step Reply.pushed
      ((List.range' number count).map fun index => (limit, .pushFront (element index))) buffer
      (fill header (pushFront limit) element count number buffer) ∧
    FillsByPushes header step Reply.pushed
      ((List.range' number count).map fun index => (limit, .pushBack (element index))) buffer
      (fill header (pushBack limit) element count number buffer) := by
  constructor
  · exact fill_is_run (fun _ _ => eq_map_answer (fun _ => rfl) _) element count number buffer
  · exact fill_is_run (fun _ _ => eq_map_answer (fun _ => rfl) _) element count number buffer

theorem takeFront_eq (limit : Nat) (buffer : ByteBuffer) :
    buffer.takeFront =
      Outcome.map Reply.found <$> buffer.step limit (.popFront (some buffer.destination)) :=
  map_answer (fun _ => rfl) _

theorem takeBack_eq (limit : Nat) (buffer : ByteBuffer) :
    buffer.takeBack =
      Outcome.map Reply.found <$> buffer.step limit (.popBack (some buffer.destination)) :=
  map_answer (fun _ => rfl) _

theorem size_pop (list : ByteList) (place : Nat → Nat) (dest : Option Bytes) :
    (list.pop place dest).state.size = list.size := by
  unfold ByteList.pop
  split
  · rfl
  · split
    · rfl
    · unfold ByteList.remove Outcome.map
      split
      · rfl
      · rfl

/-- A buffer that stands for elements of this size, or is not initialized. -/
def Sized (config : Config) (size : Option Nat) (buffer : ByteBuffer) : Prop :=
  ∃ list, Represents config buffer list ∧ list.size = size

theorem Sized.destination_eq {size : Option Nat} (h : Sized config size buffer) :
    buffer.destination = List.replicate (size.getD 0) 0 := by
  rcases h with ⟨list, hlist, rfl⟩
  unfold destination
  rw [hlist.shows.elementSize_eq]

theorem Sized.popAt {place : Nat → Traced Nat} (index : Nat → Nat) {size : Option Nat}
    (h : Sized config size buffer)
    (hplace : ∀ length, 0 < length → place length = pure (index length))
    (dest : Option Bytes) :
    Sized config size (buffer.popAt place dest).value.state := by
  rcases h with ⟨list, hlist, hsize⟩
  exact ⟨_, (popAt_follows hplace hlist dest).state_related,
    (size_pop list index dest).trans hsize⟩

/-- A destination for one element serves for all pops. -/
theorem drain_pops (limit count : Nat) (h : Reachable config buffer) :
    DrainsByPops header step Reply.found
      (List.replicate count (limit, .popFront (some buffer.destination))) buffer
      (drain header takeFront count buffer) ∧
    DrainsByPops header step Reply.found
      (List.replicate count (limit, .popBack (some buffer.destination))) buffer
      (drain header takeBack count buffer) := by
  rcases h.represents with ⟨list, hlist⟩
  -- No pop changes the element size, and the destination depends on nothing else.
  have hsized : Sized config list.size buffer := ⟨list, hlist, rfl⟩
  constructor
  · refine drain_is_run (Sized config list.size) ?_ ?_ count hsized
    · intro state hstate
      rw [hsized.destination_eq, ← hstate.destination_eq]
      exact takeFront_eq limit state
    · intro state hstate
      exact hstate.popAt (fun _ => 0) (fun _ _ => rfl) _
  · refine drain_is_run (Sized config list.size) ?_ ?_ count hsized
    · intro state hstate
      rw [hsized.destination_eq, ← hstate.destination_eq]
      exact takeBack_eq limit state
    · intro state hstate
      exact hstate.popAt (· - 1) (fun _ hpos => Word.sub_of_le hpos) _

def Holds (config : Config) (size : Nat) (buffer : ByteBuffer)
    (elements : List Bytes) : Prop :=
  Represents config buffer { size := some size, elements := elements }

theorem Holds.length_destination (h : Holds config size buffer elements) :
    buffer.destination.length = size := by
  have hsized : Sized config (some size) buffer := ⟨_, h, rfl⟩
  rw [hsized.destination_eq]
  exact List.length_replicate

/-- Taking an element out takes it out of the list. -/
theorem Holds.popAt {place : Nat → Traced Nat} (index : Nat → Nat)
    (h : Holds config size buffer elements)
    (hplace : ∀ length, 0 < length → place length = pure (index length))
    (hindex : elements ≠ [] → index elements.length < elements.length) :
    Follows (Holds config size)
      (Outcome.map Delivery.found <$> buffer.popAt place (some buffer.destination))
      { result := .ok elements[index elements.length]?,
        state := elements.eraseIdx (index elements.length) } := by
  have hfollows := (popAt_follows hplace h (some buffer.destination)).map Delivery.found
  cases elements with
  | nil => exact ⟨hfollows.faults_eq, hfollows.result_eq, hfollows.state_related⟩
  | cons element rest =>
      have hfound := hindex (List.cons_ne_nil element rest)
      have hpopped : ByteList.pop index { size := some size, elements := element :: rest }
          (some buffer.destination) =
            { result := { result := .ok .ok,
                          dest := some (element :: rest)[index (element :: rest).length] },
              state := { size := some size,
                         elements := (element :: rest).eraseIdx
                           (index (element :: rest).length) } } := by
        unfold ByteList.pop ByteList.remove ByteList.element
        simp only [Option.map_some, h.length_destination, List.getElem?_eq_getElem hfound,
          if_true]
        rfl
      rw [hpopped] at hfollows
      rw [List.getElem?_eq_getElem hfound]
      exact ⟨hfollows.faults_eq, hfollows.result_eq, hfollows.state_related⟩

theorem takeFront_follows (h : Holds config size buffer elements) :
    Follows (Holds config size) buffer.takeFront
      { result := .ok elements.head?, state := elements.tail } := by
  rw [List.head?_eq_getElem?, ← List.eraseIdx_zero]
  exact h.popAt (fun _ => 0) (fun _ _ => rfl) List.length_pos_of_ne_nil

theorem takeBack_follows (h : Holds config size buffer elements) :
    Follows (Holds config size) buffer.takeBack
      { result := .ok elements.getLast?, state := elements.dropLast } := by
  rw [List.getLast?_eq_getElem?, ← List.eraseIdx_length_sub_one]
  exact h.popAt (· - 1) (fun _ hpos => Word.sub_of_le hpos) fun hne =>
    Nat.sub_one_lt (Nat.ne_of_gt (List.length_pos_of_ne_nil hne))

theorem Reachable.holds (h : Reachable config buffer)
    (hinitialized : buffer.isInitialized = true) :
    Holds config buffer.elementSize buffer buffer.elements := by
  rcases h.represents with ⟨list, hlist⟩
  rw [hlist.elements_eq]
  cases hlist with
  | uninitialized => cases hinitialized
  | initialized hconfig hcounts => exact .initialized hconfig hcounts

/-- Draining at the front takes the elements in order. -/
theorem drain_takeFront (h : Reachable config buffer)
    (hinitialized : buffer.isInitialized = true) (count : Nat) :
    let draining := drain header takeFront count buffer
    draining.value.result.Takes count buffer.elements ∧
      draining.value.state.elements = buffer.elements.drop count := by
  intro draining
  rcases drain_takes (fun _ _ => takeFront_follows) count (h.holds hinitialized) with
    ⟨htakes, hleft⟩
  exact ⟨htakes, Represents.elements_eq hleft⟩

/-- Draining at the back takes them in the other order. -/
theorem drain_takeBack (h : Reachable config buffer)
    (hinitialized : buffer.isInitialized = true) (count : Nat) :
    let draining := drain header takeBack count buffer
    draining.value.result.Takes count buffer.elements.reverse ∧
      draining.value.state.elements = (buffer.elements.reverse.drop count).reverse := by
  intro draining
  rcases drain_takes_back (fun _ _ => takeBack_follows) count (h.holds hinitialized) with
    ⟨htakes, hleft⟩
  exact ⟨htakes, Represents.elements_eq hleft⟩

end ByteBuffer
end BlockBuffer
