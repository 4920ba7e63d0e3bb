import BlockBuffer.DoubleEnded
import Mathlib.Data.List.Basic

/-!
# What an iterator gives from its two ends

A traversal of a list from both ends has given a part at the front, a part at the back, and has
what lies between them left.  Together the three parts are the list, whatever was asked in
which order.  So what an iterator shows next is known from the numbers of items that it gave at
either end.
-/

namespace BlockBuffer

def Observation.item? {ε : Type} : Observation ε → Option ε
  | .item found => found
  | _ => none

def Probe.view {ε : Type} (items : List ε) : Probe → Observation ε
  | .next => .item items.head?
  | .nextBack => .item items.getLast?
  | .sizeHint => .sizeHint items.length (some items.length)
  | .length => .length items.length
  | .forwards => .items items
  | .backwards => .items items.reverse

namespace DoubleEnded

section Iterators

variable {ι κ ε : Type} [DoubleEnded ι ε] [DoubleEnded κ ε]

def after : List Probe → ι → ι
  | [], iterator => iterator
  | probe :: probes, iterator => after probes (observe iterator probe).2

/-- The items that the calls of one kind gave, the first one first. -/
def taken (call : Probe) (probes : List Probe) (iterator : ι) : List ε :=
  (probes.zip (observeAll probes iterator)).filterMap fun shown =>
    if shown.1 = call then shown.2.item? else none

theorem taken_cons (call probe : Probe) (probes : List Probe) (iterator : ι) :
    taken call (probe :: probes) iterator =
      (if probe = call then (observe iterator probe).1.item? else none).toList ++
        taken call probes (observe iterator probe).2 := by
  unfold taken
  rw [observeAll, List.zip_cons_cons, List.filterMap_cons]
  cases (if probe = call then (observe iterator probe).1.item? else none) with
  | none => rfl
  | some item => rfl

theorem observeAll_append (first later : List Probe) (iterator : ι) :
    observeAll (first ++ later) iterator =
      observeAll first iterator ++ observeAll later (after first iterator) := by
  induction first generalizing iterator with
  | nil => rfl
  | cons probe rest ih =>
      rw [List.cons_append, observeAll, observeAll, ih]
      rfl

@[simp] theorem length_observeAll (probes : List Probe) (iterator : ι) :
    (observeAll probes iterator).length = probes.length := by
  induction probes generalizing iterator with
  | nil => rfl
  | cons probe rest ih => exact congrArg Nat.succ (ih _)

theorem taken_append (call : Probe) (first later : List Probe) (iterator : ι) :
    taken call (first ++ later) iterator =
      taken call first iterator ++ taken call later (after first iterator) := by
  unfold taken
  rw [observeAll_append, List.zip_append (length_observeAll first iterator).symm,
    List.filterMap_append]

/-!
## Traversals
-/

/-- What is left of a list after so many items were taken from its ends. -/
def between (items : List ε) (front back : Nat) : List ε :=
  (items.drop front).take (items.length - front - back)

/-- What an iterator over a list has given and shows, once these probes were made on it. -/
structure Traverses (items : List ε) (iterator : ι) (probes : List Probe) : Prop where
  front_eq : taken .next probes iterator = items.take (taken .next probes iterator).length
  back_eq : taken .nextBack probes iterator =
    items.reverse.take (taken .nextBack probes iterator).length
  count_le : (taken .next probes iterator).length + (taken .nextBack probes iterator).length ≤
    items.length
  shows : ∀ probe, observeAll (probes ++ [probe]) iterator =
    observeAll probes iterator ++
      [probe.view (between items (taken .next probes iterator).length
        (taken .nextBack probes iterator).length)]
  none_iff : ∀ call ∈ [Probe.next, Probe.nextBack],
    (observeAll (probes ++ [call]) iterator = observeAll probes iterator ++ [.item none] ↔
      (taken .next probes iterator).length + (taken .nextBack probes iterator).length =
        items.length)
  /-- An iterator that has given everything gives nothing more, whatever it is asked in
  between. -/
  exhausted :
    (taken .next probes iterator).length + (taken .nextBack probes iterator).length =
      items.length →
      ∀ later, ∀ call ∈ [Probe.next, Probe.nextBack],
        observeAll (probes ++ later ++ [call]) iterator =
          observeAll (probes ++ later) iterator ++ [.item none]

/-!
## Iterators that no probes tell apart
-/

theorem taken_congr {iterator : ι} {other : κ}
    (hsame : ∀ probes, observeAll probes iterator = observeAll probes other) {call : Probe}
    {probes : List Probe} : taken call probes iterator = taken call probes other := by
  unfold taken
  rw [hsame]

theorem Traverses.congr {items : List ε} {iterator : ι} {other : κ} {probes : List Probe}
    (hsame : ∀ probes, observeAll probes iterator = observeAll probes other)
    (h : Traverses items other probes) : Traverses items iterator probes := by
  have htaken : ∀ call, taken call probes iterator = taken call probes other :=
    fun call => taken_congr hsame
  constructor
  · rw [htaken]
    exact h.front_eq
  · rw [htaken]
    exact h.back_eq
  · rw [htaken, htaken]
    exact h.count_le
  · simp only [htaken, hsame]
    exact h.shows
  · simp only [htaken, hsame]
    exact h.none_iff
  · simp only [htaken, hsame]
    exact h.exhausted

theorem observeAll_after_congr {iterator : ι} {other : κ}
    (hsame : ∀ probes, observeAll probes iterator = observeAll probes other)
    (first later : List Probe) :
    observeAll later (after first iterator) = observeAll later (after first other) := by
  have hboth := hsame (first ++ later)
  rw [observeAll_append, observeAll_append, hsame first] at hboth
  exact List.append_cancel_left hboth

end Iterators

/-!
## Lists
-/

variable {ε : Type}

theorem nextBack_concat (front : List ε) (last : ε) :
    nextBack (front ++ [last]) = some (last, front) := by
  simp [nextBack]

theorem take_list (count : Nat) (items : List ε) : take count items = items.take count := by
  induction count generalizing items with
  | zero => rw [take, List.take_zero]
  | succ count ih =>
      cases items with
      | nil => rfl
      | cons item rest => exact congrArg (item :: ·) (ih rest)

theorem takeBack_list (count : Nat) (items : List ε) :
    takeBack count items = items.reverse.take count := by
  induction count generalizing items with
  | zero => rw [takeBack, List.take_zero]
  | succ count ih =>
      rcases List.eq_nil_or_concat' items with rfl | ⟨front, last, rfl⟩
      · rfl
      · rw [takeBack, nextBack_concat, List.reverse_concat, List.take_succ_cons]
        exact congrArg (last :: ·) (ih front)

theorem observe_list (items : List ε) (probe : Probe) :
    (observe items probe).1 = probe.view items := by
  cases probe with
  | next =>
      cases items with
      | nil => rfl
      | cons item rest => rfl
  | nextBack =>
      rcases List.eq_nil_or_concat' items with rfl | ⟨front, last, rfl⟩
      · rfl
      · rw [observe, nextBack_concat, Probe.view, List.getLast?_concat]
  | sizeHint => rfl
  | length => rfl
  | forwards =>
      rw [observe, Probe.view, take_list]
      exact congrArg Observation.items List.take_length
  | backwards =>
      rw [observe, Probe.view, takeBack_list]
      exact congrArg Observation.items
        (List.take_of_length_le (Nat.le_of_eq List.length_reverse))

/-- The front, what is left and the back make up the list. -/
theorem front_after_back (probes : List Probe) (items : List ε) :
    taken .next probes items ++ after probes items ++ (taken .nextBack probes items).reverse =
      items := by
  induction probes generalizing items with
  | nil => exact List.append_nil items
  | cons probe rest ih =>
      -- A probe takes one item from one of the ends, or none.
      rw [taken_cons, taken_cons, after]
      have hrest := ih (observe items probe).2
      cases probe with
      | next =>
          cases items with
          | nil => exact hrest
          | cons item items => exact congrArg (item :: ·) hrest
      | nextBack =>
          rcases List.eq_nil_or_concat' items with rfl | ⟨front, last, rfl⟩
          · exact hrest
          · have hobserve : observe (front ++ [last]) .nextBack =
                (.item (some last), front) := by
              rw [observe, nextBack_concat]
            rw [hobserve] at hrest ⊢
            rw [List.reverse_append, ← List.append_assoc]
            exact congrArg (· ++ [last]) hrest
      | _ => exact hrest

/-- Three parts of a list are known from the lengths of the outer two. -/
theorem parts_of_append {front middle back items : List ε}
    (h : front ++ middle ++ back.reverse = items) :
    front = items.take front.length ∧ back = items.reverse.take back.length ∧
      middle = between items front.length back.length := by
  subst h
  refine ⟨?_, ?_, ?_⟩
  · rw [List.append_assoc, List.take_left]
  · rw [List.reverse_append, List.reverse_reverse, List.take_left]
  · unfold between
    have hmiddle : (front ++ middle ++ back.reverse).length - front.length - back.length =
        middle.length := by
      rw [List.length_append, List.length_append, List.length_reverse]
      omega
    rw [hmiddle, List.append_assoc, List.drop_left, List.take_left]

theorem after_list (probes : List Probe) (items : List ε) :
    after probes items =
      between items (taken .next probes items).length (taken .nextBack probes items).length :=
  (parts_of_append (front_after_back probes items)).right.right

theorem view_eq_none_iff (items : List ε) {call : Probe}
    (h : call ∈ [Probe.next, Probe.nextBack]) :
    call.view items = .item none ↔ items = [] := by
  have hcall : call = .next ∨ call = .nextBack := by
    rcases List.mem_cons.mp h with hnext | hback
    · exact Or.inl hnext
    · exact Or.inr (List.mem_singleton.mp hback)
  rcases hcall with rfl | rfl
  · rw [Probe.view, Observation.item.injEq, List.head?_eq_none_iff]
  · rw [Probe.view, Observation.item.injEq, List.getLast?_eq_none_iff]

theorem traverses_list (items : List ε) (probes : List Probe) :
    Traverses items items probes := by
  have hlengths : ∀ probes : List Probe, (taken .next probes items).length +
      (after probes items).length + (taken .nextBack probes items).length = items.length := by
    intro probes
    have hall := congrArg List.length (front_after_back probes items)
    rwa [List.length_append, List.length_append, List.length_reverse] at hall
  have hnone : ∀ probes : List Probe, ∀ call ∈ [Probe.next, Probe.nextBack],
      (observeAll (probes ++ [call]) items = observeAll probes items ++ [.item none] ↔
        (taken .next probes items).length + (taken .nextBack probes items).length =
          items.length) := by
    intro probes call hcall
    have hsum := hlengths probes
    rw [observeAll_append, List.append_cancel_left_eq, observeAll, observe_list, observeAll,
      List.singleton_inj, view_eq_none_iff _ hcall, ← List.length_eq_zero_iff]
    omega
  rcases parts_of_append (front_after_back probes items) with ⟨hfront, hback, hleft⟩
  constructor
  · exact hfront
  · exact hback
  · have hsum := hlengths probes
    omega
  · intro probe
    rw [observeAll_append, ← hleft, ← observe_list]
    rfl
  · exact hnone probes
  · intro hall later call hcall
    rw [hnone (probes ++ later) call hcall, taken_append, taken_append, List.length_append,
      List.length_append]
    have hsum := hlengths (probes ++ later)
    rw [taken_append, taken_append, List.length_append, List.length_append] at hsum
    omega

/-- As many calls as there are items give all of them. -/
theorem taken_all (items : List ε) :
    taken .next (List.replicate items.length .next) items = items := by
  induction items with
  | nil => rfl
  | cons item rest ih =>
      rw [List.length_cons, List.replicate_succ, taken_cons]
      exact congrArg (item :: ·) ih

end DoubleEnded
end BlockBuffer
