/-!
# Cleanup

Before a buffer is emptied, its elements can be handed to a callback, each once and from the
first to the last.  The callback may change an element in its place, and it may break off at
one of its calls, after that change.
-/

namespace BlockBuffer

inductive Ending where
  | completed
  | interrupted
deriving DecidableEq, Repr

structure Sweep (α : Type) where
  seen : List α
  elements : List α
  ending : Ending
deriving DecidableEq, Repr

/-- Hands the elements over one by one.  A number says at which call, counted from zero, the
callback breaks off. -/
def sweep {α : Type} (edit : α → α) : Option Nat → List α → Sweep α
  | _, [] => { seen := [], elements := [], ending := .completed }
  | some 0, element :: rest =>
      { seen := [element], elements := edit element :: rest, ending := .interrupted }
  | some (calls + 1), element :: rest =>
      let later := sweep edit (some calls) rest
      { later with seen := element :: later.seen, elements := edit element :: later.elements }
  | none, element :: rest =>
      let later := sweep edit none rest
      { later with seen := element :: later.seen, elements := edit element :: later.elements }

structure CleanupReport (α : Type) where
  ending : Ending
  seen : List α
deriving DecidableEq, Repr

def Sweep.report {α : Type} (walk : Sweep α) : CleanupReport α where
  ending := walk.ending
  seen := walk.seen

/-!
## What a walk hands over and leaves
-/

section Walks

variable {α : Type} (edit : α → α)

theorem sweep_none (elements : List α) :
    sweep edit none elements =
      { seen := elements, elements := elements.map edit, ending := .completed } := by
  induction elements with
  | nil => rfl
  | cons element rest ih => simp [sweep, ih]

/-- Past the last element there is no call to break off at. -/
theorem sweep_of_le {calls : Nat} {elements : List α} (h : elements.length ≤ calls) :
    sweep edit (some calls) elements = sweep edit none elements := by
  induction elements generalizing calls with
  | nil => cases calls <;> rfl
  | cons element rest ih =>
      cases calls with
      | zero => simp at h
      | succ calls =>
          have hrest : rest.length ≤ calls := by simpa using h
          simp [sweep, ih hrest]

theorem sweep_of_unbroken {interruptAt : Option Nat} {elements : List α}
    (h : ∀ calls ∈ interruptAt, elements.length ≤ calls) :
    sweep edit interruptAt elements =
      { seen := elements, elements := elements.map edit, ending := .completed } := by
  cases interruptAt with
  | none => exact sweep_none edit elements
  | some calls => rw [sweep_of_le edit (h calls rfl), sweep_none]

theorem sweep_of_lt {calls : Nat} {elements : List α} (h : calls < elements.length) :
    sweep edit (some calls) elements =
      { seen := elements.take (calls + 1)
        elements := (elements.take (calls + 1)).map edit ++ elements.drop (calls + 1)
        ending := .interrupted } := by
  induction elements generalizing calls with
  | nil => simp at h
  | cons element rest ih =>
      cases calls with
      | zero => simp [sweep]
      | succ calls =>
          have hrest : calls < rest.length := by simpa using h
          simp [sweep, ih hrest]

end Walks

end BlockBuffer
