/-!
# Double-ended iteration

An iterator over a finite sequence gives items from both ends, and knows how many it still has.
Probes ask for an item or look at what remains; looking does not move the iterator.
-/

namespace BlockBuffer

/-- Iterators `ι` over items `ε` that can be taken from both ends. -/
class DoubleEnded (ι : Type) (ε : outParam Type) where
  next : ι → Option (ε × ι)
  nextBack : ι → Option (ε × ι)
  remaining : ι → Nat

instance {α : Type} : DoubleEnded (List α) α where
  next
    | [] => none
    | item :: rest => some (item, rest)
  nextBack items :=
    match items.getLast? with
    | none => none
    | some item => some (item, items.dropLast)
  remaining := List.length

inductive Probe where
  | next
  | nextBack
  | sizeHint
  | length
  | forwards
  | backwards
deriving DecidableEq, Repr

inductive Observation (ε : Type) where
  | item (item : Option ε)
  | sizeHint (lower : Nat) (upper : Option Nat)
  | length (length : Nat)
  | items (items : List ε)
deriving DecidableEq, Repr

namespace DoubleEnded

variable {ι ε : Type} [DoubleEnded ι ε]

def take : Nat → ι → List ε
  | 0, _ => []
  | count + 1, iterator =>
      match next iterator with
      | none => []
      | some (item, rest) => item :: take count rest

/-- At most `count` items from the back, the last one first. -/
def takeBack : Nat → ι → List ε
  | 0, _ => []
  | count + 1, iterator =>
      match nextBack iterator with
      | none => []
      | some (item, rest) => item :: takeBack count rest

def observe (iterator : ι) : Probe → Observation ε × ι
  | .next =>
      match next iterator with
      | none => (.item none, iterator)
      | some (item, rest) => (.item (some item), rest)
  | .nextBack =>
      match nextBack iterator with
      | none => (.item none, iterator)
      | some (item, rest) => (.item (some item), rest)
  | .sizeHint => (.sizeHint (remaining iterator) (some (remaining iterator)), iterator)
  | .length => (.length (remaining iterator), iterator)
  | .forwards => (.items (take (remaining iterator) iterator), iterator)
  | .backwards => (.items (takeBack (remaining iterator) iterator), iterator)

def observeAll : List Probe → ι → List (Observation ε)
  | [], _ => []
  | probe :: probes, iterator =>
      let shown := observe iterator probe
      shown.1 :: observeAll probes shown.2

end DoubleEnded
end BlockBuffer
