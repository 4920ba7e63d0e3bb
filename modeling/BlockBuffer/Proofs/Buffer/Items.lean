import BlockBuffer.Buffer.Command
import BlockBuffer.Proofs.Reservation.Validity

/-!
# Plain lists under the commands of a buffer

What a buffer of values does for its caller, told without slots and reservations: its state is
a plain list, and each command is an operation on it.  The size of a value and the capacity
formula are asked only for the bytes that a length costs.  A command that may ask for storage
is told what is refused to it.
-/

namespace BlockBuffer
namespace Items

open Buffer

variable {α : Type}

def reserve (refusal : Option Nat) (items : List α) : Outcome (List α) (Result Unit) :=
  match refusal with
  | some requested => .refused (.allocation requested) items
  | none => { result := .ok (), state := items }

def insert (refusal : Option Nat) (items : List α) (index : Nat) (value : α) :
    Outcome (List α) (Result Unit) :=
  if items.length < index then .refused (.indexOutOfBounds index items.length) items
  else
    match refusal with
    | some requested => .refused (.allocation requested) items
    | none => { result := .ok (), state := items.insertIdx index value }

def remove (items : List α) (index : Nat) : Outcome (List α) (Result α) :=
  if h : index < items.length then
    { result := .ok items[index], state := items.eraseIdx index }
  else .refused (.indexOutOfBounds index items.length) items

def replace (items : List α) (index : Nat) (value : α) : Outcome (List α) (Result α) :=
  if h : index < items.length then
    { result := .ok items[index], state := items.set index value }
  else .refused (.indexOutOfBounds index items.length) items

def popFront : List α → Outcome (List α) (Option α)
  | [] => { result := none, state := [] }
  | item :: rest => { result := some item, state := rest }

def popBack (items : List α) : Outcome (List α) (Option α) where
  result := items.getLast?
  state := items.dropLast

def step (elementSize : Nat) (config : Config) (refusal : Option Nat) (items : List α) :
    Command α → Outcome (List α) (Reply α)
  | .requiredBytes length =>
      { result := .size (config.bytesFor elementSize length), state := items }
  | .get index => { result := .value items[index]?, state := items }
  | .set index value =>
      { result := .written (decide (index < items.length)), state := items.set index value }
  | .reverse => { result := .unit, state := items.reverse }
  | .observe probes =>
      { result := .observed (DoubleEnded.observeAll probes items), state := items }
  | .reserve _ => (reserve refusal items).map .done
  | .compact => { result := .unit, state := items }
  | .insert index value => (insert refusal items index value).map .done
  | .pushFront value => (insert refusal items 0 value).map .done
  | .pushBack value => (insert refusal items items.length value).map .done
  | .remove index => (remove items index).map .taken
  | .replace index value => (replace items index value).map .taken
  | .popFront => (popFront items).map .value
  | .popBack => (popBack items).map .value
  | .destroy => { result := .unit, state := [] }
  | .destroyWith interruptAt =>
      { result := .cleaned (sweep id interruptAt items).report, state := [] }
  | .copy => { result := .unit, state := items }

end Items
end BlockBuffer
