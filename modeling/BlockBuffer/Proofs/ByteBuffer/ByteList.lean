import BlockBuffer.Proofs.ByteBuffer.Changes
import BlockBuffer.ByteBuffer.Command

/-!
# Lists of byte strings

What a byte buffer does for its caller can be told without bytes, slots and reservations: it
keeps a list of byte strings of one size, and each command is an operation on this list.  Only
two things are not decided by the list.  The configuration says whether an initialization is
allowed at all and what a length costs, and the heap says whether a command that may ask for
storage is refused it.
-/

namespace BlockBuffer

structure ByteList where
  size : Option Nat := none
  elements : List Bytes := []

namespace ByteList

/-- The element at an index, refused to a byte string of another size. -/
def element (list : ByteList) (index : Nat) (width : Option Nat) : Result Bytes :=
  match list.size with
  | none => .error .uninitialized
  | some size =>
      match list.elements[index]? with
      | none => .error (.indexOutOfBounds index list.elements.length)
      | some element =>
          match width with
          | none => .ok element
          | some actual =>
              if actual = size then .ok element else .error (.sizeMismatch size actual)

def init (config : Config) (list : ByteList) (size : Nat) : Outcome ByteList (Result Unit) :=
  if size = 0 then .refused (.zeroSize "element_size") list
  else if config.blockSize = 0 then .refused (.zeroSize "block_size") list
  else { result := .ok (), state := { size := some size, elements := [] } }

def requiredBytes (config : Config) (list : ByteList) (length : Nat) : Result Nat :=
  match list.size with
  | none => .error .uninitialized
  | some size =>
      match config.bytesFor size length with
      | some bytes => .ok bytes
      | none => .error (.allocation Word.top)

def modify (list : ByteList) (index : Nat) (change : InPlace) :
    Outcome ByteList (Option Bytes) :=
  match list.elements[index]? with
  | none => { result := none, state := list }
  | some element =>
      { result := some (change.edit element),
        state := { list with elements := list.elements.set index (change.edit element) } }

def copyTo (list : ByteList) (index : Nat) (dest : Bytes) :
    Outcome ByteList (Delivery (Result Unit)) :=
  match list.element index (some dest.length) with
  | .error error => Delivery.refused error (some dest) list
  | .ok element => { result := { result := .ok (), dest := some element }, state := list }

def copyFrom (list : ByteList) (index : Nat) (source : Bytes) :
    Outcome ByteList (Result Unit) :=
  match list.element index (some source.length) with
  | .error error => .refused error list
  | .ok _ =>
      { result := .ok (), state := { list with elements := list.elements.set index source } }

def reserve (refusal : Option Nat) (list : ByteList) : Outcome ByteList (Result Unit) :=
  match list.size with
  | none => .refused .uninitialized list
  | some _ =>
      match refusal with
      | some requested => .refused (.allocation requested) list
      | none => { result := .ok (), state := list }

def compact (list : ByteList) : Outcome ByteList (Result Unit) :=
  match list.size with
  | none => .refused .uninitialized list
  | some _ => { result := .ok (), state := list }

def insert (refusal : Option Nat) (list : ByteList) (index : Nat) (source : Bytes) :
    Outcome ByteList (Result Unit) :=
  match list.size with
  | none => .refused .uninitialized list
  | some size =>
      if list.elements.length < index then
        .refused (.indexOutOfBounds index list.elements.length) list
      else if source.length ≠ size then .refused (.sizeMismatch size source.length) list
      else
        match refusal with
        | some requested => .refused (.allocation requested) list
        | none =>
            { result := .ok (),
              state := { list with elements := list.elements.insertIdx index source } }

def remove (list : ByteList) (index : Nat) (dest : Option Bytes) :
    Outcome ByteList (Delivery (Result Unit)) :=
  match list.element index (dest.map List.length) with
  | .error error => Delivery.refused error dest list
  | .ok element =>
      { result := { result := .ok (), dest := dest.map fun _ => element },
        state := { list with elements := list.elements.eraseIdx index } }

def pop (place : Nat → Nat) (list : ByteList) (dest : Option Bytes) :
    Outcome ByteList (Delivery (Result Status)) :=
  match list.size with
  | none => Delivery.refused .uninitialized dest list
  | some _ =>
      if list.elements.length = 0 then
        { result := { result := .ok .warning, dest := dest }, state := list }
      else (list.remove (place list.elements.length) dest).map Delivery.taken

def destroyWith (list : ByteList) (change : InPlace) (interruptAt : Option Nat) :
    Outcome ByteList (Result (CleanupReport Bytes)) :=
  match list.size with
  | none => .refused .uninitialized list
  | some _ =>
      let walk := sweep change.edit interruptAt list.elements
      match walk.ending with
      | .interrupted =>
          { result := .ok walk.report, state := { list with elements := walk.elements } }
      | .completed => { result := .ok walk.report, state := { list with elements := [] } }

def destroy (list : ByteList) : Outcome ByteList (Result Unit) :=
  match list.size with
  | none => .refused .uninitialized list
  | some _ => { result := .ok (), state := { list with elements := [] } }

open ByteBuffer in
def step (config : Config) (refusal : Option Nat) (list : ByteList) :
    Command → Outcome ByteList Reply
  | .init elementSize => (list.init config elementSize).map .done
  | .requiredBytes length =>
    { result := .size (list.requiredBytes config length), state := list }
  | .get index => { result := .element list.elements[index]?, state := list }
  | .modify index change => (list.modify index change).map .element
  | .copyTo index dest => (list.copyTo index dest).map .delivered
  | .copyFrom index source => (list.copyFrom index source).map .done
  | .observe probes =>
      { result := .observed (DoubleEnded.observeAll probes list.elements), state := list }
  | .reserve _ => (list.reserve refusal).map .done
  | .compact => list.compact.map .done
  | .insert index source => (list.insert refusal index source).map .done
  | .pushFront source => (list.insert refusal 0 source).map .done
  | .pushBack source => (list.insert refusal list.elements.length source).map .done
  | .remove index dest => (list.remove index dest).map .delivered
  | .popFront dest => (list.pop (fun _ => 0) dest).map .popped
  | .popBack dest => (list.pop (fun length => length - 1) dest).map .popped
  | .destroy => list.destroy.map .done
  | .destroyWith change interruptAt => (list.destroyWith change interruptAt).map .cleaned
  | .copy => { result := .done (.ok ()), state := list }

end ByteList
end BlockBuffer
