import BlockBuffer.ByteBuffer.Basic

/-!
# Access to one element

An element is looked at, changed in its place, copied out or written over.  Copying in either
direction takes byte strings of exactly one element and refuses, in this order, a buffer that
is not initialized, an index without an element, and a byte string of another length.
-/

namespace BlockBuffer
namespace ByteBuffer

def get (buffer : ByteBuffer) (index : Nat) : Traced (Option Bytes) :=
  if buffer.length ≤ index then pure none
  else do
    let span ← Span.ofElement buffer.elementSize index
    pure (buffer.bytes.slice? span)

/-- Changes the element at an index in its place, if there is one, and gives it as it is after
that. -/
def modify (buffer : ByteBuffer) (index : Nat) (change : InPlace) :
    Traced (Outcome ByteBuffer (Option Bytes)) :=
  if buffer.length ≤ index then pure { result := none, state := buffer }
  else do
    let span ← Span.ofElement buffer.elementSize index
    match buffer.bytes.slice? span with
    | none => pure { result := none, state := buffer }
    | some element =>
        let changed := change.edit element
        pure { result := some changed,
               state := { buffer with bytes := buffer.bytes.put span.start changed } }

def checkElement (buffer : ByteBuffer) (index : Nat) : Result Reservation := do
  let reservation ← buffer.initialized
  reservation.header.checkIndex index
  pure reservation

/-- Refuses an index without an element, then a byte string that is not one element long. -/
def checkCopy (buffer : ByteBuffer) (index size : Nat) : Result Reservation := do
  let reservation ← buffer.checkElement index
  reservation.header.checkSize size
  pure reservation

def deliver (buffer : ByteBuffer) (size index : Nat) (dest : Bytes) : Traced Bytes := do
  let span ← Span.ofElement size index
  let element ← buffer.bytes.slice span
  dest.overwrite { start := 0, stop := dest.length } element

def copyTo (buffer : ByteBuffer) (index : Nat) (dest : Bytes) :
    Traced (Outcome ByteBuffer (Delivery (Result Unit))) :=
  match buffer.checkCopy index dest.length with
  | .error error => pure (Delivery.refused error (some dest) buffer)
  | .ok reservation => do
      let filled ← buffer.deliver reservation.header.elementSize index dest
      pure { result := { result := .ok (), dest := some filled }, state := buffer }

def copyFrom (buffer : ByteBuffer) (index : Nat) (source : Bytes) :
    Traced (Outcome ByteBuffer (Result Unit)) :=
  match buffer.checkCopy index source.length with
  | .error error => pure (.refused error buffer)
  | .ok reservation => do
      let span ← Span.ofElement reservation.header.elementSize index
      let bytes ← buffer.bytes.overwrite span source
      pure { result := .ok (), state := { buffer with bytes := bytes } }

end ByteBuffer
end BlockBuffer
