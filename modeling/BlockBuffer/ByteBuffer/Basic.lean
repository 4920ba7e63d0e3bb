import BlockBuffer.Bytes.Cursor
import BlockBuffer.Outcome
import BlockBuffer.Reservation.Basic
import BlockBuffer.Slots

/-!
# Buffers of byte strings

A byte buffer holds elements that are byte strings of one length.  That length is chosen when
the buffer is initialized; until then the buffer has no reservation and nothing but its
configuration.  The elements stand side by side in one byte string, the first one first.

`ByteBuffer.elements` is the list of elements that a buffer stands for.
-/

namespace BlockBuffer

structure ByteBuffer where
  /-- The growth parameters that every initialization starts with. -/
  config : Config := {}
  reservation : Option Reservation := none
  /-- The elements, without the slack. -/
  bytes : Bytes := []
  /-- The bytes that there is room for. -/
  capacity : Nat := 0
deriving DecidableEq, Repr

namespace ByteBuffer

/-!
## Views
-/

def isInitialized (buffer : ByteBuffer) : Bool :=
  buffer.reservation.isSome

def initialized (buffer : ByteBuffer) : Result Reservation :=
  match buffer.reservation with
  | some reservation => .ok reservation
  | none => .error .uninitialized

/-- The header.  Without a reservation, elements have no bytes and the header is all there is.
-/
def header (buffer : ByteBuffer) : Header :=
  match buffer.reservation with
  | some reservation => reservation.header
  | none => .unreserved 0

def elementSize (buffer : ByteBuffer) : Nat :=
  buffer.header.elementSize

def length (buffer : ByteBuffer) : Nat :=
  buffer.header.length

def isEmpty (buffer : ByteBuffer) : Bool :=
  buffer.length == 0

def reserved (buffer : ByteBuffer) : Nat :=
  buffer.header.reserved

def bytesAllocated (buffer : ByteBuffer) : Nat :=
  buffer.header.bytesAllocated

def extent (buffer : ByteBuffer) : Extent where
  length := buffer.bytes.length
  capacity := buffer.capacity

def elements (buffer : ByteBuffer) : List Bytes :=
  buffer.bytes.chunks buffer.elementSize

/-- A cursor over the elements.  Before the initialization any size serves, since there are no
bytes. -/
def cursor (buffer : ByteBuffer) : Traced Cursor :=
  Cursor.ofBytes (max buffer.elementSize 1) buffer.bytes

def requiredBytes (buffer : ByteBuffer) (length : Nat) : Traced (Result Nat) :=
  match buffer.initialized with
  | .error error => pure (.error error)
  | .ok reservation => do
      match ← reservation.requiredBytes length with
      | some bytes => pure (.ok bytes)
      | none => pure (.error (.allocation Word.top))

/-!
## Creation
-/

/-- Starts over with no elements of `elementSize` bytes and nothing reserved.  What was there
before is dropped, unless the initialization is refused. -/
def init (buffer : ByteBuffer) (elementSize : Nat) :
    Traced (Outcome ByteBuffer (Result Unit)) :=
  match Reservation.create elementSize buffer.config with
  | .error error => pure (.refused error buffer)
  | .ok reservation => do
      Traced.emit (.ready elementSize)
      pure { result := .ok (),
             state := { buffer with
                        reservation := some reservation
                        bytes := []
                        capacity := 0 } }

def ofElementSize (elementSize : Nat) : Traced (Result ByteBuffer) := do
  let outcome ← ByteBuffer.init {} elementSize
  pure (outcome.result.map fun _ => outcome.state)

/-- A buffer of its own with the same elements and a reservation of the same size, for all of
which there is room from the start. -/
def copy (buffer : ByteBuffer) : Traced ByteBuffer := do
  let room ← Word.mul buffer.reserved buffer.elementSize
  Traced.require (buffer.bytes.length ≤ room) (.unreserved buffer.bytes.length room)
  pure { buffer with capacity := room }

/-!
## Changes of the storage
-/

def slots (buffer : ByteBuffer) : Slots Extent :=
  .ofBytes buffer.elementSize

def backedBy (buffer : ByteBuffer) (reservation : Reservation)
    (extent : Extent) : ByteBuffer :=
  { buffer with reservation := some reservation, capacity := extent.capacity }

end ByteBuffer
end BlockBuffer
