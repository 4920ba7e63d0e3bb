import BlockBuffer.Outcome
import BlockBuffer.Reservation.Basic
import BlockBuffer.Slots

/-!
# Buffers of values

A buffer holds values of one type `α`, each of which takes the same number of bytes.  The
values are a list; the reservation beside it counts them and the slots that they have.  Two
buffers are equal when their values are, whatever they have reserved.
-/

namespace BlockBuffer

structure Buffer (α : Type) where
  items : List α
  reservation : Reservation
  /-- The values that there is room for. -/
  capacity : Nat := 0
deriving Repr

namespace Buffer

variable {α : Type}

def create (elementSize : Nat) (config : Config) : Result (Buffer α) := do
  let reservation ← Reservation.create elementSize config
  pure { items := [], reservation := reservation }

/-!
## Views
-/

def header (buffer : Buffer α) : Header :=
  buffer.reservation.header

def config (buffer : Buffer α) : Config :=
  buffer.reservation.config

def length (buffer : Buffer α) : Nat :=
  buffer.items.length

def isEmpty (buffer : Buffer α) : Bool :=
  buffer.items.isEmpty

def extent (buffer : Buffer α) : Extent where
  length := buffer.items.length
  capacity := buffer.capacity

def get (buffer : Buffer α) (index : Nat) : Option α :=
  buffer.items[index]?

def requiredBytes (buffer : Buffer α) (length : Nat) : Traced (Option Nat) :=
  buffer.reservation.requiredBytes length

instance [BEq α] : BEq (Buffer α) where
  beq a b := a.items == b.items

/-!
## Changes in place
-/

def set (buffer : Buffer α) (index : Nat) (value : α) : Outcome (Buffer α) Bool where
  result := decide (index < buffer.items.length)
  state := { buffer with items := buffer.items.set index value }

def replace (buffer : Buffer α) (index : Nat) (value : α) : Outcome (Buffer α) (Result α) :=
  match buffer.items[index]? with
  | none => .refused (.indexOutOfBounds index buffer.items.length) buffer
  | some old =>
      { result := .ok old, state := { buffer with items := buffer.items.set index value } }

def reverse (buffer : Buffer α) : Buffer α :=
  { buffer with items := buffer.items.reverse }

/-- A buffer of its own with the same values and a reservation of the same size, for all of
which there is room from the start. -/
def copy (buffer : Buffer α) : Traced (Buffer α) := do
  let _ ← buffer.reservation.payload
  let room := buffer.header.reserved
  Traced.require (buffer.items.length ≤ room) (.unreserved buffer.items.length room)
  pure { buffer with capacity := room }

/-!
## Changes of the storage
-/

def slots (buffer : Buffer α) : Slots Extent :=
  .ofValues buffer.header.elementSize

/-- The buffer with another reservation, and the array that goes with it. -/
def backedBy (buffer : Buffer α) (reservation : Reservation) (extent : Extent) : Buffer α :=
  { buffer with reservation := reservation, capacity := extent.capacity }

end Buffer
end BlockBuffer
