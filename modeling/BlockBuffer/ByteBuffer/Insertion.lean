import BlockBuffer.Bytes.Gap
import BlockBuffer.ByteBuffer.Basic
import BlockBuffer.Reservation.Growth

/-!
# Putting elements in

An insertion refuses, in this order, a buffer that is not initialized, an index past the end, a
byte string that is not one element long, and a growth that the heap of `limit` bytes does not
allow.
-/

namespace BlockBuffer
namespace ByteBuffer

/-- Refuses an index past the end, then a byte string that is not one element long. -/
def checkInsert (buffer : ByteBuffer) (index size : Nat) : Result Reservation := do
  let reservation ← buffer.initialized
  reservation.header.checkPosition index
  reservation.header.checkSize size
  pure reservation

/-- The bytes with an element put in at `index`, among `length` elements of `size` bytes. -/
def insertBytes (bytes : Bytes) (size index length : Nat) (source : Bytes) : Traced Bytes := do
  let opened ← bytes.openGap size index length
  let span ← Span.ofElement size index
  opened.overwrite span source

def insert (limit : Nat) (buffer : ByteBuffer) (index : Nat) (source : Bytes) :
    Traced (Outcome ByteBuffer (Result Unit)) :=
  match buffer.checkInsert index source.length with
  | .error error => pure (.refused error buffer)
  | .ok reservation => do
      let header := reservation.header
      let wanted ← Word.add header.length 1
      let attempt ← buffer.slots.growFor limit reservation wanted buffer.extent
      match attempt.result with
      | .error error =>
          pure (.refused error (buffer.backedBy attempt.reservation attempt.state))
      | .ok _ => do
          let bytes ← insertBytes buffer.bytes header.elementSize index header.length source
          -- The gap is opened in room that the growth has made, never in room of its own.
          Traced.require (bytes.length ≤ attempt.state.capacity)
            (.unreserved bytes.length attempt.state.capacity)
          let longer ← attempt.reservation.setLength wanted
          pure { result := .ok (),
                 state := { buffer with bytes := bytes }.backedBy longer attempt.state }

def pushFront (limit : Nat) (buffer : ByteBuffer) (source : Bytes) :
    Traced (Outcome ByteBuffer (Result Unit)) :=
  buffer.insert limit 0 source

def pushBack (limit : Nat) (buffer : ByteBuffer) (source : Bytes) :
    Traced (Outcome ByteBuffer (Result Unit)) :=
  buffer.insert limit buffer.length source

end ByteBuffer
end BlockBuffer
