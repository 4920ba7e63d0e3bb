import BlockBuffer.Buffer.Basic
import BlockBuffer.Reservation.Growth

/-!
# Putting values in

An insertion refuses an index past the end, and then a growth that the heap of `limit` bytes
does not allow.
-/

namespace BlockBuffer
namespace Buffer

variable {α : Type}

def insert (limit : Nat) (buffer : Buffer α) (index : Nat) (value : α) :
    Traced (Outcome (Buffer α) (Result Unit)) :=
  let length := buffer.items.length
  if length < index then pure (.refused (.indexOutOfBounds index length) buffer)
  else do
    let wanted ← Word.add length 1
    let attempt ← buffer.slots.growFor limit buffer.reservation wanted buffer.extent
    match attempt.result with
    | .error error => pure (.refused error (buffer.backedBy attempt.reservation attempt.state))
    | .ok _ => do
        -- The value goes into room that the growth has made, never into room of its own.
        Traced.require (wanted ≤ attempt.state.capacity)
          (.unreserved wanted attempt.state.capacity)
        let longer ← attempt.reservation.setLength wanted
        let longerItems := buffer.items.insertIdx index value
        pure { result := .ok (),
               state := { buffer with items := longerItems }.backedBy longer attempt.state }

def pushFront (limit : Nat) (buffer : Buffer α) (value : α) :
    Traced (Outcome (Buffer α) (Result Unit)) :=
  buffer.insert limit 0 value

def pushBack (limit : Nat) (buffer : Buffer α) (value : α) :
    Traced (Outcome (Buffer α) (Result Unit)) :=
  buffer.insert limit buffer.items.length value

end Buffer
end BlockBuffer
