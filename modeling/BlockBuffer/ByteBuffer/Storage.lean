import BlockBuffer.ByteBuffer.Basic
import BlockBuffer.Cleanup
import BlockBuffer.Reservation.Growth
import BlockBuffer.Reservation.Shrink

/-!
# Storage of a byte buffer

Slots are reserved ahead, slack is dropped, and all storage is given back.  Before it is given
back, every element may be handed to a callback.  A callback that breaks off leaves the buffer
with all its elements, those handed over as the callback changed them.
-/

namespace BlockBuffer
namespace ByteBuffer

def reserve (limit : Nat) (buffer : ByteBuffer) (amount : Nat) :
    Traced (Outcome ByteBuffer (Result Unit)) :=
  match buffer.initialized with
  | .error error => pure (.refused error buffer)
  | .ok reservation => do
      let attempt ← buffer.slots.reserve limit reservation amount buffer.extent
      pure { result := attempt.result,
             state := buffer.backedBy attempt.reservation attempt.state }

def compact (buffer : ByteBuffer) : Traced (Outcome ByteBuffer (Result Unit)) :=
  match buffer.initialized with
  | .error error => pure (.refused error buffer)
  | .ok reservation => do
      let tight ← buffer.slots.compact reservation buffer.extent
      Traced.emit (.compacted .raw tight.1.header.reserved)
      pure { result := .ok (), state := buffer.backedBy tight.1 tight.2 }

/-- Hands every element to a callback that makes the change, in order, and then gives all
storage back.  The callback breaks off at the call of that number, if there is one. -/
def destroyWith (buffer : ByteBuffer) (change : InPlace) (interruptAt : Option Nat) :
    Traced (Outcome ByteBuffer (Result (CleanupReport Bytes))) :=
  match buffer.initialized with
  | .error error => pure (.refused error buffer)
  | .ok reservation => do
      let size := reservation.header.elementSize
      Traced.require (size ≠ 0) .emptyChunk
      let walk := sweep change.edit interruptAt (buffer.bytes.chunks size)
      match walk.ending with
      | .interrupted =>
          pure { result := .ok walk.report,
                 state := { buffer with bytes := walk.elements.flatten } }
      | .completed => do
          let cleared := { buffer with bytes := [] }
          let released ← buffer.slots.release reservation cleared.extent
          Traced.emit (.destroyed .raw)
          pure { result := .ok walk.report, state := cleared.backedBy released.1 released.2 }

def destroy (buffer : ByteBuffer) : Traced (Outcome ByteBuffer (Result Unit)) := do
  let outcome ← buffer.destroyWith .id none
  pure { result := outcome.result.map fun _ => (), state := outcome.state }

def freeWith (buffer : ByteBuffer) (change : InPlace) (interruptAt : Option Nat) :
    Traced (Result (CleanupReport Bytes)) := do
  let outcome ← buffer.destroyWith change interruptAt
  pure outcome.result

def free (buffer : ByteBuffer) : Traced (Result Unit) := do
  let outcome ← buffer.destroy
  pure outcome.result

end ByteBuffer
end BlockBuffer
