import BlockBuffer.Buffer.Basic
import BlockBuffer.Cleanup
import BlockBuffer.Reservation.Growth
import BlockBuffer.Reservation.Shrink

/-!
# Storage of a buffer of values

Slots are reserved ahead, slack is dropped, and all storage is given back.  Before it is given
back, every value may be handed to a callback.  The callback owns what it is handed, so whether
or not it breaks off the buffer is empty afterwards; if it does break off, the slots stay
reserved.
-/

namespace BlockBuffer
namespace Buffer

variable {α : Type}

def reserve (limit : Nat) (buffer : Buffer α) (amount : Nat) :
    Traced (Outcome (Buffer α) (Result Unit)) := do
  let attempt ← buffer.slots.reserve limit buffer.reservation amount buffer.extent
  pure { result := attempt.result,
         state := buffer.backedBy attempt.reservation attempt.state }

def compact (buffer : Buffer α) : Traced (Buffer α) := do
  let tight ← buffer.slots.compact buffer.reservation buffer.extent
  Traced.emit (.compacted .typed tight.1.header.reserved)
  pure (buffer.backedBy tight.1 tight.2)

/-- Hands every value to a callback, in order, and then gives all storage back.  The callback
breaks off at the call of that number, if there is one. -/
def destroyWith (buffer : Buffer α) (interruptAt : Option Nat) :
    Traced (Outcome (Buffer α) (CleanupReport α)) := do
  let emptied ← buffer.reservation.setLength 0
  let walk := sweep id interruptAt buffer.items
  let drained := { buffer with items := [], reservation := emptied }
  match walk.ending with
  | .interrupted => pure { result := walk.report, state := drained }
  | .completed => do
      let released ← drained.slots.release emptied drained.extent
      Traced.emit (.destroyed .typed)
      pure { result := walk.report, state := drained.backedBy released.1 released.2 }

def destroy (buffer : Buffer α) : Traced (Buffer α) := do
  let outcome ← buffer.destroyWith none
  pure outcome.state

/-- Ends a buffer for good, with a callback as in `destroyWith`. -/
def freeWith (buffer : Buffer α) (interruptAt : Option Nat) : Traced (CleanupReport α) := do
  let outcome ← buffer.destroyWith interruptAt
  pure outcome.result

def free (buffer : Buffer α) : Traced Unit := do
  let _ ← buffer.destroy
  pure ()

end Buffer
end BlockBuffer
