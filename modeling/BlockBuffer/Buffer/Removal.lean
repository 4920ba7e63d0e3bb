import BlockBuffer.Buffer.Basic
import BlockBuffer.Reservation.Shrink

/-!
# Taking values out

A removal refuses an index without a value, and otherwise applies the shrink policy.  A pop
from an empty buffer gives nothing.
-/

namespace BlockBuffer
namespace Buffer

variable {α : Type}

def remove (buffer : Buffer α) (index : Nat) : Traced (Outcome (Buffer α) (Result α)) :=
  let length := buffer.items.length
  match buffer.items[index]? with
  | none => pure (.refused (.indexOutOfBounds index length) buffer)
  | some value => do
      let left ← Word.sub length 1
      let shorter ← buffer.reservation.setLength left
      let shortened := { buffer with items := buffer.items.eraseIdx index }
      let settled ← buffer.slots.settle shorter shortened.extent
      pure { result := .ok value, state := shortened.backedBy settled.1 settled.2 }

def popFront (buffer : Buffer α) : Traced (Outcome (Buffer α) (Option α)) :=
  Outcome.map Except.toOption <$> buffer.remove 0

def popBack (buffer : Buffer α) : Traced (Outcome (Buffer α) (Option α)) :=
  if buffer.items.length = 0 then pure { result := none, state := buffer }
  else Outcome.map Except.toOption <$> buffer.remove (buffer.items.length - 1)

end Buffer
end BlockBuffer
