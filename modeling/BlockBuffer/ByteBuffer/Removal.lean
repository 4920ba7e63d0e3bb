import BlockBuffer.Bytes.Gap
import BlockBuffer.ByteBuffer.Element
import BlockBuffer.Reservation.Shrink

/-!
# Taking elements out

A removal refuses, in this order, a buffer that is not initialized, an index without an
element, and a destination that is not one element long.  Without a destination the element is
dropped.  Afterwards the shrink policy is applied.

A pop from an empty buffer is no error: it gives a warning, and does not look at the
destination.
-/

namespace BlockBuffer
namespace ByteBuffer

def checkRemove (buffer : ByteBuffer) (index : Nat) (dest : Option Bytes) :
    Result Reservation :=
  match dest with
  | none => buffer.checkElement index
  | some dest => buffer.checkCopy index dest.length

def copyOut (buffer : ByteBuffer) (index : Nat) (dest : Option Bytes) :
    Traced (Delivery (Result Unit)) :=
  match dest with
  | none => pure { result := .ok (), dest := none }
  | some dest => do
      let outcome ← buffer.copyTo index dest
      pure outcome.result

def remove (buffer : ByteBuffer) (index : Nat) (dest : Option Bytes) :
    Traced (Outcome ByteBuffer (Delivery (Result Unit))) :=
  match buffer.checkRemove index dest with
  | .error error => pure (Delivery.refused error dest buffer)
  | .ok reservation => do
      -- Copying out makes the same checks again.
      let delivery ← buffer.copyOut index dest
      match delivery.result with
      | .error error => pure (Delivery.refused error delivery.dest buffer)
      | .ok _ => do
          let header := reservation.header
          let bytes ← buffer.bytes.closeGap header.elementSize index header.length
          let left ← Word.sub header.length 1
          let shorter ← reservation.setLength left
          let shortened := { buffer with bytes := bytes }
          let settled ← buffer.slots.settle shorter shortened.extent
          pure { result := delivery, state := shortened.backedBy settled.1 settled.2 }

/-- Takes an element out of a buffer that may be empty, at an index computed from the length.
-/
def popAt (place : Nat → Traced Nat) (buffer : ByteBuffer) (dest : Option Bytes) :
    Traced (Outcome ByteBuffer (Delivery (Result Status))) :=
  match buffer.initialized with
  | .error error => pure (Delivery.refused error dest buffer)
  | .ok reservation =>
      if reservation.header.length = 0 then
        pure { result := { result := .ok .warning, dest := dest }, state := buffer }
      else do
        let index ← place reservation.header.length
        let outcome ← buffer.remove index dest
        let delivery := outcome.result
        pure { result := { result := delivery.result.map fun _ => .ok, dest := delivery.dest },
               state := outcome.state }

def popFront (buffer : ByteBuffer) (dest : Option Bytes) :
    Traced (Outcome ByteBuffer (Delivery (Result Status))) :=
  buffer.popAt (fun _ => pure 0) dest

def popBack (buffer : ByteBuffer) (dest : Option Bytes) :
    Traced (Outcome ByteBuffer (Delivery (Result Status))) :=
  buffer.popAt (fun length => Word.sub length 1) dest

/-!
## Popped elements
-/

def destination (buffer : ByteBuffer) : Bytes :=
  List.replicate buffer.elementSize 0

def takeFront (buffer : ByteBuffer) : Traced (Outcome ByteBuffer (Result (Option Bytes))) :=
  Outcome.map Delivery.found <$> buffer.popFront (some buffer.destination)

def takeBack (buffer : ByteBuffer) : Traced (Outcome ByteBuffer (Result (Option Bytes))) :=
  Outcome.map Delivery.found <$> buffer.popBack (some buffer.destination)

end ByteBuffer
end BlockBuffer
