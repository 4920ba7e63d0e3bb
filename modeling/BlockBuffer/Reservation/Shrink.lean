import BlockBuffer.Reservation.Basic
import BlockBuffer.Slots

/-!
# Giving slots back

A reservation shrinks on compaction, after a removal where the policy says so, and when it is
released.  It never shrinks below the number of elements.
-/

namespace BlockBuffer
namespace Slots

variable {σ : Type}

def shrinkTo (storage : Slots σ) (r : Reservation) (slots : Nat) (state : σ) :
    Traced (Reservation × σ) := do
  Traced.require (r.header.length ≤ slots) (.unreserved r.header.length slots)
  Traced.require (slots ≤ r.header.reserved) (.regrown r.header.reserved slots)
  let kept ← storage.shrink slots state
  Traced.emit (.shrunk r.header.reserved slots)
  let bytes ←
    match r.header.bytesFor slots with
    | some bytes => pure bytes
    | none => do
        Traced.fail (.overflow (slots * r.header.elementSize + headerSize))
        pure Word.top
  pure
    ({ r with header := { r.header with reserved := slots, bytesAllocated := bytes } }, kept)

def compact (storage : Slots σ) (r : Reservation) (state : σ) : Traced (Reservation × σ) :=
  if r.header.length = r.header.reserved then pure (r, state)
  else storage.shrinkTo r r.header.length state

def settle (storage : Slots σ) (r : Reservation) (state : σ) : Traced (Reservation × σ) := do
  let target ← r.config.capacity r.header.length
  match r.config.shrink with
  | .deferred => pure (r, state)
  | .lazy =>
      if target < r.header.reserved then storage.shrinkTo r target state else pure (r, state)
  | .eager =>
      if target ≤ r.header.reserved then storage.shrinkTo r target state else pure (r, state)

def release (storage : Slots σ) (r : Reservation) (state : σ) : Traced (Reservation × σ) :=
  storage.shrinkTo { r with header := { r.header with length := 0 } } 0 state

end Slots
end BlockBuffer
