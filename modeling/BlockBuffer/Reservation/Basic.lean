import BlockBuffer.Config
import BlockBuffer.Header

/-!
# Reservations

A reservation is the bookkeeping that both kinds of buffer share: a header and the
configuration by which its reserved slots grow and shrink.  The elements themselves are kept
elsewhere.
-/

namespace BlockBuffer

structure Reservation where
  header : Header
  config : Config
deriving DecidableEq, Repr

namespace Reservation

def create (elementSize : Nat) (config : Config) : Result Reservation :=
  if elementSize = 0 then .error (.zeroSize "element_size")
  else do
    config.validate
    pure { header := .unreserved elementSize, config := config }

def requiredBytes (r : Reservation) (length : Nat) : Traced (Option Nat) := do
  let slots ← r.config.capacity length
  pure (r.header.bytesFor slots)

/-- The same reservation for another number of elements, which must fit. -/
def setLength (r : Reservation) (length : Nat) : Traced Reservation := do
  Traced.require (length ≤ r.header.reserved) (.unreserved length r.header.reserved)
  pure { r with header := { r.header with length := length } }

def payload (r : Reservation) : Traced Nat :=
  Word.mul r.header.reserved r.header.elementSize

@[simp] theorem value_setLength (r : Reservation) (length : Nat) :
    (r.setLength length).value = { r with header := { r.header with length := length } } := rfl

@[simp] theorem events_setLength (r : Reservation) (length : Nat) :
    (r.setLength length).events = [] := by
  simp [setLength]

end Reservation
end BlockBuffer
