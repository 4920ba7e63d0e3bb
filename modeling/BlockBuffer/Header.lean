import BlockBuffer.Error
import BlockBuffer.Word

/-!
# The header of a buffer

A header counts elements and slots, and accounts for the bytes of the whole buffer: its own
`headerSize` bytes and those of the reserved slots.
-/

namespace BlockBuffer

def headerSize : Nat := 32

structure Header where
  elementSize : Nat
  length : Nat
  /-- The number of slots that can be filled without asking for storage. -/
  reserved : Nat
  /-- The bytes of the header and of the reserved slots. -/
  bytesAllocated : Nat
deriving DecidableEq, Repr

namespace Header

def unreserved (elementSize : Nat) : Header where
  elementSize := elementSize
  length := 0
  reserved := 0
  bytesAllocated := headerSize

/-- The bytes of a buffer with `reserved` slots, if that is a word. -/
def bytesFor (header : Header) (reserved : Nat) : Option Nat := do
  let payload ← Word.mul? reserved header.elementSize
  Word.add? payload headerSize

def checkIndex (header : Header) (index : Nat) : Result Unit :=
  if header.length ≤ index then .error (.indexOutOfBounds index header.length) else .ok ()

def checkPosition (header : Header) (index : Nat) : Result Unit :=
  if header.length < index then .error (.indexOutOfBounds index header.length) else .ok ()

def checkSize (header : Header) (actual : Nat) : Result Unit :=
  if actual = header.elementSize then .ok ()
  else .error (.sizeMismatch header.elementSize actual)

/-!
## When the bytes are a word
-/

theorem bytesFor_eq (header : Header) (reserved : Nat) :
    header.bytesFor reserved =
      if reserved * header.elementSize + headerSize < Word.limit then
        some (reserved * header.elementSize + headerSize)
      else none := by
  unfold bytesFor Word.mul? Word.add?
  by_cases hfits : reserved * header.elementSize < Word.limit
  · simp [hfits]
  · have hsum : ¬ reserved * header.elementSize + headerSize < Word.limit := by omega
    simp [hfits, hsum]

end Header
end BlockBuffer
