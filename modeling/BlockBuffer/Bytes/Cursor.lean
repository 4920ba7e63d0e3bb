import BlockBuffer.Bytes.Basic
import BlockBuffer.DoubleEnded

/-!
# Cursors over elements

A cursor holds the bytes of the elements that were not taken yet and gives them one element at
a time, from either end.
-/

namespace BlockBuffer

structure Cursor where
  size : Nat
  /-- The bytes of the elements not taken yet. -/
  bytes : Bytes
deriving DecidableEq, Repr

namespace Cursor

/-- A cursor over the whole elements at the start of `bytes`. -/
def ofBytes (size : Nat) (bytes : Bytes) : Traced Cursor := do
  Traced.require (size ≠ 0) .emptyChunk
  pure { size := size, bytes := bytes.take (bytes.length - bytes.length % size) }

instance : DoubleEnded Cursor Bytes where
  next cursor :=
    if cursor.bytes.length < cursor.size ∨ cursor.bytes = [] then none
    else some (cursor.bytes.take cursor.size,
      { cursor with bytes := cursor.bytes.drop cursor.size })
  nextBack cursor :=
    if cursor.bytes.length < cursor.size ∨ cursor.bytes = [] then none
    else
      let kept := cursor.bytes.length - cursor.size
      some (cursor.bytes.drop kept, { cursor with bytes := cursor.bytes.take kept })
  remaining cursor := cursor.bytes.length / cursor.size

end Cursor
end BlockBuffer
