import BlockBuffer.Bytes.Basic

/-!
# Gaps between elements

An element is put in by moving all later elements up by one place, and taken out by moving them
down.  Both are overlapping moves within one byte string.
-/

namespace BlockBuffer
namespace Bytes

/-- Moves the elements from `index` on up by one place, among `length` elements of `size`
bytes.  The place at `index` is free to be written. -/
def openGap (size index length : Nat) (bytes : Bytes) : Traced Bytes := do
  let stop ← Word.mul length size
  let extended ← Word.add stop size
  let start ← Word.mul index size
  let next ← Word.add index 1
  let dest ← Word.mul next size
  (bytes.resize extended).moveWithin { start := start, stop := stop } dest

/-- Moves the elements after `index` down by one place, over the element there, among `length`
elements of `size` bytes. -/
def closeGap (size index length : Nat) (bytes : Bytes) : Traced Bytes := do
  let stop ← Word.mul length size
  let next ← Word.add index 1
  let start ← Word.mul next size
  let dest ← Word.mul index size
  let moved ← bytes.moveWithin { start := start, stop := stop } dest
  let kept ← Word.sub stop size
  pure (moved.take kept)

end Bytes
end BlockBuffer
