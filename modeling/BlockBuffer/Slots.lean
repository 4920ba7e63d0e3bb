import BlockBuffer.Word

/-!
# Slots

The elements of a buffer lie in a growable array, which has entries and room for more of them.
A reservation counts slots instead.  In a byte buffer the entries are single bytes and a slot
is as many of them as an element has; in a buffer of values each entry is a slot.

An array that has room enough asks for nothing.  Otherwise it asks the heap for one block, of
exactly the size that is needed, and if that is refused it stays as it was.
-/

namespace BlockBuffer

/-!
## Heaps
-/

/-- The largest block of any heap, less than half of the addresses. -/
def maxPayload : Nat := Word.limit / 2 - 1

theorem maxPayload_eq : maxPayload = 9223372036854775807 := rfl

def heapGrants (limit bytes : Nat) : Bool :=
  decide (bytes ≤ min limit maxPayload)

/-!
## Growable arrays
-/

/-- The number of entries of an array, and of those that it has room for. -/
structure Extent where
  length : Nat
  capacity : Nat
deriving DecidableEq, Repr

namespace Extent

def tryReserve (limit entrySize : Nat) (extent : Extent) (additional : Nat) : Bool × Extent :=
  let needed := extent.length + additional
  if needed ≤ extent.capacity then (true, extent)
  else if heapGrants limit (needed * entrySize) then (true, { extent with capacity := needed })
  else (false, extent)

def shrinkTo (extent : Extent) (capacity : Nat) : Extent :=
  if capacity < extent.capacity then { extent with capacity := max extent.length capacity }
  else extent

end Extent

/-!
## Slots of an array
-/

/-- Storage as a reservation sees it.  What it remembers is of type `σ`, and it logs nothing.
-/
structure Slots (σ : Type) where
  /-- Makes room for so many slots in total on a heap with a limit, and tells whether there is.
  -/
  grow (limit slots : Nat) (state : σ) : Traced (Bool × σ)
  shrink (slots : Nat) (state : σ) : Traced σ
  events_grow (limit slots : Nat) (state : σ) : (grow limit slots state).events = [] := by
    intros
    rfl

namespace Slots

/-- An array of bytes, `elementSize` of which make a slot. -/
def ofBytes (elementSize : Nat) : Slots Extent where
  grow limit slots extent := do
    let wanted ← Word.mul slots elementSize
    pure (extent.tryReserve limit 1 (wanted - extent.length))
  shrink slots extent := do
    let wanted ← Word.mul slots elementSize
    pure (extent.shrinkTo wanted)
  events_grow limit slots extent := by
    simp

def ofValues (elementSize : Nat) : Slots Extent where
  grow limit slots extent :=
    pure (extent.tryReserve limit elementSize (slots - extent.length))
  shrink slots extent := pure (extent.shrinkTo slots)

end Slots
end BlockBuffer
