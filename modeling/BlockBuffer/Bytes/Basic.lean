import BlockBuffer.Word

/-!
# Byte strings in place

Bytes are read, overwritten and moved by ranges, as in flat storage.  A range that does not lie
within the storage is a fault.  Elements of one size stand side by side, so the element at an
index spans the range from `index * size` to `(index + 1) * size`.
-/

namespace BlockBuffer

abbrev Bytes := List UInt8

/-- The range of places from `start` up to, and without, `stop`. -/
structure Span where
  start : Nat
  stop : Nat
deriving DecidableEq, Repr

namespace Span

def ofElement (size index : Nat) : Traced Span := do
  let start ← Word.mul index size
  let next ← Word.add index 1
  let stop ← Word.mul next size
  pure { start := start, stop := stop }

end Span

namespace Bytes

def sub (bytes : Bytes) (span : Span) : Bytes :=
  (bytes.drop span.start).take (span.stop - span.start)

def slice? (bytes : Bytes) (span : Span) : Option Bytes :=
  if span.start ≤ span.stop ∧ span.stop ≤ bytes.length then some (bytes.sub span) else none

def slice (bytes : Bytes) (span : Span) : Traced Bytes := do
  Traced.require (span.start ≤ span.stop ∧ span.stop ≤ bytes.length)
    (.range span.start span.stop bytes.length)
  pure (bytes.sub span)

def put (bytes : Bytes) (start : Nat) (source : Bytes) : Bytes :=
  bytes.take start ++ source ++ bytes.drop (start + source.length)

def overwrite (bytes : Bytes) (span : Span) (source : Bytes) : Traced Bytes := do
  Traced.require (span.start ≤ span.stop ∧ span.stop ≤ bytes.length)
    (.range span.start span.stop bytes.length)
  Traced.require (source.length = span.stop - span.start)
    (.mismatch (span.stop - span.start) source.length)
  pure (bytes.put span.start source)

/-- Writes the bytes of a range over those from `dest` on.  The two places may overlap: what is
written is what the range held before. -/
def moveWithin (bytes : Bytes) (span : Span) (dest : Nat) : Traced Bytes := do
  let moved ← bytes.slice span
  Traced.require (dest + moved.length ≤ bytes.length)
    (.range dest (dest + moved.length) bytes.length)
  pure (bytes.put dest moved)

def resize (bytes : Bytes) (length : Nat) : Bytes :=
  bytes.take length ++ List.replicate (length - bytes.length) 0

/-- The whole pieces of `size` bytes, in order. -/
def chunks (size : Nat) (bytes : Bytes) : List Bytes :=
  (List.range (bytes.length / size)).map fun index => (bytes.drop (index * size)).take size

/-!
## Lengths and pieces
-/

theorem length_chunks (size : Nat) (bytes : Bytes) :
    (bytes.chunks size).length = bytes.length / size := by
  simp [chunks]

theorem length_flatten_of_forall {size : Nat} {elements : List Bytes}
    (h : ∀ element ∈ elements, element.length = size) :
    elements.flatten.length = elements.length * size := by
  induction elements with
  | nil => simp
  | cons element rest ih =>
      have hfirst : element.length = size := h element List.mem_cons_self
      have hrest := ih fun other hother => h other (List.mem_cons_of_mem _ hother)
      rw [List.flatten_cons, List.length_append, hfirst, hrest, List.length_cons, Nat.succ_mul]
      exact Nat.add_comm _ _

/-- The pieces of elements side by side are these elements. -/
theorem chunks_flatten {size : Nat} {elements : List Bytes} (hsize : 0 < size)
    (h : ∀ element ∈ elements, element.length = size) :
    chunks size elements.flatten = elements := by
  induction elements with
  | nil => simp [chunks]
  | cons element rest ih =>
      have hfirst : element.length = size := h element List.mem_cons_self
      have hothers : ∀ other ∈ rest, other.length = size :=
        fun other hother => h other (List.mem_cons_of_mem _ hother)
      have hrest := ih hothers
      have hlength := length_flatten_of_forall hothers
      have hcount : (element ++ rest.flatten).length / size = rest.length + 1 := by
        rw [List.length_append, hfirst, hlength, Nat.add_comm, Nat.add_div_right _ hsize,
          Nat.mul_div_cancel _ hsize]
      have hcount' : rest.flatten.length / size = rest.length := by
        rw [hlength, Nat.mul_div_cancel _ hsize]
      unfold chunks at hrest ⊢
      rw [hcount'] at hrest
      rw [List.flatten_cons, hcount, List.range_succ_eq_map, List.map_cons, List.map_map]
      congr 1
      · simp [← hfirst]
      · refine Eq.trans (List.map_congr_left ?_) hrest
        intro index _
        have hskip : (index + 1) * size = element.length + index * size := by
          rw [hfirst, Nat.succ_mul, Nat.add_comm]
        simp only [Function.comp_apply, Nat.succ_eq_add_one, hskip, List.drop_append,
          List.drop_eq_nil_of_le (Nat.le_add_right _ _), List.nil_append,
          Nat.add_sub_cancel_left]

end Bytes

/-- A change of an element in its place: it keeps the number of bytes. -/
structure InPlace where
  edit : Bytes → Bytes
  length_edit : ∀ element, (edit element).length = element.length

namespace InPlace

def xor (mask : UInt8) : InPlace where
  edit element := element.map (· ^^^ mask)
  length_edit _ := List.length_map _

protected def id : InPlace where
  edit element := element
  length_edit _ := rfl

instance : Inhabited InPlace := ⟨InPlace.id⟩

end InPlace
end BlockBuffer
