import BlockBuffer.Bytes.Gap
import BlockBuffer.Proofs.Arithmetic

/-!
# Opening and closing a gap

Among `length * size` bytes the bytes before the element at `index` never move.  Opening a gap
there moves all others up by one element, closing it moves those after the element down.  As
long as the bytes with one more element are a word, no step of either leaves its range.
-/

namespace BlockBuffer
namespace Bytes

variable {bytes : Bytes} {size index length : Nat}

/-- The bounds of all places that an element at `index` and its neighbours take. -/
theorem place_bounds (size : Nat) (hindex : index ≤ length) :
    index * size ≤ length * size ∧ (index + 1) * size = index * size + size ∧
      (length + 1) * size = length * size + size :=
  ⟨Nat.mul_le_mul_right size hindex, Nat.succ_mul index size, Nat.succ_mul length size⟩

theorem length_front (hbytes : bytes.length = length * size) (hindex : index ≤ length) :
    (bytes.take (index * size)).length = index * size := by
  rw [List.length_take, hbytes]
  exact Nat.min_eq_left (Nat.mul_le_mul_right size hindex)

theorem resize_of_le {extended : Nat} (h : bytes.length ≤ extended) :
    bytes.resize extended = bytes ++ List.replicate (extended - bytes.length) 0 := by
  unfold resize
  rw [List.take_of_length_le h]

theorem openGap_eq (hsize : 0 < size) (hbytes : bytes.length = length * size)
    (hindex : index ≤ length) (hfits : (length + 1) * size < Word.limit) :
    bytes.openGap size index length =
      pure ((bytes ++ List.replicate size 0).take ((index + 1) * size) ++
        bytes.drop (index * size)) := by
  obtain ⟨hstart, hnext, hlast⟩ := place_bounds size hindex
  have hsucc : index + 1 < Word.limit := by
    have hle : index + 1 ≤ (index + 1) * size := Nat.le_mul_of_pos_right (index + 1) hsize
    omega
  have hextended : bytes.resize (length * size + size) = bytes ++ List.replicate size 0 := by
    rw [resize_of_le (by omega), hbytes, Nat.add_sub_cancel_left]
  have hmoved : (bytes ++ List.replicate size (0 : UInt8)).sub
      { start := index * size, stop := length * size } = bytes.drop (index * size) := by
    have hle : index * size ≤ bytes.length := by omega
    have hcount : length * size - index * size = (bytes.drop (index * size)).length := by
      rw [List.length_drop, hbytes]
    simp only [sub]
    rw [List.drop_append_of_le_length hle, hcount, List.take_left']
    rfl
  unfold openGap
  rw [Word.mul_of_lt (by omega), pure_bind, Word.add_of_lt (by omega), pure_bind,
    Word.mul_of_lt (by omega), pure_bind, Word.add_of_lt hsucc, pure_bind,
    Word.mul_of_lt (by omega), pure_bind, hextended]
  unfold moveWithin slice
  rw [Traced.require_of_holds
    (by simp only [List.length_append, List.length_replicate]; omega),
    pure_bind, pure_bind, hmoved,
    Traced.require_of_holds (by
      simp only [List.length_append, List.length_replicate, List.length_drop]
      omega), pure_bind]
  -- The moved bytes reach to the end, so nothing of the extended bytes is left behind them.
  have hnone : (bytes ++ List.replicate size (0 : UInt8)).drop
      ((index + 1) * size + (bytes.drop (index * size)).length) = [] := by
    apply List.drop_eq_nil_of_le
    simp only [List.length_append, List.length_replicate, List.length_drop]
    omega
  unfold put
  rw [hnone, List.append_nil]

theorem closeGap_eq (hsize : 0 < size) (hbytes : bytes.length = length * size)
    (hindex : index < length) (hfits : length * size < Word.limit) :
    bytes.closeGap size index length =
      pure (bytes.take (index * size) ++ bytes.drop ((index + 1) * size)) := by
  obtain ⟨hstart, hnext, _⟩ := place_bounds size (Nat.le_of_lt hindex)
  have hstop : (index + 1) * size ≤ length * size := Nat.mul_le_mul_right size hindex
  have hsucc : index + 1 < Word.limit := by
    have hle : index + 1 ≤ (index + 1) * size := Nat.le_mul_of_pos_right (index + 1) hsize
    omega
  have hmoved : bytes.sub { start := (index + 1) * size, stop := length * size } =
      bytes.drop ((index + 1) * size) := by
    have hcount : length * size - (index + 1) * size =
        (bytes.drop ((index + 1) * size)).length := by
      rw [List.length_drop, hbytes]
    simp only [sub]
    rw [hcount, List.take_length]
  unfold closeGap
  rw [Word.mul_of_lt hfits, pure_bind, Word.add_of_lt hsucc, pure_bind,
    Word.mul_of_lt (by omega), pure_bind, Word.mul_of_lt (by omega), pure_bind]
  unfold moveWithin slice
  rw [Traced.require_of_holds ⟨hstop, Nat.le_of_eq hbytes.symm⟩, pure_bind, pure_bind, hmoved,
    Traced.require_of_holds (by simp only [List.length_drop]; omega), pure_bind, pure_bind,
    Word.sub_of_le (by omega), pure_bind]
  -- What is kept ends exactly with the moved bytes.
  have hkept : (bytes.take (index * size) ++ bytes.drop ((index + 1) * size)).length =
      length * size - size := by
    simp only [List.length_append, List.length_take, List.length_drop]
    omega
  unfold put
  rw [← hkept, List.take_left']
  rfl

/-!
## Filling a gap
-/

theorem overwrite_middle (front back : Bytes) {middle source : Bytes}
    (hsource : source.length = middle.length) :
    (front ++ middle ++ back).overwrite
        { start := front.length, stop := front.length + middle.length } source =
      pure (front ++ source ++ back) := by
  have hwidth : source.length = front.length + middle.length - front.length := by
    rw [hsource, Nat.add_sub_cancel_left]
  have hstop : front.length + middle.length ≤ (front ++ middle ++ back).length := by
    rw [List.length_append, List.length_append]
    exact Nat.le_add_right _ _
  have hbefore : (front ++ middle ++ back).take front.length = front := by
    rw [List.append_assoc, List.take_left]
  have hafter : (front ++ middle ++ back).drop (front.length + source.length) = back := by
    rw [hsource, ← List.length_append, List.drop_left]
  unfold overwrite
  rw [Traced.require_of_holds ⟨Nat.le_add_right _ _, hstop⟩, pure_bind,
    Traced.require_of_holds hwidth, pure_bind]
  unfold put
  rw [hbefore, hafter]

/-- What an open gap holds does not matter, so it is only said to be one element wide. -/
theorem exists_openGap_eq (hsize : 0 < size) (hbytes : bytes.length = length * size)
    (hindex : index ≤ length) (hfits : (length + 1) * size < Word.limit) :
    ∃ gap : Bytes, gap.length = size ∧
      bytes.openGap size index length =
        pure (bytes.take (index * size) ++ gap ++ bytes.drop (index * size)) := by
  obtain ⟨hstart, hnext, _⟩ := place_bounds size hindex
  have hle : index * size ≤ bytes.length := by omega
  refine ⟨((bytes ++ List.replicate size 0).drop (index * size)).take size, ?_, ?_⟩
  · simp only [List.length_take, List.length_drop, List.length_append, List.length_replicate]
    omega
  · rw [openGap_eq hsize hbytes hindex hfits, hnext, List.take_add,
      List.take_append_of_le_length hle]

theorem length_filled {element : Bytes} (hbytes : bytes.length = length * size)
    (hindex : index ≤ length) (helement : element.length = size) :
    (bytes.take (index * size) ++ element ++ bytes.drop (index * size)).length =
      (length + 1) * size := by
  obtain ⟨hstart, _, hlast⟩ := place_bounds size hindex
  simp only [List.length_append, List.length_take, List.length_drop]
  omega

theorem overwrite_gap {gap source : Bytes} (hbytes : bytes.length = length * size)
    (hindex : index ≤ length) (hgap : gap.length = size) (hsource : source.length = size) :
    overwrite (bytes.take (index * size) ++ gap ++ bytes.drop (index * size))
        { start := index * size, stop := (index + 1) * size } source =
      pure (bytes.take (index * size) ++ source ++ bytes.drop (index * size)) := by
  have hfilled := overwrite_middle (bytes.take (index * size)) (bytes.drop (index * size))
    (hsource.trans hgap.symm)
  rwa [length_front hbytes hindex, hgap, ← Nat.succ_mul] at hfilled

theorem overwrite_openGap {source : Bytes} (hsize : 0 < size)
    (hbytes : bytes.length = length * size) (hindex : index ≤ length)
    (hfits : (length + 1) * size < Word.limit) (hsource : source.length = size) :
    (do
      let opened ← bytes.openGap size index length
      opened.overwrite { start := index * size, stop := (index + 1) * size } source) =
      pure (bytes.take (index * size) ++ source ++ bytes.drop (index * size)) := by
  rcases exists_openGap_eq hsize hbytes hindex hfits with ⟨gap, hgap, hopened⟩
  rw [hopened, pure_bind]
  exact overwrite_gap hbytes hindex hgap hsource

end Bytes
end BlockBuffer
