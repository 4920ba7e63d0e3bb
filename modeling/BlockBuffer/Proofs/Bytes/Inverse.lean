import BlockBuffer.Proofs.Bytes.Gap

/-!
# Gaps that undo each other

Opening a gap and closing it are inverse to each other, up to the element in the gap.  Closing
a gap that was opened and filled gives back the bytes, and so does opening one where an element
was taken out and filling it with that element.
-/

namespace BlockBuffer
namespace Bytes

variable {bytes : Bytes} {size index length : Nat}

/-!
## Ranges up to either end
-/

theorem sub_zero (bytes : Bytes) (stop : Nat) :
    bytes.sub { start := 0, stop := stop } = bytes.take stop :=
  rfl

theorem sub_of_length_le {start stop : Nat} (h : bytes.length ≤ stop) :
    bytes.sub { start := start, stop := stop } = bytes.drop start := by
  simp only [sub]
  apply List.take_of_length_le
  rw [List.length_drop]
  exact Nat.sub_le_sub_right h start

theorem take_append_sub {start stop : Nat} (h : start ≤ stop) :
    bytes.take start ++ bytes.sub { start := start, stop := stop } = bytes.take stop := by
  simp only [sub]
  rw [← List.take_add, Nat.add_sub_of_le h]

/-!
## Opening
-/

/-- Whether `opened` are the bytes with a gap at `index`, for one more element among `length`
of `size` bytes.  Any element fills the gap, and closing it again leaves nothing behind. -/
structure OpensGap (size index length : Nat) (bytes opened : Bytes) : Prop where
  length_eq : opened.length = (length + 1) * size
  below_eq : opened.sub { start := 0, stop := index * size } =
    bytes.sub { start := 0, stop := index * size }
  above_eq : opened.sub { start := (index + 1) * size, stop := (length + 1) * size } =
    bytes.sub { start := index * size, stop := length * size }
  filled_eq : ∀ source : Bytes, source.length = size →
    opened.overwrite { start := index * size, stop := (index + 1) * size } source =
      pure (bytes.sub { start := 0, stop := index * size } ++ source ++
        bytes.sub { start := index * size, stop := length * size })
  closed_eq : ∀ source : Bytes, source.length = size →
    (do
      let filled ←
        opened.overwrite { start := index * size, stop := (index + 1) * size } source
      filled.closeGap size index (length + 1)) = pure bytes

theorem closeGap_append {front element back : Bytes} (hsize : 0 < size)
    (hfront : front.length = index * size) (helement : element.length = size)
    (hbytes : (front ++ element ++ back).length = length * size) (hindex : index < length)
    (hfits : length * size < Word.limit) :
    (front ++ element ++ back).closeGap size index length = pure (front ++ back) := by
  have hplace : (front ++ element).length = (index + 1) * size := by
    rw [List.length_append, hfront, helement, Nat.succ_mul]
  have hbefore : (front ++ element ++ back).take (index * size) = front := by
    rw [List.append_assoc, List.take_left' hfront]
  have hafter : (front ++ element ++ back).drop ((index + 1) * size) = back :=
    List.drop_left' hplace
  rw [closeGap_eq hsize hbytes hindex hfits, hbefore, hafter]

theorem exists_opensGap (hsize : 0 < size) (hbytes : bytes.length = length * size)
    (hindex : index ≤ length) (hfits : (length + 1) * size < Word.limit) :
    ∃ opened, bytes.openGap size index length = pure opened ∧
      OpensGap size index length bytes opened := by
  rcases exists_openGap_eq hsize hbytes hindex hfits with ⟨gap, hgap, hopened⟩
  have hfront := length_front hbytes hindex
  have hback : bytes.sub { start := index * size, stop := length * size } =
      bytes.drop (index * size) :=
    sub_of_length_le (Nat.le_of_eq hbytes)
  have hlength := length_filled hbytes hindex hgap
  refine ⟨_, hopened, ?_⟩
  constructor
  case length_eq => exact hlength
  case below_eq =>
    rw [sub_zero, sub_zero, List.append_assoc, List.take_left' hfront]
  case above_eq =>
    have hplace : (bytes.take (index * size) ++ gap).length = (index + 1) * size := by
      rw [List.length_append, hfront, hgap, Nat.succ_mul]
    rw [sub_of_length_le (Nat.le_of_eq hlength), hback, List.drop_left' hplace]
  case filled_eq =>
    intro source hsource
    rw [hback, sub_zero]
    exact overwrite_gap hbytes hindex hgap hsource
  case closed_eq =>
    intro source hsource
    rw [overwrite_gap hbytes hindex hgap hsource, pure_bind,
      closeGap_append hsize hfront hsource (length_filled hbytes hindex hsource)
        (Nat.lt_succ_of_le hindex) hfits,
      List.take_append_drop]

/-!
## Closing
-/

/-- Whether `closed` are the bytes without the element at `index`, among `length` elements of
`size` bytes.  Opening a gap there and filling it with the element brings it back. -/
structure ClosesGap (size index length : Nat) (bytes closed : Bytes) : Prop where
  length_eq : closed.length = (length - 1) * size
  cut_eq : closed = bytes.sub { start := 0, stop := index * size } ++
    bytes.sub { start := (index + 1) * size, stop := length * size }
  restored_eq :
    (do
      let opened ← closed.openGap size index (length - 1)
      opened.overwrite { start := index * size, stop := (index + 1) * size }
        (bytes.sub { start := index * size, stop := (index + 1) * size })) = pure bytes

theorem exists_closesGap (hsize : 0 < size) (hbytes : bytes.length = length * size)
    (hindex : index < length) (hfits : length * size < Word.limit) :
    ∃ closed, bytes.closeGap size index length = pure closed ∧
      ClosesGap size index length bytes closed := by
  obtain ⟨others, rfl⟩ : ∃ others, length = others + 1 :=
    Nat.exists_eq_succ_of_ne_zero (Nat.ne_of_gt (Nat.lt_of_le_of_lt (Nat.zero_le _) hindex))
  have hle : index ≤ others := Nat.le_of_lt_succ hindex
  obtain ⟨hstart, hnext, hlast⟩ := place_bounds size hle
  have hfront := length_front hbytes (Nat.le_of_lt hindex)
  have hlength : (bytes.take (index * size) ++ bytes.drop ((index + 1) * size)).length =
      others * size := by
    simp only [List.length_append, List.length_take, List.length_drop]
    omega
  have hplace : index * size ≤ (index + 1) * size :=
    Nat.mul_le_mul_right size (Nat.le_succ index)
  have helement :
      (bytes.sub { start := index * size, stop := (index + 1) * size }).length = size := by
    simp only [sub, List.length_take, List.length_drop]
    omega
  refine ⟨_, closeGap_eq hsize hbytes hindex hfits, ?_⟩
  constructor
  case length_eq => exact hlength
  case cut_eq => rw [sub_zero, sub_of_length_le (Nat.le_of_eq hbytes)]
  case restored_eq =>
    have hbefore : (bytes.take (index * size) ++ bytes.drop ((index + 1) * size)).take
        (index * size) = bytes.take (index * size) := List.take_left' hfront
    have hafter : (bytes.take (index * size) ++ bytes.drop ((index + 1) * size)).drop
        (index * size) = bytes.drop ((index + 1) * size) := List.drop_left' hfront
    rw [Nat.add_sub_cancel, overwrite_openGap hsize hlength hle hfits helement, hbefore,
      hafter, take_append_sub hplace, List.take_append_drop]

/-!
## Both
-/

/-- Opening and closing a gap are shifts by one element, each of which undoes the other. -/
theorem gaps_are_inverse_shifts (hsize : 0 < size) (hbytes : bytes.length = length * size) :
    (∀ index ≤ length, (length + 1) * size < UInt64.size →
      ∃ opened, bytes.openGap size index length = pure opened ∧
        OpensGap size index length bytes opened) ∧
    ∀ index < length, length * size < UInt64.size →
      ∃ closed, bytes.closeGap size index length = pure closed ∧
        ClosesGap size index length bytes closed := by
  constructor
  · intro index hindex hfits
    exact exists_opensGap hsize hbytes hindex hfits
  · intro index hindex hfits
    exact exists_closesGap hsize hbytes hindex hfits

theorem gaps_are_inverse_shifts_in_the_middle :
    let bytes : Bytes := [1, 2, 3, 4, 5, 6]
    0 < 2 ∧ bytes.length = 3 * 2 ∧ 1 ≤ 3 ∧ (3 + 1) * 2 < UInt64.size ∧ 1 < 3 ∧
      3 * 2 < UInt64.size ∧
      (∃ opened, bytes.openGap 2 1 3 = pure opened ∧ OpensGap 2 1 3 bytes opened) ∧
      (∃ closed, bytes.closeGap 2 1 3 = pure closed ∧ ClosesGap 2 1 3 bytes closed) ∧
      (bytes.openGap 2 1 3).value = [1, 2, 3, 4, 3, 4, 5, 6] ∧
      (bytes.closeGap 2 1 3).value = [1, 2, 5, 6] := by
  intro bytes
  have hbytes : bytes.length = 3 * 2 := rfl
  have hopened : (3 + 1) * 2 < UInt64.size := by decide
  have hclosed : 3 * 2 < UInt64.size := by decide
  have hshifts := gaps_are_inverse_shifts Nat.zero_lt_two hbytes
  exact ⟨Nat.zero_lt_two, hbytes, by decide, hopened, by decide, hclosed,
    hshifts.left 1 (by decide) hopened, hshifts.right 1 (by decide) hclosed,
      by decide, by decide⟩

end Bytes
end BlockBuffer
