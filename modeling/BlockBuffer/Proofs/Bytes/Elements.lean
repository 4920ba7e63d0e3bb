import BlockBuffer.ByteBuffer.Insertion
import BlockBuffer.Proofs.Bytes.Gap

/-!
# Elements side by side

Elements of one size that stand side by side are read, written over, put in and taken out by
ranges of bytes.  Each of these acts on the list of elements as the list operation of the same
index does.
-/

namespace BlockBuffer
namespace Bytes

variable {size index : Nat} {elements : List Bytes} {source : Bytes}

theorem overwrite_all {dest : Bytes} (h : source.length = dest.length) :
    dest.overwrite { start := 0, stop := dest.length } source = pure source := by
  have hwidth : source.length = dest.length - 0 := h
  unfold overwrite
  rw [Traced.require_of_holds ⟨Nat.zero_le _, Nat.le_refl _⟩, pure_bind,
    Traced.require_of_holds hwidth, pure_bind]
  simp only [put, List.take_zero, List.nil_append, Nat.zero_add]
  rw [h, List.drop_length, List.append_nil]

def Uniform (size : Nat) (elements : List Bytes) : Prop :=
  ∀ element ∈ elements, element.length = size

namespace Uniform

theorem nil (size : Nat) : Uniform size [] := by
  intro element hmem
  cases hmem

theorem length_flatten (h : Uniform size elements) :
    elements.flatten.length = elements.length * size :=
  length_flatten_of_forall h

theorem append {others : List Bytes} (h : Uniform size elements)
    (hothers : Uniform size others) :
    Uniform size (elements ++ others) := by
  intro element hmem
  rcases List.mem_append.mp hmem with hleft | hright
  · exact h element hleft
  · exact hothers element hright

theorem take (h : Uniform size elements) (count : Nat) : Uniform size (elements.take count) :=
  fun element hmem => h element (List.mem_of_mem_take hmem)

theorem drop (h : Uniform size elements) (count : Nat) : Uniform size (elements.drop count) :=
  fun element hmem => h element (List.mem_of_mem_drop hmem)

theorem map_edit (h : Uniform size elements) (change : InPlace) :
    Uniform size (elements.map change.edit) := by
  intro element hmem
  rcases List.mem_map.mp hmem with ⟨old, hold, rfl⟩
  rw [change.length_edit]
  exact h old hold

theorem insertIdx (h : Uniform size elements) (hsource : source.length = size)
    (hindex : index ≤ elements.length) : Uniform size (elements.insertIdx index source) := by
  intro element hmem
  rcases (List.mem_insertIdx hindex).mp hmem with rfl | hold
  · exact hsource
  · exact h element hold

theorem eraseIdx (h : Uniform size elements) (index : Nat) :
    Uniform size (elements.eraseIdx index) :=
  fun element hmem => h element (List.mem_of_mem_eraseIdx hmem)

theorem set (h : Uniform size elements) (hsource : source.length = size) (index : Nat) :
    Uniform size (elements.set index source) := by
  intro element hmem
  rcases List.mem_or_eq_of_mem_set hmem with hold | rfl
  · exact h element hold
  · exact hsource

/-!
## Cutting at an element
-/

theorem flatten_take (h : Uniform size elements) (count : Nat) :
    (elements.take count).flatten = elements.flatten.take (count * size) := by
  induction elements generalizing count with
  | nil => simp
  | cons element rest ih =>
      have hfirst : element.length = size := h element List.mem_cons_self
      have hrest : Uniform size rest := fun other hother =>
        h other (List.mem_cons_of_mem _ hother)
      cases count with
      | zero => simp
      | succ count =>
          have hcut : (count + 1) * size = element.length + count * size := by
            rw [hfirst, Nat.succ_mul, Nat.add_comm]
          rw [List.take_succ_cons, List.flatten_cons, ih hrest, List.flatten_cons, hcut,
            List.take_length_add_append]

theorem flatten_drop (h : Uniform size elements) (count : Nat) :
    (elements.drop count).flatten = elements.flatten.drop (count * size) := by
  induction elements generalizing count with
  | nil => simp
  | cons element rest ih =>
      have hfirst : element.length = size := h element List.mem_cons_self
      have hrest : Uniform size rest := fun other hother =>
        h other (List.mem_cons_of_mem _ hother)
      cases count with
      | zero => simp
      | succ count =>
          have hcut : (count + 1) * size = element.length + count * size := by
            rw [hfirst, Nat.succ_mul, Nat.add_comm]
          rw [List.drop_succ_cons, ih hrest, List.flatten_cons, hcut,
            List.drop_length_add_append]

theorem place_le (h : Uniform size elements) (hindex : index < elements.length) :
    index * size ≤ (index + 1) * size ∧ (index + 1) * size ≤ elements.flatten.length := by
  rw [h.length_flatten]
  exact ⟨Nat.mul_le_mul_right size (Nat.le_succ index), Nat.mul_le_mul_right size hindex⟩

theorem sub_flatten (h : Uniform size elements) (hindex : index < elements.length) :
    sub elements.flatten { start := index * size, stop := (index + 1) * size } =
      elements[index] := by
  have hwidth : (index + 1) * size - index * size = 1 * size := by
    rw [Nat.succ_mul, Nat.add_sub_cancel_left, Nat.one_mul]
  simp only [sub]
  rw [← h.flatten_drop, hwidth, ← (h.drop index).flatten_take,
    List.drop_eq_getElem_cons hindex, List.take_succ_cons, List.take_zero, List.flatten_cons,
    List.flatten_nil, List.append_nil]

/-!
## Reading and writing one element
-/

theorem slice_flatten (h : Uniform size elements) (hindex : index < elements.length) :
    slice elements.flatten { start := index * size, stop := (index + 1) * size } =
      pure elements[index] := by
  unfold slice
  rw [Traced.require_of_holds (h.place_le hindex), pure_bind, h.sub_flatten hindex]

theorem slice?_flatten (h : Uniform size elements) (hindex : index < elements.length) :
    slice? elements.flatten { start := index * size, stop := (index + 1) * size } =
      some elements[index] := by
  unfold slice?
  rw [if_pos (h.place_le hindex), h.sub_flatten hindex]

theorem put_flatten (h : Uniform size elements) (hindex : index < elements.length)
    (hsource : source.length = size) :
    put elements.flatten (index * size) source = (elements.set index source).flatten := by
  have hnext : index * size + source.length = (index + 1) * size := by
    rw [hsource, Nat.succ_mul]
  unfold put
  rw [List.set_eq_take_append_cons_drop, if_pos hindex, List.flatten_append, List.flatten_cons,
    h.flatten_take, h.flatten_drop, hnext, List.append_assoc]

theorem overwrite_flatten (h : Uniform size elements) (hindex : index < elements.length)
    (hsource : source.length = size) :
    overwrite elements.flatten { start := index * size, stop := (index + 1) * size } source =
      pure (elements.set index source).flatten := by
  have hwidth : source.length = (index + 1) * size - index * size := by
    rw [hsource, Nat.succ_mul, Nat.add_sub_cancel_left]
  unfold overwrite
  rw [Traced.require_of_holds (h.place_le hindex), pure_bind, Traced.require_of_holds hwidth,
    pure_bind, h.put_flatten hindex hsource]

/-!
## Putting an element in and taking one out
-/

theorem insertIdx_eq_append {α : Type} {items : List α} {value : α}
    (hindex : index ≤ items.length) :
    items.insertIdx index value = items.take index ++ value :: items.drop index := by
  induction items generalizing index with
  | nil =>
      have hzero : index = 0 := Nat.le_zero.mp hindex
      rw [hzero]
      rfl
  | cons item rest ih =>
      cases index with
      | zero => rfl
      | succ index =>
          rw [List.insertIdx_succ_cons, ih (Nat.le_of_succ_le_succ hindex),
            List.take_succ_cons, List.drop_succ_cons, List.cons_append]

theorem insertBytes_flatten (h : Uniform size elements) (hsize : 0 < size)
    (hindex : index ≤ elements.length) (hsource : source.length = size)
    (hfits : (elements.length + 1) * size < Word.limit) :
    ByteBuffer.insertBytes elements.flatten size index elements.length source =
      pure (elements.insertIdx index source).flatten := by
  have hplace : (index + 1) * size < Word.limit := by
    obtain ⟨hstart, hnext, hlast⟩ := place_bounds size hindex
    omega
  have hfilled := overwrite_openGap hsize h.length_flatten hindex hfits hsource
  unfold ByteBuffer.insertBytes
  rw [Span.ofElement_of_lt hsize hplace]
  simp only [pure_bind]
  rw [hfilled, insertIdx_eq_append hindex, List.flatten_append, List.flatten_cons,
    h.flatten_take, h.flatten_drop, List.append_assoc]

theorem closeGap_flatten (h : Uniform size elements) (hsize : 0 < size)
    (hindex : index < elements.length) (hfits : elements.length * size < Word.limit) :
    closeGap size index elements.length elements.flatten =
      pure (elements.eraseIdx index).flatten := by
  rw [closeGap_eq hsize h.length_flatten hindex hfits, List.eraseIdx_eq_take_drop_succ,
    List.flatten_append, h.flatten_take, h.flatten_drop]

end Uniform
end Bytes
end BlockBuffer
