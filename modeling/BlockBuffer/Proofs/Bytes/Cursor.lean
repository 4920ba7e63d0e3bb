import BlockBuffer.Bytes.Cursor
import BlockBuffer.Proofs.Bytes.Elements
import BlockBuffer.Proofs.DoubleEnded

/-!
# A cursor over elements shows the list of elements

A cursor over elements of one size gives from either end what the list of these elements gives,
and leaves a cursor over the rest.  So no sequence of probes tells the two apart.
-/

namespace BlockBuffer
namespace Cursor

variable {size : Nat} {elements : List Bytes}

def onElements (size : Nat) (elements : List Bytes) : Cursor where
  size := size
  bytes := elements.flatten

theorem ofBytes_flatten (hsize : 0 < size) (h : Bytes.Uniform size elements) :
    ofBytes size elements.flatten = pure (onElements size elements) := by
  have hwhole : elements.flatten.length % size = 0 := by
    rw [h.length_flatten, Nat.mul_mod_left]
  unfold ofBytes
  rw [Traced.require_of_holds (Nat.ne_of_gt hsize), pure_bind, hwhole, Nat.sub_zero,
    List.take_length]
  rfl

/-!
## One item
-/

theorem next_onElements (hsize : 0 < size) (h : Bytes.Uniform size elements) :
    DoubleEnded.next (onElements size elements) =
      (DoubleEnded.next elements).map fun taken => (taken.1, onElements size taken.2) := by
  cases elements with
  | nil => simp [DoubleEnded.next, onElements]
  | cons element rest =>
      have hfirst : element.length = size := h element List.mem_cons_self
      have hsome : ¬ ((onElements size (element :: rest)).bytes.length < size ∨
          (onElements size (element :: rest)).bytes = []) := by
        simp only [onElements, List.flatten_cons, List.length_append, List.append_eq_nil_iff]
        rintro (hshort | ⟨hnil, _⟩)
        · omega
        · have hzero : size = 0 := by rw [← hfirst, hnil, List.length_nil]
          omega
      show (if (onElements size (element :: rest)).bytes.length < size ∨
          (onElements size (element :: rest)).bytes = [] then none else _) = _
      rw [if_neg hsome]
      simp only [onElements, List.flatten_cons]
      rw [← hfirst, List.take_left' rfl, List.drop_left' rfl]
      rfl

theorem nextBack_onElements (hsize : 0 < size) (h : Bytes.Uniform size elements) :
    DoubleEnded.nextBack (onElements size elements) =
      (DoubleEnded.nextBack elements).map fun taken => (taken.1, onElements size taken.2) := by
  rcases List.eq_nil_or_concat' elements with rfl | ⟨front, last, rfl⟩
  · simp [DoubleEnded.nextBack, onElements]
  · have hlast : last.length = size := h last List.mem_concat_self
    have hsome : ¬ ((onElements size (front ++ [last])).bytes.length < size ∨
        (onElements size (front ++ [last])).bytes = []) := by
      simp only [onElements, List.flatten_append, List.flatten_singleton, List.length_append,
        List.append_eq_nil_iff]
      rintro (hshort | ⟨_, hnil⟩)
      · omega
      · have hzero : size = 0 := by rw [← hlast, hnil, List.length_nil]
        omega
    have hkept : (front.flatten ++ last).length - size = front.flatten.length := by
      rw [List.length_append]
      omega
    rw [DoubleEnded.nextBack_concat]
    show (if (onElements size (front ++ [last])).bytes.length < size ∨
        (onElements size (front ++ [last])).bytes = [] then none else _) = _
    rw [if_neg hsome]
    simp only [onElements, List.flatten_append, List.flatten_singleton]
    rw [hkept, List.drop_left' rfl, List.take_left' rfl]
    rfl

theorem remaining_onElements (hsize : 0 < size) (h : Bytes.Uniform size elements) :
    DoubleEnded.remaining (onElements size elements) = elements.length := by
  show elements.flatten.length / size = elements.length
  rw [h.length_flatten, Nat.mul_div_cancel _ hsize]

/-- What is left of a list after an item was taken from either end is a part of it. -/
theorem uniform_rest (h : Bytes.Uniform size elements) {item : Bytes} {rest : List Bytes}
    (htaken : DoubleEnded.next elements = some (item, rest) ∨
      DoubleEnded.nextBack elements = some (item, rest)) : Bytes.Uniform size rest := by
  rcases htaken with hnext | hback
  · cases elements with
    | nil => cases hnext
    | cons element others =>
        cases hnext
        exact fun other hother => h other (List.mem_cons_of_mem _ hother)
  · rcases List.eq_nil_or_concat' elements with rfl | ⟨front, last, rfl⟩
    · cases hback
    · rw [DoubleEnded.nextBack_concat] at hback
      cases hback
      exact fun other hother => h other (List.mem_append_left _ hother)

/-!
## All remaining items
-/

theorem take_onElements (hsize : 0 < size) (count : Nat) (h : Bytes.Uniform size elements) :
    DoubleEnded.take count (onElements size elements) = DoubleEnded.take count elements := by
  induction count generalizing elements with
  | zero => rfl
  | succ count ih =>
      rw [DoubleEnded.take, DoubleEnded.take, next_onElements hsize h]
      cases hnext : DoubleEnded.next elements with
      | none => rfl
      | some taken =>
          rcases taken with ⟨item, rest⟩
          exact congrArg (item :: ·) (ih (uniform_rest h (.inl hnext)))

theorem takeBack_onElements (hsize : 0 < size) (count : Nat)
    (h : Bytes.Uniform size elements) :
    DoubleEnded.takeBack count (onElements size elements) =
      DoubleEnded.takeBack count elements := by
  induction count generalizing elements with
  | zero => rfl
  | succ count ih =>
      rw [DoubleEnded.takeBack, DoubleEnded.takeBack, nextBack_onElements hsize h]
      cases hback : DoubleEnded.nextBack elements with
      | none => rfl
      | some taken =>
          rcases taken with ⟨item, rest⟩
          exact congrArg (item :: ·) (ih (uniform_rest h (.inr hback)))

/-!
## Probes
-/

theorem observe_onElements (hsize : 0 < size) (h : Bytes.Uniform size elements)
    (probe : Probe) :
    ∃ rest, Bytes.Uniform size rest ∧
      (DoubleEnded.observe elements probe).2 = rest ∧
      DoubleEnded.observe (onElements size elements) probe =
        ((DoubleEnded.observe elements probe).1, onElements size rest) := by
  cases probe with
  | next =>
      simp only [DoubleEnded.observe, next_onElements hsize h]
      cases hnext : DoubleEnded.next elements with
      | none => exact ⟨elements, h, rfl, rfl⟩
      | some taken => exact ⟨taken.2, uniform_rest h (.inl hnext), rfl, rfl⟩
  | nextBack =>
      simp only [DoubleEnded.observe, nextBack_onElements hsize h]
      cases hback : DoubleEnded.nextBack elements with
      | none => exact ⟨elements, h, rfl, rfl⟩
      | some taken => exact ⟨taken.2, uniform_rest h (.inr hback), rfl, rfl⟩
  | sizeHint =>
      refine ⟨elements, h, rfl, ?_⟩
      simp only [DoubleEnded.observe, remaining_onElements hsize h]
      rfl
  | length =>
      refine ⟨elements, h, rfl, ?_⟩
      simp only [DoubleEnded.observe, remaining_onElements hsize h]
      rfl
  | forwards =>
      refine ⟨elements, h, rfl, ?_⟩
      simp only [DoubleEnded.observe, remaining_onElements hsize h, take_onElements hsize _ h]
      rfl
  | backwards =>
      refine ⟨elements, h, rfl, ?_⟩
      simp only [DoubleEnded.observe, remaining_onElements hsize h,
        takeBack_onElements hsize _ h]
      rfl

theorem observeAll_onElements (hsize : 0 < size) (h : Bytes.Uniform size elements)
    (probes : List Probe) :
    DoubleEnded.observeAll probes (onElements size elements) =
      DoubleEnded.observeAll probes elements := by
  induction probes generalizing elements with
  | nil => rfl
  | cons probe rest ih =>
      rcases observe_onElements hsize h probe with ⟨left, huniform, hleft, hshown⟩
      simp only [DoubleEnded.observeAll, hshown, hleft]
      rw [ih huniform]

end Cursor
end BlockBuffer
