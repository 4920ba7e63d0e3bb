import BlockBuffer.ByteBuffer.Element
import BlockBuffer.Proofs.Bytes.Elements
import BlockBuffer.Proofs.Reservation.Backing

/-!
# A byte buffer that holds a list of elements

Once it is initialized, a byte buffer is determined by its reservation and by the list of its
elements: its array has room for exactly the reserved slots.  As long as the reservation is
valid and counts exactly these elements, each access to one element is the access to the list
at the same index, and meets no fault.
-/

namespace BlockBuffer

/-- A valid reservation for exactly these elements, all of its element size. -/
structure Reservation.Counts (r : Reservation) (elements : List Bytes) : Prop where
  valid : r.Valid
  length_eq : r.header.length = elements.length
  uniform : Bytes.Uniform r.header.elementSize elements

namespace Reservation.Counts

variable {r : Reservation} {elements others : List Bytes}

theorem length_le_reserved (h : r.Counts elements) : elements.length ≤ r.header.reserved := by
  rw [← h.length_eq]
  exact h.valid.length_le

theorem length_succ_lt_limit (h : r.Counts elements) : elements.length + 1 < Word.limit := by
  rw [← h.length_eq]
  exact h.valid.length_succ_lt_limit

theorem withSlots (h : r.Counts elements) {slots : Nat} (hvalid : (r.withSlots slots).Valid) :
    (r.withSlots slots).Counts elements where
  valid := hvalid
  length_eq := h.length_eq
  uniform := h.uniform

theorem exchange (h : r.Counts elements) (hlength : others.length = elements.length)
    (huniform : Bytes.Uniform r.header.elementSize others) : r.Counts others where
  valid := h.valid
  length_eq := by rw [hlength, h.length_eq]
  uniform := huniform

theorem place_lt_limit (h : r.Counts elements) {index : Nat}
    (hindex : index < elements.length) :
    (index + 1) * r.header.elementSize < Word.limit := by
  apply h.valid.span_lt_limit
  have hle := h.length_le_reserved
  omega

end Reservation.Counts

namespace ByteBuffer

/-- The buffer of these elements with this reservation, and with room for all reserved slots.
-/
def holding (r : Reservation) (elements : List Bytes) : ByteBuffer where
  config := r.config
  reservation := some r
  bytes := elements.flatten
  capacity := r.header.reserved * r.header.elementSize

variable {r : Reservation} {elements : List Bytes} {index : Nat}

@[simp] theorem header_holding : (holding r elements).header = r.header := rfl

@[simp] theorem bytes_holding : (holding r elements).bytes = elements.flatten := rfl

theorem initialized_holding : (holding r elements).initialized = .ok r := rfl

theorem elementSize_holding : (holding r elements).elementSize = r.header.elementSize := rfl

theorem length_holding (h : r.Counts elements) :
    (holding r elements).length = elements.length :=
  h.length_eq

theorem elements_holding (h : r.Counts elements) : (holding r elements).elements = elements :=
  Bytes.chunks_flatten h.valid.elementSize_pos h.uniform

/-- Where nothing is reserved there is no room. -/
theorem init_of_create {buffer : ByteBuffer} {elementSize : Nat}
    (h : Reservation.create elementSize buffer.config = .ok r) :
    buffer.init elementSize = (do
      Traced.emit (.ready elementSize)
      pure { result := .ok (), state := holding r [] }) := by
  rcases Reservation.of_create h with ⟨_, hconfig, hheader⟩
  have hroom : r.header.reserved * r.header.elementSize = 0 := by
    rw [hheader]
    exact Nat.zero_mul _
  unfold init holding
  rw [h, hroom, hconfig]
  rfl

/-!
## The array behind it
-/

theorem extent_holding (h : r.Counts elements) :
    (holding r elements).extent =
      .ofSlots r.header.elementSize elements.length r.header.reserved := by
  unfold extent
  rw [bytes_holding, h.uniform.length_flatten]
  rfl

theorem backs_slots (h : r.Counts elements) (count : Nat) :
    (holding r elements).slots.Backs r.header.elementSize count
      (.ofSlots r.header.elementSize count) :=
  Slots.backs_ofBytes h.valid.elementSize_pos count

theorem growFor_slots (h : r.Counts elements) (limit length : Nat) :
    (holding r elements).slots.growFor limit r length (holding r elements).extent =
      Attempt.ofResult r (.ofSlots r.header.elementSize elements.length) <$>
        r.ensure limit length := by
  rw [extent_holding h]
  exact Slots.growFor_eq (backs_slots h _) h.length_le_reserved limit length

theorem reserve_slots (h : r.Counts elements) (limit amount : Nat) :
    (holding r elements).slots.reserve limit r amount (holding r elements).extent =
      Attempt.ofResult r (.ofSlots r.header.elementSize elements.length) <$>
        r.reserve limit amount := by
  rw [extent_holding h]
  exact Slots.reserve_eq (backs_slots h _) h.length_le_reserved limit amount

theorem compact_slots (h : r.Counts elements) :
    (holding r elements).slots.compact r (holding r elements).extent =
      Slots.paired (.ofSlots r.header.elementSize elements.length) <$> r.compact := by
  rw [extent_holding h, ← h.length_eq]
  exact Slots.compact_eq (backs_slots h _) h.valid

theorem settle_slots (h : r.Counts elements) :
    (holding r elements).slots.settle r (holding r elements).extent =
      Slots.paired (.ofSlots r.header.elementSize elements.length) <$> r.settle := by
  rw [extent_holding h, ← h.length_eq]
  exact Slots.settle_eq (backs_slots h _) h.valid

/-- The slots are given back when the elements are gone already. -/
theorem release_slots (h : r.Counts elements) :
    (holding r elements).slots.release r (holding r []).extent =
      Slots.paired (.ofSlots r.header.elementSize 0) <$> r.release := by
  have hextent : (holding r []).extent =
      .ofSlots r.header.elementSize 0 r.header.reserved := by
    unfold extent Extent.ofSlots
    rw [Nat.zero_mul]
    rfl
  rw [hextent]
  exact Slots.release_eq (backs_slots h 0) h.valid

theorem copy_holding (h : r.Counts elements) :
    (holding r elements).copy = pure (holding r elements) := by
  have hfits : r.header.reserved * r.header.elementSize < Word.limit :=
    h.valid.span_lt_limit (Nat.le_refl _)
  have hroom : (holding r elements).bytes.length ≤
      r.header.reserved * r.header.elementSize := by
    rw [bytes_holding, h.uniform.length_flatten]
    exact Nat.mul_le_mul_right _ h.length_le_reserved
  have hmul : Word.mul (holding r elements).reserved (holding r elements).elementSize =
      pure (r.header.reserved * r.header.elementSize) := Word.mul_of_lt hfits
  unfold copy
  rw [hmul, pure_bind, Traced.require_of_holds hroom, pure_bind]
  rfl

/-!
## Looking at an element and changing it in its place
-/

theorem ofElement_of_lt (h : r.Counts elements) (hindex : index < elements.length) :
    Span.ofElement r.header.elementSize index =
      pure { start := index * r.header.elementSize
             stop := (index + 1) * r.header.elementSize } :=
  Span.ofElement_of_lt h.valid.elementSize_pos (h.place_lt_limit hindex)

theorem get_holding (h : r.Counts elements) (index : Nat) :
    (holding r elements).get index = pure elements[index]? := by
  unfold get
  rw [length_holding h]
  rcases Nat.lt_or_ge index elements.length with hindex | hindex
  · rw [if_neg (Nat.not_le_of_lt hindex), elementSize_holding, ofElement_of_lt h hindex,
      pure_bind, bytes_holding, h.uniform.slice?_flatten hindex,
      List.getElem?_eq_getElem hindex]
  · rw [if_pos hindex, List.getElem?_eq_none hindex]

theorem modify_holding (h : r.Counts elements) (index : Nat) (change : InPlace) :
    (holding r elements).modify index change =
      match elements[index]? with
      | none => pure { result := none, state := holding r elements }
      | some element =>
          pure { result := some (change.edit element),
                 state := holding r (elements.set index (change.edit element)) } := by
  unfold modify
  rw [length_holding h]
  rcases Nat.lt_or_ge index elements.length with hindex | hindex
  · have hsize : (change.edit elements[index]).length = r.header.elementSize := by
      rw [change.length_edit]
      exact h.uniform _ (List.getElem_mem hindex)
    rw [if_neg (Nat.not_le_of_lt hindex), elementSize_holding, ofElement_of_lt h hindex,
      pure_bind, bytes_holding, h.uniform.slice?_flatten hindex,
      List.getElem?_eq_getElem hindex]
    dsimp only
    rw [h.uniform.put_flatten hindex hsize]
    rfl
  · rw [if_pos hindex, List.getElem?_eq_none hindex]

/-!
## Checks
-/

theorem checkElement_of_lt (h : r.Counts elements) (hindex : index < elements.length) :
    (holding r elements).checkElement index = .ok r := by
  unfold checkElement Header.checkIndex
  rw [initialized_holding]
  simp only [bind, Except.bind, h.length_eq]
  rw [if_neg (Nat.not_le_of_lt hindex)]
  rfl

theorem checkElement_of_le (h : r.Counts elements) (hindex : elements.length ≤ index) :
    (holding r elements).checkElement index =
      .error (.indexOutOfBounds index elements.length) := by
  unfold checkElement Header.checkIndex
  rw [initialized_holding]
  simp only [bind, Except.bind, h.length_eq]
  rw [if_pos hindex]

theorem checkCopy_of_lt (h : r.Counts elements) (hindex : index < elements.length)
    (size : Nat) :
    (holding r elements).checkCopy index size =
      if size = r.header.elementSize then .ok r
      else .error (.sizeMismatch r.header.elementSize size) := by
  unfold checkCopy Header.checkSize
  rw [checkElement_of_lt h hindex]
  by_cases hsize : size = r.header.elementSize
  · rw [if_pos hsize]
    simp only [bind, Except.bind, if_pos hsize]
    rfl
  · rw [if_neg hsize]
    simp only [bind, Except.bind, if_neg hsize]

theorem checkCopy_of_le (h : r.Counts elements) (hindex : elements.length ≤ index)
    (size : Nat) :
    (holding r elements).checkCopy index size =
      .error (.indexOutOfBounds index elements.length) := by
  unfold checkCopy
  rw [checkElement_of_le h hindex]
  rfl

/-!
## Copying an element out and writing over it
-/

theorem deliver_holding (h : r.Counts elements) (hindex : index < elements.length)
    {dest : Bytes} (hdest : dest.length = r.header.elementSize) :
    (holding r elements).deliver r.header.elementSize index dest = pure elements[index] := by
  have hsize : elements[index].length = dest.length := by
    rw [hdest]
    exact h.uniform _ (List.getElem_mem hindex)
  unfold deliver
  rw [ofElement_of_lt h hindex, pure_bind, bytes_holding, h.uniform.slice_flatten hindex,
    pure_bind, Bytes.overwrite_all hsize]

theorem copyTo_of_fits (h : r.Counts elements) (hindex : index < elements.length)
    {dest : Bytes} (hdest : dest.length = r.header.elementSize) :
    (holding r elements).copyTo index dest =
      pure { result := { result := .ok (), dest := some elements[index] },
             state := holding r elements } := by
  unfold copyTo
  rw [checkCopy_of_lt h hindex, if_pos hdest]
  dsimp only
  rw [deliver_holding h hindex hdest, pure_bind]

theorem copyFrom_of_fits (h : r.Counts elements) (hindex : index < elements.length)
    {source : Bytes} (hsource : source.length = r.header.elementSize) :
    (holding r elements).copyFrom index source =
      pure { result := .ok (), state := holding r (elements.set index source) } := by
  unfold copyFrom
  rw [checkCopy_of_lt h hindex, if_pos hsource]
  dsimp only
  rw [ofElement_of_lt h hindex, pure_bind, bytes_holding,
    h.uniform.overwrite_flatten hindex hsource, pure_bind]
  rfl

theorem copyTo_of_error {buffer : ByteBuffer} {dest : Bytes} {error : BufferError}
    (h : buffer.checkCopy index dest.length = .error error) :
    buffer.copyTo index dest = pure (Delivery.refused error (some dest) buffer) := by
  unfold copyTo
  rw [h]

theorem copyFrom_of_error {buffer : ByteBuffer} {source : Bytes} {error : BufferError}
    (h : buffer.checkCopy index source.length = .error error) :
    buffer.copyFrom index source = pure (.refused error buffer) := by
  unfold copyFrom
  rw [h]

end ByteBuffer
end BlockBuffer
