import BlockBuffer.Proofs.Arithmetic
import BlockBuffer.Reservation.Basic

/-!
# Valid reservations

Between operations a reservation has at least as many slots as elements, accounts for exactly
the bytes of its slots and its header, and keeps below its ceiling as soon as it has a slot at
all.  Every operation changes a reservation in two ways only: in its number of elements and in
its number of slots.
-/

namespace BlockBuffer

theorem Config.exceeds_of_le {config : Config} {small large : Nat} (hle : small ≤ large)
    (h : config.exceeds large = false) : config.exceeds small = false := by
  unfold Config.exceeds at h ⊢
  cases hmax : config.maxBytes with
  | none => rfl
  | some ceiling =>
      rw [hmax] at h
      simp only [Option.any_some, decide_eq_false_iff_not] at h ⊢
      omega

theorem Config.exceeds_eq_false_iff (config : Config) (bytes : Nat) :
    config.exceeds bytes = false ↔ ∀ ceiling ∈ config.maxBytes, bytes ≤ ceiling.toNat := by
  unfold Config.exceeds
  cases config.maxBytes with
  | none => simp
  | some ceiling => simp

def Config.bytesFor (config : Config) (elementSize length : Nat) : Option Nat :=
  if config.recommended length * elementSize + headerSize < Word.limit then
    some (config.recommended length * elementSize + headerSize)
  else none

namespace Reservation

theorem requiredBytes_eq_pure (r : Reservation) (length : Nat) :
    r.requiredBytes length = pure (r.config.bytesFor r.header.elementSize length) := by
  unfold requiredBytes
  rw [Config.capacity_eq_pure, pure_bind, Header.bytesFor_eq]
  rfl

/-!
## The two changes
-/

def withLength (r : Reservation) (length : Nat) : Reservation :=
  { r with header := { r.header with length := length } }

def withSlots (r : Reservation) (slots : Nat) : Reservation :=
  { r with header := { r.header with
                       reserved := slots
                       bytesAllocated := slots * r.header.elementSize + headerSize } }

section Fields

variable (r : Reservation) (length slots : Nat)

@[simp] theorem config_withLength : (r.withLength length).config = r.config := rfl

@[simp] theorem elementSize_withLength :
    (r.withLength length).header.elementSize = r.header.elementSize := rfl

@[simp] theorem length_withLength : (r.withLength length).header.length = length := rfl

@[simp] theorem reserved_withLength :
    (r.withLength length).header.reserved = r.header.reserved := rfl

@[simp] theorem bytesAllocated_withLength :
    (r.withLength length).header.bytesAllocated = r.header.bytesAllocated := rfl

@[simp] theorem config_withSlots : (r.withSlots slots).config = r.config := rfl

@[simp] theorem elementSize_withSlots :
    (r.withSlots slots).header.elementSize = r.header.elementSize := rfl

@[simp] theorem length_withSlots : (r.withSlots slots).header.length = r.header.length := rfl

@[simp] theorem reserved_withSlots : (r.withSlots slots).header.reserved = slots := rfl

@[simp] theorem bytesAllocated_withSlots :
    (r.withSlots slots).header.bytesAllocated =
      slots * r.header.elementSize + headerSize := rfl

theorem setLength_of_le (h : length ≤ r.header.reserved) :
    r.setLength length = pure (r.withLength length) := by
  unfold setLength
  rw [Traced.require_of_holds h, pure_bind]
  rfl

end Fields

/-!
## Validity
-/

/-- What a growth to so many slots must pass before storage is asked for. -/
def Admits (r : Reservation) (slots : Nat) : Prop :=
  slots * r.header.elementSize + headerSize < Word.limit ∧
    r.config.exceeds (slots * r.header.elementSize + headerSize) = false

structure Valid (r : Reservation) : Prop where
  blockSize_ne : r.config.blockSize ≠ 0
  elementSize_pos : 0 < r.header.elementSize
  length_le : r.header.length ≤ r.header.reserved
  bytesAllocated_eq :
    r.header.bytesAllocated = r.header.reserved * r.header.elementSize + headerSize
  fits : r.header.reserved * r.header.elementSize + headerSize < Word.limit
  ceiling : r.header.reserved = 0 ∨ r.Admits r.header.reserved

variable {r : Reservation}

theorem create_eq (elementSize : Nat) (config : Config) :
    create elementSize config =
      if elementSize = 0 then .error (.zeroSize "element_size")
      else if config.blockSize = 0 then .error (.zeroSize "block_size")
      else .ok { header := .unreserved elementSize, config := config } := by
  unfold create Config.validate
  split
  · rfl
  · split
    · rfl
    · rfl

theorem valid_unreserved {elementSize : Nat} {config : Config} (hsize : 0 < elementSize)
    (hblock : config.blockSize ≠ 0) :
    Valid { header := .unreserved elementSize, config := config } where
  blockSize_ne := hblock
  elementSize_pos := hsize
  length_le := Nat.le_refl 0
  bytesAllocated_eq := by simp [Header.unreserved]
  fits := by
    simp only [Header.unreserved, Nat.zero_mul]
    decide
  ceiling := Or.inl rfl

theorem create_of_pos {elementSize : Nat} {config : Config} (hsize : 0 < elementSize)
    (hblock : config.blockSize ≠ 0) :
    create elementSize config =
      .ok { header := .unreserved elementSize, config := config } := by
  rw [create_eq, if_neg (Nat.ne_of_gt hsize), if_neg hblock]

theorem of_create {elementSize : Nat} {config : Config} {fresh : Reservation}
    (h : create elementSize config = .ok fresh) :
    fresh.Valid ∧ fresh.config = config ∧ fresh.header = .unreserved elementSize := by
  rw [create_eq] at h
  split at h
  · cases h
  · rename_i hsize
    split at h
    · cases h
    · rename_i hblock
      cases h
      exact ⟨valid_unreserved (Nat.pos_of_ne_zero hsize) hblock, rfl, rfl⟩

namespace Valid

/-- A valid reservation is determined by all but its bytes. -/
theorem withSlots_reserved (h : r.Valid) : r.withSlots r.header.reserved = r := by
  unfold withSlots
  rw [← h.bytesAllocated_eq]

theorem reserved_lt_limit (h : r.Valid) : r.header.reserved + headerSize < Word.limit := by
  have hle : r.header.reserved ≤ r.header.reserved * r.header.elementSize :=
    Nat.le_mul_of_pos_right _ h.elementSize_pos
  have hfits := h.fits
  omega

theorem length_succ_lt_limit (h : r.Valid) : r.header.length + 1 < Word.limit := by
  have hle := h.length_le
  have hreserved := h.reserved_lt_limit
  unfold headerSize at hreserved
  omega

theorem span_lt_limit (h : r.Valid) {count : Nat} (hcount : count ≤ r.header.reserved) :
    count * r.header.elementSize < Word.limit := by
  have hle : count * r.header.elementSize ≤ r.header.reserved * r.header.elementSize :=
    Nat.mul_le_mul_right _ hcount
  have hfits := h.fits
  omega

theorem withLength (h : r.Valid) {length : Nat} (hle : length ≤ r.header.reserved) :
    (r.withLength length).Valid where
  blockSize_ne := h.blockSize_ne
  elementSize_pos := h.elementSize_pos
  length_le := hle
  bytesAllocated_eq := h.bytesAllocated_eq
  fits := h.fits
  ceiling := h.ceiling

theorem withSlots_of_admits (h : r.Valid) {slots : Nat} (hle : r.header.length ≤ slots)
    (hadmits : r.Admits slots) : (r.withSlots slots).Valid where
  blockSize_ne := h.blockSize_ne
  elementSize_pos := h.elementSize_pos
  length_le := hle
  bytesAllocated_eq := rfl
  fits := hadmits.left
  ceiling := Or.inr hadmits

theorem withSlots_of_le (h : r.Valid) {slots : Nat} (hle : r.header.length ≤ slots)
    (hslots : slots ≤ r.header.reserved) : (r.withSlots slots).Valid := by
  have hbytes : slots * r.header.elementSize + headerSize ≤
      r.header.reserved * r.header.elementSize + headerSize :=
    Nat.add_le_add_right (Nat.mul_le_mul_right _ hslots) headerSize
  rcases h.ceiling with hzero | hadmits
  · have hnone : slots = r.header.reserved := by omega
    rw [hnone, h.withSlots_reserved]
    exact h
  · apply h.withSlots_of_admits hle
    constructor
    · exact Nat.lt_of_le_of_lt hbytes hadmits.left
    · exact Config.exceeds_of_le hbytes hadmits.right

end Valid
end Reservation
end BlockBuffer
