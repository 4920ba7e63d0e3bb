import BlockBuffer.Proofs.Capacity
import Mathlib.Order.Bounds.Defs

/-!
# Capacities as rounded lengths

The capacity formula takes a remainder, adds what is missing and saturates.  In unbounded
numbers that comes to the least number of slots which lies a whole number of blocks above the
least capacity, cut off at the greatest word.  The laws of a closure survive the cut, since the
greatest word is its own capacity.
-/

namespace BlockBuffer

/-- Whether a capacity is the one that the formula promises for a length, in numbers without a
bound.  Blocks of no slots leave the length as it is. -/
structure Config.IsRounded (config : Config) (length capacity : Nat) : Prop where
  short : length ≤ config.minCapacity.toNat → capacity = config.minCapacity.toNat
  unrounded : config.minCapacity.toNat < length → config.blockSize = 0 → capacity = length
  rounded : config.minCapacity.toNat < length → config.blockSize ≠ 0 →
    ∃ least,
      IsLeast {slots | length ≤ slots ∧
        config.blockSize.toNat ∣ slots - config.minCapacity.toNat} least ∧
      capacity = min (UInt64.size - 1) least

namespace Config

/-!
## The least number of slots
-/

variable (config : Config) {length : Nat}

theorem isLeast_add_padding (hblock : config.blockSize ≠ 0)
    (hlong : config.minCapacity.toNat < length) :
    IsLeast {slots | length ≤ slots ∧
      config.blockSize.toNat ∣ slots - config.minCapacity.toNat}
      (length + (padding (length - config.minCapacity.toNat)
        config.blockSize.toNat).value) := by
  constructor
  · constructor
    · exact Nat.le_add_right _ _
    · rw [Nat.sub_add_comm (Nat.le_of_lt hlong)]
      exact dvd_add_padding (config.blockSize_pos hblock) _
  · rintro slots ⟨hle, hdvd⟩
    have hexcess : length - config.minCapacity.toNat ≤ slots - config.minCapacity.toNat :=
      Nat.sub_le_sub_right hle _
    have hleast := add_padding_le hexcess hdvd
    omega

theorem isRounded_recommended (hword : length < Word.limit) :
    config.IsRounded length (config.recommended length) where
  short hshort := recommended_of_le config hshort
  unrounded hlong hzero := by
    have hnone : config.blockSize.toNat = 0 := congrArg UInt64.toNat hzero
    rw [recommended_of_lt config hlong, hnone, padding_zero, Nat.add_zero]
    exact Nat.min_eq_left (Word.le_top_iff_lt.mpr hword)
  rounded hlong hblock := by
    refine ⟨_, config.isLeast_add_padding hblock hlong, ?_⟩
    rw [recommended_of_lt config hlong]
    exact Nat.min_comm _ _

end Config

/-!
## The formula as a closure
-/

/-- The capacity formula rounds every length up, without leaving the words, and what it gives
is closed under it. -/
theorem lengths_round_up_to_capacities (config : Config) :
    (∀ length < UInt64.size,
      config.capacity length = pure (config.recommended length) ∧
        config.recommended length < UInt64.size ∧
        config.IsRounded length (config.recommended length)) ∧
    (∀ length < UInt64.size, length ≤ config.recommended length) ∧
    (∀ small large, small ≤ large → config.recommended small ≤ config.recommended large) ∧
    ∀ length, config.recommended (config.recommended length) = config.recommended length := by
  refine ⟨?_, ?_, ?_, ?_⟩
  · intro length hword
    exact ⟨config.capacity_eq_pure length, config.recommended_lt_limit length,
      config.isRounded_recommended hword⟩
  · intro length hword
    exact config.le_recommended hword
  · intro small large hle
    exact config.recommended_mono hle
  · intro length
    exact config.recommended_recommended length

/-- The first of two lengths is a capacity, and the next capacity after it is no word. -/
theorem lengths_round_up_past_the_greatest_word :
    let config : Config := { minCapacity := 1, blockSize := 9223372036854775808 }
    2 ^ 63 + 1 < UInt64.size ∧ 2 ^ 63 + 2 < UInt64.size ∧ 2 ^ 63 + 1 ≤ 2 ^ 63 + 2 ∧
      config.IsRounded (2 ^ 63 + 1) (2 ^ 63 + 1) ∧
      config.IsRounded (2 ^ 63 + 2) (UInt64.size - 1) ∧
      config.recommended (2 ^ 63 + 1) ≤ config.recommended (2 ^ 63 + 2) := by
  intro config
  have hfull : 2 ^ 63 + 1 < UInt64.size := by decide
  have hover : 2 ^ 63 + 2 < UInt64.size := by decide
  have hle : 2 ^ 63 + 1 ≤ 2 ^ 63 + 2 := by decide
  have hexact : config.recommended (2 ^ 63 + 1) = 2 ^ 63 + 1 := by decide +kernel
  have hsaturated : config.recommended (2 ^ 63 + 2) = UInt64.size - 1 := by decide +kernel
  rcases lengths_round_up_to_capacities config with ⟨hround, _, hmono, _⟩
  have hlast := (hround (2 ^ 63 + 1) hfull).right.right
  have hcut := (hround (2 ^ 63 + 2) hover).right.right
  rw [hexact] at hlast
  rw [hsaturated] at hcut
  exact ⟨hfull, hover, hle, hlast, hcut, hmono _ _ hle⟩

end BlockBuffer
