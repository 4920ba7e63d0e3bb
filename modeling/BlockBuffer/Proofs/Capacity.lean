import BlockBuffer.Proofs.Arithmetic
import Mathlib.Algebra.Order.Floor.Div

/-!
# Laws of the capacity formula

The missing part of a block completes it and is shorter than a block.  So the capacity is the
least one that lies a whole number of blocks above the least capacity, as long as that is a
word.  As a function of the length it is a closure: it is never less than the length, it is
monotone, and a capacity is its own capacity.
-/

namespace BlockBuffer
namespace Config

/-!
## Blocks
-/

variable {value multiple other : Nat}

theorem padding_of_dvd (h : multiple ∣ value) : (padding value multiple).value = 0 := by
  unfold padding
  rw [if_pos (Or.inr (Nat.mod_eq_zero_of_dvd h))]
  rfl

theorem padding_of_not_dvd (hpos : 0 < multiple) (h : ¬ multiple ∣ value) :
    (padding value multiple).value = multiple - value % multiple := by
  have hrounds : ¬ (multiple = 0 ∨ value % multiple = 0) := by
    rintro (hzero | hmod)
    · exact Nat.ne_of_gt hpos hzero
    · exact h (Nat.dvd_of_mod_eq_zero hmod)
  unfold padding
  rw [if_neg hrounds]
  rfl

theorem padding_zero (value : Nat) : (padding value 0).value = 0 := by
  unfold padding
  rw [if_pos (Or.inl rfl)]
  rfl

theorem padding_lt (hpos : 0 < multiple) (value : Nat) :
    (padding value multiple).value < multiple := by
  by_cases h : multiple ∣ value
  · rw [padding_of_dvd h]
    exact hpos
  · have hrest : value % multiple ≠ 0 := fun hmod => h (Nat.dvd_of_mod_eq_zero hmod)
    rw [padding_of_not_dvd hpos h]
    exact Nat.sub_lt hpos (Nat.pos_of_ne_zero hrest)

theorem dvd_add_padding (hpos : 0 < multiple) (value : Nat) :
    multiple ∣ value + (padding value multiple).value := by
  by_cases h : multiple ∣ value
  · rw [padding_of_dvd h]
    exact h
  · have hrest : value % multiple ≤ multiple := Nat.le_of_lt (Nat.mod_lt value hpos)
    have hsplit : multiple * (value / multiple) + value % multiple = value :=
      Nat.div_add_mod value multiple
    rw [padding_of_not_dvd hpos h]
    have hsum : value + (multiple - value % multiple) =
        multiple * (value / multiple) + multiple := by
      omega
    rw [hsum]
    exact Nat.dvd_add (Nat.dvd_mul_right _ _) (Nat.dvd_refl multiple)

/-- What is missing is the least that completes a block. -/
theorem add_padding_le (hle : value ≤ other) (hdvd : multiple ∣ other) :
    value + (padding value multiple).value ≤ other := by
  rcases Nat.eq_zero_or_pos multiple with hzero | hpos
  · subst hzero
    rw [padding_zero]
    exact hle
  · rcases dvd_add_padding hpos value with ⟨upper, hupper⟩
    rcases hdvd with ⟨blocks, hblocks⟩
    have hshort := padding_lt hpos value
    -- Fewer than `upper` blocks would end below `value` already.
    have hbelow : multiple * upper < multiple * (blocks + 1) := by
      rw [← hupper, Nat.mul_succ, ← hblocks]
      exact Nat.add_lt_add_of_le_of_lt hle hshort
    have hcount : upper ≤ blocks := Nat.le_of_lt_succ (Nat.lt_of_mul_lt_mul_left hbelow)
    rw [hupper, hblocks]
    exact Nat.mul_le_mul_left multiple hcount

/-!
## The recommended capacity
-/

variable (config : Config) {length : Nat}

theorem recommended_of_le (h : length ≤ config.minCapacity.toNat) :
    config.recommended length = config.minCapacity.toNat := by
  unfold recommended capacity
  rw [if_pos h]
  rfl

theorem recommended_of_lt (h : config.minCapacity.toNat < length) :
    config.recommended length =
      min (length +
        (padding (length - config.minCapacity.toNat) config.blockSize.toNat).value)
        Word.top := by
  unfold recommended capacity
  rw [if_neg (Nat.not_le_of_lt h)]
  rfl

theorem minCapacity_le_top : config.minCapacity.toNat ≤ Word.top :=
  Word.le_top_iff_lt.mpr config.minCapacity.toNat_lt

theorem minCapacity_le_recommended (length : Nat) :
    config.minCapacity.toNat ≤ config.recommended length := by
  rcases Nat.lt_or_ge config.minCapacity.toNat length with hlong | hshort
  · rw [recommended_of_lt config hlong]
    exact Nat.le_min.mpr
      ⟨Nat.le_trans (Nat.le_of_lt hlong) (Nat.le_add_right _ _), config.minCapacity_le_top⟩
  · exact Nat.le_of_eq (recommended_of_le config hshort).symm

theorem recommended_mono {small large : Nat} (h : small ≤ large) :
    config.recommended small ≤ config.recommended large := by
  rcases Nat.lt_or_ge config.minCapacity.toNat small with hlong | hshort
  · rw [recommended_of_lt config hlong, recommended_of_lt config (Nat.lt_of_lt_of_le hlong h)]
    have hcapacity :
        small + (padding (small - config.minCapacity.toNat) config.blockSize.toNat).value ≤
          large + (padding (large - config.minCapacity.toNat)
            config.blockSize.toNat).value := by
      rcases Nat.eq_zero_or_pos config.blockSize.toNat with hzero | hpos
      · rw [hzero, padding_zero, padding_zero]
        exact h
      · have hleast := add_padding_le
          (Nat.le_trans (Nat.sub_le_sub_right h config.minCapacity.toNat)
            (Nat.le_add_right _ _))
          (dvd_add_padding hpos (large - config.minCapacity.toNat))
        omega
    exact Nat.le_min.mpr
      ⟨Nat.le_trans (Nat.min_le_left _ _) hcapacity, Nat.min_le_right _ _⟩
  · rw [recommended_of_le config hshort]
    exact config.minCapacity_le_recommended large

theorem recommended_top : config.recommended Word.top = Word.top := by
  rcases Nat.lt_or_ge config.minCapacity.toNat Word.top with hlong | hshort
  · rw [recommended_of_lt config hlong]
    exact Nat.min_eq_right (Nat.le_add_right _ _)
  · rw [recommended_of_le config hshort]
    exact Nat.le_antisymm config.minCapacity_le_top hshort

/-- A capacity is its own capacity. -/
theorem recommended_recommended (length : Nat) :
    config.recommended (config.recommended length) = config.recommended length := by
  rcases Nat.lt_or_ge config.minCapacity.toNat length with hlong | hshort
  · have hcapacity := recommended_of_lt config hlong
    generalize hmissing :
      (padding (length - config.minCapacity.toNat) config.blockSize.toNat).value = missing
      at hcapacity
    rcases Nat.lt_or_ge Word.top (length + missing) with hover | hfits
    · rw [hcapacity, Nat.min_eq_right (Nat.le_of_lt hover), recommended_top]
    · have hfull : (padding (length + missing - config.minCapacity.toNat)
          config.blockSize.toNat).value = 0 := by
        rcases Nat.eq_zero_or_pos config.blockSize.toNat with hzero | hpos
        · rw [hzero, padding_zero]
        · have hdvd := dvd_add_padding hpos (length - config.minCapacity.toNat)
          rw [hmissing] at hdvd
          rw [Nat.sub_add_comm (Nat.le_of_lt hlong)]
          exact padding_of_dvd hdvd
      rw [hcapacity, Nat.min_eq_left hfits,
        recommended_of_lt config (Nat.lt_of_lt_of_le hlong (Nat.le_add_right _ _)), hfull,
        Nat.add_zero, Nat.min_eq_left hfits]
  · rw [recommended_of_le config hshort]
    exact recommended_of_le config (Nat.le_refl _)

/-- Between a length and its capacity all lengths have this capacity. -/
theorem recommended_eq_of_le {small large : Nat} (hle : small ≤ large)
    (h : large ≤ config.recommended small) :
    config.recommended large = config.recommended small := by
  apply Nat.le_antisymm
  · have hclosed := config.recommended_mono h
    rwa [recommended_recommended] at hclosed
  · exact config.recommended_mono hle

theorem blockSize_pos (hblock : config.blockSize ≠ 0) : 0 < config.blockSize.toNat :=
  Nat.pos_of_ne_zero fun hzero => hblock (UInt64.toNat_inj.mp hzero)

/-- Past the least capacity, less than one block is wasted. -/
theorem recommended_lt_add_blockSize (hblock : config.blockSize ≠ 0)
    (hlong : config.minCapacity.toNat < length) :
    config.recommended length < length + config.blockSize.toNat := by
  have hshort := padding_lt (config.blockSize_pos hblock) (length - config.minCapacity.toNat)
  rw [recommended_of_lt config hlong]
  exact Nat.lt_of_le_of_lt (Nat.min_le_left _ _) (Nat.add_lt_add_left hshort length)

/-!
## Counting blocks
-/

theorem add_padding_eq (hpos : 0 < multiple) (value : Nat) :
    value + (padding value multiple).value = multiple * (value ⌈/⌉ multiple) := by
  apply Nat.le_antisymm
  · apply add_padding_le
    · exact (ceilDiv_le_iff_le_mul hpos).mp (Nat.le_refl _)
    · exact Nat.dvd_mul_right _ _
  · rcases dvd_add_padding hpos value with ⟨count, hcount⟩
    rw [hcount]
    apply Nat.mul_le_mul_left
    apply (ceilDiv_le_iff_le_mul hpos).mpr
    rw [← hcount]
    exact Nat.le_add_right _ _

/-- The blocks past the least capacity that a length reaches into. -/
def blocks (length : Nat) : Nat :=
  (length - config.minCapacity.toNat) ⌈/⌉ config.blockSize.toNat

theorem blocks_le_iff (hblock : config.blockSize ≠ 0) {count : Nat} :
    config.blocks length ≤ count ↔
      length ≤ config.minCapacity.toNat + config.blockSize.toNat * count := by
  unfold blocks
  rw [ceilDiv_le_iff_le_mul (config.blockSize_pos hblock), Nat.sub_le_iff_le_add']

theorem recommended_eq_blocks (hblock : config.blockSize ≠ 0) (length : Nat) :
    config.recommended length =
      min (config.minCapacity.toNat + config.blockSize.toNat * config.blocks length)
        Word.top := by
  rcases Nat.lt_or_ge config.minCapacity.toNat length with hlong | hshort
  · have hblocks := add_padding_eq (config.blockSize_pos hblock)
      (length - config.minCapacity.toNat)
    rw [recommended_of_lt config hlong, blocks, ← hblocks, ← Nat.add_assoc,
      Nat.add_sub_cancel' (Nat.le_of_lt hlong)]
  · have hnone : config.blocks length = 0 := by
      apply Nat.le_zero.mp
      rw [blocks_le_iff config hblock]
      exact hshort
    rw [recommended_of_le config hshort, hnone, Nat.mul_zero, Nat.add_zero,
      Nat.min_eq_left config.minCapacity_le_top]

/-- One more element reaches into one more block if it does not fit the capacity of the others.
-/
theorem blocks_succ (hblock : config.blockSize ≠ 0) (hword : length < Word.top) :
    config.blocks (length + 1) =
      config.blocks length + if config.recommended length < length + 1 then 1 else 0 := by
  have hpos := config.blockSize_pos hblock
  have hreach := (config.blocks_le_iff hblock).mp (Nat.le_refl (config.blocks length))
  have hcapacity := config.recommended_eq_blocks hblock length
  split
  · rename_i hfull
    have hshort : config.minCapacity.toNat + config.blockSize.toNat * config.blocks length ≤
        length := by
      rcases Nat.le_total (config.minCapacity.toNat +
        config.blockSize.toNat * config.blocks length) Word.top with hle | hge
      · rw [hcapacity, Nat.min_eq_left hle] at hfull
        exact Nat.le_of_lt_succ hfull
      · rw [hcapacity, Nat.min_eq_right hge] at hfull
        exact absurd hword (Nat.not_lt_of_le (Nat.le_of_lt_succ hfull))
    apply Nat.le_antisymm
    · rw [blocks_le_iff config hblock, Nat.mul_succ, ← Nat.add_assoc]
      exact Nat.add_le_add hreach hpos
    · apply Nat.succ_le_of_lt
      apply Nat.lt_of_not_le
      rw [blocks_le_iff config hblock]
      exact Nat.not_le_of_lt (Nat.lt_succ_of_le hshort)
  · rename_i hroom
    have hfits : length + 1 ≤
        config.minCapacity.toNat + config.blockSize.toNat * config.blocks length := by
      rw [hcapacity] at hroom
      exact Nat.le_trans (Nat.le_of_not_lt hroom) (Nat.min_le_left _ _)
    rw [Nat.add_zero]
    apply Nat.le_antisymm
    · exact (config.blocks_le_iff hblock).mpr hfits
    · apply (config.blocks_le_iff hblock).mpr
      apply Nat.le_trans (Nat.le_succ length)
      exact (config.blocks_le_iff hblock).mp (Nat.le_refl _)

end Config
end BlockBuffer
