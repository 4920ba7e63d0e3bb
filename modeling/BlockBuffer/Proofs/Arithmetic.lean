import BlockBuffer.Config
import BlockBuffer.Bytes.Basic

/-!
# Computations without faults

A traced computation whose promises are kept is the pure computation of its value.  The
equations of this module let a proof replace the one by the other, after which the laws of the
monad apply.
-/

namespace BlockBuffer

namespace Traced

variable {α β : Type}

theorem require_of_holds {condition : Prop} [Decidable condition] (h : condition)
    (fault : Fault) :
    require condition fault = pure () := by
  unfold require
  rw [if_pos h]

theorem bind_congr_value {x : Traced α} {f g : α → Traced β} (h : f x.value = g x.value) :
    x >>= f = x >>= g := by
  show Traced.bind x f = Traced.bind x g
  unfold Traced.bind
  rw [h]

end Traced

/-!
## Words
-/

namespace Word

theorem add_of_lt {a b : Nat} (h : a + b < limit) : add a b = pure (a + b) := by
  unfold add
  rw [Traced.require_of_holds h, pure_bind]

theorem sub_of_le {a b : Nat} (h : b ≤ a) : sub a b = pure (a - b) := by
  unfold sub
  rw [Traced.require_of_holds h, pure_bind]

theorem mul_of_lt {a b : Nat} (h : a * b < limit) : mul a b = pure (a * b) := by
  unfold mul
  rw [Traced.require_of_holds h, pure_bind]

theorem le_top_iff_lt {a : Nat} : a ≤ top ↔ a < limit := by
  rw [top_eq, limit_eq]
  omega

end Word

/-!
## The place of an element
-/

theorem Span.ofElement_of_lt {size index : Nat} (hsize : 0 < size)
    (h : (index + 1) * size < Word.limit) :
    Span.ofElement size index =
      pure { start := index * size, stop := (index + 1) * size } := by
  have hstart : index * size < Word.limit := by
    have hle : index * size ≤ (index + 1) * size :=
      Nat.mul_le_mul_right size (Nat.le_succ index)
    omega
  have hnext : index + 1 < Word.limit := by
    have hle : index + 1 ≤ (index + 1) * size := Nat.le_mul_of_pos_right (index + 1) hsize
    omega
  unfold Span.ofElement
  rw [Word.mul_of_lt hstart, pure_bind, Word.add_of_lt hnext, pure_bind, Word.mul_of_lt h,
    pure_bind]

/-!
## The capacity formula

No operand of the formula is out of order: a length past the least capacity exceeds it, and a
remainder is smaller than its divisor.
-/

namespace Config

theorem padding_eq_pure (value multiple : Nat) :
    padding value multiple = pure (padding value multiple).value := by
  unfold padding
  split
  · rfl
  · rename_i hrounds
    have hpos : 0 < multiple := by omega
    have hrem : value % multiple ≤ multiple := Nat.le_of_lt (Nat.mod_lt value hpos)
    rw [Word.sub_of_le hrem]
    rfl

theorem capacity_eq_pure (config : Config) (length : Nat) :
    config.capacity length = pure (config.recommended length) := by
  unfold recommended capacity
  split
  · rfl
  · rename_i hlong
    have hle : config.minCapacity.toNat ≤ length := by omega
    rw [Word.sub_of_le hle, pure_bind, padding_eq_pure, pure_bind]
    rfl

theorem le_recommended (config : Config) {length : Nat} (h : length < Word.limit) :
    length ≤ config.recommended length := by
  unfold recommended capacity
  split
  · assumption
  · have hfits : length ≤ Word.top := Word.le_top_iff_lt.mpr h
    simp only [Traced.value_bind, Traced.value_pure, Word.saturatingAdd]
    omega

theorem recommended_lt_limit (config : Config) (length : Nat) :
    config.recommended length < Word.limit := by
  unfold recommended capacity
  split
  · exact config.minCapacity.toNat_lt
  · have htop : Word.top < Word.limit := by decide
    simp only [Traced.value_bind, Traced.value_pure, Word.saturatingAdd]
    omega

end Config
end BlockBuffer
