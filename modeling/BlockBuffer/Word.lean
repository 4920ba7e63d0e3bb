import BlockBuffer.Traced

/-!
# Arithmetic within a word

A size is kept by the machine in a word of 64 bits.  Some sums and products are checked and
give `none` when they do not fit; one saturates; the others are computed on the promise that
they fit, and are traced: they run into a fault where the promise is broken.
-/

namespace BlockBuffer
namespace Word

def limit : Nat := UInt64.size

def top : Nat := limit - 1

/-!
## Checked and saturating operations
-/

def add? (a b : Nat) : Option Nat :=
  if a + b < limit then some (a + b) else none

def mul? (a b : Nat) : Option Nat :=
  if a * b < limit then some (a * b) else none

def saturatingAdd (a b : Nat) : Nat :=
  min (a + b) top

/-!
## Traced operations
-/

def add (a b : Nat) : Traced Nat := do
  Traced.require (a + b < limit) (.overflow (a + b))
  pure (a + b)

def sub (a b : Nat) : Traced Nat := do
  Traced.require (b ≤ a) (.underflow a b)
  pure (a - b)

def mul (a b : Nat) : Traced Nat := do
  Traced.require (a * b < limit) (.overflow (a * b))
  pure (a * b)

theorem limit_eq : limit = 18446744073709551616 := rfl

theorem top_eq : top = 18446744073709551615 := rfl

variable (a b : Nat)

@[simp] theorem value_add : (add a b).value = a + b := rfl

@[simp] theorem value_sub : (sub a b).value = a - b := rfl

@[simp] theorem value_mul : (mul a b).value = a * b := rfl

@[simp] theorem events_add : (add a b).events = [] := by
  simp [add]

@[simp] theorem events_sub : (sub a b).events = [] := by
  simp [sub]

@[simp] theorem events_mul : (mul a b).events = [] := by
  simp [mul]

end Word
end BlockBuffer
