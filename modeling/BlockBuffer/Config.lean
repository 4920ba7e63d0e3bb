import BlockBuffer.Error
import BlockBuffer.Word

/-!
# Configuration and the capacity formula

A short buffer gets room for `minCapacity` elements.  Past that its capacity is the length
rounded up so that its distance from `minCapacity` is a multiple of `blockSize`, and the
greatest word where that is no word.  The waste is therefore less than one block.
-/

namespace BlockBuffer

inductive ShrinkPolicy where
  | deferred
  | lazy
  /-- When the recommended capacity is not larger than the reservation, so also when nothing
  changes. -/
  | eager
deriving DecidableEq, Repr

def defaultMinCapacity : UInt64 := 16

def defaultBlockSize : UInt64 := 8

structure Config where
  /-- The capacity of every length up to this one. -/
  minCapacity : UInt64 := defaultMinCapacity
  blockSize : UInt64 := defaultBlockSize
  shrink : ShrinkPolicy := .deferred
  /-- A ceiling on the bytes of a buffer, header included. -/
  maxBytes : Option UInt64 := none
deriving DecidableEq, Repr

namespace Config

def validate (config : Config) : Result Unit :=
  if config.blockSize = 0 then .error (.zeroSize "block_size") else .ok ()

/-- What is missing from `value` to the next multiple of `multiple`; zero has no multiples to
reach. -/
def padding (value multiple : Nat) : Traced Nat :=
  if multiple = 0 ∨ value % multiple = 0 then pure 0 else Word.sub multiple (value % multiple)

def capacity (config : Config) (length : Nat) : Traced Nat :=
  if length ≤ config.minCapacity.toNat then pure config.minCapacity.toNat
  else do
    let excess ← Word.sub length config.minCapacity.toNat
    let missing ← padding excess config.blockSize.toNat
    pure (Word.saturatingAdd length missing)

/-- The capacity of a buffer of `length` elements, without the trace. -/
def recommended (config : Config) (length : Nat) : Nat :=
  (config.capacity length).value

def exceeds (config : Config) (bytes : Nat) : Bool :=
  config.maxBytes.any fun ceiling => ceiling.toNat < bytes

@[simp] theorem value_capacity (config : Config) (length : Nat) :
    (config.capacity length).value = config.recommended length := rfl

@[simp] theorem events_padding (value multiple : Nat) :
    (padding value multiple).events = [] := by
  unfold padding
  split <;> simp

@[simp] theorem events_capacity (config : Config) (length : Nat) :
    (config.capacity length).events = [] := by
  unfold capacity
  split <;> simp

end Config
end BlockBuffer
