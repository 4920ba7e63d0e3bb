import BlockBuffer.Error

/-!
# Outcomes

An operation on a buffer has a result and leaves a buffer.  An operation that hands bytes to
its caller also leaves the destination that it was given.  What is refused leaves both as they
were.
-/

namespace BlockBuffer

structure Outcome (σ ρ : Type) where
  result : ρ
  state : σ
deriving DecidableEq, Repr

namespace Outcome

variable {σ ρ : Type}

def refused (error : BufferError) (state : σ) : Outcome σ (Result ρ) where
  result := .error error
  state := state

def map {τ : Type} (f : ρ → τ) (outcome : Outcome σ ρ) : Outcome σ τ where
  result := f outcome.result
  state := outcome.state

end Outcome

/-- A result and the caller's destination afterwards, if there was one. -/
structure Delivery (ρ : Type) where
  result : ρ
  dest : Option (List UInt8)
deriving DecidableEq, Repr

namespace Delivery

variable {σ ρ : Type}

def refused (error : BufferError) (dest : Option (List UInt8)) (state : σ) :
    Outcome σ (Delivery (Result ρ)) where
  result := { result := .error error, dest := dest }
  state := state

def found (delivery : Delivery (Result Status)) : Result (Option (List UInt8)) :=
  delivery.result.map fun
    | .warning => none
    | .ok => delivery.dest

end Delivery
end BlockBuffer
