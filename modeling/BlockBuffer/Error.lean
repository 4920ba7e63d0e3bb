/-!
# Errors and statuses

An operation that fails says why by a `BufferError`; one that does not fail may still report
that there was nothing to do.  Both have a signed code, and the codes grow with the severity: a
status lies below every error.
-/

namespace BlockBuffer

inductive BufferError where
  | sizeMismatch (expected actual : Nat)
  | uninitialized
  /-- A reservation of `requested` bytes in total was refused. -/
  | allocation (requested : Nat)
  | zeroSize (parameter : String)
  | indexOutOfBounds (index length : Nat)
deriving DecidableEq, Repr

namespace BufferError

def message : BufferError → String
  | sizeMismatch expected actual =>
      s!"Element size mismatch: expected {expected} bytes, got {actual} bytes"
  | uninitialized => "Buffer is not initialized"
  | allocation requested => s!"Allocation failed: could not reserve {requested} bytes"
  | zeroSize parameter => s!"Zero value for {parameter}"
  | indexOutOfBounds index length =>
      s!"Index out of bounds: index {index} is beyond buffer length {length}"

def code : BufferError → Int
  | sizeMismatch .. => 1
  | uninitialized => 2
  | allocation .. => 3
  | zeroSize .. => 4
  | indexOutOfBounds .. => 5

end BufferError

abbrev Result (α : Type) := Except BufferError α

instance Result.decidableEq {α : Type} [DecidableEq α] : DecidableEq (Result α)
  | .ok a, .ok b => decidable_of_iff (a = b) ⟨congrArg Except.ok, Except.ok.inj⟩
  | .error a, .error b => decidable_of_iff (a = b) ⟨congrArg Except.error, Except.error.inj⟩
  | .ok _, .error _ => isFalse nofun
  | .error _, .ok _ => isFalse nofun

/-- How an operation ended that was not refused.  Doing nothing comes before taking effect. -/
inductive Status where
  | warning
  | ok
deriving DecidableEq, Repr, Ord

namespace Status

def code : Status → Int
  | warning => -1
  | ok => 0

def isWarning (status : Status) : Bool :=
  status == .warning

end Status
end BlockBuffer
