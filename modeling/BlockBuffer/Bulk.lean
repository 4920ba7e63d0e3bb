import BlockBuffer.Header
import BlockBuffer.Outcome
import BlockBuffer.Traced

/-!
# Filling and draining

A buffer is filled by pushing numbered elements one after the other, until enough are in or a
push is refused, and drained by popping until enough are out, the buffer is empty or a pop is
refused.  Both keep a record of the steps at which the number of slots changed.
-/

namespace BlockBuffer

structure Change where
  length : Nat
  reserved : Nat
deriving DecidableEq, Repr

/-- The record of a step that went from one header to another: nothing, if the slots are the
same. -/
def Change.between (before after : Header) : List Change :=
  if before.reserved = after.reserved then []
  else [{ length := after.length, reserved := after.reserved }]

/-!
## Filling
-/

structure Filling where
  pushed : Nat := 0
  changes : List Change := []
  stopped : Option BufferError := none
deriving DecidableEq, Repr

/-- Pushes `count` elements, the first of which has the given number. -/
def fill {σ ε : Type} (header : σ → Header) (push : σ → ε → Traced (Outcome σ (Result Unit)))
    (element : Nat → ε) : (count number : Nat) → σ → Traced (Outcome σ Filling)
  | 0, _, buffer => pure { result := {}, state := buffer }
  | count + 1, number, buffer => do
      let outcome ← push buffer (element number)
      match outcome.result with
      | .error error => pure { result := { stopped := some error }, state := outcome.state }
      | .ok _ => do
          let later ← fill header push element count (number + 1) outcome.state
          let change := Change.between (header buffer) (header outcome.state)
          pure { result := { later.result with
                             pushed := later.result.pushed + 1
                             changes := change ++ later.result.changes },
                 state := later.state }

/-!
## Draining
-/

inductive Stop where
  | empty
  | refused (error : BufferError)
deriving DecidableEq, Repr

structure Draining (ε : Type) where
  popped : Nat := 0
  changes : List Change := []
  stopped : Option Stop := none
  last : Option ε := none
deriving DecidableEq, Repr

def drain {σ ε : Type} (header : σ → Header)
    (pop : σ → Traced (Outcome σ (Result (Option ε)))) :
    (count : Nat) → σ → Traced (Outcome σ (Draining ε))
  | 0, buffer => pure { result := {}, state := buffer }
  | count + 1, buffer => do
      let outcome ← pop buffer
      match outcome.result with
      | .error error =>
          pure { result := { stopped := some (.refused error) }, state := outcome.state }
      | .ok none => pure { result := { stopped := some .empty }, state := outcome.state }
      | .ok (some element) => do
          let later ← drain header pop count outcome.state
          let change := Change.between (header buffer) (header outcome.state)
          pure { result := { later.result with
                             popped := later.result.popped + 1
                             changes := change ++ later.result.changes
                             last := later.result.last <|> some element },
                 state := later.state }

end BlockBuffer
