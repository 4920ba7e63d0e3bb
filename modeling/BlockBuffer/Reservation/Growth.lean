import BlockBuffer.Reservation.Basic
import BlockBuffer.Slots

/-!
# Growth

A growth for a wanted length first asks for the recommended capacity.  While it is refused, the
slack above the wanted length is halved, down to none.  An attempt is refused when its bytes
are no word, when they lie above the ceiling, or when the storage has no room for the slots, in
this order.
-/

namespace BlockBuffer

structure Attempt (σ : Type) where
  result : Result Unit
  reservation : Reservation
  state : σ

namespace Slots

variable {σ : Type}

def growTo (storage : Slots σ) (limit : Nat) (r : Reservation) (slots : Nat) (state : σ) :
    Traced (Attempt σ) :=
  match r.header.bytesFor slots with
  | none =>
      pure { result := .error (.allocation Word.top), reservation := r, state := state }
  | some bytes =>
      if r.config.exceeds bytes then
        pure { result := .error (.allocation bytes), reservation := r, state := state }
      else do
        let answer ← storage.grow limit slots state
        if answer.1 then do
          Traced.emit (.grown r.header.reserved slots bytes)
          let header := { r.header with reserved := slots, bytesAllocated := bytes }
          pure { result := .ok (),
                 reservation := { r with header := header },
                 state := answer.2 }
        else
          pure { result := .error (.allocation bytes), reservation := r, state := answer.2 }

/-- Attempts with `slack` slots above `length`, then with half of that, until one succeeds or
the one without slack is refused. -/
def backOff (storage : Slots σ) (limit : Nat) (r : Reservation) (length slack : Nat)
    (state : σ) :
    Traced (Attempt σ) := do
  let slots ← Word.add length slack
  let attempt ← storage.growTo limit r slots state
  match attempt.result with
  | .ok _ => pure attempt
  | .error _ =>
      if slack = 0 then do
        Traced.emit (.growthFailed length attempt.reservation.header.reserved)
        pure attempt
      else do
        Traced.emit (.backingOff length (slack / 2))
        storage.backOff limit attempt.reservation length (slack / 2) attempt.state
termination_by slack
decreasing_by omega

def growFor (storage : Slots σ) (limit : Nat) (r : Reservation) (length : Nat) (state : σ) :
    Traced (Attempt σ) :=
  if length ≤ r.header.reserved then
    pure { result := .ok (), reservation := r, state := state }
  else do
    let target ← r.config.capacity length
    let slack ← Word.sub target length
    storage.backOff limit r length slack state

/-- Makes room for exactly `amount` elements beyond those present.  Never shrinks, never rounds
and is tried once. -/
def reserve (storage : Slots σ) (limit : Nat) (r : Reservation) (amount : Nat) (state : σ) :
    Traced (Attempt σ) :=
  match Word.add? r.header.length amount with
  | none =>
      pure { result := .error (.allocation Word.top), reservation := r, state := state }
  | some needed =>
      if needed ≤ r.header.reserved then
        pure { result := .ok (), reservation := r, state := state }
      else storage.growTo limit r needed state

end Slots
end BlockBuffer
