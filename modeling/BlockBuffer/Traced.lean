import BlockBuffer.Event

/-!
# Traced computations

Sizes are natural numbers, and a machine computes them in words of 64 bits.  A traced
computation gives its value in unbounded arithmetic and keeps two records beside it: the events
that it logged, and the faults that it ran into, each a size that is no word, a byte range
outside its storage or a broken promise between two parts of a buffer.  A caller treats a
computation with a fault as aborted; one without faults gives on a machine exactly the value
that it gives here.

The laws at the end say that each record of a sequence is the concatenation of the records of
its parts.
-/

namespace BlockBuffer

/-- A step of a computation that no machine could carry out. -/
inductive Fault where
  | overflow (size : Nat)
  | underflow (minuend subtrahend : Nat)
  | range (start stop length : Nat)
  | mismatch (expected actual : Nat)
  | emptyChunk
  | unreserved (length reserved : Nat)
  /-- A shrink that would leave more slots than before. -/
  | regrown (before after : Nat)
deriving DecidableEq, Repr

/-- A value with the events logged and the faults met on the way to it. -/
structure Traced (α : Type) where
  value : α
  events : List Event := []
  faults : List Fault := []

namespace Traced

variable {α β : Type}

protected def bind (x : Traced α) (f : α → Traced β) : Traced β :=
  let y := f x.value
  { value := y.value
    events := x.events ++ y.events
    faults := x.faults ++ y.faults }

instance : Monad Traced where
  pure a := { value := a }
  bind := Traced.bind

def emit (event : Event) : Traced Unit where
  value := ()
  events := [event]

def fail (fault : Fault) : Traced Unit where
  value := ()
  faults := [fault]

/-- Runs into the fault unless the condition holds. -/
def require (condition : Prop) [Decidable condition] (fault : Fault) : Traced Unit :=
  if condition then pure () else fail fault

/-!
## The records of a sequence
-/

@[simp] theorem value_pure (a : α) : (pure a : Traced α).value = a := rfl

@[simp] theorem events_pure (a : α) : (pure a : Traced α).events = [] := rfl

@[simp] theorem faults_pure (a : α) : (pure a : Traced α).faults = [] := rfl

@[simp] theorem value_bind (x : Traced α) (f : α → Traced β) :
    (x >>= f).value = (f x.value).value := rfl

@[simp] theorem events_bind (x : Traced α) (f : α → Traced β) :
    (x >>= f).events = x.events ++ (f x.value).events := rfl

@[simp] theorem faults_bind (x : Traced α) (f : α → Traced β) :
    (x >>= f).faults = x.faults ++ (f x.value).faults := rfl

@[simp] theorem value_map (f : α → β) (x : Traced α) : (f <$> x).value = f x.value := rfl

@[simp] theorem events_map (f : α → β) (x : Traced α) : (f <$> x).events = x.events :=
  List.append_nil _

@[simp] theorem faults_map (f : α → β) (x : Traced α) : (f <$> x).faults = x.faults :=
  List.append_nil _

@[simp] theorem events_emit (event : Event) : (emit event).events = [event] := rfl

@[simp] theorem faults_emit (event : Event) : (emit event).faults = [] := rfl

@[simp] theorem events_fail (fault : Fault) : (fail fault).events = [] := rfl

@[simp] theorem faults_fail (fault : Fault) : (fail fault).faults = [fault] := rfl

@[simp] theorem events_require (condition : Prop) [Decidable condition] (fault : Fault) :
    (require condition fault).events = [] := by
  unfold require
  split <;> rfl

@[simp] theorem faults_require (condition : Prop) [Decidable condition] (fault : Fault) :
    (require condition fault).faults = if condition then [] else [fault] := by
  unfold require
  split <;> rfl

instance : LawfulMonad Traced :=
  LawfulMonad.mk' Traced
    (fun x => by
      show Traced.bind x (fun a => { value := a }) = x
      simp [Traced.bind])
    (fun a f => by
      show Traced.bind { value := a } f = f a
      simp [Traced.bind])
    (fun x f g => by
      show Traced.bind (Traced.bind x f) g = Traced.bind x (fun a => Traced.bind (f a) g)
      simp [Traced.bind, List.append_assoc])

end Traced

end BlockBuffer
