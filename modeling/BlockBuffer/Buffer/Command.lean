import BlockBuffer.Buffer.Insertion
import BlockBuffer.Buffer.Removal
import BlockBuffer.Buffer.Storage
import BlockBuffer.DoubleEnded
import BlockBuffer.Run

/-!
# Runs on a buffer of values

A command names an operation with its arguments.  A run is a sequence of commands, each on a
heap with a limit of its own, and goes on after refusals.
-/

namespace BlockBuffer
namespace Buffer

inductive Command (α : Type) where
  | requiredBytes (length : Nat)
  | get (index : Nat)
  | set (index : Nat) (value : α)
  | reverse
  | observe (probes : List Probe)
  | reserve (amount : Nat)
  | compact
  | insert (index : Nat) (value : α)
  | pushFront (value : α)
  | pushBack (value : α)
  | remove (index : Nat)
  | replace (index : Nat) (value : α)
  | popFront
  | popBack
  | destroy
  | destroyWith (interruptAt : Option Nat)
  /-- Goes on with a copy. -/
  | copy
deriving DecidableEq, Repr

inductive Reply (α : Type) where
  | unit
  | done (result : Result Unit)
  | size (bytes : Option Nat)
  | value (value : Option α)
  | written (found : Bool)
  | observed (observations : List (Observation α))
  | taken (result : Result α)
  | cleaned (report : CleanupReport α)
deriving DecidableEq, Repr

variable {α : Type}

def step (limit : Nat) (buffer : Buffer α) : Command α → Traced (Outcome (Buffer α) (Reply α))
  | .requiredBytes length => do
      let bytes ← buffer.requiredBytes length
      pure { result := .size bytes, state := buffer }
  | .get index => pure { result := .value (buffer.get index), state := buffer }
  | .set index value => pure ((buffer.set index value).map .written)
  | .reverse => pure { result := .unit, state := buffer.reverse }
  | .observe probes =>
      pure { result := .observed (DoubleEnded.observeAll probes buffer.items),
             state := buffer }
  | .reserve amount => Outcome.map .done <$> buffer.reserve limit amount
  | .compact => do
      let tight ← buffer.compact
      pure { result := .unit, state := tight }
  | .insert index value => Outcome.map .done <$> buffer.insert limit index value
  | .pushFront value => Outcome.map .done <$> buffer.pushFront limit value
  | .pushBack value => Outcome.map .done <$> buffer.pushBack limit value
  | .remove index => Outcome.map .taken <$> buffer.remove index
  | .replace index value => pure ((buffer.replace index value).map .taken)
  | .popFront => Outcome.map .value <$> buffer.popFront
  | .popBack => Outcome.map .value <$> buffer.popBack
  | .destroy => do
      let emptied ← buffer.destroy
      pure { result := .unit, state := emptied }
  | .destroyWith interruptAt => Outcome.map .cleaned <$> buffer.destroyWith interruptAt
  | .copy => do
      let copy ← buffer.copy
      pure { result := .unit, state := copy }

def run (commands : List (Nat × Command α)) (buffer : Buffer α) :
    Traced (Outcome (Buffer α) (List (Reply α))) :=
  runAll step commands buffer

end Buffer
end BlockBuffer
