import BlockBuffer.ByteBuffer.Insertion
import BlockBuffer.ByteBuffer.Removal
import BlockBuffer.ByteBuffer.Storage
import BlockBuffer.Run

/-!
# Runs on a byte buffer

A command names an operation with its arguments.  A run is a sequence of commands, each on a
heap with a limit of its own, and goes on after refusals.
-/

namespace BlockBuffer
namespace ByteBuffer

inductive Command where
  | init (elementSize : Nat)
  | requiredBytes (length : Nat)
  | get (index : Nat)
  | modify (index : Nat) (change : InPlace)
  | copyTo (index : Nat) (dest : Bytes)
  | copyFrom (index : Nat) (source : Bytes)
  | observe (probes : List Probe)
  | reserve (amount : Nat)
  | compact
  | insert (index : Nat) (source : Bytes)
  | pushFront (source : Bytes)
  | pushBack (source : Bytes)
  | remove (index : Nat) (dest : Option Bytes)
  | popFront (dest : Option Bytes)
  | popBack (dest : Option Bytes)
  | destroy
  | destroyWith (change : InPlace) (interruptAt : Option Nat)
  /-- Goes on with a copy. -/
  | copy

inductive Reply where
  | done (result : Result Unit)
  | size (result : Result Nat)
  | element (element : Option Bytes)
  | observed (observations : List (Observation Bytes))
  | delivered (delivery : Delivery (Result Unit))
  | popped (delivery : Delivery (Result Status))
  | cleaned (result : Result (CleanupReport Bytes))
deriving DecidableEq, Repr

def step (limit : Nat) (buffer : ByteBuffer) : Command → Traced (Outcome ByteBuffer Reply)
  | .init elementSize => Outcome.map .done <$> buffer.init elementSize
  | .requiredBytes length => do
      let result ← buffer.requiredBytes length
      pure { result := .size result, state := buffer }
  | .get index => do
      let element ← buffer.get index
      pure { result := .element element, state := buffer }
  | .modify index change => Outcome.map .element <$> buffer.modify index change
  | .copyTo index dest => Outcome.map .delivered <$> buffer.copyTo index dest
  | .copyFrom index source => Outcome.map .done <$> buffer.copyFrom index source
  | .observe probes => do
      let cursor ← buffer.cursor
      pure { result := .observed (DoubleEnded.observeAll probes cursor), state := buffer }
  | .reserve amount => Outcome.map .done <$> buffer.reserve limit amount
  | .compact => Outcome.map .done <$> buffer.compact
  | .insert index source => Outcome.map .done <$> buffer.insert limit index source
  | .pushFront source => Outcome.map .done <$> buffer.pushFront limit source
  | .pushBack source => Outcome.map .done <$> buffer.pushBack limit source
  | .remove index dest => Outcome.map .delivered <$> buffer.remove index dest
  | .popFront dest => Outcome.map .popped <$> buffer.popFront dest
  | .popBack dest => Outcome.map .popped <$> buffer.popBack dest
  | .destroy => Outcome.map .done <$> buffer.destroy
  | .destroyWith change interruptAt =>
      Outcome.map .cleaned <$> buffer.destroyWith change interruptAt
  | .copy => do
      let copy ← buffer.copy
      pure { result := .done (.ok ()), state := copy }

def run (commands : List (Nat × Command)) (buffer : ByteBuffer) :
    Traced (Outcome ByteBuffer (List Reply)) :=
  runAll step commands buffer

end ByteBuffer
end BlockBuffer
