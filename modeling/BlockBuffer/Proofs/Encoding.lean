import BlockBuffer.Buffer.Command
import BlockBuffer.ByteBuffer.Command

/-!
# Operations of both kinds of buffer

A buffer of values and a byte buffer that holds their encodings have most operations in common.
An operation names a value; the byte buffer is given its encoding, and a place of one element
to write to where the buffer of values hands a value out.
-/

namespace BlockBuffer

structure Encoding (α : Type) where
  size : Nat
  encode : α → Bytes
  size_pos : 0 < size
  length_encode : ∀ value, (encode value).length = size

abbrev Place (size : Nat) : Type :=
  { place : Bytes // place.length = size }

/-- An operation on values, with the place that a byte buffer of elements of this size writes
to. -/
inductive Operation (α : Type) (size : Nat) where
  | requiredBytes (length : Nat)
  | get (index : Nat)
  | reserve (amount : Nat)
  | compact
  | insert (index : Nat) (value : α)
  | pushFront (value : α)
  | pushBack (value : α)
  | remove (index : Nat) (place : Place size)
  | replace (index : Nat) (value : α) (place : Place size)
  | popFront (place : Place size)
  | popBack (place : Place size)
  | destroy

/-- Copies the element at an index out and, if that succeeds, writes another one over it. -/
def ByteBuffer.exchange (buffer : ByteBuffer) (index : Nat) (source dest : Bytes) :
    Traced (Outcome ByteBuffer (Delivery (Result Unit))) := do
  let copied ← buffer.copyTo index dest
  match copied.result.result with
  | .error _ => pure copied
  | .ok _ => do
      let written ← copied.state.copyFrom index source
      pure { result := { result := written.result, dest := copied.result.dest },
             state := written.state }

namespace Operation

variable {α : Type} {size : Nat}

def onValues : Operation α size → Buffer.Command α
  | .requiredBytes length => .requiredBytes length
  | .get index => .get index
  | .reserve amount => .reserve amount
  | .compact => .compact
  | .insert index value => .insert index value
  | .pushFront value => .pushFront value
  | .pushBack value => .pushBack value
  | .remove index _ => .remove index
  | .replace index value _ => .replace index value
  | .popFront _ => .popFront
  | .popBack _ => .popBack
  | .destroy => .destroy

def place? : Operation α size → Option Bytes
  | .remove _ place => some place
  | .replace _ _ place => some place
  | .popFront place => some place
  | .popBack place => some place
  | _ => none

def onBytes (encode : α → Bytes) (limit : Nat) (buffer : ByteBuffer) :
    Operation α size → Traced (Outcome ByteBuffer ByteBuffer.Reply)
  | .requiredBytes length => buffer.step limit (.requiredBytes length)
  | .get index => buffer.step limit (.get index)
  | .reserve amount => buffer.step limit (.reserve amount)
  | .compact => buffer.step limit .compact
  | .insert index value => buffer.step limit (.insert index (encode value))
  | .pushFront value => buffer.step limit (.pushFront (encode value))
  | .pushBack value => buffer.step limit (.pushBack (encode value))
  | .remove index place => buffer.step limit (.remove index (some place))
  | .replace index value place =>
      Outcome.map .delivered <$> buffer.exchange index (encode value) place
  | .popFront place => buffer.step limit (.popFront (some place))
  | .popBack place => buffer.step limit (.popBack (some place))
  | .destroy => buffer.step limit .destroy

end Operation

/-- Answers of a buffer of values and of a byte buffer that say the same.  What is handed out
is the encoding of the value; a place is left as it was when nothing is. -/
inductive Agrees {α : Type} (encode : α → Bytes) (place : Option Bytes) :
    Buffer.Reply α → ByteBuffer.Reply → Prop where
  | unit : Agrees encode place .unit (.done (.ok ()))
  | done (result : Result Unit) : Agrees encode place (.done result) (.done result)
  | size (bytes : Nat) : Agrees encode place (.size (some bytes)) (.size (.ok bytes))
  | noSize : Agrees encode place (.size none) (.size (.error (.allocation Word.top)))
  | element (value : Option α) :
      Agrees encode place (.value value) (.element (value.map encode))
  | taken (value : α) :
      Agrees encode place (.taken (.ok value))
        (.delivered { result := .ok (), dest := some (encode value) })
  | refused (error : BufferError) :
      Agrees encode place (.taken (.error error))
        (.delivered { result := .error error, dest := place })
  | popped (value : α) :
      Agrees encode place (.value (some value))
        (.popped { result := .ok .ok, dest := some (encode value) })
  | nothing :
      Agrees encode place (.value none) (.popped { result := .ok .warning, dest := place })

end BlockBuffer
