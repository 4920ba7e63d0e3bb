import BlockBuffer.Error
import BlockBuffer.Event

/-!
# Codes, messages and log lines

Errors and statuses are declared in the order of their severity, and their codes follow it.
What is written about an error or an event loses nothing: the text of an error tells the error,
and the message and the fields of a log line tell the event.
-/

namespace BlockBuffer

/-!
## Codes
-/

theorem BufferError.code_eq (error : BufferError) : error.code = error.ctorIdx + 1 := by
  cases error with
  | _ => rfl

/-- Of two errors, the more severe one has the greater code. -/
theorem BufferError.code_lt_code_iff (a b : BufferError) :
    a.code < b.code ↔ a.ctorIdx < b.ctorIdx := by
  rw [a.code_eq, b.code_eq]
  omega

theorem Status.code_lt_code_iff (a b : Status) : a.code < b.code ↔ compare a b = .lt := by
  cases a with
  | warning =>
      cases b with
      | _ => decide
  | ok =>
      cases b with
      | _ => decide

/-- Whatever a status says, it is less severe than an error. -/
theorem Status.code_lt_code (status : Status) (error : BufferError) :
    status.code < error.code := by
  have hstatus : status.code ≤ 0 := by
    cases status with
    | _ => decide
  rw [error.code_eq]
  omega

theorem Status.isWarning_iff (status : Status) :
    status.isWarning = true ↔ status.code < 0 := by
  cases status with
  | _ => decide

/-!
## Error messages
-/

/-- A number within a text can be read off it, if no digit follows. -/
theorem append_repr_inj {m n : Nat} (before : String) {s t : String}
    (hs : s.toList.takeWhile Char.isDigit = []) (ht : t.toList.takeWhile Char.isDigit = [])
    (h : before ++ (m.repr ++ s) = before ++ (n.repr ++ t)) : m = n ∧ s = t := by
  have hread : ∀ (number : Nat) {rest : String}, rest.toList.takeWhile Char.isDigit = [] →
      (number.repr ++ rest).toList.takeWhile Char.isDigit = Nat.toDigits 10 number := by
    intro number rest hrest
    rw [String.toList_append, Nat.toList_repr, List.takeWhile_append_of_pos, hrest,
      List.append_nil]
    intro digit hdigit
    exact Nat.isDigit_of_mem_toDigits (by decide) (by decide) hdigit
  rw [String.append_right_inj] at h
  have hdigits := hread m hs
  rw [h, hread n ht] at hdigits
  have hnumber := Nat.ofDigitChars_toDigits (b := 10) (n := n) (by decide) (by decide)
  rw [hdigits, Nat.ofDigitChars_toDigits (by decide) (by decide)] at hnumber
  subst hnumber
  exact ⟨rfl, (String.append_right_inj _).mp h⟩

namespace BufferError

def initial : BufferError → Char
  | sizeMismatch .. => 'E'
  | uninitialized => 'B'
  | allocation .. => 'A'
  | zeroSize .. => 'Z'
  | indexOutOfBounds .. => 'I'

theorem message_sizeMismatch (expected actual : Nat) :
    (sizeMismatch expected actual).message =
      "Element size mismatch: expected " ++
        (expected.repr ++ (" bytes, got " ++ (actual.repr ++ " bytes"))) := by
  rw [← String.append_assoc, ← String.append_assoc, ← String.append_assoc]
  rfl

theorem message_allocation (requested : Nat) :
    (allocation requested).message =
      "Allocation failed: could not reserve " ++ (requested.repr ++ " bytes") := by
  rw [← String.append_assoc]
  rfl

theorem message_zeroSize (parameter : String) :
    (zeroSize parameter).message = "Zero value for " ++ parameter := rfl

theorem message_indexOutOfBounds (index length : Nat) :
    (indexOutOfBounds index length).message =
      "Index out of bounds: index " ++
        (index.repr ++ (" is beyond buffer length " ++ (length.repr ++ ""))) := by
  rw [String.append_empty, ← String.append_assoc, ← String.append_assoc]
  rfl

theorem head?_message (error : BufferError) :
    error.message.toList.head? = some error.initial := by
  cases error with
  | sizeMismatch expected actual =>
      rw [message_sizeMismatch, String.toList_append]
      rfl
  | uninitialized => rfl
  | allocation requested =>
      rw [message_allocation, String.toList_append]
      rfl
  | zeroSize parameter =>
      rw [message_zeroSize, String.toList_append]
      rfl
  | indexOutOfBounds index length =>
      rw [message_indexOutOfBounds, String.toList_append]
      rfl

/-- The message tells the error with all its numbers. -/
theorem message_inj {a b : BufferError} (h : a.message = b.message) : a = b := by
  have hinitial : a.initial = b.initial := by
    have hhead := head?_message a
    rw [h, head?_message b] at hhead
    exact (Option.some.inj hhead).symm
  have hbytes : ∀ rest : String,
      (" bytes, got " ++ rest).toList.takeWhile Char.isDigit = [] := by
    intro rest
    rw [String.toList_append]
    rfl
  have hbeyond : ∀ rest : String,
      (" is beyond buffer length " ++ rest).toList.takeWhile Char.isDigit = [] := by
    intro rest
    rw [String.toList_append]
    rfl
  cases a with
  | sizeMismatch expected actual =>
      cases b with
      | sizeMismatch expected' actual' =>
          rw [message_sizeMismatch, message_sizeMismatch] at h
          rcases append_repr_inj _ (hbytes _) (hbytes _) h with ⟨rfl, hrest⟩
          rcases append_repr_inj _ rfl rfl hrest with ⟨rfl, _⟩
          rfl
      | _ => cases hinitial
  | uninitialized =>
      cases b with
      | uninitialized => rfl
      | _ => cases hinitial
  | allocation requested =>
      cases b with
      | allocation requested' =>
          rw [message_allocation, message_allocation] at h
          rcases append_repr_inj _ rfl rfl h with ⟨rfl, _⟩
          rfl
      | _ => cases hinitial
  | zeroSize parameter =>
      cases b with
      | zeroSize parameter' => exact congrArg zeroSize ((String.append_right_inj _).mp h)
      | _ => cases hinitial
  | indexOutOfBounds index length =>
      cases b with
      | indexOutOfBounds index' length' =>
          rw [message_indexOutOfBounds, message_indexOutOfBounds] at h
          rcases append_repr_inj _ (hbeyond _) (hbeyond _) h with ⟨rfl, hrest⟩
          rcases append_repr_inj _ rfl rfl hrest with ⟨rfl, _⟩
          rfl
      | _ => cases hinitial

end BufferError

/-!
## Log lines
-/

def Event.ofWritten? : String → List (String × Nat) → Option Event
  | "buffer reservation grown", [(_, before), (_, after), (_, bytes)] =>
      some (.grown before after bytes)
  | "buffer reservation shrunk", [(_, before), (_, after)] => some (.shrunk before after)
  | "buffer growth backing off", [(_, length), (_, slack)] => some (.backingOff length slack)
  | "buffer growth failed", [(_, length), (_, reserved)] =>
    some (.growthFailed length reserved)
  | "raw buffer initialized", [(_, elementSize)] => some (.ready elementSize)
  | "raw buffer compacted", [(_, reserved)] => some (.compacted .raw reserved)
  | "buffer compacted", [(_, reserved)] => some (.compacted .typed reserved)
  | "raw buffer destroyed", [] => some (.destroyed .raw)
  | "buffer destroyed", [] => some (.destroyed .typed)
  | _, _ => none

/-- Every event can be read back from its line. -/
theorem Event.ofWritten?_written (event : Event) :
    Event.ofWritten? event.message event.fields = some event := by
  cases event with
  | compacted flavour reserved =>
      cases flavour with
      | _ => rfl
  | destroyed flavour =>
      cases flavour with
      | _ => rfl
  | _ => rfl

theorem Event.written_inj {a b : Event} (hmessage : a.message = b.message)
    (hfields : a.fields = b.fields) : a = b := by
  have hread := a.ofWritten?_written
  rw [hmessage, hfields, b.ofWritten?_written] at hread
  exact (Option.some.inj hread).symm

end BlockBuffer
