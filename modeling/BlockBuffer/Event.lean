/-!
# The event log

Every change of a reservation, every refused growth and every change in the life of a buffer
leaves an event.  An event has a level, a message and a few numeric fields, in the order in
which they are written.
-/

namespace BlockBuffer

inductive Level where
  | trace
  | debug
  | warn
deriving DecidableEq, Repr

inductive Flavour where
  | raw
  | typed
deriving DecidableEq, Repr

/-- What a buffer reports about itself.  Reservations are counted in slots. -/
inductive Event where
  /-- The reservation went from `before` to `after` slots, which takes `bytes` bytes with the
  header. -/
  | grown (before after bytes : Nat)
  | shrunk (before after : Nat)
  /-- A growth for `length` elements was refused; the next attempt has room for `slack` more.
  -/
  | backingOff (length slack : Nat)
  /-- A growth for exactly `length` elements was refused, so `reserved` slots stay. -/
  | growthFailed (length reserved : Nat)
  | ready (elementSize : Nat)
  | compacted (flavour : Flavour) (reserved : Nat)
  | destroyed (flavour : Flavour)
deriving DecidableEq, Repr

namespace Event

def level : Event → Level
  | grown .. => .trace
  | shrunk .. => .trace
  | backingOff .. => .warn
  | growthFailed .. => .warn
  | ready .. => .debug
  | compacted .. => .debug
  | destroyed .. => .debug

def message : Event → String
  | grown .. => "buffer reservation grown"
  | shrunk .. => "buffer reservation shrunk"
  | backingOff .. => "buffer growth backing off"
  | growthFailed .. => "buffer growth failed"
  | ready .. => "raw buffer initialized"
  | compacted .raw _ => "raw buffer compacted"
  | compacted .typed _ => "buffer compacted"
  | destroyed .raw => "raw buffer destroyed"
  | destroyed .typed => "buffer destroyed"

def fields : Event → List (String × Nat)
  | grown before after bytes => [("from", before), ("to", after), ("bytes", bytes)]
  | shrunk before after => [("from", before), ("to", after)]
  | backingOff length slack => [("length", length), ("slack", slack)]
  | growthFailed length reserved => [("length", length), ("reserved", reserved)]
  | ready elementSize => [("element_size", elementSize)]
  | compacted _ reserved => [("reserved", reserved)]
  | destroyed _ => []

end Event

end BlockBuffer
