import BlockBuffer.Proofs.Buffer.Moves
import BlockBuffer.Proofs.ByteBuffer.Moves
import BlockBuffer.Proofs.Refusals

/-!
# The two kinds of buffer as players

What the header and the log of a reservation come to depends on the moves alone.  A kind of
buffer is whatever plays a move with each command and stays as it was when the command is
refused.  Both kinds of buffer do.
-/

namespace BlockBuffer

/-- How the commands of a kind of buffer are carried out, and how they and their answers are
read. -/
structure Reading (σ κ ρ : Type) where
  step : Nat → σ → κ → Traced (Outcome σ ρ)
  header : σ → Header
  refusal : ρ → Option BufferError
  role : κ → Role
  interrupted : ρ → Bool

/-- A kind of buffer under a configuration, as far as its reservation goes. -/
structure Kind (σ κ ρ : Type) extends Reading σ κ ρ where
  config : Config
  move : σ → κ → Move
  keeps : σ → Reservation → Prop
  header_eq : ∀ {state r}, keeps state r → header state = r.header
  config_eq : ∀ {state r}, keeps state r → r.config = config
  valid_or_idle : ∀ {state r}, keeps state r → ∀ command, r.Valid ∨ (move state command).Idle
  plays : ∀ {state r} limit, keeps state r → ∀ command,
    Lockstep keeps (fun reply result => refusal reply = BlockBuffer.refusal result)
      (step limit state command) (r.play limit (move state command))
  unchanged : ∀ {state r} limit, keeps state r → ∀ command error,
    refusal (step limit state command).value.result = some error →
      (step limit state command).value.state = state
  serves : ∀ {state r} limit, keeps state r → ∀ command, role command ≠ .reserves →
    interrupted (step limit state command).value.result = false →
      (move state command).Serves (role command)

namespace Kind

variable {σ κ ρ : Type} {kind : Kind σ κ ρ} {state : σ} {r : Reservation}

/-!
## Runs
-/

theorem keeps_runAll (hkeeps : kind.keeps state r) (commands : List (Nat × κ)) :
    ∃ final, kind.keeps (runAll kind.step commands state).value.state final := by
  induction commands generalizing state r with
  | nil => exact ⟨r, hkeeps⟩
  | cons entry rest ih =>
      rcases entry with ⟨limit, command⟩
      exact ih (kind.plays limit hkeeps command).state_related

theorem faults_runAll (hkeeps : kind.keeps state r) (commands : List (Nat × κ)) :
    (runAll kind.step commands state).faults = [] := by
  induction commands generalizing state r with
  | nil => rfl
  | cons entry rest ih =>
      rcases entry with ⟨limit, command⟩
      have hplays := kind.plays limit hkeeps command
      rw [faults_runAll_cons, hplays.left_faults, ih hplays.state_related]
      rfl

end Kind

/-!
## Both kinds of buffer
-/

theorem refused_of_refusal {ρ : Type} {result : Result ρ} {error : BufferError}
    (h : refusal result = some error) : Refused result := by
  cases result with
  | ok _ => cases h
  | error error => exact ⟨error, rfl⟩

namespace ByteBuffer

theorem Reply.failed_of_refusal {reply : Reply} {error : BufferError}
    (h : reply.refusal = some error) : reply.Failed := by
  cases reply with
  | done result => exact refused_of_refusal h
  | size result => exact refused_of_refusal h
  | element _ => cases h
  | observed _ => cases h
  | delivered delivery => exact refused_of_refusal h
  | popped delivery => exact Or.inl (refused_of_refusal h)
  | cleaned result => exact refused_of_refusal h

def reading : Reading ByteBuffer Command Reply where
  step := step
  header := header
  refusal := Reply.refusal
  role := Command.role
  interrupted := Reply.interrupted

def kind (config : Config) : Kind ByteBuffer Command Reply where
  toReading := reading
  config := config
  move := move
  keeps := Keeps config
  header_eq h := h.header_eq
  config_eq h := h.config_eq
  valid_or_idle h := h.valid_or_idle
  plays limit h command := step_plays limit h command
  unchanged limit h command _ herror := by
    rcases h.represents with ⟨list, hlist⟩
    exact (step_harmless limit hlist command (Reply.failed_of_refusal herror)).right.left
  serves limit h command := move_serves limit h command

end ByteBuffer

namespace Buffer

variable {α : Type}

theorem Reply.failed_of_refusal {reply : Reply α} {error : BufferError}
    (h : reply.refusal = some error) : reply.Failed := by
  cases reply with
  | done result => exact refused_of_refusal h
  | taken result => exact refused_of_refusal h
  | unit => cases h
  | size _ => cases h
  | value _ => cases h
  | written _ => cases h
  | observed _ => cases h
  | cleaned _ => cases h

def reading (α : Type) : Reading (Buffer α) (Command α) (Reply α) where
  step := step
  header := header
  refusal := Reply.refusal
  role := Command.role
  interrupted := Reply.interrupted

def kind (α : Type) (elementSize : Nat) (config : Config) :
    Kind (Buffer α) (Command α) (Reply α) where
  toReading := reading α
  config := config
  move := move
  keeps := Keeps elementSize config
  header_eq h := h.header_eq
  config_eq h := h.config_eq
  valid_or_idle h _ := Or.inl h.valid
  plays limit h command := step_plays limit h command
  unchanged limit h command _ herror :=
    (step_harmless limit h.represents command (Reply.failed_of_refusal herror)).right.left
  serves limit _ command := move_serves limit _ command

end Buffer
end BlockBuffer
