import BlockBuffer.Proofs.Kinds

/-!
# No fault is reachable

Most sizes are computed on the promise that they fit a word, and most bytes are addressed on
the promise that they are there.  What a fault stands for is the breach of such a promise: a
sum or a product that is no word, a difference below zero, a range outside of the bytes, a copy
between places of different lengths, pieces of no bytes, more elements than slots, a shrink
that adds slots.  No run breaks a promise, whatever its sizes, indices, byte strings and heaps
are, and whatever the configuration is, and neither does the end of a buffer.
-/

namespace BlockBuffer

theorem Config.faults_capacity (config : Config) (length : Nat) :
    (config.capacity length).faults = [] := by
  rw [capacity_eq_pure]
  rfl

/-!
## Byte buffers
-/

namespace ByteBuffer

variable {config : Config} {buffer : ByteBuffer} {r : Reservation}

/-- A run from a buffer on without a fault, whether it goes on or the buffer is given up then.
-/
structure Flawless (start : ByteBuffer) (commands : List (Nat × Command)) : Prop where
  run_faults : (run commands start).faults = []
  free_faults : (run commands start).value.state.free.faults = []
  freeWith_faults : ∀ (change : InPlace) (interruptAt : Option Nat),
    ((run commands start).value.state.freeWith change interruptAt).faults = []

theorem faults_freeWith (h : Keeps config buffer r) (change : InPlace)
    (interruptAt : Option Nat) :
    (buffer.freeWith change interruptAt).faults = [] := by
  have hplays := destroyWith_plays 0 h change interruptAt
  unfold freeWith
  rw [Traced.faults_bind, hplays.left_faults]
  rfl

theorem faults_free (h : Keeps config buffer r) : buffer.free.faults = [] := by
  have hplays := destroyWith_plays 0 h .id none
  unfold free destroy
  rw [Traced.faults_bind, Traced.faults_bind, hplays.left_faults]
  rfl

theorem flawless (h : Keeps config buffer r) (commands : List (Nat × Command)) :
    buffer.Flawless commands := by
  rcases (kind config).keeps_runAll h commands with ⟨final, hfinal⟩
  have hfaults := (kind config).faults_runAll h commands
  constructor
  · rw [run]
    exact hfaults
  · rw [run]
    exact faults_free hfinal
  · intro change interruptAt
    rw [run]
    exact faults_freeWith hfinal change interruptAt

theorem faults_ofElementSize (elementSize : Nat) :
    (ofElementSize elementSize).faults = [] := by
  have hnew : Keeps {} {} { header := .unreserved 0, config := {} } := .uninitialized
  have hplays := init_plays 0 hnew elementSize
  unfold ofElementSize
  rw [Traced.faults_bind, hplays.left_faults]
  rfl

theorem keeps_ofElementSize {elementSize : Nat}
    (h : (ofElementSize elementSize).value = .ok buffer) :
    ∃ r, Keeps {} buffer r := by
  have hnew : Keeps {} {} { header := .unreserved 0, config := {} } := .uninitialized
  have hplays := init_plays 0 hnew elementSize
  unfold ofElementSize at h
  rw [Traced.value_bind, Traced.value_pure] at h
  cases hresult : (ByteBuffer.init {} elementSize).value.result with
  | error error =>
      rw [hresult] at h
      cases h
  | ok _ =>
      rw [hresult] at h
      cases h
      exact ⟨_, hplays.state_related⟩

end ByteBuffer

/-!
## Buffers of values
-/

namespace Buffer

variable {α : Type} {elementSize : Nat} {config : Config} {buffer : Buffer α} {r : Reservation}

structure Flawless (start : Buffer α) (commands : List (Nat × Command α)) : Prop where
  run_faults : (run commands start).faults = []
  free_faults : (run commands start).value.state.free.faults = []
  freeWith_faults : ∀ interruptAt : Option Nat,
    ((run commands start).value.state.freeWith interruptAt).faults = []

theorem faults_freeWith (h : Keeps elementSize config buffer r) (interruptAt : Option Nat) :
    (buffer.freeWith interruptAt).faults = [] := by
  have hplays := destroyWith_plays 0 h interruptAt
  unfold freeWith
  rw [Traced.faults_bind, hplays.left_faults]
  rfl

theorem faults_free (h : Keeps elementSize config buffer r) : buffer.free.faults = [] := by
  have hplays := destroyWith_plays 0 h none
  unfold free destroy
  rw [Traced.faults_bind, Traced.faults_bind, hplays.left_faults]
  rfl

theorem flawless (h : Keeps elementSize config buffer r) (commands : List (Nat × Command α)) :
    buffer.Flawless commands := by
  rcases (kind α elementSize config).keeps_runAll h commands with ⟨final, hfinal⟩
  have hfaults := (kind α elementSize config).faults_runAll h commands
  constructor
  · rw [run]
    exact hfaults
  · rw [run]
    exact faults_free hfinal
  · intro interruptAt
    rw [run]
    exact faults_freeWith hfinal interruptAt

end Buffer

/-- The capacity formula meets no fault under any configuration, and no run on a buffer of
either kind meets one, however the buffer was created and however it is given up. -/
theorem no_fault_is_reachable :
    (∀ (config : Config) (length : Nat), (config.capacity length).faults = []) ∧
    (∀ (config : Config) (commands : List (Nat × ByteBuffer.Command)),
      ByteBuffer.Flawless { config := config } commands) ∧
    (∀ elementSize : Nat, (ByteBuffer.ofElementSize elementSize).faults = [] ∧
      ∀ buffer, (ByteBuffer.ofElementSize elementSize).value = .ok buffer →
        ∀ commands : List (Nat × ByteBuffer.Command), buffer.Flawless commands) ∧
    ∀ (α : Type) (elementSize : Nat) (config : Config) (buffer : Buffer α),
      Buffer.create elementSize config = .ok buffer →
        ∀ commands : List (Nat × Buffer.Command α), buffer.Flawless commands := by
  refine ⟨Config.faults_capacity, ?_, ?_, ?_⟩
  · intro config commands
    exact ByteBuffer.flawless .uninitialized commands
  · intro elementSize
    refine ⟨ByteBuffer.faults_ofElementSize elementSize, ?_⟩
    intro buffer hcreated commands
    rcases ByteBuffer.keeps_ofElementSize hcreated with ⟨r, hkeeps⟩
    exact ByteBuffer.flawless hkeeps commands
  · intro α elementSize config buffer hcreate commands
    exact Buffer.flawless (Buffer.represents_of_create hcreate).keeps commands

theorem no_fault_is_reachable_at_the_greatest_capacity :
    let config : Config := { minCapacity := 18446744073709551615 }
    let bytes : ByteBuffer :=
      { reservation := some { header := .unreserved 3, config := {} } }
    let values : Buffer Bool :=
      { items := [], reservation := { header := .unreserved 4, config := config } }
    (ByteBuffer.ofElementSize 3).value = .ok bytes ∧
      bytes.Flawless [(0, .remove 0 none), (9, .pushBack [1, 2, 3]), (9, .popFront none)] ∧
      Buffer.create 4 config = .ok values ∧
      values.Flawless [(9, .requiredBytes 1), (9, .pushBack true), (0, .reserve 2),
        (0, .popBack)] := by
  intro config bytes values
  rcases no_fault_is_reachable with ⟨_, _, hbytes, hvalues⟩
  exact ⟨rfl, (hbytes 3).right bytes rfl _, rfl, hvalues Bool 4 config values rfl _⟩

end BlockBuffer
