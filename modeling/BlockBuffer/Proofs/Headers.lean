import BlockBuffer.Proofs.Buffer.Refinement
import BlockBuffer.Proofs.ByteBuffer.Refinement

/-!
# What a header accounts for

A header repeats what the storage of its buffer shows: the number of elements, the slots that
they have, and the bytes of these slots.  Both kinds of buffer write its fields at different
moments of their operations, and a callback may break off in between.  Between operations every
header of either kind tells the truth.
-/

namespace BlockBuffer

structure Header.Accounts (header : Header) (config : Config)
    (elementSize count : Nat) : Prop where
  elementSize_pos : 0 < header.elementSize
  elementSize_eq : header.elementSize = elementSize
  length_eq : header.length = count
  length_le : header.length ≤ header.reserved
  bytesAllocated_eq : header.bytesAllocated = 32 + header.reserved * header.elementSize
  bytesAllocated_lt : header.bytesAllocated < UInt64.size
  ceiling : header.reserved = 0 ∨
    ∀ ceiling ∈ config.maxBytes, header.bytesAllocated ≤ ceiling.toNat

theorem Reservation.Valid.accounts {r : Reservation} (h : r.Valid) :
    r.header.Accounts r.config r.header.elementSize r.header.length where
  elementSize_pos := h.elementSize_pos
  elementSize_eq := rfl
  length_eq := rfl
  length_le := h.length_le
  bytesAllocated_eq := by
    rw [h.bytesAllocated_eq, Nat.add_comm]
    rfl
  bytesAllocated_lt := by
    rw [h.bytesAllocated_eq]
    exact h.fits
  ceiling := by
    rcases h.ceiling with hnone | hadmits
    · exact Or.inl hnone
    · apply Or.inr
      rw [h.bytesAllocated_eq]
      exact (Config.exceeds_eq_false_iff _ _).mp hadmits.right

/-!
## Byte buffers
-/

namespace ByteBuffer

def sizeAfter : Option Nat → Command × Reply → Option Nat
  | _, (.init elementSize, .done (.ok _)) => some elementSize
  | given, _ => given

/-- The size given at the last initialization that succeeded. -/
def lastSize (history : List (Command × Reply)) : Option Nat :=
  history.foldl sizeAfter none

/-- A byte buffer whose header accounts for its bytes.  Before the initialization there is
nothing but the bytes of the header. -/
structure Accounted (config : Config) (given : Option Nat) (buffer : ByteBuffer) : Prop where
  config_eq : buffer.config = config
  initialized_iff : buffer.reservation.isSome = given.isSome
  uninitialized : given = none →
    buffer.header = { elementSize := 0, length := 0, reserved := 0, bytesAllocated := 32 } ∧
      buffer.bytes = []
  accounts : ∀ size ∈ given, buffer.header.Accounts config size buffer.elements.length
  bytes_length_eq : buffer.bytes.length = buffer.header.length * buffer.header.elementSize
  reservation_config_eq : ∀ r ∈ buffer.reservation, r.config = buffer.config

theorem Represents.accounted {config : Config} {buffer : ByteBuffer} {list : ByteList}
    (h : Represents config buffer list) : buffer.Accounted config list.size := by
  cases h with
  | uninitialized =>
      refine ⟨rfl, rfl, ?_, ?_, rfl, ?_⟩
      · intro _
        exact ⟨rfl, rfl⟩
      · intro size hsize
        cases hsize
      · intro r hr
        cases hr
  | @initialized r elements hconfig hcounts =>
      subst hconfig
      refine ⟨rfl, rfl, ?_, ?_, ?_, ?_⟩
      · intro hnone
        cases hnone
      · intro size hsize
        cases hsize
        rw [elements_holding hcounts, ← hcounts.length_eq]
        exact hcounts.valid.accounts
      · rw [bytes_holding, header_holding, hcounts.length_eq]
        exact hcounts.uniform.length_flatten
      · intro other hother
        cases hother
        rfl

end ByteBuffer

/-!
## The size that a list of byte strings has
-/

namespace ByteList

open ByteBuffer

variable (config : Config) (refusal : Option Nat) (list : ByteList)

theorem size_init (elementSize : Nat) :
    (list.init config elementSize).state.size =
      sizeAfter list.size
        (.init elementSize, .done (list.init config elementSize).result) := by
  unfold init
  split
  · rfl
  · split
    · rfl
    · rfl

theorem size_modify (index : Nat) (change : InPlace) :
    (list.modify index change).state.size = list.size := by
  unfold modify
  cases list.elements[index]? with
  | none => rfl
  | some element => rfl

theorem size_copyTo (index : Nat) (dest : Bytes) :
    (list.copyTo index dest).state.size = list.size := by
  unfold copyTo
  cases list.element index (some dest.length) with
  | error error => rfl
  | ok element => rfl

theorem size_copyFrom (index : Nat) (source : Bytes) :
    (list.copyFrom index source).state.size = list.size := by
  unfold copyFrom
  cases list.element index (some source.length) with
  | error error => rfl
  | ok element => rfl

theorem size_reserve : (list.reserve refusal).state.size = list.size := by
  unfold reserve
  split
  · rfl
  · cases refusal with
    | none => rfl
    | some requested => rfl

theorem size_compact : list.compact.state.size = list.size := by
  unfold compact
  split
  · rfl
  · rfl

theorem size_insert (index : Nat) (source : Bytes) :
    (list.insert refusal index source).state.size = list.size := by
  unfold insert
  split
  · rfl
  · split
    · rfl
    · split
      · rfl
      · cases refusal with
        | none => rfl
        | some requested => rfl

theorem size_remove (index : Nat) (dest : Option Bytes) :
    (list.remove index dest).state.size = list.size := by
  unfold remove
  cases list.element index (dest.map List.length) with
  | error error => rfl
  | ok element => rfl

theorem size_pop (place : Nat → Nat) (dest : Option Bytes) :
    (list.pop place dest).state.size = list.size := by
  unfold pop
  split
  · rfl
  · split
    · rfl
    · exact size_remove list _ dest

theorem size_destroyWith (change : InPlace) (interruptAt : Option Nat) :
    (list.destroyWith change interruptAt).state.size = list.size := by
  unfold destroyWith
  split
  · rfl
  · dsimp only
    cases (sweep change.edit interruptAt list.elements).ending with
    | completed => rfl
    | interrupted => rfl

theorem size_destroy : list.destroy.state.size = list.size := by
  unfold destroy
  split
  · rfl
  · rfl

theorem size_step (command : Command) :
    (list.step config refusal command).state.size =
      sizeAfter list.size (command, (list.step config refusal command).result) := by
  cases command with
  | init elementSize => exact size_init config list elementSize
  | requiredBytes length => rfl
  | get index => rfl
  | modify index change => exact size_modify list index change
  | copyTo index dest => exact size_copyTo list index dest
  | copyFrom index source => exact size_copyFrom list index source
  | observe probes => rfl
  | reserve amount => exact size_reserve refusal list
  | compact => exact size_compact list
  | insert index source => exact size_insert refusal list index source
  | pushFront source => exact size_insert refusal list 0 source
  | pushBack source => exact size_insert refusal list _ source
  | remove index dest => exact size_remove list index dest
  | popFront dest => exact size_pop list _ dest
  | popBack dest => exact size_pop list _ dest
  | destroy => exact size_destroy list
  | destroyWith change interruptAt => exact size_destroyWith list change interruptAt
  | copy => rfl

theorem size_replay (entries : List (Option Nat × Command)) :
    (replay (step config) entries list).state.size =
      ((entries.map Prod.snd).zip (replay (step config) entries list).result).foldl sizeAfter
        list.size := by
  induction entries generalizing list with
  | nil => rfl
  | cons entry rest ih =>
      -- Only the reply tells whether an initialization went through.
      rcases entry with ⟨refusal, command⟩
      rw [replay, List.map_cons, List.zip_cons_cons, List.foldl_cons,
        ← size_step config refusal list]
      exact ih (list.step config refusal command).state

end ByteList

/-!
## Whole runs
-/

theorem ByteBuffer.run_accounted (config : Config) (commands : List (Nat × Command)) :
    let run := ByteBuffer.run commands { config := config }
    run.faults = [] ∧
      run.value.state.Accounted config
        (lastSize ((commands.map Prod.snd).zip run.value.result)) := by
  rcases run_follows config commands with ⟨refusals, hlength, hfollows⟩
  have hend := hfollows commands.length
  have hsame : refusals.length = (commands.map Prod.snd).length := by
    rw [hlength, List.length_map]
  have hcount : (refusals.zip (commands.map Prod.snd)).length = commands.length := by
    rw [List.length_zip, hsame, Nat.min_self, List.length_map]
  have hcommands :
      (refusals.zip (commands.map Prod.snd)).map Prod.snd = commands.map Prod.snd :=
    List.map_snd_zip (Nat.le_of_eq hsame.symm)
  rw [List.take_length, List.take_of_length_le (Nat.le_of_eq hcount)] at hend
  have hsize := ByteList.size_replay config {} (refusals.zip (commands.map Prod.snd))
  rw [hcommands, ← hend.result_eq] at hsize
  have haccounted := hend.state_related.accounted
  rw [hsize] at haccounted
  exact ⟨hend.faults_eq, haccounted⟩

namespace Buffer

variable {α : Type} {elementSize : Nat} {config : Config}

structure Accounted (config : Config) (elementSize : Nat) (buffer : Buffer α) : Prop where
  config_eq : buffer.config = config
  accounts : buffer.header.Accounts config elementSize buffer.items.length

theorem Represents.accounted {buffer : Buffer α} {items : List α}
    (h : Represents elementSize config buffer items) :
    buffer.Accounted config elementSize := by
  cases h with
  | @intro _ r hsize hconfig hvalid hcount =>
      refine ⟨hconfig, ?_⟩
      have haccounts := hvalid.accounts
      rw [hsize, hconfig, hcount] at haccounts
      exact haccounts

theorem run_accounted {fresh : Buffer α} (h : create elementSize config = .ok fresh)
    (commands : List (Nat × Command α)) :
    let run := Buffer.run commands fresh
    run.faults = [] ∧ run.value.state.Accounted config elementSize := by
  rcases run_follows (represents_of_create h) commands with ⟨refusals, _, hfollows⟩
  have hend := hfollows commands.length
  rw [List.take_length] at hend
  exact ⟨hend.faults_eq, hend.state_related.accounted⟩

end Buffer

/-- Whatever is done to a buffer of either kind from its creation on, on whatever heaps, no
fault is met and the header accounts for what the buffer holds. -/
theorem headers_account_for_runs :
    (∀ (config : Config) (commands : List (Nat × ByteBuffer.Command)),
      let run := ByteBuffer.run commands { config := config }
      run.faults = [] ∧
        run.value.state.Accounted config
          (ByteBuffer.lastSize ((commands.map Prod.snd).zip run.value.result))) ∧
    ∀ (α : Type) (elementSize : Nat) (config : Config) (fresh : Buffer α)
      (commands : List (Nat × Buffer.Command α)),
        Buffer.create elementSize config = .ok fresh →
      let run := Buffer.run commands fresh
      run.faults = [] ∧ run.value.state.Accounted config elementSize := by
  constructor
  · exact ByteBuffer.run_accounted
  · intro α elementSize config fresh commands hcreate
    exact Buffer.run_accounted hcreate commands

theorem headers_account_for_an_interrupted_cleanup :
    let fresh : Buffer Bool :=
      { items := [], reservation := { header := .unreserved 4, config := {} } }
    let commands : List (Nat × Buffer.Command Bool) :=
      [(96, .pushBack true), (0, .destroyWith (some 0))]
    Buffer.create 4 {} = .ok fresh ∧
      (Buffer.run commands fresh).faults = [] ∧
        (Buffer.run commands fresh).value.state.Accounted {} 4 :=
  ⟨rfl, headers_account_for_runs.right Bool 4 {} _ _ rfl⟩

end BlockBuffer
