import BlockBuffer.Proofs.Buffer.Refinement
import BlockBuffer.Proofs.ByteBuffer.Refinement

/-!
# Reachable buffers

A buffer is reachable if a run from its creation leaves it.  The run may have met refusals on
any heaps, cleanups that were broken off, and initializations for elements of other sizes.
-/

namespace BlockBuffer

def ByteBuffer.Reachable (config : Config) (buffer : ByteBuffer) : Prop :=
  ∃ commands, (ByteBuffer.run commands { config := config }).value.state = buffer

theorem ByteBuffer.Reachable.represents {config : Config} {buffer : ByteBuffer}
    (h : Reachable config buffer) : ∃ list, Represents config buffer list := by
  rcases h with ⟨commands, rfl⟩
  rcases run_follows config commands with ⟨_, _, hfollows⟩
  have hend := hfollows commands.length
  rw [List.take_length] at hend
  exact ⟨_, hend.state_related⟩

theorem ByteBuffer.Reachable.runAll {config : Config} {buffer : ByteBuffer}
    (h : Reachable config buffer) (later : List (Nat × Command)) :
    Reachable config (BlockBuffer.runAll ByteBuffer.step later buffer).value.state := by
  rcases h with ⟨commands, rfl⟩
  refine ⟨commands ++ later, ?_⟩
  rw [run, run, state_runAll_append]

theorem ByteBuffer.Reachable.step {config : Config} {buffer : ByteBuffer}
    (h : Reachable config buffer) (limit : Nat) (command : Command) :
    Reachable config (buffer.step limit command).value.state :=
  h.runAll [(limit, command)]

/-- At every moment there is room for exactly the reserved slots, and the elements lie in it.
-/
theorem ByteBuffer.Reachable.capacity_eq {config : Config} {buffer : ByteBuffer}
    (h : Reachable config buffer) :
    buffer.capacity = buffer.reserved * buffer.elementSize ∧
      buffer.bytes.length ≤ buffer.capacity := by
  rcases h.represents with ⟨list, hlist⟩
  cases hlist with
  | uninitialized => exact ⟨rfl, Nat.le_refl 0⟩
  | initialized _ hcounts =>
      refine ⟨rfl, ?_⟩
      rw [bytes_holding, hcounts.uniform.length_flatten]
      exact Nat.mul_le_mul_right _ hcounts.length_le_reserved

def Buffer.Reachable {α : Type} (elementSize : Nat) (config : Config)
    (buffer : Buffer α) : Prop :=
  ∃ fresh commands, Buffer.create elementSize config = .ok fresh ∧
    (Buffer.run commands fresh).value.state = buffer

theorem Buffer.Reachable.represents {α : Type} {elementSize : Nat} {config : Config}
    {buffer : Buffer α} (h : Reachable elementSize config buffer) :
    ∃ items, Represents elementSize config buffer items := by
  rcases h with ⟨fresh, commands, hcreate, rfl⟩
  rcases run_follows (represents_of_create hcreate) commands with ⟨_, _, hfollows⟩
  have hend := hfollows commands.length
  rw [List.take_length] at hend
  exact ⟨_, hend.state_related⟩

theorem Buffer.Reachable.capacity_eq {α : Type} {elementSize : Nat} {config : Config}
    {buffer : Buffer α} (h : Reachable elementSize config buffer) :
    buffer.capacity = buffer.header.reserved ∧ buffer.items.length ≤ buffer.capacity := by
  rcases h.represents with ⟨items, hitems⟩
  cases hitems with
  | intro _ _ hvalid hcount =>
    exact ⟨rfl, Nat.le_trans (Nat.le_of_eq hcount.symm) hvalid.length_le⟩

theorem Buffer.Reachable.runAll {α : Type} {elementSize : Nat} {config : Config}
    {buffer : Buffer α} (h : Reachable elementSize config buffer)
    (later : List (Nat × Command α)) :
    Reachable elementSize config
      (BlockBuffer.runAll Buffer.step later buffer).value.state := by
  rcases h with ⟨fresh, commands, hcreate, rfl⟩
  refine ⟨fresh, commands ++ later, hcreate, ?_⟩
  rw [run, run, state_runAll_append]

theorem Buffer.Reachable.step {α : Type} {elementSize : Nat} {config : Config}
    {buffer : Buffer α} (h : Reachable elementSize config buffer) (limit : Nat)
    (command : Command α) :
    Reachable elementSize config (buffer.step limit command).value.state :=
  h.runAll [(limit, command)]

end BlockBuffer
