import BlockBuffer.Proofs.Reachability

/-!
# Cleaning up a byte buffer

A cleanup hands over the elements as they are stored, each once and in order, and leaves a
buffer as good as new.  A callback that breaks off leaves all elements where they are, those
handed over as it changed them, and the header untouched.  What is left is a buffer like any
other, and a later cleanup starts over.
-/

namespace BlockBuffer
namespace ByteBuffer

structure Cleared (config : Config) (buffer : ByteBuffer)
    (cleanup : Traced (Outcome ByteBuffer (Result (CleanupReport Bytes)))) : Prop where
  faults_eq : cleanup.faults = []
  result_eq : cleanup.value.result = .ok { ending := .completed, seen := buffer.elements }
  bytes_eq : cleanup.value.state.bytes = []
  header_eq : cleanup.value.state.header = ⟨buffer.elementSize, 0, 0, 32⟩
  config_eq : cleanup.value.state.config = config
  /-- The buffer is the one that an initialization for elements of this size leaves. -/
  init_eq : (ByteBuffer.init { config := config } buffer.elementSize).value =
    { result := .ok (), state := cleanup.value.state }

/-- A cleanup that the callback broke off at a call, counted from zero. -/
structure BrokenOff (config : Config) (buffer : ByteBuffer) (change : InPlace) (calls : Nat)
    (cleanup : Traced (Outcome ByteBuffer (Result (CleanupReport Bytes)))) : Prop where
  faults_eq : cleanup.faults = []
  events_eq : cleanup.events = []
  result_eq : cleanup.value.result =
    .ok { ending := .interrupted, seen := buffer.elements.take (calls + 1) }
  header_eq : cleanup.value.state.header = buffer.header
  config_eq : cleanup.value.state.config = config
  elements_eq : cleanup.value.state.elements =
    (buffer.elements.take (calls + 1)).map change.edit ++ buffer.elements.drop (calls + 1)
  bytes_eq : cleanup.value.state.bytes = cleanup.value.state.elements.flatten
  again : ∀ (later : InPlace) (interruptAt : Option Nat),
    (∀ calls ∈ interruptAt, buffer.length ≤ calls) →
      (cleanup.value.state.destroyWith later interruptAt).value.result =
        .ok { ending := .completed, seen := cleanup.value.state.elements }
  reachable : Reachable config cleanup.value.state
  actsAs : ActsAs ByteBuffer.step (ByteList.step config) Shows cleanup.value.state
    { size := some buffer.elementSize, elements := cleanup.value.state.elements }

variable {config : Config} {buffer : ByteBuffer} {r : Reservation} {elements : List Bytes}

theorem cleared_holding (hconfig : r.config = config) (hcounts : r.Counts elements)
    (change : InPlace) {interruptAt : Option Nat}
    (hcalls : ∀ calls ∈ interruptAt, elements.length ≤ calls) :
    Cleared config (holding r elements)
      ((holding r elements).destroyWith change interruptAt) := by
  subst hconfig
  have hwalk := sweep_of_unbroken change.edit hcalls
  have hending : (sweep change.edit interruptAt elements).ending = .completed := by rw [hwalk]
  rw [destroyWith_of_completed hcounts hending, Reservation.release_eq hcounts.valid,
    Reservation.released_eq, hwalk]
  constructor
  · rfl
  · rw [elements_holding hcounts]
    rfl
  · rfl
  · rfl
  · rfl
  · have hfresh := Reservation.create_of_pos hcounts.valid.elementSize_pos
      hcounts.valid.blockSize_ne
    rw [elementSize_holding, init_of_create hfresh]
    rfl

def leftBehind (change : InPlace) (calls : Nat) (elements : List Bytes) : List Bytes :=
  (elements.take (calls + 1)).map change.edit ++ elements.drop (calls + 1)

theorem destroyWith_of_lt (hcounts : r.Counts elements) (change : InPlace) {calls : Nat}
    (hcalls : calls < elements.length) :
    (holding r elements).destroyWith change (some calls) =
      pure { result := .ok { ending := .interrupted, seen := elements.take (calls + 1) },
             state := holding r (leftBehind change calls elements) } := by
  have hwalk := sweep_of_lt change.edit hcalls
  have hending : (sweep change.edit (some calls) elements).ending = .interrupted := by
    rw [hwalk]
  rw [destroyWith_of_interrupted hcounts hending, hwalk]
  rfl

theorem counts_leftBehind (hcounts : r.Counts elements) (change : InPlace) {calls : Nat}
    (hcalls : calls < elements.length) : r.Counts (leftBehind change calls elements) := by
  have hchanged := counts_sweep hcounts change (some calls)
  rwa [sweep_of_lt change.edit hcalls] at hchanged

theorem brokenOff_holding (hreach : Reachable config (holding r elements))
    (hconfig : r.config = config) (hcounts : r.Counts elements) (change : InPlace)
    {calls : Nat} (hcalls : calls < elements.length) :
    BrokenOff config (holding r elements) change calls
      ((holding r elements).destroyWith change (some calls)) := by
  have hnext : Reachable config
      ((holding r elements).destroyWith change (some calls)).value.state :=
    hreach.step 0 (.destroyWith change (some calls))
  have hchanged := counts_leftBehind hcounts change hcalls
  have hleft := elements_holding hchanged
  have hlength : (holding r elements).length = (leftBehind change calls elements).length :=
    length_holding hchanged
  rw [destroyWith_of_lt hcounts change hcalls] at hnext ⊢
  constructor
  · rfl
  · rfl
  · rw [elements_holding hcounts]
    rfl
  · rfl
  · exact hconfig
  · rw [elements_holding hcounts]
    exact hleft
  · exact congrArg List.flatten hleft.symm
  · intro later interruptAt hlater
    rw [hlength] at hlater
    exact (cleared_holding hconfig hchanged later hlater).result_eq
  · exact hnext
  · show ActsAs _ (ByteList.step config) _ (holding r (leftBehind change calls elements))
      { size := some r.header.elementSize,
        elements := (holding r (leftBehind change calls elements)).elements }
    rw [hleft]
    exact (Represents.initialized hconfig hchanged).actsAs

/-- Whatever was done to an initialized buffer before, and wherever the callback of a cleanup
breaks off. -/
theorem destroyWith_clears_or_breaks_off (config : Config) (buffer : ByteBuffer)
    (hreach : Reachable config buffer) (hinitialized : buffer.isInitialized = true)
    (change : InPlace) :
    buffer.Shows { size := some buffer.elementSize, elements := buffer.elements } ∧
      (∀ interruptAt : Option Nat, (∀ calls ∈ interruptAt, buffer.length ≤ calls) →
        Cleared config buffer (buffer.destroyWith change interruptAt)) ∧
      ∀ calls < buffer.length,
        BrokenOff config buffer change calls (buffer.destroyWith change (some calls)) := by
  rcases hreach.represents with ⟨list, hlist⟩
  have hshows := hlist.shows
  cases hlist with
  | uninitialized => cases hinitialized
  | @initialized r elements hconfig hcounts =>
      have hlength := length_holding hcounts
      refine ⟨?_, ?_, ?_⟩
      · rw [elements_holding hcounts]
        exact hshows
      · intro interruptAt hcalls
        rw [hlength] at hcalls
        exact cleared_holding hconfig hcounts change hcalls
      · intro calls hcalls
        rw [hlength] at hcalls
        exact brokenOff_holding hreach hconfig hcounts change hcalls

theorem destroyWith_breaks_off_at_the_second_element :
    let config : Config := { minCapacity := 1 }
    let commands : List (Nat × Command) :=
      [(99, .init 2), (99, .pushBack [1, 2]), (99, .pushBack [3, 4]), (99, .pushBack [5, 6])]
    let buffer : ByteBuffer :=
      { config := config, reservation := some ⟨⟨2, 3, 9, 50⟩, config⟩,
        bytes := [1, 2, 3, 4, 5, 6], capacity := 18 }
    let change : InPlace := .xor 255
    (run commands { config := config }).value.state = buffer ∧ Reachable config buffer ∧
      buffer.isInitialized = true ∧ 1 < buffer.length ∧
      BrokenOff config buffer change 1 (buffer.destroyWith change (some 1)) ∧
      Cleared config buffer (buffer.destroyWith change (some 3)) ∧
      (buffer.destroyWith change (some 1)).value.state.bytes = [254, 253, 252, 251, 5, 6] := by
  intro config commands buffer change
  have hrun : (run commands { config := config }).value.state = buffer := by decide +kernel
  have hreach : Reachable config buffer := ⟨commands, hrun⟩
  have hlength : 1 < buffer.length := by decide
  have hunbroken : ∀ calls ∈ some 3, buffer.length ≤ calls := by
    intro calls hcalls
    cases hcalls
    exact Nat.le_refl 3
  rcases destroyWith_clears_or_breaks_off config buffer hreach rfl change with
    ⟨_, hcleared, hbroken⟩
  exact ⟨hrun, hreach, rfl, hlength, hbroken 1 hlength, hcleared (some 3) hunbroken, by decide⟩

end ByteBuffer
end BlockBuffer
