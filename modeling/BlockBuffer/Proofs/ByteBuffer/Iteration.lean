import BlockBuffer.Proofs.DoubleEnded
import BlockBuffer.Proofs.Reachability

/-!
# Iterating over a byte buffer

A cursor cuts the bytes of a buffer into pieces from both ends, and an access computes the
place of an element from its index.  The two agree: the cursor of a buffer is a traversal of
the elements that accesses give, whatever it is asked and however it is duplicated on the way.
-/

namespace BlockBuffer
namespace ByteBuffer

open DoubleEnded

structure IteratedBy (buffer : ByteBuffer) (cursor : Cursor) : Prop where
  cursor_eq : buffer.cursor = pure cursor
  length_eq : buffer.elements.length = buffer.length
  get_eq : ∀ index, buffer.get index = pure buffer.elements[index]?
  size_eq : ∀ element ∈ buffer.elements, element.length = buffer.elementSize
  traverses : ∀ probes, Traverses buffer.elements cursor probes
  /-- A duplicate made at any moment traverses what is left then. -/
  duplicate : ∀ probes later,
    Traverses (between buffer.elements (taken .next probes cursor).length
      (taken .nextBack probes cursor).length) (after probes cursor) later
  bytes_eq : (taken .next (List.replicate buffer.length .next) cursor).flatten = buffer.bytes

/-- The cursor of a buffer is a view of its elements from both ends, also before the
initialization. -/
theorem cursor_iterates (config : Config) (buffer : ByteBuffer)
    (hreach : Reachable config buffer) :
    ∃ cursor, buffer.IteratedBy cursor := by
  rcases hreach.represents with ⟨list, hlist⟩
  rcases cursor_observes hlist with ⟨cursor, hcursor, hsame⟩
  have hshows := hlist.shows
  rw [← hlist.elements_eq] at hsame
  have hforwards : taken .next (List.replicate buffer.length .next) cursor =
      buffer.elements := by
    have hlength : buffer.length = buffer.elements.length := by
      rw [hlist.elements_eq]
      exact hshows.length_eq
    rw [taken_congr hsame, hlength]
    exact taken_all buffer.elements
  refine ⟨cursor, ?_⟩
  constructor
  · exact hcursor
  · rw [hlist.elements_eq]
    exact hshows.length_eq.symm
  · intro index
    rw [hlist.elements_eq]
    exact hshows.get_eq index
  · intro element hmem
    rw [hlist.elements_eq] at hmem
    exact hshows.length_of_mem hmem
  · intro probes
    exact (traverses_list buffer.elements probes).congr hsame
  · intro probes later
    have hleft := after_list probes buffer.elements
    rw [taken_congr hsame, taken_congr hsame, ← hleft]
    exact (traverses_list _ later).congr (observeAll_after_congr hsame probes)
  · rw [hforwards, hlist.elements_eq]
    exact hshows.bytes_eq.symm

theorem cursor_iterates_over_three_elements :
    let config : Config := { minCapacity := 1 }
    let commands : List (Nat × Command) :=
      [(99, .init 2), (99, .pushBack [3, 4]), (99, .pushBack [5, 6]), (99, .pushFront [1, 2])]
    let buffer : ByteBuffer :=
      { config := config, reservation := some ⟨⟨2, 3, 9, 50⟩, config⟩,
        bytes := [1, 2, 3, 4, 5, 6], capacity := 18 }
    let cursor : Cursor := { size := 2, bytes := [1, 2, 3, 4, 5, 6] }
    let probes : List Probe := [.nextBack, .backwards, .next, .length, .next, .next, .nextBack]
    (run commands { config := config }).value.state = buffer ∧ Reachable config buffer ∧
      buffer.IteratedBy cursor ∧
      observeAll probes cursor =
        [.item (some [5, 6]), .items [[3, 4], [1, 2]], .item (some [1, 2]), .length 1,
          .item (some [3, 4]), .item none, .item none] := by
  intro config commands buffer cursor probes
  have hrun : (run commands { config := config }).value.state = buffer := by decide +kernel
  have hreach : Reachable config buffer := ⟨commands, hrun⟩
  have hcursor : buffer.cursor = pure cursor := by cbv
  rcases cursor_iterates config buffer hreach with ⟨other, hother⟩
  have hsame : cursor = other :=
    congrArg Traced.value (hcursor.symm.trans hother.cursor_eq)
  rw [← hsame] at hother
  exact ⟨hrun, hreach, hother, by decide⟩

end ByteBuffer
end BlockBuffer
