import BlockBuffer.Proofs.Capacity
import BlockBuffer.Proofs.Obliviousness

/-!
# Removals settle the reservation

Each removal compares the slots that are there with the recommended ones for the elements that
are left.  The recommended number shrinks with the elements, so of several removals only the
last one counts: they leave the slots that one shrink to the final length would leave, wherever
the elements were taken out.
-/

namespace BlockBuffer

/-- The slots that the shrink policy leaves of `reserved` ones for `length` elements. -/
def Config.settled (config : Config) (reserved length : Nat) : Nat :=
  match config.shrink with
  | .deferred => reserved
  | .lazy => min reserved (config.recommended length)
  | .eager => min reserved (config.recommended length)

/-- A removal that took an element out and left as many slots as there are elements, or more,
and no more slots than before. -/
structure Sheds {σ κ ρ : Type} (reading : Reading σ κ ρ) (entry : Entry σ κ ρ) : Prop where
  refusal_eq : reading.refusal entry.reply = none
  length_eq : (reading.header entry.after).length + 1 = (reading.header entry.before).length
  reserved_le : (reading.header entry.after).reserved ≤ (reading.header entry.before).reserved
  length_le : (reading.header entry.after).length ≤ (reading.header entry.after).reserved

def Header.settledTo (config : Config) (length : Nat) (header : Header) : Header :=
  { header with
    length := length
    reserved := config.settled header.reserved length
    bytesAllocated := config.settled header.reserved length * header.elementSize + headerSize }

/-- What removals in a row leave, at least one of them. -/
structure Settles {σ κ ρ : Type} (reading : Reading σ κ ρ) (config : Config)
    (removals : List (Nat × κ)) (start : σ) : Prop where
  faults_eq : (runAll reading.step removals start).faults = []
  sheds : ∀ entry ∈ history reading.step removals start, Sheds reading entry
  count_le : removals.length ≤ (reading.header start).length
  header_eq :
    reading.header (runAll reading.step removals start).value.state =
      (reading.header start).settledTo config ((reading.header start).length - removals.length)
  /-- One shrink of the reservation to the final length ends in the same header. -/
  at_once :
    reading.header (runAll reading.step removals start).value.state =
      (Reservation.withLength ⟨reading.header start, config⟩
        ((reading.header start).length - removals.length)).settle.value.header

/-!
## Settling twice
-/

namespace Config

variable (config : Config) {reserved length shorter longer : Nat}

theorem settled_le (reserved length : Nat) : config.settled reserved length ≤ reserved := by
  unfold settled
  cases config.shrink with
  | deferred => exact Nat.le_refl _
  | lazy => exact Nat.min_le_left _ _
  | eager => exact Nat.min_le_left _ _

theorem settled_settled (h : shorter ≤ longer) :
    config.settled (config.settled reserved longer) shorter =
      config.settled reserved shorter := by
  have hmono : config.recommended shorter ≤ config.recommended longer :=
    config.recommended_mono h
  unfold settled
  cases config.shrink with
  | deferred => rfl
  | lazy => rw [Nat.min_assoc, Nat.min_eq_right hmono]
  | eager => rw [Nat.min_assoc, Nat.min_eq_right hmono]

end Config

namespace Reservation

variable {r : Reservation} {length shorter longer : Nat}

def settledTo (r : Reservation) (length : Nat) : Reservation :=
  { r with header := r.header.settledTo r.config length }

theorem settledTo_settledTo (h : shorter ≤ longer) :
    (r.settledTo longer).settledTo shorter = r.settledTo shorter := by
  unfold settledTo Header.settledTo
  rw [r.config.settled_settled h]

theorem settledSlots_withLength (r : Reservation) (length : Nat) :
    (r.withLength length).settledSlots = r.config.settled r.header.reserved length := by
  unfold settledSlots Config.settled
  rw [config_withLength, length_withLength, reserved_withLength]
  cases r.config.shrink with
  | deferred => rfl
  | lazy => exact Nat.min_comm _ _
  | eager => exact Nat.min_comm _ _

theorem settle_withLength (hvalid : r.Valid) (h : length ≤ r.header.reserved) :
    (r.withLength length).settle.value = r.settledTo length := by
  rw [value_settle (hvalid.withLength h), settledSlots_withLength]
  rfl

theorem value_play_drop (limit : Nat) (hvalid : r.Valid) :
    (r.play limit .drop).value =
      { result := .ok (), state := r.settledTo (r.header.length - 1) } := by
  have hle : r.header.length - 1 ≤ r.header.reserved :=
    Nat.le_trans (Nat.sub_le _ 1) hvalid.length_le
  rw [play, Traced.value_bind, settle_withLength hvalid hle]
  rfl

end Reservation

/-!
## Removals in a row
-/

namespace Kind

variable {σ κ ρ : Type} {kind : Kind σ κ ρ} {state : σ} {r : Reservation} {command : κ}
  {removals : List (Nat × κ)}

def Drops (kind : Kind σ κ ρ) (entry : Entry σ κ ρ) : Prop :=
  kind.move entry.before entry.command = .drop ∧ 0 < (kind.header entry.before).length

theorem keeps_of_drop (hkeeps : kind.keeps state r) (hvalid : r.Valid) (limit : Nat)
    (hmove : kind.move state command = .drop) :
    kind.keeps (kind.step limit state command).value.state
      (r.settledTo (r.header.length - 1)) ∧
      (r.settledTo (r.header.length - 1)).Valid := by
  have hstate := (kind.plays limit hkeeps command).state_related
  have hnext := r.valid_play limit .drop hvalid
  rw [hmove, Reservation.value_play_drop limit hvalid] at hstate
  rw [Reservation.value_play_drop limit hvalid] at hnext
  exact ⟨hstate, hnext⟩

theorem sheds_of_drop (hkeeps : kind.keeps state r) (hvalid : r.Valid) (limit : Nat)
    (hmove : kind.move state command = .drop) (hpos : 0 < (kind.header state).length) :
    Sheds kind.toReading
      { before := state, command := command, step := kind.step limit state command } := by
  rcases keeps_of_drop hkeeps hvalid limit hmove with ⟨hstate, hnext⟩
  have hagree := (kind.plays limit hkeeps command).agree
  rw [hmove, Reservation.value_play_drop limit hvalid] at hagree
  have hbefore : kind.header state = r.header := kind.header_eq hkeeps
  have hafter := kind.header_eq hstate
  rw [hbefore] at hpos
  constructor
  · exact hagree
  · show (kind.header (kind.step limit state command).value.state).length + 1 =
      (kind.header state).length
    rw [hafter, hbefore]
    exact Nat.sub_add_cancel hpos
  · show (kind.header (kind.step limit state command).value.state).reserved ≤
      (kind.header state).reserved
    rw [hafter, hbefore]
    exact r.config.settled_le _ _
  · show (kind.header (kind.step limit state command).value.state).length ≤
      (kind.header (kind.step limit state command).value.state).reserved
    rw [hafter]
    exact hnext.length_le

theorem sheds_of_drops (hkeeps : kind.keeps state r) (hvalid : r.Valid)
    (hdrops : ∀ entry ∈ history kind.step removals state, kind.Drops entry) :
    ∀ entry ∈ history kind.step removals state, Sheds kind.toReading entry := by
  refine forall_mem_history (fun state => ∃ r, kind.keeps state r ∧ r.Valid) ?_ removals
    ⟨r, hkeeps, hvalid⟩ hdrops
  rintro limit state command ⟨r, hkept, hvalid⟩ ⟨hmove, hpos⟩
  exact ⟨sheds_of_drop hkept hvalid limit hmove hpos, _,
    keeps_of_drop hkept hvalid limit hmove⟩

/-- Each removal settles anew what the ones before it have settled, so the last one decides. -/
theorem keeps_of_drops (hkeeps : kind.keeps state r) (hvalid : r.Valid) (hne : removals ≠ [])
    (hdrops : ∀ entry ∈ history kind.step removals state, kind.Drops entry) :
    removals.length ≤ r.header.length ∧
      kind.keeps (runAll kind.step removals state).value.state
        (r.settledTo (r.header.length - removals.length)) := by
  induction removals generalizing state r with
  | nil => exact absurd rfl hne
  | cons entry rest ih =>
      rcases entry with ⟨limit, command⟩
      rcases List.forall_mem_cons.mp hdrops with ⟨⟨hmove, hpos⟩, hlater⟩
      change 0 < (kind.header state).length at hpos
      rw [kind.header_eq hkeeps] at hpos
      rcases keeps_of_drop hkeeps hvalid limit hmove with ⟨hstate, hnext⟩
      -- Only a removal settles, so the induction ends with one removal and not with none.
      cases rest with
      | nil => exact ⟨hpos, hstate⟩
      | cons second rest =>
          rcases ih hstate hnext (List.cons_ne_nil _ _) hlater with ⟨hcount, hfinal⟩
          have hlength :
              (r.settledTo (r.header.length - 1)).header.length = r.header.length - 1 :=
            rfl
          rw [hlength] at hcount hfinal
          rw [Reservation.settledTo_settledTo (Nat.sub_le _ _), Nat.sub_sub,
            Nat.add_comm 1] at hfinal
          exact ⟨Nat.add_le_of_le_sub hpos hcount, hfinal⟩

theorem settles_of_drops (hkeeps : kind.keeps state r) (hvalid : r.Valid) (hne : removals ≠ [])
    (hdrops : ∀ entry ∈ history kind.step removals state, kind.Drops entry) :
    Settles kind.toReading kind.config removals state := by
  rcases keeps_of_drops hkeeps hvalid hne hdrops with ⟨hcount, hfinal⟩
  have hstart : kind.header state = r.header := kind.header_eq hkeeps
  have hconfig : r.config = kind.config := kind.config_eq hkeeps
  have hend := kind.header_eq hfinal
  have hle : r.header.length - removals.length ≤ r.header.reserved :=
    Nat.le_trans (Nat.sub_le _ _) hvalid.length_le
  constructor
  · exact kind.faults_runAll hkeeps removals
  · exact sheds_of_drops hkeeps hvalid hdrops
  · rw [hstart]
    exact hcount
  · rw [hend, hstart, ← hconfig]
    rfl
  · rw [hend, hstart, ← hconfig]
    exact congrArg Reservation.header (Reservation.settle_withLength hvalid hle).symm

/-- Whatever commands take an element out of every state of the kind settle its reservation. -/
theorem settles (kind : Kind σ κ ρ) (removes : σ → κ → Prop)
    (hdrops : ∀ {state r command}, kind.keeps state r → r.Valid → removes state command →
      kind.move state command = .drop ∧ 0 < (kind.header state).length)
    (hkeeps : kind.keeps state r) (hvalid : r.Valid) (hne : removals ≠ [])
    (h : ∀ entry ∈ history kind.step removals state, removes entry.before entry.command) :
    Settles kind.toReading kind.config removals state := by
  apply settles_of_drops hkeeps hvalid hne
  refine forall_mem_history (fun state => ∃ r, kind.keeps state r ∧ r.Valid) ?_ removals
    ⟨r, hkeeps, hvalid⟩ h
  rintro limit state command ⟨r, hkept, hvalid⟩ hremoves
  have hdrop := hdrops hkept hvalid hremoves
  exact ⟨hdrop, _, keeps_of_drop hkept hvalid limit hdrop.left⟩

end Kind

theorem ByteBuffer.drops_of_removal {config : Config} {buffer : ByteBuffer} {r : Reservation}
    {command : Command} (hkeeps : Keeps config buffer r) (hvalid : r.Valid)
    (h : Performs buffer .removal command) :
    buffer.move command = .drop ∧ 0 < buffer.header.length := by
  have hmove : buffer.move command = .drop := move_of_performs hkeeps hvalid h
  rw [hkeeps.header_eq]
  exact ⟨hmove, length_pos_of_drop hkeeps hmove⟩

theorem Buffer.drops_of_removal {α : Type} {elementSize : Nat} {config : Config}
    {buffer : Buffer α} {r : Reservation} {command : Command α}
    (hkeeps : Keeps elementSize config buffer r)
    (h : Performs buffer .removal command) :
    buffer.move command = .drop ∧ 0 < buffer.header.length := by
  have hmove : buffer.move command = .drop := h.move_eq
  rw [hkeeps.header_eq]
  exact ⟨hmove, length_pos_of_drop hkeeps hmove⟩

/-- However a buffer of either kind came to be, and wherever elements are taken out of it,
removals in a row settle its reservation as one removal of all these elements would. -/
theorem removals_settle_at_once :
    (∀ (config : Config) (buffer : ByteBuffer), ByteBuffer.Reachable config buffer →
      buffer.isInitialized = true →
      ∀ removals : List (Nat × ByteBuffer.Command), removals ≠ [] →
        (∀ entry ∈ history ByteBuffer.step removals buffer,
          entry.before.Performs .removal entry.command) →
        Settles ByteBuffer.reading config removals buffer) ∧
    ∀ (α : Type) (elementSize : Nat) (config : Config) (buffer : Buffer α),
      Buffer.Reachable elementSize config buffer →
      ∀ removals : List (Nat × Buffer.Command α), removals ≠ [] →
        (∀ entry ∈ history Buffer.step removals buffer,
          entry.before.Performs .removal entry.command) →
        Settles (Buffer.reading α) config removals buffer := by
  constructor
  · intro config buffer hreach hinitialized removals hne hperforms
    rcases hreach.represents with ⟨list, hlist⟩
    rcases hlist.keeps with ⟨r, hkeeps⟩
    exact (ByteBuffer.kind config).settles (ByteBuffer.Performs · .removal ·)
      (fun hkept => ByteBuffer.drops_of_removal hkept) hkeeps
        (hkeeps.valid hinitialized) hne hperforms
  · intro α elementSize config buffer hreach removals hne hperforms
    rcases hreach.represents with ⟨items, hitems⟩
    have hkeeps := hitems.keeps
    exact (Buffer.kind α elementSize config).settles (Buffer.Performs · .removal ·)
      (fun hkept _ => Buffer.drops_of_removal hkept) hkeeps hkeeps.valid hne hperforms

theorem removals_settle_at_once_at_either_end :
    let config : Config := { minCapacity := 2, blockSize := 2, shrink := .lazy }
    let fresh : Buffer Bool := { items := [], reservation := ⟨.unreserved 4, config⟩ }
    let commands : List (Nat × Buffer.Command Bool) :=
      [(99, .pushBack true), (99, .reserve 6), (99, .destroyWith (some 0)),
        (0, .pushBack true),
        (0, .pushFront false), (0, .insert 1 false), (0, .pushBack true), (0, .pushBack true)]
    let buffer : Buffer Bool :=
      { items := [false, false, true, true, true], reservation := ⟨⟨4, 5, 7, 60⟩, config⟩,
        capacity := 7 }
    let removals : List (Nat × Buffer.Command Bool) :=
      [(0, .popFront), (0, .remove 2), (0, .popBack)]
    (Buffer.run commands fresh).value.state = buffer ∧ Buffer.Reachable 4 config buffer ∧
      removals ≠ [] ∧
      (∀ entry ∈ history Buffer.step removals buffer,
        entry.before.Performs .removal entry.command) ∧
      Settles (Buffer.reading Bool) config removals buffer ∧
      (runAll Buffer.step removals buffer).value.state.header = ⟨4, 2, 2, 40⟩ := by
  intro config fresh commands buffer removals
  have hrun : (Buffer.run commands fresh).value.state = buffer := by cbv
  have hreach : Buffer.Reachable 4 config buffer := ⟨fresh, commands, rfl, hrun⟩
  have hne : removals ≠ [] := List.cons_ne_nil _ _
  have hperforms : ∀ entry ∈ history Buffer.step removals buffer,
      entry.before.Performs .removal entry.command := by
    refine List.forall_mem_cons.mpr ⟨.popFront ?_, List.forall_mem_cons.mpr ⟨.remove ?_,
      List.forall_mem_singleton.mpr (.popBack ?_)⟩⟩
    · cbv
    · cbv
    · cbv
  refine ⟨hrun, hreach, hne, hperforms,
    removals_settle_at_once.right Bool 4 config buffer hreach
    removals hne hperforms, ?_⟩
  cbv

end BlockBuffer
