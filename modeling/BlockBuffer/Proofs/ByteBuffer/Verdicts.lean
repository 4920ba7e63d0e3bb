import BlockBuffer.Proofs.Ceiling
import BlockBuffer.Proofs.Reachability
import BlockBuffer.Proofs.Reservation.BackOff

/-!
# Which error a byte buffer returns

An operation may have several reasons to refuse at once, and returns the first of them: that
the buffer is not initialized, that there is no such place, that a byte string is not one
element long, and last that there is no storage.  Which one it is can be told from the header,
the arguments and the room of the heap.
-/

namespace BlockBuffer

inductive Verdict where
  | success
  | warning
  | failure (error : BufferError)
deriving DecidableEq, Repr

def Verdict.of {ρ : Type} : Result ρ → Verdict
  | .ok _ => .success
  | .error error => .failure error

theorem Verdict.of_map {ρ ν : Type} (f : ρ → ν) (result : Result ρ) :
    of (result.map f) = of result := by
  cases result with
  | ok _ => rfl
  | error _ => rfl

def Config.initVerdict (config : Config) (elementSize : Nat) : Verdict :=
  if elementSize = 0 then .failure (.zeroSize "element_size")
  else if config.blockSize = 0 then .failure (.zeroSize "block_size")
  else .success

namespace Header

def accessVerdict (header : Header) (index : Nat) (size : Option Nat) : Verdict :=
  if header.length ≤ index then .failure (.indexOutOfBounds index header.length)
  else
    match size with
    | none => .success
    | some actual =>
        if actual ≠ header.elementSize then .failure (.sizeMismatch header.elementSize actual)
        else .success

/-- The verdict on an insertion at an index, where no more than `cap` slots are granted. -/
def insertVerdict (cap : Nat) (header : Header) (index size : Nat) : Verdict :=
  if header.length < index then .failure (.indexOutOfBounds index header.length)
  else if size ≠ header.elementSize then .failure (.sizeMismatch header.elementSize size)
  else if header.length = header.reserved ∧ cap < header.length + 1 then
    .failure (.allocation
      (min (32 + (header.length + 1) * header.elementSize) (UInt64.size - 1)))
  else .success

def popVerdict (header : Header) (index : Nat) (size : Option Nat) : Verdict :=
  if header.length = 0 then .warning else header.accessVerdict index size

def reserveVerdict (cap : Nat) (header : Header) (amount : Nat) : Verdict :=
  if UInt64.size ≤ header.length + amount ∨
      max header.reserved cap < header.length + amount then
    .failure (.allocation
      (min (32 + (header.length + amount) * header.elementSize) (UInt64.size - 1)))
  else .success

end Header

namespace ByteBuffer

def Reply.verdict : Reply → Verdict
  | .done result => .of result
  | .size result => .of result
  | .element _ => .success
  | .observed _ => .success
  | .delivered delivery => .of delivery.result
  | .popped delivery =>
      match delivery.result with
      | .ok .ok => .success
      | .ok .warning => .warning
      | .error error => .failure error
  | .cleaned result => .of result

def Command.earlyVerdict (config : Config) : Command → Verdict
  | .init elementSize => config.initVerdict elementSize
  | .get _ => .success
  | .modify _ _ => .success
  | .observe _ => .success
  | .copy => .success
  | _ => .failure .uninitialized

/-- The verdict on a command after the initialization, where no more than `cap` slots are
granted. -/
def Command.verdict (config : Config) (cap : Nat) (header : Header) : Command → Verdict
  | .init elementSize => config.initVerdict elementSize
  | .requiredBytes length =>
      if config.recommended length * header.elementSize + 32 < UInt64.size then .success
      else .failure (.allocation (UInt64.size - 1))
  | .copyTo index dest => header.accessVerdict index (some dest.length)
  | .copyFrom index source => header.accessVerdict index (some source.length)
  | .reserve amount => header.reserveVerdict cap amount
  | .insert index source => header.insertVerdict cap index source.length
  | .pushFront source => header.insertVerdict cap 0 source.length
  | .pushBack source => header.insertVerdict cap header.length source.length
  | .remove index dest => header.accessVerdict index (dest.map List.length)
  | .popFront dest => header.popVerdict 0 (dest.map List.length)
  | .popBack dest => header.popVerdict (header.length - 1) (dest.map List.length)
  | _ => .success

end ByteBuffer

/-!
## What a reservation refuses
-/

namespace Reservation

variable {r : Reservation}

theorem ensure_verdict (limit : Nat) (hvalid : r.Valid) :
    Verdict.of (r.ensure limit (r.header.length + 1)).value =
      if r.header.length = r.header.reserved ∧
          r.config.room limit r.header.elementSize < r.header.length + 1 then
        .failure (.allocation
          (min (32 + (r.header.length + 1) * r.header.elementSize) (UInt64.size - 1)))
      else .success := by
  rcases Nat.lt_or_eq_of_le (r.length_le_ceiling limit hvalid) with hless | hfull
  · rcases ensure_of_lt_ceiling hvalid hless with ⟨slots, hensured, _⟩
    rw [hensured, if_neg]
    · rfl
    · rintro ⟨hreserved, hroom⟩
      apply Nat.not_le_of_lt hless
      exact Nat.max_le.mpr ⟨Nat.le_of_eq hreserved.symm, Nat.le_of_lt_succ hroom⟩
  · have hreserved : r.header.reserved ≤ r.header.length := by
      rw [hfull]
      exact Nat.le_max_left _ _
    have hroom : r.config.room limit r.header.elementSize ≤ r.header.length := by
      rw [hfull]
      exact Nat.le_max_right _ _
    rw [ensure_of_eq_ceiling hvalid hfull, demand_eq,
      if_pos ⟨Nat.le_antisymm hvalid.length_le hreserved, Nat.lt_succ_of_le hroom⟩]
    rfl

theorem reserve_verdict (limit amount : Nat) (hvalid : r.Valid) :
    Verdict.of (r.reserve limit amount).value =
      r.header.reserveVerdict (r.config.room limit r.header.elementSize) amount := by
  unfold Header.reserveVerdict
  rcases Nat.lt_or_ge r.header.reserved (r.header.length + amount) with hgrows | hkept
  · have hpos : 0 < r.header.length + amount := Nat.lt_of_le_of_lt (Nat.zero_le _) hgrows
    have hroom : r.Fits limit (r.header.length + amount) ↔
        r.header.length + amount ≤ r.config.room limit r.header.elementSize :=
      fits_iff_le_room hvalid.elementSize_pos hpos
    by_cases hfits : r.Fits limit (r.header.length + amount)
    · have hslots : r.header.length + amount ≤
          (r.header.length + amount) * r.header.elementSize + headerSize :=
        Nat.le_add_right_of_le (Nat.le_mul_of_pos_right _ hvalid.elementSize_pos)
      have hword : r.header.length + amount < UInt64.size :=
        Nat.lt_of_le_of_lt hslots hfits.left.left
      rw [reserve_of_fits hgrows hvalid.elementSize_pos hfits, if_neg]
      · rfl
      · rintro (hlong | hless)
        · exact Nat.not_le_of_lt hword hlong
        · exact Nat.not_le_of_lt hless (Nat.le_trans (hroom.mp hfits) (Nat.le_max_right _ _))
    · have hless := Nat.lt_of_not_le fun hle => hfits (hroom.mpr hle)
      rw [reserve_of_not_fits hvalid hgrows hfits, demand_eq,
        if_pos (Or.inr (Nat.max_lt.mpr ⟨hgrows, hless⟩))]
      rfl
  · have hword : r.header.length + amount < UInt64.size :=
      Nat.lt_of_le_of_lt hkept
        (Nat.lt_of_le_of_lt (Nat.le_add_right _ _) hvalid.reserved_lt_limit)
    rw [reserve_of_le hvalid hkept, if_neg]
    · rfl
    · rintro (hlong | hless)
      · exact Nat.not_le_of_lt hword hlong
      · exact Nat.not_le_of_lt hless (Nat.le_trans hkept (Nat.le_max_left _ _))

end Reservation

/-!
## Each operation
-/

namespace ByteBuffer

variable {r : Reservation} {elements : List Bytes} {limit index : Nat}

theorem init_verdict (buffer : ByteBuffer) (elementSize : Nat) :
    Verdict.of (buffer.init elementSize).value.result =
      buffer.config.initVerdict elementSize := by
  unfold init Config.initVerdict
  rw [Reservation.create_eq]
  by_cases hsize : elementSize = 0
  · rw [if_pos hsize, if_pos hsize]
    rfl
  · by_cases hblock : buffer.config.blockSize = 0
    · rw [if_neg hsize, if_neg hsize, if_pos hblock, if_pos hblock]
      rfl
    · rw [if_neg hsize, if_neg hsize, if_neg hblock, if_neg hblock]
      rfl

theorem checkElement_verdict (h : r.Counts elements) (index : Nat) :
    Verdict.of ((holding r elements).checkElement index) =
      r.header.accessVerdict index none := by
  unfold Header.accessVerdict
  rw [h.length_eq]
  rcases Nat.lt_or_ge index elements.length with hindex | hindex
  · rw [checkElement_of_lt h hindex, if_neg (Nat.not_le_of_lt hindex)]
    rfl
  · rw [checkElement_of_le h hindex, if_pos hindex]
    rfl

theorem checkCopy_verdict (h : r.Counts elements) (index size : Nat) :
    Verdict.of ((holding r elements).checkCopy index size) =
      r.header.accessVerdict index (some size) := by
  unfold Header.accessVerdict
  rw [h.length_eq]
  rcases Nat.lt_or_ge index elements.length with hindex | hindex
  · rw [checkCopy_of_lt h hindex, if_neg (Nat.not_le_of_lt hindex)]
    by_cases hsize : size = r.header.elementSize
    · rw [if_pos hsize]
      exact (if_neg (not_not_intro hsize)).symm
    · rw [if_neg hsize]
      exact (if_pos hsize).symm
  · rw [checkCopy_of_le h hindex, if_pos hindex]
    rfl

theorem checkRemove_verdict (h : r.Counts elements) (index : Nat) (dest : Option Bytes) :
    Verdict.of ((holding r elements).checkRemove index dest) =
      r.header.accessVerdict index (dest.map List.length) := by
  cases dest with
  | none => exact checkElement_verdict h index
  | some place => exact checkCopy_verdict h index place.length

/-- Whatever passes its checks takes effect. -/
theorem copyTo_verdict (h : r.Counts elements) (index : Nat) (dest : Bytes) :
    Verdict.of ((holding r elements).copyTo index dest).value.result.result =
      r.header.accessVerdict index (some dest.length) := by
  rw [← checkCopy_verdict h]
  cases hchecked : (holding r elements).checkCopy index dest.length with
  | error error =>
      rw [copyTo_of_error hchecked]
      rfl
  | ok passed =>
      rcases of_checkCopy h hchecked with ⟨hindex, hsize⟩
      rw [copyTo_of_fits h hindex hsize]
      rfl

theorem copyFrom_verdict (h : r.Counts elements) (index : Nat) (source : Bytes) :
    Verdict.of ((holding r elements).copyFrom index source).value.result =
      r.header.accessVerdict index (some source.length) := by
  rw [← checkCopy_verdict h]
  cases hchecked : (holding r elements).checkCopy index source.length with
  | error error =>
      rw [copyFrom_of_error hchecked]
      rfl
  | ok passed =>
      rcases of_checkCopy h hchecked with ⟨hindex, hsize⟩
      rw [copyFrom_of_fits h hindex hsize]
      rfl

theorem remove_verdict (h : r.Counts elements) (index : Nat) (dest : Option Bytes) :
    Verdict.of ((holding r elements).remove index dest).value.result.result =
      r.header.accessVerdict index (dest.map List.length) := by
  rw [← checkRemove_verdict h]
  cases hchecked : (holding r elements).checkRemove index dest with
  | error error =>
      rw [remove_of_error hchecked]
      rfl
  | ok passed =>
      rcases of_checkRemove h hchecked with ⟨hindex, hdest⟩
      rw [remove_of_fits h hindex hdest]
      rfl

theorem popAt_verdict {place : Nat → Traced Nat} {index : Nat → Nat}
    (hplace : ∀ length, 0 < length → place length = pure (index length))
    (h : r.Counts elements) (dest : Option Bytes) :
    (Reply.popped ((holding r elements).popAt place dest).value.result).verdict =
      r.header.popVerdict (index r.header.length) (dest.map List.length) := by
  unfold Header.popVerdict
  cases elements with
  | nil =>
      have hnone : r.header.length = 0 := h.length_eq
      rw [popAt_of_nil h, if_pos hnone]
      rfl
  | cons element rest =>
      have hpos : 0 < r.header.length := by
        rw [h.length_eq]
        exact Nat.succ_pos _
      have hindex := hplace _ hpos
      rw [h.length_eq] at hindex
      rw [popAt_of_ne_nil h (List.cons_ne_nil element rest) hindex, if_neg (Nat.ne_of_gt hpos),
        ← remove_verdict h, Traced.value_map, h.length_eq]
      cases hremoved : ((holding r (element :: rest)).remove
          (index (element :: rest).length) dest).value.result.result with
      | error error => simp only [Reply.verdict, Outcome.map, Delivery.taken, hremoved]; rfl
      | ok _ => simp only [Reply.verdict, Outcome.map, Delivery.taken, hremoved]; rfl

theorem insert_verdict (limit : Nat) (h : r.Counts elements) (index : Nat) (source : Bytes) :
    Verdict.of ((holding r elements).insert limit index source).value.result =
      r.header.insertVerdict (r.config.room limit r.header.elementSize) index
        source.length := by
  unfold Header.insertVerdict
  rcases Nat.lt_or_ge r.header.length index with hindex | hindex
  · rw [if_pos hindex]
    rw [h.length_eq] at hindex ⊢
    rw [insert_of_error limit (checkInsert_of_lt h hindex _)]
    rfl
  · rw [if_neg (Nat.not_lt_of_le hindex)]
    rw [h.length_eq] at hindex
    by_cases hsize : source.length = r.header.elementSize
    · have hverdict := Reservation.ensure_verdict limit h.valid
      rw [if_neg (not_not_intro hsize), ← hverdict, insert_of_fits limit h hindex hsize,
        Traced.value_bind, h.length_eq]
      cases (r.ensure limit (elements.length + 1)).value with
      | error error => rfl
      | ok grown => rfl
    · have hchecked := checkInsert_of_le h hindex source.length
      rw [if_neg hsize] at hchecked
      rw [if_pos hsize, insert_of_error limit hchecked]
      rfl

theorem reserve_verdict (limit amount : Nat) (h : r.Counts elements) :
    Verdict.of ((holding r elements).reserve limit amount).value.result =
      r.header.reserveVerdict (r.config.room limit r.header.elementSize) amount := by
  rw [reserve_holding limit amount h, Traced.value_bind,
    ← Reservation.reserve_verdict limit amount h.valid]
  cases (r.reserve limit amount).value with
  | error error => rfl
  | ok grown => rfl

theorem requiredBytes_verdict (r : Reservation) (elements : List Bytes) (length : Nat) :
    Verdict.of ((holding r elements).requiredBytes length).value =
      if r.config.recommended length * r.header.elementSize + 32 < UInt64.size then .success
      else .failure (.allocation (UInt64.size - 1)) := by
  unfold requiredBytes
  rw [initialized_holding]
  dsimp only
  rw [Reservation.requiredBytes_eq_pure, pure_bind, Config.bytesFor]
  by_cases hword : r.config.recommended length * r.header.elementSize + headerSize < Word.limit
  · rw [if_pos hword]
    exact (if_pos hword).symm
  · rw [if_neg hword]
    exact (if_neg hword).symm

theorem destroyWith_verdict (h : r.Counts elements) (change : InPlace)
    (interruptAt : Option Nat) :
    Verdict.of ((holding r elements).destroyWith change interruptAt).value.result =
      .success := by
  cases hending : (sweep change.edit interruptAt elements).ending with
  | interrupted =>
      rw [destroyWith_of_interrupted h hending]
      rfl
  | completed =>
      rw [destroyWith_of_completed h hending]
      rfl

/-!
## All operations
-/

theorem step_verdict_uninitialized (config : Config) (limit : Nat) (command : Command) :
    (step limit { config := config } command).value.result.verdict =
      command.earlyVerdict config := by
  cases command with
  | init elementSize => exact init_verdict _ elementSize
  | remove index dest =>
      cases dest with
      | none => rfl
      | some place => rfl
  | _ => rfl

theorem step_verdict_holding (h : r.Counts elements) (limit : Nat) (command : Command) :
    (step limit (holding r elements) command).value.result.verdict =
      command.verdict r.config (r.config.room limit r.header.elementSize) r.header := by
  cases command with
  | init elementSize => exact init_verdict _ elementSize
  | requiredBytes length => exact requiredBytes_verdict r elements length
  | copyTo index dest => exact copyTo_verdict h index dest
  | copyFrom index source => exact copyFrom_verdict h index source
  | reserve amount => exact reserve_verdict limit amount h
  | compact =>
      rw [step, compact_holding h]
      rfl
  | insert index source => exact insert_verdict limit h index source
  | pushFront source => exact insert_verdict limit h 0 source
  | pushBack source => exact insert_verdict limit h r.header.length source
  | remove index dest => exact remove_verdict h index dest
  | popFront dest => exact popAt_verdict (fun _ _ => rfl) h dest
  | popBack dest => exact popAt_verdict (fun _ hpos => Word.sub_of_le hpos) h dest
  | destroy => exact (Verdict.of_map _ _).trans (destroyWith_verdict h .id none)
  | destroyWith change interruptAt => exact destroyWith_verdict h change interruptAt
  | _ => rfl

/-- The verdict on every command on every buffer that can be reached, on every heap: which
error it returns, or that it returns none. -/
theorem verdict_of_step {config : Config} {buffer : ByteBuffer} (h : Reachable config buffer)
    (limit : Nat) (command : Command) :
    (buffer.step limit command).faults = [] ∧
      (buffer.isInitialized = false →
        (buffer.step limit command).value.result.verdict = command.earlyVerdict config) ∧
      (buffer.isInitialized = true →
        config.IsCap limit buffer.elementSize (config.room limit buffer.elementSize) ∧
        (buffer.step limit command).value.result.verdict =
          command.verdict config (config.room limit buffer.elementSize) buffer.header) := by
  rcases h.represents with ⟨list, hlist⟩
  cases hlist with
  | uninitialized =>
      refine ⟨((kind config).plays limit .uninitialized command).left_faults, ?_,
        fun hinitialized => absurd hinitialized Bool.false_ne_true⟩
      intro _
      exact step_verdict_uninitialized config limit command
  | initialized hconfig hcounts =>
      refine ⟨((kind config).plays limit (.initialized hconfig hcounts) command).left_faults,
        fun hnot => absurd hnot.symm Bool.false_ne_true, ?_⟩
      intro _
      have hverdict := step_verdict_holding hcounts limit command
      rw [hconfig] at hverdict
      exact ⟨config.isCap_room limit hcounts.valid.elementSize_pos, hverdict⟩

theorem verdict_of_step_on_a_full_buffer :
    let config : Config := { maxBytes := some 39 }
    let buffer := holding
      { header := { elementSize := 4, length := 1, reserved := 1, bytesAllocated := 36 }
        config := config } [[1, 2, 3, 4]]
    Reachable config buffer ∧ buffer.isInitialized = true ∧
      (buffer.step 96 (.insert 2 [0])).value.result.verdict =
        .failure (.indexOutOfBounds 2 1) ∧
      (buffer.step 96 (.insert 0 [0])).value.result.verdict = .failure (.sizeMismatch 4 1) ∧
      (buffer.step 96 (.insert 0 [5, 6, 7, 8])).value.result.verdict =
        .failure (.allocation 40) := by
  intro config buffer
  have hreachable : Reachable config buffer :=
    ⟨[(96, .init 4), (96, .reserve 1), (96, .pushBack [1, 2, 3, 4])], by cbv⟩
  have hverdict := fun command =>
    ((verdict_of_step hreachable 96 command).right.right rfl).right
  refine ⟨hreachable, rfl, ?_, ?_, ?_⟩
  · exact (hverdict _).trans (by decide)
  · exact (hverdict _).trans (by decide)
  · exact (hverdict _).trans (by decide)

end ByteBuffer
end BlockBuffer
