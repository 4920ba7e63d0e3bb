import BlockBuffer.Proofs.Buffer.Twins
import BlockBuffer.Proofs.ByteBuffer.Twins

/-!
# A ceiling stands for exhaustion

A ceiling on the bytes of a buffer is checked before storage is asked for, and an allocator
refuses a block after it was asked.  Nothing shows the difference: with a ceiling a buffer does
at every step what it does without one on a heap that is exhausted at the ceiling.
-/

namespace BlockBuffer

theorem Reservation.settle_under {r : Reservation} {config : Config} (hvalid : r.Valid)
    (hvalid' : (r.under config).Valid) (hshrink : config.shrink = r.config.shrink)
    (hcapacity : config.recommended r.header.length = r.config.recommended r.header.length) :
    (r.under config).settle = under config <$> r.settle := by
  have hshrink' : (r.under config).config.shrink = r.config.shrink := hshrink
  have hcapacity' : (r.under config).config.recommended (r.under config).header.length =
      r.config.recommended r.header.length := hcapacity
  rw [settle_eq hvalid, settle_eq hvalid', hshrink', hcapacity', header_under]
  cases r.config.shrink with
  | deferred => rfl
  | lazy =>
      by_cases htarget : r.config.recommended r.header.length < r.header.reserved
      · simp only [htarget, if_true]
        rfl
      · simp only [htarget, if_false]
        rfl
  | eager =>
      by_cases htarget : r.config.recommended r.header.length ≤ r.header.reserved
      · simp only [htarget, if_true]
        rfl
      · simp only [htarget, if_false]
        rfl

/-!
## The two configurations
-/

namespace Config

def below (config : Config) (ceiling : UInt64) : Config :=
  { config with maxBytes := some ceiling }

/-- The limit of a heap on which the elements are refused as soon as they reach a ceiling with
the header. -/
def exhaustedAt (ceiling : UInt64) (limit : Nat) : Nat :=
  min limit (ceiling.toNat - headerSize)

variable {config : Config} {ceiling : UInt64}

theorem exceeds_of_none (hnone : config.maxBytes = none) (bytes : Nat) :
    config.exceeds bytes = false := by
  unfold exceeds
  rw [hnone]
  rfl

theorem room_exhaustedAt (hnone : config.maxBytes = none) (limit elementSize : Nat) :
    config.room (exhaustedAt ceiling limit) elementSize =
      (config.below ceiling).room limit elementSize := by
  have hbudget : config.budget (exhaustedAt ceiling limit) =
      min (min limit (ceiling.toNat - headerSize)) maxPayload := by
    unfold budget
    rw [hnone]
    rfl
  unfold room
  rw [hbudget, Nat.min_right_comm]
  rfl

theorem alike_exhaustedAt (hnone : config.maxBytes = none) :
    Alike Eq (exhaustedAt ceiling) (config.below ceiling) config := by
  have hvalid : ∀ {r : Reservation}, r.Valid → r.config = config.below ceiling →
      (r.under config).Valid := by
    rintro ⟨header, _⟩ h rfl
    constructor
    · exact h.blockSize_ne
    · exact h.elementSize_pos
    · exact h.length_le
    · exact h.bytesAllocated_eq
    · exact h.fits
    · exact Or.inr ⟨h.fits, exceeds_of_none hnone _⟩
  constructor
  · exact partByPart_eq
  · rfl
  · rfl
  · rintro ⟨header, _⟩ hsize rfl limit slots hslots
    have hother :
        0 < (Reservation.under config ⟨header, config.below ceiling⟩).header.elementSize :=
      hsize
    -- A ceiling refuses before the heap is asked, and an exhausted heap when it is asked.
    -- Both leave the same room.
    rw [Reservation.fits_iff_le_room hsize hslots, Reservation.fits_iff_le_room hother hslots]
    show _ ↔ slots ≤ config.room (exhaustedAt ceiling limit) header.elementSize
    rw [room_exhaustedAt hnone]
  · exact hvalid
  · rintro ⟨header, _⟩ h rfl
    have hsettle := Reservation.settle_under h (hvalid h rfl) rfl
      (recommended_congr rfl rfl header.length)
    apply (Paired.of_map_eq partByPart_eq hsettle (Reservation.faults_settle h)).imp
    rintro _ _ ⟨_, hsettled⟩
    exact hsettled

end Config

/-!
## Both kinds of buffer
-/

/-- Two runs that nothing tells apart but the configuration that the buffer reports. -/
structure SameRun {σ ρ γ : Type} (header : σ → Header) (contents : σ → γ)
    (left right : Traced (Outcome σ ρ)) : Prop where
  left_faults : left.faults = []
  right_faults : right.faults = []
  result_eq : left.value.result = right.value.result
  header_eq : header left.value.state = header right.value.state
  contents_eq : contents left.value.state = contents right.value.state
  events_eq : left.events = right.events

theorem Paired.sameRun {σ ρ γ : Type} {header : σ → Header} {contents : σ → γ}
    {related : σ → σ → Prop} {x y : Traced (Outcome σ ρ)}
    (h : Paired Eq (SameAnswer related) x y)
    (hheader : ∀ state state', related state state' → header state = header state')
    (hcontents : ∀ state state', related state state' → contents state = contents state') :
    SameRun header contents x y where
  left_faults := h.left_faults
  right_faults := h.right_faults
  result_eq := h.related.result_eq
  header_eq := hheader _ _ h.related.state_related
  contents_eq := hcontents _ _ h.related.state_related
  events_eq := h.logs

/-- A run below a ceiling is the run without it on heaps that are exhausted at the ceiling, for
buffers of either kind.  As this is said of every run, it is said of every step. -/
theorem ceiling_stands_for_exhaustion (config : Config) (hnone : config.maxBytes = none)
    (ceiling : UInt64) :
    (∀ commands : List (Nat × ByteBuffer.Command),
      SameRun ByteBuffer.header ByteBuffer.bytes
        (ByteBuffer.run commands { config := config.below ceiling })
        (ByteBuffer.run (commands.map (Prod.map (Config.exhaustedAt ceiling) id))
          { config := config })) ∧
    ∀ (α : Type) (elementSize : Nat), 0 < elementSize → config.blockSize ≠ 0 →
      ∃ bounded unbounded : Buffer α,
        Buffer.create elementSize (config.below ceiling) = .ok bounded ∧
        Buffer.create elementSize config = .ok unbounded ∧
        ∀ commands : List (Nat × Buffer.Command α),
          SameRun Buffer.header Buffer.items (Buffer.run commands bounded)
            (Buffer.run (commands.map (Prod.map (Config.exhaustedAt ceiling) id))
              unbounded) := by
  have halike : Config.Alike Eq (Config.exhaustedAt ceiling) (config.below ceiling) config :=
    Config.alike_exhaustedAt hnone
  constructor
  · intro commands
    rw [ByteBuffer.run, ByteBuffer.run]
    have hpaired := runAll_paired partByPart_eq
      (fun limit _ _ command h => ByteBuffer.step_twins halike limit h command) commands
      .uninitialized
    exact hpaired.sameRun (fun _ _ h => h.header_eq) (fun _ _ h => h.bytes_eq)
  · intro α elementSize hsize hblock
    have hbounded : (config.below ceiling).blockSize ≠ 0 := hblock
    have hnew : Buffer.Twins (α := α) (config.below ceiling) config
        { items := [], reservation := ⟨.unreserved elementSize, config.below ceiling⟩ }
        { items := [], reservation := ⟨.unreserved elementSize, config⟩ } :=
      .intro rfl (Reservation.valid_unreserved hsize hbounded) rfl
    refine ⟨_, _, Buffer.create_of_pos hsize hbounded, Buffer.create_of_pos hsize hblock, ?_⟩
    intro commands
    rw [Buffer.run, Buffer.run]
    have hpaired := runAll_paired partByPart_eq
      (fun limit _ _ command h => Buffer.step_twins halike limit h command) commands hnew
    exact hpaired.sameRun (fun _ _ h => h.header_eq) (fun _ _ h => h.items_eq)

theorem ceiling_stands_for_exhaustion_after_one_slot :
    let config : Config := {}
    let bounded : Buffer Bool :=
      { items := [], reservation := ⟨.unreserved 4, config.below 39⟩ }
    let unbounded : Buffer Bool := { items := [], reservation := ⟨.unreserved 4, config⟩ }
    config.maxBytes = none ∧ config.blockSize ≠ 0 ∧
      Buffer.create 4 (config.below 39) = .ok bounded ∧
        Buffer.create 4 config = .ok unbounded ∧
      SameRun Buffer.header Buffer.items
        (Buffer.run [(96, .pushBack true), (96, .pushBack false)] bounded)
        (Buffer.run [(7, .pushBack true), (7, .pushBack false)] unbounded) ∧
      (Buffer.run [(7, .pushBack true), (7, .pushBack false)] unbounded).value.state.items =
        [true] := by
  intro config bounded unbounded
  have hblock : config.blockSize ≠ 0 := by decide
  rcases (ceiling_stands_for_exhaustion config rfl 39).right Bool 4 (by decide) hblock with
    ⟨left, right, hleft, hright, hsame⟩
  have hbounded : Buffer.create 4 (config.below 39) = .ok bounded := rfl
  have hunbounded : Buffer.create 4 config = .ok unbounded := rfl
  cases hbounded.symm.trans hleft
  cases hunbounded.symm.trans hright
  have hitems : (Buffer.run [(7, .pushBack true), (7, .pushBack false)]
      unbounded).value.state.items = [true] := by cbv
  exact ⟨rfl, hblock, rfl, rfl, hsame [(96, .pushBack true), (96, .pushBack false)], hitems⟩

end BlockBuffer
