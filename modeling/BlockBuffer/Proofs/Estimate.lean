import BlockBuffer.Proofs.Capacity
import BlockBuffer.Proofs.Ceiling

/-!
# The estimate is what filling costs

A buffer tells in advance how many bytes it will take for a number of elements.  If the heap
and the ceiling have these bytes, then pushes into a new buffer are never refused an attempt,
whatever their places are: the slots follow the capacity of the length from push to push, and
at the end the buffer has taken the bytes of the estimate.  How often it has grown on the way
is the number of blocks that it has reached.
-/

namespace BlockBuffer

def Event.isGrown : Event → Bool
  | .grown .. => true
  | _ => false

theorem Event.ofReservation_of_isGrown {event : Event} (h : event.isGrown = true) :
    event.ofReservation = true := by
  cases event with
  | grown _ _ _ => rfl
  | _ => cases h

namespace Config

variable (config : Config)

def slotsAfter : Nat → Nat
  | 0 => 0
  | count + 1 => config.recommended (count + 1)

def growthsAfter : Nat → Nat
  | 0 => 0
  | count + 1 => (if config.minCapacity = 0 then 0 else 1) + config.blocks (count + 1)

theorem slotsAfter_of_pos {count : Nat} (h : 0 < count) :
    config.slotsAfter count = config.recommended count := by
  cases count with
  | zero => cases h
  | succ count => rfl

theorem growthsAfter_of_pos {count : Nat} (h : 0 < count) :
    config.growthsAfter count =
      (if config.minCapacity = 0 then 0 else 1) + config.blocks count := by
  cases count with
  | zero => cases h
  | succ count => rfl

/-- The first push reaches the least capacity, or a first block if there is none. -/
theorem growthsAfter_one (hblock : config.blockSize ≠ 0) :
    config.growthsAfter (0 + 1) = 1 := by
  rw [growthsAfter]
  by_cases hnone : config.minCapacity = 0
  · have hword : 0 < Word.top := by decide
    have hblocks := config.blocks_succ hblock hword
    have hempty : config.blocks 0 = 0 := by
      unfold blocks
      rw [Nat.zero_sub, zero_ceilDiv]
    have hfirst : config.recommended 0 < 0 + 1 := by
      rw [config.recommended_of_le (Nat.zero_le _), hnone]
      decide
    rw [if_pos hfirst, hempty] at hblocks
    rw [if_pos hnone, hblocks]
  · have hpos : 0 < config.minCapacity.toNat :=
      Nat.pos_of_ne_zero fun hzero => hnone (UInt64.toNat_inj.mp hzero)
    have hblocks : config.blocks (0 + 1) = 0 := by
      apply Nat.le_zero.mp
      rw [config.blocks_le_iff hblock]
      exact hpos
    rw [if_neg hnone, hblocks]

theorem growthsAfter_succ (hblock : config.blockSize ≠ 0) {count : Nat}
    (hword : count < Word.top) :
    config.growthsAfter (count + 1) =
      config.growthsAfter count + if config.slotsAfter count < count + 1 then 1 else 0 := by
  cases count with
  | zero => exact config.growthsAfter_one hblock
  | succ count =>
      rw [growthsAfter, growthsAfter, config.blocks_succ hblock hword]
      exact (Nat.add_assoc _ _ _).symm

variable {config}

theorem of_bytesFor {elementSize length bytes : Nat}
    (h : config.bytesFor elementSize length = some bytes) :
    config.recommended length * elementSize + headerSize < Word.limit ∧
      config.recommended length * elementSize + headerSize = bytes := by
  unfold bytesFor at h
  split at h
  · rename_i hword
    exact ⟨hword, Option.some.inj h⟩
  · cases h

/-- A length whose bytes are a word lies below the saturation of the capacity. -/
theorem lt_top_of_bytesFor {elementSize length : Nat} (hsize : 0 < elementSize)
    (hword : config.recommended length * elementSize + headerSize < Word.limit) :
    length < Word.top := by
  have hcapacity : config.recommended length < Word.top := by
    have hle := Nat.le_mul_of_pos_right (config.recommended length) hsize
    rw [headerSize, Word.limit_eq] at hword
    rw [Word.top_eq]
    omega
  apply Nat.lt_of_not_le
  intro htop
  have hfull := config.recommended_mono htop
  rw [recommended_top] at hfull
  exact Nat.not_le_of_lt hcapacity hfull

end Config

/-- What `pushes` into a new buffer come to that was estimated to take `bytes` bytes for them.
-/
structure MeetsEstimate {σ κ ρ : Type} (header : σ → Header) (refusal : ρ → Option BufferError)
    (run : List (Nat × κ) → Traced (Outcome σ (List ρ))) (config : Config)
    (pushes : List (Nat × κ)) (bytes : Nat) : Prop where
  faults_eq : (run pushes).faults = []
  refusals_eq : (run pushes).value.result.map refusal = List.replicate pushes.length none
  calm : ∀ event ∈ (run pushes).events, event.level ≠ .warn
  reserved_eq : ∀ count, 0 < count → count ≤ pushes.length →
    (header (run (pushes.take count)).value.state).reserved = config.recommended count
  bytesAllocated_eq : (header (run pushes).value.state).bytesAllocated = bytes
  growths_eq : (run pushes).events.countP Event.isGrown =
    (if config.minCapacity = 0 then 0 else 1) +
      (pushes.length - config.minCapacity.toNat) ⌈/⌉ config.blockSize.toNat

/-!
## One push
-/

namespace Reservation

variable {r : Reservation} {limit count : Nat}

theorem ensure_of_planned (hvalid : r.Valid)
    (hreserved : r.header.reserved = r.config.slotsAfter count)
    (hword : count + 1 < Word.limit)
    (hfits : r.Fits limit (r.config.recommended (count + 1))) :
    (r.ensure limit (count + 1)).value = .ok (r.withSlots (r.config.recommended (count + 1))) ∧
      (r.ensure limit (count + 1)).events =
        if r.config.slotsAfter count < count + 1 then
          [.grown r.header.reserved (r.config.recommended (count + 1))
            (r.config.recommended (count + 1) * r.header.elementSize + headerSize)]
        else [] := by
  rw [← hreserved]
  rcases Nat.lt_or_ge r.header.reserved (count + 1) with hgrows | hkept
  · have hslots : count + 1 + (r.config.recommended (count + 1) - (count + 1)) =
        r.config.recommended (count + 1) :=
      Nat.add_sub_cancel' (r.config.le_recommended hword)
    have hgrown := (grows_ensure limit hgrows hword).of_fits_slack (by rwa [hslots])
    rw [hslots] at hgrown
    rw [if_pos hgrows]
    exact hgrown
  · have hpos : 0 < count := by
      cases count with
      | zero =>
          rw [hreserved] at hkept
          cases hkept
      | succ count => exact Nat.succ_pos count
    have hsame : r.config.recommended (count + 1) = r.header.reserved := by
      rw [hreserved, r.config.slotsAfter_of_pos hpos] at hkept ⊢
      exact r.config.recommended_eq_of_le (Nat.le_succ count) hkept
    rw [ensure_of_le hkept, if_neg (Nat.not_lt_of_le hkept), hsame, hvalid.withSlots_reserved]
    exact ⟨rfl, rfl⟩

end Reservation

namespace Kind

variable {σ κ ρ : Type} {kind : Kind σ κ ρ} {elementSize count limit : Nat}
  {state : σ} {push : κ}

/-- The states after so many pushes into a new buffer. -/
def Planned (kind : Kind σ κ ρ) (elementSize count : Nat) (state : σ) : Prop :=
  ∃ r, kind.keeps state r ∧ r.Valid ∧ r.header.elementSize = elementSize ∧
    r.header.length = count ∧ r.header.reserved = kind.config.slotsAfter count

/-- What pushes into a buffer come to that has had `count` pushes before. -/
structure GoesOn (kind : Kind σ κ ρ) (elementSize count : Nat) (pushes : List (Nat × κ))
    (run : Traced (Outcome σ (List ρ))) : Prop where
  faults_eq : run.faults = []
  refusals_eq : run.value.result.map kind.refusal = List.replicate pushes.length none
  planned : kind.Planned elementSize (count + pushes.length) run.value.state
  calm : ∀ event ∈ run.events, event.level ≠ .warn
  growths_eq : kind.config.growthsAfter (count + pushes.length) =
    kind.config.growthsAfter count + run.events.countP Event.isGrown

theorem push_of_planned (h : kind.Planned elementSize count state)
    (hpush : kind.move state push = .extend) (hword : count + 1 < Word.limit)
    (hgrants : kind.config.Grants limit elementSize (kind.config.recommended (count + 1))) :
    (kind.step limit state push).faults = [] ∧
      kind.refusal (kind.step limit state push).value.result = none ∧
      kind.Planned elementSize (count + 1) (kind.step limit state push).value.state ∧
      (∀ event ∈ (kind.step limit state push).events, event.level ≠ .warn) ∧
      (kind.step limit state push).events.countP Event.isGrown =
        if kind.config.slotsAfter count < count + 1 then 1 else 0 := by
  rcases h with ⟨r, hkeeps, hvalid, rfl, rfl, hreserved⟩
  have hconfig := kind.config_eq hkeeps
  rw [← hconfig] at hgrants hreserved ⊢
  have hfits := Reservation.fits_iff_grants.mpr hgrants
  rcases Reservation.ensure_of_planned hvalid hreserved hword hfits with ⟨hvalue, hevents⟩
  have hplayed := Reservation.value_play_extend hvalue
  have hlogged := Reservation.events_play_extend.trans hevents
  have hplays := kind.plays limit hkeeps push
  rw [hpush] at hplays
  have hagree := hplays.agree
  have hstate := hplays.state_related
  rw [hplayed] at hagree hstate
  have hslots := r.config.le_recommended hword
  have hgrown := hvalid.withSlots_of_admits (Nat.le_of_succ_le hslots) hfits.left
  refine ⟨hplays.left_faults, hagree,
    ⟨_, hstate, hgrown.withLength hslots, rfl, rfl, ?_⟩, ?_, ?_⟩
  · rw [← hconfig]
    rfl
  · intro event hmem hwarn
    have hplay := hplays.mem_right hmem (Event.ofReservation_of_warn hwarn)
    rw [hlogged] at hplay
    split at hplay
    · rw [List.mem_singleton.mp hplay] at hwarn
      cases hwarn
    · cases hplay
  · rw [hplays.countP_eq Event.ofReservation_of_isGrown, hlogged]
    split
    · rfl
    · rfl

/-!
## A run of pushes
-/

theorem goesOn_nil (h : kind.Planned elementSize count state) :
    kind.GoesOn elementSize count [] (runAll kind.step [] state) where
  faults_eq := rfl
  refusals_eq := rfl
  planned := h
  calm := by
    intro event hmem
    cases hmem
  growths_eq := rfl

theorem GoesOn.cons {pushes : List (Nat × κ)} (hblock : kind.config.blockSize ≠ 0)
    (hword : count < Word.top)
    (hfaults : (kind.step limit state push).faults = [])
    (hrefusal : kind.refusal (kind.step limit state push).value.result = none)
    (hcalm : ∀ event ∈ (kind.step limit state push).events, event.level ≠ .warn)
    (hgrowths : (kind.step limit state push).events.countP Event.isGrown =
      if kind.config.slotsAfter count < count + 1 then 1 else 0)
    (hlater : kind.GoesOn elementSize (count + 1) pushes
      (runAll kind.step pushes (kind.step limit state push).value.state)) :
    kind.GoesOn elementSize count ((limit, push) :: pushes)
      (runAll kind.step ((limit, push) :: pushes) state) := by
  have hcount : count + ((limit, push) :: pushes).length = count + 1 + pushes.length := by
    rw [List.length_cons, Nat.add_assoc, Nat.add_comm 1]
  have hevents := events_runAll_cons kind.step limit push pushes state
  constructor
  · rw [faults_runAll_cons, hfaults, hlater.faults_eq]
    rfl
  · rw [List.length_cons, List.replicate_succ, ← hlater.refusals_eq, ← hrefusal]
    rfl
  · rw [hcount]
    exact hlater.planned
  · intro event hmem
    rw [hevents] at hmem
    rcases List.mem_append.mp hmem with hfirst | hrest
    · exact hcalm event hfirst
    · exact hlater.calm event hrest
  · rw [hcount, hlater.growths_eq, hevents, List.countP_append, hgrowths,
      kind.config.growthsAfter_succ hblock hword, Nat.add_assoc]

/-- On heaps that grant the capacity of `total` elements, pushes go on as planned up to this
number. -/
theorem goesOn {good : σ → κ → Prop} {total : Nat} {pushes : List (Nat × κ)}
    (hgood : ∀ {state r}, kind.keeps state r → r.Valid → ∀ {push}, good state push →
      kind.move state push = .extend)
    (hblock : kind.config.blockSize ≠ 0) (htotal : total < Word.top)
    (hgrants : ∀ push ∈ pushes,
      kind.config.Grants push.1 elementSize (kind.config.recommended total))
    (hpushes : ∀ entry ∈ history kind.step pushes state, good entry.before entry.command)
    (h : kind.Planned elementSize count state) (hle : count + pushes.length ≤ total) :
    kind.GoesOn elementSize count pushes (runAll kind.step pushes state) := by
  induction pushes generalizing state count with
  | nil => exact goesOn_nil h
  | cons entry rest ih =>
      rcases entry with ⟨limit, push⟩
      rcases List.forall_mem_cons.mp hgrants with ⟨hgranted, hothers⟩
      rcases List.forall_mem_cons.mp hpushes with ⟨hfirst, hlater⟩
      rcases h with ⟨r, hkeeps, hvalid, hrest⟩
      have hmove := hgood hkeeps hvalid hfirst
      have hnext : count + 1 + rest.length ≤ total := by
        rw [Nat.add_assoc, Nat.add_comm 1]
        exact hle
      have hshort : count + 1 ≤ total := Nat.le_trans (Nat.le_add_right _ _) hnext
      have hword : count + 1 < Word.limit :=
        Word.le_top_iff_lt.mp (Nat.le_of_lt (Nat.lt_of_le_of_lt hshort htotal))
      -- Whatever grants the capacity of all pushes also grants the one of those made so far.
      have hcapacity := kind.config.recommended_mono hshort
      rcases push_of_planned ⟨r, hkeeps, hvalid, hrest⟩ hmove hword
        (hgranted.of_le hcapacity) with
        ⟨hfaults, hrefusal, hplanned, hcalm, hgrowths⟩
      exact GoesOn.cons hblock
        (Nat.lt_of_lt_of_le (Nat.lt_of_succ_le hshort) (Nat.le_of_lt htotal))
        hfaults hrefusal hcalm hgrowths (ih hothers hlater hplanned hnext)

/-- Pushes that go on as planned at every moment cost the capacity of their number. -/
theorem meetsEstimate_of_goesOn {pushes : List (Nat × κ)} (hsome : pushes ≠ [])
    (hrun : ∀ count ≤ pushes.length, kind.GoesOn elementSize 0 (pushes.take count)
      (runAll kind.step (pushes.take count) state)) :
    MeetsEstimate kind.header kind.refusal (fun pushes => runAll kind.step pushes state)
      kind.config pushes (kind.config.recommended pushes.length * elementSize +
        headerSize) := by
  have hreserved : ∀ count ≤ pushes.length, ∃ r,
      kind.keeps (runAll kind.step (pushes.take count) state).value.state r ∧ r.Valid ∧
        r.header.elementSize = elementSize ∧
          r.header.reserved = kind.config.slotsAfter count := by
    intro count hcount
    rcases (hrun count hcount).planned with ⟨r, hkeeps, hvalid, hsame, _, hslots⟩
    rw [Nat.zero_add, List.length_take_of_le hcount] at hslots
    exact ⟨r, hkeeps, hvalid, hsame, hslots⟩
  have hpos : 0 < pushes.length := List.length_pos_of_ne_nil hsome
  have hend := hrun pushes.length (Nat.le_refl _)
  have hlast := hreserved pushes.length (Nat.le_refl _)
  rw [List.take_length] at hend hlast
  constructor
  · exact hend.faults_eq
  · exact hend.refusals_eq
  · exact hend.calm
  · intro count hcount hle
    rcases hreserved count hle with ⟨r, hkeeps, _, _, hslots⟩
    rw [kind.header_eq hkeeps, hslots, kind.config.slotsAfter_of_pos hcount]
  · rcases hlast with ⟨r, hkeeps, hvalid, hsame, hslots⟩
    rw [kind.header_eq hkeeps, hvalid.bytesAllocated_eq, hsame, hslots,
      kind.config.slotsAfter_of_pos hpos]
  · have hgrowths := hend.growths_eq
    rw [Nat.zero_add, Config.growthsAfter, Nat.zero_add,
      kind.config.growthsAfter_of_pos hpos] at hgrowths
    exact hgrowths.symm

theorem meetsEstimate {good : σ → κ → Prop} {pushes : List (Nat × κ)} {bytes : Nat}
    (hgood : ∀ {state r}, kind.keeps state r → r.Valid → ∀ {push}, good state push →
      kind.move state push = .extend)
    (hblock : kind.config.blockSize ≠ 0) (hsize : 0 < elementSize)
    (h : kind.Planned elementSize 0 state) (hsome : pushes ≠ [])
    (hbytes : kind.config.bytesFor elementSize pushes.length = some bytes)
    (hceiling : ∀ ceiling ∈ kind.config.maxBytes, bytes ≤ ceiling.toNat)
    (hheap : ∀ push ∈ pushes, bytes - headerSize ≤ min push.1 maxPayload)
    (hpushes : ∀ entry ∈ history kind.step pushes state, good entry.before entry.command) :
    MeetsEstimate kind.header kind.refusal (fun pushes => runAll kind.step pushes state)
      kind.config pushes bytes := by
  rcases Config.of_bytesFor hbytes with ⟨hword, rfl⟩
  rw [Nat.add_sub_cancel] at hheap
  have htotal := kind.config.lt_top_of_bytesFor hsize hword
  apply meetsEstimate_of_goesOn hsome
  intro count hcount
  apply goesOn hgood hblock htotal _ _ h
  · rw [Nat.zero_add]
    exact List.length_take_le' count pushes
  · intro push hmem
    exact ⟨hword, hceiling, hheap push (List.mem_of_mem_take hmem)⟩
  · intro entry hmem
    rw [history_take] at hmem
    exact hpushes entry (List.mem_of_mem_take hmem)

end Kind

/-!
## Both kinds of buffer
-/

theorem ByteBuffer.init_fresh {elementSize : Nat} {config : Config} (hsize : 0 < elementSize)
    (hblock : config.blockSize ≠ 0) :
    (ByteBuffer.init { config := config } elementSize).value.state =
      holding { header := .unreserved elementSize, config := config } [] := by
  rw [init_of_create (Reservation.create_of_pos hsize hblock)]
  rfl

theorem ByteBuffer.bytesFor_of_requiredBytes {r : Reservation} {elements : List Bytes}
    {length bytes : Nat} (h : ((holding r elements).requiredBytes length).value = .ok bytes) :
    r.config.bytesFor r.header.elementSize length = some bytes := by
  unfold requiredBytes at h
  rw [initialized_holding] at h
  dsimp only at h
  rw [Reservation.requiredBytes_eq_pure, pure_bind] at h
  cases hbytes : r.config.bytesFor r.header.elementSize length with
  | none =>
      rw [hbytes] at h
      cases h
  | some estimate =>
      rw [hbytes] at h
      cases h
      rfl

theorem ByteBuffer.planned_fresh {elementSize : Nat} {config : Config}
    (hsize : 0 < elementSize) (hblock : config.blockSize ≠ 0) :
    (ByteBuffer.kind config).Planned elementSize 0
      (holding { header := .unreserved elementSize, config := config } []) := by
  have hvalid := Reservation.valid_unreserved hsize hblock
  exact ⟨_, .initialized rfl ⟨hvalid, rfl, Bytes.Uniform.nil _⟩, hvalid, rfl, rfl, rfl⟩

theorem Buffer.planned_fresh {α : Type} {elementSize : Nat} {config : Config}
    (hsize : 0 < elementSize) (hblock : config.blockSize ≠ 0) :
    (Buffer.kind α elementSize config).Planned elementSize 0
      { items := [],
        reservation := { header := .unreserved elementSize, config := config } } := by
  have hvalid := Reservation.valid_unreserved hsize hblock
  exact ⟨_, .intro rfl rfl hvalid rfl, hvalid, rfl, rfl, rfl⟩

/-- If a new buffer of either kind estimates so many bytes for a number of elements, and the
ceiling and every heap have them, then that many pushes meet the estimate. -/
theorem estimate_is_the_cost (config : Config) (hblock : config.blockSize ≠ 0)
    (elementSize : Nat) (hsize : 0 < elementSize) :
    (∀ (pushes : List (Nat × ByteBuffer.Command)) (bytes : Nat),
      let fresh := (ByteBuffer.init { config := config } elementSize).value.state
      pushes ≠ [] → (fresh.requiredBytes pushes.length).value = .ok bytes →
      (∀ ceiling ∈ config.maxBytes, bytes ≤ ceiling.toNat) →
      (∀ push ∈ pushes, bytes - headerSize ≤ min push.1 maxPayload) →
      (∀ entry ∈ history ByteBuffer.step pushes fresh, entry.before.Pushes entry.command) →
      MeetsEstimate ByteBuffer.header ByteBuffer.Reply.refusal
        (fun pushes => ByteBuffer.run pushes fresh) config pushes bytes) ∧
    ∀ (α : Type) (fresh : Buffer α) (pushes : List (Nat × Buffer.Command α)) (bytes : Nat),
      Buffer.create elementSize config = .ok fresh →
      pushes ≠ [] → (fresh.requiredBytes pushes.length).value = some bytes →
      (∀ ceiling ∈ config.maxBytes, bytes ≤ ceiling.toNat) →
      (∀ push ∈ pushes, bytes - headerSize ≤ min push.1 maxPayload) →
      (∀ entry ∈ history Buffer.step pushes fresh, entry.before.Pushes entry.command) →
      MeetsEstimate Buffer.header Buffer.Reply.refusal
        (fun pushes => Buffer.run pushes fresh) config pushes bytes := by
  constructor
  · intro pushes bytes fresh hsome hbytes hceiling hheap hpushes
    have hfresh : fresh = ByteBuffer.holding
        { header := .unreserved elementSize, config := config } [] :=
      ByteBuffer.init_fresh hsize hblock
    rw [hfresh] at hbytes hpushes ⊢
    simp only [ByteBuffer.run]
    exact (ByteBuffer.kind config).meetsEstimate ByteBuffer.move_of_pushes hblock hsize
      (ByteBuffer.planned_fresh hsize hblock) hsome
        (ByteBuffer.bytesFor_of_requiredBytes hbytes)
      hceiling hheap hpushes
  · intro α fresh pushes bytes hcreate hsome hbytes hceiling hheap hpushes
    have hfresh := (Buffer.create_of_pos hsize hblock).symm.trans hcreate
    cases hfresh
    rw [Buffer.requiredBytes, Reservation.requiredBytes_eq_pure] at hbytes
    simp only [Buffer.run]
    exact (Buffer.kind α elementSize config).meetsEstimate
      (fun _ _ => Buffer.move_of_pushes) hblock
      hsize (Buffer.planned_fresh hsize hblock) hsome hbytes hceiling hheap hpushes

theorem estimate_is_the_cost_of_three :
    let config : Config := { minCapacity := 1, blockSize := 2, maxBytes := some 44 }
    let fresh : Buffer Bool :=
      { items := [], reservation := { header := .unreserved 4, config := config } }
    let pushes : List (Nat × Buffer.Command Bool) :=
      [(12, .pushBack true), (12, .insert 0 false), (20, .pushFront true)]
    config.blockSize ≠ 0 ∧ Buffer.create 4 config = .ok fresh ∧
      (fresh.requiredBytes pushes.length).value = some 44 ∧
      MeetsEstimate Buffer.header Buffer.Reply.refusal (fun pushes => Buffer.run pushes fresh)
        config pushes 44 ∧
      (Buffer.run pushes fresh).events.countP Event.isGrown = 2 := by
  intro config fresh pushes
  have hblock : config.blockSize ≠ 0 := by decide
  have hbytes : (fresh.requiredBytes pushes.length).value = some 44 := by cbv
  have hceiling : ∀ ceiling ∈ config.maxBytes, 44 ≤ ceiling.toNat := by
    intro ceiling hmem
    cases hmem
    decide
  have hheap : ∀ push ∈ pushes, 44 - headerSize ≤ min push.1 maxPayload := by decide
  have hpushes : ∀ entry ∈ history Buffer.step pushes fresh,
      entry.before.Pushes entry.command := by
    intro entry hmem
    cases hmem with
    | head => exact trivial
    | tail _ hmem =>
        cases hmem with
        | head => exact Nat.zero_le _
        | tail _ hmem =>
            cases hmem with
            | head => exact trivial
            | tail _ hmem => cases hmem
  have hmeets := (estimate_is_the_cost config hblock 4 (by decide)).right Bool
    fresh pushes 44 rfl
    (List.cons_ne_nil _ _) hbytes hceiling hheap hpushes
  have hcount : (if config.minCapacity = 0 then 0 else 1) +
      (pushes.length - config.minCapacity.toNat) ⌈/⌉ config.blockSize.toNat = 2 := by decide
  exact ⟨hblock, rfl, hbytes, hmeets, hmeets.growths_eq.trans hcount⟩

end BlockBuffer
