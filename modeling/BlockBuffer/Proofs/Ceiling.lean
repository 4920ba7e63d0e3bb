import BlockBuffer.Proofs.Histories
import BlockBuffer.Proofs.Kinds

/-!
# The ceiling can be used up

Growths round up, and back off when they are refused, so the number of slots that a buffer has
on the way depends on how it came there.  Where it ends does not: pushes on one heap fail as
soon as the elements fill the slots that were there at first or the room of the heap, whichever
is more, and no earlier.
-/

namespace BlockBuffer

/-- What `pushes` come to on a buffer with room for `full` elements. -/
structure Fills {σ κ ρ : Type} (header : σ → Header) (refusal : ρ → Option BufferError)
    (run : List κ → Traced (Outcome σ (List ρ))) (before : Header) (full : Nat)
    (pushes : List κ) : Prop where
  faults_eq : (run pushes).faults = []
  refusals_eq : (run pushes).value.result.map refusal =
    List.replicate (min pushes.length (full - before.length)) none ++
      List.replicate (pushes.length - (full - before.length))
        (some (.allocation (min (32 + (full + 1) * before.elementSize) (UInt64.size - 1))))
  length_eq :
    (header (run pushes).value.state).length = min (before.length + pushes.length) full
  /-- A full buffer has no slack, and no further push changes it. -/
  full_eq : full - before.length ≤ pushes.length →
    (header (run pushes).value.state).reserved = full ∧
      (run pushes).value.state = (run (pushes.take (full - before.length))).value.state

/-!
## One push
-/

namespace Reservation

variable {r : Reservation} {limit : Nat}

/-- The number of elements that a reservation can come to hold on a heap of `limit` bytes. -/
def ceiling (limit : Nat) (r : Reservation) : Nat :=
  max r.header.reserved (r.config.room limit r.header.elementSize)

theorem demand_eq (r : Reservation) (slots : Nat) :
    r.demand slots = min (32 + slots * r.header.elementSize) (UInt64.size - 1) := by
  unfold demand
  rw [Nat.add_comm]
  rfl

/-- A push below the ceiling succeeds, and does not move the ceiling. -/
theorem ensure_of_lt_ceiling (hvalid : r.Valid) (h : r.header.length < r.ceiling limit) :
    ∃ slots, (r.ensure limit (r.header.length + 1)).value = .ok (r.withSlots slots) ∧
      r.header.length + 1 ≤ slots ∧ (r.withSlots slots).Valid ∧
      (r.withSlots slots).ceiling limit = r.ceiling limit := by
  rcases Nat.lt_or_ge r.header.reserved (r.header.length + 1) with hgrows | hkept
  · have hroom : r.header.length + 1 ≤ r.config.room limit r.header.elementSize := by
      unfold ceiling at h
      omega
    have hfits := (fits_iff_le_room hvalid.elementSize_pos (Nat.succ_pos _)).mpr hroom
    rcases (grows_ensure limit hgrows hvalid.length_succ_lt_limit).ok_of_fits hfits with
      ⟨slots, hresult, hslots, _, hgranted⟩
    have hpos : 0 < slots := Nat.lt_of_lt_of_le (Nat.succ_pos _) hslots
    have hbelow := (fits_iff_le_room hvalid.elementSize_pos hpos).mp hgranted
    have hold : r.header.reserved ≤ r.config.room limit r.header.elementSize :=
      Nat.le_trans (Nat.le_of_lt_succ hgrows) (Nat.le_of_succ_le hroom)
    refine ⟨slots, hresult, hslots, ?_, ?_⟩
    · exact hvalid.withSlots_of_admits (Nat.le_of_succ_le hslots) hgranted.left
    · exact (Nat.max_eq_right hbelow).trans (Nat.max_eq_right hold).symm
  · refine ⟨r.header.reserved, ?_, hkept, ?_, rfl⟩
    · rw [ensure_of_le hkept, hvalid.withSlots_reserved]
      rfl
    · rw [hvalid.withSlots_reserved]
      exact hvalid

theorem ensure_of_eq_ceiling (hvalid : r.Valid) (h : r.header.length = r.ceiling limit) :
    (r.ensure limit (r.header.length + 1)).value =
      .error (.allocation (r.demand (r.header.length + 1))) := by
  have hgrows : r.header.reserved < r.header.length + 1 := by
    rw [h]
    exact Nat.lt_succ_of_le (Nat.le_max_left _ _)
  have hroom : ¬ r.header.length + 1 ≤ r.config.room limit r.header.elementSize := by
    rw [h]
    exact Nat.not_le_of_lt (Nat.lt_succ_of_le (Nat.le_max_right _ _))
  have hfits : ¬ r.Fits limit (r.header.length + 1) := fun hfits =>
    hroom ((fits_iff_le_room hvalid.elementSize_pos (Nat.succ_pos _)).mp hfits)
  exact (grows_ensure limit hgrows hvalid.length_succ_lt_limit).refused_of_not_fits hfits

theorem length_le_ceiling (limit : Nat) (hvalid : r.Valid) :
    r.header.length ≤ r.ceiling limit :=
  Nat.le_trans hvalid.length_le (Nat.le_max_left _ _)

end Reservation

/-!
## A run of pushes
-/

namespace Kind

variable {σ κ ρ : Type} {kind : Kind σ κ ρ} {limit : Nat} {state : σ} {r : Reservation}
  {push : κ} {pushes : List κ}

def runOn (kind : Kind σ κ ρ) (limit : Nat) (state : σ) (commands : List κ) :
    Traced (Outcome σ (List ρ)) :=
  runAll kind.step (commands.map (limit, ·)) state

theorem push_of_lt (hkeeps : kind.keeps state r) (hvalid : r.Valid)
    (hpush : kind.move state push = .extend) (h : r.header.length < r.ceiling limit) :
    (kind.step limit state push).faults = [] ∧
      kind.refusal (kind.step limit state push).value.result = none ∧
      ∃ longer, kind.keeps (kind.step limit state push).value.state longer ∧ longer.Valid ∧
        longer.header.length = r.header.length + 1 ∧
        longer.header.elementSize = r.header.elementSize ∧
        longer.ceiling limit = r.ceiling limit := by
  rcases Reservation.ensure_of_lt_ceiling hvalid h with
    ⟨slots, hensured, hslots, hgrown, hceiling⟩
  have hplays := kind.plays limit hkeeps push
  have hplayed := Reservation.value_play_extend hensured
  have hagree := hplays.agree
  have hstate := hplays.state_related
  rw [hpush, hplayed] at hagree hstate
  exact ⟨hplays.left_faults, hagree, _, hstate, hgrown.withLength hslots, rfl, rfl, hceiling⟩

theorem push_of_eq (hkeeps : kind.keeps state r) (hvalid : r.Valid)
    (hpush : kind.move state push = .extend) (h : r.header.length = r.ceiling limit) :
    (kind.step limit state push).faults = [] ∧
      kind.refusal (kind.step limit state push).value.result =
        some (.allocation (r.demand (r.header.length + 1))) ∧
      (kind.step limit state push).value.state = state := by
  have hplays := kind.plays limit hkeeps push
  have hplayed : (r.play limit .extend).value =
      .refused (.allocation (r.demand (r.header.length + 1))) r := by
    rw [Reservation.play, Traced.value_bind, Reservation.ensure_of_eq_ceiling hvalid h]
    rfl
  have hagree := hplays.agree
  rw [hpush, hplayed] at hagree
  exact ⟨hplays.left_faults, hagree, kind.unchanged limit hkeeps push _ hagree⟩

theorem runOn_cons (kind : Kind σ κ ρ) (limit : Nat) (state : σ) (command : κ)
    (rest : List κ) :
    kind.runOn limit state (command :: rest) = (do
      let first ← kind.step limit state command
      let later ← kind.runOn limit first.state rest
      pure { result := first.result :: later.result, state := later.state }) := rfl

theorem fills_nil (hkeeps : kind.keeps state r) (hvalid : r.Valid) :
    Fills kind.header kind.refusal (kind.runOn limit state) r.header (r.ceiling limit) [] := by
  have hheader := kind.header_eq hkeeps
  have hle := r.length_le_ceiling limit hvalid
  constructor
  · rfl
  · rw [List.length_nil, Nat.zero_min, Nat.zero_sub]
    rfl
  · exact (congrArg Header.length hheader).trans (Nat.min_eq_left hle).symm
  · intro hfull
    have hreserved : r.header.reserved ≤ r.ceiling limit := Nat.le_max_left _ _
    have hlength := hvalid.length_le
    rw [List.length_nil] at hfull
    constructor
    · exact (congrArg Header.reserved hheader).trans (by omega)
    · rw [List.take_nil]

theorem fills_cons_of_lt {longer : Reservation}
    (hfaults : (kind.step limit state push).faults = [])
    (hrefusal : kind.refusal (kind.step limit state push).value.result = none)
    (hlength : longer.header.length = r.header.length + 1)
    (hsize : longer.header.elementSize = r.header.elementSize)
    (hceiling : longer.ceiling limit = r.ceiling limit) (h : r.header.length < r.ceiling limit)
    (hlater : Fills kind.header kind.refusal
      (kind.runOn limit (kind.step limit state push).value.state) longer.header
      (longer.ceiling limit) pushes) :
    Fills kind.header kind.refusal (kind.runOn limit state) r.header (r.ceiling limit)
      (push :: pushes) := by
  have hrefusals := hlater.refusals_eq
  have hlonger := hlater.length_eq
  have hfull := hlater.full_eq
  have hspare : r.ceiling limit - r.header.length =
      r.ceiling limit - (r.header.length + 1) + 1 := by omega
  rw [hceiling, hlength] at hrefusals hlonger hfull
  rw [hsize] at hrefusals
  constructor
  · rw [runOn_cons, Traced.faults_bind, Traced.faults_bind, hfaults, hlater.faults_eq]
    rfl
  · rw [runOn_cons, hspare, List.length_cons, Nat.succ_min_succ, Nat.add_sub_add_right,
      List.replicate_succ, List.cons_append, ← hrefusals, ← hrefusal]
    rfl
  · rw [List.length_cons, ← Nat.succ_add_eq_add_succ]
    exact hlonger
  · intro hlong
    rw [hspare] at hlong ⊢
    exact hfull (Nat.le_of_succ_le_succ hlong)

theorem fills_cons_of_eq (hfaults : (kind.step limit state push).faults = [])
    (hrefusal : kind.refusal (kind.step limit state push).value.result =
      some (.allocation (r.demand (r.header.length + 1))))
    (hstate : (kind.step limit state push).value.state = state)
    (h : r.header.length = r.ceiling limit)
    (hlater : Fills kind.header kind.refusal (kind.runOn limit state) r.header
      (r.ceiling limit) pushes) :
    Fills kind.header kind.refusal (kind.runOn limit state) r.header (r.ceiling limit)
      (push :: pushes) := by
  have hrefusals := hlater.refusals_eq
  have hlength := hlater.length_eq
  have hfull := hlater.full_eq
  have hresults : (kind.runOn limit state (push :: pushes)).value.result =
      (kind.step limit state push).value.result ::
        (kind.runOn limit state pushes).value.result := by
    rw [runOn_cons, Traced.value_bind, hstate]
    rfl
  have hlast : (kind.runOn limit state (push :: pushes)).value.state =
      (kind.runOn limit state pushes).value.state := by
    rw [runOn_cons, Traced.value_bind, hstate]
    rfl
  rw [h, Nat.sub_self] at hrefusals hfull
  rw [h, Nat.min_eq_right (Nat.le_add_right _ _)] at hlength
  constructor
  · rw [runOn_cons, Traced.faults_bind, Traced.faults_bind, hstate, hfaults, hlater.faults_eq]
    rfl
  · rw [hresults, List.map_cons, hrefusals, hrefusal, Reservation.demand_eq, h, Nat.sub_self,
      Nat.min_zero, Nat.min_zero, Nat.sub_zero, Nat.sub_zero, List.length_cons]
    rfl
  · rw [hlast, h, Nat.min_eq_right (Nat.le_add_right _ _)]
    exact hlength
  · intro _
    rw [hlast, h, Nat.sub_self]
    exact hfull (Nat.zero_le _)

/-- From any state on, pushes on one heap fill the buffer up to its ceiling. -/
theorem fills {good : σ → κ → Prop}
    (hgood : ∀ {state r}, kind.keeps state r → r.Valid → ∀ {push}, good state push →
      kind.move state push = .extend)
    (hkeeps : kind.keeps state r) (hvalid : r.Valid)
    (hpushes : ∀ entry ∈ history kind.step (pushes.map (limit, ·)) state,
      good entry.before entry.command) :
    Fills kind.header kind.refusal (kind.runOn limit state) r.header
      (r.ceiling limit) pushes := by
  induction pushes generalizing state r with
  | nil => exact fills_nil hkeeps hvalid
  | cons push rest ih =>
      rcases List.forall_mem_cons.mp hpushes with ⟨hfirst, hlater⟩
      have hpush := hgood hkeeps hvalid hfirst
      rcases Nat.lt_or_eq_of_le (r.length_le_ceiling limit hvalid) with hlt | heq
      · rcases push_of_lt hkeeps hvalid hpush hlt with
          ⟨hfaults, hrefusal, longer, hlonger, hvalid', hlength, hsize, hceiling⟩
        exact fills_cons_of_lt hfaults hrefusal hlength hsize hceiling hlt
          (ih hlonger hvalid' hlater)
      · rcases push_of_eq hkeeps hvalid hpush heq with ⟨hfaults, hrefusal, hstate⟩
        -- The refused push leaves the state as it was, and the later ones are good for it.
        refine fills_cons_of_eq hfaults hrefusal hstate heq (ih hkeeps hvalid ?_)
        intro entry hmem
        apply hlater
        show entry ∈ history kind.step _ (kind.step limit state push).value.state
        rwa [hstate]

end Kind

/-!
## Both kinds of buffer
-/

def ByteBuffer.Pushes (buffer : ByteBuffer) : Command → Prop
  | .insert index source => index ≤ buffer.length ∧ source.length = buffer.elementSize
  | .pushFront source => source.length = buffer.elementSize
  | .pushBack source => source.length = buffer.elementSize
  | _ => False

theorem ByteBuffer.move_of_pushes {config : Config} {buffer : ByteBuffer} {r : Reservation}
    (h : Keeps config buffer r) (hvalid : r.Valid) {command : Command}
    (hpush : buffer.Pushes command) : buffer.move command = .extend := by
  cases h with
  | uninitialized => exact absurd hvalid.elementSize_pos (Nat.lt_irrefl 0)
  | @initialized r elements _ hcounts =>
      have hextends : ∀ {index : Nat} {source : Bytes}, index ≤ elements.length →
          source.length = r.header.elementSize →
          Move.guarded ((holding r elements).checkInsert index source.length) .extend =
            .extend := by
        intro index source hindex hsize
        rw [checkInsert_of_le hcounts hindex, if_pos hsize]
        rfl
      have hlength := length_holding hcounts
      cases command with
      | insert index source =>
          rcases hpush with ⟨hindex, hsize⟩
          rw [hlength] at hindex
          exact hextends hindex hsize
      | pushFront source => exact hextends (Nat.zero_le _) hpush
      | pushBack source => exact hextends (Nat.le_of_eq hlength) hpush
      | _ => cases hpush

def Buffer.Pushes {α : Type} (buffer : Buffer α) : Command α → Prop
  | .insert index _ => index ≤ buffer.length
  | .pushFront _ => True
  | .pushBack _ => True
  | _ => False

theorem Buffer.move_of_pushes {α : Type} {buffer : Buffer α} {command : Command α}
    (hpush : buffer.Pushes command) : buffer.move command = .extend := by
  cases command with
  | insert index value =>
      have hinside : ¬ buffer.items.length < index := Nat.not_lt_of_le hpush
      rw [move, checkPosition, if_neg hinside]
      rfl
  | pushFront value => rfl
  | pushBack value => rfl
  | _ => cases hpush

/-- On one heap, pushes fill any reachable buffer of either kind up to the slots that it has or
to the room of the heap, whichever is more. -/
theorem pushes_fill_the_ceiling :
    (∀ (config : Config) (buffer : ByteBuffer), ByteBuffer.Reachable config buffer →
      buffer.isInitialized = true → ∀ (limit : Nat) (pushes : List ByteBuffer.Command),
      (∀ entry ∈ history ByteBuffer.step (pushes.map (limit, ·)) buffer,
        entry.before.Pushes entry.command) →
      Fills ByteBuffer.header ByteBuffer.Reply.refusal
        (fun pushes => ByteBuffer.run (pushes.map (limit, ·)) buffer) buffer.header
        (max buffer.reserved (config.room limit buffer.elementSize)) pushes) ∧
    ∀ (α : Type) (elementSize : Nat) (config : Config) (buffer : Buffer α),
      Buffer.Reachable elementSize config buffer →
      ∀ (limit : Nat) (pushes : List (Buffer.Command α)),
      (∀ entry ∈ history Buffer.step (pushes.map (limit, ·)) buffer,
        entry.before.Pushes entry.command) →
      Fills Buffer.header Buffer.Reply.refusal
        (fun pushes => Buffer.run (pushes.map (limit, ·)) buffer) buffer.header
        (max buffer.header.reserved (config.room limit elementSize)) pushes := by
  constructor
  · intro config buffer hreachable hinitialized limit pushes hpushes
    rcases hreachable.represents with ⟨list, hlist⟩
    simp only [ByteBuffer.run]
    cases hlist with
    | uninitialized => cases hinitialized
    | initialized hconfig hcounts =>
        have hfills := (ByteBuffer.kind config).fills ByteBuffer.move_of_pushes
          (.initialized hconfig hcounts) hcounts.valid hpushes
        rw [Reservation.ceiling, hconfig] at hfills
        exact hfills
  · intro α elementSize config buffer hreachable limit pushes hpushes
    rcases hreachable.represents with ⟨items, hitems⟩
    simp only [Buffer.run]
    cases hitems with
    | intro hsize hconfig hvalid hcount =>
        have hfills := (Buffer.kind α elementSize config).fills
          (fun _ _ => Buffer.move_of_pushes) (.intro hsize hconfig hvalid hcount)
            hvalid hpushes
        rw [Reservation.ceiling, hconfig, hsize] at hfills
        exact hfills

theorem pushes_fill_one_slot :
    let config : Config := { maxBytes := some 39 }
    let reservation : Reservation :=
      { header := { elementSize := 4, length := 0, reserved := 1, bytesAllocated := 36 }
        config := config }
    let buffer := ByteBuffer.holding reservation []
    let pushes : List ByteBuffer.Command := [.pushBack [1, 2, 3, 4], .insert 0 [5, 6, 7, 8]]
    ByteBuffer.Reachable config buffer ∧ buffer.isInitialized = true ∧
      Fills ByteBuffer.header ByteBuffer.Reply.refusal
        (fun pushes => ByteBuffer.run (pushes.map (96, ·)) buffer) buffer.header 1 pushes := by
  intro config reservation buffer pushes
  have hreachable : ByteBuffer.Reachable config buffer :=
    ⟨[(96, .init 4), (96, .reserve 1)], rfl⟩
  have hpushes : ∀ entry ∈ history ByteBuffer.step (pushes.map (96, ·)) buffer,
      entry.before.Pushes entry.command := by
    intro entry hmem
    cases hmem with
    | head => exact rfl
    | tail _ hmem =>
        cases hmem with
        | head => exact ⟨Nat.zero_le _, rfl⟩
        | tail _ hmem => cases hmem
  have hfull : max buffer.reserved (config.room 96 buffer.elementSize) = 1 := by decide
  have hfills := pushes_fill_the_ceiling.left config buffer hreachable rfl 96 pushes hpushes
  rw [hfull] at hfills
  exact ⟨hreachable, rfl, hfills⟩

end BlockBuffer
