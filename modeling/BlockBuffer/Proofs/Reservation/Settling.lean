import BlockBuffer.Proofs.Moves
import BlockBuffer.Proofs.Reservation.Alike

/-!
# Reservations under another shrink policy

Only a removal looks at the shrink policy.  The lazy policy and the eager one leave the same
number of slots after it, also where the recommended number is the present one.  There the
eager policy carries out a shrink that changes nothing, and leaves an event of it.
-/

namespace BlockBuffer

def Config.settling (policy : ShrinkPolicy) (config : Config) : Config :=
  { config with shrink := policy }

def Reservation.settling (policy : ShrinkPolicy) (r : Reservation) : Reservation :=
  r.under (r.config.settling policy)

def Outcome.settling {ρ : Type} (policy : ShrinkPolicy) (outcome : Outcome Reservation ρ) :
    Outcome Reservation ρ :=
  { outcome with state := outcome.state.settling policy }

theorem Config.recommended_settling (policy : ShrinkPolicy) (config : Config) (length : Nat) :
    (config.settling policy).recommended length = config.recommended length :=
  recommended_congr rfl rfl length

namespace Reservation

variable {r : Reservation} {policy : ShrinkPolicy}

@[simp] theorem header_settling : (r.settling policy).header = r.header := rfl

theorem fits_settling {limit : Nat} (slots : Nat) :
    r.Fits limit slots ↔ (r.settling policy).Fits limit slots :=
  Iff.rfl

theorem valid_settling (h : r.Valid) : (r.settling policy).Valid where
  blockSize_ne := h.blockSize_ne
  elementSize_pos := h.elementSize_pos
  length_le := h.length_le
  bytesAllocated_eq := h.bytesAllocated_eq
  fits := h.fits
  ceiling := h.ceiling

/-!
## Removal
-/

theorem value_settle_eager (hvalid : r.Valid) (hlazy : r.config.shrink = .lazy) :
    (r.settling .eager).settle.value = r.settle.value.under (r.config.settling .eager) := by
  have heager : (r.settling .eager).settledSlots = r.settledSlots := by
    unfold settledSlots
    rw [hlazy]
    exact congrArg (min · r.header.reserved) (Config.recommended_settling _ _ _)
  rw [value_settle hvalid, value_settle (valid_settling hvalid), heager]
  rfl

/-- The eager policy reports one shrink more, where the recommended number of slots is there.
-/
theorem events_settle_eager (hvalid : r.Valid) (hlazy : r.config.shrink = .lazy) :
    (r.settling .eager).settle.events =
      r.settle.events ++
        if r.config.recommended r.header.length = r.header.reserved then
          [.shrunk r.header.reserved r.header.reserved]
        else [] := by
  have heager : (r.settling .eager).config.shrink = .eager := rfl
  have htarget : (r.settling .eager).config.recommended r.header.length =
      r.config.recommended r.header.length := Config.recommended_settling _ _ _
  rw [settle_eq (valid_settling hvalid), settle_eq hvalid, heager, hlazy, header_settling,
    htarget]
  dsimp only
  -- The policies differ only where the reservation is already the recommended one.
  rcases Nat.lt_trichotomy (r.config.recommended r.header.length) r.header.reserved with
    hless | hsame | hmore
  · rw [if_pos (Nat.le_of_lt hless), if_neg (Nat.ne_of_lt hless), if_pos hless]
    rfl
  · rw [hsame, if_pos (Nat.le_refl _), if_pos rfl, if_neg (Nat.lt_irrefl _)]
    rfl
  · rw [if_neg (Nat.not_le_of_lt hmore), if_neg (Nat.ne_of_gt hmore),
      if_neg (Nat.lt_asymm hmore)]
    rfl

theorem events_drop_eager (limit : Nat) (hvalid : r.Valid) (hlazy : r.config.shrink = .lazy) :
    ((r.settling .eager).play limit .drop).events =
      (r.play limit .drop).events ++
        if r.config.recommended (r.header.length - 1) = r.header.reserved then
          [.shrunk r.header.reserved r.header.reserved]
        else [] := by
  have hshorter : (r.withLength (r.header.length - 1)).Valid :=
    hvalid.withLength (Nat.le_trans (Nat.sub_le _ _) hvalid.length_le)
  rw [play, play, Traced.events_bind, Traced.events_bind, Traced.events_pure,
    Traced.events_pure, List.append_nil, List.append_nil]
  exact events_settle_eager hshorter hlazy

/-!
## The other moves
-/

theorem play_settling (policy : ShrinkPolicy) (limit : Nat) {move : Move} (hne : move ≠ .drop)
    (h : r.Valid ∨ move.Idle) :
    (r.settling policy).play limit move = Outcome.settling policy <$> r.play limit move := by
  cases move with
  | keep => rfl
  | refuse error => rfl
  | vacate => rfl
  | drop => exact absurd rfl hne
  | start elementSize =>
      have hblock : (r.settling policy).config.blockSize = r.config.blockSize := rfl
      rw [play, play, create_eq, create_eq, hblock]
      by_cases hsize : elementSize = 0
      · rw [if_pos hsize, if_pos hsize]
        rfl
      · by_cases hnone : r.config.blockSize = 0
        · rw [if_neg hsize, if_neg hsize, if_pos hnone, if_pos hnone]
          rfl
        · rw [if_neg hsize, if_neg hsize, if_neg hnone, if_neg hnone]
          rfl
  | extend =>
      have hvalid := h.resolve_right id
      have hsame : (r.settling policy).ensure limit (r.header.length + 1) =
          Except.map (under (r.config.settling policy)) <$>
            r.ensure limit (r.header.length + 1) :=
        ensure_under (fun slots _ => fits_settling slots) (Config.recommended_settling _ _ _)
          hvalid.length_succ_lt_limit
      have hensured := (ensure_succ limit hvalid rfl).right
      rw [play, play, header_settling, hsame, bind_map_left, map_bind]
      apply Traced.bind_congr_value
      generalize (r.ensure limit (r.header.length + 1)).value = ensured at hensured ⊢
      cases hensured with
      | refused => rfl
      | enough _ _ => rfl
  | reserve amount =>
      have hvalid := h.resolve_right id
      have hsame : (r.settling policy).reserve limit amount =
          Except.map (under (r.config.settling policy)) <$> r.reserve limit amount :=
        reserve_under amount fun slots _ => fits_settling slots
      have hreserved := suffices_reserve limit amount hvalid
      rw [play, play, hsame, bind_map_left, map_bind]
      apply Traced.bind_congr_value
      generalize (r.reserve limit amount).value = reserved at hreserved ⊢
      cases hreserved with
      | refused => rfl
      | enough _ _ => rfl
  | compact =>
      have hvalid := h.resolve_right id
      rw [play, play, compact_eq hvalid, compact_eq (valid_settling hvalid), header_settling]
      by_cases hfull : r.header.length = r.header.reserved
      · rw [if_pos hfull, if_pos hfull]
        rfl
      · rw [if_neg hfull, if_neg hfull]
        rfl
  | release =>
      have hvalid := h.resolve_right id
      rw [play, play, release_eq hvalid, release_eq (valid_settling hvalid)]
      rfl

end Reservation

/-!
## Logs under the two policies
-/

/-- The second log is the first one with more shrinks, each to the number of slots before it.
-/
inductive Echoes : List Event → List Event → Prop where
  | nil : Echoes [] []
  | cons (event : Event) {events events' : List Event} :
      Echoes events events' → Echoes (event :: events) (event :: events')
  | again (slots : Nat) {events events' : List Event} :
      Echoes events events' → Echoes events (.shrunk slots slots :: events')

theorem Echoes.refl (events : List Event) : Echoes events events := by
  induction events with
  | nil => exact .nil
  | cons event rest ih => exact .cons event ih

theorem Echoes.append {first first' later later' : List Event} (hfirst : Echoes first first')
    (hlater : Echoes later later') : Echoes (first ++ later) (first' ++ later') := by
  induction hfirst with
  | nil => exact hlater
  | cons event _ ih => exact .cons event ih
  | again slots _ ih => exact .again slots ih

theorem partByPart_echoes : PartByPart Echoes where
  refl := Echoes.refl
  append := Echoes.append

theorem Config.alike_settling (config : Config) :
    Alike Echoes id (config.settling .lazy) (config.settling .eager) where
  partByPart := partByPart_echoes
  minCapacity_eq := rfl
  blockSize_eq := rfl
  fits_iff := by
    rintro ⟨header, _⟩ _ rfl limit slots _
    exact Iff.rfl
  valid := by
    rintro ⟨header, _⟩ h rfl
    exact Reservation.valid_settling h
  settle := by
    rintro ⟨header, _⟩ h rfl
    have heager : Echoes []
        (if (config.settling .lazy).recommended header.length = header.reserved then
          [.shrunk header.reserved header.reserved]
        else []) := by
      split
      · exact .again _ .nil
      · exact .nil
    have hevents := Reservation.events_settle_eager h rfl
    constructor
    · exact Reservation.faults_settle h
    · exact Reservation.faults_settle (Reservation.valid_settling h)
    · have hlogs :=
        (Echoes.refl (Reservation.settle ⟨header, config.settling .lazy⟩).events).append
        heager
      rw [List.append_nil] at hlogs
      exact hevents ▸ hlogs
    · exact Reservation.value_settle_eager h rfl

end BlockBuffer
