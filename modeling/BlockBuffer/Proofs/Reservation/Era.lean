import BlockBuffer.Proofs.Capacity
import BlockBuffer.Proofs.Moves

/-!
# Eras

An era of a buffer begins when all of its elements and slots are gone.  As long as no slots are
reserved ahead, the reservation of the era is bounded by the capacity of one length: the
present one if removals give slots back, and the longest one of the era if they do not.  If
moreover no attempt to grow is refused and nothing is compacted, it is exactly this capacity
from the first insertion on.
-/

namespace BlockBuffer

structure Era where
  peak : Nat := 0
  filled : Bool := false
deriving DecidableEq, Repr

namespace Era

def after (era : Era) (role : Role) (length : Nat) : Era :=
  match role with
  | .empties => {}
  | .inserts => { peak := max era.peak length, filled := true }
  | _ => { era with peak := max era.peak length }

theorem after_other {era : Era} {length : Nat} (hle : length ≤ era.peak) :
    era.after .other length = era := by
  simp only [after, Nat.max_eq_left hle]

end Era

/-!
## The length that counts
-/

namespace Config

variable {era : Era} {length : Nat}

def measure (config : Config) (era : Era) (length : Nat) : Nat :=
  match config.shrink with
  | .deferred => era.peak
  | .lazy => length
  | .eager => length

theorem le_measure (config : Config) (h : length ≤ era.peak) :
    length ≤ config.measure era length := by
  unfold measure
  cases config.shrink with
  | deferred => exact h
  | lazy => exact Nat.le_refl _
  | eager => exact Nat.le_refl _

theorem measure_le (config : Config) (h : length ≤ era.peak) :
    config.measure era length ≤ era.peak := by
  unfold measure
  cases config.shrink with
  | deferred => exact Nat.le_refl _
  | lazy => exact h
  | eager => exact h

/-- An insertion moves the length that counts to the new length, or leaves it where it was. -/
theorem measure_after_inserts (config : Config) (era : Era) (length : Nat) :
    config.measure (era.after .inserts (length + 1)) (length + 1) =
      max (config.measure era length) (length + 1) := by
  unfold measure
  cases config.shrink with
  | deferred => rfl
  | lazy => exact (Nat.max_eq_right (Nat.le_succ length)).symm
  | eager => exact (Nat.max_eq_right (Nat.le_succ length)).symm

end Config

namespace Reservation

variable {r : Reservation} {limit length : Nat} {era : Era}

/-!
## The slots after a growth
-/

theorem ensure_cases (limit : Nat) (hword : length < Word.limit) :
    (∃ error, (r.ensure limit length).value = .error error) ∨
      (length ≤ r.header.reserved ∧ (r.ensure limit length).value = .ok r) ∨
      ∃ slots, (r.ensure limit length).value = .ok (r.withSlots slots) ∧
        slots ≤ r.config.recommended length := by
  rcases Nat.lt_or_ge r.header.reserved length with hgrows | hkept
  · have hle := r.config.le_recommended hword
    have hgrown := grows_ensure limit hgrows hword
    generalize (r.ensure limit length).value = result at hgrown ⊢
    generalize (r.ensure limit length).events = events at hgrown
    cases hgrown with
    | refused retries _ _ => exact Or.inl ⟨_, rfl⟩
    | granted retries _ _ =>
        have hless := Nat.div_le_self (r.config.recommended length - length) (2 ^ retries)
        exact Or.inr (Or.inr ⟨_, rfl, by omega⟩)
  · rw [ensure_of_le hkept]
    exact Or.inr (Or.inl ⟨hkept, rfl⟩)

/-- A growth without a warning was granted at once, if there was a growth at all. -/
theorem ensure_of_calm (hword : length < Word.limit)
    (hcalm : ∀ event ∈ (r.ensure limit length).events, event.level ≠ .warn) :
    (length ≤ r.header.reserved ∧ (r.ensure limit length).value = .ok r) ∨
      (r.header.reserved < length ∧
        (r.ensure limit length).value = .ok (r.withSlots (r.config.recommended length))) := by
  rcases Nat.lt_or_ge r.header.reserved length with hgrows | hkept
  · have hle := r.config.le_recommended hword
    have hgrown := grows_ensure limit hgrows hword
    generalize (r.ensure limit length).value = result at hgrown ⊢
    generalize (r.ensure limit length).events = events at hgrown hcalm
    cases hgrown with
    | refused retries _ _ =>
        exact absurd rfl (hcalm _ (List.mem_append_right _ (List.mem_singleton_self _)))
    | granted retries _ _ =>
        cases retries with
        | zero =>
            have hfirst : length + (r.config.recommended length - length) / 2 ^ 0 =
                r.config.recommended length := by
              rw [Nat.pow_zero, Nat.div_one]
              omega
            rw [hfirst]
            exact Or.inr ⟨hgrows, rfl⟩
        | succ retries =>
            rw [warnings_succ] at hcalm
            exact absurd rfl (hcalm _ (List.mem_append_left _ (List.mem_cons_self ..)))
  · rw [ensure_of_le hkept]
    exact Or.inl ⟨hkept, rfl⟩

/-!
## The bound
-/

structure Within (r : Reservation) (era : Era) : Prop where
  length_le : r.header.length ≤ era.peak
  peak_lt : era.peak < Word.limit
  reserved_le :
    r.header.reserved ≤ r.config.recommended (r.config.measure era r.header.length)

theorem Within.keep (h : r.Within era) : r.Within (era.after .other r.header.length) := by
  rw [Era.after_other h.length_le]
  exact h

theorem within_new (hlength : r.header.length = 0) (hreserved : r.header.reserved = 0) :
    r.Within {} := by
  constructor
  · exact Nat.le_of_eq hlength
  · decide
  · rw [hreserved]
    exact Nat.zero_le _

theorem Within.extend {slots : Nat} (h : r.Within era)
    (hword : r.header.length + 1 < Word.limit)
    (hslots : slots ≤ r.header.reserved ∨ slots ≤ r.config.recommended (r.header.length + 1)) :
    ((r.withSlots slots).withLength (r.header.length + 1)).Within
      (era.after .inserts (r.header.length + 1)) := by
  constructor
  · exact Nat.le_max_right _ _
  · exact Nat.max_lt.mpr ⟨h.peak_lt, hword⟩
  · show slots ≤ r.config.recommended (r.config.measure _ (r.header.length + 1))
    rw [Config.measure_after_inserts]
    rcases hslots with hkept | hgrown
    · have hmono := r.config.recommended_mono
        (Nat.le_max_left (r.config.measure era r.header.length) (r.header.length + 1))
      exact Nat.le_trans hkept (Nat.le_trans h.reserved_le hmono)
    · exact Nat.le_trans hgrown (r.config.recommended_mono (Nat.le_max_right _ _))

theorem Within.shrink (h : r.Within era) {slots : Nat} (hlength : length ≤ r.header.length)
    (hslots : slots ≤ r.config.recommended (r.config.measure era length)) :
    ((r.withLength length).withSlots slots).Within era := by
  constructor
  · exact Nat.le_trans hlength h.length_le
  · exact h.peak_lt
  · exact hslots

theorem Within.settledSlots_le (h : r.Within era) (length : Nat) :
    (r.withLength length).settledSlots ≤
      r.config.recommended (r.config.measure era length) := by
  have hle := h.reserved_le
  unfold settledSlots
  unfold Config.measure at hle ⊢
  rw [config_withLength, length_withLength, reserved_withLength]
  cases hshrink : r.config.shrink with
  | deferred =>
      rw [hshrink] at hle
      exact hle
  | lazy => exact Nat.min_le_left _ _
  | eager => exact Nat.min_le_left _ _

theorem Within.play {move : Move} (h : r.Within era) (hvalid : r.Valid ∨ move.Idle)
    (hplain : move.Plain) :
    (r.play limit move).value.state.Within
      (era.after (move.role.played (refusal (r.play limit move).value.result))
        (r.play limit move).value.state.header.length) := by
  cases move with
  | keep => exact h.keep
  | refuse error => exact h.keep
  | reserve amount => cases hplain
  | vacate => cases hplain
  | start elementSize =>
      rw [Reservation.play]
      cases hcreate : create elementSize r.config with
      | error error => exact h.keep
      | ok fresh =>
          have hheader := (of_create hcreate).right.right
          exact within_new (congrArg Header.length hheader) (congrArg Header.reserved hheader)
  | extend =>
      have hword := (hvalid.resolve_right id).length_succ_lt_limit
      rw [Reservation.play, Traced.value_bind]
      rcases r.ensure_cases limit hword with
        ⟨error, hrefused⟩ | ⟨_, hkept⟩ | ⟨slots, hgrown, hslots⟩
      · rw [hrefused]
        exact h.keep
      · have hsame := (hvalid.resolve_right id).withSlots_reserved
        rw [hkept, ← hsame]
        exact h.extend hword (Or.inl (Nat.le_refl _))
      · rw [hgrown]
        exact h.extend hword (Or.inr hslots)
  | drop =>
      have hle := Nat.sub_le r.header.length 1
      have hshorter := (hvalid.resolve_right id).withLength
        (Nat.le_trans hle (hvalid.resolve_right id).length_le)
      rw [Reservation.play, Traced.value_bind, value_settle hshorter]
      exact (h.shrink hle (h.settledSlots_le _)).keep
  | compact =>
      -- A compaction keeps fewer slots than the formula gives, never more.
      rw [Reservation.play, Traced.value_bind, value_compact (hvalid.resolve_right id)]
      have hword := Nat.lt_of_succ_lt (hvalid.resolve_right id).length_succ_lt_limit
      have hcapacity := Nat.le_trans (r.config.le_recommended hword)
        (r.config.recommended_mono (r.config.le_measure h.length_le))
      exact (h.shrink (Nat.le_refl _) hcapacity).keep
  | release =>
      rw [Reservation.play, Traced.value_bind, release_eq (hvalid.resolve_right id)]
      exact within_new rfl rfl

/-!
## The exact number
-/

/-- Before the first insertion of an era there are no slots, and after it exactly as many as
the length that counts calls for. -/
structure Exact (r : Reservation) (era : Era) : Prop where
  filled : era.filled = true →
    r.header.reserved = r.config.recommended (r.config.measure era r.header.length)
  unfilled : era.filled = false → r.header.reserved = 0 ∧ era.peak = 0

theorem Exact.keep (h : r.Exact era) (hwithin : r.Within era) :
    r.Exact (era.after .other r.header.length) := by
  rw [Era.after_other hwithin.length_le]
  exact h

theorem exact_new (hreserved : r.header.reserved = 0) : r.Exact {} := by
  constructor
  · intro hfilled
    cases hfilled
  · intro _
    exact ⟨hreserved, rfl⟩

theorem Exact.fill (h : r.Exact era) (hwithin : r.Within era)
    (hslots : r.header.length + 1 ≤ r.header.reserved) :
    (r.withLength (r.header.length + 1)).Exact (era.after .inserts (r.header.length + 1)) := by
  constructor
  · intro _
    have hfilled : era.filled = true := by
      cases hera : era.filled with
      | true => rfl
      | false =>
          have hnone := (h.unfilled hera).left
          omega
    have hreserved := h.filled hfilled
    have hcounts := Nat.lt_of_le_of_lt (r.config.measure_le hwithin.length_le) hwithin.peak_lt
    show r.header.reserved = r.config.recommended (r.config.measure _ (r.header.length + 1))
    rw [Config.measure_after_inserts, hreserved]
    -- The new length still lies within the capacity of the old one.
    apply (r.config.recommended_eq_of_le (Nat.le_max_left _ _) _).symm
    rw [hreserved] at hslots
    exact Nat.max_le.mpr ⟨r.config.le_recommended hcounts, hslots⟩
  · intro hunfilled
    cases hunfilled

theorem Exact.grow (h : r.Exact era) (hwithin : r.Within era)
    (hslots : r.header.reserved < r.header.length + 1) :
    ((r.withSlots (r.config.recommended (r.header.length + 1))).withLength
      (r.header.length + 1)).Exact (era.after .inserts (r.header.length + 1)) := by
  constructor
  · intro _
    have hcounts : r.config.measure era r.header.length ≤ r.header.length + 1 := by
      have hpeak := r.config.measure_le hwithin.length_le
      have hword := Nat.lt_of_le_of_lt hpeak hwithin.peak_lt
      cases hera : era.filled with
      | true =>
          have hle := r.config.le_recommended hword
          rw [← h.filled hera] at hle
          exact Nat.le_of_lt (Nat.lt_of_le_of_lt hle hslots)
      | false =>
          rw [(h.unfilled hera).right] at hpeak
          exact Nat.le_trans hpeak (Nat.zero_le _)
    show _ = r.config.recommended (r.config.measure _ (r.header.length + 1))
    rw [Config.measure_after_inserts, Nat.max_eq_right hcounts]
    rfl
  · intro hunfilled
    cases hunfilled

theorem Exact.settledSlots_eq (h : r.Exact era) (hfilled : era.filled = true)
    (hlength : length ≤ r.header.length) :
    (r.withLength length).settledSlots =
      r.config.recommended (r.config.measure era length) := by
  have hreserved := h.filled hfilled
  have hmono := r.config.recommended_mono hlength
  unfold settledSlots
  unfold Config.measure at hreserved ⊢
  rw [config_withLength, length_withLength, reserved_withLength]
  cases hshrink : r.config.shrink with
  | deferred =>
      rw [hshrink] at hreserved
      exact hreserved
  | lazy =>
      rw [hshrink] at hreserved
      rw [hreserved]
      exact Nat.min_eq_left hmono
  | eager =>
      rw [hshrink] at hreserved
      rw [hreserved]
      exact Nat.min_eq_left hmono

theorem settledSlots_le_reserved (r : Reservation) : r.settledSlots ≤ r.header.reserved := by
  unfold settledSlots
  cases r.config.shrink with
  | deferred => exact Nat.le_refl _
  | lazy => exact Nat.min_le_right _ _
  | eager => exact Nat.min_le_right _ _

theorem Exact.settle (h : r.Exact era) (hlength : length ≤ r.header.length) :
    ((r.withLength length).withSlots (r.withLength length).settledSlots).Exact era := by
  constructor
  · intro hfilled
    exact h.settledSlots_eq hfilled hlength
  · intro hunfilled
    rcases h.unfilled hunfilled with ⟨hnone, hpeak⟩
    have hle := (r.withLength length).settledSlots_le_reserved
    rw [reserved_withLength, hnone] at hle
    exact ⟨Nat.le_zero.mp hle, hpeak⟩

theorem Exact.play {move : Move} (h : r.Exact era) (hwithin : r.Within era)
    (hvalid : r.Valid ∨ move.Idle) (hplain : move.Plain) (hcompact : move.role ≠ .compacts)
    (hcalm : ∀ event ∈ (r.play limit move).events, event.level ≠ .warn) :
    (r.play limit move).value.state.Exact
      (era.after (move.role.played (refusal (r.play limit move).value.result))
        (r.play limit move).value.state.header.length) := by
  cases move with
  | keep => exact h.keep hwithin
  | refuse error => exact h.keep hwithin
  | reserve amount => cases hplain
  | vacate => cases hplain
  | compact => exact absurd rfl hcompact
  | start elementSize =>
      rw [Reservation.play]
      cases hcreate : create elementSize r.config with
      | error error => exact h.keep hwithin
      | ok fresh =>
          have hheader := (of_create hcreate).right.right
          exact exact_new (congrArg Header.reserved hheader)
  | extend =>
      have hword := (hvalid.resolve_right id).length_succ_lt_limit
      rw [Reservation.play] at hcalm ⊢
      rw [Traced.value_bind]
      have hgrowth : ∀ event ∈ (r.ensure limit (r.header.length + 1)).events,
          event.level ≠ .warn :=
        fun event hmem => hcalm event (List.mem_append_left _ hmem)
      rcases ensure_of_calm hword hgrowth with ⟨hslots, hkept⟩ | ⟨hslots, hgrown⟩
      · rw [hkept]
        exact h.fill hwithin hslots
      · rw [hgrown]
        exact h.grow hwithin hslots
  | drop =>
      have hle := Nat.sub_le r.header.length 1
      have hshorter := (hvalid.resolve_right id).withLength
        (Nat.le_trans hle (hvalid.resolve_right id).length_le)
      rw [Reservation.play, Traced.value_bind, value_settle hshorter]
      exact (h.settle hle).keep (hwithin.shrink hle (hwithin.settledSlots_le _))
  | release =>
      rw [Reservation.play, Traced.value_bind, release_eq (hvalid.resolve_right id)]
      exact exact_new rfl

end Reservation
end BlockBuffer
