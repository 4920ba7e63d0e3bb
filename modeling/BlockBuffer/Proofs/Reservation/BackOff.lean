import BlockBuffer.Proofs.Reservation.Heap
import Mathlib.Order.Bounds.Defs

/-!
# How far a growth backs off

The slack is halved as often as it has to be and no more.  As soon as the slots fit in the room
of the heap the growth is granted, and if not even the bare length fits, the slack is halved
until there is none.
-/

namespace BlockBuffer

/-- Whether a number of slots is the greatest one that is granted on a heap of `limit` bytes,
or is zero since there is none. -/
structure Config.IsCap (config : Config) (limit elementSize cap : Nat) : Prop where
  le_cap : ∀ slots, config.Grants limit elementSize slots → slots ≤ cap
  grants : cap = 0 ∨ config.Grants limit elementSize cap

theorem Config.grants_iff_le_room (config : Config) {limit elementSize slots : Nat}
    (hsize : 0 < elementSize) (hslots : 0 < slots) :
    config.Grants limit elementSize slots ↔ slots ≤ config.room limit elementSize := by
  have hheader : 0 < (Header.unreserved elementSize).elementSize := hsize
  exact Reservation.fits_iff_grants.symm.trans
    (Reservation.fits_iff_le_room (r := ⟨.unreserved elementSize, config⟩) hheader hslots)

theorem Config.isCap_room (config : Config) (limit : Nat) {elementSize : Nat}
    (hsize : 0 < elementSize) :
    config.IsCap limit elementSize (config.room limit elementSize) := by
  constructor
  · intro slots hgrants
    rcases Nat.eq_zero_or_pos slots with hnone | hslots
    · rw [hnone]
      exact Nat.zero_le _
    · exact (config.grants_iff_le_room hsize hslots).mp hgrants
  · rcases Nat.eq_zero_or_pos (config.room limit elementSize) with hnone | hslots
    · exact Or.inl hnone
    · exact Or.inr ((config.grants_iff_le_room hsize hslots).mpr (Nat.le_refl _))

namespace Reservation

variable {r : Reservation} {limit length slack : Nat}

/-!
## Halving
-/

/-- One more halving is needed before the slack is gone than with half of the slack. -/
theorem isLeast_halvings (hslack : slack ≠ 0) {retries : Nat}
    (h : IsLeast {retries | slack / 2 / 2 ^ retries = 0} retries) :
    IsLeast {retries | slack / 2 ^ retries = 0} (retries + 1) := by
  rcases h with ⟨hgone, hleast⟩
  constructor
  · exact (half_div_pow slack retries).symm.trans hgone
  · intro others hothers
    cases others with
    | zero => exact absurd ((Nat.div_one slack).symm.trans hothers) hslack
    | succ others =>
        exact Nat.succ_le_succ (hleast ((half_div_pow slack others).trans hothers))

/-- Where the bare length is refused, all of the slack is given up first. -/
theorem Tries.exhausts {state : Unit} {refused : List (Trial Unit)} {last : Trial Unit}
    (h : Tries (.block r.header.elementSize) limit r length slack state refused last)
    (hfits : ¬ r.Fits limit length) :
    ∃ retries, IsLeast {retries | slack / 2 ^ retries = 0} retries ∧
      refused.map (warning length) = warnings length slack retries := by
  induction h with
  | admitted hadmitted =>
      exact absurd ((admitted_iff_fits.mp hadmitted).of_le (Nat.le_add_right _ _)) hfits
  | exhausted _ => exact ⟨0, ⟨rfl, fun _ _ => Nat.zero_le _⟩, rfl⟩
  | halved hslack _ _ ih =>
      rcases ih with ⟨retries, hleast, hwarnings⟩
      refine ⟨retries + 1, isLeast_halvings hslack hleast, ?_⟩
      rw [List.map_cons, warning_mk, hwarnings, warnings_succ]

theorem backOff_of_not_fits (hword : length + slack < Word.limit)
    (hfits : ¬ r.Fits limit length) :
    ∃ retries, IsLeast {retries | slack / 2 ^ retries = 0} retries ∧
      ((Slots.block r.header.elementSize).backOff limit r length slack ()).value.grown =
        .error (.allocation (r.demand length)) ∧
      ((Slots.block r.header.elementSize).backOff limit r length slack ()).events =
        warnings length slack retries ++ [.growthFailed length r.header.reserved] := by
  rcases exists_tries (.block r.header.elementSize) limit r length slack () with
    ⟨refused, last, htries⟩
  rcases htries.exhausts hfits with ⟨retries, hleast, hwarnings⟩
  have hle :=
    (htries.slots_bounds last (List.mem_append_right refused List.mem_cons_self)).left
  have hlast : ¬ last.Admitted (.block r.header.elementSize) limit r := fun hadmitted =>
    hfits ((admitted_iff_fits.mp hadmitted).of_le hle)
  have hresult := Trial.grown_of_not_admitted hlast
  rw [htries.bare_of_not_admitted hlast] at hresult
  rw [htries.backOff_eq hword, hwarnings, hresult]
  exact ⟨retries, hleast, rfl, rfl⟩

/-!
## The whole growth
-/

/-- How a growth for `length` slots ends and what it logs, in terms of the room of the heap
alone. -/
inductive Descends (limit : Nat) (r : Reservation) (length slack : Nat) :
    Result Reservation → List Event → Prop where
  | granted {retries : Nat} : length ≤ r.config.room limit r.header.elementSize →
      IsLeast
        {retries | length + slack / 2 ^ retries ≤ r.config.room limit r.header.elementSize}
        retries →
      Descends limit r length slack (.ok (r.withSlots (length + slack / 2 ^ retries)))
        (warnings length slack retries ++
          [.grown r.header.reserved (length + slack / 2 ^ retries)
            ((length + slack / 2 ^ retries) * r.header.elementSize + headerSize)])
  | refused {retries : Nat} : r.config.room limit r.header.elementSize < length →
      IsLeast {retries | slack / 2 ^ retries = 0} retries →
      Descends limit r length slack (.error (.allocation (r.demand length)))
        (warnings length slack retries ++ [.growthFailed length r.header.reserved])

theorem descends_backOff (limit : Nat) (hsize : 0 < r.header.elementSize)
    (hlength : 0 < length) (hword : length + slack < Word.limit) :
    Descends limit r length slack
      ((Slots.block r.header.elementSize).backOff limit r length slack ()).value.grown
      ((Slots.block r.header.elementSize).backOff limit r length slack ()).events := by
  have hroom : ∀ more, r.Fits limit (length + more) ↔
      length + more ≤ r.config.room limit r.header.elementSize :=
    fun more => fits_iff_le_room hsize (Nat.add_pos_left hlength more)
  by_cases hfits : r.Fits limit length
  · have hgrows := grows_backOff limit r hword
    have hle := (hroom 0).mp hfits
    generalize
      ((Slots.block r.header.elementSize).backOff limit r length slack ()).value.grown = result
      at hgrows ⊢
    generalize
      ((Slots.block r.header.elementSize).backOff limit r length slack ()).events = events
      at hgrows ⊢
    cases hgrows with
    | granted retries hslots hearlier =>
        refine .granted hle ⟨(hroom _).mp hslots, ?_⟩
        intro others hothers
        apply Nat.le_of_not_lt
        intro hless
        exact hearlier others hless ((hroom _).mpr hothers)
    | refused retries hnone hearlier =>
        have hbare := hearlier retries (Nat.le_refl _)
        rw [hnone] at hbare
        exact absurd hfits hbare
  · have hgreater : r.config.room limit r.header.elementSize < length :=
      Nat.lt_of_not_le fun hle => hfits ((hroom 0).mpr hle)
    rcases backOff_of_not_fits hword hfits with ⟨retries, hleast, hresult, hevents⟩
    rw [hresult, hevents]
    exact .refused hgreater hleast

theorem descends_ensure (limit : Nat) (hsize : 0 < r.header.elementSize)
    (h : r.header.reserved < length) (hword : length < Word.limit) :
    Descends limit r length (r.config.recommended length - length)
      (r.ensure limit length).value (r.ensure limit length).events := by
  unfold ensure
  rw [growFor_of_lt _ _ _ h hword, bind_pure_comp, Traced.value_map, Traced.events_map]
  exact descends_backOff limit hsize (Nat.lt_of_le_of_lt (Nat.zero_le _) h)
    (length_add_slack_lt r.config hword)

end Reservation
end BlockBuffer
