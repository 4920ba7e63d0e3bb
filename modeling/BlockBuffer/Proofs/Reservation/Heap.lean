import BlockBuffer.Proofs.Reservation.Growth
import Mathlib.Tactic

/-!
# Growth on a bounded heap

On a heap with a limit an attempt is granted or refused by the number of slots alone: there is
a greatest number of slots that the heap has room for.  An attempt with slack that is refused
leaves a warning and the next one has half of the slack, so the log tells how many attempts
there were.
-/

namespace BlockBuffer

def Config.budget (config : Config) (limit : Nat) : Nat :=
  match config.maxBytes with
  | none => min limit maxPayload
  | some ceiling => min (min limit maxPayload) (ceiling.toNat - headerSize)

/-- Whether a growth to so many slots is granted on a heap of `limit` bytes: its bytes are a
word and lie below the ceiling, and the heap has a block for the elements. -/
def Config.Grants (config : Config) (limit elementSize slots : Nat) : Prop :=
  slots * elementSize + headerSize < Word.limit ∧
    (∀ ceiling ∈ config.maxBytes, slots * elementSize + headerSize ≤ ceiling.toNat) ∧
      slots * elementSize ≤ min limit maxPayload

theorem Config.Grants.of_le {config : Config} {limit elementSize small large : Nat}
    (h : config.Grants limit elementSize large) (hle : small ≤ large) :
    config.Grants limit elementSize small := by
  have hpayload : small * elementSize ≤ large * elementSize := Nat.mul_le_mul_right _ hle
  have hbytes := Nat.add_le_add_right hpayload headerSize
  rcases h with ⟨hword, hceiling, hheap⟩
  refine ⟨Nat.lt_of_le_of_lt hbytes hword, ?_, Nat.le_trans hpayload hheap⟩
  intro ceiling hmem
  exact Nat.le_trans hbytes (hceiling ceiling hmem)

def Config.room (config : Config) (limit elementSize : Nat) : Nat :=
  config.budget limit / elementSize

namespace Reservation

variable {r : Reservation} {limit slots : Nat}

/-!
## What is granted
-/

def Fits (limit : Nat) (r : Reservation) (slots : Nat) : Prop :=
  r.Admits slots ∧ slots * r.header.elementSize ≤ min limit maxPayload

theorem fits_iff_grants :
    r.Fits limit slots ↔ r.config.Grants limit r.header.elementSize slots := by
  unfold Fits Admits Config.Grants
  rw [Config.exceeds_eq_false_iff, and_assoc]

theorem admitted_iff_fits {trial : Trial Unit} :
    trial.Admitted (.block r.header.elementSize) limit r ↔ r.Fits limit trial.slots :=
  and_congr_right fun _ => decide_eq_true_iff

theorem growTo_of_fits (h : r.Fits limit slots) :
    (Slots.block r.header.elementSize).growTo limit r slots () = (do
      Traced.emit (.grown r.header.reserved slots (slots * r.header.elementSize + headerSize))
      pure { result := .ok (), reservation := r.withSlots slots, state := () }) := by
  have hgranted : heapGrants limit (slots * r.header.elementSize) = true :=
    decide_eq_true h.right
  rw [growTo_of_admits _ limit _ h.left]
  unfold Slots.block
  dsimp only
  rw [pure_bind, hgranted, if_pos rfl]

theorem growTo_of_not_fits (h : ¬ r.Fits limit slots) :
    (Slots.block r.header.elementSize).growTo limit r slots () =
      pure { result := .error (.allocation (r.demand slots)),
             reservation := r, state := () } := by
  by_cases hadmits : r.Admits slots
  · have hrefused : ¬ heapGrants limit (slots * r.header.elementSize) = true :=
      fun hgranted => h ⟨hadmits, of_decide_eq_true hgranted⟩
    rw [growTo_of_admits _ limit _ hadmits]
    unfold Slots.block
    dsimp only
    rw [pure_bind, if_neg hrefused]
  · exact growTo_of_not_admits _ limit _ hadmits

/-- The room of a heap is exact for everything but an empty block, which a ceiling below the
header refuses. -/
theorem fits_iff_le_room (hsize : 0 < r.header.elementSize) (hslots : 0 < slots) :
    r.Fits limit slots ↔ slots ≤ r.config.room limit r.header.elementSize := by
  have hpayload : 0 < slots * r.header.elementSize := Nat.mul_pos hslots hsize
  unfold Config.room Config.budget Fits Admits Config.exceeds headerSize
  rw [Nat.le_div_iff_mul_le hsize, maxPayload_eq, Word.limit_eq]
  cases r.config.maxBytes with
  | none =>
      simp only [Option.any_none, and_true]
      omega
  | some ceiling =>
      simp only [Option.any_some, decide_eq_false_iff_not]
      omega

/-!
## Backing off
-/

/-- The warnings of so many refused attempts, of which the first had all the slack. -/
def warnings (length slack retries : Nat) : List Event :=
  (List.range retries).map fun retry => .backingOff length (slack / 2 ^ (retry + 1))

theorem half_div_pow (slack retry : Nat) :
    slack / 2 / 2 ^ retry = slack / 2 ^ (retry + 1) := by
  rw [Nat.div_div_eq_div_mul, Nat.pow_succ, Nat.mul_comm]

theorem warnings_succ (length slack retries : Nat) :
    warnings length slack (retries + 1) =
      .backingOff length (slack / 2) :: warnings length (slack / 2) retries := by
  simp only [warnings, List.range_succ_eq_map, List.map_cons, List.map_map, Function.comp_def,
    half_div_pow, Nat.zero_add, Nat.pow_one, Nat.succ_eq_add_one]

/-- How attempts with `slack` slots above `length` end, and what they log.  The first granted
one is the last one, and only an attempt without slack is refused for good. -/
inductive Grows (limit : Nat) (r : Reservation) (length slack : Nat) :
    Result Reservation → List Event → Prop where
  | granted (retries : Nat) : r.Fits limit (length + slack / 2 ^ retries) →
      (∀ earlier < retries, ¬ r.Fits limit (length + slack / 2 ^ earlier)) →
      Grows limit r length slack (.ok (r.withSlots (length + slack / 2 ^ retries)))
        (warnings length slack retries ++
          [.grown r.header.reserved (length + slack / 2 ^ retries)
            ((length + slack / 2 ^ retries) * r.header.elementSize + headerSize)])
  | refused (retries : Nat) : slack / 2 ^ retries = 0 →
      (∀ earlier ≤ retries, ¬ r.Fits limit (length + slack / 2 ^ earlier)) →
      Grows limit r length slack (.error (.allocation (r.demand length)))
        (warnings length slack retries ++ [.growthFailed length r.header.reserved])

theorem Grows.retry {length slack : Nat} {result : Result Reservation} {events : List Event}
    (hrefused : ¬ r.Fits limit (length + slack))
    (h : Grows limit r length (slack / 2) result events) :
    Grows limit r length slack result (.backingOff length (slack / 2) :: events) := by
  have hattempts : ∀ earlier, (∀ later, later + 1 = earlier →
      ¬ r.Fits limit (length + slack / 2 / 2 ^ later)) →
      ¬ r.Fits limit (length + slack / 2 ^ earlier) := by
    intro earlier hlater
    cases earlier with
    | zero => rwa [Nat.pow_zero, Nat.div_one]
    | succ later =>
        rw [← half_div_pow]
        exact hlater later rfl
  cases h with
  | granted retries hfits hearlier =>
      rw [← List.cons_append, ← warnings_succ]
      rw [half_div_pow] at hfits ⊢
      refine .granted (retries + 1) hfits ?_
      intro earlier hle
      exact hattempts earlier fun later hsucc => hearlier later (by omega)
  | refused retries hnone hearlier =>
      rw [← List.cons_append, ← warnings_succ]
      rw [half_div_pow] at hnone
      refine .refused (retries + 1) hnone ?_
      intro earlier hle
      exact hattempts earlier fun later hsucc => hearlier later (by omega)

theorem Tries.grows {length slack : Nat} {state : Unit} {refused : List (Trial Unit)}
    {last : Trial Unit}
    (h : Tries (.block r.header.elementSize) limit r length slack state refused last) :
    Grows limit r length slack (last.attempt (.block r.header.elementSize) limit r).grown
      (refused.map (warning length) ++
        [r.ending length last
          (last.attempt (.block r.header.elementSize) limit r).grown]) := by
  induction h with
  | @admitted slack state hadmitted =>
      have hfirst : slack / 2 ^ 0 = slack := by rw [Nat.pow_zero, Nat.div_one]
      have hfits := admitted_iff_fits.mp hadmitted
      have hgranted : Grows limit r length slack _ _ := .granted 0
        (by rwa [hfirst]) (fun earlier hearlier => absurd hearlier (Nat.not_lt_zero earlier))
      rw [hfirst] at hgranted
      rw [Trial.grown_of_admitted hadmitted]
      exact hgranted
  | exhausted hrefused =>
      rw [Trial.grown_of_not_admitted hrefused]
      refine .refused 0 rfl ?_
      intro earlier _
      rw [Nat.zero_div]
      exact fun hfits => hrefused (admitted_iff_fits.mpr hfits)
  | halved _ hrefused _ ih =>
      rw [List.map_cons, warning_mk]
      exact ih.retry fun hfits => hrefused (admitted_iff_fits.mpr hfits)

theorem grows_backOff (limit : Nat) (r : Reservation) {length slack : Nat}
    (hword : length + slack < Word.limit) :
    Grows limit r length slack
      ((Slots.block r.header.elementSize).backOff limit r length slack ()).value.grown
      ((Slots.block r.header.elementSize).backOff limit r length slack ()).events := by
  rcases exists_tries (.block r.header.elementSize) limit r length slack () with
    ⟨refused, last, htries⟩
  rw [htries.backOff_eq hword]
  exact htries.grows

/-!
## What comes of a growth
-/

theorem Fits.of_le {small : Nat} (h : r.Fits limit slots) (hle : small ≤ slots) :
    r.Fits limit small :=
  fits_iff_grants.mpr ((fits_iff_grants.mp h).of_le hle)

section Grows

variable {length slack : Nat} {result : Result Reservation} {grown : Reservation}
  {error : BufferError} {events : List Event}

theorem Grows.ok_of_fits (h : Grows limit r length slack result events)
    (hfits : r.Fits limit length) :
    ∃ slots, result = .ok (r.withSlots slots) ∧ length ≤ slots ∧ slots ≤ length + slack ∧
      r.Fits limit slots := by
  cases h with
  | granted retries hslots _ =>
      have hless : slack / 2 ^ retries ≤ slack := Nat.div_le_self _ _
      exact ⟨_, rfl, Nat.le_add_right _ _, Nat.add_le_add_left hless _, hslots⟩
  | refused retries hnone hearlier =>
      have hbare := hearlier retries (Nat.le_refl _)
      rw [hnone] at hbare
      exact absurd hfits hbare

/-- If the slots of the first attempt are granted, there is no second one. -/
theorem Grows.of_fits_slack (h : Grows limit r length slack result events)
    (hfits : r.Fits limit (length + slack)) :
    result = .ok (r.withSlots (length + slack)) ∧
      events = [.grown r.header.reserved (length + slack)
        ((length + slack) * r.header.elementSize + headerSize)] := by
  have hfirst : slack / 2 ^ 0 = slack := by rw [Nat.pow_zero, Nat.div_one]
  cases h with
  | granted retries _ hearlier =>
      cases retries with
      | zero =>
          rw [hfirst]
          exact ⟨rfl, rfl⟩
      | succ retries =>
          have hrefused := hearlier 0 (Nat.succ_pos retries)
          rw [hfirst] at hrefused
          exact absurd hfits hrefused
  | refused retries _ hearlier =>
      have hrefused := hearlier 0 (Nat.zero_le retries)
      rw [hfirst] at hrefused
      exact absurd hfits hrefused

theorem Grows.refused_of_not_fits (h : Grows limit r length slack result events)
    (hfits : ¬ r.Fits limit length) : result = .error (.allocation (r.demand length)) := by
  cases h with
  | granted retries hslots _ => exact absurd (hslots.of_le (Nat.le_add_right _ _)) hfits
  | refused retries _ _ => rfl

end Grows

theorem ensure_of_le {length : Nat} (h : length ≤ r.header.reserved) :
    r.ensure limit length = pure (.ok r) := by
  unfold ensure
  rw [growFor_of_le _ _ _ h, pure_bind]
  rfl

theorem grows_ensure (limit : Nat) {length : Nat} (h : r.header.reserved < length)
    (hword : length < Word.limit) :
    Grows limit r length (r.config.recommended length - length) (r.ensure limit length).value
      (r.ensure limit length).events := by
  have hgrows := grows_backOff limit r (length_add_slack_lt r.config hword)
  unfold ensure
  rw [growFor_of_lt _ _ _ h hword, bind_pure_comp, Traced.value_map, Traced.events_map]
  exact hgrows

/-!
## Reserving an exact number of slots
-/

variable {amount : Nat}

theorem reserve_of_le (hvalid : r.Valid) (h : r.header.length + amount ≤ r.header.reserved) :
    r.reserve limit amount = pure (.ok r) := by
  have hword : r.header.length + amount < Word.limit := by
    have hlimit := hvalid.reserved_lt_limit
    omega
  unfold reserve Slots.reserve Word.add?
  rw [if_pos hword]
  dsimp only
  rw [if_pos h, pure_bind]
  rfl

theorem reserve_of_fits (h : r.header.reserved < r.header.length + amount)
    (hsize : 0 < r.header.elementSize) (hfits : r.Fits limit (r.header.length + amount)) :
    r.reserve limit amount = (do
      Traced.emit (.grown r.header.reserved (r.header.length + amount)
        ((r.header.length + amount) * r.header.elementSize + headerSize))
      pure (.ok (r.withSlots (r.header.length + amount)))) := by
  have hword : r.header.length + amount < Word.limit := by
    have hle := Nat.le_mul_of_pos_right (r.header.length + amount) hsize
    have hbytes := hfits.left.left
    omega
  unfold reserve Slots.reserve Word.add?
  rw [if_pos hword]
  dsimp only
  rw [if_neg (Nat.not_le_of_lt h), growTo_of_fits hfits]
  simp only [bind_assoc, pure_bind]
  rfl

theorem reserve_of_not_fits (hvalid : r.Valid)
    (h : r.header.reserved < r.header.length + amount)
    (hfits : ¬ r.Fits limit (r.header.length + amount)) :
    r.reserve limit amount =
      pure (.error (.allocation (r.demand (r.header.length + amount)))) := by
  unfold reserve Slots.reserve Word.add?
  rcases Nat.lt_or_ge (r.header.length + amount) Word.limit with hword | hword
  · rw [if_pos hword]
    dsimp only
    rw [if_neg (Nat.not_le_of_lt h), growTo_of_not_fits hfits, pure_bind]
    rfl
  · rw [if_neg (Nat.not_lt_of_le hword), demand_of_overflow hvalid hword]
    rfl

end Reservation
end BlockBuffer
