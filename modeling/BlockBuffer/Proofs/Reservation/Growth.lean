import BlockBuffer.Proofs.Reservation.Backing

/-!
# What a growth can do

A growth either gives the same reservation with at least as many slots as were asked for, and
then the new reservation is valid again, or is refused with the bytes that the bare number of
slots would take.  It has no faults but those of the storage.
-/

namespace BlockBuffer

def Slots.Faultless {σ : Type} (storage : Slots σ) : Prop :=
  ∀ limit slots state, (storage.grow limit slots state).faults = []

theorem Slots.faultless_block (elementSize : Nat) : (block elementSize).Faultless :=
  fun _ _ _ => rfl

namespace Reservation

variable {σ : Type} {storage : Slots σ} {r : Reservation}

inductive Suffices (r : Reservation) (length : Nat) : Result Reservation → Prop where
  | enough {slots : Nat} :
      length ≤ slots → (r.withSlots slots).Valid → Suffices r length (.ok (r.withSlots slots))
  | refused : Suffices r length (.error (.allocation (r.demand length)))

theorem suffices_of_le (hvalid : r.Valid) {length : Nat} (h : length ≤ r.header.reserved) :
    Suffices r length (.ok r) := by
  have hsame := hvalid.withSlots_reserved
  rw [← hsame] at hvalid
  have hkept : Suffices r length (.ok (r.withSlots r.header.reserved)) := .enough h hvalid
  rw [hsame] at hkept
  exact hkept

/-!
## One attempt
-/

theorem faults_growTo (h : storage.Faultless) (limit : Nat) (r : Reservation) (slots : Nat)
    (state : σ) : (storage.growTo limit r slots state).faults = [] :=
  Trial.faults_eq_nil ⟨slots, state⟩ (h limit slots state)

theorem suffices_growTo (storage : Slots σ) (limit : Nat) {slots : Nat} (state : σ)
    (hvalid : r.Valid) (hle : r.header.length ≤ slots) :
    Suffices r slots (storage.growTo limit r slots state).value.grown := by
  by_cases hadmitted : Trial.Admitted storage limit r ⟨slots, state⟩
  · have hgrown : (storage.growTo limit r slots state).value.grown = _ :=
      Trial.grown_of_admitted hadmitted
    rw [hgrown]
    exact .enough (Nat.le_refl slots) (hvalid.withSlots_of_admits hle hadmitted.left)
  · have hgrown : (storage.growTo limit r slots state).value.grown = _ :=
      Trial.grown_of_not_admitted hadmitted
    rw [hgrown]
    exact .refused

/-!
## Attempts with less and less slack

The last attempt is the one without slack, so the error that comes back is that of the bare
length.
-/

theorem faults_backOff (h : storage.Faultless) (limit : Nat) (r : Reservation)
    {length slack : Nat} (hfits : length + slack < Word.limit) (state : σ) :
    (storage.backOff limit r length slack state).faults = [] := by
  rcases exists_tries storage limit r length slack state with ⟨refused, last, htries⟩
  rw [htries.backOff_eq hfits, List.flatMap_eq_nil_iff]
  exact fun trial _ => trial.faults_eq_nil (h limit trial.slots trial.state)

theorem suffices_backOff (storage : Slots σ) (limit : Nat) {length slack : Nat} (state : σ)
    (hvalid : r.Valid) (hle : r.header.length ≤ length) (hfits : length + slack < Word.limit) :
    Suffices r length (storage.backOff limit r length slack state).value.grown := by
  rcases exists_tries storage limit r length slack state with ⟨refused, last, htries⟩
  have hlast :=
    (htries.slots_bounds last (List.mem_append_right refused List.mem_cons_self)).left
  rw [htries.backOff_eq hfits]
  by_cases hadmitted : last.Admitted storage limit r
  · rw [Trial.grown_of_admitted hadmitted]
    exact .enough hlast (hvalid.withSlots_of_admits (Nat.le_trans hle hlast) hadmitted.left)
  · rw [Trial.grown_of_not_admitted hadmitted, htries.bare_of_not_admitted hadmitted]
    exact .refused

/-!
## Growth for a wanted length
-/

theorem growFor_of_le (storage : Slots σ) (limit : Nat) {length : Nat} (state : σ)
    (h : length ≤ r.header.reserved) :
    storage.growFor limit r length state =
      pure { result := .ok (), reservation := r, state := state } := by
  unfold Slots.growFor
  rw [if_pos h]

theorem growFor_of_lt (storage : Slots σ) (limit : Nat) {length : Nat} (state : σ)
    (h : r.header.reserved < length) (hlimit : length < Word.limit) :
    storage.growFor limit r length state =
      storage.backOff limit r length (r.config.recommended length - length) state := by
  unfold Slots.growFor
  rw [if_neg (Nat.not_le_of_lt h), Config.capacity_eq_pure, pure_bind,
    Word.sub_of_le (Config.le_recommended r.config hlimit), pure_bind]

theorem length_add_slack_lt (config : Config) {length : Nat} (hlimit : length < Word.limit) :
    length + (config.recommended length - length) < Word.limit := by
  have hle := Config.le_recommended config hlimit
  have hlt := Config.recommended_lt_limit config length
  omega

theorem faults_growFor (h : storage.Faultless) (limit : Nat) (r : Reservation) {length : Nat}
    (state : σ) (hlimit : length < Word.limit) :
    (storage.growFor limit r length state).faults = [] := by
  rcases Nat.lt_or_ge r.header.reserved length with hlength | hlength
  · rw [growFor_of_lt storage limit state hlength hlimit]
    exact faults_backOff h limit r (length_add_slack_lt r.config hlimit) state
  · rw [growFor_of_le storage limit state hlength]
    rfl

theorem suffices_growFor (storage : Slots σ) (limit : Nat) {length : Nat} (state : σ)
    (hvalid : r.Valid) (hle : r.header.length ≤ length) (hlimit : length < Word.limit) :
    Suffices r length (storage.growFor limit r length state).value.grown := by
  rcases Nat.lt_or_ge r.header.reserved length with h | h
  · rw [growFor_of_lt storage limit state h hlimit]
    exact suffices_backOff storage limit state hvalid hle (length_add_slack_lt r.config hlimit)
  · rw [growFor_of_le storage limit state h]
    exact suffices_of_le hvalid h

/-!
## The two growths of a buffer
-/

theorem faults_ensure (limit : Nat) (r : Reservation) {length : Nat}
    (hlimit : length < Word.limit) : (r.ensure limit length).faults = [] := by
  unfold ensure
  rw [bind_pure_comp, Traced.faults_map]
  exact faults_growFor (Slots.faultless_block _) limit r () hlimit

theorem suffices_ensure (limit : Nat) {length : Nat} (hvalid : r.Valid)
    (hle : r.header.length ≤ length) (hlimit : length < Word.limit) :
    Suffices r length (r.ensure limit length).value :=
  suffices_growFor (.block _) limit () hvalid hle hlimit

/-- A valid reservation can always be asked for one more element than it counts. -/
theorem ensure_succ (limit : Nat) (hvalid : r.Valid) {count : Nat}
    (hlength : r.header.length = count) :
    (r.ensure limit (count + 1)).faults = [] ∧
      Suffices r (count + 1) (r.ensure limit (count + 1)).value := by
  have hword := hvalid.length_succ_lt_limit
  rw [hlength] at hword
  constructor
  · exact faults_ensure limit r hword
  · exact suffices_ensure limit hvalid (Nat.le_succ_of_le (Nat.le_of_eq hlength)) hword

theorem faults_reserve (limit : Nat) (r : Reservation) (amount : Nat) :
    (r.reserve limit amount).faults = [] := by
  unfold reserve
  rw [bind_pure_comp, Traced.faults_map]
  unfold Slots.reserve
  cases Word.add? r.header.length amount with
  | none => rfl
  | some needed =>
      by_cases hkept : needed ≤ r.header.reserved
      · simp only [hkept, if_true]
        rfl
      · simp only [hkept, if_false]
        exact faults_growTo (Slots.faultless_block _) limit r needed ()

theorem demand_of_overflow (hvalid : r.Valid) {slots : Nat} (h : Word.limit ≤ slots) :
    r.demand slots = Word.top := by
  have hle : slots ≤ slots * r.header.elementSize :=
    Nat.le_mul_of_pos_right _ hvalid.elementSize_pos
  have htop : Word.top ≤ slots := Nat.le_trans (Nat.sub_le _ _) h
  exact Nat.min_eq_right (Nat.le_add_right_of_le (Nat.le_trans htop hle))

theorem suffices_reserve (limit amount : Nat) (hvalid : r.Valid) :
    Suffices r (r.header.length + amount) (r.reserve limit amount).value := by
  unfold reserve Slots.reserve Word.add?
  rcases Nat.lt_or_ge (r.header.length + amount) Word.limit with hword | hword
  · rw [if_pos hword]
    by_cases hkept : r.header.length + amount ≤ r.header.reserved
    · simp only [hkept, if_true]
      exact suffices_of_le hvalid hkept
    · simp only [hkept, if_false]
      exact suffices_growTo (.block _) limit () hvalid (Nat.le_add_right _ _)
  · have hrefused : Suffices r (r.header.length + amount) (.error (.allocation Word.top)) := by
      rw [← demand_of_overflow hvalid hword]
      exact .refused
    rw [if_neg (Nat.not_lt_of_le hword)]
    exact hrefused

end Reservation
end BlockBuffer
