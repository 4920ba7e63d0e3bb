import BlockBuffer.Proofs.Paired
import BlockBuffer.Proofs.Reservation.Heap
import BlockBuffer.Proofs.Reservation.Shrink

/-!
# Reservations under two configurations

Two configurations with the same capacity formula may refuse growths for different reasons, and
give slots back at different moments.  If the same numbers of slots are granted under both,
each on heaps of its own, then a reservation grows under one just as under the other.
-/

namespace BlockBuffer

def Reservation.under (config : Config) (r : Reservation) : Reservation :=
  { r with config := config }

def Attempt.under (config : Config) (attempt : Attempt Unit) : Attempt Unit :=
  { attempt with reservation := attempt.reservation.under config }

theorem Config.recommended_congr {left right : Config}
    (hmin : right.minCapacity = left.minCapacity) (hblock : right.blockSize = left.blockSize)
    (length : Nat) : right.recommended length = left.recommended length := by
  unfold Config.recommended Config.capacity
  rw [hmin, hblock]

namespace Reservation

@[simp] theorem header_under (config : Config) (r : Reservation) :
    (r.under config).header = r.header := rfl

variable {r : Reservation} {config : Config} {limit limit' length slack slots : Nat}

/-!
## The same growth
-/

theorem growTo_under (h : r.Fits limit slots ↔ (r.under config).Fits limit' slots) :
    (Slots.block r.header.elementSize).growTo limit' (r.under config) slots () =
      Attempt.under config <$> (Slots.block r.header.elementSize).growTo limit r slots () := by
  by_cases hfits : r.Fits limit slots
  · rw [growTo_of_fits hfits]
    exact growTo_of_fits (h.mp hfits)
  · rw [growTo_of_not_fits hfits]
    exact growTo_of_not_fits fun hother => hfits (h.mpr hother)

theorem backOff_under (h : ∀ slots, length ≤ slots →
      (r.Fits limit slots ↔ (r.under config).Fits limit' slots)) (slack : Nat) :
    (Slots.block r.header.elementSize).backOff limit' (r.under config) length slack () =
      Attempt.under config <$>
        (Slots.block r.header.elementSize).backOff limit r length slack () := by
  apply Slots.backOff_map (Attempt.under config)
  · intro slots hslots
    exact growTo_under (h slots hslots)
  · intro attempt
    rfl
  · rintro attempt rfl
    exact ⟨rfl, rfl⟩
  · rfl

theorem grown_under (config : Config) (attempt : Attempt Unit) :
    (attempt.under config).grown = attempt.grown.map (under config) := by
  rcases attempt with ⟨result, reservation, state⟩
  cases result with
  | ok _ => rfl
  | error _ => rfl

theorem ensure_under (h : ∀ slots, length ≤ slots →
      (r.Fits limit slots ↔ (r.under config).Fits limit' slots))
    (hcapacity : config.recommended length = r.config.recommended length)
    (hword : length < Word.limit) :
    (r.under config).ensure limit' length =
      Except.map (under config) <$> r.ensure limit length := by
  rcases Nat.lt_or_ge r.header.reserved length with hgrows | hkept
  · have hother : (r.under config).header.reserved < length := hgrows
    have hcapacity' : (r.under config).config.recommended length =
        r.config.recommended length := hcapacity
    unfold ensure
    rw [growFor_of_lt _ _ _ hgrows hword, growFor_of_lt _ _ _ hother hword, hcapacity',
      header_under, backOff_under h]
    simp only [bind_pure_comp, Functor.map_map, grown_under]
  · have hother : length ≤ (r.under config).header.reserved := hkept
    rw [ensure_of_le hkept, ensure_of_le hother]
    rfl

theorem reserve_under (amount : Nat) (h : ∀ slots, r.header.reserved < slots →
      (r.Fits limit slots ↔ (r.under config).Fits limit' slots)) :
    (r.under config).reserve limit' amount =
      Except.map (under config) <$> r.reserve limit amount := by
  unfold reserve Slots.reserve
  rw [header_under]
  cases Word.add? r.header.length amount with
  | none => rfl
  | some needed =>
      dsimp only
      by_cases hkept : needed ≤ r.header.reserved
      · rw [if_pos hkept, if_pos hkept]
        rfl
      · rw [if_neg hkept, if_neg hkept, growTo_under (h needed (Nat.lt_of_not_le hkept))]
        simp only [bind_pure_comp, Functor.map_map, grown_under]

end Reservation

/-!
## Configurations that make no difference
-/

/-- Under these two configurations reservations do the same, each on heaps of its own, and what
they log is related. -/
structure Config.Alike (logs : List Event → List Event → Prop) (limits : Nat → Nat)
    (left right : Config) : Prop where
  partByPart : PartByPart logs
  minCapacity_eq : right.minCapacity = left.minCapacity
  blockSize_eq : right.blockSize = left.blockSize
  fits_iff : ∀ {r : Reservation}, 0 < r.header.elementSize → r.config = left →
    ∀ limit {slots}, 0 < slots →
      (r.Fits limit slots ↔ (r.under right).Fits (limits limit) slots)
  valid : ∀ {r : Reservation}, r.Valid → r.config = left → (r.under right).Valid
  settle : ∀ {r : Reservation}, r.Valid → r.config = left →
    Paired logs (fun settled settled' => settled' = settled.under right) r.settle
      (r.under right).settle

structure Reservation.GrownAlike (r : Reservation) (config : Config) (length : Nat)
    (result result' : Result Reservation) : Prop where
  suffices_left : r.Suffices length result
  eq_map : result' = result.map (Reservation.under config)

section Alike

variable {logs : List Event → List Event → Prop} {limits : Nat → Nat} {left right : Config}
  {r : Reservation} {α β : Type}

namespace Config.Alike

theorem recommended_eq (h : Config.Alike logs limits left right) (length : Nat) :
    right.recommended length = left.recommended length :=
  Config.recommended_congr h.minCapacity_eq h.blockSize_eq length

theorem bytesFor_eq (h : Config.Alike logs limits left right) (elementSize length : Nat) :
    right.bytesFor elementSize length = left.bytesFor elementSize length := by
  unfold Config.bytesFor
  rw [h.recommended_eq]

theorem ensure (h : Config.Alike logs limits left right) (hvalid : r.Valid)
    (hconfig : r.config = left) {count : Nat} (hcount : r.header.length = count)
    (limit : Nat) :
    Paired logs (r.GrownAlike right (count + 1)) (r.ensure limit (count + 1))
      ((r.under right).ensure (limits limit) (count + 1)) := by
  rcases Reservation.ensure_succ limit hvalid hcount with ⟨hfaults, hsuffices⟩
  have hword := hvalid.length_succ_lt_limit
  rw [hcount] at hword
  have hsame := Reservation.ensure_under
    (fun slots hslots =>
      h.fits_iff hvalid.elementSize_pos hconfig limit
        (Nat.lt_of_lt_of_le (Nat.succ_pos _) hslots))
    ((h.recommended_eq (count + 1)).trans (by rw [hconfig])) hword
  apply (Paired.of_map_eq h.partByPart hsame hfaults).imp
  rintro result result' ⟨rfl, hresult⟩
  exact ⟨hsuffices, hresult⟩

theorem reserve (h : Config.Alike logs limits left right) (hvalid : r.Valid)
    (hconfig : r.config = left) (limit amount : Nat) :
    Paired logs (r.GrownAlike right (r.header.length + amount)) (r.reserve limit amount)
      ((r.under right).reserve (limits limit) amount) := by
  have hsame := Reservation.reserve_under amount fun slots hslots =>
    h.fits_iff hvalid.elementSize_pos hconfig limit (Nat.lt_of_le_of_lt (Nat.zero_le _) hslots)
  apply (Paired.of_map_eq h.partByPart hsame (Reservation.faults_reserve limit r amount)).imp
  rintro result result' ⟨rfl, hresult⟩
  exact ⟨Reservation.suffices_reserve limit amount hvalid, hresult⟩

theorem compact (h : Config.Alike logs limits left right) (hvalid : r.Valid)
    (hconfig : r.config = left) :
    Paired logs
      (fun tight tight' => tight = r.withSlots r.header.length ∧ tight' = tight.under right)
      r.compact (r.under right).compact := by
  have hsame : (r.under right).compact = Reservation.under right <$> r.compact := by
    rw [Reservation.compact_eq hvalid, Reservation.compact_eq (h.valid hvalid hconfig)]
    by_cases hfull : r.header.length = r.header.reserved
    · have hother : (r.under right).header.length = (r.under right).header.reserved := hfull
      rw [if_pos hfull, if_pos hother]
      rfl
    · have hother : ¬ (r.under right).header.length = (r.under right).header.reserved := hfull
      rw [if_neg hfull, if_neg hother]
      rfl
  apply (Paired.of_map_eq h.partByPart hsame (Reservation.faults_compact hvalid)).imp
  rintro tight tight' ⟨rfl, htight⟩
  exact ⟨Reservation.value_compact hvalid, htight⟩

theorem release (h : Config.Alike logs limits left right) (hvalid : r.Valid)
    (hconfig : r.config = left) :
    Paired logs
      (fun released released' =>
        released = (r.withLength 0).withSlots 0 ∧ released' = released.under right)
      r.release (r.under right).release := by
  rw [Reservation.release_eq hvalid, Reservation.release_eq (h.valid hvalid hconfig)]
  exact Paired.emit_pure h.partByPart _ ⟨rfl, rfl⟩

end Config.Alike

theorem Paired.growth {γ δ : Type} {related : γ → δ → Prop} (hlogs : PartByPart logs)
    {length : Nat} {x y : Traced (Result Reservation)} {f : Result Reservation → Traced γ}
    {g : Result Reservation → Traced δ} (hx : Paired logs (r.GrownAlike right length) x y)
    (hrefused : ∀ error, Paired logs related (f (.error error)) (g (.error error)))
    (henough : ∀ slots, length ≤ slots → (r.withSlots slots).Valid →
      Paired logs related (f (.ok (r.withSlots slots)))
        (g (.ok ((r.under right).withSlots slots)))) :
    Paired logs related (x >>= f) (y >>= g) := by
  apply Paired.bind hlogs hx
  rintro result result' ⟨hsuffices, rfl⟩
  cases hsuffices with
  | refused => exact hrefused _
  | enough hslots hvalid => exact henough _ hslots hvalid

end Alike
end BlockBuffer
