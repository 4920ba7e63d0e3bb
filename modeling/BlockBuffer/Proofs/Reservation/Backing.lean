import BlockBuffer.Proofs.Reservation.Trials
import BlockBuffer.Reservation.Shrink

/-!
# Reservations and the arrays behind them

An array that has room for exactly the reserved slots adds nothing to what its reservation
does.  The reservation grows and shrinks as on storage that remembers nothing and asks for one
block of all slots at every growth, and afterwards the array again has room for exactly the
reserved slots.  So everything about slots can be said of the reservation alone, and holds of
both kinds of array.
-/

namespace BlockBuffer

variable {σ : Type}

namespace Slots

/-- Storage that asks for one block of all slots at every growth. -/
def block (elementSize : Nat) : Slots Unit where
  grow limit slots _ := pure (heapGrants limit (slots * elementSize), ())
  shrink _ _ := pure ()

/-- For `count` elements, `state slots` is the storage with room for exactly so many slots.  It
grows to more slots by one block of all of them. -/
structure Backs (storage : Slots σ) (elementSize count : Nat) (state : Nat → σ) : Prop where
  grow : ∀ (limit : Nat) {reserved slots : Nat}, count ≤ reserved → reserved < slots →
    slots * elementSize < Word.limit →
    storage.grow limit slots (state reserved) =
      pure (heapGrants limit (slots * elementSize),
        if heapGrants limit (slots * elementSize) then state slots else state reserved)
  shrink : ∀ {reserved slots : Nat}, count ≤ slots → slots ≤ reserved →
    slots * elementSize < Word.limit → storage.shrink slots (state reserved) =
      pure (state slots)

end Slots

/-!
## The two kinds of array
-/

namespace Extent

variable {length capacity needed : Nat}

theorem tryReserve_of_lt (hlength : length ≤ needed) (hcapacity : capacity < needed)
    (limit entrySize : Nat) :
    (mk length capacity).tryReserve limit entrySize (needed - length) =
      (heapGrants limit (needed * entrySize),
        if heapGrants limit (needed * entrySize) then mk length needed
        else mk length capacity) := by
  unfold tryReserve
  dsimp only
  rw [Nat.add_sub_of_le hlength, if_neg (Nat.not_le_of_lt hcapacity)]
  cases heapGrants limit (needed * entrySize) with
  | true => rfl
  | false => rfl

theorem shrinkTo_of_le (hlength : length ≤ needed) (hcapacity : needed ≤ capacity) :
    (mk length capacity).shrinkTo needed = mk length needed := by
  unfold shrinkTo
  dsimp only
  split
  · rw [Nat.max_eq_right hlength]
  · rename_i hkept
    rw [Nat.le_antisymm hcapacity (Nat.le_of_not_lt hkept)]

/-- The bytes of `count` elements, with room for so many slots of `size` bytes. -/
def ofSlots (size count slots : Nat) : Extent where
  length := count * size
  capacity := slots * size

end Extent

namespace Slots

theorem backs_ofBytes {elementSize : Nat} (hsize : 0 < elementSize) (count : Nat) :
    (ofBytes elementSize).Backs elementSize count (Extent.ofSlots elementSize count) where
  grow limit _ _ hcount hslots hword := by
    have hlength := Nat.mul_le_mul_right elementSize
      (Nat.le_trans hcount (Nat.le_of_lt hslots))
    have hcapacity := Nat.mul_lt_mul_of_pos_right hslots hsize
    have hreserve := Extent.tryReserve_of_lt hlength hcapacity limit 1
    rw [Nat.mul_one] at hreserve
    unfold ofBytes
    dsimp only
    rw [Word.mul_of_lt hword, pure_bind]
    exact congrArg pure hreserve
  shrink hcount hslots hword := by
    have hshrink := Extent.shrinkTo_of_le (Nat.mul_le_mul_right elementSize hcount)
      (Nat.mul_le_mul_right elementSize hslots)
    unfold ofBytes
    dsimp only
    rw [Word.mul_of_lt hword, pure_bind]
    exact congrArg pure hshrink

theorem backs_ofValues (elementSize count : Nat) :
    (ofValues elementSize).Backs elementSize count (Extent.mk count) where
  grow limit _ _ hcount hslots _ :=
    congrArg pure (Extent.tryReserve_of_lt (Nat.le_trans hcount (Nat.le_of_lt hslots)) hslots
      limit elementSize)
  shrink hcount hslots _ := congrArg pure (Extent.shrinkTo_of_le hcount hslots)

end Slots

/-!
## Refused growths

Whatever the storage, a refused growth leaves the reservation as it was.
-/

namespace Slots

variable {storage : Slots σ} {r : Reservation} {limit slots length amount : Nat} {memory : σ}
  {error : BufferError}

theorem reservation_growTo_of_refused
    (h : (storage.growTo limit r slots memory).value.result = .error error) :
    (storage.growTo limit r slots memory).value.reservation = r := by
  have hrefused : ¬ Trial.Admitted storage limit r ⟨slots, memory⟩ := by
    intro hadmitted
    have hresult := (Trial.attempt_of_admitted hadmitted).right.left
    cases h.symm.trans hresult
  exact (Trial.attempt_of_not_admitted hrefused).right.right

theorem reservation_backOff_of_refused {slack : Nat}
    (h : (storage.backOff limit r length slack memory).value.result = .error error) :
    (storage.backOff limit r length slack memory).value.reservation = r := by
  induction slack using Nat.strongRecOn generalizing memory with
  | ind slack ih =>
      have hkept : ∀ error, (storage.growTo limit r (length + slack) memory).value.result =
          .error error → _ :=
        fun _ => reservation_growTo_of_refused
      rw [backOff] at h ⊢
      simp only [Traced.value_bind, Word.value_add] at h ⊢
      generalize (storage.growTo limit r (length + slack) memory).value = attempt at hkept h ⊢
      rcases attempt with ⟨result, reservation, later⟩
      cases result with
      | ok _ => cases h
      | error first =>
          -- The next attempt starts from the same reservation, but from other storage.
          cases hkept first rfl
          by_cases hslack : slack = 0
          · simp only [hslack, if_true]
            rfl
          · have hhalf : slack / 2 < slack :=
              Nat.div_lt_self (Nat.pos_of_ne_zero hslack) Nat.one_lt_two
            simp only [hslack, if_false] at h ⊢
            exact ih (slack / 2) hhalf h

theorem reservation_growFor_of_refused
    (h : (storage.growFor limit r length memory).value.result = .error error) :
    (storage.growFor limit r length memory).value.reservation = r := by
  unfold growFor at h ⊢
  split at h
  · cases h
  · rename_i hlength
    rw [if_neg hlength]
    exact reservation_backOff_of_refused h

theorem reservation_reserve_of_refused
    (h : (storage.reserve limit r amount memory).value.result = .error error) :
    (storage.reserve limit r amount memory).value.reservation = r := by
  unfold reserve at h ⊢
  cases hneeded : Word.add? r.header.length amount with
  | none => rfl
  | some needed =>
      rw [hneeded] at h
      dsimp only at h ⊢
      split at h
      · cases h
      · rename_i hkept
        rw [if_neg hkept]
        exact reservation_growTo_of_refused h

end Slots

/-!
## Growths that correspond
-/

namespace Slots

variable {storage : Slots σ} {r r' : Reservation} {limit limit' length : Nat} {memory : σ}

/-- If every attempt corresponds to one that asks for a block, so does the whole growth: a
refused attempt takes both back to where they were, and they go on alike. -/
theorem backOff_map (f : Attempt Unit → Attempt σ)
    (hattempt : ∀ slots, length ≤ slots →
      storage.growTo limit' r' slots memory =
        f <$> (block r.header.elementSize).growTo limit r slots ())
    (hresult : ∀ attempt, (f attempt).result = attempt.result)
    (hrefused : ∀ attempt, attempt.reservation = r →
      (f attempt).reservation = r' ∧ (f attempt).state = memory)
    (hreserved : r'.header.reserved = r.header.reserved) (slack : Nat) :
    storage.backOff limit' r' length slack memory =
      f <$> (block r.header.elementSize).backOff limit r length slack () := by
  induction slack using Nat.strongRecOn with
  | ind slack ih =>
      have hsame := hattempt (Word.add length slack).value (Nat.le_add_right _ _)
      have hkept : ∀ error,
          ((block r.header.elementSize).growTo limit r (Word.add length slack).value
            ()).value.result = .error error → _ :=
        fun _ => reservation_growTo_of_refused
      rw [backOff, backOff, map_bind]
      apply Traced.bind_congr_value
      rw [hsame, bind_map_left, map_bind]
      apply Traced.bind_congr_value
      generalize ((block r.header.elementSize).growTo limit r (Word.add length slack).value
        ()).value = attempt at hkept ⊢
      rw [hresult]
      cases hanswer : attempt.result with
      | ok _ => rfl
      | error error =>
          have hback := hkept error hanswer
          rcases hrefused attempt hback with ⟨hreservation, hstate⟩
          by_cases hslack : slack = 0
          · simp only [hslack, if_true]
            rw [hreservation, hreserved, hback]
            rfl
          · have hhalf : slack / 2 < slack :=
              Nat.div_lt_self (Nat.pos_of_ne_zero hslack) Nat.one_lt_two
            simp only [hslack, if_false, map_bind]
            rw [hreservation, hstate, hback, ih (slack / 2) hhalf]

end Slots

/-!
## Growth
-/

def Attempt.backed (state : Nat → σ) (attempt : Attempt Unit) : Attempt σ where
  result := attempt.result
  reservation := attempt.reservation
  state := state attempt.reservation.header.reserved

namespace Slots

variable {storage : Slots σ} {r : Reservation} {state : Nat → σ}
  {count limit slots length : Nat}

theorem growTo_backs (h : storage.Backs r.header.elementSize count state)
    (hcount : count ≤ r.header.reserved) (limit : Nat) (hslots : r.header.reserved < slots) :
    storage.growTo limit r slots (state r.header.reserved) =
      Attempt.backed state <$> (block r.header.elementSize).growTo limit r slots () := by
  by_cases hadmits : r.Admits slots
  · have hpayload : slots * r.header.elementSize < Word.limit :=
      Nat.lt_of_le_of_lt (Nat.le_add_right _ _) hadmits.left
    rw [Reservation.growTo_of_admits storage limit _ hadmits,
      Reservation.growTo_of_admits _ limit _ hadmits, h.grow limit hcount hslots hpayload,
      pure_bind]
    unfold block
    dsimp only
    rw [pure_bind]
    cases heapGrants limit (slots * r.header.elementSize) with
    | true => rfl
    | false => rfl
  · rw [Reservation.growTo_of_not_admits storage limit _ hadmits,
      Reservation.growTo_of_not_admits _ limit _ hadmits]
    rfl

theorem backOff_backs (h : storage.Backs r.header.elementSize count state)
    (hcount : count ≤ r.header.reserved) (limit : Nat) (hlength : r.header.reserved < length)
    (slack : Nat) :
    storage.backOff limit r length slack (state r.header.reserved) =
      Attempt.backed state <$> (block r.header.elementSize).backOff limit r length
        slack () := by
  apply backOff_map (Attempt.backed state)
  · intro slots hslots
    exact growTo_backs h hcount limit (Nat.lt_of_lt_of_le hlength hslots)
  · intro attempt
    rfl
  · rintro attempt rfl
    exact ⟨rfl, rfl⟩
  · rfl

theorem growFor_backs (h : storage.Backs r.header.elementSize count state)
    (hcount : count ≤ r.header.reserved) (limit length : Nat) :
    storage.growFor limit r length (state r.header.reserved) =
      Attempt.backed state <$> (block r.header.elementSize).growFor limit r length () := by
  unfold growFor
  rcases Nat.lt_or_ge r.header.reserved length with hlength | hlength
  · rw [if_neg (Nat.not_le_of_lt hlength), if_neg (Nat.not_le_of_lt hlength)]
    simp only [map_bind, backOff_backs h hcount limit hlength]
  · rw [if_pos hlength, if_pos hlength]
    rfl

theorem reserve_backs (h : storage.Backs r.header.elementSize count state)
    (hcount : count ≤ r.header.reserved) (limit amount : Nat) :
    storage.reserve limit r amount (state r.header.reserved) =
      Attempt.backed state <$> (block r.header.elementSize).reserve limit r amount () := by
  unfold reserve
  cases Word.add? r.header.length amount with
  | none => rfl
  | some needed =>
      dsimp only
      rcases Nat.lt_or_ge r.header.reserved needed with hneeded | hneeded
      · rw [if_neg (Nat.not_le_of_lt hneeded), if_neg (Nat.not_le_of_lt hneeded),
          growTo_backs h hcount limit hneeded]
      · rw [if_pos hneeded, if_pos hneeded]
        rfl

end Slots

/-!
## What a reservation does on its own
-/

namespace Reservation

def ensure (limit : Nat) (r : Reservation) (length : Nat) : Traced (Result Reservation) := do
  let attempt ← (Slots.block r.header.elementSize).growFor limit r length ()
  pure attempt.grown

def reserve (limit : Nat) (r : Reservation) (amount : Nat) : Traced (Result Reservation) := do
  let attempt ← (Slots.block r.header.elementSize).reserve limit r amount ()
  pure attempt.grown

def shrinkTo (r : Reservation) (slots : Nat) : Traced Reservation :=
  Prod.fst <$> (Slots.block r.header.elementSize).shrinkTo r slots ()

def compact (r : Reservation) : Traced Reservation :=
  Prod.fst <$> (Slots.block r.header.elementSize).compact r ()

def settle (r : Reservation) : Traced Reservation :=
  Prod.fst <$> (Slots.block r.header.elementSize).settle r ()

def release (r : Reservation) : Traced Reservation :=
  Prod.fst <$> (Slots.block r.header.elementSize).release r ()

end Reservation

/-- An attempt on storage that has room for exactly the slots that it left. -/
def Attempt.ofResult (r : Reservation) (state : Nat → σ) : Result Reservation → Attempt σ
  | .ok grown =>
      { result := .ok (), reservation := grown, state := state grown.header.reserved }
  | .error error =>
      { result := .error error, reservation := r, state := state r.header.reserved }

theorem Attempt.ofResult_ok (r grown : Reservation) (state : Nat → σ) :
    Attempt.ofResult r state (.ok grown) =
      { result := .ok (), reservation := grown, state := state grown.header.reserved } := rfl

theorem Attempt.backed_eq {r : Reservation} {attempt : Attempt Unit} (state : Nat → σ)
    (h : ∀ error, attempt.result = .error error → attempt.reservation = r) :
    attempt.backed state =
      .ofResult r state attempt.grown := by
  rcases attempt with ⟨result, reservation, memory⟩
  cases result with
  | ok _ => rfl
  | error error =>
      cases h error rfl
      rfl

namespace Slots

variable {storage : Slots σ} {r : Reservation} {state : Nat → σ} {count slots : Nat}

theorem growFor_eq (h : storage.Backs r.header.elementSize count state)
    (hcount : count ≤ r.header.reserved) (limit length : Nat) :
    storage.growFor limit r length (state r.header.reserved) =
      Attempt.ofResult r state <$> r.ensure limit length := by
  unfold Reservation.ensure
  rw [growFor_backs h hcount, map_eq_pure_bind, map_bind]
  apply Traced.bind_congr_value
  exact congrArg pure (Attempt.backed_eq state fun _ => reservation_growFor_of_refused)

theorem reserve_eq (h : storage.Backs r.header.elementSize count state)
    (hcount : count ≤ r.header.reserved) (limit amount : Nat) :
    storage.reserve limit r amount (state r.header.reserved) =
      Attempt.ofResult r state <$> r.reserve limit amount := by
  unfold Reservation.reserve
  rw [reserve_backs h hcount, map_eq_pure_bind, map_bind]
  apply Traced.bind_congr_value
  exact congrArg pure (Attempt.backed_eq state fun _ => reservation_reserve_of_refused)

def paired (state : Nat → σ) (r : Reservation) : Reservation × σ :=
  (r, state r.header.reserved)

theorem shrinkTo_eq (h : storage.Backs r.header.elementSize count state)
    (hcount : count ≤ slots) (hslots : slots ≤ r.header.reserved)
    (hword : slots * r.header.elementSize < Word.limit) :
    storage.shrinkTo r slots (state r.header.reserved) =
      paired state <$> r.shrinkTo slots := by
  unfold Reservation.shrinkTo shrinkTo
  rw [h.shrink hcount hslots hword]
  simp only [map_bind, pure_bind]
  cases r.header.bytesFor slots with
  | none => rfl
  | some bytes => rfl

theorem compact_eq (h : storage.Backs r.header.elementSize r.header.length state)
    (hvalid : r.Valid) :
    storage.compact r (state r.header.reserved) = paired state <$> r.compact := by
  have hlength := hvalid.length_le
  unfold Reservation.compact compact
  split
  · rfl
  · exact shrinkTo_eq h (Nat.le_refl _) hlength (hvalid.span_lt_limit hlength)

theorem settle_eq (h : storage.Backs r.header.elementSize r.header.length state)
    (hvalid : r.Valid) :
    storage.settle r (state r.header.reserved) = paired state <$> r.settle := by
  have hlength := Nat.lt_of_succ_lt hvalid.length_succ_lt_limit
  have hshrink : ∀ {target}, r.header.length ≤ target → target ≤ r.header.reserved →
      storage.shrinkTo r target (state r.header.reserved) =
        paired state <$> r.shrinkTo target :=
    fun hle htarget => shrinkTo_eq h hle htarget (hvalid.span_lt_limit htarget)
  have hle := Config.le_recommended r.config hlength
  unfold Reservation.settle settle
  rw [Config.capacity_eq_pure, pure_bind, pure_bind]
  cases r.config.shrink with
  | deferred => rfl
  | lazy =>
      dsimp only
      split
      · rename_i htarget
        exact hshrink hle (Nat.le_of_lt htarget)
      · rfl
  | eager =>
      dsimp only
      split
      · rename_i htarget
        exact hshrink hle htarget
      · rfl

theorem release_eq (h : storage.Backs r.header.elementSize 0 state) (hvalid : r.Valid) :
    storage.release r (state r.header.reserved) = paired state <$> r.release := by
  have hempty := hvalid.withLength (Nat.zero_le _)
  exact shrinkTo_eq (r := r.withLength 0) h (Nat.le_refl 0) (Nat.zero_le _)
    (hempty.span_lt_limit (Nat.zero_le _))

end Slots
end BlockBuffer
