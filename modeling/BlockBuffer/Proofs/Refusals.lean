import BlockBuffer.Proofs.Reachability
import BlockBuffer.Proofs.Reservation.Heap

/-!
# Refusals change nothing

Whatever refuses an operation, be it a check or the heap after any number of attempts, comes
before the first change.  A refused operation leaves the buffer and the destination as they
were, and all that its log can show is that attempts were refused.
-/

namespace BlockBuffer

def Refused {ρ : Type} (result : Result ρ) : Prop :=
  ∃ error, result = .error error

theorem not_refused_ok {ρ : Type} (value : ρ) : ¬ Refused (.ok value) := by
  rintro ⟨error, herror⟩
  cases herror

/-- The events of a reservation whose number of slots changes, or is set to what it was. -/
def Event.changesSlots : Event → Bool
  | .grown .. => true
  | .shrunk .. => true
  | .backingOff .. => false
  | .growthFailed .. => false
  | .ready .. => false
  | .compacted .. => false
  | .destroyed .. => false

def Traced.KeepsSlots {α : Type} (x : Traced α) : Prop :=
  ∀ event ∈ x.events, event.changesSlots = false

/-!
## Operations without a trace of their failure
-/

section Harmless

variable {σ ρ ρ' ι : Type} {failed spared : ρ → Prop} {before : σ}

/-- If the operation failed, the state is the one before, what was lent to it is spared, and
its log shows no change of the slots. -/
def Harmless (failed spared : ρ → Prop) (before : σ) (x : Traced (Outcome σ ρ)) : Prop :=
  failed x.value.result → spared x.value.result ∧ x.value.state = before ∧ x.KeepsSlots

theorem Harmless.of_not_failed {x : Traced (Outcome σ ρ)} (h : ¬ failed x.value.result) :
    Harmless failed spared before x :=
  fun hfailed => absurd hfailed h

theorem Harmless.pure {result : ρ} (h : spared result) :
    Harmless failed spared before (pure { result := result, state := before }) := by
  intro _
  refine ⟨h, rfl, ?_⟩
  intro event hmem
  cases hmem

theorem Harmless.bind {x : Traced ι} {f : ι → Traced (Outcome σ ρ)} (hx : x.KeepsSlots)
    (h : Harmless failed spared before (f x.value)) :
    Harmless failed spared before (x >>= f) := by
  intro hfailed
  rcases h hfailed with ⟨hspared, hstate, hquiet⟩
  refine ⟨hspared, hstate, ?_⟩
  intro event hmem
  rcases List.mem_append.mp hmem with hfirst | hsecond
  · exact hx event hfirst
  · exact hquiet event hsecond

theorem Harmless.map {failed' spared' : ρ' → Prop} {f : ρ → ρ'} {x : Traced (Outcome σ ρ)}
    (h : Harmless failed spared before x)
    (hfailed : ∀ result, failed' (f result) → failed result)
    (hspared : ∀ result, spared result → spared' (f result)) :
    Harmless failed' spared' before (Outcome.map f <$> x) := by
  intro hmapped
  rcases h (hfailed _ hmapped) with ⟨hkept, hstate, hquiet⟩
  refine ⟨hspared _ hkept, hstate, ?_⟩
  unfold Traced.KeepsSlots
  rw [Traced.events_map]
  exact hquiet

/-- After a growth an operation has nothing left to fail for. -/
theorem Harmless.growth {x : Traced (Result Reservation)}
    {f : Result Reservation → Traced (Outcome σ ρ)}
    (hx : ∀ error, x.value = .error error → x.KeepsSlots)
    (hrefused : ∀ error, Harmless failed spared before (f (.error error)))
    (hgranted : ∀ grown, ¬ failed (f (.ok grown)).value.result) :
    Harmless failed spared before (x >>= f) := by
  cases hvalue : x.value with
  | ok grown =>
      apply Harmless.of_not_failed
      rw [Traced.value_bind, hvalue]
      exact hgranted grown
  | error error =>
      apply Harmless.bind (hx error hvalue)
      rw [hvalue]
      exact hrefused error

end Harmless

/-!
## Refused growths
-/

namespace Reservation

variable {r : Reservation} {limit length slack amount : Nat} {error : BufferError}

theorem Grows.changesSlots_eq_false {events : List Event}
    (h : Grows limit r length slack (.error error) events) :
    ∀ event ∈ events, event.changesSlots = false := by
  intro event hmem
  cases h with
  | refused retries _ _ =>
      rcases List.mem_append.mp hmem with hwarning | hlast
      · rcases List.mem_map.mp hwarning with ⟨retry, _, rfl⟩
        rfl
      · rw [List.mem_singleton.mp hlast]
        rfl

theorem ensure_keepsSlots (hword : length < Word.limit)
    (h : (r.ensure limit length).value = .error error) :
    (r.ensure limit length).KeepsSlots := by
  rcases Nat.lt_or_ge r.header.reserved length with hgrows | hkept
  · have hgrown := grows_ensure limit hgrows hword
    rw [h] at hgrown
    exact hgrown.changesSlots_eq_false
  · rw [ensure_of_le hkept] at h
    cases h

theorem reserve_keepsSlots (hvalid : r.Valid)
    (h : (r.reserve limit amount).value = .error error) :
    (r.reserve limit amount).KeepsSlots := by
  rcases Nat.lt_or_ge r.header.reserved (r.header.length + amount) with hgrows | hkept
  · by_cases hfits : r.Fits limit (r.header.length + amount)
    · rw [reserve_of_fits hgrows hvalid.elementSize_pos hfits] at h
      cases h
    · rw [reserve_of_not_fits hvalid hgrows hfits]
      intro event hmem
      cases hmem
  · rw [reserve_of_le hvalid hkept] at h
    cases h

end Reservation

/-!
## Byte buffers
-/

namespace ByteBuffer

def Reply.Failed : Reply → Prop
  | .done result => Refused result
  | .size result => Refused result
  | .element _ => False
  | .observed _ => False
  | .delivered delivery => Refused delivery.result
  | .popped delivery => Refused delivery.result ∨ delivery.result = .ok .warning
  | .cleaned result => Refused result

def Reply.dest? : Reply → Option Bytes
  | .delivered delivery => delivery.dest
  | .popped delivery => delivery.dest
  | _ => none

def Command.dest? : Command → Option Bytes
  | .copyTo _ dest => some dest
  | .remove _ dest => dest
  | .popFront dest => dest
  | .popBack dest => dest
  | _ => none

variable {config : Config} {buffer : ByteBuffer} {list : ByteList}

theorem init_harmless (buffer : ByteBuffer) (elementSize : Nat) :
    Harmless Refused (fun _ => True) buffer (buffer.init elementSize) := by
  unfold init
  cases Reservation.create elementSize buffer.config with
  | error error => exact Harmless.pure trivial
  | ok reservation => exact Harmless.of_not_failed (not_refused_ok _)

theorem copyTo_harmless (buffer : ByteBuffer) (index : Nat) (dest : Bytes) :
    Harmless (fun delivery => Refused delivery.result)
      (fun delivery => delivery.dest = some dest) buffer
      (buffer.copyTo index dest) := by
  unfold copyTo
  cases buffer.checkCopy index dest.length with
  | error error => exact Harmless.pure rfl
  | ok reservation => exact Harmless.of_not_failed (not_refused_ok _)

theorem copyFrom_harmless (buffer : ByteBuffer) (index : Nat) (source : Bytes) :
    Harmless Refused (fun _ => True) buffer (buffer.copyFrom index source) := by
  unfold copyFrom
  cases buffer.checkCopy index source.length with
  | error error => exact Harmless.pure trivial
  | ok reservation => exact Harmless.of_not_failed (not_refused_ok _)

theorem reserve_harmless (limit : Nat) (h : Represents config buffer list) (amount : Nat) :
    Harmless Refused (fun _ => True) buffer (buffer.reserve limit amount) := by
  cases h with
  | uninitialized => exact Harmless.pure trivial
  | initialized _ hcounts =>
      rw [reserve_holding limit amount hcounts]
      apply Harmless.growth
      · intro error
        exact Reservation.reserve_keepsSlots hcounts.valid
      · intro error
        exact Harmless.pure trivial
      · intro grown
        exact not_refused_ok _

theorem compact_harmless (buffer : ByteBuffer) :
    Harmless Refused (fun _ => True) buffer buffer.compact := by
  unfold compact
  cases buffer.initialized with
  | error error => exact Harmless.pure trivial
  | ok reservation => exact Harmless.of_not_failed (not_refused_ok _)

theorem insert_harmless (limit : Nat) (h : Represents config buffer list) (index : Nat)
    (source : Bytes) :
    Harmless Refused (fun _ => True) buffer (buffer.insert limit index source) := by
  cases h with
  | uninitialized => exact Harmless.pure trivial
  | @initialized r elements _ hcounts =>
      rcases Nat.lt_or_ge elements.length index with hindex | hindex
      · rw [insert_of_error limit (checkInsert_of_lt hcounts hindex source.length)]
        exact Harmless.pure trivial
      · by_cases hsource : source.length = r.header.elementSize
        · rw [insert_of_fits limit hcounts hindex hsource]
          apply Harmless.growth
          · intro error
            exact Reservation.ensure_keepsSlots hcounts.length_succ_lt_limit
          · intro error
            exact Harmless.pure trivial
          · intro grown
            exact not_refused_ok _
        · have hchecked := checkInsert_of_le hcounts hindex source.length
          rw [if_neg hsource] at hchecked
          rw [insert_of_error limit hchecked]
          exact Harmless.pure trivial

/-- The checks that copying out makes are among those that a removal has made. -/
theorem result_copyOut_of_checked {r : Reservation} {index : Nat} {dest : Option Bytes}
    (h : buffer.checkRemove index dest = .ok r) :
    (buffer.copyOut index dest).value.result = .ok () := by
  cases dest with
  | none => rfl
  | some dest =>
      have hcheck : buffer.checkCopy index dest.length = .ok r := h
      show (buffer.copyTo index dest).value.result.result = .ok ()
      unfold copyTo
      rw [hcheck]
      rfl

theorem remove_harmless (buffer : ByteBuffer) (index : Nat) (dest : Option Bytes) :
    Harmless (fun delivery => Refused delivery.result)
      (fun delivery => delivery.dest = dest) buffer
      (buffer.remove index dest) := by
  unfold remove
  cases hcheck : buffer.checkRemove index dest with
  | error error => exact Harmless.pure rfl
  | ok reservation =>
      have hcopied := result_copyOut_of_checked hcheck
      apply Harmless.of_not_failed
      dsimp only
      rw [Traced.value_bind]
      generalize (buffer.copyOut index dest).value = delivery at hcopied ⊢
      rcases delivery with ⟨result, filled⟩
      cases hcopied
      exact not_refused_ok ()

theorem popAt_harmless {place : Nat → Traced Nat}
    (hplace : ∀ length, (place length).events = []) (buffer : ByteBuffer)
    (dest : Option Bytes) :
    Harmless (fun delivery => Refused delivery.result ∨ delivery.result = .ok .warning)
      (fun delivery => delivery.dest = dest) buffer (buffer.popAt place dest) := by
  unfold popAt
  cases buffer.initialized with
  | error error => exact Harmless.pure rfl
  | ok reservation =>
      dsimp only
      split
      · exact Harmless.pure rfl
      · apply Harmless.bind
        · intro event hmem
          rw [hplace] at hmem
          cases hmem
        · rw [bind_pure_comp]
          apply (remove_harmless buffer (place reservation.header.length).value dest).map
            (f := Delivery.taken)
          · intro delivery hfailed
            cases hresult : delivery.result with
            | ok _ =>
                -- What was removed was popped, and without a warning.
                simp [Delivery.taken, hresult, Refused, Except.map] at hfailed
            | error error => exact ⟨error, rfl⟩
          · intro delivery hspared
            exact hspared

theorem destroyWith_harmless (buffer : ByteBuffer) (change : InPlace)
    (interruptAt : Option Nat) :
    Harmless Refused (fun _ => True) buffer (buffer.destroyWith change interruptAt) := by
  unfold destroyWith
  cases buffer.initialized with
  | error error => exact Harmless.pure trivial
  | ok reservation =>
      apply Harmless.of_not_failed
      dsimp only
      rw [Traced.value_bind]
      split
      · exact not_refused_ok _
      · exact not_refused_ok _

theorem done_harmless {x : Traced (Outcome ByteBuffer (Result Unit))}
    (h : Harmless Refused (fun _ => True) buffer x) :
    Harmless Reply.Failed (fun reply => reply.dest? = none) buffer (Outcome.map .done <$> x) :=
  h.map (fun _ hfailed => hfailed) (fun _ _ => rfl)

theorem step_harmless (limit : Nat) (h : Represents config buffer list) (command : Command) :
    Harmless Reply.Failed (fun reply => reply.dest? = command.dest?) buffer
      (buffer.step limit command) := by
  cases command with
  | init elementSize =>
      exact done_harmless (init_harmless buffer elementSize)
  | requiredBytes length =>
      rw [step, requiredBytes_eq h, pure_bind]
      exact Harmless.pure rfl
  | get index => exact Harmless.of_not_failed fun hfailed => hfailed
  | modify index change => exact Harmless.of_not_failed fun hfailed => hfailed
  | copyTo index dest =>
      exact (copyTo_harmless buffer index dest).map (fun _ hfailed => hfailed)
        (fun _ hspared => hspared)
  | copyFrom index source =>
      exact done_harmless (copyFrom_harmless buffer index source)
  | observe probes => exact Harmless.of_not_failed fun hfailed => hfailed
  | reserve amount =>
      exact done_harmless (reserve_harmless limit h amount)
  | compact => exact done_harmless (compact_harmless buffer)
  | insert index source =>
      exact done_harmless (insert_harmless limit h index source)
  | pushFront source =>
      exact done_harmless (insert_harmless limit h 0 source)
  | pushBack source =>
      exact done_harmless (insert_harmless limit h buffer.length source)
  | remove index dest =>
      exact (remove_harmless buffer index dest).map (fun _ hfailed => hfailed)
        (fun _ hspared => hspared)
  | popFront dest =>
      exact (popAt_harmless (fun _ => rfl) buffer dest).map (fun _ hfailed => hfailed)
        (fun _ hspared => hspared)
  | popBack dest =>
      exact (popAt_harmless (fun length => Word.events_sub length 1) buffer dest).map
        (fun _ hfailed => hfailed) (fun _ hspared => hspared)
  | destroy =>
      have hdestroyed : Harmless Refused (fun _ => True) buffer buffer.destroy := by
        apply (destroyWith_harmless buffer .id none).map (f := Except.map fun _ => ())
        · intro result hfailed
          cases result with
          | ok _ => exact absurd hfailed (not_refused_ok ())
          | error error => exact ⟨error, rfl⟩
        · intro _ hspared
          exact hspared
      exact done_harmless hdestroyed
  | destroyWith change interruptAt =>
      exact (destroyWith_harmless buffer change interruptAt).map (fun _ hfailed => hfailed)
        (fun _ _ => rfl)
  | copy => exact Harmless.of_not_failed (not_refused_ok ())

end ByteBuffer

/-!
## Buffers of values
-/

namespace Buffer

variable {α : Type} {elementSize : Nat} {config : Config} {buffer : Buffer α} {items : List α}

def Reply.Failed : Reply α → Prop
  | .unit => False
  | .done result => Refused result
  | .size bytes => bytes = none
  | .value found => found = none
  | .written _ => False
  | .observed _ => False
  | .taken result => Refused result
  | .cleaned _ => False

theorem reserve_harmless (limit : Nat) (h : Represents elementSize config buffer items)
    (amount : Nat) :
    Harmless Refused (fun _ => True) buffer (buffer.reserve limit amount) := by
  cases h with
  | intro _ _ hvalid hcount =>
      rw [reserve_holding hvalid hcount]
      apply Harmless.growth
      · intro error
        exact Reservation.reserve_keepsSlots hvalid
      · intro error
        exact Harmless.pure trivial
      · intro grown
        exact not_refused_ok _

theorem insert_harmless (limit : Nat) (h : Represents elementSize config buffer items)
    (index : Nat) (value : α) :
    Harmless Refused (fun _ => True) buffer (buffer.insert limit index value) := by
  cases h with
  | @intro _ r _ _ hvalid hcount =>
      rcases Nat.lt_or_ge items.length index with hindex | hindex
      · rw [insert_of_lt limit hindex]
        exact Harmless.pure trivial
      · have hword : items.length + 1 < Word.limit := by
          rw [← hcount]
          exact hvalid.length_succ_lt_limit
        rw [insert_of_le limit hvalid hcount hindex]
        apply Harmless.growth
        · intro error
          exact Reservation.ensure_keepsSlots hword
        · intro error
          exact Harmless.pure trivial
        · intro grown
          exact not_refused_ok _

theorem remove_harmless (buffer : Buffer α) (index : Nat) :
    Harmless Refused (fun _ => True) buffer (buffer.remove index) := by
  unfold remove
  cases buffer.items[index]? with
  | none => exact Harmless.pure trivial
  | some value => exact Harmless.of_not_failed (not_refused_ok _)

theorem replace_harmless (buffer : Buffer α) (index : Nat) (value : α) :
    Harmless Refused (fun _ => True) buffer (pure (buffer.replace index value)) := by
  unfold replace
  cases buffer.items[index]? with
  | none => exact Harmless.pure trivial
  | some old => exact Harmless.of_not_failed (not_refused_ok _)

/-- A pop gives nothing exactly when its removal is refused. -/
theorem pop_harmless (buffer : Buffer α) (index : Nat) :
    Harmless (fun value => value = none) (fun _ => True) buffer
      (Outcome.map Except.toOption <$> buffer.remove index) := by
  apply (remove_harmless buffer index).map
  · intro result hnone
    cases result with
    | ok value => cases hnone
    | error error => exact ⟨error, rfl⟩
  · intro _ hspared
    exact hspared

theorem popBack_harmless (buffer : Buffer α) :
    Harmless (fun value => value = none) (fun _ => True) buffer buffer.popBack := by
  unfold popBack
  split
  · exact Harmless.pure trivial
  · exact pop_harmless buffer _

theorem done_harmless {x : Traced (Outcome (Buffer α) (Result Unit))}
    (h : Harmless Refused (fun _ => True) buffer x) :
    Harmless Reply.Failed (fun _ : Reply α => True) buffer (Outcome.map .done <$> x) :=
  h.map (fun _ hfailed => hfailed) (fun _ hspared => hspared)

theorem taken_harmless {x : Traced (Outcome (Buffer α) (Result α))}
    (h : Harmless Refused (fun _ => True) buffer x) :
    Harmless Reply.Failed (fun _ => True) buffer (Outcome.map .taken <$> x) :=
  h.map (fun _ hfailed => hfailed) (fun _ hspared => hspared)

theorem value_harmless {x : Traced (Outcome (Buffer α) (Option α))}
    (h : Harmless (fun value => value = none) (fun _ => True) buffer x) :
    Harmless Reply.Failed (fun _ => True) buffer (Outcome.map .value <$> x) :=
  h.map (fun _ hfailed => hfailed) (fun _ hspared => hspared)

theorem step_harmless (limit : Nat) (h : Represents elementSize config buffer items)
    (command : Command α) :
    Harmless Reply.Failed (fun _ => True) buffer (buffer.step limit command) := by
  cases command with
  | requiredBytes length =>
      rw [step, requiredBytes, Reservation.requiredBytes_eq_pure, pure_bind]
      exact Harmless.pure trivial
  | get index => exact Harmless.pure trivial
  | set index value => exact Harmless.of_not_failed fun hfailed => hfailed
  | reverse => exact Harmless.of_not_failed fun hfailed => hfailed
  | observe probes => exact Harmless.of_not_failed fun hfailed => hfailed
  | reserve amount =>
      exact done_harmless (reserve_harmless limit h amount)
  | compact => exact Harmless.of_not_failed fun hfailed => hfailed
  | insert index value =>
      exact done_harmless (insert_harmless limit h index value)
  | pushFront value =>
      exact done_harmless (insert_harmless limit h 0 value)
  | pushBack value =>
      exact done_harmless (insert_harmless limit h buffer.items.length value)
  | remove index => exact taken_harmless (remove_harmless buffer index)
  | replace index value => exact taken_harmless (replace_harmless buffer index value)
  | popFront => exact value_harmless (pop_harmless buffer 0)
  | popBack => exact value_harmless (popBack_harmless buffer)
  | destroy => exact Harmless.of_not_failed fun hfailed => hfailed
  | destroyWith interruptAt => exact Harmless.of_not_failed fun hfailed => hfailed
  | copy => exact Harmless.of_not_failed fun hfailed => hfailed

end Buffer

/-!
## Every reachable buffer
-/

/-- No command meets a fault on a reachable buffer of either kind.  If its answer is a refusal,
or says that there was nothing to do, then the whole buffer is what it was before, a
destination comes back with every byte that it had, and the number of slots was not set. -/
theorem failures_change_nothing :
    (∀ (config : Config) (buffer : ByteBuffer), ByteBuffer.Reachable config buffer →
      ∀ (limit : Nat) (command : ByteBuffer.Command),
        let step := buffer.step limit command
        step.faults = [] ∧
          (step.value.result.Failed →
            step.value.result.dest? = command.dest? ∧ step.value.state = buffer ∧
              ∀ event ∈ step.events, event.changesSlots = false)) ∧
    ∀ (α : Type) (elementSize : Nat) (config : Config) (buffer : Buffer α),
      Buffer.Reachable elementSize config buffer →
      ∀ (limit : Nat) (command : Buffer.Command α),
        let step := buffer.step limit command
        step.faults = [] ∧
          (step.value.result.Failed →
            step.value.state = buffer ∧
              ∀ event ∈ step.events, event.changesSlots = false) := by
  constructor
  · intro config buffer hreachable limit command
    rcases hreachable.represents with ⟨list, hlist⟩
    rcases ByteBuffer.step_follows limit command hlist with ⟨_, hfollows⟩
    exact ⟨hfollows.faults_eq, ByteBuffer.step_harmless limit hlist command⟩
  · intro α elementSize config buffer hreachable limit command
    rcases hreachable.represents with ⟨items, hitems⟩
    rcases Buffer.step_follows limit command hitems with ⟨_, hfollows⟩
    refine ⟨hfollows.faults_eq, ?_⟩
    intro hfailed
    exact (Buffer.step_harmless limit hitems command hfailed).right

theorem failures_change_nothing_after_backing_off :
    let reservation : Reservation :=
      { header := { elementSize := 4, length := 1, reserved := 1, bytesAllocated := 36 }
        config := {} }
    let bytes := ByteBuffer.holding reservation [[1, 2, 3, 4]]
    let values : Buffer Bool := .holding reservation [true]
    ByteBuffer.Reachable {} bytes ∧ Buffer.Reachable 4 {} values ∧
      (bytes.step 0 (.pushBack [5, 6, 7, 8])).value.state = bytes ∧
      (values.step 0 (.pushBack false)).value.state = values := by
  intro reservation bytes values
  have hbytes : ByteBuffer.Reachable {} bytes :=
    ⟨[(96, .init 4), (96, .reserve 1), (0, .pushBack [1, 2, 3, 4])], rfl⟩
  have hvalues : Buffer.Reachable 4 {} values :=
    ⟨{ items := [], reservation := { header := .unreserved 4, config := {} } },
      [(96, .reserve 1), (0, .pushBack true)], rfl, rfl⟩
  have hbytesFailed : (bytes.step 0 (.pushBack [5, 6, 7, 8])).value.result.Failed :=
    ⟨.allocation 40, by cbv⟩
  have hvaluesFailed : (values.step 0 (.pushBack false)).value.result.Failed :=
    ⟨.allocation 40, by cbv⟩
  have hleft := (failures_change_nothing.left {} bytes hbytes 0 _).right hbytesFailed
  have hright :=
    (failures_change_nothing.right Bool 4 {} values hvalues 0 _).right hvaluesFailed
  exact ⟨hbytes, hvalues, hleft.right.left, hright.left⟩

end BlockBuffer
