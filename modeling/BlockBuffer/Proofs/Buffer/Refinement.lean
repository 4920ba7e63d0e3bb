import BlockBuffer.Proofs.Buffer.Changes
import BlockBuffer.Proofs.Buffer.Items
import BlockBuffer.Proofs.Runs

/-!
# Buffers of values refine plain lists

The values of a buffer behave as a plain list under every configuration, whatever storage is
refused.  The length that the reservation keeps is a second record of the length of the list,
and the two never differ.
-/

namespace BlockBuffer
namespace Buffer

variable {α : Type}

/-- The buffers for values of a size, under a configuration, that stand for a list. -/
inductive Represents (elementSize : Nat) (config : Config) : Buffer α → List α → Prop where
  | intro {items : List α} {r : Reservation} :
      r.header.elementSize = elementSize → r.config = config → r.Valid →
        r.header.length = items.length →
        Represents elementSize config (holding r items) items

variable {elementSize : Nat} {config : Config} {buffer : Buffer α} {items : List α}

theorem Represents.exchange (h : Represents elementSize config buffer items) {others : List α}
    (hlength : others.length = items.length) :
    Represents elementSize config { buffer with items := others } others := by
  cases h with
  | intro hsize hconfig hvalid hcount =>
      exact .intro hsize hconfig hvalid (hcount.trans hlength.symm)

theorem Represents.items_eq (h : Represents elementSize config buffer items) :
    buffer.items = items := by
  cases h with
  | intro _ _ _ _ => rfl

/-!
## Changes in place
-/

theorem replace_follows (h : Represents elementSize config buffer items) (index : Nat)
    (value : α) :
    Follows (Represents elementSize config) (pure (buffer.replace index value))
      (Items.replace items index value) := by
  cases h with
  | @intro _ r hsize hconfig hvalid hcount =>
      have hkept : Represents elementSize config (holding r items) items :=
        .intro hsize hconfig hvalid hcount
      unfold replace Items.replace
      rw [items_holding]
      rcases Nat.lt_or_ge index items.length with hindex | hindex
      · rw [dif_pos hindex, List.getElem?_eq_getElem hindex]
        exact Follows.pure (hkept.exchange List.length_set) _
      · rw [dif_neg (Nat.not_lt_of_le hindex), List.getElem?_eq_none hindex]
        exact Follows.pure hkept _

theorem copy_eq (h : Represents elementSize config buffer items) :
    buffer.copy = pure buffer := by
  cases h with
  | intro _ _ hvalid hcount => exact copy_holding hvalid hcount

/-!
## Putting values in and taking them out
-/

theorem insert_follows (limit : Nat) (h : Represents elementSize config buffer items)
    (index : Nat) (value : α) :
    ∃ refusal, Follows (Represents elementSize config) (buffer.insert limit index value)
      (Items.insert refusal items index value) := by
  cases h with
  | @intro _ r hsize hconfig hvalid hcount =>
      have hkept : Represents elementSize config (holding r items) items :=
        .intro hsize hconfig hvalid hcount
      unfold Items.insert
      rcases Nat.lt_or_ge items.length index with hindex | hindex
      · refine ⟨none, ?_⟩
        rw [insert_of_lt limit hindex, if_pos hindex]
        exact Follows.pure hkept _
      · rcases Reservation.ensure_succ limit hvalid hcount with ⟨hfaults, hensured⟩
        rw [insert_of_le limit hvalid hcount hindex]
        simp only [if_neg (Nat.not_lt_of_le hindex)]
        apply Follows.growth hfaults hensured
        · exact Follows.pure hkept _
        · intro slots hslots hgrown
          have hlonger := (List.length_insertIdx_of_le_length hindex value).symm
          exact Follows.pure (.intro hsize hconfig (hgrown.withLength hslots) hlonger) _

theorem remove_follows (h : Represents elementSize config buffer items) (index : Nat) :
    Follows (Represents elementSize config) (buffer.remove index)
      (Items.remove items index) := by
  cases h with
  | @intro _ r hsize hconfig hvalid hcount =>
      have hkept : Represents elementSize config (holding r items) items :=
        .intro hsize hconfig hvalid hcount
      unfold Items.remove
      rcases Nat.lt_or_ge index items.length with hindex | hindex
      · have hshorter := valid_removed hvalid hcount
        have hsettled := Reservation.valid_settle hshorter
        rw [remove_of_lt hvalid hcount hindex, dif_pos hindex]
        apply Follows.bind (Reservation.faults_settle hshorter)
        rw [Reservation.value_settle hshorter] at hsettled ⊢
        exact Follows.pure
          (.intro hsize hconfig hsettled (List.length_eraseIdx_of_lt hindex).symm) _
      · rw [remove_of_le hindex, dif_neg (Nat.not_lt_of_le hindex)]
        exact Follows.pure hkept _

theorem popFront_follows (h : Represents elementSize config buffer items) :
    Follows (Represents elementSize config) buffer.popFront (Items.popFront items) := by
  have hremove := (remove_follows h 0).map Except.toOption
  have hlist : (Items.remove items 0).map Except.toOption = Items.popFront items := by
    cases items with
    | nil => rfl
    | cons item rest => rfl
  rw [hlist] at hremove
  exact hremove

theorem popBack_follows (h : Represents elementSize config buffer items) :
    Follows (Represents elementSize config) buffer.popBack (Items.popBack items) := by
  unfold popBack
  rw [h.items_eq]
  by_cases hnone : items.length = 0
  · have hnil : items = [] := List.length_eq_zero_iff.mp hnone
    subst hnil
    exact Follows.pure h none
  · have hremove := (remove_follows h (items.length - 1)).map Except.toOption
    have hlast : items.length - 1 < items.length := Nat.sub_one_lt hnone
    have hlist : (Items.remove items (items.length - 1)).map Except.toOption =
        Items.popBack items := by
      unfold Items.remove Items.popBack
      rw [dif_pos hlast, List.getLast?_eq_getElem?, List.getElem?_eq_getElem hlast,
        List.eraseIdx_eq_dropLast (by omega)]
      rfl
    rw [if_neg hnone]
    rw [hlist] at hremove
    exact hremove

/-!
## Storage
-/

theorem reserve_follows (limit : Nat) (h : Represents elementSize config buffer items)
    (amount : Nat) :
    ∃ refusal, Follows (Represents elementSize config) (buffer.reserve limit amount)
      (Items.reserve refusal items) := by
  cases h with
  | @intro _ r hsize hconfig hvalid hcount =>
      have hreserved := Reservation.suffices_reserve limit amount hvalid
      have hfaults := Reservation.faults_reserve limit r amount
      rw [reserve_holding hvalid hcount]
      apply Follows.growth hfaults hreserved
      · exact Follows.pure (.intro hsize hconfig hvalid hcount) _
      · intro slots _ hgrown
        exact Follows.pure (.intro hsize hconfig hgrown hcount) _

theorem compact_follows (h : Represents elementSize config buffer items) :
    buffer.compact.faults = [] ∧ Represents elementSize config buffer.compact.value items := by
  cases h with
  | @intro _ r hsize hconfig hvalid hcount =>
      have htight := Reservation.valid_compact hvalid
      rw [compact_holding hvalid hcount]
      constructor
      · rw [Traced.faults_bind, Reservation.faults_compact hvalid]
        rfl
      · simp only [Traced.value_bind, Traced.value_pure]
        rw [Reservation.value_compact hvalid] at htight ⊢
        exact .intro hsize hconfig htight hcount

theorem destroyWith_follows (h : Represents elementSize config buffer items)
    (interruptAt : Option Nat) :
    Follows (Represents elementSize config) (buffer.destroyWith interruptAt)
      { result := (sweep id interruptAt items).report, state := [] } := by
  cases h with
  | @intro _ r hsize hconfig hvalid hcount =>
      cases hending : (sweep id interruptAt items).ending with
      | interrupted =>
          rw [destroyWith_of_interrupted hending]
          exact Follows.pure (.intro hsize hconfig (hvalid.withLength (Nat.zero_le _)) rfl) _
      | completed =>
          rw [destroyWith_of_completed hvalid hending, Reservation.release_eq hvalid]
          apply Follows.bind rfl
          apply Follows.bind rfl
          exact Follows.pure (.intro hsize hconfig (Reservation.valid_release hvalid) rfl) _

/-!
## Steps and runs
-/

theorem step_follows (limit : Nat) (command : Command α)
    (h : Represents elementSize config buffer items) :
    ∃ refusal, Follows (Represents elementSize config) (buffer.step limit command)
      (Items.step elementSize config refusal items command) := by
  cases command with
  | requiredBytes length =>
      refine ⟨none, ?_⟩
      cases h with
      | @intro _ r hsize hconfig hvalid hcount =>
          rw [step, requiredBytes, Reservation.requiredBytes_eq_pure, pure_bind, Items.step,
            reservation_holding, hsize, hconfig]
          exact Follows.pure (.intro hsize hconfig hvalid hcount) _
  | get index =>
      refine ⟨none, ?_⟩
      rw [step, get, h.items_eq]
      exact Follows.pure h _
  | set index value =>
      refine ⟨none, ?_⟩
      rw [step, set, h.items_eq]
      exact Follows.pure (h.exchange List.length_set) _
  | reverse =>
      refine ⟨none, ?_⟩
      rw [step, reverse, h.items_eq]
      exact Follows.pure (h.exchange List.length_reverse) _
  | observe probes =>
      refine ⟨none, ?_⟩
      rw [step, h.items_eq]
      exact Follows.pure h _
  | reserve amount =>
      rcases reserve_follows limit h amount with ⟨refusal, hreserve⟩
      exact ⟨refusal, hreserve.map _⟩
  | compact =>
      rcases compact_follows h with ⟨hfaults, hstate⟩
      exact ⟨none, Follows.bind hfaults (Follows.pure hstate _)⟩
  | insert index value =>
      rcases insert_follows limit h index value with ⟨refusal, hinsert⟩
      exact ⟨refusal, hinsert.map _⟩
  | pushFront value =>
      rcases insert_follows limit h 0 value with ⟨refusal, hinsert⟩
      exact ⟨refusal, hinsert.map _⟩
  | pushBack value =>
      rcases insert_follows limit h items.length value with ⟨refusal, hinsert⟩
      refine ⟨refusal, ?_⟩
      rw [step, pushBack, h.items_eq]
      exact hinsert.map _
  | remove index => exact ⟨none, (remove_follows h index).map _⟩
  | replace index value => exact ⟨none, (replace_follows h index value).map _⟩
  | popFront => exact ⟨none, (popFront_follows h).map _⟩
  | popBack => exact ⟨none, (popBack_follows h).map _⟩
  | destroy =>
      have hdestroyed := destroyWith_follows h none
      refine ⟨none, ?_⟩
      rw [step, destroy, bind_assoc]
      exact Follows.bind hdestroyed.faults_eq (Follows.pure hdestroyed.state_related _)
  | destroyWith interruptAt => exact ⟨none, (destroyWith_follows h interruptAt).map _⟩
  | copy =>
      refine ⟨none, ?_⟩
      rw [step, copy_eq h, pure_bind]
      exact Follows.pure h _

theorem create_of_pos (hsize : 0 < elementSize) (hblock : config.blockSize ≠ 0) :
    create elementSize config =
      .ok { items := ([] : List α)
            reservation := { header := .unreserved elementSize, config := config } } := by
  rw [create, Reservation.create_of_pos hsize hblock]
  rfl

/-- Whatever is created stands for the empty list. -/
theorem represents_of_create (h : create elementSize config = .ok buffer) :
    Represents elementSize config buffer [] := by
  by_cases hsize : elementSize = 0
  · rw [create, Reservation.create_eq, if_pos hsize] at h
    cases h
  · by_cases hblock : config.blockSize = 0
    · rw [create, Reservation.create_eq, if_neg hsize, if_pos hblock] at h
      cases h
    · have hpos := Nat.pos_of_ne_zero hsize
      rw [create_of_pos hpos hblock] at h
      cases h
      exact .intro rfl rfl (Reservation.valid_unreserved hpos hblock) rfl

theorem run_follows (h : Represents elementSize config buffer items)
    (commands : List (Nat × Command α)) :
    ∃ refusals : List (Option Nat), refusals.length = commands.length ∧
      ∀ moment, Follows (Represents elementSize config) (run (commands.take moment) buffer)
        (replay (Items.step elementSize config)
          ((refusals.zip (commands.map Prod.snd)).take moment) items) := by
  simp only [run]
  exact runAll_follows (fun limit _ _ command h => step_follows limit command h) commands h

theorem Represents.actsAs (h : Represents elementSize config buffer items) :
    ActsAs step (Items.step elementSize config)
      (fun buffer items => buffer.items = items) buffer
      items :=
  actsAs_of_steps (fun limit _ _ command h => step_follows limit command h)
    (fun h => h.items_eq) h

/-- Whatever is done to a new buffer, on whatever heaps: at every moment it meets no fault, has
answered as a plain list, and holds this list. -/
theorem run_refines_list (hsize : 0 < elementSize) (hblock : config.blockSize ≠ 0)
    (commands : List (Nat × Command α)) :
    ∃ fresh : Buffer α, create elementSize config = .ok fresh ∧
      ∃ refusals : List (Option Nat), refusals.length = commands.length ∧
        ∀ moment,
          let run := run (commands.take moment) fresh
          let expected := replay (Items.step elementSize config)
            ((refusals.zip (commands.map Prod.snd)).take moment) []
          run.faults = [] ∧ run.value.result = expected.result ∧
            run.value.state.items = expected.state := by
  have hcreate := @create_of_pos α elementSize config hsize hblock
  rcases run_follows (represents_of_create hcreate) commands with ⟨refusals, hlength, hfollows⟩
  refine ⟨_, hcreate, refusals, hlength, ?_⟩
  intro moment
  have hmoment := hfollows moment
  exact ⟨hmoment.faults_eq, hmoment.result_eq, hmoment.state_related.items_eq⟩

theorem run_refines_list_of_removal :
    let commands : List (Nat × Command Bool) :=
      [(64, .pushBack true), (0, .pushFront false), (0, .remove 1), (0, .remove 1)]
    0 < 4 ∧ ({} : Config).blockSize ≠ 0 ∧
      ∃ fresh : Buffer Bool, create 4 {} = .ok fresh ∧
        (∃ refusals : List (Option Nat), refusals.length = 4 ∧
          ∀ moment,
            let run := run (commands.take moment) fresh
            let expected := replay (Items.step 4 {})
              ((refusals.zip (commands.map Prod.snd)).take moment) []
            run.faults = [] ∧ run.value.result = expected.result ∧
              run.value.state.items = expected.state) ∧
        (run (commands.take 2) fresh).value.state.items = [false, true] ∧
        (run commands fresh).value.result =
          [.done (.ok ()), .done (.ok ()), .taken (.ok true),
            .taken (.error (.indexOutOfBounds 1 1))] ∧
        (run commands fresh).value.state.items = [false] := by
  intro commands
  have hsize : 0 < 4 := by decide
  have hblock : ({} : Config).blockSize ≠ 0 := by decide
  rcases run_refines_list hsize hblock commands with ⟨fresh, hcreate, hrefines⟩
  have hfresh := hcreate
  cases hfresh
  refine ⟨hsize, hblock, _, hcreate, hrefines, ?_, ?_, ?_⟩
  · decide +kernel
  · decide +kernel
  · decide +kernel

end Buffer
end BlockBuffer
