import BlockBuffer.Proofs.Histories
import BlockBuffer.Proofs.Kinds
import BlockBuffer.Proofs.Reservation.Era

/-!
# Slots follow the length

As long as no slots are reserved ahead and no cleanup is broken off, a run leaves no more slots
than one length of it calls for.  Which length that is depends on the policy, and nothing else
of the run matters: the order of insertions and removals leaves no trace, unless an attempt to
grow was refused or slack was dropped.
-/

namespace BlockBuffer

/-!
## What is read off a run
-/

namespace Reading

variable {σ κ ρ : Type} (reading : Reading σ κ ρ)

def note (era : Era) (entry : Entry σ κ ρ) : Era :=
  era.after ((reading.role entry.command).played (reading.refusal entry.reply))
    (reading.header entry.after).length

variable (commands : List (Nat × κ)) (start : σ)

def era : Era :=
  (history reading.step commands start).foldl reading.note {}

def last : Header :=
  reading.header (runAll reading.step commands start).value.state

/-- The length whose capacity bounds the slots after a run: the last one if removals give slots
back, and the greatest one since the last initialization or cleanup if they do not. -/
def measure (config : Config) : Nat :=
  config.measure (reading.era commands start) (reading.last commands start).length

/-- No slots are reserved ahead, and no cleanup is broken off. -/
def Plain : Prop :=
  ∀ entry ∈ history reading.step commands start,
    reading.role entry.command ≠ .reserves ∧ reading.interrupted entry.reply = false

/-- No slack is dropped, and no attempt to grow is refused, which would leave a warning. -/
def Calm : Prop :=
  ∀ entry ∈ history reading.step commands start,
    reading.role entry.command ≠ .compacts ∧ ∀ event ∈ entry.step.events, event.level ≠ .warn

instance : Decidable (reading.Plain commands start) :=
  inferInstanceAs (Decidable (∀ entry ∈ history reading.step commands start, _))

instance : Decidable (reading.Calm commands start) :=
  inferInstanceAs (Decidable (∀ entry ∈ history reading.step commands start, _ ∧
    ∀ event ∈ _, _))

/-- A plain and calm run that has put in an element since the last initialization or cleanup.
-/
structure Settled : Prop where
  plain : reading.Plain commands start
  calm : reading.Calm commands start
  filled : (reading.era commands start).filled = true

structure Tight (config : Config) : Prop where
  faults_eq : (runAll reading.step commands start).faults = []
  reserved_le : (reading.last commands start).reserved ≤
    config.recommended (reading.measure commands start config)
  waste_lt : config.shrink ≠ .deferred →
    (reading.last commands start).reserved ≤ config.minCapacity.toNat ∨
      (reading.last commands start).reserved <
        (reading.last commands start).length + config.blockSize.toNat
  reserved_eq : reading.Settled commands start → (reading.last commands start).reserved =
    config.recommended (reading.measure commands start config)
  reserved_unique : reading.Settled commands start → ∀ others, reading.Settled others start →
    reading.measure commands start config = reading.measure others start config →
      (reading.last commands start).reserved = (reading.last others start).reserved

end Reading

/-!
## One step
-/

namespace Kind

variable {σ κ ρ : Type} {kind : Kind σ κ ρ} {limit : Nat} {state : σ} {command : κ}
  {commands : List (Nat × κ)} {r : Reservation} {era : Era}

theorem played_eq (hkeeps : kind.keeps state r)
    (hserves : (kind.move state command).Serves (kind.role command)) :
    (kind.role command).played (kind.refusal (kind.step limit state command).value.result) =
      (kind.move state command).role.played
        (refusal (r.play limit (kind.move state command)).value.result) := by
  rw [(kind.plays limit hkeeps command).agree]
  generalize kind.move state command = move at hserves ⊢
  cases hserves with
  | refused error => rfl
  | plain _ hrole => rw [hrole]

theorem note_eq (hkeeps : kind.keeps state r)
    (hserves : (kind.move state command).Serves (kind.role command)) (era : Era) :
    kind.note era
        { before := state, command := command, step := kind.step limit state command } =
      era.after
        ((kind.move state command).role.played
          (refusal (r.play limit (kind.move state command)).value.result))
        (r.play limit (kind.move state command)).value.state.header.length := by
  have hheader := kind.header_eq (kind.plays limit hkeeps command).state_related
  rw [← hheader, ← played_eq hkeeps hserves]
  rfl

def Bounded (kind : Kind σ κ ρ) (state : σ) (era : Era) : Prop :=
  ∃ r, kind.keeps state r ∧ r.Within era

def Fitted (kind : Kind σ κ ρ) (state : σ) (era : Era) : Prop :=
  ∃ r, kind.keeps state r ∧ r.Within era ∧ r.Exact era

theorem bounded_step (h : kind.Bounded state era) (hreserves : kind.role command ≠ .reserves)
    (hwhole : kind.interrupted (kind.step limit state command).value.result = false) :
    kind.Bounded (kind.step limit state command).value.state
      (kind.note era
        { before := state, command := command, step := kind.step limit state command }) := by
  rcases h with ⟨r, hkeeps, hwithin⟩
  have hserves := kind.serves limit hkeeps command hreserves hwhole
  refine ⟨_, (kind.plays limit hkeeps command).state_related, ?_⟩
  rw [note_eq hkeeps hserves]
  exact hwithin.play (kind.valid_or_idle hkeeps command) hserves.isPlain

theorem fitted_step (h : kind.Fitted state era) (hreserves : kind.role command ≠ .reserves)
    (hwhole : kind.interrupted (kind.step limit state command).value.result = false)
    (hcompact : kind.role command ≠ .compacts)
    (hcalm : ∀ event ∈ (kind.step limit state command).events, event.level ≠ .warn) :
    kind.Fitted (kind.step limit state command).value.state
      (kind.note era
        { before := state, command := command, step := kind.step limit state command }) := by
  rcases h with ⟨r, hkeeps, hwithin, hexact⟩
  have hserves := kind.serves limit hkeeps command hreserves hwhole
  have hplays := kind.plays limit hkeeps command
  have hvalid := kind.valid_or_idle hkeeps command
  refine ⟨_, hplays.state_related, ?_, ?_⟩
  · rw [note_eq hkeeps hserves]
    exact hwithin.play hvalid hserves.isPlain
  · rw [note_eq hkeeps hserves]
    apply hexact.play hwithin hvalid hserves.isPlain (hserves.role_ne_compacts hcompact)
    intro event hmem hwarn
    exact hcalm event (hplays.mem_left hmem (Event.ofReservation_of_warn hwarn)) hwarn

/-!
## Whole runs
-/

theorem bounded_run (h : kind.Bounded state {}) (hplain : kind.Plain commands state) :
    kind.Bounded (runAll kind.step commands state).value.state (kind.era commands state) :=
  runAll_notes (fun _ _ _ _ hgood hbounded => bounded_step hbounded hgood.left hgood.right)
    commands h hplain

theorem fitted_run (h : kind.Fitted state {}) (hplain : kind.Plain commands state)
    (hcalm : kind.Calm commands state) :
    kind.Fitted (runAll kind.step commands state).value.state (kind.era commands state) :=
  runAll_notes
    (fun _ _ _ _ hgood hfitted =>
      fitted_step hfitted hgood.left.left hgood.left.right hgood.right.left hgood.right.right)
    commands h fun entry hmem => And.intro (hplain entry hmem) (hcalm entry hmem)

theorem reserved_eq_of_settled (h : kind.Fitted state {})
    (hsettled : kind.Settled commands state) :
    (kind.last commands state).reserved =
      kind.config.recommended (kind.measure commands state kind.config) := by
  rcases fitted_run h hsettled.plain hsettled.calm with ⟨r, hkeeps, _, hexact⟩
  have hreserved := hexact.filled hsettled.filled
  rw [kind.config_eq hkeeps, ← kind.header_eq hkeeps] at hreserved
  exact hreserved

theorem tight_run (hblock : kind.config.blockSize ≠ 0) (hkeeps : kind.keeps state r)
    (hlength : r.header.length = 0) (hreserved : r.header.reserved = 0)
    (hplain : kind.Plain commands state) : kind.Tight commands state kind.config := by
  have hnew : kind.Fitted state {} :=
    ⟨r, hkeeps, Reservation.within_new hlength hreserved, Reservation.exact_new hreserved⟩
  have hbound : (kind.last commands state).reserved ≤
      kind.config.recommended (kind.measure commands state kind.config) := by
    rcases bounded_run ⟨r, hkeeps, Reservation.within_new hlength hreserved⟩ hplain with
      ⟨final, hfinal, hwithin⟩
    have hle := hwithin.reserved_le
    rw [kind.config_eq hfinal, ← kind.header_eq hfinal] at hle
    exact hle
  constructor
  · exact faults_runAll hkeeps commands
  · exact hbound
  · intro hshrinks
    have hcounts : kind.measure commands state kind.config =
        (kind.last commands state).length := by
      unfold Reading.measure Config.measure
      cases hpolicy : kind.config.shrink with
      | deferred => exact absurd hpolicy hshrinks
      | lazy => rfl
      | eager => rfl
    rw [hcounts] at hbound
    rcases Nat.lt_or_ge kind.config.minCapacity.toNat (kind.last commands state).length with
      hlong | hshort
    · exact Or.inr (Nat.lt_of_le_of_lt hbound
        (kind.config.recommended_lt_add_blockSize hblock hlong))
    · rw [kind.config.recommended_of_le hshort] at hbound
      exact Or.inl hbound
  · exact reserved_eq_of_settled hnew
  · intro hsettled others hothers hsame
    rw [reserved_eq_of_settled hnew hsettled, reserved_eq_of_settled hnew hothers, hsame]

end Kind

/-!
## Both kinds of buffer
-/

/-- A plain run from the creation of a buffer of either kind leaves the slots that its length
calls for. -/
theorem slots_follow_the_length (config : Config) (hblock : config.blockSize ≠ 0) :
    (∀ commands : List (Nat × ByteBuffer.Command),
      ByteBuffer.reading.Plain commands { config := config } →
      ByteBuffer.reading.Tight commands { config := config } config) ∧
    ∀ (α : Type) (elementSize : Nat) (fresh : Buffer α)
      (commands : List (Nat × Buffer.Command α)),
      Buffer.create elementSize config = .ok fresh → (Buffer.reading α).Plain commands fresh →
      (Buffer.reading α).Tight commands fresh config := by
  constructor
  · intro commands hplain
    exact (ByteBuffer.kind config).tight_run hblock .uninitialized rfl rfl hplain
  · intro α elementSize fresh commands hcreate hplain
    have hkeeps := (Buffer.represents_of_create hcreate).keeps
    have hheader := Buffer.header_of_create hcreate
    exact (Buffer.kind α elementSize config).tight_run hblock hkeeps
      (congrArg Header.length hheader) (congrArg Header.reserved hheader) hplain

theorem slots_follow_the_length_down_again :
    let config : Config := { minCapacity := 1, blockSize := 2, shrink := .lazy }
    let fresh : Buffer Bool :=
      { items := [], reservation := { header := .unreserved 4, config := config } }
    let commands : List (Nat × Buffer.Command Bool) :=
      [(20, .pushBack true), (20, .pushFront false), (20, .insert 1 true),
        (20, .pushBack false),
        (0, .popFront), (0, .get 0)]
    config.blockSize ≠ 0 ∧ Buffer.create 4 config = .ok fresh ∧
      (Buffer.reading Bool).Settled commands fresh ∧
      (Buffer.reading Bool).last (commands.take 4) fresh = ⟨4, 4, 5, 52⟩ ∧
      ((Buffer.reading Bool).last commands fresh).reserved = 3 := by
  intro config fresh commands
  have hblock : config.blockSize ≠ 0 := by decide
  have hplain : (Buffer.reading Bool).Plain commands fresh := by decide +kernel
  have hcalm : (Buffer.reading Bool).Calm commands fresh := by decide +kernel
  have hsettled : (Buffer.reading Bool).Settled commands fresh :=
    ⟨hplain, hcalm, by decide +kernel⟩
  have hgrown : (Buffer.reading Bool).last (commands.take 4) fresh = ⟨4, 4, 5, 52⟩ := by
    decide +kernel
  have htight := (slots_follow_the_length config hblock).right Bool 4 fresh commands rfl hplain
  have hmeasure : (Buffer.reading Bool).measure commands fresh config = 3 := by decide +kernel
  have hrecommended : config.recommended 3 = 3 := by decide
  have hreserved := htight.reserved_eq hsettled
  rw [hmeasure, hrecommended] at hreserved
  exact ⟨hblock, rfl, hsettled, hgrown, hreserved⟩

end BlockBuffer
