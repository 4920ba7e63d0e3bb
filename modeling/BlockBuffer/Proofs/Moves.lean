import BlockBuffer.Proofs.Lockstep
import BlockBuffer.Proofs.Reservation.Heap
import BlockBuffer.Proofs.Reservation.Shrink

/-!
# Moves of a reservation

Of all that an operation does, its reservation sees one move: room for one more element, one
element less, or nothing at all.  The same moves are made by both kinds of buffer, and the
elements have no part in them.  So whatever holds of the header and of the log along a run of
moves holds along the runs of both.
-/

namespace BlockBuffer

inductive Move where
  | keep
  | refuse (error : BufferError)
  | start (elementSize : Nat)
  | extend
  | reserve (amount : Nat)
  | drop
  | compact
  | release
  /-- The elements are gone, and their slots stay. -/
  | vacate

namespace Move

def guarded {ρ : Type} (check : Result ρ) (move : Move) : Move :=
  match check with
  | .ok _ => move
  | .error error => .refuse error

theorem guarded_map {ρ ν : Type} (f : ρ → ν) (check : Result ρ) (move : Move) :
    guarded (check.map f) move = guarded check move := by
  cases check with
  | ok _ => rfl
  | error _ => rfl

/-- The moves that do not look at the slots. -/
def Idle : Move → Prop
  | keep => True
  | refuse _ => True
  | start _ => True
  | _ => False

end Move

inductive Role where
  | empties
  | inserts
  | reserves
  | compacts
  | other
deriving DecidableEq, Repr

/-- The role of an operation once its answer is known: one that was refused has done nothing.
-/
def Role.played (role : Role) (refusal : Option BufferError) : Role :=
  match refusal with
  | none => role
  | some _ => .other

namespace Move

def role : Move → Role
  | start _ => .empties
  | release => .empties
  | extend => .inserts
  | reserve _ => .reserves
  | compact => .compacts
  | _ => .other

/-- The moves that leave no more slots than the elements call for. -/
def Plain : Move → Prop
  | reserve _ => False
  | vacate => False
  | _ => True

inductive Serves (role : Role) : Move → Prop where
  | refused (error : BufferError) : Serves role (.refuse error)
  | plain {move : Move} : move.Plain → move.role = role → Serves role move

theorem Serves.guarded {role : Role} {move : Move} {ρ : Type} (h : move.Serves role)
    (check : Result ρ) : (Move.guarded check move).Serves role := by
  cases check with
  | ok _ => exact h
  | error error => exact .refused error

theorem Serves.isPlain {role : Role} {move : Move} (h : move.Serves role) : move.Plain := by
  cases h with
  | refused error => exact trivial
  | plain hplain _ => exact hplain

theorem Serves.role_ne_compacts {role : Role} {move : Move} (h : move.Serves role)
    (hne : role ≠ .compacts) : move.role ≠ .compacts := by
  cases h with
  | refused error =>
      intro hrole
      cases hrole
  | plain _ hrole => rwa [hrole]

end Move

def refusal {ρ : Type} : Result ρ → Option BufferError
  | .ok _ => none
  | .error error => some error

theorem refusal_map {ρ ν : Type} (f : ρ → ν) (result : Result ρ) :
    refusal (result.map f) = refusal result := by
  cases result with
  | ok _ => rfl
  | error _ => rfl

def SameRefusal {ρ ν : Type} (left : Result ρ) (right : Result ν) : Prop :=
  refusal left = refusal right

theorem SameRefusal.map_left {ρ ρ' ν : Type} {left : Result ρ} {right : Result ν}
    (h : SameRefusal left right) (f : ρ → ρ') : SameRefusal (left.map f) right :=
  (refusal_map f left).trans h

namespace Reservation

def play (limit : Nat) (r : Reservation) : Move → Traced (Outcome Reservation (Result Unit))
  | .keep => pure { result := .ok (), state := r }
  | .refuse error => pure (.refused error r)
  | .start elementSize =>
      match create elementSize r.config with
      | .error error => pure (.refused error r)
      | .ok fresh => pure { result := .ok (), state := fresh }
  | .extend => do
      match ← r.ensure limit (r.header.length + 1) with
      | .error error => pure (.refused error r)
      | .ok grown => pure { result := .ok (), state := grown.withLength (r.header.length + 1) }
  | .reserve amount => do
      match ← r.reserve limit amount with
      | .error error => pure (.refused error r)
      | .ok grown => pure { result := .ok (), state := grown }
  | .drop => do
      let settled ← (r.withLength (r.header.length - 1)).settle
      pure { result := .ok (), state := settled }
  | .compact => do
      let tight ← r.compact
      pure { result := .ok (), state := tight }
  | .release => do
      let released ← r.release
      pure { result := .ok (), state := released }
  | .vacate => pure { result := .ok (), state := r.withLength 0 }

variable {r : Reservation} {limit slots : Nat}

/-- How a move ends that asks for `length` slots. -/
inductive Obtains (r : Reservation) (length : Nat) :
    Outcome Reservation (Result Unit) → Prop where
  | granted {grown : Reservation} :
      grown.Valid → Obtains r length { result := .ok (), state := grown }
  | refused : Obtains r length (.refused (.allocation (r.demand length)) r)

section Obtains

variable {length : Nat} {outcome : Outcome Reservation (Result Unit)}

theorem Obtains.valid (h : r.Obtains length outcome) (hvalid : r.Valid) :
    outcome.state.Valid := by
  cases h with
  | granted hgrown => exact hgrown
  | refused => exact hvalid

theorem Obtains.of_refused (h : r.Obtains length outcome) {error : BufferError}
    (hrefused : refusal outcome.result = some error) :
    error = .allocation (r.demand length) := by
  cases h with
  | granted _ => cases hrefused
  | refused => exact (Option.some.inj hrefused).symm

end Obtains

theorem obtains_extend (limit : Nat) (hvalid : r.Valid) :
    r.Obtains (r.header.length + 1) (r.play limit .extend).value := by
  have hensured := (ensure_succ limit hvalid rfl).right
  rw [play, Traced.value_bind]
  generalize (r.ensure limit (r.header.length + 1)).value = ensured at hensured ⊢
  cases hensured with
  | refused => exact .refused
  | enough hslots hgrown => exact .granted (hgrown.withLength hslots)

theorem obtains_reserve (limit amount : Nat) (hvalid : r.Valid) :
    r.Obtains (r.header.length + amount) (r.play limit (.reserve amount)).value := by
  have hreserved := suffices_reserve limit amount hvalid
  rw [play, Traced.value_bind]
  generalize (r.reserve limit amount).value = reserved at hreserved ⊢
  cases hreserved with
  | refused => exact .refused
  | enough _ hgrown => exact .granted hgrown

/-- A valid reservation is valid after whatever move. -/
theorem valid_play (limit : Nat) (move : Move) (hvalid : r.Valid) :
    (r.play limit move).value.state.Valid := by
  cases move with
  | keep => exact hvalid
  | refuse error => exact hvalid
  | vacate => exact hvalid.withLength (Nat.zero_le _)
  | start elementSize =>
      rw [play]
      cases hcreate : create elementSize r.config with
      | error error => exact hvalid
      | ok fresh => exact (of_create hcreate).left
  | extend => exact (obtains_extend limit hvalid).valid hvalid
  | reserve amount => exact (obtains_reserve limit amount hvalid).valid hvalid
  | drop =>
      have hshorter := hvalid.withLength (Nat.le_trans (Nat.sub_le _ 1) hvalid.length_le)
      exact valid_settle hshorter
  | compact => exact valid_compact hvalid
  | release =>
      rw [play, release_eq hvalid]
      exact valid_release hvalid

theorem value_play_extend
    (h : (r.ensure limit (r.header.length + 1)).value = .ok (r.withSlots slots)) :
    (r.play limit .extend).value =
      { result := .ok (), state := (r.withSlots slots).withLength (r.header.length + 1) } := by
  rw [play, Traced.value_bind, h]
  rfl

theorem events_play_extend :
    (r.play limit .extend).events = (r.ensure limit (r.header.length + 1)).events := by
  rw [play, Traced.events_bind]
  cases (r.ensure limit (r.header.length + 1)).value with
  | error error => exact List.append_nil _
  | ok grown => exact List.append_nil _

end Reservation
end BlockBuffer
