import StakkaWeb.Outside

/-!
# An outside world with a tape

`Taped σ` does what `σ` does and notes every call, with the state in which it was made, latest
first. What the call came to is what `σ` makes of it there, so the tape holds the whole
conversation. It is for the specification: no modelled function sees it.
-/

set_option autoImplicit false

namespace StakkaWeb

/-- A call on the outside world. -/
inductive OutsideCall where
  | opens
  | closes
  | isPresent
  | read (size timeoutMs : Nat)
  | write (buf : List Nat)
  | clock
  | sleep (ms : Nat)
  | cue (p : Phase)
  deriving DecidableEq, Repr

/-- The reads and writes of the transport. -/
def OutsideCall.transfers : OutsideCall → Bool
  | read _ _ | write _ => true
  | _ => false

structure Taped (σ : Type) where
  inner : σ
  tape : List (OutsideCall × σ)

namespace Taped

variable {σ : Type}

/-- The call is noted, and the world goes on from `inner`. -/
def note (s : Taped σ) (call : OutsideCall) (inner : σ) : Taped σ :=
  ⟨inner, (call, s.inner) :: s.tape⟩

@[simp] theorem note_inner (s : Taped σ) (call : OutsideCall) (inner : σ) :
    (s.note call inner).inner = inner := rfl

@[simp] theorem note_tape (s : Taped σ) (call : OutsideCall) (inner : σ) :
    (s.note call inner).tape = (call, s.inner) :: s.tape := rfl

instance [Outside σ] : Outside (Taped σ) where
  opens s := ((Outside.opens s.inner).1, s.note .opens (Outside.opens s.inner).2)
  closes s := s.note .closes (Outside.closes s.inner)
  isPresent s := ((Outside.isPresent s.inner).1, s.note .isPresent (Outside.isPresent s.inner).2)
  read size timeoutMs s := ((Outside.read size timeoutMs s.inner).1,
    s.note (.read size timeoutMs) (Outside.read size timeoutMs s.inner).2)
  write buf s := ((Outside.write buf s.inner).1, s.note (.write buf) (Outside.write buf s.inner).2)
  clock s := ((Outside.clock s.inner).1, s.note .clock (Outside.clock s.inner).2)
  sleep ms s := s.note (.sleep ms) (Outside.sleep ms s.inner)
  cue p s := s.note (.cue p) (Outside.cue p s.inner)

/-- A tape to be written. -/
def blank (inner : σ) : Taped σ := ⟨inner, []⟩

end Taped

/-! ## The handle, by the tape -/

section Handle

variable {σ : Type} [Outside σ]

/-- A read or write that raised `OSError`, or a write with a negative count. -/
def fails : OutsideCall × σ → Bool
  | (.read size timeoutMs, s) =>
    match (Outside.read size timeoutMs s).1 with
    | .error e => e.isOsError
    | .ok _ => false
  | (.write buf, s) =>
    match (Outside.write buf s).1 with
    | .error e => e.isOsError
    | .ok count => decide (count < 0)
  | _ => false

/-- A write that came back with a negative count. -/
def refused : OutsideCall × σ → Bool
  | (.write buf, s) =>
    match (Outside.write buf s).1 with
    | .error _ => false
    | .ok count => decide (count < 0)
  | _ => false

/-- The transport was opened and not closed since. -/
def held : List (OutsideCall × σ) → Bool
  | [] => false
  | (.opens, s) :: rest =>
    match (Outside.opens s).1 with
    | .ok _ => true
    | .error _ => held rest
  | (.closes, _) :: _ => false
  | _ :: rest => held rest

/-- It was, and nothing has failed on it since. -/
def usable : List (OutsideCall × σ) → Bool
  | [] => false
  | (.opens, s) :: rest =>
    match (Outside.opens s).1 with
    | .ok _ => true
    | .error _ => usable rest
  | (.closes, _) :: _ => false
  | x :: rest => !fails x && usable rest

/-- Every transfer was made on a handle that nothing had failed on, and every open on a transport
that was closed. -/
def Careful : List (OutsideCall × σ) → Prop
  | [] => True
  | x :: rest => (x.1.transfers = true → usable rest = true) ∧
      (x.1 = .opens → held rest = false) ∧ Careful rest

instance Careful.decidable : (tape : List (OutsideCall × σ)) → Decidable (Careful tape)
  | [] => .isTrue trivial
  | x :: rest =>
    have : Decidable (Careful rest) := decidable rest
    inferInstanceAs (Decidable ((x.1.transfers = true → usable rest = true) ∧
      (x.1 = .opens → held rest = false) ∧ Careful rest))

end Handle

end StakkaWeb
