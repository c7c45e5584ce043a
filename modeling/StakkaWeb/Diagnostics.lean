import StakkaWeb.Device
import StakkaWeb.Simulator
import StakkaWeb.Tape

/-!
# The diagnostics page (`DeviceController.probe`)

What a request that got the unit does with it. `0x14` is the only way to read the position and it
clears a latched error, so `probe` sends it only if the status shows none. The second part is for
the specification: where on the tape of a run the carousel latches an error and where it clears one.
-/

set_option autoImplicit false

namespace StakkaWeb

open Lib

/-- `describe_status(st)`. -/
def describeStatus (st : Nat) : String :=
  let names := [(stBusy, "BUSY"), (stDiscWaiting, "DISC_WAITING"), (stNewDiscAck, "NEW_DISC_ACK"),
    (stDiscInBay, "DISC_IN_BAY"), (stAckTimeout, "ACK_TIMEOUT"), (stHomed, "HOMED")].filterMap
      fun (mask, name) => if st &&& mask ≠ 0 then some name else none
  hex 4 st ++ " [" ++ " ".intercalate names ++ "]"

/-- The dictionary that `probe` returns. -/
structure Probe where
  serial : String
  firmware : Option String
  position : Option Nat
  status : String
  deriving DecidableEq, Repr

/-- `probe()`, once the unit is claimed. -/
def probe {σ : Type} [Outside σ] : Py σ Probe := do
  openUnit
  let st ← status
  let latched := st &&& stAckTimeout
  let ds ← Prog.gets fun w => w.ds
  match ds.serial with
  | none => Prog.raise (.typeError "%x format: an integer is required, not NoneType")
  | some serial => do
    let position ← if latched ≠ 0 then pure none else do
      let x1 ← position
      pure (some x1)
    pure ⟨hex 8 serial, ds.firmware, position, describeStatus st⟩

/-! ## Where an error is latched, and where it is cleared -/

/-- What a write has the carousel handle: a command with its arguments, and the carousel it comes
to. -/
def handed : OutsideCall × Sim → Option (Nat × List Nat × Carousel)
  | (.write buf, s) =>
    if s.opened ∧ s.present ∧ buf.getD 1 0 = 0x01 ∧ buf.getD 2 0 = s.car.unit then
      some (buf.getD 4 0, (buf.drop 5).take 5, s.stir.car)
    else none
  | _ => none

/-- The carousel as it is about to run what is due, in a call that has it do so. -/
def running : OutsideCall × Sim → Option Carousel
  | (.read _ timeoutMs, s) =>
    if s.opened then
      some { s.stir.car with now := s.stir.car.now + min timeoutMs Firmware.repeatMs }
    else none
  | x => (handed x).map fun h => h.2.2

/-- An event that falls into the call latches an error: the events that are due leave one behind,
whether or not there was one before. -/
def latches (x : OutsideCall × Sim) : Bool :=
  match running x with
  | some c => ({ c with ackTimeout := false } : Carousel).runDue.ackTimeout
  | none => false

/-- The carousel processes a command of `cmds` in this call. -/
def processes (cmds : List Nat) (x : OutsideCall × Sim) : Bool :=
  match handed x with
  | some (cmd, args, c) => decide (cmd ∈ cmds) && (c.handle cmd args).1.isSome
  | none => false

/-- It reports its status. -/
def asks : OutsideCall × Sim → Bool := processes [0x01]

/-- It processes a command that clears the error. -/
def clears : OutsideCall × Sim → Bool := processes [0x03, 0x04, 0x14]

/-- There is an error once the carousel has run what is due. -/
def erring (x : OutsideCall × Sim) : Bool :=
  match running x with
  | some c => c.runDue.ackTimeout
  | none => false

/-- It processes such a command while there is an error. -/
def wipes (x : OutsideCall × Sim) : Bool := clears x && erring x

/-- With `rest` before it, `x` comes to an error that was latched after the status was first reported,
and not cleared since. -/
def late (since : Bool) (x : OutsideCall × Sim) (rest : List (OutsideCall × Sim)) : Bool :=
  rest.any asks && (since || latches x)

/-- An error was latched after the status was first reported, and was not cleared since. -/
def latchedSince : List (OutsideCall × Sim) → Bool
  | [] => false
  | x :: rest => late (latchedSince rest) x rest && !clears x

/-- **Nothing comes between**: whenever a command clears the error, no event has latched one since
the status was first reported. -/
def Undisturbed : List (OutsideCall × Sim) → Prop
  | [] => True
  | x :: rest => (clears x = true → late (latchedSince rest) x rest = false) ∧ Undisturbed rest

instance Undisturbed.decidable : (tape : List (OutsideCall × Sim)) → Decidable (Undisturbed tape)
  | [] => .isTrue trivial
  | x :: rest =>
    have : Decidable (Undisturbed rest) := decidable rest
    inferInstanceAs (Decidable ((clears x = true → late (latchedSince rest) x rest = false) ∧
      Undisturbed rest))

/-- Looking at the unit left its error alone: no error was cleared, and one that was there at any
moment is there at the end. -/
structure LeftAlone (s : Taped Sim) : Prop where
  cleared : ∀ x ∈ s.tape, wipes x = false
  latched : ∀ x ∈ s.tape, x.2.car.ackTimeout = true → s.inner.car.ackTimeout = true

end StakkaWeb
