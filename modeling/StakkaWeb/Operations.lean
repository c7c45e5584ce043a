import StakkaWeb.Device

/-!
# The public operations, and the keeper's pass

`Operation` lists the public methods of `DiscStakka`, `DeviceCall` adds `DeviceController.tend`, and
`perform` is a client that makes such calls one after another, whatever any of them raises. What
a method returns is not looked at; the laws that need it speak of the method itself.
-/

set_option autoImplicit false

namespace StakkaWeb

open Lib

/-- A public method of `DiscStakka` with its arguments. -/
inductive Operation where
  | open_
  | reconnect
  | close
  | alive
  | command (cmd : Nat) (args : List Nat) (timeout_ms : Nat)
  | require (cmd : Nat) (args : List Nat)
  | status
  | position
  | waitState (mask want timeout_ms : Nat)
  | waitIdle (timeout_ms : Nat)
  | waitForInsert (timeout_ms : Nat)
  | waitForTake (timeout_ms : Nat)
  | discInBay
  | ensureHomed (progress : Progress)
  | moveTo (slot : Nat) (eject : Bool) (progress : Progress)
  | park (progress : Progress)
  | reset (progress : Progress)
  | ingest (progress : Progress)
  | retract (progress : Progress)
  | setLed (onTime period : Nat)
  deriving DecidableEq, Repr

/-- The methods that may open the handle. -/
def Operation.opens : Operation → Bool
  | open_ | reconnect => true
  | _ => false

variable {σ : Type} [Outside σ]

/-- `set_led(on_time, period)`. -/
def setLed (onTime period : Nat) : Py σ Unit := do
  let _ ← command cmdSetLed [onTime, period] ackMs
  pure ()

/-- A method called for what it does. -/
def ignoring {α : Type} (m : Py σ α) : Py σ Unit := do
  let _ ← m
  pure ()

def Operation.run : Operation → Py σ Unit
  | open_ => openUnit
  | reconnect => StakkaWeb.reconnect
  | close => StakkaWeb.close
  | alive => ignoring StakkaWeb.alive
  | command cmd args timeout_ms => ignoring (StakkaWeb.command cmd args timeout_ms)
  | require cmd args => ignoring (StakkaWeb.require cmd args)
  | status => ignoring StakkaWeb.status
  | position => ignoring StakkaWeb.position
  | waitState mask want timeout_ms => ignoring (StakkaWeb.waitState mask want timeout_ms)
  | waitIdle timeout_ms => ignoring (StakkaWeb.waitIdle timeout_ms)
  | waitForInsert timeout_ms => ignoring (StakkaWeb.waitForInsert timeout_ms)
  | waitForTake timeout_ms => ignoring (StakkaWeb.waitForTake timeout_ms)
  | discInBay => ignoring StakkaWeb.discInBay
  | ensureHomed progress => StakkaWeb.ensureHomed progress
  | moveTo slot eject progress => StakkaWeb.moveTo slot eject progress
  | park progress => StakkaWeb.park progress
  | reset progress => StakkaWeb.reset progress
  | ingest progress => StakkaWeb.ingest progress
  | retract progress => ignoring (StakkaWeb.retract progress)
  | setLed onTime period => StakkaWeb.setLed onTime period

/-- `self._ds.connected and self._ds.alive()`. -/
def reached : Py σ Bool := do
  let connected ← Prog.gets fun w => w.ds.isOpen
  if connected then alive else pure false

/-- The `try` of `DeviceController.tend`, for a pass that got the unit: what `_open_error` is
afterwards, given what it was. Anything that is no `DeviceError` is only printed. -/
def tend (openError : Option Exc) : Py σ (Option Exc) :=
  Prog.attempt
    (do
      let reached ← reached
      if reached then pure none
      else do
        let present ← ofOutside Outside.isPresent
        Prog.when present openUnit
        pure none)
    fun exc => if exc.isDeviceError then pure (some exc) else pure openError

/-- A call on the device: a method, or a pass of the keeper. -/
inductive DeviceCall where
  | method (op : Operation)
  | tend (openError : Option Exc)
  deriving DecidableEq, Repr

/-- A call that may open the handle. -/
def DeviceCall.opens : DeviceCall → Bool
  | method op => op.opens
  | tend _ => true

def DeviceCall.run : DeviceCall → Py σ Unit
  | method op => op.run
  | tend openError => ignoring (StakkaWeb.tend openError)

/-- The calls one after another, whatever any of them raises. -/
def perform : List DeviceCall → Py σ Unit
  | [] => pure ()
  | call :: rest => do
    Prog.attempt call.run fun _ => pure ()
    perform rest

end StakkaWeb
