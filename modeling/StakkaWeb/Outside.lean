import StakkaWeb.Wire

/-!
# The outside world

Everything the program meets beyond itself and its database: the transport interface that
`HidTransport` and `SimulatedTransport` both implement, the clock behind `time.monotonic`, and
the person who watches the job page. A type with an `Outside` instance is one such world, its
elements the states it can be in; a statement over every instance is a statement about every
behaviour of the unit.
-/

set_option autoImplicit false

namespace StakkaWeb

/-- The exceptions the modelled code raises or meets, each with its text. -/
inductive Exc where
  /-- `protocol.NotConnected`, a `DeviceError`. -/
  | notConnected (msg : String)
  /-- `protocol.DeviceError` itself. -/
  | deviceError (msg : String)
  /-- `OSError`; `IOError` is the same class. -/
  | osError (msg : String)
  | valueError (msg : String)
  | typeError (msg : String)
  /-- `sqlite3.IntegrityError`, a `sqlite3.Error`. -/
  | integrityError (msg : String)
  /-- Any other `sqlite3.Error`. -/
  | sqliteError (msg : String)
  deriving DecidableEq, Repr

namespace Exc

/-- `str(exc)`. -/
def text : Exc → String
  | notConnected m | deviceError m | osError m | valueError m | typeError m
  | integrityError m | sqliteError m => m

/-- Caught by `except DeviceError`. -/
def isDeviceError : Exc → Bool
  | notConnected _ | deviceError _ => true
  | _ => false

/-- Caught by `except (IOError, OSError)`. -/
def isOsError : Exc → Bool
  | osError _ => true
  | _ => false

/-- Caught by `except sqlite3.Error`. -/
def isSqliteError : Exc → Bool
  | integrityError _ | sqliteError _ => true
  | _ => false

end Exc

/-- The phases of a job. -/
inductive Phase where
  | moving
  | awaitingInsert
  | ingesting
  | presented
  | parking
  | retracting
  | done
  | failed
  deriving DecidableEq, Repr

/-- `jobs.TERMINAL`. -/
def Phase.terminal : Phase → Bool
  | done | failed => true
  | _ => false

/-- An outside world over the states `σ`. -/
class Outside (σ : Type) where
  /-- `open()` of the transport. -/
  opens : σ → Except Exc Unit × σ
  /-- `close()`, which raises in neither transport. -/
  closes : σ → σ
  /-- `present()`: a unit is on the bus. -/
  isPresent : σ → Bool × σ
  /-- `read(size, timeout_ms)`; an empty report stands for `None` and for `[]`. -/
  read : Nat → Nat → σ → Except Exc (List Nat) × σ
  /-- `write(buf)`: a count, negative on failure. -/
  write : List Nat → σ → Except Exc Int × σ
  /-- `int(time.monotonic() * 1000)`. -/
  clock : σ → Nat × σ
  /-- `time.sleep`, in milliseconds. -/
  sleep : Nat → σ → σ
  /-- The job page shows a new phase; the person in front of the unit may act on it. -/
  cue : Phase → σ → σ

end StakkaWeb
