import StakkaWeb.Orders

/-!
# The transport to the real unit (`HidTransport`, `_open` and `_enumerate` in `transport.py`)

hidapi is not part of the repository: a type with a `HidLibrary` instance is one way in which the
library and the bus may behave, its elements the states they can be in. `HidTransport` is the code over
it, and one more outside world for everything that is written against the transport interface. On
which thread a call is made is not looked at here.
-/

set_option autoImplicit false

namespace StakkaWeb

open Lib

/-- hidapi and the bus, over the states `κ`. Every device object that is made has its number. -/
class HidLibrary (κ : Type) where
  /-- `import hid`, or the text of an `ImportError`. -/
  load : κ → Except String Unit × κ
  /-- `hid.enumerate(VID, PID)`: whether the list has an entry. -/
  enumerate : κ → Except Exc Bool × κ
  /-- `dev.open(VID, PID)` -/
  openDevice : Nat → κ → Except Exc Unit × κ
  readDevice : Nat → Nat → Nat → κ → Except Exc (List Nat) × κ
  writeDevice : Nat → List Nat → κ → Except Exc Int × κ
  closeDevice : Nat → κ → Except Exc Unit × κ
  clock : κ → Nat × κ
  sleep : Nat → κ → κ
  cue : Phase → κ → κ

/-- What the transport does with a device, for the specification. -/
inductive HidCall where
  | opened (device : Nat)
  | read (device : Nat)
  | wrote (device : Nat)
  | closed (device : Nat)
  /-- `None.read` or `None.write` -/
  | missed
  deriving DecidableEq, Repr

/-- `dev` is `_dev`. For the specification: how many device objects were made, and the calls on
them, the latest first. -/
structure HidTransport (κ : Type) where
  hid : κ
  dev : Option Nat
  made : Nat
  calls : List HidCall

namespace HidTransport

variable {κ : Type}

/-- A transport as `__init__` leaves it. -/
def new (hid : κ) : HidTransport κ := ⟨hid, none, 0, []⟩

variable [HidLibrary κ]

/-- `_open()`, and what `open` does with the device. -/
def openHid (s : HidTransport κ) : Except Exc Unit × HidTransport κ :=
  match HidLibrary.load s.hid with
  | (.error text, hid) => (.error (.osError ("hidapi is not installed: " ++ text)), { s with hid })
  | (.ok _, hid) =>
    -- The list is refreshed; what comes of that is not looked at.
    match HidLibrary.openDevice s.made (HidLibrary.enumerate hid).2 with
    | (.error e, hid) => (.error e, { s with hid, made := s.made + 1 })
    | (.ok _, hid) =>
      (.ok (), ⟨hid, some s.made, s.made + 1, .opened s.made :: s.calls⟩)

/-- `close()`; what the library raises is passed over. -/
def closeHid (s : HidTransport κ) : HidTransport κ :=
  match s.dev with
  | none => s
  | some device =>
    { s with hid := (HidLibrary.closeDevice device s.hid).2, dev := none,
             calls := .closed device :: s.calls }

/-- `present()`, by `_enumerate()`. -/
def presentHid (s : HidTransport κ) : Bool × HidTransport κ :=
  match HidLibrary.load s.hid with
  | (.error _, hid) => (false, { s with hid })
  | (.ok _, hid) =>
    match HidLibrary.enumerate hid with
    | (.error _, hid) => (false, { s with hid })
    | (.ok here, hid) => (here, { s with hid })

/-- A call on `_dev`. On `None` it is an `AttributeError`, which nothing that meets it tells from a
`TypeError`. -/
def onDevice {α : Type} (s : HidTransport κ) (name : String) (call : Nat → HidCall)
    (f : Nat → κ → Except Exc α × κ) : Except Exc α × HidTransport κ :=
  match s.dev with
  | none => (.error (.typeError ("'NoneType' object has no attribute '" ++ name ++ "'")),
      { s with calls := .missed :: s.calls })
  | some device =>
    ((f device s.hid).1, { s with hid := (f device s.hid).2, calls := call device :: s.calls })

instance : Outside (HidTransport κ) where
  opens := openHid
  closes := closeHid
  isPresent := presentHid
  read size timeoutMs s :=
    s.onDevice "read" .read fun device => HidLibrary.readDevice device size timeoutMs
  write buf s := s.onDevice "write" .wrote fun device => HidLibrary.writeDevice device buf
  clock s := ((HidLibrary.clock s.hid).1, { s with hid := (HidLibrary.clock s.hid).2 })
  sleep ms s := { s with hid := HidLibrary.sleep ms s.hid }
  cue p s := { s with hid := HidLibrary.cue p s.hid }

end HidTransport

/-- A bus on which the first device is stale: it opens, and cannot be read. The next ones belong to a
unit that repeats its serial, once a second. -/
structure Stale where
  now : Nat

instance : HidLibrary Stale where
  load s := (.ok (), s)
  enumerate s := (.ok true, s)
  openDevice _ s := (.ok (), s)
  readDevice device _ _ s :=
    if device = 0 then (.error (.osError "read error"), s)
    else (.ok [0x01, 0, 0, cmdGetSerial, 0, 0, 0, 1], ⟨s.now + 1000⟩)
  writeDevice _ buf s := (.ok buf.length, s)
  closeDevice _ s := (.error (.osError "close error"), s)
  clock s := (s.now, s)
  sleep ms s := ⟨s.now + ms⟩
  cue _ s := s

/-! ## Every access, one after another -/

/-- Accesses in turn, whatever any of them raises, each with the job that is then in the world. -/
def inTurn {σ : Type} [Outside σ] : List (Job × Access) → Py σ Unit
  | [] => pure ()
  | (job, access) :: rest => do
    modifyJob fun _ => job
    Prog.attempt access.run fun _ => pure ()
    inTurn rest

/-! ## The life of a device -/

/-- The device that is open after these calls. -/
def inUse : List HidCall → Option Nat
  | [] => none
  | .opened device :: _ => some device
  | .closed _ :: _ => none
  | _ :: rest => inUse rest

/-- A device is opened once, when none is open, and read, written and closed while it is the one
that is open; so it is closed at most once, and not touched after that. -/
def Proper : List HidCall → Prop
  | [] => True
  | .opened device :: rest => inUse rest = none ∧ .opened device ∉ rest ∧ Proper rest
  | .read device :: rest | .wrote device :: rest | .closed device :: rest =>
    inUse rest = some device ∧ Proper rest
  | .missed :: _ => False

/-- How the transport and its client stand to the devices. -/
structure Custody {κ : Type} (w : World (HidTransport κ)) : Prop where
  proper : Proper w.io.calls
  /-- Every device that was opened is closed, unless it is `_dev`. -/
  closed : ∀ device, .opened device ∈ w.io.calls →
    .closed device ∈ w.io.calls ∨ w.io.dev = some device
  current : w.io.dev = inUse w.io.calls
  connected : w.ds.isOpen = w.io.dev.isSome

end StakkaWeb
