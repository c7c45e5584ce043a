import Mathlib.Data.Finset.Insert
import Mathlib.Data.Finset.Erase
import StakkaWeb.Lib.Agenda
import StakkaWeb.Wire

/-!
# The carousel (`simulator.py`, the class `Carousel`)

The firmware's own view of the machine, on the virtual clock of the tests. The closures that the
source pushes on its heap are the constructors of `CarouselEvent`, and `fire` is what each does.
The opcodes, status bits and timings are written out here as they are there, not taken from
`Wire`, which embeds `protocol.py`.

`rolls` stands for `random.random() < blip_chance`: for every opcode the rolls still to come.
`turns`, `takes`, `ingested` and `putOut` are for the specification, and no other field depends on
them.
-/

set_option autoImplicit false

namespace StakkaWeb

open Lib

/-! ## Opcodes and status bits, the firmware's own -/

namespace Firmware

def alwaysAnswered : List Nat := [0x01, 0x1A, 0x1B, 0x1C]

def busyIdle : Nat := 0x0080
def busyWorking : Nat := 0x8000
def discWaiting : Nat := 0x1000
def newDiscAck : Nat := 0x0800
def discInBay : Nat := 0x0400
def ackTimeout : Nat := 0x0200
def unknown : Nat := 0x4000
def retracted : Nat := 0x0100
def homed : Nat := 0x0001

def repeatMs : Nat := 143
def seekBaseMs : Nat := 1500
def seekPerSlotMs : Nat := 56
def blipForMs : Nat := 300
def apertureMs : Nat := 1500
def settleMs : Nat := 1800
def ingestMs : Nat := 1800
def pushMs : Nat := 500
def bayMs : Nat := 1200
def takeMs : Nat := 900
def retractMs : Nat := 3600
def retractBayMs : Nat := 1800
def ackWindowMs : Nat := 10000

end Firmware

/-- What is pushed on `_events`. -/
inductive CarouselEvent where
  /-- `_disc_arrives`: a human feeds a disc into the aperture. -/
  | discArrives
  /-- `taken`: a human takes the disc from the bay. -/
  | taken
  /-- `_disc_drawn_off` -/
  | discDrawnOff
  /-- `_ack_expired` -/
  | ackExpired
  /-- `arrived` of `_cmd_04` -/
  | arrived (target : Nat) (presenting : Bool)
  /-- `back_in_slot` of `_cmd_05` -/
  | backInSlot
  /-- `settled` of `_cmd_05` -/
  | settled
  /-- `stored` of `_cmd_1d` -/
  | stored (slot : Nat)
  deriving DecidableEq, Repr

/-- An accepted `0x04`, for the specification: its target, and what `discInBay` and `putOut` were at
that moment. -/
structure Turn where
  target : Nat
  bay : Bool
  putOut : Bool
  deriving DecidableEq, Repr

structure Carousel where
  /-- The virtual clock, in milliseconds. -/
  now : Nat
  occupied : Finset Nat
  serial : Nat
  unit : Nat
  position : Nat
  homed : Bool
  discWaiting : Bool
  newDiscAck : Bool
  discInBay : Bool
  ackTimeout : Bool
  retracted : Bool
  unknownBit : Bool
  blips : Bool
  rolls : Nat → Nat → Bool
  busyUntil : Nat
  working : Bool
  events : Agenda CarouselEvent
  log : List (Nat × List Nat)
  dropped : List (Nat × List Nat)
  turns : List Turn
  /-- Whether the bay held a disc, at each take. -/
  takes : List Bool
  /-- The slots a disc was taken in for: `0x1D` heard with `NEW_DISC_ACK` set. -/
  ingested : List Nat
  /-- `_ack_expired` has put a disc back out since a `0x01` was last answered with the bay clear. -/
  putOut : Bool

namespace Carousel

/-- `Carousel(clock, occupied, serial, unit)`, at the time `now` of its clock. -/
def new (now : Nat) (occupied : Finset Nat) (serial unit : Nat) : Carousel where
  now := now
  occupied := occupied
  serial := serial
  unit := unit
  position := 0
  homed := false
  discWaiting := false
  newDiscAck := false
  discInBay := false
  ackTimeout := false
  retracted := false
  unknownBit := false
  blips := false
  rolls := fun _ _ => false
  busyUntil := 0
  working := true
  events := .empty
  log := []
  dropped := []
  turns := []
  takes := []
  ingested := []
  putOut := false

/-! ## Time -/

/-- `at(when_ms, fn)`. -/
def at_ (whenMs : Nat) (e : CarouselEvent) (c : Carousel) : Carousel :=
  { c with events := c.events.push whenMs e }

/-- `after(delay_ms, fn)`. -/
def after (delayMs : Nat) (e : CarouselEvent) (c : Carousel) : Carousel :=
  c.at_ (c.now + delayMs) e

/-- `_work_for(ms, working)`. -/
def workFor (ms : Nat) (working : Bool) (c : Carousel) : Carousel :=
  { c with busyUntil := max c.busyUntil (c.now + ms), working }

def busy (c : Carousel) : Bool := decide (c.now < c.busyUntil)

/-! ## State -/

/-- `if set: st |= bit`. -/
def flag (set : Bool) (bit : Nat) : Nat := if set then bit else 0

/-- `status()`, in the order in which the source sets the bits. -/
def status (c : Carousel) : Nat :=
  flag c.busy (if c.working then Firmware.busyIdle ||| Firmware.busyWorking
      else Firmware.busyIdle)
    ||| flag c.discWaiting Firmware.discWaiting
    ||| flag c.newDiscAck Firmware.newDiscAck
    ||| flag c.discInBay Firmware.discInBay
    ||| flag c.ackTimeout Firmware.ackTimeout
    ||| flag c.retracted Firmware.retracted
    ||| flag c.unknownBit Firmware.unknown
    ||| flag c.homed Firmware.homed

/-- `abs(a - b)`. -/
def absDiff (a b : Nat) : Nat := (a - b) + (b - a)

def seekMs (target : Nat) (c : Carousel) : Nat :=
  Firmware.seekBaseMs + Firmware.seekPerSlotMs * absDiff target c.position

/-! ## The physical half -/

/-- What each event does when it is due. -/
def fire : CarouselEvent → Carousel → Carousel
  | .discArrives, c =>
    ({ c with discWaiting := true }.workFor Firmware.apertureMs true).after
      Firmware.apertureMs .discDrawnOff
  | .taken, c =>
    { c with discInBay := false, ackTimeout := true, takes := c.discInBay :: c.takes }.workFor
      Firmware.takeMs true
  | .discDrawnOff, c =>
    let c := { c with discWaiting := false, newDiscAck := true }.workFor Firmware.settleMs true
    c.at_ (c.now + Firmware.settleMs + Firmware.ackWindowMs) .ackExpired
  | .ackExpired, c =>
    if !c.newDiscAck then c
    else
      { c with newDiscAck := false, ackTimeout := true, discInBay := true, putOut := true }.workFor
        Firmware.bayMs true
  | .arrived target presenting, c =>
    if presenting then
      { c with position := target, homed := true, occupied := c.occupied.erase target,
               discInBay := true }
    else { c with position := target, homed := true }
  | .backInSlot, c =>
    if c.discInBay then
      { c with discInBay := false, occupied := insert c.position c.occupied }.after
        (Firmware.retractMs - Firmware.retractBayMs) .settled
    else c
  | .settled, c => { c with retracted := true }
  | .stored slot, c => { c with occupied := insert slot c.occupied }

instance : Driven Carousel CarouselEvent where
  now := now
  agenda := events
  withAgenda := fun a c => { c with events := a }
  fire := fire

/-- `_run_due()`. -/
def runDue (c : Carousel) : Carousel := Driven.runDue c

/-! ## Opcodes -/

def statusReply (c : Carousel) : List Nat :=
  [c.position, c.status >>> 8 &&& 0xFF, c.status &&& 0xFF, 0]

def cmd03 (c : Carousel) : List Nat × Carousel :=
  ([0, 0, 0, 0], { c with ackTimeout := false })

def cmd04 (args : List Nat) (c : Carousel) : List Nat × Carousel :=
  let target := args.getD 0 0
  let presenting := decide (args.getD 1 0 ≠ 0 ∧ target ∈ c.occupied)
  let travel := c.seekMs target + if presenting then Firmware.pushMs else 0
  let c := { c with turns := c.turns ++ [Turn.mk target c.discInBay c.putOut] }
  let c := c.workFor (travel + if presenting then Firmware.bayMs else 0) true
  let c := { c with ackTimeout := false, retracted := false }.after travel
    (.arrived target presenting)
  (c.statusReply, c)

def cmd05 (c : Carousel) : List Nat × Carousel :=
  ([0, 0, 0, 0],
    (c.workFor Firmware.retractMs true).after Firmware.retractBayMs .backInSlot)

def cmd14 (c : Carousel) : List Nat × Carousel :=
  let c := { c with ackTimeout := false }
  (c.statusReply, c)

def cmd1c (c : Carousel) : List Nat × Carousel :=
  ([c.serial >>> 24 &&& 0xFF, c.serial >>> 16 &&& 0xFF, c.serial >>> 8 &&& 0xFF, c.serial &&& 0xFF], c)

def cmd1d (c : Carousel) : List Nat × Carousel :=
  if !c.newDiscAck then (c.statusReply, c)
  else
    let c := { c with newDiscAck := false, ingested := c.position :: c.ingested }.workFor
      Firmware.ingestMs true
    let c := c.after Firmware.ingestMs (.stored c.position)
    (c.statusReply, c)

/-- The handler that `getattr(self, "_cmd_%02x" % cmd)` finds, or the status reply. -/
def dispatch (cmd : Nat) (args : List Nat) (c : Carousel) : List Nat × Carousel :=
  if cmd = 0x01 then (c.statusReply, { c with putOut := c.putOut && c.discInBay })
  else if cmd = 0x03 then c.cmd03
  else if cmd = 0x04 then c.cmd04 args
  else if cmd = 0x05 then c.cmd05
  else if cmd = 0x14 then c.cmd14
  else if cmd = 0x1A then ([0x01, 0x04, 0x23, 0x17], c)
  else if cmd = 0x1B then ([0x00, 0x02, 0x00, 0x79], c)
  else if cmd = 0x1C then c.cmd1c
  else if cmd = 0x1D then c.cmd1d
  else (c.statusReply, c)

/-- `self.dropped.append((cmd, args)); return None`. -/
def drop (cmd : Nat) (args : List Nat) (c : Carousel) : Option (List Nat) × Carousel :=
  (none, { c with dropped := c.dropped ++ [(cmd, args)] })

/-- The rolls left after one for `cmd`. -/
def roll (cmd : Nat) (c : Carousel) : Carousel :=
  { c with rolls := fun k i => if k = cmd then c.rolls k (i + 1) else c.rolls k i }

/-- A command that the unit hears, busy and blips aside. -/
def hear (cmd : Nat) (args : List Nat) (c : Carousel) : Option (List Nat) × Carousel :=
  if cmd = 0x04 ∧ args.getD 0 0 ≠ 0 ∧ c.homed = false then c.drop cmd args
  else
    let r := dispatch cmd args { c with log := c.log ++ [(cmd, args)] }
    (some r.1, r.2)

/-- What `handle` does after its `_run_due`. -/
def serve (cmd : Nat) (args : List Nat) (c : Carousel) : Option (List Nat) × Carousel :=
  if c.busy ∧ cmd ∉ Firmware.alwaysAnswered then c.drop cmd args
  else if c.blips ∧ cmd ∉ Firmware.alwaysAnswered then
    if c.rolls cmd 0 then ((c.roll cmd).workFor Firmware.blipForMs false).drop cmd args
    else (c.roll cmd).hear cmd args
  else c.hear cmd args

/-- `handle(msgid, cmd, args)`; the message id plays no part in it. -/
def handle (cmd : Nat) (args : List Nat) (c : Carousel) : Option (List Nat) × Carousel :=
  c.runDue.serve cmd args

end Carousel

end StakkaWeb
