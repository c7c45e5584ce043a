import Mathlib.Algebra.Order.Ring.Int
import StakkaWeb.Simulator
import StakkaWeb.Tape

/-!
# A unit found on the bus

`SimulatedTransport.open` always has the unit announce itself. A unit that is found on the bus may
as well be repeating an older reply: `Found raw` is the simulated transport, except that an open
that succeeds leaves the packet `raw` to be repeated.
-/

set_option autoImplicit false

namespace StakkaWeb

def Found (_raw : List Nat) : Type := Sim

/-- The transport of which `Found` changes only the packet. -/
def Found.sim {raw : List Nat} (s : Found raw) : Sim := s

/-- `open()` of such a transport. -/
def Found.opens (raw : List Nat) (s : Sim) : Except Exc Unit × Sim :=
  match s.opens with
  | (.ok (), s) => (.ok (), { s with latched := some raw })
  | (.error e, s) => (.error e, s)

instance (raw : List Nat) : Outside (Found raw) where
  opens := Found.opens raw
  closes := Sim.closes
  isPresent s := (s.sim.present, s)
  read _ := Sim.read
  write := Sim.write
  clock s := (s.sim.car.now, s)
  sleep ms := Outside.sleep (σ := Sim) ms
  cue := Sim.show_

/-- The packets that the unit may be found repeating: its announcement, its reply to `0x1C`, or a
reply to something else, with any id. -/
inductive Repeatable (serial unit : Nat) : List Nat → Prop
  | announced (msgid : Nat) : Repeatable serial unit [0x01, unit, msgid, 0xCC, 0, 0, 0, 0]
  | serial (msgid : Nat) : Repeatable serial unit
      [0x01, unit, msgid, 0x1C, serial >>> 24 &&& 0xFF, serial >>> 16 &&& 0xFF, serial >>> 8 &&& 0xFF,
        serial &&& 0xFF]
  | other (msgid cmd x1 x2 x3 x4 : Nat) (h : cmd ≠ 0xCC) (h' : cmd ≠ 0x1C) :
      Repeatable serial unit [0x01, unit, msgid, cmd, x1, x2, x3, x4]

/-- What the handshake may find: the unit is on the bus, fails to open at most twice, has a 32-bit
serial and a byte for its number, and repeats `raw` once it is open. -/
structure Findable (raw : List Nat) (s : Sim) : Prop where
  present : s.present = true
  failOpens : s.failOpens < 3
  serial : s.car.serial < 2 ^ 32
  unit : s.car.unit ≤ 255
  raw : Repeatable s.car.serial s.car.unit raw

/-- The opcodes that have the unit move, take, return or forget something, or light its LED. -/
def actuating : List Nat := [0x04, 0x05, 0x1D, 0x06, 0x14, 0x03]

/-- A report with such an opcode is written. -/
def Actuates : OutsideCall → Prop
  | .write buf => buf.getD 4 0 ∈ actuating
  | _ => False

end StakkaWeb
