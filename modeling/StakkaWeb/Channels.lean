import StakkaWeb.Protocol

/-!
# The wire as two channels

The transport as what lies between the host and the unit: commands on their way in, reports on
their way out, each channel first in, first out with any delay. The unit takes the commands in
order, drops or processes each, and repeats its reply to the last one it processed. `script` is
the interleaving: what the unit does before each of the host's calls, which reads time out, and
what the clock shows.

Every write and every report carries the number of the write it stems from, for the
specification; `reused` and `credits` are for the specification as well.
-/

set_option autoImplicit false

namespace StakkaWeb

open Lib

/-- A command on its way to the unit. -/
structure Sent where
  /-- Which of the host's writes it is. -/
  origin : Nat
  unit : Nat
  msgid : Nat
  cmd : Nat
  args : List Nat
  deriving DecidableEq, Repr

/-- A report on its way to the host, and the write that it answers, if any. -/
structure Report where
  origin : Option Nat
  unit : Nat
  msgid : Nat
  cmd : Nat
  payload : List Nat
  deriving DecidableEq, Repr

/-- The bytes of a report. -/
def Report.raw (r : Report) : List Nat := [0x01, r.unit, r.msgid, r.cmd] ++ r.payload

/-- What the unit may do next. -/
inductive UnitStep where
  /-- The oldest command arrives: dropped, or processed with these payload bytes. -/
  | handle (payload : Option (List Nat))
  /-- The unit sends what it repeats. -/
  | emit
  deriving DecidableEq, Repr

/-- The interleaving, by the number of the host's call. -/
structure Script where
  steps : Nat → List UnitStep
  late : Nat → Bool
  clock : Nat → Nat

/-- A packet that `command` returned: the write of that call, its opcode, and the report that was
read. -/
structure Credit where
  write : Nat
  cmd : Nat
  packet : Packet
  report : Option Report
  deriving DecidableEq, Repr

structure Channels where
  toUnit : List Sent
  toHost : List Report
  repeats : Report
  script : Script
  /-- The calls the host has made of the transport. -/
  calls : Nat
  /-- How many of them were writes. -/
  writes : Nat
  lastRead : Option Report
  /-- A command was written under an id that something in flight carried. -/
  reused : Bool
  credits : List Credit

namespace Channels

/-- Something in flight carries the id: a command that has not arrived, a report that has not
been read, or the report that the unit repeats. -/
def inFlight (msgid : Nat) (c : Channels) : Bool :=
  (c.toUnit.any fun s => decide (s.msgid = msgid)) ||
    (c.toHost.any fun r => decide (r.msgid = msgid)) || decide (c.repeats.msgid = msgid)

def unitStep (c : Channels) : UnitStep → Channels
  | .emit => { c with toHost := c.toHost ++ [c.repeats] }
  | .handle payload =>
    match c.toUnit, payload with
    | [], _ => c
    | _ :: rest, none => { c with toUnit := rest }
    | s :: rest, some bytes =>
      { c with toUnit := rest, repeats := ⟨some s.origin, s.unit, s.msgid, s.cmd, bytes⟩ }

/-- The host makes a call: first the unit has its turn. -/
def turn (c : Channels) : Channels :=
  (c.script.steps c.calls).foldl unitStep { c with calls := c.calls + 1 }

def read (c : Channels) : Except Exc (List Nat) × Channels :=
  let late := c.script.late c.calls
  let c := c.turn
  match late, c.toHost with
  | false, r :: rest => (.ok r.raw, { c with toHost := rest, lastRead := some r })
  | _, _ => (.ok [], c)

def write (buf : List Nat) (c : Channels) : Except Exc Int × Channels :=
  let c := c.turn
  let msgid := buf.getD 3 0
  (.ok buf.length,
    { c with
      toUnit := c.toUnit ++ [⟨c.writes, buf.getD 2 0, msgid, buf.getD 4 0, (buf.drop 5).take 5⟩]
      writes := c.writes + 1
      reused := c.reused || c.inFlight msgid })

instance : Outside Channels where
  opens c := (.ok (), c)
  closes := id
  isPresent c := (true, c)
  read _ _ := read
  write := write
  clock c := (c.script.clock c.calls, { c with calls := c.calls + 1 })
  sleep _ := id
  cue _ := id

end Channels

/-- One call of `command`: its opcode, its arguments and its timeout. -/
structure Request where
  cmd : Nat
  args : List Nat
  timeoutMs : Nat
  deriving DecidableEq, Repr

/-- `command`, with what it returned credited to the write it made. -/
def credited (req : Request) : Py Channels Unit := do
  let write ← Prog.gets fun w => w.io.writes
  let reply ← command req.cmd req.args req.timeoutMs
  match reply with
  | some packet => Prog.modify fun w => { w with io := { w.io with
      credits := w.io.credits ++ [⟨write, req.cmd, packet, w.io.lastRead⟩] } }
  | none => pure ()

/-- A client that makes these calls one after another, whatever any of them raises. -/
def session : List Request → Py Channels Unit
  | [] => pure ()
  | req :: rest => do
    Prog.attempt (credited req) fun _ => pure ()
    session rest

end StakkaWeb
