import StakkaWeb.Lib.Runs
import StakkaWeb.Protocol
import StakkaWeb.Simulator

/-!
# The simulated unit on the bench

What a test, or the console of `tools/fakerun.py`, may do with the carousel and with its transport,
in any order and at any time. An `Act` on the carousel is made of `Beat`s: the loop of `_run_due`
fires one event in each round, and a command is served after the last of them.
-/

set_option autoImplicit false

namespace StakkaWeb

open Lib

namespace Carousel

/-- What happens to the carousel at once. -/
inductive Beat where
  /-- One round of the loop of `_run_due`. -/
  | round
  | serve (cmd : Nat) (args : List Nat)
  /-- The clock goes on. -/
  | pass (ms : Nat)
  /-- `insert_disc(at_ms)` or `take_disc(at_ms)` -/
  | touch (hand : Hand) (atMs : Option Nat)
  deriving DecidableEq, Repr

def beat : Beat → Carousel → Carousel
  | .round, c => Driven.turn c
  | .serve cmd args, c => (c.serve cmd args).2
  | .pass ms, c => { c with now := c.now + ms }
  | .touch hand atMs, c => c.at_ (atMs.getD c.now) hand.event

/-- What may be done with the carousel. -/
inductive Act where
  | handle (cmd : Nat) (args : List Nat)
  | runDue
  | advance (ms : Nat)
  | touch (hand : Hand) (atMs : Option Nat)
  deriving DecidableEq, Repr

def act : Act → Carousel → Carousel
  | .handle cmd args, c => (c.handle cmd args).2
  | .runDue, c => c.runDue
  | .advance ms, c => { c with now := c.now + ms }
  | .touch hand atMs, c => c.at_ (atMs.getD c.now) hand.event

/-- The rounds of one `_run_due`. -/
def rounds (c : Carousel) : List Beat := List.replicate (c.events.dueCount c.now) .round

/-- An act beat by beat. -/
def beats : Act → Carousel → List Beat
  | .handle cmd args, c => c.rounds ++ [.serve cmd args]
  | .runDue, c => c.rounds
  | .advance ms, _ => [.pass ms]
  | .touch hand atMs, _ => [.touch hand atMs]

/-- The acts beat by beat. -/
def score : List Act → Carousel → List Beat
  | [], _ => []
  | a :: acts, c => beats a c ++ score acts (act a c)

/-- A carousel as it is switched on, with the blips to come. -/
def powered (now : Nat) (occupied : Finset Nat) (serial unit : Nat) (blips : Bool)
    (rolls : Nat → Nat → Bool) : Carousel :=
  { new now occupied serial unit with blips, rolls }

end Carousel

namespace Sim

/-! ## The knobs of the transport -/

def unplug (s : Sim) : Sim := { s with present := false, opened := false }

def replug (s : Sim) : Sim := { s with present := true, latched := none }

/-- `fail_opens(n)`; no open fails for an `n` below one. -/
def failOpens_ (n : Int) (s : Sim) : Sim := { s with failOpens := n.toNat }

/-! ## Its uses -/

/-- The arguments of `DiscStakka._write`, all of them bytes. -/
structure Report where
  unit : Fin 256
  msgid : Fin 256
  cmd : Fin 256
  xs : Fin 5 → Fin 256

/-- The ten bytes that it writes. -/
def Report.bytes (r : Report) : List Nat :=
  reportBytes r.unit r.msgid r.cmd (List.ofFn fun i => (r.xs i : Nat))

/-- A call of the transport, of one of its knobs, or time that passes between two calls. -/
inductive Use where
  | opens
  | closes
  | present
  | read (timeoutMs : Nat)
  | write (report : Report)
  | unplug
  | replug
  | failOpens (n : Int)
  | wait (ms : Nat)

/-- What a call comes back with. -/
inductive Answer where
  | done
  | present (here : Bool)
  | packet (raw : List Nat)
  | count (n : Int)
  deriving DecidableEq, Repr

def use : Use → Sim → Except Exc Answer × Sim
  | .opens, s => (s.opens.1.map fun _ => .done, s.opens.2)
  | .closes, s => (.ok .done, s.closes)
  | .present, s => (.ok (.present s.present), s)
  | .read timeoutMs, s => ((s.read timeoutMs).1.map .packet, (s.read timeoutMs).2)
  | .write report, s => ((s.write report.bytes).1.map .count, (s.write report.bytes).2)
  | .unplug, s => (.ok .done, s.unplug)
  | .replug, s => (.ok .done, s.replug)
  | .failOpens n, s => (.ok .done, s.failOpens_ n)
  | .wait ms, s => (.ok .done, { s with car := { s.car with now := s.car.now + ms } })

end Sim

end StakkaWeb
