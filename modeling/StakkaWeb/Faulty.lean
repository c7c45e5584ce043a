import StakkaWeb.Simulator

/-!
# A transport that fails part way

The simulated transport until a number of reads and writes have gone through, and one of three
faults from then on. The carousel behind it goes on as it would have.
-/

set_option autoImplicit false

namespace StakkaWeb

/-- How a transport fails. -/
inductive Fault where
  /-- Every later read and write raises `IOError`. -/
  | ioError
  /-- The unit stops answering: a read times out empty, a write goes nowhere. -/
  | silent
  /-- The unit stops listening: it repeats its last packet, a write goes nowhere. -/
  | deaf
  deriving DecidableEq, Repr

/-- A simulated transport with `left` reads and writes to go before `fault` sets in. -/
structure Faulty where
  sim : Sim
  left : Nat
  fault : Fault

namespace Faulty

def read (timeoutMs : Nat) (f : Faulty) : Except Exc (List Nat) × Faulty :=
  if 0 < f.left then
    ((f.sim.read timeoutMs).1, { f with sim := (f.sim.read timeoutMs).2, left := f.left - 1 })
  else
    match f.fault with
    | .ioError => (.error (.osError "input/output error"), f)
    | .silent => (.ok [], { f with sim := f.sim.stir.tick timeoutMs })
    | .deaf => ((f.sim.read timeoutMs).1, { f with sim := (f.sim.read timeoutMs).2 })

def write (buf : List Nat) (f : Faulty) : Except Exc Int × Faulty :=
  if 0 < f.left then
    ((f.sim.write buf).1, { f with sim := (f.sim.write buf).2, left := f.left - 1 })
  else
    match f.fault with
    | .ioError => (.error (.osError "input/output error"), f)
    | .silent | .deaf => (.ok buf.length, f)

instance : Outside Faulty where
  opens f := (f.sim.opens.1, { f with sim := f.sim.opens.2 })
  closes f := { f with sim := f.sim.closes }
  isPresent f := (f.sim.present, f)
  read _ timeoutMs f := f.read timeoutMs
  write := write
  clock f := (f.sim.car.now, f)
  sleep ms f := { f with sim := Outside.sleep ms f.sim }
  cue c f := { f with sim := Outside.cue c f.sim }

end Faulty

end StakkaWeb
