import StakkaWeb.Bench
import StakkaWeb.Operations

/-!
# The keeper at work

`DeviceController._keep_open` makes a pass of `tend` every half second for as long as the
application runs. What it meets is a unit that is unplugged and plugged back in, or that fails to
open for a while: the keys of fakerun's console, and the knob `fail_opens`.
-/

set_option autoImplicit false

open Lib Lib.Prog

namespace StakkaWeb

section Passes

variable {σ : Type} [Outside σ]

/-- So many turns of `_keep_open(0.5)`, none of which finds a job, and `_open_error` after them. -/
def keepOpen : Nat → Option Exc → Py σ (Option Exc)
  | 0, openError => pure openError
  | passes + 1, openError => do
    let openError ← tend openError
    ofOutside fun s => ((), Outside.sleep 500 s)
    keepOpen passes openError

end Passes

/-- The keys `i`, `t`, `u`, `r` and `b` of the console, and `fail_opens(n)`. -/
inductive Key where
  | insert
  | take
  | unplug
  | replug
  | blips
  | failOpens (n : Int)
  deriving DecidableEq, Repr

def Key.press : Key → Sim → Sim
  | insert, s => { s with car := s.car.at_ s.car.now Hand.insert.event }
  | take, s => { s with car := s.car.at_ s.car.now Hand.take.event }
  | unplug, s => s.unplug
  | replug, s => s.replug
  | blips, s => { s with car := { s.car with blips := !s.car.blips } }
  | failOpens n, s => s.failOpens_ n

/-- Keys pressed between the passes of the keeper; `none` is a pass. -/
def attend : List (Option Key) → Option Exc → Py Sim (Option Exc)
  | [], openError => pure openError
  | none :: rest, openError => do
    let openError ← keepOpen 1 openError
    attend rest openError
  | some key :: rest, openError => do
    ofOutside fun s => ((), key.press s)
    attend rest openError

/-- Only a unit that was unplugged is plugged back in. `replug` on an open handle leaves it with no
packet to repeat. -/
def Orderly : Bool → List (Option Key) → Prop
  | _, [] => True
  | present, some .replug :: rest => present = false ∧ Orderly true rest
  | _, some .unplug :: rest => Orderly false rest
  | present, _ :: rest => Orderly present rest

/-- How many passes come to nothing before the one that holds the unit: none where it is held, and
else one for every three opens that are to fail. -/
def missing (w : World Sim) : Nat :=
  if w.ds.isOpen && w.io.opened then 0 else w.io.failOpens / 3

end StakkaWeb
