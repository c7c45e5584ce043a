import StakkaWeb.Device
import StakkaWeb.Simulator

/-!
# Jobs one after another

The jobs that the application runs on one simulated unit, each with the hand that answers its
prompt. A job is run as the worker thread runs it, and the next finds what it left: the carousel
and its clock, the blips still to come, the client's handle and the committed tables.
-/

set_option autoImplicit false

namespace StakkaWeb

open Lib

/-- A hand that feeds the disc in, or takes it, so many milliseconds after the job asks for it; or
one that never acts. -/
def Hands.answering (delay : Option Nat) : Hands where
  between _ := []
  shown
    | .awaitingInsert => delay.toList.map (·, .insert)
    | .presented => delay.toList.map (·, .take)
    | _ => []

/-- How long the job waits at its prompt; a reset has none. -/
def Flow.windowMs : Flow → Nat
  | .reset => 0
  | .eject _ => takeWindowMs
  | .add _ => insertWindowMs
  | .return_ _ _ => insertWindowMs

/-- What the pages offer: a stored disc is ejected, a disc that is out is returned to its slot, and
a slot without a row is loaded. -/
def Flow.Offered (c : Catalog) : Flow → Prop
  | .reset => True
  | .eject discId => ∃ d, c.getDisc discId = some d ∧ d.status = .stored
  | .add slot => (slotMin ≤ slot ∧ slot ≤ slotMax) ∧ c.getBySlot slot = none
  | .return_ slot discId => ∃ d, c.getDisc discId = some d ∧ d.slot = slot ∧ d.status = .out

structure Visit where
  flow : Flow
  job : Job
  traced : Bool
  delay : Option Nat

namespace Visit

/-- The job is offered, and the hand acts until 243 ms before the prompt's window closes. -/
structure Fair (v : Visit) (w : World Sim) : Prop where
  offered : v.flow.Offered w.conn.committed
  inTime : ∀ ms, v.delay = some ms → ms + 243 ≤ v.flow.windowMs

/-- The world in which the job starts. -/
def start (v : Visit) (w : World Sim) : World Sim :=
  { w with io := { w.io with hands := .answering v.delay } }.start v.job

def run (v : Visit) (n : Nat) (w : World Sim) : Outcome Exc Unit × World Sim :=
  runOwned v.traced v.flow.run n (v.start w)

end Visit

/-- What becomes of a world by fair visits. -/
inductive Served (w : World Sim) : World Sim → Prop
  | nothing : Served w w
  | visit (v : Visit) (n : Nat) {w₁ w₂ : World Sim} (h : Served w w₁) (hfair : v.Fair w₁)
    (hr : v.run n w₁ = (.ok (), w₂)) : Served w w₂

end StakkaWeb
