import Mathlib
import StakkaWeb.Diagnostics
import StakkaWeb.Operations
import StakkaWeb.Tape

/-!
# The orders the unit is given

Everything the application ever has the unit do goes through one of four calls: a job, a look at the
diagnostics page, a reconnect, or a pass of the keeper. What each of them writes to the handle is
written down here as a language of orders, from the order in which the source sends them and the
number of times it retries.
-/

set_option autoImplicit false

open Lib Lib.Prog
open scoped Computability

namespace StakkaWeb

/-- A command as it is put on the wire: its opcode and its five arguments. -/
abbrev Order : Type := Nat × List Nat

/-- A command whose arguments `_write` fills up with zeros. -/
def order (cmd : Nat) (args : List Nat) : Order := (cmd, args ++ List.replicate (5 - args.length) 0)

def OutsideCall.order : OutsideCall → Option Order
  | .write buf => some (buf.getD 4 0, buf.drop 5)
  | _ => none

/-- The orders on the tape, the first one first, whether or not the write went through. -/
def orders {σ : Type} (w : World (Taped σ)) : List Order :=
  (w.io.tape.filterMap fun x => x.1.order).reverse

/-! ## The languages -/

/-- One order, once. -/
def once (o : Order) : Language Order := {[o]}

/-- Any number of `0x01`. -/
def polls : Language Order := (once (order cmdRequestState []))∗

/-- What a handshake asks, as often as it likes. -/
def introductions : Language Order :=
  (once (order cmdGetSerial []) + once (order cmdVersionA []) + once (order cmdVersionB []))∗

/-- `o` at most `k` times, with polls after each. -/
def tries (o : Order) (k : Nat) : Language Order := ((1 + once o) * polls) ^ k

/-- `o` as `require` sends it before it returns: once, and then at most twice more. -/
def sent (o : Order) : Language Order := once o * polls * tries o 2

/-- `0x04` to home; `park` and `ensure_homed` send the same ten bytes. -/
def goHome : Order := order cmdSetPos [home]

def turn (slot : Nat) (eject : Bool) : Order := order cmdSetPos [slot, if eject then 1 else 0]

/-- What a flow orders once it has its unit and its database, over the catalogue `c`. -/
def Flow.language (c : Catalog) : Flow → Language Order
  | .reset => polls * (1 + once (order cmdClearErr1 []) *
      (1 + once (order cmdClearErr2 []) * polls * (1 + once (order cmdSetLed [1, 1]) * tries goHome 3)))
  | .eject discId =>
    match c.getDisc discId with
    | none => 1
    | some disc => polls * tries goHome 3 * (tries (turn disc.slot true) 3 +
        sent (turn disc.slot true) * (tries (order cmdRetract []) 3 * tries goHome 3))
  | .add slot | .return_ slot _ => polls * tries goHome 3 * (tries (turn slot false) 3 +
      sent (turn slot false) * (tries (order cmdAcceptDisc []) 3 +
        (1 + sent (order cmdAcceptDisc [])) * tries goHome 3))

/-- A call that is given the unit for itself. -/
inductive Access where
  | job (traced : Bool) (flow : Flow)
  | probe
  | reconnect
  | tend (openError : Option Exc)

namespace Access

def run {σ : Type} [Outside σ] : Access → Py σ Unit
  | job traced flow => runOwned traced flow.run
  | probe => ignoring StakkaWeb.probe
  | reconnect => StakkaWeb.reconnect
  | tend openError => ignoring (StakkaWeb.tend openError)

/-- What it may order. Only a job moves anything. -/
def language (c : Catalog) : Access → Language Order
  | job _ flow => introductions * flow.language c
  | probe => introductions * (polls * tries (order cmdClearErr2 []) 3)
  | reconnect | tend _ => introductions

end Access

end StakkaWeb
