import StakkaWeb.Device
import StakkaWeb.Lib.Twin

/-!
# The methods over two outside worlds

Two runs of a method side by side, over two outside worlds. `A` relates the packets that the two
may read in one another's place, `R` the worlds. What has to be shown is what one read, one write
and one look at a status word come to; the methods built on them follow.
-/

set_option autoImplicit false

namespace StakkaWeb

open Lib Lib.Prog

variable {σ τ : Type} [Outside σ] [Outside τ]

/-- The steps of a command, over two outside worlds. -/
structure LinkTwin (A : Packet → Packet → Prop) (R : World σ → World τ → Prop) : Prop where
  msgid : ∀ p q, A p q → p.msgid = q.msgid
  read : ∀ timeout_ms, Paired R (Option.Rel A) (read timeout_ms) (read timeout_ms)
  write : ∀ msgid cmd args, Paired R Eq (write msgid cmd args) (write msgid cmd args)
  clock : Paired R Eq clock clock
  answered : ∀ cmd p q, A p q →
    Paired R Eq (observe (.answered cmd p)) (observe (.answered cmd q))

variable {A : Packet → Packet → Prop} {R : World σ → World τ → Prop}

namespace LinkTwin

variable (h : LinkTwin A R)
include h

theorem awaitReply (cmd msgid deadline : Nat) : Paired R (Option.Rel (Option.Rel A))
    (awaitReply cmd msgid deadline) (awaitReply cmd msgid deadline) := by
  refine h.clock.seq fun now => Paired.ite ?_ (Paired.pure (.some .none))
  refine (h.read pollMs).bind fun reply reply' hrel => ?_
  cases hrel with
  | none => exact Paired.pure .none
  | @some p q hpq =>
    simp only [h.msgid p q hpq]
    refine Paired.ite ?_ (Paired.pure .none)
    exact (h.answered cmd p q hpq).seq fun _ => Paired.pure (.some (.some hpq))

theorem command (cmd : Nat) (args : List Nat) (timeout_ms : Nat) :
    Paired R (Option.Rel A) (command cmd args timeout_ms) (command cmd args timeout_ms) := by
  refine (h.read timeout_ms).bind fun seed seed' hrel => ?_
  cases hrel with
  | none => exact Paired.raise _
  | @some p q hpq =>
    simp only [h.msgid p q hpq]
    exact (h.write _ _ _).seq fun _ => h.clock.seq fun now => (h.awaitReply _ _ _).loop

end LinkTwin

theorem eq_of_rel {α : Type} {a b : Option α} (h : Option.Rel Eq a b) : a = b := by
  cases h with
  | none => rfl
  | some h => rw [h]

/-- The handshake, when the two read the same packets. -/
theorem LinkTwin.handshake (h : LinkTwin Eq R)
    (hds : ∀ f, Paired R Eq (modifyDs f) (modifyDs f)) : Paired R Eq handshake handshake := by
  have hcommand (cmd : Nat) : Paired R Eq (StakkaWeb.command (σ := σ) cmd [] ackMs)
      (StakkaWeb.command cmd [] ackMs) := (h.command cmd [] ackMs).conseq fun _ _ => eq_of_rel
  have hread (timeout_ms : Nat) : Paired R Eq (StakkaWeb.read (σ := σ) timeout_ms)
      (StakkaWeb.read timeout_ms) := (h.read timeout_ms).conseq fun _ _ => eq_of_rel
  have hturn (deadline : Nat) : Paired R (Option.Rel Eq) (greet deadline) (greet deadline) := by
    refine h.clock.seq fun now => Paired.ite ?_ (Paired.raise _)
    refine (hread pollMs).seq fun pkt => ?_
    cases pkt with
    | none => exact Paired.pure .none
    | some pkt =>
      refine (hds _).seq fun _ => Paired.ite ?_ (Paired.ite ?_ ?_)
      · exact (h.write _ _ _).seq fun _ => Paired.pure .none
      · exact (hds _).seq fun _ => Paired.pure (.some rfl)
      · refine (hcommand cmdGetSerial).seq fun reply => ?_
        cases reply with
        | none => exact Paired.raise _
        | some reply => exact (hds _).seq fun _ => Paired.pure (.some rfl)
  refine h.clock.seq fun now => (hturn _).loop.seq fun _ => Paired.seq ?_ fun _ => hds _
  refine (hcommand cmdVersionA).seq fun a => (hcommand cmdVersionB).seq fun b => ?_
  cases a <;> cases b <;> exact Paired.pure rfl

/-- The steps of a wait, too, for the masks and values that `M` allows. -/
structure PollTwin (M : Nat → Nat → Prop) (A : Packet → Packet → Prop)
    (R : World σ → World τ → Prop) : Prop extends LinkTwin A R where
  matchState : ∀ mask want reply reply', M mask want → Option.Rel A reply reply' →
    Paired R Eq (matchState mask want reply) (matchState mask want reply')
  busy : M stBusy 0

namespace PollTwin

variable {M : Nat → Nat → Prop} (h : PollTwin M A R)
include h

theorem waitState {mask want : Nat} (hM : M mask want) (timeout_ms : Nat) :
    Paired R Eq (waitState mask want timeout_ms) (waitState mask want timeout_ms) := by
  refine h.clock.seq fun now => Paired.loop ?_
  refine (h.command _ _ _).bind fun reply reply' hrel => ?_
  refine (h.matchState mask want reply reply' hM hrel).seq fun matched => Paired.ite ?_ ?_
  · exact Paired.pure (.some rfl)
  · refine h.clock.seq fun now => Paired.pure ?_
    split
    · exact .some rfl
    · exact .none

theorem requireFrom (cmd : Nat) (args : List Nat) (tries left : Nat) :
    Paired R A (requireFrom cmd args tries left) (requireFrom cmd args tries left) := by
  induction left with
  | zero => exact Paired.raise _
  | succ left ih =>
    refine (h.command cmd args ackMs).bind fun reply reply' hrel => ?_
    cases hrel with
    | some hpq => exact Paired.pure hpq
    | none =>
      refine Paired.seq (Paired.when ?_) fun _ => ih
      exact (h.waitState h.busy 2000).seq fun _ => Paired.pure rfl

theorem require (cmd : Nat) (args : List Nat) : Paired R A (require cmd args) (require cmd args) :=
  h.requireFrom cmd args 3 3

theorem idleOr (msg : String) : Paired R Eq (idleOr msg) (idleOr msg) :=
  (h.waitState h.busy settleMs).seq fun _ => Paired.raiseIf _ _

theorem ingest (hreport : ∀ progress message,
      Paired R Eq (report (σ := σ) progress message) (report (σ := τ) progress message))
    (progress : Progress) : Paired R Eq (ingest progress) (ingest progress) := by
  refine (hreport _ _).seq fun _ => (h.idleOr _).seq fun _ => (hreport _ _).seq fun _ => ?_
  exact (h.require _ _).bind fun _ _ _ => h.idleOr _

end PollTwin

end StakkaWeb
