import StakkaWeb.Lib.Budget
import StakkaWeb.Laws.Connection
import StakkaWeb.Laws.Termination

/-!
# How long a job can take

A world is `Prompt` when no call takes more than `lag` beyond the time it was asked to wait for. What
the unit answers, and whether it does, is left open. In such a world every method has a time by which
it is over, and so has every job: the times below are those of the code, a wait for each deadline it
sets, a command for each that it sends, and `lag` for each call.
-/

set_option autoImplicit false

namespace StakkaWeb

open Lib Lib.Prog

/-- No call takes more than `lag` beyond what it was asked to wait. -/
class Prompt (σ : Type) [Outside σ] where
  lag : Nat
  opens : ∀ s : σ, timeOf (Outside.opens s).2 ≤ timeOf s + lag
  closes : ∀ s : σ, timeOf (Outside.closes s) ≤ timeOf s + lag
  read : ∀ (size timeout_ms : Nat) (s : σ),
    timeOf (Outside.read size timeout_ms s).2 ≤ timeOf s + timeout_ms + lag
  write : ∀ (buf : List Nat) (s : σ), timeOf (Outside.write buf s).2 ≤ timeOf s + lag
  clock : ∀ s : σ, timeOf (Outside.clock s).2 ≤ timeOf s + lag
  sleep : ∀ (ms : Nat) (s : σ), timeOf (Outside.sleep ms s) ≤ timeOf s + ms + lag
  cue : ∀ (p : Phase) (s : σ), timeOf (Outside.cue p s) ≤ timeOf s + lag

/-! ## The times -/

namespace Budget

variable (lag : Nat)

def command (timeout_ms : Nat) : Nat := 2 * timeout_ms + pollMs + 8 * lag

def wait (timeout_ms : Nat) : Nat := timeout_ms + command lag ackMs + 2 * lag

def require : Nat := 3 * command lag ackMs + 2 * wait lag 2000

def handshake : Nat := 5000 + pollMs + 3 * command lag ackMs + 4 * lag

/-- Three attempts, with a sleep between two. -/
def openUnit : Nat := 3 * (handshake lag + 2 * lag) + 2 * (400 + lag)

def ensureHomed : Nat := 3 * require lag + 2 * wait lag settleMs

def moveTo : Nat := ensureHomed lag + 2 * require lag + 2 * wait lag settleMs

def reset : Nat := 4 * command lag ackMs + 2 * require lag + 2 * wait lag settleMs

def ingest : Nat := require lag + 2 * wait lag settleMs

def retract : Nat := wait lag nowMs + 2 * require lag + wait lag settleMs

def watch : Nat := 10000 + require lag + 3 * lag

end Budget

/-- The time of a flow. -/
def Flow.budget (lag : Nat) : Flow → Nat
  | .reset => Budget.reset lag + 2 * lag
  | .eject _ => 2 * Budget.moveTo lag + Budget.require lag + Budget.wait lag takeWindowMs +
      Budget.retract lag + 6 * lag
  | .add _ | .return_ _ _ => 2 * Budget.moveTo lag + Budget.wait lag insertWindowMs +
      Budget.ingest lag + Budget.watch lag + 8 * lag

variable {σ : Type} [Outside σ]

/-- `m` is over within `b`. -/
abbrev InTime {α : Type} (b : Nat) (m : Py σ α) : Prop := Within (fun w : World σ => timeOf w.io) b m

/-! ## What asks the outside for nothing -/

section Plain

variable {α : Type} {b : Nat}

theorem inTime_modify {f : World σ → World σ} (h : ∀ w, (f w).io = w.io) :
    InTime b (Prog.modify f : Py σ Unit) := by
  apply Within.modify
  intro w
  rw [h]
  exact Nat.le_add_right _ _

theorem inTime_modifyDs (f : DiscStakka → DiscStakka) : InTime b (modifyDs (σ := σ) f) :=
  inTime_modify fun _ => rfl

theorem inTime_modifyJob (f : Job → Job) : InTime b (modifyJob (σ := σ) f) :=
  inTime_modify fun _ => rfl

theorem inTime_modifyTrace (f : Trace → Trace) : InTime b (modifyTrace (σ := σ) f) :=
  inTime_modify fun _ => rfl

theorem inTime_observe (o : Obs) : InTime b (observe (σ := σ) o) := inTime_modify fun _ => rfl

theorem inTime_report (progress : Progress) (message : String) :
    InTime b (report (σ := σ) progress message) := by
  cases progress with
  | none => exact Within.pure ()
  | note => exact inTime_modifyJob _

theorem inTime_execute (f : Catalog → Except Exc (α × Catalog)) : InTime b (execute (σ := σ) f) := by
  apply Within.call
  intro w
  have hio : ∀ o : Except Exc α × World σ, o.2.io = w.io → timeOf o.2.io ≤ timeOf w.io + b := by
    intro o h
    rw [h]
    exact Nat.le_add_right _ _
  apply hio
  dsimp only
  split
  · rfl
  · split <;> rfl

theorem inTime_commit : InTime b (commit (σ := σ)) := by
  apply Within.call
  intro w
  dsimp only
  split <;> exact Nat.le_add_right _ _

theorem inTime_rollback : InTime b (rollback (σ := σ)) := by
  apply Within.call
  intro w
  dsimp only
  split <;> exact Nat.le_add_right _ _

theorem inTime_transaction {block : Py σ α} (h : InTime 0 block) : InTime 0 (transaction block) := by
  apply Within.attempt_free
  · exact h.bind_free fun a => inTime_commit.bind_free fun _ => Within.pure a
  · exact fun e => inTime_rollback.bind_free fun _ => Within.raise e

theorem inTime_logEvent (kind : EventKind) (discId slot : Option Nat) (detail : Option String) :
    InTime b (logEvent (σ := σ) kind discId slot detail) :=
  (Within.gets _).free_bind fun _ => inTime_execute _

theorem inTime_logged (kind : EventKind) (discId slot : Option Nat) (detail : Option String)
    (error : String) (result : JobResult) : InTime (σ := σ) b
      (do logEvent kind discId slot detail; commit; fail error result) :=
  (inTime_logEvent kind discId slot detail).free_bind fun _ => inTime_commit.free_bind fun _ =>
    inTime_modifyJob _

theorem inTime_createDisc (slot : Nat) (title : String) (kind : EventKind) :
    InTime (σ := σ) 0 (createDisc slot title kind) := by
  apply Within.free_bind (Within.gets _)
  intro now
  apply inTime_transaction
  exact (inTime_execute _).bind_free fun id => (inTime_logEvent _ _ _ _).bind_free fun _ =>
    Within.pure id

/-- What `mark_out` and `mark_stored` share. -/
theorem inTime_marked {f : Stamp → Catalog → Except Exc (Unit × Catalog)} (discId : Nat)
    (kind : EventKind) (detail : Option String) : InTime (σ := σ) 0 (do
      let now ← Prog.gets fun w => w.conn.now
      transaction do
        execute (f now)
        let row ← getDisc discId
        logEvent kind (some discId) (row.map Disc.slot) detail) := by
  apply Within.free_bind (Within.gets _)
  intro now
  apply inTime_transaction
  exact (inTime_execute _).bind_free fun _ => (inTime_execute _).bind_free fun _ =>
    inTime_logEvent _ _ _ _

theorem inTime_writeRow (slot : Nat) (discId : Option Nat) :
    InTime (σ := σ) 0 (writeRow slot discId) := by
  cases discId with
  | none => exact inTime_createDisc _ _ _
  | some id => exact (inTime_marked id _ _).bind_free fun _ => Within.pure id

theorem inTime_connect : InTime (σ := σ) b connect :=
  (inTime_execute _).free_bind fun _ => (inTime_execute _).free_bind fun _ => inTime_modify fun _ => rfl

theorem inTime_reportFailure (exc : Exc) : InTime (σ := σ) 0 (reportFailure exc) := by
  have hlog : InTime (σ := σ) 0 (logFailure exc) := by
    apply Within.free_bind (Within.gets _)
    intro w
    apply Within.when
    apply Within.attempt_free
    · exact inTime_rollback.bind_free fun _ => (inTime_logEvent _ _ _ _).bind_free fun _ =>
        inTime_commit
    · intro e
      exact Within.ite (Within.pure ()) (Within.raise e)
  apply Within.free_bind hlog
  intro _
  cases exc <;> exact inTime_modifyJob _

theorem inTime_closeConn : InTime (σ := σ) b closeConn := inTime_modify fun _ => rfl

theorem inTime_ownedFinally : InTime (σ := σ) b ownedFinally := by
  apply Within.free_bind (inTime_modifyDs _)
  intro _
  apply Within.free_bind (inTime_modifyTrace _)
  intro _
  apply Within.free_bind inTime_closeConn
  intro _
  apply Within.free_bind (Within.gets _)
  intro done
  exact Within.when (inTime_modifyJob _)

theorem inTime_matchState (mask want : Nat) (reply : Option Packet) :
    InTime (σ := σ) b (matchState mask want reply) := by
  cases reply with
  | none => exact Within.pure false
  | some p =>
    apply Within.ite _ (Within.pure false)
    refine (inTime_observe _).free_bind fun _ => ?_
    refine Within.free_bind (inTime_modify fun w => ?_) fun _ => Within.pure _
    split <;> rfl

end Plain

/-! ## The calls -/

section Calls

variable {α : Type}

theorem inTime_onOutside {f : σ → Except Exc α × σ} {b : Nat}
    (h : ∀ s, timeOf (f s).2 ≤ timeOf s + b) : InTime b (onOutside f) :=
  Within.call fun w => h w.io

theorem inTime_ofOutside {f : σ → α × σ} {b : Nat} (h : ∀ s, timeOf (f s).2 ≤ timeOf s + b) :
    InTime b (ofOutside f) :=
  Within.call fun w => h w.io

variable [Prompt σ]

theorem inTime_cue (p : Phase) : InTime (Prompt.lag σ) (cue (σ := σ) p) :=
  inTime_ofOutside fun s => Prompt.cue p s

theorem inTime_clock : InTime (Prompt.lag σ) (clock (σ := σ)) :=
  inTime_ofOutside fun s => Prompt.clock s

theorem inTime_close : InTime (Prompt.lag σ) (close (σ := σ)) :=
  (inTime_modifyDs _).free_bind fun _ => inTime_ofOutside fun s => Prompt.closes s

theorem inTime_setPhase (phase : Phase) (message : String) (window_s : Option Nat) :
    InTime (2 * Prompt.lag σ) (setPhase (σ := σ) phase message window_s) := by
  have hdeadline : InTime (Prompt.lag σ) (deadlineIn (σ := σ) window_s) := by
    cases window_s with
    | none => exact Within.pure none
    | some window => exact inTime_clock.bind_free fun _ => Within.pure _
  exact (hdeadline.bind fun _ => (inTime_modifyJob _).free_bind fun _ => inTime_cue _).mono (by omega)

theorem inTime_orNotConnected {m : Py σ α} {b : Nat} (what : String) (hm : InTime b m) :
    InTime (b + Prompt.lag σ) (orNotConnected what m) := by
  apply hm.attempt
  intro e
  apply Within.ite
  · exact inTime_close.bind_free fun _ => Within.raise _
  · exact Within.raise e

theorem inTime_read (timeout_ms : Nat) :
    InTime (timeout_ms + 2 * Prompt.lag σ) (read (σ := σ) timeout_ms) := by
  have hread : InTime (timeout_ms + Prompt.lag σ) (onOutside (Outside.read (σ := σ) 64 timeout_ms)) :=
    inTime_onOutside fun s => by rw [← Nat.add_assoc]; exact Prompt.read 64 timeout_ms s
  apply Within.free_bind (Within.gets _)
  intro isOpen
  apply Within.free_bind (Within.raiseIf _ _)
  intro _
  refine ((inTime_orNotConnected "read failed: " hread).bind_free fun raw => ?_).mono (by omega)
  exact Within.ite (Within.pure _) (Within.ite (Within.raise _) (Within.pure _))

theorem inTime_write (msgid cmd : Nat) (args : List Nat) :
    InTime (2 * Prompt.lag σ) (write (σ := σ) msgid cmd args) := by
  apply Within.free_bind (Within.gets _)
  intro ds
  apply Within.free_bind (Within.raiseIf _ _)
  intro _
  apply Within.free_bind (Within.raiseIf _ _)
  intro _
  have hwrite := inTime_orNotConnected "write failed: "
    (inTime_onOutside fun s : σ => Prompt.write (reportBytes ds.unit msgid cmd args) s)
  exact (hwrite.bind_free fun _ => Within.raiseIf _ _).mono (by omega)

/-- Reading the clock, and what follows within `b` of the time that it shows. -/
theorem inTime_clock_bind {f : Nat → Py σ α} {b : Nat}
    (hf : ∀ now n (w : World σ), timeOf w.io ≤ now + Prompt.lag σ →
      timeOf (f now n w).2.io ≤ now + b) : InTime b (clock >>= f) :=
  fun n w => hf (timeOf w.io) n { w with io := (Outside.clock w.io).2 } (Prompt.clock w.io)

/-- A loop that goes on while the clock shows less than `deadline`. -/
theorem deadline_loop {m k : Py σ (Option α)} {b deadline : Nat} (hm : InTime b m) (hk : InTime 0 k)
    (hstop : ∀ n w, (k n w).1 ≠ .ok none) (n : Nat) (w : World σ) :
    timeOf (Prog.loop (do let now ← clock; if now < deadline then m else k) n w).2.io ≤
      max (timeOf w.io) (deadline + b + Prompt.lag σ) + Prompt.lag σ := by
  have hturn : ∀ n (w : World σ),
      (do let now ← clock; if now < deadline then m else k : Py σ (Option α)) n w =
        (if timeOf w.io < deadline then m else k) n { w with io := (Outside.clock w.io).2 } :=
    fun _ _ => rfl
  refine loop_le (fun w : World σ => timeOf w.io) (fun n w => ?_) (fun n w w' h => ?_) n w
  · have hclock := Prompt.clock w.io
    rw [hturn]
    by_cases hnow : timeOf w.io < deadline
    · rw [if_pos hnow]
      have := hm n { w with io := (Outside.clock w.io).2 }
      dsimp only at this ⊢
      omega
    · rw [if_neg hnow]
      have := hk n { w with io := (Outside.clock w.io).2 }
      dsimp only at this ⊢
      omega
  · rw [hturn] at h
    by_cases hnow : timeOf w.io < deadline
    · have hclock := Prompt.clock w.io
      have := hm n { w with io := (Outside.clock w.io).2 }
      rw [if_pos hnow] at h
      rw [h] at this
      dsimp only at this ⊢
      omega
    · rw [if_neg hnow] at h
      exact absurd (congrArg Prod.fst h) (hstop n _)

end Calls

/-! ## The protocol -/

section Protocol

variable [Prompt σ]

/-- The replies are read for up to `pollMs` beyond the deadline. -/
theorem awaitReply_loop (cmd msgid deadline n : Nat) (w : World σ) :
    timeOf (Prog.loop (awaitReply cmd msgid deadline) n w).2.io ≤
      max (timeOf w.io) (deadline + (pollMs + 2 * Prompt.lag σ) + Prompt.lag σ) + Prompt.lag σ := by
  unfold awaitReply
  refine deadline_loop ?_ (Within.pure (some none)) (fun _ _ => nofun) n w
  refine (inTime_read pollMs).bind_free fun reply => ?_
  cases reply with
  | none => exact Within.pure none
  | some p =>
    apply Within.ite _ (Within.pure none)
    exact (inTime_observe _).free_bind fun _ => Within.pure _

theorem inTime_command (cmd : Nat) (args : List Nat) (timeout_ms : Nat) :
    InTime (Budget.command (Prompt.lag σ) timeout_ms) (command (σ := σ) cmd args timeout_ms) := by
  have hwait : ∀ msgid, InTime (timeout_ms + pollMs + 4 * Prompt.lag σ) (do
      let now ← clock
      Prog.loop (awaitReply (σ := σ) cmd msgid (now + timeout_ms))) := by
    intro msgid
    apply inTime_clock_bind
    intro now n w hw
    have := awaitReply_loop cmd msgid (now + timeout_ms) n w
    omega
  refine ((inTime_read timeout_ms).bind (c := timeout_ms + pollMs + 6 * Prompt.lag σ)
    fun seed => ?_).mono ?_
  · cases seed with
    | none => exact Within.raise _
    | some seed => exact ((inTime_write _ cmd args).bind fun _ => hwait _).mono (by omega)
  · unfold Budget.command
    omega

theorem inTime_waitState (mask want timeout_ms : Nat) :
    InTime (Budget.wait (Prompt.lag σ) timeout_ms) (waitState (σ := σ) mask want timeout_ms) := by
  apply inTime_clock_bind
  intro now n w hw
  have hturn : InTime (Budget.command (Prompt.lag σ) ackMs + Prompt.lag σ)
      (pollState (σ := σ) mask want (now + timeout_ms)) := by
    refine (inTime_command _ _ _).bind fun reply => ?_
    apply Within.free_bind (inTime_matchState _ _ _)
    intro matched
    exact Within.ite (Within.pure _) (inTime_clock.bind_free fun _ => Within.pure _)
  -- the clock is the last thing that a turn reads before it goes on
  have hgo : Triple (fun _ : World σ => True) (pollState mask want (now + timeout_ms))
      (fun r w => r = none → timeOf w.io ≤ now + timeout_ms + Prompt.lag σ) fun _ _ => True := by
    refine Triple.any.bind fun reply => Triple.any.bind fun matched => ?_
    refine Triple.ite (fun _ => Triple.pure fun _ _ => nofun) fun _ => ?_
    refine Triple.bind (M := fun t w => timeOf w.io ≤ t + Prompt.lag σ) ?_ fun t => ?_
    · exact triple_clock fun w _ => Prompt.clock w.io
    · refine Triple.pure fun w hw hnone => ?_
      split at hnone
      · cases hnone
      · omega
  have := loop_le (fun w : World σ => timeOf w.io) (d := now + timeout_ms + Prompt.lag σ)
    (fun n w => Nat.le_trans (hturn n w) (Nat.le_max_left _ _))
    (fun n w w' h => hgo.of_ok trivial h rfl) n w
  unfold Budget.wait
  refine Nat.le_trans this ?_
  omega

theorem inTime_waitIdle (timeout_ms : Nat) :
    InTime (Budget.wait (Prompt.lag σ) timeout_ms) (do let _ ← waitIdle (σ := σ) timeout_ms; pure ()) :=
  (inTime_waitState _ _ _).bind_free fun _ => Within.pure ()

/-- A command for each attempt, and a wait between two. -/
theorem inTime_requireFrom (cmd : Nat) (args : List Nat) (tries left : Nat) :
    InTime (left * Budget.command (Prompt.lag σ) ackMs + (left - 1) * Budget.wait (Prompt.lag σ) 2000)
      (requireFrom (σ := σ) cmd args tries left) := by
  induction left with
  | zero => exact Within.raise _
  | succ left ih =>
    have hrest : InTime (left * Budget.command (Prompt.lag σ) ackMs +
        left * Budget.wait (Prompt.lag σ) 2000) (do
          Prog.when (decide (0 < left)) (do let _ ← waitIdle (σ := σ) 2000; pure ())
          requireFrom (σ := σ) cmd args tries left) := by
      cases left with
      | zero =>
        apply Within.free_bind _ fun _ => ih
        exact Within.pure ()
      | succ left =>
        refine ((Within.when (inTime_waitIdle 2000)).bind fun _ => ih).mono ?_
        rw [Nat.add_sub_cancel, Nat.succ_mul left (Budget.wait (Prompt.lag σ) 2000)]
        omega
    refine ((inTime_command cmd args ackMs).bind (c := left * Budget.command (Prompt.lag σ) ackMs +
      left * Budget.wait (Prompt.lag σ) 2000) fun reply => ?_).mono ?_
    · cases reply with
      | some p => exact Within.pure p
      | none => exact hrest
    · rw [Nat.add_sub_cancel, Nat.succ_mul]
      omega

theorem inTime_require (cmd : Nat) (args : List Nat) :
    InTime (Budget.require (Prompt.lag σ)) (require (σ := σ) cmd args) :=
  inTime_requireFrom cmd args 3 3

theorem inTime_status : InTime (Budget.require (Prompt.lag σ)) (status (σ := σ)) :=
  (inTime_require _ _).bind_free fun _ => (inTime_observe _).free_bind fun _ => Within.pure _

theorem inTime_discInBay : InTime (Budget.require (Prompt.lag σ)) (discInBay (σ := σ)) :=
  inTime_status.bind_free fun _ => Within.pure _

theorem inTime_idleOr (msg : String) :
    InTime (Budget.wait (Prompt.lag σ) settleMs) (idleOr (σ := σ) msg) :=
  (inTime_waitState _ _ _).bind_free fun _ => Within.raiseIf _ _

theorem inTime_ensureHomed (progress : Progress) :
    InTime (Budget.ensureHomed (Prompt.lag σ)) (ensureHomed (σ := σ) progress) := by
  refine (inTime_status.bind (c := 2 * Budget.require (Prompt.lag σ) +
    2 * Budget.wait (Prompt.lag σ) settleMs) fun st => ?_).mono (by unfold Budget.ensureHomed; omega)
  apply Within.ite (Within.pure ())
  refine ((inTime_idleOr _).bind fun _ => (inTime_report _ _).free_bind fun _ =>
    (inTime_require _ _).bind fun _ => (inTime_idleOr _).bind fun _ =>
      inTime_status.bind_free fun _ => Within.raiseIf _ _).mono ?_
  omega

theorem inTime_refuse : InTime (Budget.require (Prompt.lag σ)) (refuseWithADiscOut (σ := σ)) :=
  inTime_discInBay.bind_free fun _ => Within.raiseIf _ _

theorem inTime_moveTo (slot : Nat) (eject : Bool) (progress : Progress) :
    InTime (Budget.moveTo (Prompt.lag σ)) (moveTo (σ := σ) slot eject progress) := by
  apply Within.free_bind (Within.raiseIf _ _)
  intro _
  refine ((inTime_idleOr _).bind fun _ => inTime_refuse.bind fun _ =>
    (Within.when (inTime_ensureHomed progress)).bind fun _ => (inTime_require _ _).bind fun _ =>
      inTime_idleOr _).mono ?_
  unfold Budget.moveTo
  omega

theorem inTime_park (progress : Progress) :
    InTime (Budget.moveTo (Prompt.lag σ)) (park (σ := σ) progress) := by
  apply Within.free_bind (inTime_report _ _)
  intro _
  apply Within.attempt_free (inTime_moveTo _ _ _)
  intro e
  exact Within.ite (Within.pure ()) (Within.raise e)

theorem inTime_reset (progress : Progress) :
    InTime (Budget.reset (Prompt.lag σ)) (reset (σ := σ) progress) := by
  refine ((inTime_report _ _).free_bind fun _ => (inTime_command _ _ _).bind fun _ =>
    (inTime_command _ _ _).bind fun _ => (inTime_command _ _ _).bind fun _ =>
    (inTime_idleOr _).bind fun _ => inTime_refuse.bind fun _ => (inTime_command _ _ _).bind fun _ =>
    (inTime_report _ _).free_bind fun _ => (inTime_require _ _).bind fun _ =>
      inTime_idleOr _).mono ?_
  unfold Budget.reset
  omega

theorem inTime_ingest (progress : Progress) :
    InTime (Budget.ingest (Prompt.lag σ)) (ingest (σ := σ) progress) := by
  refine ((inTime_report _ _).free_bind fun _ => (inTime_idleOr _).bind fun _ =>
    (inTime_report _ _).free_bind fun _ => (inTime_require _ _).bind fun _ =>
      inTime_idleOr _).mono ?_
  unfold Budget.ingest
  omega

theorem inTime_retract (progress : Progress) :
    InTime (Budget.retract (Prompt.lag σ)) (retract (σ := σ) progress) := by
  have hacked (handler : Exc → Py σ Bool) (hfree : ∀ exc, InTime 0 (handler exc)) :
      InTime (Budget.require (Prompt.lag σ)) (Prog.attempt
        (do let _ ← require (σ := σ) cmdRetract []; pure true) handler) :=
    Within.attempt_free ((inTime_require _ _).bind_free fun _ => Within.pure true) hfree
  refine ((inTime_report _ _).free_bind fun _ => (inTime_waitState _ _ _).bind fun _ =>
    (hacked _ ?_).bind fun acked => (inTime_idleOr _).bind fun _ => inTime_discInBay.bind_free fun _ =>
      (Within.raiseIf _ _).bind_free fun _ => Within.pure acked).mono ?_
  · intro exc
    cases exc with
    | deviceError msg => exact Within.pure false
    | _ => exact Within.raise _
  · unfold Budget.retract
    omega

/-! ### Opening -/

theorem inTime_readFirmware :
    InTime (2 * Budget.command (Prompt.lag σ) ackMs) (readFirmware (σ := σ)) := by
  refine ((inTime_command _ _ _).bind fun a => (inTime_command _ _ _).bind_free fun b => ?_).mono ?_
  · cases a with
    | none => exact Within.pure none
    | some a =>
      cases b with
      | none => exact Within.pure none
      | some b => exact Within.pure _
  · omega

/-- The greeting goes on for up to one packet, and what it calls for, beyond the deadline. -/
theorem greet_loop (deadline n : Nat) (w : World σ) :
    timeOf (Prog.loop (greet deadline) n w).2.io ≤
      max (timeOf w.io) (deadline + (pollMs + 2 * Prompt.lag σ +
        Budget.command (Prompt.lag σ) ackMs) + Prompt.lag σ) + Prompt.lag σ := by
  have hwrite : 2 * Prompt.lag σ ≤ Budget.command (Prompt.lag σ) ackMs := by
    unfold Budget.command
    omega
  unfold greet
  refine deadline_loop ?_ (Within.raise _) (fun _ _ => nofun) n w
  refine (inTime_read pollMs).bind fun pkt => ?_
  cases pkt with
  | none => exact Within.pure none
  | some pkt =>
    apply Within.free_bind (inTime_modifyDs _)
    intro _
    apply Within.ite
    · exact ((inTime_write _ _ _).bind_free fun _ => Within.pure none).mono hwrite
    · apply Within.ite
      · exact (inTime_modifyDs _).free_bind fun _ => Within.pure _
      · refine (inTime_command _ _ _).bind_free fun reply => ?_
        cases reply with
        | none => exact Within.raise _
        | some reply => exact (inTime_modifyDs _).free_bind fun _ => Within.pure _

theorem inTime_handshake : InTime (Budget.handshake (Prompt.lag σ)) (handshake (σ := σ)) := by
  apply inTime_clock_bind
  intro now n w hw
  have hgreeted := greet_loop (now + 5000) n w
  have hrest : InTime (2 * Budget.command (Prompt.lag σ) ackMs) (do
      let firmware ← readFirmware (σ := σ)
      modifyDs fun ds => { ds with firmware }) :=
    inTime_readFirmware.bind_free fun _ => inTime_modifyDs _
  rw [bind_run]
  unfold Budget.handshake
  rcases hr : Prog.loop (greet (now + 5000)) n w with ⟨u | e | _, w'⟩ <;> rw [hr] at hgreeted <;>
    dsimp only at hgreeted ⊢
  · have hend := hrest n w'
    dsimp only at hend
    omega
  · omega
  · omega

theorem inTime_openOnce :
    InTime (Budget.handshake (Prompt.lag σ) + 2 * Prompt.lag σ) (openOnce (σ := σ)) := by
  have hopens : InTime (Prompt.lag σ) (onOutside (Outside.opens (σ := σ))) :=
    inTime_onOutside fun s => Prompt.opens s
  have hhandshake : InTime (Budget.handshake (Prompt.lag σ) + Prompt.lag σ)
      (Prog.attempt (do handshake (σ := σ); pure none) fun exc => do close; pure (some exc)) := by
    apply Within.attempt (inTime_handshake.bind_free fun _ => Within.pure none)
    intro exc
    exact inTime_close.bind_free fun _ => Within.pure _
  refine (Within.attempt_free (hopens.bind fun _ => (inTime_modifyDs _).free_bind fun _ => hhandshake)
    fun exc => ?_).mono (by omega)
  exact Within.ite (Within.pure _) (Within.raise exc)

theorem inTime_openFrom (last : String) (left : Nat) :
    InTime (left * (Budget.handshake (Prompt.lag σ) + 2 * Prompt.lag σ) +
      (left - 1) * (400 + Prompt.lag σ)) (openFrom (σ := σ) last left) := by
  induction left generalizing last with
  | zero => exact Within.raise _
  | succ left ih =>
    have hsleep : InTime (400 + Prompt.lag σ) (ofOutside fun s : σ => ((), Outside.sleep 400 s)) :=
      inTime_ofOutside fun s => by rw [← Nat.add_assoc]; exact Prompt.sleep 400 s
    have hrest : ∀ last, InTime (left * (Budget.handshake (Prompt.lag σ) + 2 * Prompt.lag σ) +
        left * (400 + Prompt.lag σ)) (do
          Prog.when (decide (0 < left)) (ofOutside fun s : σ => ((), Outside.sleep 400 s))
          openFrom (σ := σ) last left) := by
      intro last
      cases left with
      | zero =>
        apply Within.free_bind _ fun _ => ih last
        exact Within.pure ()
      | succ left =>
        refine ((Within.when hsleep).bind fun _ => ih last).mono ?_
        rw [Nat.add_sub_cancel, Nat.succ_mul left (400 + Prompt.lag σ)]
        omega
    refine (inTime_openOnce.bind (c := left * (Budget.handshake (Prompt.lag σ) + 2 * Prompt.lag σ) +
      left * (400 + Prompt.lag σ)) fun failed => ?_).mono ?_
    · cases failed with
      | none => exact Within.pure ()
      | some exc => exact hrest _
    · rw [Nat.add_sub_cancel, Nat.succ_mul left (Budget.handshake (Prompt.lag σ) + 2 * Prompt.lag σ)]
      omega

theorem inTime_openUnit : InTime (Budget.openUnit (Prompt.lag σ)) (openUnit (σ := σ)) := by
  apply Within.free_bind (Within.gets _)
  intro isOpen
  exact Within.ite (Within.pure ()) (inTime_openFrom "None" 3)

/-! ## The flows -/

theorem inTime_runReset : InTime (Flow.budget (Prompt.lag σ) .reset) (runReset (σ := σ)) := by
  refine ((inTime_setPhase _ _ _).bind fun _ => (inTime_reset _).bind_free fun _ =>
    (inTime_logEvent _ _ _ _).bind_free fun _ => inTime_commit.bind_free fun _ =>
      inTime_modifyJob _).mono ?_
  simp only [Flow.budget]
  omega

theorem inTime_ejectNotTaken (discId slot : Nat) :
    InTime (2 * Prompt.lag σ + Budget.retract (Prompt.lag σ) + Budget.moveTo (Prompt.lag σ))
      (ejectNotTaken (σ := σ) discId slot) := by
  have hretract : InTime (Budget.retract (Prompt.lag σ)) (exceptDeviceError
      (do let acked ← retract (σ := σ) .note; pure (some acked)) fun exc => do
        ejectNotRetracted discId slot exc
        pure none) := by
    apply Within.attempt_free ((inTime_retract _).bind_free fun acked => Within.pure (some acked))
    intro exc
    apply Within.ite _ (Within.raise exc)
    exact ((inTime_modifyTrace _).bind_free fun _ => inTime_logged _ _ _ _ _ _).bind_free fun _ =>
      Within.pure none
  refine ((inTime_setPhase _ _ _).bind fun _ => (inTime_modifyTrace _).free_bind fun _ =>
    hretract.bind (c := Budget.moveTo (Prompt.lag σ)) fun acked => ?_).mono (by omega)
  cases acked with
  | none => exact Within.pure ()
  | some acked =>
    exact (inTime_modifyTrace _).free_bind fun _ => (inTime_park _).bind_free fun _ =>
      inTime_logged _ _ _ _ _ _

theorem inTime_ejectPresented (discId slot : Nat) (title : String) :
    InTime (Budget.wait (Prompt.lag σ) takeWindowMs + Budget.retract (Prompt.lag σ) +
      Budget.moveTo (Prompt.lag σ) + 4 * Prompt.lag σ) (ejectPresented (σ := σ) discId slot title) := by
  refine ((inTime_setPhase _ _ _).bind fun _ => (inTime_modifyTrace _).free_bind fun _ =>
    (inTime_waitState _ _ _).bind (c := 2 * Prompt.lag σ + Budget.retract (Prompt.lag σ) +
      Budget.moveTo (Prompt.lag σ)) fun taken => ?_).mono (by omega)
  apply Within.ite
  · refine ((inTime_setPhase _ _ _).bind fun _ => (inTime_modifyTrace _).free_bind fun _ =>
      (inTime_park _).bind_free fun _ => (inTime_marked discId _ _).bind_free fun _ =>
        inTime_modifyJob _).mono (by omega)
  · exact inTime_ejectNotTaken _ _

theorem inTime_runEject (discId : Nat) :
    InTime (Flow.budget (Prompt.lag σ) (.eject discId)) (runEject (σ := σ) discId) := by
  apply Within.free_bind (inTime_execute _)
  intro disc
  cases disc with
  | none => exact inTime_modifyJob _
  | some disc =>
    refine ((inTime_setPhase _ _ _).bind fun _ => (inTime_modifyTrace _).free_bind fun _ =>
      (inTime_moveTo _ _ _).bind fun _ => inTime_discInBay.bind
        (c := Budget.wait (Prompt.lag σ) takeWindowMs + Budget.retract (Prompt.lag σ) +
          Budget.moveTo (Prompt.lag σ) + 4 * Prompt.lag σ) fun inBay => ?_).mono ?_
    · apply Within.ite (inTime_ejectPresented _ _ _)
      exact ((inTime_setPhase _ _ _).bind fun _ => (inTime_modifyTrace _).free_bind fun _ =>
        (inTime_park _).bind_free fun _ => inTime_logged _ _ _ _ _ _).mono (by omega)
    · simp only [Flow.budget]
      omega

theorem inTime_watch : InTime (Budget.watch (Prompt.lag σ)) (watch (σ := σ)) := by
  apply Within.free_bind (inTime_modifyTrace _)
  intro _
  apply inTime_clock_bind
  intro now n w hw
  have hloop : timeOf (Prog.loop (watchOnce (now + 10000)) n w).2.io ≤ max (timeOf w.io)
      (now + 10000 + Budget.require (Prompt.lag σ) + Prompt.lag σ) + Prompt.lag σ := by
    unfold watchOnce
    refine deadline_loop ?_ (Within.pure (some ())) (fun _ _ => nofun) n w
    exact inTime_status.bind_free fun st => (inTime_modifyTrace _).bind_free fun _ => Within.pure none
  unfold exceptDeviceError Budget.watch
  have hhandler : ∀ exc : Exc, InTime (σ := σ) 0 (if exc.isDeviceError then
      mark ("lost the unit while watching: " ++ exc.text) else Prog.raise exc) := fun exc =>
    Within.ite (inTime_modifyTrace _) (Within.raise exc)
  unfold Prog.attempt
  rcases hr : Prog.loop (watchOnce (now + 10000)) n w with ⟨u | e | _, w'⟩ <;> rw [hr] at hloop <;>
    dsimp only at hloop ⊢
  · omega
  · have hend := hhandler e n w'
    dsimp only at hend
    omega
  · omega

theorem inTime_runAdd (slot : Nat) (discId : Option Nat) :
    InTime (Flow.budget (Prompt.lag σ) (.add slot)) (runAdd (σ := σ) slot discId) := by
  have hfinish : InTime (Budget.watch (Prompt.lag σ)) (addFinish (σ := σ) slot discId) := by
    apply Within.free_bind ((inTime_writeRow slot discId).bind_free fun id =>
      (inTime_observe _).bind_free fun _ => Within.pure id)
    intro id
    refine inTime_watch.bind_free fun _ => ?_
    cases discId with
    | none => exact inTime_modifyJob _
    | some _ => exact (inTime_execute _).bind_free fun _ => inTime_modifyJob _
  have hingest : InTime (Budget.ingest (Prompt.lag σ) + Budget.moveTo (Prompt.lag σ) +
      4 * Prompt.lag σ) (addIngest (σ := σ)) := by
    refine ((inTime_setPhase _ _ _).bind fun _ => (inTime_modifyTrace _).free_bind fun _ =>
      (inTime_ingest _).bind fun _ => (inTime_modifyTrace _).free_bind fun _ =>
        (inTime_setPhase _ _ _).bind fun _ => inTime_park _).mono ?_
    omega
  refine ((inTime_setPhase _ _ _).bind fun _ => (inTime_modifyTrace _).free_bind fun _ =>
    (inTime_moveTo _ _ _).bind fun _ => (inTime_setPhase _ _ _).bind fun _ =>
    (inTime_modifyTrace _).free_bind fun _ => (inTime_waitState _ _ _).bind
      (c := Budget.ingest (Prompt.lag σ) + Budget.moveTo (Prompt.lag σ) + 4 * Prompt.lag σ +
        Budget.watch (Prompt.lag σ)) fun inserted => ?_).mono ?_
  · apply Within.ite (hingest.bind fun _ => hfinish)
    exact ((inTime_setPhase _ _ _).bind fun _ => (inTime_park _).bind_free fun _ =>
      inTime_logged _ _ _ _ _ _).mono (by omega)
  · simp only [Flow.budget]
    omega

theorem inTime_flow (flow : Flow) : InTime (flow.budget (Prompt.lag σ)) (flow.run (σ := σ)) := by
  cases flow with
  | reset => exact inTime_runReset
  | eject discId => exact inTime_runEject discId
  | add slot => exact inTime_runAdd slot none
  | return_ slot discId => exact inTime_runAdd slot (some discId)

theorem inTime_runOwned (traced : Bool) (flow : Flow) :
    InTime (Budget.openUnit (Prompt.lag σ) + flow.budget (Prompt.lag σ))
      (runOwned (σ := σ) traced flow.run) := by
  refine Within.free_bind (inTime_modify fun _ => rfl) fun _ =>
    Within.ensure (c := 0) ?_ inTime_ownedFinally
  apply Within.attempt_free _ inTime_reportFailure
  exact inTime_openUnit.bind fun _ => (inTime_modifyDs _).free_bind fun _ =>
    inTime_connect.free_bind fun _ => inTime_flow flow

end Protocol

/-! ## Every job -/

/-- What the times come to, with every deadline as it stands in the source. -/
theorem openUnit_flow_budget (flow : Flow) (lag : Nat) :
    Budget.openUnit lag + flow.budget lag ≤ 892100 + 800 * lag := by
  cases flow <;>
    simp only [Flow.budget, Budget.openUnit, Budget.handshake, Budget.moveTo, Budget.ensureHomed,
      Budget.reset, Budget.ingest, Budget.retract, Budget.watch, Budget.require, Budget.wait,
      Budget.command, ackMs, pollMs, nowMs, settleMs, insertWindowMs, takeWindowMs] <;>
    omega

/-- **Every job is over in time.** Whatever the unit answers or leaves unanswered, and whatever the
database refuses, a job that starts ends, and is terminal, within fifteen minutes and what the calls
themselves take, if the clock does not run back and does not stand still for ever while reports are
read. -/
theorem job_over_in_time [Paced σ] [Prompt σ] (traced : Bool) (flow : Flow) (title : String)
    (discId slot : Option Nat) (w : World σ) :
    ∃ N w', (∀ n, N ≤ n →
      runOwned traced flow.run n { w with job := Job.new title discId slot } = (.ok (), w')) ∧
      w'.job.done = true ∧ timeOf w'.io ≤ timeOf w.io + 892100 + 800 * Prompt.lag σ := by
  obtain ⟨N, w', hdone, hrun⟩ := runOwned_ends w traced flow title discId slot
  refine ⟨N, w', hrun, hdone, ?_⟩
  have htime := inTime_runOwned traced flow N { w with job := Job.new title discId slot }
  have hsum := openUnit_flow_budget flow (Prompt.lag σ)
  rw [hrun N (Nat.le_refl N)] at htime
  dsimp only at htime
  omega

instance : Ticks Repeater where
  opens _ := Nat.le_refl _
  closes _ := Nat.le_refl _
  read _ _ r := Nat.add_le_add_left (show 1 ≤ 5000 by decide) r.now
  write _ _ := Nat.le_refl _
  clock _ := Nat.le_refl _
  sleep ms r := Nat.le_add_right r.now ms
  cue _ _ := Nat.le_refl _

/-- It takes five seconds over a read, whatever it was asked to wait. -/
instance : Prompt Repeater where
  lag := 5000
  opens r := Nat.le_add_right r.now 5000
  closes r := Nat.le_add_right r.now 5000
  read _ timeout_ms r := Nat.add_le_add_right (Nat.le_add_right r.now timeout_ms) 5000
  write _ r := Nat.le_add_right r.now 5000
  clock r := Nat.le_add_right r.now 5000
  sleep ms r := Nat.le_add_right (r.now + ms) 5000
  cue _ r := Nat.le_add_right r.now 5000

/-- The unit whose packets never answer a command. -/
def deaf : World Repeater := World.boot ⟨true, [0x01, 0, 0, cmdGetSerial, 0, 0, 0, 1], 0⟩ []

theorem job_over_in_time_deaf : ∃ N w', (∀ n, N ≤ n →
    runOwned true (Flow.run (.add 7)) n
      { deaf with job := Job.new "Load a disc into slot 7" none (some 7) } = (.ok (), w')) ∧
    w'.job.done = true ∧ timeOf w'.io ≤ timeOf deaf.io + 892100 + 800 * Prompt.lag Repeater :=
  job_over_in_time true (.add 7) "Load a disc into slot 7" none (some 7) deaf

end StakkaWeb
