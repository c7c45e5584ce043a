import StakkaWeb.Laws.Kept
import StakkaWeb.Lib.Speech
import StakkaWeb.Orders

/-!
# What the unit is ordered to do

Whatever the unit answers, and whatever the database does, each call keeps to its language: a job
gives its orders in the order of the source, none of them more often than it may retry, and nothing
that has the unit act before the order it depends on was sent. The methods are gone through once,
each with what it orders when it returns and what it may have ordered when it does not.
-/

set_option autoImplicit false

open Lib Lib.Prog
open scoped Computability

namespace StakkaWeb

section Algebra

variable {o : Order} {k : Nat} {l : Language Order}

theorem one_le_polls : 1 ≤ polls := one_le_kstar

theorem polls_mul_polls : polls * polls = polls := kstar_mul_kstar _

theorem once_le_polls : once (order cmdRequestState []) ≤ polls := le_kstar

theorem one_le_tries : 1 ≤ tries o k := by
  apply one_le_pow_of_one_le'
  exact one_le_mul le_self_add one_le_polls

theorem tries_succ : tries o (k + 1) = (1 + once o) * polls * tries o k := pow_succ' _ k

/-- Polls after the last try are part of it. -/
theorem tries_mul_polls : tries o (k + 1) * polls = tries o (k + 1) := by
  rw [tries, pow_succ, mul_assoc, mul_assoc (1 + once o), polls_mul_polls]

theorem sent_mul_polls : sent o * polls = sent o := by
  rw [sent, mul_assoc, tries_mul_polls]

/-- Parking after a retract begins with polls that could be the retract's. -/
theorem retracted_parked {p : Order} {j : Nat} : polls * tries o (k + 1) * (polls * tries p j) =
    polls * (tries o (k + 1) * tries p j) := by
  rw [mul_assoc, ← mul_assoc (tries o (k + 1)), tries_mul_polls]

theorem sent_le_tries : sent o ≤ tries o 3 := by
  rw [tries_succ]
  exact mul_le_mul' (mul_le_mul' le_add_self le_rfl) le_rfl

end Algebra

variable {σ : Type} [Outside σ]

/-! ## What keeps within one language -/

/-- The orders of the tape are those of `base` and a word of `l`. -/
def After (l : Language Order) (base : List Order) (w : World (Taped σ)) : Prop :=
  ∃ u ∈ l, orders w = base ++ u

omit [Outside σ] in
theorem After.write {l : Language Order} {base : List Order} {w : World (Taped σ)}
    (h : After l base w) (unit msgid cmd : Nat) (args : List Nat) (inner : σ)
    (hl : l * once (order cmd args) ≤ l) :
    After l base { w with io := w.io.note (.write (reportBytes unit msgid cmd args)) inner } := by
  obtain ⟨u, hu, horders⟩ := h
  refine ⟨u ++ [order cmd args], hl (Language.append_mem_mul hu rfl), ?_⟩
  rw [← List.append_assoc, ← horders]
  exact List.reverse_cons

/-- Code that orders only what `W` allows keeps within a language that those orders do not leave. -/
theorem after_kept {W : Nat → List Nat → Prop} {l : Language Order}
    (hW : ∀ cmd args, W cmd args → l * once (order cmd args) ≤ l) (base : List Order) :
    FlowKept W (After (σ := σ) l base) where
  opens _ h := h
  closes _ h := h
  read _ _ h := h
  write unit msgid cmd args _ hw h := h.write unit msgid cmd args _ (hW cmd args hw)
  clock _ h := h
  sleep _ _ h := h
  shut _ h := h
  answered _ _ _ _ _ h := h
  note _ _ h := h
  trace _ _ h := h
  word _ _ h := h
  job _ _ h := h
  phase _ _ h := h

/-- Nothing is ordered. -/
theorem silent_kept (base : List Order) :
    FlowKept (fun _ _ => False) (After (σ := σ) 1 base) :=
  after_kept (fun _ _ => False.elim) base

/-- Only the status is asked for. -/
abbrev Polls (cmd : Nat) (args : List Nat) : Prop := cmd = cmdRequestState ∧ args = []

theorem polls_kept (base : List Order) : FlowKept Polls (After (σ := σ) polls base) := by
  apply after_kept
  rintro cmd args ⟨rfl, rfl⟩
  exact kstar_mul_le_kstar

omit [Outside σ] in
theorem after_connFree (l : Language Order) (base : List Order) :
    ConnFree (After (σ := σ) l base) := fun _ _ h => h

section Methods

variable {α : Type} (w : World (Taped σ))

omit [Outside σ] in
theorem speaks_polls {m : Py (Taped σ) α} (h : ∀ base, Keeps (After polls base) m) :
    Speaks orders polls polls m w :=
  Speaks.of_keeps one_le_polls h

omit [Outside σ] in
theorem speaks_silent {m : Py (Taped σ) α} (h : ∀ base, Keeps (After 1 base) m) :
    Mute orders m w :=
  Speaks.of_keeps le_rfl h

/-! ## The methods -/

theorem silent_read (timeout_ms : Nat) : Mute orders (read (σ := Taped σ) timeout_ms) w :=
  speaks_silent w fun base => (silent_kept base).keepsRead timeout_ms

theorem silent_clock : Mute orders (clock (σ := Taped σ)) w :=
  speaks_silent w fun base => (silent_kept base).keepsClock

/-- The transport is handed one order. -/
theorem speaks_transfer (unit msgid cmd : Nat) (args : List Nat) :
    Speaks orders (once (order cmd args)) (once (order cmd args))
      (onOutside (Outside.write (σ := Taped σ) (reportBytes unit msgid cmd args))) w := by
  apply Speaks.of_adds
  intro n
  have hstate : (onOutside (Outside.write (reportBytes unit msgid cmd args)) n w).2 =
      { w with io := (Outside.write (reportBytes unit msgid cmd args) w.io).2 } := by
    rcases hr : Outside.write (reportBytes unit msgid cmd args) w.io with ⟨_ | _, s⟩ <;>
      simp only [onOutside, call, hr]
  rw [hstate]
  exact ⟨[order cmd args], rfl, List.reverse_cons⟩

/-- A write that returns has put its order on the wire. -/
theorem speaks_write (msgid cmd : Nat) (args : List Nat) :
    Speaks orders (once (order cmd args)) (1 + once (order cmd args))
      (write (σ := Taped σ) msgid cmd args) w := by
  apply Speaks.silent_bind (Speaks.gets _) le_self_add
  intro _ ds w _
  apply Speaks.silent_bind (Speaks.raiseIf _ _) le_self_add
  intro _ _ w _
  apply Speaks.silent_bind (Speaks.raiseIf _ _) le_self_add
  intro _ _ w _
  apply Speaks.bind_silent _ le_add_self fun _ _ _ _ => Speaks.raiseIf _ _
  have hclose (exc : Exc) (w : World (Taped σ)) : Speaks orders 0 1
      (if exc.isOsError then do
        close
        Prog.raise (.notConnected ("write failed: " ++ exc.text))
      else Prog.raise exc : Py (Taped σ) Int) w := by
    apply Speaks.ite
    · intro _
      exact (speaks_silent w fun base => (silent_kept base).close).andThen
        (fun _ _ _ _ => Speaks.raise _) (one_mul 0).le le_rfl (one_mul 1).le
    · exact fun _ => Speaks.raise exc
  apply ((speaks_transfer w ds.unit msgid cmd args).attempt fun _ exc w _ => hclose exc w).mono
  · rw [mul_zero, add_zero]
  · rw [mul_one, add_idem]
    exact le_add_self

theorem silent_awaitReply (cmd msgid deadline : Nat) (base : List Order) :
    Keeps (After 1 base) (awaitReply (σ := Taped σ) cmd msgid deadline) := by
  apply (silent_kept base).keepsClock.bind
  intro now
  apply Keeps.ite _ (Keeps.pure _)
  apply ((silent_kept base).keepsRead _).bind
  intro reply
  cases reply with
  | none => exact Keeps.pure _
  | some p =>
    apply Keeps.ite _ (Keeps.pure _)
    exact (keeps_observe fun w h => h).bind fun _ => Keeps.pure _

/-- A command that returns has been sent, once, whether or not it was answered. -/
theorem speaks_command (cmd : Nat) (args : List Nat) (timeout_ms : Nat) :
    Speaks orders (once (order cmd args)) (1 + once (order cmd args))
      (command (σ := Taped σ) cmd args timeout_ms) w := by
  apply Speaks.silent_bind (silent_read w timeout_ms) le_self_add
  intro _ seed w _
  cases seed with
  | none => exact (Speaks.raise _).mono le_rfl le_self_add
  | some seed =>
    apply (speaks_write w _ cmd args).bind_silent le_add_self
    intro _ _ w _
    apply Speaks.silent_bind (silent_clock w) le_rfl
    intro _ now w _
    exact speaks_silent w fun base => Keeps.loop (silent_awaitReply _ _ _ base)

theorem polls_waitState (mask want timeout_ms : Nat) :
    Speaks orders polls polls (waitState (σ := Taped σ) mask want timeout_ms) w :=
  speaks_polls w fun base => (polls_kept base).waitState ⟨rfl, rfl⟩ mask want timeout_ms

theorem polls_status : Speaks orders polls polls (status (σ := Taped σ)) w :=
  speaks_polls w fun base => (polls_kept base).status ⟨rfl, rfl⟩

theorem polls_discInBay : Speaks orders polls polls (discInBay (σ := Taped σ)) w :=
  speaks_polls w fun base => (polls_kept base).discInBay ⟨rfl, rfl⟩

theorem polls_idleOr (msg : String) : Speaks orders polls polls (idleOr (σ := Taped σ) msg) w :=
  speaks_polls w fun base => (polls_kept base).idleOr ⟨rfl, rfl⟩ msg

theorem polls_refuseWithADiscOut :
    Speaks orders polls polls (refuseWithADiscOut (σ := Taped σ)) w :=
  speaks_polls w fun base => (polls_kept base).refuseWithADiscOut ⟨rfl, rfl⟩

theorem silent_report (progress : Progress) (message : String) :
    Mute orders (report (σ := Taped σ) progress message) w :=
  speaks_silent w fun base => (silent_kept base).report progress message

/-- One attempt of `require` and those left. -/
theorem speaks_attempt {cmd : Nat} {args : List Nat} {tries_ left : Nat}
    (hleft : ∀ w, Speaks orders (tries (order cmd args) left) (tries (order cmd args) left)
      (requireFrom (σ := Taped σ) cmd args tries_ left) w) :
    Speaks orders (once (order cmd args) * polls * tries (order cmd args) left)
      (tries (order cmd args) (left + 1)) (requireFrom (σ := Taped σ) cmd args tries_ (left + 1)) w := by
  have hone : (1 : Language Order) ≤ polls * tries (order cmd args) left :=
    one_le_mul one_le_polls one_le_tries
  have hsent : once (order cmd args) * (polls * tries (order cmd args) left) ≤
      once (order cmd args) * polls * tries (order cmd args) left := by
    rw [mul_assoc]
  have hfirst : 1 + once (order cmd args) ≤ tries (order cmd args) (left + 1) := by
    rw [tries_succ, mul_assoc]
    exact le_mul_of_one_le_right' hone
  have hmore : once (order cmd args) * (polls * tries (order cmd args) left) ≤
      tries (order cmd args) (left + 1) := by
    rw [tries_succ, mul_assoc]
    exact mul_le_mul' le_add_self le_rfl
  apply (speaks_command w cmd args ackMs).andThen _ hsent hfirst hmore
  intro _ reply w _
  cases reply with
  | some p => exact (Speaks.pure p).mono hone le_rfl
  | none =>
    have hwait : Speaks orders polls polls (Prog.when (decide (0 < left)) do
        let _ ← waitIdle (σ := Taped σ) 2000
        pure ()) w := by
      unfold Prog.when
      apply Speaks.ite
      · intro _
        exact (polls_waitState w _ _ _).bind_silent le_rfl fun _ _ _ _ => Speaks.pure ()
      · exact fun _ => (Speaks.pure ()).mono one_le_polls le_rfl
    exact hwait.andThen (fun _ _ w _ => hleft w) le_rfl (le_mul_of_one_le_right' one_le_tries) le_rfl

theorem speaks_requireFrom (cmd : Nat) (args : List Nat) (tries_ left : Nat) :
    Speaks orders (tries (order cmd args) left) (tries (order cmd args) left)
      (requireFrom (σ := Taped σ) cmd args tries_ left) w := by
  induction left generalizing w with
  | zero => exact (Speaks.raise _).mono le_rfl one_le_tries
  | succ left ih =>
    apply (speaks_attempt w ih).mono _ le_rfl
    rw [tries_succ]
    exact mul_le_mul' (mul_le_mul' le_add_self le_rfl) le_rfl

/-- **`require` sends its command before it returns**, and at most three times in all. -/
theorem speaks_require (cmd : Nat) (args : List Nat) :
    Speaks orders (sent (order cmd args)) (tries (order cmd args) 3)
      (require (σ := Taped σ) cmd args) w :=
  speaks_attempt w fun w => speaks_requireFrom w cmd args 3 2

/-! ## The moves -/

variable {w} {β : Type} {l e : Language Order} {m : Py (Taped σ) α} {f : α → Py (Taped σ) β}

omit [Outside σ] in
/-- Polls before what may begin with polls. -/
theorem polls_bind (hm : Speaks orders polls polls m w) (hone : 1 ≤ e)
    (hf : ∀ n a w', m n w = (.ok a, w') → Speaks orders (polls * l) (polls * e) (f a) w') :
    Speaks orders (polls * l) (polls * e) (m >>= f) w := by
  apply hm.andThen hf
  · rw [← mul_assoc, polls_mul_polls]
  · exact le_mul_of_one_le_right' hone
  · rw [← mul_assoc, polls_mul_polls]

omit [Outside σ] in
/-- What may begin with polls need not. -/
theorem behind_polls (hm : Speaks orders l e m w) (hle : l ≤ e) :
    Speaks orders (polls * e) (polls * e) m w :=
  hm.mono (hle.trans (le_mul_of_one_le_left' one_le_polls)) (le_mul_of_one_le_left' one_le_polls)

omit [Outside σ] in
/-- Polls after what may end with polls. -/
theorem bind_polls (hm : Speaks orders l e m w) (hl : l * polls = l) (hle : l ≤ e)
    (hf : ∀ n a w', m n w = (.ok a, w') → Speaks orders polls polls (f a) w') :
    Speaks orders l e (m >>= f) w :=
  hm.andThen hf hl.le le_rfl (hl.le.trans hle)

variable (w) {c : Catalog}

theorem speaks_ensureHomed (progress : Progress) :
    Speaks orders (polls * tries goHome 3) (polls * tries goHome 3)
      (ensureHomed (σ := Taped σ) progress) w := by
  have hends : polls * tries goHome 3 * polls = polls * tries goHome 3 := by
    rw [mul_assoc, tries_mul_polls]
  apply polls_bind (polls_status w) one_le_tries
  intro _ st w _
  apply Speaks.ite
  · exact fun _ => (Speaks.pure ()).mono (one_le_mul one_le_polls one_le_tries) le_rfl
  intro _
  apply polls_bind (polls_idleOr w _) one_le_tries
  intro _ _ w _
  apply (silent_report w _ _).silent_bind (one_le_mul one_le_polls one_le_tries)
  intro _ _ w _
  have hrequire : Speaks orders (polls * tries goHome 3) (polls * tries goHome 3)
      (require (σ := Taped σ) cmdSetPos [home]) w :=
    behind_polls (speaks_require w cmdSetPos [home]) sent_le_tries
  apply bind_polls hrequire hends le_rfl
  intro _ _ w _
  apply bind_polls (polls_idleOr w _) polls_mul_polls le_rfl
  intro _ _ w _
  apply (polls_status w).bind_silent le_rfl
  exact fun _ _ _ _ => Speaks.raiseIf _ _

/-- The command of a move, and the wait for it. -/
theorem speaks_turned (cmd : Nat) (args : List Nat) (msg : String) :
    Speaks orders (sent (order cmd args)) (tries (order cmd args) 3) (do
      let _ ← require (σ := Taped σ) cmd args
      idleOr msg) w :=
  bind_polls (speaks_require w cmd args) sent_mul_polls sent_le_tries fun _ _ w _ => polls_idleOr w msg

/-- A move homes the carousel where it has to, and turns it when that is done. -/
theorem speaks_moveTo (slot : Nat) (eject : Bool) (progress : Progress) :
    Speaks orders (polls * (tries goHome 3 * sent (turn slot eject)))
      (polls * (tries goHome 3 * tries (turn slot eject) 3))
      (moveTo (σ := Taped σ) slot eject progress) w := by
  have hone : 1 ≤ tries goHome 3 * tries (turn slot eject) 3 := one_le_mul one_le_tries one_le_tries
  apply (Speaks.raiseIf _ _).silent_bind (one_le_mul one_le_polls hone)
  intro _ _ w _
  apply polls_bind (polls_idleOr w _) hone
  intro _ _ w _
  apply polls_bind (polls_refuseWithADiscOut w) hone
  intro _ _ w _
  have hhomed : Speaks orders (polls * tries goHome 3) (polls * tries goHome 3)
      (Prog.when (decide (slot ≠ home)) (ensureHomed (σ := Taped σ) progress)) w := by
    unfold Prog.when
    apply Speaks.ite
    · exact fun _ => speaks_ensureHomed w progress
    · exact fun _ => (Speaks.pure ()).mono (one_le_mul one_le_polls one_le_tries) le_rfl
  apply hhomed.andThen (fun _ _ w _ => speaks_turned w cmdSetPos [slot, if eject then 1 else 0] _)
  · rw [mul_assoc]
    rfl
  · rw [← mul_assoc]
    exact le_mul_of_one_le_right' one_le_tries
  · rw [mul_assoc]
    rfl

/-- To park, it does not home first. -/
theorem speaks_park (progress : Progress) :
    Speaks orders (polls * tries goHome 3) (polls * tries goHome 3)
      (park (σ := Taped σ) progress) w := by
  have hone : 1 ≤ polls * tries goHome 3 := one_le_mul one_le_polls one_le_tries
  apply (silent_report w _ _).silent_bind hone
  intro _ _ w _
  have hmove : Speaks orders (polls * tries goHome 3) (polls * tries goHome 3)
      (moveTo (σ := Taped σ) home false .none) w := by
    apply (Speaks.raiseIf _ _).silent_bind hone
    intro _ _ w _
    apply polls_bind (polls_idleOr w _) one_le_tries
    intro _ _ w _
    apply polls_bind (polls_refuseWithADiscOut w) one_le_tries
    intro _ _ w _
    apply (Speaks.pure ()).silent_bind hone
    intro _ _ w _
    exact behind_polls (speaks_turned w cmdSetPos [home, 0] _) sent_le_tries
  have hhandler (exc : Exc) (w : World (Taped σ)) :
      Mute orders (if exc.isDeviceError then pure () else Prog.raise exc : Py (Taped σ) Unit) w :=
    Speaks.ite (fun _ => Speaks.pure ()) fun _ => Speaks.raise exc
  exact hmove.attempt_silent fun _ exc w _ => hhandler exc w

theorem speaks_ingest (progress : Progress) :
    Speaks orders (polls * sent (order cmdAcceptDisc [])) (polls * tries (order cmdAcceptDisc []) 3)
      (ingest (σ := Taped σ) progress) w := by
  have hone : 1 ≤ polls * tries (order cmdAcceptDisc []) 3 := one_le_mul one_le_polls one_le_tries
  apply (silent_report w _ _).silent_bind hone
  intro _ _ w _
  apply polls_bind (polls_idleOr w _) one_le_tries
  intro _ _ w _
  apply (silent_report w _ _).silent_bind hone
  intro _ _ w _
  apply (speaks_turned w cmdAcceptDisc [] _).mono
  · exact le_mul_of_one_le_left' one_le_polls
  · exact le_mul_of_one_le_left' one_le_polls

theorem speaks_retract (progress : Progress) :
    Speaks orders (polls * tries (order cmdRetract []) 3) (polls * tries (order cmdRetract []) 3)
      (retract (σ := Taped σ) progress) w := by
  have hone : 1 ≤ polls * tries (order cmdRetract []) 3 := one_le_mul one_le_polls one_le_tries
  have hends : polls * tries (order cmdRetract []) 3 * polls =
      polls * tries (order cmdRetract []) 3 := by
    rw [mul_assoc, tries_mul_polls]
  have hacked (handler : Exc → Py (Taped σ) Bool) (w : World (Taped σ))
      (hsilent : ∀ exc w, Mute orders (handler exc) w) :
      Speaks orders (polls * tries (order cmdRetract []) 3) (polls * tries (order cmdRetract []) 3)
        (Prog.attempt (do let _ ← require (σ := Taped σ) cmdRetract []; pure true) handler) w := by
    have hrequire := (speaks_require w cmdRetract []).bind_silent sent_le_tries
      (f := fun _ => pure true) fun _ _ _ _ => Speaks.pure true
    exact (behind_polls hrequire sent_le_tries).attempt_silent fun _ exc w _ => hsilent exc w
  apply (silent_report w _ _).silent_bind hone
  intro _ _ w _
  apply polls_bind (polls_waitState w _ _ _) one_le_tries
  intro _ _ w _
  apply bind_polls (hacked _ w _) hends le_rfl
  · intro _ acked w _
    apply bind_polls (polls_idleOr w _) polls_mul_polls le_rfl
    intro _ _ w _
    apply (polls_discInBay w).bind_silent le_rfl
    intro _ _ w _
    exact (Speaks.raiseIf _ _).bind_silent le_rfl fun _ _ _ _ => Speaks.pure acked
  · intro exc w
    cases exc with
    | deviceError msg => exact Speaks.pure false
    | _ => exact Speaks.raise _

/-- A command that is sent but once, and what comes after it. -/
theorem speaks_then {cmd : Nat} {args : List Nat} {f : Option Packet → Py (Taped σ) β}
    (hone : 1 ≤ l) (hf : ∀ reply w, Speaks orders l l (f reply) w) :
    Speaks orders (1 + once (order cmd args) * l) (1 + once (order cmd args) * l)
      (command (σ := Taped σ) cmd args ackMs >>= f) w :=
  (speaks_command w cmd args ackMs).andThen (fun _ reply w _ => hf reply w) le_add_self
    (add_le_add le_rfl (le_mul_of_one_le_right' hone)) le_add_self

/-- The rest of `reset` after its second clear-error command. -/
theorem speaks_cleared (progress : Progress) :
    Speaks orders (polls * (1 + once (order cmdSetLed [1, 1]) * tries goHome 3))
      (polls * (1 + once (order cmdSetLed [1, 1]) * tries goHome 3)) (do
        idleOr (σ := Taped σ) "unit stayed busy; it may need a power cycle"
        refuseWithADiscOut
        let _ ← command cmdSetLed [1, 1] ackMs
        report progress "Homing carousel..."
        let _ ← require cmdSetPos [home]
        idleOr "timed out returning to home") w := by
  apply polls_bind (polls_idleOr w _) le_self_add
  intro _ _ w _
  apply polls_bind (polls_refuseWithADiscOut w) le_self_add
  intro _ _ w _
  apply behind_polls (speaks_then w one_le_tries _) le_rfl
  intro _ w
  apply (silent_report w _ _).silent_bind one_le_tries
  intro _ _ w _
  exact (speaks_turned w cmdSetPos [home] _).mono sent_le_tries le_rfl

theorem speaks_reset (progress : Progress) :
    Speaks orders (Flow.language c .reset) (Flow.language c .reset)
      (reset (σ := Taped σ) progress) w := by
  have hled : 1 ≤ polls * (1 + once (order cmdSetLed [1, 1]) * tries goHome 3) :=
    one_le_mul one_le_polls le_self_add
  apply (silent_report w _ _).silent_bind (one_le_mul one_le_polls le_self_add)
  intro _ _ w _
  have hasked := (speaks_command w cmdRequestState [] ackMs).mono once_le_polls
    (add_le one_le_polls once_le_polls)
  apply polls_bind hasked le_self_add
  intro _ _ w _
  apply behind_polls (speaks_then w le_self_add _) le_rfl
  intro _ w
  rw [mul_assoc]
  exact speaks_then w hled fun _ w => speaks_cleared w progress

/-! ## The flows -/

theorem silent_setPhase (p : Phase) (message : String) (window_s : Option Nat) :
    Mute orders (setPhase (σ := Taped σ) p message window_s) w :=
  speaks_silent w fun base => (silent_kept base).setPhase p message window_s

theorem silent_mark (label : String) : Mute orders (mark (σ := Taped σ) label) w :=
  speaks_silent w fun base => FlowKept.mark (silent_kept base).trace label

theorem silent_fail (error : String) (result : JobResult) :
    Mute orders (fail (σ := Taped σ) error result) w :=
  speaks_silent w fun base => (silent_kept base).fail error result

omit [Outside σ] in
/-- An event, and what the job comes to. -/
theorem silent_logged (kind : EventKind) (discId slot : Option Nat) (detail : Option String)
    {m : Py (Taped σ) Unit} (hm : ∀ base, Keeps (After 1 base) m) :
    Mute orders (do
      logEvent (σ := Taped σ) kind discId slot detail
      commit
      m) w :=
  speaks_silent w fun base => ((after_connFree 1 base).logEvent kind discId slot detail).bind fun _ =>
    (after_connFree 1 base).commit.bind fun _ => hm base

theorem speaks_runReset :
    Speaks orders (Flow.language c .reset) (Flow.language c .reset) (runReset (σ := Taped σ)) w := by
  apply (silent_setPhase w _ _ _).silent_bind (one_le_mul one_le_polls le_self_add)
  intro _ _ w _
  apply (speaks_reset w _).bind_silent le_rfl
  intro _ _ w _
  exact silent_logged w _ _ _ _ fun base => (silent_kept base).succeed _ _

/-- Parking, and then the database and the job. -/
theorem speaks_parked {m : Py (Taped σ) Unit} (hm : ∀ w, Mute orders m w) :
    Speaks orders (polls * tries goHome 3) (polls * tries goHome 3)
      (do park (σ := Taped σ) .none; m) w :=
  (speaks_park w .none).bind_silent le_rfl fun _ _ w _ => hm w

theorem speaks_ejectFoundNothing (discId slot : Nat) :
    Speaks orders (polls * tries goHome 3) (polls * tries goHome 3)
      (ejectFoundNothing (σ := Taped σ) discId slot) w := by
  have hone : 1 ≤ polls * tries goHome 3 := one_le_mul one_le_polls one_le_tries
  apply (silent_setPhase w _ _ _).silent_bind hone
  intro _ _ w _
  apply (silent_mark w _).silent_bind hone
  intro _ _ w _
  exact speaks_parked w fun w => silent_logged w _ _ _ _ fun base => (silent_kept base).fail _ _

theorem speaks_ejectTaken (discId slot : Nat) (title : String) :
    Speaks orders (polls * tries goHome 3) (polls * tries goHome 3)
      (ejectTaken (σ := Taped σ) discId slot title) w := by
  have hone : 1 ≤ polls * tries goHome 3 := one_le_mul one_le_polls one_le_tries
  apply (silent_setPhase w _ _ _).silent_bind hone
  intro _ _ w _
  apply (silent_mark w _).silent_bind hone
  intro _ _ w _
  apply speaks_parked
  intro w
  exact speaks_silent w fun base => ((after_connFree 1 base).markOut _ _ _).bind fun _ =>
    (silent_kept base).succeed _ _

theorem speaks_ejectNotTaken (discId slot : Nat) :
    Speaks orders (polls * (tries (order cmdRetract []) 3 * tries goHome 3))
      (polls * (tries (order cmdRetract []) 3 * tries goHome 3))
      (ejectNotTaken (σ := Taped σ) discId slot) w := by
  have hone : 1 ≤ polls * (tries (order cmdRetract []) 3 * tries goHome 3) :=
    one_le_mul one_le_polls (one_le_mul one_le_tries one_le_tries)
  apply (silent_setPhase w _ _ _).silent_bind hone
  intro _ _ w _
  apply (silent_mark w _).silent_bind hone
  intro _ _ w _
  have hretract : Speaks orders (polls * tries (order cmdRetract []) 3)
      (polls * tries (order cmdRetract []) 3) (exceptDeviceError
        (do let acked ← retract (σ := Taped σ) .note; pure (some acked)) fun exc => do
          ejectNotRetracted discId slot exc
          pure none) w := by
    apply ((speaks_retract w _).bind_silent le_rfl fun _ _ _ _ => Speaks.pure _).attempt_silent
    intro _ exc w _
    apply Speaks.ite _ fun _ => Speaks.raise exc
    intro _
    apply Speaks.bind_silent _ le_rfl fun _ _ _ _ => Speaks.pure none
    apply (silent_mark w _).silent_bind le_rfl
    intro _ _ w _
    exact silent_logged w _ _ _ _ fun base => (silent_kept base).fail _ _
  have hparked := (retracted_parked (o := order cmdRetract []) (k := 2) (p := goHome) (j := 3)).le
  apply hretract.andThen _ hparked (mul_le_mul' le_rfl (le_mul_of_one_le_right' one_le_tries)) hparked
  intro _ acked w _
  cases acked with
  | none => exact (Speaks.pure ()).mono (one_le_mul one_le_polls one_le_tries) le_rfl
  | some acked =>
    apply (silent_mark w _).silent_bind (one_le_mul one_le_polls one_le_tries)
    intro _ _ w _
    exact speaks_parked w fun w => silent_logged w _ _ _ _ fun base => (silent_kept base).fail _ _

/-- What an eject does once its disc has come up: it may retract it, and parks. -/
theorem speaks_presented (discId slot : Nat) (title : String) (inBay : Bool) :
    Speaks orders (polls * (tries (order cmdRetract []) 3 * tries goHome 3))
      (polls * (tries (order cmdRetract []) 3 * tries goHome 3))
      (if inBay then ejectPresented (σ := Taped σ) discId slot title
        else ejectFoundNothing discId slot) w := by
  have hone : 1 ≤ tries (order cmdRetract []) 3 * tries goHome 3 :=
    one_le_mul one_le_tries one_le_tries
  have hparked : polls * tries goHome 3 ≤ polls * (tries (order cmdRetract []) 3 * tries goHome 3) :=
    mul_le_mul' le_rfl (le_mul_of_one_le_left' one_le_tries)
  apply Speaks.ite
  · intro _
    apply (silent_setPhase w _ _ _).silent_bind (one_le_mul one_le_polls hone)
    intro _ _ w _
    apply (silent_mark w _).silent_bind (one_le_mul one_le_polls hone)
    intro _ _ w _
    apply polls_bind (polls_waitState w _ _ _) hone
    intro _ _ w _
    apply Speaks.ite
    · exact fun _ => (speaks_ejectTaken w discId slot title).mono hparked hparked
    · exact fun _ => speaks_ejectNotTaken w discId slot
  · exact fun _ => (speaks_ejectFoundNothing w discId slot).mono hparked hparked

/-- A move, and what is done there once it has been sent. -/
theorem speaks_moved (slot : Nat) (eject : Bool) (progress : Progress) {f : Unit → Py (Taped σ) β}
    (hf : ∀ w, Speaks orders (polls * l) (polls * l) (f ()) w) :
    Speaks orders
      (polls * tries goHome 3 * (tries (turn slot eject) 3 + sent (turn slot eject) * l))
      (polls * tries goHome 3 * (tries (turn slot eject) 3 + sent (turn slot eject) * l))
      (moveTo (σ := Taped σ) slot eject progress >>= f) w := by
  have hsent : polls * (tries goHome 3 * sent (turn slot eject)) * (polls * l) ≤
      polls * tries goHome 3 * (tries (turn slot eject) 3 + sent (turn slot eject) * l) := by
    calc _ = polls * tries goHome 3 * (sent (turn slot eject) * polls * l) := by simp only [mul_assoc]
      _ = polls * tries goHome 3 * (sent (turn slot eject) * l) := by rw [sent_mul_polls]
      _ ≤ _ := mul_le_mul' le_rfl le_add_self
  apply (speaks_moveTo w slot eject progress).andThen (fun _ _ w _ => hf w) hsent _ hsent
  rw [← mul_assoc]
  exact mul_le_mul' le_rfl le_self_add

theorem one_le_moved {o : Order} :
    1 ≤ polls * tries goHome 3 * (tries o 3 + sent o * l) :=
  one_le_mul (one_le_mul one_le_polls one_le_tries) (one_le_tries.trans le_self_add)

omit [Outside σ] in
theorem one_le_language (flow : Flow) : 1 ≤ flow.language c := by
  cases flow with
  | reset => exact one_le_mul one_le_polls le_self_add
  | eject discId =>
    simp only [Flow.language]
    cases c.getDisc discId with
    | none => exact le_rfl
    | some disc => exact one_le_moved
  | add slot | return_ slot discId => exact one_le_moved

omit [Outside σ] in
/-- The row that an eject goes by. -/
theorem getDisc_view {discId n : Nat} {w w' : World (Taped σ)} {found : Option Disc}
    (hr : getDisc (σ := Taped σ) discId n w = (.ok found, w')) :
    found = w.conn.view.getDisc discId := by
  unfold getDisc execute call at hr
  dsimp only at hr
  split at hr <;> rename_i heq <;> split at heq <;> cases heq <;> cases hr
  rfl

theorem speaks_runEject (discId : Nat) (hview : w.conn.view = c) :
    Speaks orders (Flow.language c (.eject discId)) (Flow.language c (.eject discId))
      (runEject (σ := Taped σ) discId) w := by
  have hsilent : Mute orders (getDisc (σ := Taped σ) discId) w :=
    speaks_silent w fun base => (after_connFree 1 base).execute _
  have hone : 1 ≤ Flow.language c (.eject discId) := one_le_language (.eject discId)
  simp only [Flow.language] at hone ⊢
  apply hsilent.silent_bind hone
  intro _ found w hfound
  rw [getDisc_view hfound, hview]
  cases c.getDisc discId with
  | none => exact silent_fail w _ _
  | some disc =>
    apply (silent_setPhase w _ _ _).silent_bind one_le_moved
    intro _ _ w _
    apply (silent_mark w _).silent_bind one_le_moved
    intro _ _ w _
    apply speaks_moved
    intro w
    apply polls_bind (polls_discInBay w) (one_le_mul one_le_tries one_le_tries)
    intro _ inBay w _
    exact speaks_presented w discId disc.slot disc.title inBay

theorem speaks_addIngest :
    Speaks orders (polls * (sent (order cmdAcceptDisc []) * tries goHome 3))
      (polls * (tries (order cmdAcceptDisc []) 3 +
        (1 + sent (order cmdAcceptDisc [])) * tries goHome 3))
      (addIngest (σ := Taped σ)) w := by
  have hone : 1 ≤ polls * (tries (order cmdAcceptDisc []) 3 +
      (1 + sent (order cmdAcceptDisc [])) * tries goHome 3) :=
    one_le_mul one_le_polls (one_le_tries.trans le_self_add)
  have hparked : polls * sent (order cmdAcceptDisc []) * (polls * tries goHome 3) =
      polls * (sent (order cmdAcceptDisc []) * tries goHome 3) := by
    rw [mul_assoc, ← mul_assoc (sent _), sent_mul_polls]
  have hloaded : polls * sent (order cmdAcceptDisc []) * (polls * tries goHome 3) ≤
      polls * (tries (order cmdAcceptDisc []) 3 +
        (1 + sent (order cmdAcceptDisc [])) * tries goHome 3) := by
    rw [hparked]
    exact mul_le_mul' le_rfl ((mul_le_mul' le_add_self le_rfl).trans le_add_self)
  apply (silent_setPhase w _ _ _).silent_bind hone
  intro _ _ w _
  apply (silent_mark w _).silent_bind hone
  intro _ _ w _
  apply (speaks_ingest w _).andThen _ hparked.le (mul_le_mul' le_rfl le_self_add) hloaded
  intro _ _ w _
  apply (silent_mark w _).silent_bind (one_le_mul one_le_polls one_le_tries)
  intro _ _ w _
  apply (silent_setPhase w _ _ _).silent_bind (one_le_mul one_le_polls one_le_tries)
  intro _ _ w _
  exact speaks_park w _

theorem polls_addFinish (slot : Nat) (discId : Option Nat) :
    Speaks orders polls polls (addFinish (σ := Taped σ) slot discId) w := by
  have hcatalogue : Mute orders (catalogue (σ := Taped σ) slot discId) w :=
    speaks_silent w fun base => ((after_connFree 1 base).writeRow slot discId).bind fun _ =>
      (keeps_observe fun _ h => h).bind fun _ => Keeps.pure _
  apply hcatalogue.silent_bind one_le_polls
  intro _ id w _
  apply (speaks_polls w fun base => (polls_kept base).watch ⟨rfl, rfl⟩).bind_silent le_rfl
  intro _ _ w _
  apply speaks_silent
  intro base
  cases discId with
  | none => exact (silent_kept base).succeed _ _
  | some _ => exact ((after_connFree 1 base).execute _).bind fun _ => (silent_kept base).succeed _ _

/-- What an add does at its slot: take the disc in and park, or only park. -/
theorem speaks_loaded (slot : Nat) (discId : Option Nat) (inserted : Bool) :
    Speaks orders
      (polls * (tries (order cmdAcceptDisc []) 3 +
        (1 + sent (order cmdAcceptDisc [])) * tries goHome 3))
      (polls * (tries (order cmdAcceptDisc []) 3 +
        (1 + sent (order cmdAcceptDisc [])) * tries goHome 3))
      (if inserted then do
        addIngest (σ := Taped σ)
        addFinish slot discId
      else addTimedOut slot discId) w := by
  apply Speaks.ite
  · intro _
    have hloaded : polls * (sent (order cmdAcceptDisc []) * tries goHome 3) ≤
        polls * (tries (order cmdAcceptDisc []) 3 +
          (1 + sent (order cmdAcceptDisc [])) * tries goHome 3) :=
      mul_le_mul' le_rfl ((mul_le_mul' le_add_self le_rfl).trans le_add_self)
    apply (bind_polls (speaks_addIngest w) _ hloaded _).mono hloaded le_rfl
    · rw [mul_assoc, mul_assoc, tries_mul_polls]
    · exact fun _ _ w _ => polls_addFinish w slot discId
  · intro _
    have hparked : polls * tries goHome 3 ≤ polls * (tries (order cmdAcceptDisc []) 3 +
        (1 + sent (order cmdAcceptDisc [])) * tries goHome 3) :=
      mul_le_mul' le_rfl ((le_mul_of_one_le_left' le_self_add).trans le_add_self)
    apply Speaks.mono _ hparked hparked
    apply (silent_setPhase w _ _ _).silent_bind (one_le_mul one_le_polls one_le_tries)
    intro _ _ w _
    exact speaks_parked w fun w => silent_logged w _ _ _ _ fun base => (silent_kept base).fail _ _

theorem speaks_runAdd (slot : Nat) (discId : Option Nat) :
    Speaks orders (Flow.language c (.add slot)) (Flow.language c (.add slot))
      (runAdd (σ := Taped σ) slot discId) w := by
  simp only [Flow.language]
  apply (silent_setPhase w _ _ _).silent_bind one_le_moved
  intro _ _ w _
  apply (silent_mark w _).silent_bind one_le_moved
  intro _ _ w _
  apply speaks_moved
  intro w
  have hone : 1 ≤ tries (order cmdAcceptDisc []) 3 +
      (1 + sent (order cmdAcceptDisc [])) * tries goHome 3 := one_le_tries.trans le_self_add
  apply (silent_setPhase w _ _ _).silent_bind (one_le_mul one_le_polls hone)
  intro _ _ w _
  apply (silent_mark w _).silent_bind (one_le_mul one_le_polls hone)
  intro _ _ w _
  apply polls_bind (polls_waitState w _ _ _) hone
  intro _ inserted w _
  exact speaks_loaded w slot discId inserted

theorem speaks_flow (flow : Flow) (hview : w.conn.view = c) :
    Speaks orders (flow.language c) (flow.language c) (flow.run (σ := Taped σ)) w := by
  cases flow with
  | reset => exact speaks_runReset w
  | eject discId => exact speaks_runEject w discId hview
  | add slot => exact speaks_runAdd w slot none
  | return_ slot discId => exact speaks_runAdd (c := c) w slot (some discId)

/-! ## The calls -/

theorem speaks_openUnit :
    Speaks orders introductions introductions (openUnit (σ := Taped σ)) w := by
  apply Speaks.of_keeps one_le_kstar
  intro base
  have hkept : FlowKept (fun cmd args => args = [] ∧ cmd ∈ [cmdVersionA, cmdVersionB, cmdGetSerial])
      (After (σ := σ) introductions base) := by
    apply after_kept
    rintro cmd args ⟨rfl, hcmd⟩
    apply (mul_le_mul' le_rfl _).trans kstar_mul_le_kstar
    simp only [List.mem_cons, List.not_mem_nil, or_false] at hcmd
    rcases hcmd with rfl | rfl | rfl
    · exact le_add_self.trans le_self_add
    · exact le_add_self
    · exact le_self_add.trans le_self_add
  exact hkept.openUnit (fun cmd hcmd => ⟨rfl, hcmd⟩) fun _ _ h => h

/-- Opening the database does not change what it is seen to hold, nor does opening the unit. -/
theorem keeps_view : Keeps (fun w : World (Taped σ) => w.conn.view = c) (do
    openUnit
    modifyDs fun ds => { ds with tracing := true }
    connect) := by
  have hexecute : Keeps (fun w : World (Taped σ) => w.conn.view = c)
      (execute fun c => .ok ((), c)) := by
    apply Keeps.call
    intro w hw
    dsimp only
    split <;> exact hw
  apply ((flowKept_conn fun conn => conn.view = c).openUnit (fun _ _ => trivial) fun _ _ h => h).bind
  intro _
  have htracing : Keeps (fun w : World (Taped σ) => w.conn.view = c)
      (modifyDs fun ds => { ds with tracing := true }) :=
    Keeps.modify fun _ h => h
  apply htracing.bind
  intro _
  exact hexecute.bind fun _ => hexecute.bind fun _ => Keeps.modify fun _ h => h

theorem speaks_ownedBody (flow : Flow) (hview : w.conn.view = c) :
    Speaks orders (introductions * flow.language c) (introductions * flow.language c)
      (ownedBody (flow.run (σ := Taped σ))) w := by
  have hopened : Speaks orders introductions introductions (do
      openUnit (σ := Taped σ)
      modifyDs fun ds => { ds with tracing := true }
      connect) w := by
    apply (speaks_openUnit w).bind_silent le_rfl
    intro _ _ w _
    have htracing : Mute orders (modifyDs (σ := Taped σ) fun ds => { ds with tracing := true }) w :=
      speaks_silent w fun base => Keeps.modify fun _ h => h
    apply htracing.silent_bind le_rfl
    intro _ _ w _
    exact speaks_silent w fun base => (after_connFree 1 base).connect
  have hbody : ownedBody (flow.run (σ := Taped σ)) = (do
      openUnit (σ := Taped σ)
      modifyDs fun ds => { ds with tracing := true }
      connect) >>= fun _ => flow.run := by
    simp only [ownedBody, Prog.bind_assoc]
  rw [hbody]
  apply hopened.andThen _ le_rfl (le_mul_of_one_le_right' (one_le_language flow)) le_rfl
  intro n _ w' hr
  apply speaks_flow
  have := keeps_view.run n hview
  rwa [hr] at this

theorem silent_ownedFinally : Mute orders (ownedFinally (σ := Taped σ)) w := by
  apply speaks_silent
  intro base
  have htracing : Keeps (After 1 base)
      (modifyDs (σ := Taped σ) fun ds => { ds with tracing := false }) := Keeps.modify fun _ h => h
  have hclose : Keeps (After 1 base) (closeConn (σ := Taped σ)) := Keeps.modify fun _ h => h
  apply htracing.bind
  intro _
  apply (FlowKept.mark (silent_kept base).trace "end").bind
  intro _
  apply hclose.bind
  intro _
  exact (Keeps.gets _).bind fun _ => Keeps.when ((silent_kept base).fail _ _)

theorem silent_reportFailure (exc : Exc) :
    Mute orders (reportFailure (σ := Taped σ) exc) w := by
  apply speaks_silent
  intro base
  apply ((after_connFree 1 base).logFailure exc).bind
  intro _
  cases exc <;> exact (silent_kept base).fail _ _

/-- How a job ends adds nothing to what its body ordered. -/
theorem speaks_runOwned (traced : Bool) (flow : Flow) (hc : w.conn.committed = c) :
    Speaks orders (introductions * flow.language c) (introductions * flow.language c)
      (runOwned traced (flow.run (σ := Taped σ))) w := by
  have hstart : Mute orders (Prog.modify fun w : World (Taped σ) => { w with
      trace := ⟨traced, none, []⟩
      conn := { w.conn with isOpen := false, view := w.conn.committed, executed := 0 } }
      : Py (Taped σ) Unit) w :=
    speaks_silent w fun base => Keeps.modify fun _ h => h
  apply hstart.silent_bind (one_le_mul one_le_kstar (one_le_language flow))
  intro _ _ w' hr
  cases hr
  apply Speaks.ensure _ le_rfl silent_ownedFinally
  exact (speaks_ownedBody _ flow hc).attempt_silent fun _ exc w _ => silent_reportFailure w exc

theorem speaks_probe :
    Speaks orders (introductions * (polls * tries (order cmdClearErr2 []) 3))
      (introductions * (polls * tries (order cmdClearErr2 []) 3)) (probe (σ := Taped σ)) w := by
  have hone : 1 ≤ polls * tries (order cmdClearErr2 []) 3 := one_le_mul one_le_polls one_le_tries
  apply (speaks_openUnit w).andThen _ le_rfl (le_mul_of_one_le_right' hone) le_rfl
  intro _ _ w _
  apply polls_bind (polls_status w) one_le_tries
  intro _ st w _
  apply (Speaks.gets _).silent_bind hone
  intro _ ds w _
  cases ds.serial with
  | none => exact (Speaks.raise _).mono le_rfl hone
  | some serial =>
    have hposition : Speaks orders (polls * tries (order cmdClearErr2 []) 3)
        (polls * tries (order cmdClearErr2 []) 3) (position (σ := Taped σ)) w :=
      (behind_polls (speaks_require w cmdClearErr2 []) sent_le_tries).bind_silent le_rfl
        fun _ _ _ _ => Speaks.pure _
    apply Speaks.ite
    · exact fun _ => (Speaks.pure _).mono hone le_rfl
    · exact fun _ => hposition.bind_silent le_rfl fun _ _ _ _ => Speaks.pure _

theorem silent_reached : Mute orders (reached (σ := Taped σ)) w := by
  apply speaks_silent
  intro base
  apply (Keeps.gets _).bind
  intro isOpen
  apply Keeps.ite _ (Keeps.pure _)
  apply (((silent_kept base).keepsRead 0).bind fun _ => Keeps.pure true).attempt
  intro exc
  cases exc <;> first | exact Keeps.pure _ | exact Keeps.raise _

theorem speaks_tend (openError : Option Exc) :
    Speaks orders introductions introductions (tend (σ := Taped σ) openError) w := by
  apply Speaks.attempt_silent
  · apply (silent_reached w).silent_bind one_le_kstar
    intro _ reached w _
    apply Speaks.ite
    · exact fun _ => (Speaks.pure none).mono one_le_kstar le_rfl
    intro _
    have hpresent : Mute orders (ofOutside (Outside.isPresent (σ := Taped σ))) w :=
      speaks_silent w fun base => keeps_ofOutside fun _ h => h
    apply hpresent.silent_bind one_le_kstar
    intro _ here w _
    apply Speaks.bind_silent _ le_rfl fun _ _ _ _ => Speaks.pure none
    unfold Prog.when
    apply Speaks.ite
    · exact fun _ => speaks_openUnit w
    · exact fun _ => (Speaks.pure ()).mono one_le_kstar le_rfl
  · intro _ exc w _
    exact Speaks.ite (fun _ => Speaks.pure _) fun _ => Speaks.pure _

/-- **Every call keeps to its language**, over any unit and any database. -/
theorem access_keeps_order (access : Access) (n : Nat) (w : World (Taped σ)) :
    ∃ u ∈ access.language w.conn.committed, orders (access.run n w).2 = orders w ++ u := by
  cases access with
  | job traced flow => exact (speaks_runOwned w traced flow rfl).adds le_rfl le_rfl n
  | probe =>
    have hprobe := (speaks_probe w).bind_silent (f := fun _ => pure ()) le_rfl
      fun _ _ _ _ => Speaks.pure ()
    exact hprobe.adds le_rfl le_rfl n
  | reconnect =>
    have hclose : Mute orders (close (σ := Taped σ)) w :=
      speaks_silent w fun base => (silent_kept base).close
    exact (hclose.silent_bind one_le_kstar fun _ _ w _ => speaks_openUnit w).adds le_rfl le_rfl n
  | tend openError =>
    have htend := (speaks_tend w openError).bind_silent (f := fun _ => pure ()) le_rfl
      fun _ _ _ _ => Speaks.pure ()
    exact htend.adds le_rfl le_rfl n

end Methods

end StakkaWeb
