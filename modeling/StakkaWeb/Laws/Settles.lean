import Mathlib.Order.WellFounded
import StakkaWeb.Laws.Kept

/-!
# Everything comes to an end

An outside world is `Paced` when its clock never runs back and only finitely many reports can be
read before the clock moves on: `slack` bounds how many. In such a world every wait passes its
deadline, so every method of the protocol and every job settles: with enough turns allowed, its
run no longer depends on how many.
-/

set_option autoImplicit false

namespace StakkaWeb

open Lib Lib.Prog

/-! ## Where nothing is waited for -/

section Plain

variable {σ : Type} (w : World σ)

theorem settles_ofOutside {α : Type} (f : σ → α × σ) : Settles (ofOutside f) w :=
  settles_call _ w

theorem settles_execute {α : Type} (f : Catalog → Except Exc (α × Catalog)) :
    Settles (execute (σ := σ) f) w :=
  settles_call _ w

theorem settles_commit : Settles (commit (σ := σ)) w := settles_call _ w

theorem settles_rollback : Settles (rollback (σ := σ)) w := settles_call _ w

theorem settles_report (progress : Progress) (message : String) :
    Settles (report (σ := σ) progress message) w := by
  cases progress with
  | none => exact settles_pure _ _
  | note => exact settles_modify _ _

theorem settles_matchState (mask want : Nat) (reply : Option Packet) :
    Settles (matchState (σ := σ) mask want reply) w := by
  cases reply with
  | none => exact settles_pure _ _
  | some p =>
    refine Settles.ite ((settles_modify _ _).bind fun _ _ _ _ => ?_) (settles_pure _ _)
    exact (settles_modify _ _).bind fun _ _ _ _ => settles_pure _ _

theorem settles_transaction {α : Type} {block : Py σ α} (h : Settles block w) :
    Settles (transaction block) w :=
  Settles.attempt (h.bind fun _ _ _ _ => (settles_commit _).bind fun _ _ _ _ => settles_pure _ _)
    fun _ _ _ _ => (settles_rollback _).bind fun _ _ _ _ => settles_raise _ _

theorem settles_logEvent (kind : EventKind) (discId slot : Option Nat) (detail : Option String) :
    Settles (logEvent (σ := σ) kind discId slot detail) w :=
  (settles_gets _ _).bind fun _ _ _ _ => settles_execute _ _

theorem settles_createDisc (slot : Nat) (title : String) (kind : EventKind) :
    Settles (createDisc (σ := σ) slot title kind) w :=
  (settles_gets _ _).bind fun _ _ _ _ => settles_transaction _ <|
    (settles_execute _ _).bind fun _ _ _ _ => (settles_logEvent _ _ _ _ _).bind fun _ _ _ _ =>
      settles_pure _ _

theorem settles_markOut (discId : Nat) (kind : EventKind) (detail : Option String) :
    Settles (markOut (σ := σ) discId kind detail) w :=
  (settles_gets _ _).bind fun _ _ _ _ => settles_transaction _ <|
    (settles_execute _ _).bind fun _ _ _ _ => (settles_execute _ _).bind fun _ _ _ _ =>
      settles_logEvent _ _ _ _ _

theorem settles_markStored (discId : Nat) (kind : EventKind) (detail : Option String) :
    Settles (markStored (σ := σ) discId kind detail) w :=
  (settles_gets _ _).bind fun _ _ _ _ => settles_transaction _ <|
    (settles_execute _ _).bind fun _ _ _ _ => (settles_execute _ _).bind fun _ _ _ _ =>
      settles_logEvent _ _ _ _ _

theorem settles_exceptDeviceError {α : Type} {m : Py σ α} {handler : Exc → Py σ α}
    (hm : Settles m w) (hh : ∀ e w, Settles (handler e) w) :
    Settles (exceptDeviceError m handler) w :=
  hm.attempt fun _ e w' _ => (hh e w').ite (settles_raise _ _)

theorem settles_reportFailure (exc : Exc) : Settles (reportFailure (σ := σ) exc) w := by
  refine Settles.bind ?_ fun _ _ _ _ => ?_
  · refine (settles_gets _ _).bind fun _ _ _ _ => Settles.when (Settles.attempt ?_ fun _ _ _ _ =>
      (settles_pure _ _).ite (settles_raise _ _))
    refine (settles_rollback _).bind fun _ _ _ _ => (settles_logEvent _ _ _ _ _).bind
      fun _ _ _ _ => ?_
    exact settles_commit _
  · cases exc <;> exact settles_modify _ _

end Plain

section Calls

variable {σ : Type} [Outside σ] (w : World σ)

theorem settles_clock : Settles (clock (σ := σ)) w := settles_ofOutside w _

theorem settles_cue (p : Phase) : Settles (cue (σ := σ) p) w := settles_ofOutside w _

theorem settles_close : Settles (close (σ := σ)) w :=
  (settles_modify _ _).bind fun _ _ _ _ => settles_ofOutside _ _

theorem settles_orNotConnected {α : Type} {m : Py σ α} (what : String) (hm : Settles m w) :
    Settles (orNotConnected what m) w :=
  hm.attempt fun _ _ w' _ =>
    ((settles_close w').bind fun _ _ _ _ => settles_raise _ _).ite (settles_raise _ _)

theorem settles_read (timeout_ms : Nat) : Settles (read (σ := σ) timeout_ms) w := by
  refine (settles_gets _ _).bind fun _ _ _ _ => (settles_raiseIf _ _ _).bind fun _ _ _ _ => ?_
  refine (settles_orNotConnected _ _ (settles_call _ _)).bind fun _ _ _ _ => ?_
  exact (settles_pure _ _).ite ((settles_raise _ _).ite (settles_pure _ _))

theorem settles_write (msgid cmd : Nat) (args : List Nat) :
    Settles (write (σ := σ) msgid cmd args) w := by
  refine (settles_gets _ _).bind fun _ _ _ _ => (settles_raiseIf _ _ _).bind fun _ _ _ _ => ?_
  refine (settles_raiseIf _ _ _).bind fun _ _ _ _ => ?_
  exact (settles_orNotConnected _ _ (settles_call _ _)).bind fun _ _ _ _ => settles_raiseIf _ _ _

theorem settles_awaitReply (cmd msgid deadline : Nat) :
    Settles (awaitReply (σ := σ) cmd msgid deadline) w := by
  refine (settles_clock _).bind fun _ now _ _ => Settles.ite ?_ (settles_pure _ _)
  refine (settles_read _ _).bind fun _ reply _ _ => ?_
  cases reply with
  | none => exact settles_pure _ _
  | some p =>
    exact ((settles_modify _ _).bind fun _ _ _ _ => settles_pure _ _).ite (settles_pure _ _)

theorem settles_setPhase (phase : Phase) (message : String) (window_s : Option Nat) :
    Settles (setPhase (σ := σ) phase message window_s) w := by
  refine Settles.bind ?_ fun _ _ _ _ => (settles_modify _ _).bind fun _ _ _ _ => settles_cue _ _
  cases window_s with
  | none => exact settles_pure _ _
  | some window => exact (settles_clock _).bind fun _ _ _ _ => settles_pure _ _

end Calls

/-! ## The pace of a world -/

section Pace

variable {σ : Type} [Outside σ]

/-- The time that the world's clock shows. -/
def timeOf (s : σ) : Nat := (Outside.clock s).1

/-- `s'` comes after `s`, or at the same time with no more to read. -/
def NoEarlier (slack : σ → Nat) (s s' : σ) : Prop :=
  timeOf s < timeOf s' ∨ timeOf s = timeOf s' ∧ slack s' ≤ slack s

/-- `s'` comes after `s`, or at the same time with less to read. -/
def Later (slack : σ → Nat) (s s' : σ) : Prop :=
  timeOf s < timeOf s' ∨ timeOf s = timeOf s' ∧ slack s' < slack s

variable {slack : σ → Nat} {s t u : σ}

theorem NoEarlier.refl (s : σ) : NoEarlier slack s s := .inr ⟨rfl, Nat.le_refl _⟩

theorem Later.trans (h : Later slack s t) (h' : NoEarlier slack t u) : Later slack s u := by
  unfold NoEarlier Later at *
  omega

theorem NoEarlier.trans_later (h : NoEarlier slack s t) (h' : Later slack t u) :
    Later slack s u := by
  unfold NoEarlier Later at *
  omega

theorem Later.le (h : Later slack s t) : timeOf s ≤ timeOf t := by
  unfold Later at h
  omega

/-- Before a deadline every later state is closer to it. -/
theorem Later.measure (h : Later slack s t) {deadline : Nat} (hd : timeOf s < deadline) :
    Prod.Lex (· < ·) (· < ·) (deadline - timeOf t, slack t) (deadline - timeOf s, slack s) := by
  rcases h with h | ⟨h, hlt⟩
  · exact .left _ _ (by omega)
  · rw [h]
    exact .right _ hlt

end Pace

/-- A world whose time passes. -/
class Paced (σ : Type) [Outside σ] where
  slack : σ → Nat
  opens : ∀ s : σ, NoEarlier slack s (Outside.opens s).2
  closes : ∀ s : σ, NoEarlier slack s (Outside.closes s)
  read : ∀ (size timeout_ms : Nat) (s : σ),
    NoEarlier slack s (Outside.read size timeout_ms s).2
  read_later : ∀ (size timeout_ms : Nat) (s s' : σ) (raw : List Nat), 0 < timeout_ms →
    Outside.read size timeout_ms s = (.ok raw, s') → Later slack s s'
  write : ∀ (buf : List Nat) (s : σ), NoEarlier slack s (Outside.write buf s).2
  clock : ∀ s : σ, NoEarlier slack s (Outside.clock s).2
  sleep : ∀ (ms : Nat) (s : σ), NoEarlier slack s (Outside.sleep ms s)
  cue : ∀ (p : Phase) (s : σ), NoEarlier slack s (Outside.cue p s)

variable {σ : Type} [Outside σ] [Paced σ]

/-! ## Time passes in the protocol -/

/-- What comes after `s` stays after it. -/
theorem stable_later (s : σ) :
    Stable (fun _ _ => True) (fun t : σ => Later Paced.slack s t) where
  opens t h := h.trans (Paced.opens t)
  closes t h := h.trans (Paced.closes t)
  read timeout_ms t h := h.trans (Paced.read 64 timeout_ms t)
  write _ _ _ _ t _ h := h.trans (Paced.write _ t)
  clock t h := h.trans (Paced.clock t)
  sleep ms t h := h.trans (Paced.sleep ms t)

variable {s : σ}

/-- A kept property of the world, when only an answer matters. -/
theorem later_of_keeps {α : Type} {m : Py σ α}
    (h : Keeps (fun w : World σ => Later Paced.slack s w.io) m) :
    Triple (fun w : World σ => Later Paced.slack s w.io) m
      (fun _ w => Later Paced.slack s w.io) (fun _ _ => True) :=
  h.conseq (fun _ => id) (fun _ _ => id) fun _ _ _ => trivial

/-- A read that comes back has taken time or a report. -/
theorem read_later {timeout_ms : Nat} (ht : 0 < timeout_ms) :
    Triple (fun w : World σ => NoEarlier Paced.slack s w.io) (read timeout_ms)
      (fun _ w => Later Paced.slack s w.io) (fun _ _ => True) := by
  refine Triple.bind (M := fun _ w => NoEarlier Paced.slack s w.io) (Triple.gets fun _ => id)
    fun _ => ?_
  refine Triple.bind (M := fun _ w => NoEarlier Paced.slack s w.io)
    (Triple.raiseIf (fun _ _ _ => trivial) fun _ h _ => h) fun _ => ?_
  refine Triple.bind (M := fun _ w => Later Paced.slack s w.io) ?_ fun raw => ?_
  · refine Triple.attempt (E := fun _ _ => True)
      (triple_onOutside (fun w raw s' h hr => ?_) fun _ _ _ _ _ => trivial)
      (fun e => ?_) fun _ _ => trivial
    · exact h.trans_later (Paced.read_later 64 timeout_ms w.io s' raw ht hr)
    · refine Triple.ite (fun _ => ?_) fun _ => Triple.raise fun _ _ => trivial
      exact Triple.any.bind fun _ => Triple.raise fun _ _ => trivial
  · refine Triple.ite (fun _ => Triple.pure fun _ => id) fun _ => ?_
    exact Triple.ite (fun _ => Triple.raise fun _ _ => trivial) fun _ => Triple.pure fun _ => id

theorem command_later (cmd : Nat) (args : List Nat) {timeout_ms : Nat} (ht : 0 < timeout_ms) :
    Triple (fun w : World σ => NoEarlier Paced.slack s w.io) (command cmd args timeout_ms)
      (fun _ w => Later Paced.slack s w.io) (fun _ _ => True) := by
  have hk := (stable_later s).kept
  refine (read_later ht).bind fun seed => ?_
  cases seed with
  | none => exact Triple.raise fun _ _ => trivial
  | some seed =>
    exact later_of_keeps ((hk.keepsWrite _ trivial).bind fun _ => hk.keepsClock.bind fun _ =>
      Keeps.loop (hk.awaitReply args trivial _ _))

theorem status_later :
    Triple (fun w : World σ => NoEarlier Paced.slack s w.io) status
      (fun _ w => Later Paced.slack s w.io) (fun _ _ => True) := by
  have hk := (stable_later s).kept
  refine Triple.bind (M := fun _ w => Later Paced.slack s w.io) ?_ fun _ =>
    later_of_keeps ((keeps_observe (hk.word _)).bind fun _ => Keeps.pure _)
  refine (command_later cmdRequestState [] (by decide)).bind fun reply => ?_
  cases reply with
  | some p => exact Triple.pure fun _ => id
  | none =>
    refine later_of_keeps (Keeps.bind (Keeps.when ?_) fun _ => hk.requireFrom trivial trivial 3 2)
    exact (hk.waitState trivial stBusy 0 2000).bind fun _ => Keeps.pure _

/-- `body` goes on only before `deadline`, and then a report has been read. -/
def Advances (deadline : Nat) {α : Type} (body : Py σ (Option α)) : Prop :=
  ∀ s : σ, Triple (fun w => w.io = s) body
    (fun r w => r = none → timeOf s < deadline ∧ Later Paced.slack s w.io) (fun _ _ => True)

/-- **A loop that advances towards a deadline settles.** -/
theorem Advances.settles {deadline : Nat} {α : Type} {body : Py σ (Option α)}
    (h : Advances deadline body) (hb : ∀ w, Settles body w) (w : World σ) :
    Settles (Prog.loop body) w := by
  refine settles_loop (WellFounded.prod_lex Nat.lt_wfRel.wf Nat.lt_wfRel.wf)
    (fun w => (deadline - timeOf w.io, Paced.slack w.io)) hb (fun w n w' hr => ?_) w
  obtain ⟨hd, hl⟩ := (h w.io).of_ok rfl hr rfl
  exact hl.measure hd

/-- Reading the clock first: the rest of the turn starts no earlier, with the time known. -/
theorem clock_noEarlier :
    Triple (fun w : World σ => w.io = s) clock
      (fun now w => now = timeOf s ∧ NoEarlier Paced.slack s w.io) (fun _ _ => True) :=
  triple_clock fun w h => h ▸ ⟨rfl, Paced.clock w.io⟩

theorem awaitReply_advances (cmd msgid deadline : Nat) :
    Advances deadline (awaitReply (σ := σ) cmd msgid deadline) := by
  intro s
  refine clock_noEarlier.bind fun now => Triple.of_fact fun hnow => ?_
  refine Triple.ite (fun hlt => ?_) fun _ => Triple.pure fun _ _ => nofun
  refine (read_later (by decide)).bind fun reply => ?_
  have hgo : ∀ w : World σ, Later Paced.slack s w.io →
      timeOf s < deadline ∧ Later Paced.slack s w.io := fun w h => ⟨hnow ▸ hlt, h⟩
  cases reply with
  | none => exact Triple.pure fun w h _ => hgo w h
  | some p =>
    refine Triple.ite (fun _ => ?_) fun _ => Triple.pure fun w h _ => hgo w h
    exact (later_of_keeps (keeps_observe fun w h => h)).bind fun _ =>
      Triple.pure fun _ _ => nofun

theorem pollState_advances (mask want deadline : Nat) :
    Advances deadline (pollState (σ := σ) mask want deadline) := by
  intro s
  have hk := (stable_later s).kept
  refine Triple.pre (A := fun w => NoEarlier Paced.slack s w.io)
    ((command_later cmdRequestState [] (by decide)).bind fun reply => ?_)
    fun w h => h ▸ NoEarlier.refl w.io
  refine (later_of_keeps (hk.matchState mask want reply)).bind fun _ => ?_
  refine Triple.ite (fun _ => Triple.pure fun _ _ => nofun) fun _ => ?_
  -- the turn goes on when the clock, read last, is still before the deadline
  refine Triple.bind (M := fun now w => timeOf s ≤ now ∧ Later Paced.slack s w.io) ?_ fun now => ?_
  · exact triple_clock fun w h => ⟨h.le, h.trans (Paced.clock w.io)⟩
  · refine Triple.pure fun w h hgo => ⟨?_, h.2⟩
    split at hgo
    · cases hgo
    · omega

theorem greet_advances (deadline : Nat) : Advances deadline (greet (σ := σ) deadline) := by
  intro s
  have hk := (stable_later s).kept
  have hw : ∀ cmd ∈ harmless, True := fun _ _ => trivial
  refine clock_noEarlier.bind fun now => Triple.of_fact fun hnow => ?_
  refine Triple.ite (fun hlt => ?_) fun _ => Triple.raise fun _ _ => trivial
  refine (read_later (by decide)).bind fun pkt => ?_
  have hgo : ∀ w : World σ, Later Paced.slack s w.io →
      timeOf s < deadline ∧ Later Paced.slack s w.io := fun w h => ⟨hnow ▸ hlt, h⟩
  cases pkt with
  | none => exact Triple.pure fun w h _ => hgo w h
  | some pkt =>
    refine Triple.bind (M := fun _ w => Later Paced.slack s w.io)
      (triple_modifyDs fun _ h => h) fun _ => Triple.ite (fun _ => ?_) fun _ =>
      Triple.ite (fun _ => ?_) fun _ => ?_
    · exact (later_of_keeps (hk.keepsWrite _ trivial)).bind fun _ =>
        Triple.pure fun w h _ => hgo w h
    · exact Triple.any.bind fun _ => Triple.pure fun _ _ => nofun
    · refine Triple.any.bind fun reply => ?_
      cases reply with
      | none => exact Triple.raise fun _ _ => trivial
      | some reply => exact Triple.any.bind fun _ => Triple.pure fun _ _ => nofun

theorem watchOnce_advances (deadline : Nat) : Advances deadline (watchOnce (σ := σ) deadline) := by
  intro s
  have hk := (stable_later s).kept
  refine clock_noEarlier.bind fun now => Triple.of_fact fun hnow => ?_
  refine Triple.ite (fun hlt => ?_) fun _ => Triple.pure fun _ _ => nofun
  refine status_later.bind fun st => ?_
  refine (later_of_keeps (Keeps.modify fun w => hk.trace _ w)).bind fun _ => ?_
  exact Triple.pure fun w h _ => ⟨hnow ▸ hlt, h⟩

/-! ## The protocol settles -/

variable (w : World σ)

theorem settles_command (cmd : Nat) (args : List Nat) (timeout_ms : Nat) :
    Settles (command (σ := σ) cmd args timeout_ms) w := by
  refine (settles_read _ _).bind fun _ seed _ _ => ?_
  cases seed with
  | none => exact settles_raise _ _
  | some seed =>
    refine (settles_write _ _ _ _).bind fun _ _ _ _ => (settles_clock _).bind fun _ now w' _ => ?_
    exact (awaitReply_advances cmd _ _).settles (fun w => settles_awaitReply w cmd _ _) w'

theorem settles_waitState (mask want timeout_ms : Nat) :
    Settles (waitState (σ := σ) mask want timeout_ms) w := by
  refine (settles_clock _).bind fun _ now w' _ => ?_
  refine (pollState_advances mask want _).settles (fun w => ?_) w'
  refine (settles_command _ _ _ _).bind fun _ reply _ _ => ?_
  refine (settles_matchState _ _ _ _).bind fun _ _ _ _ => Settles.ite (settles_pure _ _) ?_
  exact (settles_clock _).bind fun _ _ _ _ => settles_pure _ _

theorem settles_requireFrom (cmd : Nat) (args : List Nat) (tries left : Nat) :
    Settles (requireFrom (σ := σ) cmd args tries left) w := by
  induction left generalizing w with
  | zero => exact settles_raise _ _
  | succ left ih =>
    refine (settles_command _ _ _ _).bind fun _ reply _ _ => ?_
    cases reply with
    | some p => exact settles_pure _ _
    | none =>
      refine Settles.bind (Settles.when ?_) fun _ _ w' _ => ih w'
      exact (settles_waitState _ _ _ _).bind fun _ _ _ _ => settles_pure _ _

theorem settles_require (cmd : Nat) (args : List Nat) :
    Settles (require (σ := σ) cmd args) w :=
  settles_requireFrom w cmd args 3 3

theorem settles_status : Settles (status (σ := σ)) w :=
  (settles_require _ _ _).bind fun _ _ _ _ => (settles_modify _ _).bind fun _ _ _ _ =>
    settles_pure _ _

theorem settles_discInBay : Settles (discInBay (σ := σ)) w :=
  (settles_status _).bind fun _ _ _ _ => settles_pure _ _

theorem settles_idleOr (msg : String) : Settles (idleOr (σ := σ) msg) w :=
  (settles_waitState _ _ _ _).bind fun _ _ _ _ => settles_raiseIf _ _ _

theorem settles_ensureHomed (progress : Progress) :
    Settles (ensureHomed (σ := σ) progress) w := by
  refine (settles_status _).bind fun _ st _ _ => Settles.ite (settles_pure _ _) ?_
  refine (settles_idleOr _ _).bind fun _ _ _ _ => (settles_report _ _ _).bind fun _ _ _ _ => ?_
  refine (settles_require _ _ _).bind fun _ _ _ _ => (settles_idleOr _ _).bind fun _ _ _ _ => ?_
  exact (settles_status _).bind fun _ _ _ _ => settles_raiseIf _ _ _

theorem settles_refuseWithADiscOut : Settles (refuseWithADiscOut (σ := σ)) w :=
  (settles_discInBay _).bind fun _ _ _ _ => settles_raiseIf _ _ _

theorem settles_moveTo (slot : Nat) (eject : Bool) (progress : Progress) :
    Settles (moveTo (σ := σ) slot eject progress) w := by
  refine (settles_raiseIf _ _ _).bind fun _ _ _ _ => (settles_idleOr _ _).bind fun _ _ _ _ => ?_
  refine (settles_refuseWithADiscOut _).bind fun _ _ _ _ => ?_
  refine Settles.bind (Settles.when (settles_ensureHomed _ _)) fun _ _ _ _ => ?_
  exact (settles_require _ _ _).bind fun _ _ _ _ => settles_idleOr _ _

theorem settles_park (progress : Progress) : Settles (park (σ := σ) progress) w :=
  (settles_report _ _ _).bind fun _ _ _ _ => (settles_moveTo _ _ _ _).attempt fun _ _ _ _ =>
    (settles_pure _ _).ite (settles_raise _ _)

theorem settles_reset (progress : Progress) : Settles (reset (σ := σ) progress) w := by
  refine (settles_report _ _ _).bind fun _ _ _ _ => (settles_command _ _ _ _).bind fun _ _ _ _ => ?_
  refine (settles_command _ _ _ _).bind fun _ _ _ _ => ?_
  refine (settles_command _ _ _ _).bind fun _ _ _ _ => (settles_idleOr _ _).bind fun _ _ _ _ => ?_
  refine (settles_refuseWithADiscOut _).bind fun _ _ _ _ => ?_
  refine (settles_command _ _ _ _).bind fun _ _ _ _ => (settles_report _ _ _).bind fun _ _ _ _ => ?_
  exact (settles_require _ _ _).bind fun _ _ _ _ => settles_idleOr _ _

theorem settles_ingest (progress : Progress) : Settles (ingest (σ := σ) progress) w := by
  refine (settles_report _ _ _).bind fun _ _ _ _ => (settles_idleOr _ _).bind fun _ _ _ _ => ?_
  refine (settles_report _ _ _).bind fun _ _ _ _ => (settles_require _ _ _).bind fun _ _ _ _ => ?_
  exact settles_idleOr _ _

theorem settles_retract (progress : Progress) : Settles (retract (σ := σ) progress) w := by
  refine (settles_report _ _ _).bind fun _ _ _ _ => (settles_waitState _ _ _ _).bind
    fun _ _ _ _ => ?_
  refine Settles.bind ?_ fun _ acked _ _ => ?_
  · refine Settles.attempt ((settles_require _ _ _).bind fun _ _ _ _ => settles_pure _ _)
      fun _ e _ _ => ?_
    cases e <;> first | exact settles_pure _ _ | exact settles_raise _ _
  · refine (settles_idleOr _ _).bind fun _ _ _ _ => (settles_discInBay _).bind fun _ _ _ _ => ?_
    exact (settles_raiseIf _ _ _).bind fun _ _ _ _ => settles_pure _ _

/-! ## The handshake settles -/

theorem settles_greet (deadline : Nat) : Settles (greet (σ := σ) deadline) w := by
  refine (settles_clock _).bind fun _ now _ _ => Settles.ite ?_ (settles_raise _ _)
  refine (settles_read _ _).bind fun _ pkt _ _ => ?_
  cases pkt with
  | none => exact settles_pure _ _
  | some pkt =>
    refine (settles_modify _ _).bind fun _ _ _ _ => Settles.ite ?_ (Settles.ite ?_ ?_)
    · exact (settles_write _ _ _ _).bind fun _ _ _ _ => settles_pure _ _
    · exact (settles_modify _ _).bind fun _ _ _ _ => settles_pure _ _
    · refine (settles_command _ _ _ _).bind fun _ reply _ _ => ?_
      cases reply with
      | none => exact settles_raise _ _
      | some reply => exact (settles_modify _ _).bind fun _ _ _ _ => settles_pure _ _

theorem settles_handshake : Settles (handshake (σ := σ)) w := by
  refine (settles_clock _).bind fun _ now w' _ => Settles.bind ?_ fun _ _ _ _ => ?_
  · exact (greet_advances _).settles (fun w => settles_greet w _) w'
  · refine Settles.bind ?_ fun _ _ _ _ => settles_modify _ _
    refine (settles_command _ _ _ _).bind fun _ a _ _ => (settles_command _ _ _ _).bind
      fun _ b _ _ => ?_
    cases a <;> cases b <;> exact settles_pure _ _

theorem settles_openOnce : Settles (openOnce (σ := σ)) w := by
  refine Settles.attempt ?_ fun _ _ _ _ => (settles_pure _ _).ite (settles_raise _ _)
  refine (settles_call _ _).bind fun _ _ _ _ => (settles_modify _ _).bind fun _ _ _ _ => ?_
  exact ((settles_handshake _).bind fun _ _ _ _ => settles_pure _ _).attempt fun _ _ _ _ =>
    (settles_close _).bind fun _ _ _ _ => settles_pure _ _

theorem settles_openFrom (last : String) (left : Nat) :
    Settles (openFrom (σ := σ) last left) w := by
  induction left generalizing w last with
  | zero => exact settles_raise _ _
  | succ left ih =>
    refine (settles_openOnce w).bind fun _ failed _ _ => ?_
    cases failed with
    | none => exact settles_pure _ _
    | some exc => exact (settles_ofOutside _ _).when.bind fun _ _ w' _ => ih w' exc.text

theorem settles_openUnit : Settles (openUnit (σ := σ)) w :=
  (settles_gets _ _).bind fun _ _ _ _ => (settles_pure _ _).ite (settles_openFrom _ _ _)

/-! ## The flows settle -/

theorem settles_runReset : Settles (runReset (σ := σ)) w := by
  refine (settles_setPhase _ _ _ _).bind fun _ _ _ _ => (settles_reset _ _).bind fun _ _ _ _ => ?_
  refine (settles_logEvent _ _ _ _ _).bind fun _ _ _ _ => (settles_commit _).bind fun _ _ _ _ => ?_
  exact settles_modify _ _

theorem settles_ejectNotTaken (discId slot : Nat) :
    Settles (ejectNotTaken (σ := σ) discId slot) w := by
  refine (settles_setPhase _ _ _ _).bind fun _ _ _ _ => (settles_modify _ _).bind fun _ _ _ _ => ?_
  refine (settles_exceptDeviceError _ ?_ fun e w => ?_).bind fun _ acked _ _ => ?_
  · exact (settles_retract _ _).bind fun _ _ _ _ => settles_pure _ _
  · refine Settles.bind ?_ fun _ _ _ _ => settles_pure _ _
    refine (settles_modify _ _).bind fun _ _ _ _ => (settles_logEvent _ _ _ _ _).bind
      fun _ _ _ _ => ?_
    exact (settles_commit _).bind fun _ _ _ _ => settles_modify _ _
  · cases acked with
    | none => exact settles_pure _ _
    | some acked =>
      refine (settles_modify _ _).bind fun _ _ _ _ => (settles_park _ _).bind fun _ _ _ _ => ?_
      refine (settles_logEvent _ _ _ _ _).bind fun _ _ _ _ => ?_
      exact (settles_commit _).bind fun _ _ _ _ => settles_modify _ _

theorem settles_runEject (discId : Nat) : Settles (runEject (σ := σ) discId) w := by
  refine (settles_execute _ _).bind fun _ disc _ _ => ?_
  cases disc with
  | none => exact settles_modify _ _
  | some disc =>
    refine (settles_setPhase _ _ _ _).bind fun _ _ _ _ => (settles_modify _ _).bind
      fun _ _ _ _ => ?_
    refine (settles_moveTo _ _ _ _).bind fun _ _ _ _ => (settles_discInBay _).bind
      fun _ inBay _ _ => Settles.ite ?_ ?_
    · refine (settles_setPhase _ _ _ _).bind fun _ _ _ _ => (settles_modify _ _).bind
        fun _ _ _ _ => ?_
      refine (settles_waitState _ _ _ _).bind fun _ taken _ _ => Settles.ite ?_
        (settles_ejectNotTaken _ _ _)
      refine (settles_setPhase _ _ _ _).bind fun _ _ _ _ => (settles_modify _ _).bind
        fun _ _ _ _ => ?_
      refine (settles_park _ _).bind fun _ _ _ _ => (settles_markOut _ _ _ _).bind
        fun _ _ _ _ => ?_
      exact settles_modify _ _
    · refine (settles_setPhase _ _ _ _).bind fun _ _ _ _ => (settles_modify _ _).bind
        fun _ _ _ _ => ?_
      refine (settles_park _ _).bind fun _ _ _ _ => (settles_logEvent _ _ _ _ _).bind
        fun _ _ _ _ => ?_
      exact (settles_commit _).bind fun _ _ _ _ => settles_modify _ _

theorem settles_watch : Settles (watch (σ := σ)) w := by
  refine (settles_modify _ _).bind fun _ _ _ _ => (settles_clock _).bind fun _ now w' _ => ?_
  refine settles_exceptDeviceError _ ?_ fun _ _ => settles_modify _ _
  refine (watchOnce_advances _).settles (fun w => ?_) w'
  refine (settles_clock _).bind fun _ _ _ _ => Settles.ite ?_ (settles_pure _ _)
  exact (settles_status _).bind fun _ _ _ _ => (settles_modify _ _).bind fun _ _ _ _ =>
    settles_pure _ _

theorem settles_addFinish (slot : Nat) (discId : Option Nat) :
    Settles (addFinish (σ := σ) slot discId) w := by
  refine Settles.bind (Settles.bind ?_ fun _ _ _ _ => (settles_modify _ _).bind fun _ _ _ _ =>
    settles_pure _ _) fun _ id _ _ => (settles_watch _).bind fun _ _ _ _ => ?_
  · cases discId with
    | none => exact settles_createDisc _ _ _ _
    | some id => exact (settles_markStored _ _ _ _).bind fun _ _ _ _ => settles_pure _ _
  · cases discId with
    | none => exact settles_modify _ _
    | some id => exact (settles_call _ _).bind fun _ _ _ _ => settles_modify _ _

theorem settles_runAdd (slot : Nat) (discId : Option Nat) :
    Settles (runAdd (σ := σ) slot discId) w := by
  refine (settles_setPhase _ _ _ _).bind fun _ _ _ _ => (settles_modify _ _).bind fun _ _ _ _ => ?_
  refine (settles_moveTo _ _ _ _).bind fun _ _ _ _ => (settles_setPhase _ _ _ _).bind
    fun _ _ _ _ => ?_
  refine (settles_modify _ _).bind fun _ _ _ _ => (settles_waitState _ _ _ _).bind
    fun _ inserted _ _ => Settles.ite (Settles.bind ?_ fun _ _ w' _ => settles_addFinish w' _ _) ?_
  · refine (settles_setPhase _ _ _ _).bind fun _ _ _ _ => (settles_modify _ _).bind
      fun _ _ _ _ => ?_
    refine (settles_ingest _ _).bind fun _ _ _ _ => (settles_modify _ _).bind fun _ _ _ _ => ?_
    exact (settles_setPhase _ _ _ _).bind fun _ _ _ _ => settles_park _ _
  · refine (settles_setPhase _ _ _ _).bind fun _ _ _ _ => (settles_park _ _).bind
      fun _ _ _ _ => ?_
    refine (settles_logEvent _ _ _ _ _).bind fun _ _ _ _ => ?_
    exact (settles_commit _).bind fun _ _ _ _ => settles_modify _ _

theorem settles_flow (flow : Flow) : Settles (flow.run (σ := σ)) w := by
  cases flow with
  | reset => exact settles_runReset w
  | eject discId => exact settles_runEject w discId
  | add slot => exact settles_runAdd w slot none
  | return_ slot discId => exact settles_runAdd w slot (some discId)

/-- **Every job settles** in a world whose time passes. -/
theorem settles_runOwned (traced : Bool) {runner : Py σ Unit} (hr : ∀ w, Settles runner w) :
    Settles (runOwned traced runner) w := by
  refine (settles_modify _ _).bind fun _ _ _ _ => Settles.ensure (Settles.attempt ?_
    fun _ e w' _ => settles_reportFailure w' e) fun w' => ?_
  · refine (settles_openUnit _).bind fun _ _ _ _ => (settles_modify _ _).bind fun _ _ _ _ => ?_
    refine Settles.bind ?_ fun _ _ w' _ => hr w'
    refine (settles_execute _ _).bind fun _ _ _ _ => (settles_execute _ _).bind fun _ _ _ _ => ?_
    exact settles_modify _ _
  · refine (settles_modify _ _).bind fun _ _ _ _ => (settles_modify _ _).bind fun _ _ _ _ => ?_
    refine (settles_modify _ _).bind fun _ _ _ _ => (settles_gets _ _).bind fun _ _ _ _ => ?_
    exact (settles_modify _ _).when

end StakkaWeb
