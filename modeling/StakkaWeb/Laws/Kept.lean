import StakkaWeb.Laws.Methods

/-!
# What the protocol keeps

An invariant is `Kept` when every primitive the protocol is made of keeps it: the calls on the
outside world, closing the instance, a note on the job, a line of the trace, an observation. `W` says
which commands may be written; a method that writes only such commands keeps every kept invariant,
however it ends. Everything that later laws say of a whole method in terms of its primitives goes
through the lemmas of this module.
-/

set_option autoImplicit false

namespace StakkaWeb

open Lib Lib.Prog

variable {σ : Type} [Outside σ]

/-- `I` does not look at the database connection. -/
def ConnFree {σ : Type} (I : World σ → Prop) : Prop := ∀ conn w, I w → I { w with conn := conn }

namespace ConnFree

variable {σ : Type} {I : World σ → Prop} (h : ConnFree I)
include h

theorem execute {α : Type} (f : Catalog → Except Exc (α × Catalog)) :
    Keeps I (StakkaWeb.execute f) :=
  Keeps.call fun w hw => by
    dsimp only
    split
    · exact h _ w hw
    · split <;> exact h _ w hw

theorem commit : Keeps I (StakkaWeb.commit (σ := σ)) :=
  Keeps.call fun w hw => by
    dsimp only
    split <;> exact h _ w hw

theorem rollback : Keeps I (StakkaWeb.rollback (σ := σ)) :=
  Keeps.call fun w hw => by
    dsimp only
    split <;> exact h _ w hw

/-- A statement that SQLite refuses, or that fails, raises a `sqlite3.Error`. -/
theorem execute_raises {α : Type} {f : Catalog → Except Exc (α × Catalog)}
    (hf : ∀ c e, f c = .error e → e.isSqliteError = true) :
    Triple I (StakkaWeb.execute f) (fun _ => I)
      (fun e w => I w ∧ ∃ exc, e = some exc ∧ exc.isSqliteError = true) := by
  refine Triple.call (fun w a w' hw hr => ?_) fun w e w' hw hr => ?_
  · dsimp only at hr
    split at hr
    · cases hr
    · split at hr <;> cases hr
      exact h _ w hw
  · dsimp only at hr
    split at hr
    · cases hr
      exact ⟨h _ w hw, _, rfl, rfl⟩
    · split at hr
      next => cases hr
      next e' he =>
        cases hr
        exact ⟨h _ w hw, _, rfl, hf _ _ he⟩

theorem commit_raises : Triple I (StakkaWeb.commit (σ := σ)) (fun _ => I)
    (fun e w => I w ∧ ∃ exc, e = some exc ∧ exc.isSqliteError = true) := by
  refine Triple.call (fun w a w' hw hr => ?_) fun w e w' hw hr => ?_ <;> dsimp only at hr <;>
    split at hr <;> cases hr
  · exact h _ w hw
  · exact ⟨h _ w hw, _, rfl, rfl⟩

theorem rollback_raises : Triple I (StakkaWeb.rollback (σ := σ)) (fun _ => I)
    (fun e w => I w ∧ ∃ exc, e = some exc ∧ exc.isSqliteError = true) := by
  refine Triple.call (fun w a w' hw hr => ?_) fun w e w' hw hr => ?_ <;> dsimp only at hr <;>
    split at hr <;> cases hr
  · exact h _ w hw
  · exact ⟨h _ w hw, _, rfl, rfl⟩

theorem transaction {α : Type} {block : Py σ α} (hb : Keeps I block) :
    Keeps I (StakkaWeb.transaction block) :=
  (hb.bind fun _ => h.commit.bind fun _ => Keeps.pure _).attempt fun _ =>
    h.rollback.bind fun _ => Keeps.raise _

theorem connect : Keeps I (StakkaWeb.connect (σ := σ)) :=
  (h.execute _).bind fun _ => (h.execute _).bind fun _ => Keeps.modify fun w => h _ w

theorem logEvent (kind : EventKind) (discId slot : Option Nat) (detail : Option String) :
    Keeps I (StakkaWeb.logEvent (σ := σ) kind discId slot detail) :=
  (Keeps.gets _).bind fun _ => h.execute _

theorem createDisc (slot : Nat) (title : String) (kind : EventKind) :
    Keeps I (StakkaWeb.createDisc (σ := σ) slot title kind) :=
  (Keeps.gets _).bind fun _ => h.transaction <| (h.execute _).bind fun _ =>
    (h.logEvent _ _ _ _).bind fun _ => Keeps.pure _

theorem markOut (discId : Nat) (kind : EventKind) (detail : Option String) :
    Keeps I (StakkaWeb.markOut (σ := σ) discId kind detail) :=
  (Keeps.gets _).bind fun _ => h.transaction <| (h.execute _).bind fun _ =>
    (h.execute _).bind fun _ => h.logEvent _ _ _ _

theorem markStored (discId : Nat) (kind : EventKind) (detail : Option String) :
    Keeps I (StakkaWeb.markStored (σ := σ) discId kind detail) :=
  (Keeps.gets _).bind fun _ => h.transaction <| (h.execute _).bind fun _ =>
    (h.execute _).bind fun _ => h.logEvent _ _ _ _

theorem writeRow (slot : Nat) (discId : Option Nat) :
    Keeps I (StakkaWeb.writeRow (σ := σ) slot discId) := by
  cases discId with
  | none => exact h.createDisc _ _ _
  | some id => exact (h.markStored _ _ _).bind fun _ => Keeps.pure _

theorem logFailure (exc : Exc) : Keeps I (StakkaWeb.logFailure (σ := σ) exc) :=
  (Keeps.gets _).bind fun _ => Keeps.when <| Keeps.attempt
    (h.rollback.bind fun _ => (h.logEvent _ _ _ _).bind fun _ => h.commit)
    fun _ => Keeps.ite (Keeps.pure _) (Keeps.raise _)

/-- The statements of a flow. -/
theorem store : StoreRule I (fun _ => I) where
  getDisc _ := h.execute _
  logEvent := h.logEvent
  commit := h.commit
  markOut := h.markOut
  writeRow := h.writeRow

end ConnFree

/-- What one command is made of keeps `I`: writes as far as `W` allows them. -/
structure CallKept (W : Nat → List Nat → Prop) (I : World σ → Prop) : Prop where
  opens : ∀ w, I w → I { w with io := (Outside.opens w.io).2 }
  closes : ∀ w, I w → I { w with io := Outside.closes w.io }
  read : ∀ timeout_ms w, I w → I { w with io := (Outside.read 64 timeout_ms w.io).2 }
  write : ∀ unit msgid cmd args w, W cmd args → I w →
    I { w with io := (Outside.write (reportBytes unit msgid cmd args) w.io).2 }
  clock : ∀ w, I w → I { w with io := (Outside.clock w.io).2 }
  sleep : ∀ ms w, I w → I { w with io := Outside.sleep ms w.io }
  shut : ∀ w, I w → I { w with ds := w.ds.shut }
  answered : ∀ cmd args p w, W cmd args → I w → I { w with obs := .answered cmd p :: w.obs }

/-- The primitives of the protocol keep `I`. -/
structure Kept (W : Nat → List Nat → Prop) (I : World σ → Prop) : Prop extends CallKept W I where
  note : ∀ message w, I w → I { w with job := w.job.note message }
  trace : ∀ trace w, I w → I { w with trace := trace }
  word : ∀ st w, I w → I { w with obs := .word st :: w.obs }

/-- Two properties are kept together. -/
theorem Kept.and {W : Nat → List Nat → Prop} {I J : World σ → Prop} (h : Kept W I) (h' : Kept W J) :
    Kept W fun w => I w ∧ J w where
  opens w hw := ⟨h.opens w hw.1, h'.opens w hw.2⟩
  closes w hw := ⟨h.closes w hw.1, h'.closes w hw.2⟩
  read t w hw := ⟨h.read t w hw.1, h'.read t w hw.2⟩
  write u m c a w hc hw := ⟨h.write u m c a w hc hw.1, h'.write u m c a w hc hw.2⟩
  clock w hw := ⟨h.clock w hw.1, h'.clock w hw.2⟩
  sleep t w hw := ⟨h.sleep t w hw.1, h'.sleep t w hw.2⟩
  shut w hw := ⟨h.shut w hw.1, h'.shut w hw.2⟩
  answered c a p w hc hw := ⟨h.answered c a p w hc hw.1, h'.answered c a p w hc hw.2⟩
  note message w hw := ⟨h.note message w hw.1, h'.note message w hw.2⟩
  trace t w hw := ⟨h.trace t w hw.1, h'.trace t w hw.2⟩
  word st w hw := ⟨h.word st w hw.1, h'.word st w hw.2⟩

/-- `Kept` for a property of the outside world alone. -/
structure Stable (W : Nat → List Nat → Prop) (J : σ → Prop) : Prop where
  opens : ∀ s : σ, J s → J (Outside.opens s).2
  closes : ∀ s : σ, J s → J (Outside.closes s)
  read : ∀ timeout_ms (s : σ), J s → J (Outside.read 64 timeout_ms s).2
  write : ∀ (unit msgid cmd : Nat) (args : List Nat) (s : σ), W cmd args → J s →
    J (Outside.write (reportBytes unit msgid cmd args) s).2
  clock : ∀ s : σ, J s → J (Outside.clock s).2
  sleep : ∀ ms (s : σ), J s → J (Outside.sleep ms s)

theorem Stable.kept {W : Nat → List Nat → Prop} {J : σ → Prop} (h : Stable W J) :
    Kept W (fun w : World σ => J w.io) where
  opens w := h.opens w.io
  closes w := h.closes w.io
  read timeout_ms w := h.read timeout_ms w.io
  write unit msgid cmd args w := h.write unit msgid cmd args w.io
  clock w := h.clock w.io
  sleep ms w := h.sleep ms w.io
  shut _ h := h
  note _ _ h := h
  trace _ _ h := h
  answered _ _ _ _ _ h := h
  word _ _ h := h

/-- The commands that no move, load or retract depends on. -/
def harmless : List Nat :=
  [cmdRequestState, cmdClearErr1, cmdClearErr2, cmdSetLed, cmdVersionA, cmdVersionB,
    cmdGetSerial]

/-! ## The rules of the primitives -/

section Primitives

variable {σ α : Type} {P : World σ → Prop} {R : Option Exc → World σ → Prop}

theorem triple_ofOutside {f : σ → α × σ} {Q : α → World σ → Prop}
    (h : ∀ w, P w → Q (f w.io).1 { w with io := (f w.io).2 }) : Triple P (ofOutside f) Q R :=
  fun _ w hw => h w hw

theorem triple_onOutside {f : σ → Except Exc α × σ} {Q : α → World σ → Prop}
    (hok : ∀ w a s, P w → f w.io = (.ok a, s) → Q a { w with io := s })
    (herr : ∀ w e s, P w → f w.io = (.error e, s) → R (some e) { w with io := s }) :
    Triple P (onOutside f) Q R := by
  refine Triple.call (fun w a w' hw hr => ?_) fun w e w' hw hr => ?_
  · obtain ⟨h, rfl⟩ := Prod.ext_iff.mp hr
    exact hok w a _ hw (Prod.ext h rfl)
  · obtain ⟨h, rfl⟩ := Prod.ext_iff.mp hr
    exact herr w e _ hw (Prod.ext h rfl)

theorem triple_observe {o : Obs} {Q : Unit → World σ → Prop}
    (h : ∀ w, P w → Q () { w with obs := o :: w.obs }) : Triple P (observe o) Q R :=
  Triple.modify h

theorem triple_modifyDs {f : DiscStakka → DiscStakka} {Q : Unit → World σ → Prop}
    (h : ∀ w, P w → Q () { w with ds := f w.ds }) : Triple P (modifyDs f) Q R :=
  Triple.modify h

theorem triple_modifyJob {f : Job → Job} {Q : Unit → World σ → Prop}
    (h : ∀ w, P w → Q () { w with job := f w.job }) : Triple P (modifyJob f) Q R :=
  Triple.modify h

theorem triple_modifyTrace {f : Trace → Trace} {Q : Unit → World σ → Prop}
    (h : ∀ w, P w → Q () { w with trace := f w.trace }) : Triple P (modifyTrace f) Q R :=
  Triple.modify h

theorem triple_clock [Outside σ] {Q : Nat → World σ → Prop}
    (h : ∀ w, P w → Q (Outside.clock w.io).1 { w with io := (Outside.clock w.io).2 }) :
    Triple P clock Q R :=
  triple_ofOutside h

theorem triple_cue [Outside σ] {p : Phase} {Q : Unit → World σ → Prop}
    (h : ∀ w, P w → Q () { w with io := Outside.cue p w.io }) : Triple P (cue p) Q R :=
  triple_ofOutside h

theorem keeps_ofOutside {I : World σ → Prop} {f : σ → α × σ}
    (h : ∀ w, I w → I { w with io := (f w.io).2 }) : Keeps I (ofOutside f) :=
  triple_ofOutside h

theorem keeps_observe {I : World σ → Prop} {o : Obs}
    (h : ∀ w, I w → I { w with obs := o :: w.obs }) : Keeps I (observe o) :=
  triple_observe h

/-- An `OSError` becomes a `NotConnected`, and the instance is closed. -/
theorem triple_orNotConnected [Outside σ] {J : σ → Prop} {m : Py σ α} {Q : α → World σ → Prop}
    (hclose : ∀ s, J s → J (Outside.closes s)) (hm : Triple P m Q (fun _ w => J w.io))
    (what : String) : Triple P (orNotConnected what m) Q (fun _ w => J w.io) := by
  have hshut : Keeps (fun w : World σ => J w.io) close :=
    Keeps.bind (Keeps.modify fun w hw => hw) fun _ => keeps_ofOutside fun w hw => hclose _ hw
  refine hm.attempt (fun e => Triple.ite (fun _ => ?_) fun _ => Triple.raise fun w hw => hw)
    fun w hw => hw
  exact Triple.bind hshut fun _ => Triple.raise fun w hw => hw

end Primitives

/-! ## One command -/

namespace CallKept

variable {W : Nat → List Nat → Prop} {I : World σ → Prop}

theorem keepsClock (h : CallKept W I) : Keeps I (StakkaWeb.clock (σ := σ)) :=
  keeps_ofOutside h.clock

theorem close (h : CallKept W I) : Keeps I (StakkaWeb.close (σ := σ)) :=
  Keeps.bind (Keeps.modify h.shut) fun _ => keeps_ofOutside h.closes

theorem orNotConnected (h : CallKept W I) {α : Type} (what : String) {m : Py σ α} (hm : Keeps I m) :
    Keeps I (orNotConnected what m) :=
  hm.attempt fun exc => Keeps.ite (h.close.bind fun _ => Keeps.raise _) (Keeps.raise exc)

theorem keepsRead (h : CallKept W I) (timeout_ms : Nat) :
    Keeps I (StakkaWeb.read (σ := σ) timeout_ms) := by
  refine (Keeps.gets _).bind fun _ => (Keeps.raiseIf _ _).bind fun _ => ?_
  refine (h.orNotConnected _ (Keeps.call (h.read timeout_ms))).bind fun raw => ?_
  exact Keeps.ite (Keeps.pure _) (Keeps.ite (Keeps.raise _) (Keeps.pure _))

theorem keepsWrite (h : CallKept W I) (msgid : Nat) {cmd : Nat} {args : List Nat} (hw : W cmd args) :
    Keeps I (StakkaWeb.write (σ := σ) msgid cmd args) := by
  refine (Keeps.gets _).bind fun ds => (Keeps.raiseIf _ _).bind fun _ => ?_
  refine (Keeps.raiseIf _ _).bind fun _ => ?_
  refine (h.orNotConnected _ (Keeps.call fun w => ?_)).bind fun _ => Keeps.raiseIf _ _
  exact h.write ds.unit msgid cmd args w hw

/-- The steps of a command keep what their primitives keep. -/
theorem link (h : CallKept W I) : LinkRule W I (fun _ => I) where
  read := h.keepsRead
  write msgid _ _ hw _ := h.keepsWrite msgid hw
  clock := h.keepsClock
  answered p hw := keeps_observe fun w => h.answered _ _ p w hw
  hang _ := id
  raises _ _ := id

theorem awaitReply (h : CallKept W I) {cmd : Nat} (args : List Nat) (hw : W cmd args)
    (msgid deadline : Nat) : Keeps I (awaitReply (σ := σ) cmd msgid deadline) :=
  h.link.awaitReply hw msgid deadline

theorem command (h : CallKept W I) {cmd : Nat} {args : List Nat} (hw : W cmd args)
    (timeout_ms : Nat) : Keeps I (command (σ := σ) cmd args timeout_ms) :=
  h.link.command hw timeout_ms

/-! The handshake is the one part of the protocol that sets the unit, the serial and the firmware. -/

section Handshake

variable (h : CallKept W I) (hw : ∀ cmd ∈ [cmdVersionA, cmdVersionB, cmdGetSerial], W cmd [])
  (hd : ∀ ds w, I w → I { w with ds := ds })

omit [Outside σ] in
include hd in
theorem keepsDs (f : DiscStakka → DiscStakka) : Keeps I (modifyDs (σ := σ) f) :=
  Keeps.modify fun w => hd _ w

include h hw

include hd in
theorem handshake : Keeps I (handshake (σ := σ)) :=
  h.link.handshake hw (fun _ => keepsDs hd _) (fun _ => keepsDs hd _) fun _ => keepsDs hd _

include hd in
theorem openOnce : Keeps I (openOnce (σ := σ)) := by
  refine Keeps.attempt ?_ fun exc => Keeps.ite (Keeps.pure _) (Keeps.raise _)
  refine Keeps.bind (Keeps.call h.opens) fun _ => (keepsDs hd _).bind fun _ => ?_
  exact ((h.handshake hw hd).bind fun _ => Keeps.pure _).attempt fun exc =>
    h.close.bind fun _ => Keeps.pure _

include hd in
theorem openFrom (left : Nat) (last : String) : Keeps I (openFrom (σ := σ) last left) := by
  induction left generalizing last with
  | zero => exact Keeps.raise _
  | succ left ih =>
    refine (h.openOnce hw hd).bind fun failed => ?_
    cases failed with
    | none => exact Keeps.pure _
    | some exc => exact Keeps.bind (Keeps.when (keeps_ofOutside (h.sleep 400))) fun _ => ih exc.text

include hd in
theorem openUnit : Keeps I (openUnit (σ := σ)) :=
  (Keeps.gets _).bind fun _ => Keeps.ite (Keeps.pure _) (h.openFrom hw hd 3 _)

end Handshake

end CallKept

/-! ## Waits and retries -/

namespace Kept

variable {W : Nat → List Nat → Prop} {I : World σ → Prop}

theorem report (h : Kept W I) (progress : Progress) (message : String) :
    Keeps I (report progress message) := by
  cases progress with
  | none => exact Keeps.pure ()
  | note => exact Keeps.modify (h.note message)

theorem traceStatus (h : Kept W I) (st : Nat) : Keeps I (traceStatus (σ := σ) st) :=
  Keeps.modify fun w hw => by
    show I (if w.ds.tracing then _ else w)
    split
    · exact h.trace _ w hw
    · exact hw

theorem matchState (h : Kept W I) (mask want : Nat) (reply : Option Packet) :
    Keeps I (matchState (σ := σ) mask want reply) := by
  cases reply with
  | none => exact Keeps.pure _
  | some p =>
    refine Keeps.ite ((keeps_observe (h.word _)).bind fun _ => ?_) (Keeps.pure _)
    exact (h.traceStatus _).bind fun _ => Keeps.pure _

/-- The steps of the methods, the moves apart. -/
theorem methods (h : Kept W I) (hs : W cmdRequestState []) : MethodRule W I (fun _ => I) where
  toLinkRule := h.link
  request := hs
  matchState := h.matchState
  status := PollRule.status_of_word ⟨h.link, hs, h.matchState⟩ fun _ => keeps_observe (h.word _)
  report := h.report
  caught _ _ hw _ := hw

theorem waitState (h : Kept W I) (hs : W cmdRequestState []) (mask want timeout_ms : Nat) :
    Keeps I (waitState (σ := σ) mask want timeout_ms) :=
  (h.methods hs).waitState mask want timeout_ms

theorem requireFrom (h : Kept W I) (hs : W cmdRequestState []) {cmd : Nat} {args : List Nat}
    (hw : W cmd args) (tries left : Nat) : Keeps I (requireFrom (σ := σ) cmd args tries left) :=
  (h.methods hs).requireFrom hw tries left

theorem require (h : Kept W I) (hs : W cmdRequestState []) {cmd : Nat} {args : List Nat}
    (hw : W cmd args) : Keeps I (require (σ := σ) cmd args) :=
  h.requireFrom hs hw 3 3

theorem status (h : Kept W I) (hs : W cmdRequestState []) : Keeps I (status (σ := σ)) :=
  (h.methods hs).status

theorem discInBay (h : Kept W I) (hs : W cmdRequestState []) : Keeps I (discInBay (σ := σ)) :=
  (h.methods hs).discInBay

theorem idleOr (h : Kept W I) (hs : W cmdRequestState []) (msg : String) :
    Keeps I (idleOr (σ := σ) msg) :=
  (h.methods hs).idleOr msg

theorem ensureHomed (h : Kept W I) (hs : W cmdRequestState []) (hm : W cmdSetPos [home])
    (progress : Progress) : Keeps I (ensureHomed (σ := σ) progress) :=
  (h.methods hs).ensureHomed hm progress

/-! ## The operations -/

theorem ingest (h : Kept W I) (hs : W cmdRequestState []) (hw : W cmdAcceptDisc [])
    (progress : Progress) : Keeps I (ingest (σ := σ) progress) :=
  (h.methods hs).ingest hw progress

theorem retract (h : Kept W I) (hs : W cmdRequestState []) (hw : W cmdRetract [])
    (progress : Progress) : Keeps I (retract (σ := σ) progress) :=
  (h.methods hs).retract hw progress

/-! ## The moves -/

theorem refuseWithADiscOut (h : Kept W I) (hs : W cmdRequestState []) :
    Keeps I (refuseWithADiscOut (σ := σ)) :=
  (h.methods hs).refuseWithADiscOut

theorem moveTo (h : Kept W I) (hs : W cmdRequestState []) (hm : W cmdSetPos [home]) {slot : Nat}
    {eject : Bool} (hw : W cmdSetPos [slot, if eject then 1 else 0]) (progress : Progress) :
    Keeps I (moveTo (σ := σ) slot eject progress) :=
  (h.methods hs).moveTo (fun _ => hm) hw (fun _ _ _ => id) progress

theorem park (h : Kept W I) (hs : W cmdRequestState []) (hw : W cmdSetPos [home, 0])
    (progress : Progress) : Keeps I (park (σ := σ) progress) :=
  (h.methods hs).park hw progress

theorem reset (h : Kept W I) (hw : ∀ cmd ∈ harmless, ∀ args, W cmd args)
    (hm : W cmdSetPos [home]) (progress : Progress) : Keeps I (reset (σ := σ) progress) :=
  (h.methods (hw _ (by decide) _)).reset (fun cmd hcmd => hw cmd (by revert hcmd; decide +revert) _)
    (hw _ (by decide) _) hm progress

/-- The steps of a flow but for the phases, over moves that keep `I`. -/
theorem reports (h : Kept W I) (hs : W cmdRequestState []) (hjob : ∀ job w, I w → I { w with job := job })
    (hmove : ∀ slot eject progress, Keeps I (StakkaWeb.moveTo (σ := σ) slot eject progress)) :
    ReportRule W I (fun _ => I) where
  toMethodRule := h.methods hs
  mark _ := Keeps.modify fun w => h.trace _ w
  job _ := Keeps.modify fun w => hjob _ w
  moves := hmove

end Kept

/-! ## The flows -/

/-- `Kept`, and by what a flow does besides: reporting through the job and showing its phase. -/
structure FlowKept (W : Nat → List Nat → Prop) (I : World σ → Prop) : Prop extends Kept W I where
  job : ∀ job w, I w → I { w with job := job }
  phase : ∀ p w, I w → I { w with io := Outside.cue p w.io }

namespace FlowKept

variable {W : Nat → List Nat → Prop} {I : World σ → Prop}

omit [Outside σ] in
theorem mark {I : World σ → Prop} (h : ∀ trace w, I w → I { w with trace := trace })
    (label : String) : Keeps I (StakkaWeb.mark (σ := σ) label) :=
  Keeps.modify fun w => h _ w

theorem setPhase (h : FlowKept W I) (p : Phase) (message : String) (window_s : Option Nat) :
    Keeps I (setPhase (σ := σ) p message window_s) := by
  refine Keeps.bind ?_ fun deadline => Keeps.bind (Keeps.modify fun w => h.job _ w) fun _ =>
    keeps_ofOutside (h.phase p)
  cases window_s with
  | none => exact Keeps.pure _
  | some window => exact h.keepsClock.bind fun _ => Keeps.pure _

theorem fail (h : FlowKept W I) (error : String) (result : JobResult) :
    Keeps I (fail (σ := σ) error result) :=
  Keeps.modify fun w => h.job _ w

theorem succeed (h : FlowKept W I) (message : String) (result : JobResult) :
    Keeps I (succeed (σ := σ) message result) :=
  Keeps.modify fun w => h.job _ w

/-- A reading of the watch. -/
theorem watched (h : FlowKept W I) (hs : W cmdRequestState []) :
    Keeps I (do
      let st ← status (σ := σ)
      modifyTrace (Trace.status st)
      pure (none : Option Unit)) :=
  (h.status hs).bind fun _ => Keeps.bind (Keeps.modify fun w => h.trace _ w) fun _ => Keeps.pure _

theorem watch (h : FlowKept W I) (hs : W cmdRequestState []) : Keeps I (watch (σ := σ)) := by
  refine (mark h.trace _).bind fun _ => h.keepsClock.bind fun now => ?_
  refine Keeps.attempt (Keeps.loop ?_) fun exc => Keeps.ite (mark h.trace _) (Keeps.raise _)
  exact h.keepsClock.bind fun now => Keeps.ite (h.watched hs) (Keeps.pure _)

/-- The steps of a flow, over moves that keep `I`. -/
theorem jobs (h : FlowKept W I) (hs : W cmdRequestState [])
    (hmove : ∀ slot eject progress, Keeps I (moveTo (σ := σ) slot eject progress))
    (hcat : ∀ w, I w → I { w with obs := .catalogued :: w.obs }) : JobRule W I (fun _ => I) where
  toReportRule := h.toKept.reports hs h.job hmove
  setPhase := h.setPhase
  catalogued := keeps_observe hcat
  watched := h.watched hs

end FlowKept

/-- What is said of the connection alone, the protocol and the job leave be. -/
theorem flowKept_conn (φ : Conn → Prop) :
    FlowKept (fun _ _ => True) (fun w : World σ => φ w.conn) where
  opens _ := id
  closes _ := id
  read _ _ := id
  write _ _ _ _ _ _ := id
  clock _ := id
  sleep _ _ := id
  shut _ := id
  answered _ _ _ _ _ := id
  note _ _ := id
  trace _ _ := id
  word _ _ := id
  job _ _ := id
  phase _ _ := id

/-- What is said of what was noted alone, replies and words may change. -/
theorem flowKept_obs {W : Nat → List Nat → Prop} {φ : List Obs → Prop}
    (answered : ∀ cmd args p obs, W cmd args → φ obs → φ (.answered cmd p :: obs))
    (word : ∀ st obs, φ obs → φ (.word st :: obs)) : FlowKept W (fun w : World σ => φ w.obs) where
  opens _ := id
  closes _ := id
  read _ _ := id
  write _ _ _ _ _ _ := id
  clock _ := id
  sleep _ _ := id
  shut _ := id
  answered cmd args p w := answered cmd args p w.obs
  note _ _ := id
  trace _ _ := id
  word st w := word st w.obs
  job _ _ := id
  phase _ _ := id

end StakkaWeb
