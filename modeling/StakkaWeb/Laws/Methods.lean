import StakkaWeb.Operations

/-!
# What the methods are made of

Every method of the protocol and every flow is made of a few steps: reads and writes, readings of
the status, reports, statements on the database. `Goes I R m`: `m` leads from `I` to `I`, or to
`R` when it ends abruptly. The structures below collect the steps of ever larger parts of the
program, and the lemmas under each carry `I` and `R` from its steps to the methods built on them.
With `R` as `I` again this is the rule of an invariant; `W` says which commands may be written.
-/

set_option autoImplicit false

namespace StakkaWeb

open Lib Lib.Prog

/-- `m` leads from `I` to `I`, or to `R` when it ends abruptly. -/
abbrev Goes {σ α : Type} (I : World σ → Prop) (R : Option Exc → World σ → Prop) (m : Py σ α) : Prop :=
  Triple I m (fun _ => I) R

section Parts

variable {σ α β : Type} {I : World σ → Prop} {R : Option Exc → World σ → Prop}

theorem Goes.pure (a : α) : Goes I R (pure a) := Triple.pure fun _ => id

theorem Goes.bind {m : Py σ α} {f : α → Py σ β} (hm : Goes I R m) (hf : ∀ a, Goes I R (f a)) :
    Goes I R (m >>= f) :=
  Triple.bind hm hf

theorem Goes.ite {c : Prop} [Decidable c] {m m' : Py σ α} (h : Goes I R m) (h' : Goes I R m') :
    Goes I R (if c then m else m') :=
  Triple.ite (fun _ => h) fun _ => h'

theorem Goes.when {c : Bool} {m : Py σ Unit} (h : Goes I R m) : Goes I R (Prog.when c m) :=
  Triple.when (fun _ => h) fun _ hw _ => hw

theorem Goes.raiseIf {c : Bool} {e : Exc} (he : ∀ w, I w → R (some e) w) :
    Goes I R (Prog.raiseIf c e : Py σ Unit) :=
  Triple.raiseIf (fun w hw _ => he w hw) fun _ hw _ => hw

theorem Goes.loop {body : Py σ (Option α)} (h : Goes I R body) (hg : ∀ w, I w → R none w) :
    Goes I R (Prog.loop body) :=
  Triple.loop I (fun _ => id) (h.post fun r _ hr => by cases r <;> exact hr) hg

end Parts

variable {σ : Type} [Outside σ]

/-! ## Commands -/

/-- The steps of a command. -/
structure LinkRule (W : Nat → List Nat → Prop) (I : World σ → Prop)
    (R : Option Exc → World σ → Prop) : Prop where
  read : ∀ timeout_ms, Goes I R (read timeout_ms)
  write : ∀ (msgid : Nat) {cmd : Nat} {args : List Nat}, W cmd args → msgid ≤ 255 →
    Goes I R (write msgid cmd args)
  clock : Goes I R clock
  answered : ∀ {cmd : Nat} {args : List Nat} (p : Packet), W cmd args →
    Goes I R (observe (.answered cmd p))
  hang : ∀ w, I w → R none w
  raises : ∀ msg w, I w → R (some (.deviceError msg)) w

variable {W : Nat → List Nat → Prop} {I : World σ → Prop} {R : Option Exc → World σ → Prop}

namespace LinkRule

variable (h : LinkRule W I R)
include h

theorem awaitReply {cmd : Nat} {args : List Nat} (hw : W cmd args) (msgid deadline : Nat) :
    Goes I R (awaitReply cmd msgid deadline) := by
  refine h.clock.bind fun now => Goes.ite ?_ (Goes.pure _)
  refine (h.read pollMs).bind fun reply => ?_
  cases reply with
  | none => exact Goes.pure _
  | some p => exact Goes.ite ((h.answered p hw).bind fun _ => Goes.pure _) (Goes.pure _)

theorem command {cmd : Nat} {args : List Nat} (hw : W cmd args) (timeout_ms : Nat) :
    Goes I R (command cmd args timeout_ms) := by
  refine (h.read timeout_ms).bind fun seed => ?_
  cases seed with
  | none => exact Triple.raise fun w => h.raises _ w
  | some seed =>
    refine (h.write _ hw (by omega)).bind fun _ => h.clock.bind fun now => ?_
    exact Goes.loop (h.awaitReply hw _ _) h.hang

/-! The handshake sets the unit, the serial and the firmware. -/

section Handshake

variable (hw : ∀ cmd ∈ [cmdVersionA, cmdVersionB, cmdGetSerial], W cmd [])
include hw

theorem readFirmware : Goes I R readFirmware := by
  refine (h.command (hw _ (by decide)) ackMs).bind fun a => ?_
  refine (h.command (hw _ (by decide)) ackMs).bind fun b => ?_
  cases a <;> cases b <;> exact Goes.pure _

variable (hunit : ∀ unit, Goes I R (modifyDs fun ds => { ds with unit := unit }))
  (hserial : ∀ serial, Goes I R (modifyDs fun ds => { ds with serial := some serial }))
include hunit hserial

theorem greet (deadline : Nat) : Goes I R (greet deadline) := by
  have hget : W cmdGetSerial [] := hw _ (by decide)
  refine h.clock.bind fun now => Goes.ite ?_ (Triple.raise fun w => h.raises _ w)
  refine (h.read pollMs).bind fun pkt => ?_
  cases pkt with
  | none => exact Goes.pure _
  | some pkt =>
    refine (hunit _).bind fun _ => Goes.ite ?_ (Goes.ite ?_ ?_)
    · exact (h.write _ hget (by omega)).bind fun _ => Goes.pure _
    · exact (hserial _).bind fun _ => Goes.pure _
    · refine (h.command hget ackMs).bind fun reply => ?_
      cases reply with
      | none => exact Triple.raise fun w => h.raises _ w
      | some reply => exact (hserial _).bind fun _ => Goes.pure _

theorem handshake
    (hfirmware : ∀ firmware, Goes I R (modifyDs fun ds => { ds with firmware := firmware })) :
    Goes I R handshake := by
  refine h.clock.bind fun now => ?_
  refine (Goes.loop (h.greet hw hunit hserial _) h.hang).bind fun _ => ?_
  exact (h.readFirmware hw).bind fun _ => hfirmware _

end Handshake

end LinkRule

/-! ## Waits and retries -/

/-- The steps of a wait, too. -/
structure PollRule (W : Nat → List Nat → Prop) (I : World σ → Prop)
    (R : Option Exc → World σ → Prop) : Prop extends LinkRule W I R where
  request : W cmdRequestState []
  matchState : ∀ mask want reply, Goes I R (matchState mask want reply)

namespace PollRule

variable (h : PollRule W I R)
include h

theorem pollState (mask want deadline : Nat) : Goes I R (pollState mask want deadline) := by
  refine (h.command h.request ackMs).bind fun reply => (h.matchState mask want reply).bind fun _ => ?_
  exact Goes.ite (Goes.pure _) (h.clock.bind fun _ => Goes.pure _)

theorem waitState (mask want timeout_ms : Nat) : Goes I R (waitState mask want timeout_ms) :=
  h.clock.bind fun _ => Goes.loop (h.pollState mask want _) h.hang

theorem requireFrom {cmd : Nat} {args : List Nat} (hw : W cmd args) (tries left : Nat) :
    Goes I R (requireFrom cmd args tries left) := by
  induction left with
  | zero => exact Triple.raise fun w => h.raises _ w
  | succ left ih =>
    refine (h.command hw ackMs).bind fun reply => ?_
    cases reply with
    | some p => exact Goes.pure p
    | none =>
      refine Goes.bind (Goes.when ?_) fun _ => ih
      exact (h.waitState stBusy 0 2000).bind fun _ => Goes.pure _

theorem require {cmd : Nat} {args : List Nat} (hw : W cmd args) : Goes I R (require cmd args) :=
  h.requireFrom hw 3 3

theorem idleOr (msg : String) : Goes I R (idleOr msg) :=
  (h.waitState stBusy 0 settleMs).bind fun _ => Goes.raiseIf (h.raises msg)

/-- `status`, when noting the word it reads is a step. -/
theorem status_of_word (hword : ∀ st, Goes I R (observe (.word st))) : Goes I R status :=
  (h.require h.request).bind fun _ => (hword _).bind fun _ => Goes.pure _

end PollRule

/-- The rule of `require`, by its attempts: `A left` before one, with `left` to go, and `B left`
after one that went unanswered. -/
theorem requireFrom_answers {A B : Nat → World σ → Prop} {C : Packet → World σ → Prop}
    {R : Option Exc → World σ → Prop} {cmd : Nat} {args : List Nat} {tries : Nat}
    (hattempt : ∀ left, Triple (A (left + 1)) (command cmd args ackMs)
      (fun reply w => (∀ p, reply = some p → C p w) ∧ (reply = none → B left w)) R)
    (hretry : ∀ left, 0 < left → Triple (B left) (waitState stBusy 0 2000) (fun _ => A left) R)
    (hlost : ∀ msg w, B 0 w → R (some (.deviceError msg)) w) (left : Nat) :
    Triple (A (left + 1)) (requireFrom cmd args tries (left + 1)) C R := by
  induction left with
  | zero =>
    refine (hattempt 0).bind fun reply => ?_
    cases reply with
    | some p => exact Triple.pure fun w hw => hw.1 p rfl
    | none => exact Triple.raise fun w hw => hlost _ w (hw.2 rfl)
  | succ left ih =>
    refine (hattempt (left + 1)).bind fun reply => ?_
    cases reply with
    | some p => exact Triple.pure fun w hw => hw.1 p rfl
    | none =>
      refine Triple.bind (M := fun _ => A (left + 1)) ?_ fun _ => ih
      refine Triple.when (fun _ => ?_) fun w hw hno => absurd left.succ_pos (of_decide_eq_false hno)
      refine ((hretry (left + 1) left.succ_pos).pre fun w hw => hw.2 rfl).bind fun _ => ?_
      exact Triple.pure fun _ => id

/-- The same, when it does not matter what the answer was. -/
theorem requireFrom_rule {A B : Nat → World σ → Prop} {C : World σ → Prop}
    {R : Option Exc → World σ → Prop} {cmd : Nat} {args : List Nat} {tries : Nat}
    (hattempt : ∀ left, Triple (A (left + 1)) (command cmd args ackMs)
      (fun reply w => if reply.isSome then C w else B left w) R)
    (hretry : ∀ left, 0 < left → Triple (B left) (waitState stBusy 0 2000) (fun _ => A left) R)
    (hlost : ∀ msg w, B 0 w → R (some (.deviceError msg)) w) (left : Nat) :
    Triple (A (left + 1)) (requireFrom cmd args tries (left + 1)) (fun _ => C) R := by
  refine requireFrom_answers (fun left => (hattempt left).post fun reply w hw => ?_) hretry hlost left
  constructor
  · rintro p rfl
    exact hw
  · rintro rfl
    exact hw

/-! ## Readings, reports and what `except DeviceError` catches -/

structure MethodRule (W : Nat → List Nat → Prop) (I : World σ → Prop)
    (R : Option Exc → World σ → Prop) : Prop extends PollRule W I R where
  status : Goes I R status
  report : ∀ progress message, Goes I R (report progress message)
  caught : ∀ e w, R (some e) w → e.isDeviceError = true → I w

namespace MethodRule

variable (h : MethodRule W I R)
include h

theorem discInBay : Goes I R discInBay := h.status.bind fun _ => Goes.pure _

theorem ensureHomed (hw : W cmdSetPos [home]) (progress : Progress) :
    Goes I R (ensureHomed progress) := by
  refine h.status.bind fun st => Goes.ite (Goes.pure _) ?_
  refine (h.idleOr _).bind fun _ => (h.report _ _).bind fun _ => ?_
  refine (h.require hw).bind fun _ => (h.idleOr _).bind fun _ => ?_
  exact h.status.bind fun _ => Goes.raiseIf (h.raises _)

theorem ingest (hw : W cmdAcceptDisc []) (progress : Progress) : Goes I R (ingest progress) := by
  refine (h.report _ _).bind fun _ => (h.idleOr _).bind fun _ => (h.report _ _).bind fun _ => ?_
  exact (h.require hw).bind fun _ => h.idleOr _

theorem retract (hw : W cmdRetract []) (progress : Progress) : Goes I R (retract progress) := by
  refine (h.report _ _).bind fun _ => (h.waitState stBusy 0 nowMs).bind fun _ => ?_
  refine Goes.bind ?_ fun acked => ?_
  · refine Triple.attempt (E := R) ((h.require hw).bind fun _ => Goes.pure _) (fun exc => ?_)
      fun w hw => hw
    cases exc with
    | deviceError msg => exact Triple.pure fun w hw => h.caught _ w hw rfl
    | _ => exact Triple.raise fun w hw => hw
  · refine (h.idleOr _).bind fun _ => h.discInBay.bind fun _ => ?_
    exact (Goes.raiseIf (h.raises _)).bind fun _ => Goes.pure _

/-- A part of a flow whose `DeviceError`s are handled. -/
theorem exceptDeviceError {α : Type} {m : Py σ α} {handler : Exc → Py σ α} (hm : Goes I R m)
    (hh : ∀ e, Goes I R (handler e)) : Goes I R (exceptDeviceError m handler) := by
  refine Triple.attempt (E := R) hm (fun e => Triple.ite (fun he => ?_) fun _ => ?_) fun w hw => hw
  · exact (hh e).pre fun w hw => h.caught e w hw he
  · exact Triple.raise fun w hw => hw

/-! ## Moves -/

theorem refuseWithADiscOut : Goes I R refuseWithADiscOut :=
  h.discInBay.bind fun _ => Goes.raiseIf (h.raises _)

theorem moveTo {slot : Nat} {eject : Bool} (hhome : slot ≠ home → W cmdSetPos [home])
    (hw : W cmdSetPos [slot, if eject then 1 else 0])
    (hslot : slotMax < slot → ∀ msg w, I w → R (some (.valueError msg)) w) (progress : Progress) :
    Goes I R (moveTo slot eject progress) := by
  refine Goes.bind (Triple.raiseIf (fun w hw hc => ?_) fun _ hw _ => hw) fun _ => ?_
  · exact hslot (of_decide_eq_true hc) _ w hw
  refine (h.idleOr _).bind fun _ => h.refuseWithADiscOut.bind fun _ => ?_
  refine Goes.bind (Triple.when (fun hne => ?_) fun _ hw _ => hw) fun _ => ?_
  · exact h.ensureHomed (hhome (of_decide_eq_true hne)) progress
  · exact (h.require hw).bind fun _ => h.idleOr _

theorem park (hw : W cmdSetPos [home, 0]) (progress : Progress) :
    Goes I R (park progress) := by
  refine (h.report _ _).bind fun _ => ?_
  refine h.exceptDeviceError ?_ fun _ => Goes.pure _
  refine h.moveTo ?_ hw ?_ _
  · exact fun hne => absurd rfl hne
  · exact fun hlt => absurd hlt (by decide)

theorem reset (hw : ∀ cmd ∈ [cmdClearErr1, cmdClearErr2], W cmd []) (hled : W cmdSetLed [1, 1])
    (hhome : W cmdSetPos [home]) (progress : Progress) : Goes I R (reset progress) := by
  refine (h.report _ _).bind fun _ => (h.command h.request ackMs).bind fun _ => ?_
  refine (h.command (hw _ (by decide)) ackMs).bind fun _ => ?_
  refine (h.command (hw _ (by decide)) ackMs).bind fun _ => ?_
  refine (h.idleOr _).bind fun _ => h.refuseWithADiscOut.bind fun _ => ?_
  refine (h.command hled ackMs).bind fun _ => (h.report _ _).bind fun _ => ?_
  exact (h.require hhome).bind fun _ => h.idleOr _

end MethodRule

/-! ## The methods one and all -/

theorem MethodRule.alive (h : MethodRule W I R) : Goes I R alive := by
  refine Triple.attempt (E := R) ((h.read 0).bind fun _ => Goes.pure _) (fun exc => ?_) fun _ => id
  cases exc with
  | notConnected msg => exact Triple.pure fun w hw => h.caught _ w hw rfl
  | _ => exact Triple.raise fun _ => id

omit [Outside σ] in
theorem Goes.ignoring {α : Type} {m : Py σ α} (h : Goes I R m) : Goes I R (ignoring m) :=
  h.bind fun _ => Goes.pure _

/-- A method that may be called with any arguments. -/
theorem MethodRule.operation (h : MethodRule (fun _ _ => True) I R)
    (hslot : ∀ msg w, I w → R (some (.valueError msg)) w) (hclose : Goes I R close)
    (op : Operation) (hopen : op.opens = true → Goes I R op.run) : Goes I R op.run := by
  cases op with
  | open_ => exact hopen rfl
  | reconnect => exact hopen rfl
  | close => exact hclose
  | alive => exact Goes.ignoring h.alive
  | command cmd args timeout_ms => exact Goes.ignoring (h.command trivial timeout_ms)
  | require cmd args => exact Goes.ignoring (h.require trivial)
  | status => exact Goes.ignoring h.status
  | position => exact Goes.ignoring ((h.require trivial).bind fun _ => Goes.pure _)
  | waitState mask want timeout_ms => exact Goes.ignoring (h.waitState mask want timeout_ms)
  | waitIdle timeout_ms => exact Goes.ignoring (h.waitState _ _ _)
  | waitForInsert timeout_ms => exact Goes.ignoring (h.waitState _ _ _)
  | waitForTake timeout_ms => exact Goes.ignoring (h.waitState _ _ _)
  | discInBay => exact Goes.ignoring h.discInBay
  | ensureHomed progress => exact h.ensureHomed trivial progress
  | moveTo slot eject progress =>
    exact h.moveTo (fun _ => trivial) trivial (fun _ => hslot) progress
  | park progress => exact h.park trivial progress
  | reset progress => exact h.reset (fun _ _ => trivial) trivial trivial progress
  | ingest progress => exact h.ingest trivial progress
  | retract progress => exact Goes.ignoring (h.retract trivial progress)
  | setLed onTime period => exact Goes.ignoring (h.command trivial _)

/-- For what looks at the outside world and the instance alone, nothing but the link is left to
show. -/
theorem MethodRule.of_link (h : LinkRule W I R) (request : W cmdRequestState [])
    (hfree : ∀ w w' : World σ, w'.io = w.io → w'.ds = w.ds → I w → I w')
    (caught : ∀ e w, R (some e) w → e.isDeviceError = true → I w) : MethodRule W I R := by
  have hpoll : PollRule W I R :=
    { toLinkRule := h
      request := request
      matchState := fun mask want reply => by
        cases reply with
        | none => exact Goes.pure _
        | some p =>
          refine Goes.ite (Goes.bind (Triple.modify fun w => hfree w _ rfl rfl) fun _ => ?_) (Goes.pure _)
          refine Goes.bind (Triple.modify fun w hw => ?_) fun _ => Goes.pure _
          split
          · exact hfree w _ rfl rfl hw
          · exact hw }
  exact
    { toPollRule := hpoll
      status := hpoll.status_of_word fun _ => Triple.modify fun w => hfree w _ rfl rfl
      report := fun progress message => by
        cases progress with
        | none => exact Goes.pure ()
        | note => exact Triple.modify fun w => hfree w _ rfl rfl
      caught := caught }

/-! ## Flows -/

/-- The steps of a flow besides the methods: what it does to the job and its trace. -/
structure ReportRule (W : Nat → List Nat → Prop) (I : World σ → Prop)
    (R : Option Exc → World σ → Prop) : Prop extends MethodRule W I R where
  mark : ∀ label, Goes I R (mark label)
  job : ∀ f, Goes I R (modifyJob f)
  moves : ∀ slot eject progress, Goes I R (moveTo slot eject progress)

/-- And the phases it shows, whichever they are. -/
structure JobRule (W : Nat → List Nat → Prop) (I : World σ → Prop)
    (R : Option Exc → World σ → Prop) : Prop extends ReportRule W I R where
  setPhase : ∀ p message window_s, Goes I R (setPhase p message window_s)
  catalogued : Goes I R (observe .catalogued)
  /-- A reading of the watch, which hands the word to the trace itself. -/
  watched : Goes I R (do
    let st ← StakkaWeb.status
    modifyTrace (Trace.status st)
    pure (none : Option Unit))

/-- The statements of a flow. -/
structure StoreRule (I : World σ → Prop) (R : Option Exc → World σ → Prop) : Prop where
  getDisc : ∀ discId, Goes I R (getDisc discId)
  logEvent : ∀ kind discId slot detail, Goes I R (logEvent kind discId slot detail)
  commit : Goes I R commit
  markOut : ∀ discId kind detail, Goes I R (markOut discId kind detail)
  writeRow : ∀ slot discId, Goes I R (writeRow slot discId)

namespace ReportRule

variable (h : ReportRule W I R)
include h

theorem fail (error : String) (result : JobResult) : Goes I R (fail error result) := h.job _

theorem succeed (message : String) (result : JobResult) : Goes I R (succeed message result) :=
  h.job _

theorem parkBy (progress : Progress) : Goes I R (park progress) :=
  (h.report _ _).bind fun _ => h.exceptDeviceError (h.moves _ _ _) fun _ => Goes.pure _

/-! The ends of an eject, by the phase that each shows. -/

variable (hc : StoreRule I R)
include hc

theorem ejectTaken (hphase : ∀ message, Goes I R (setPhase .parking message none)) (discId slot : Nat)
    (title : String) : Goes I R (ejectTaken discId slot title) :=
  (hphase _).bind fun _ => (h.mark _).bind fun _ => (h.parkBy _).bind fun _ =>
    (hc.markOut _ _ _).bind fun _ => h.succeed _ _

theorem ejectFoundNothing (hphase : ∀ message, Goes I R (setPhase .parking message none))
    (discId slot : Nat) : Goes I R (ejectFoundNothing discId slot) :=
  (hphase _).bind fun _ => (h.mark _).bind fun _ => (h.parkBy _).bind fun _ =>
    (hc.logEvent _ _ _ _).bind fun _ => hc.commit.bind fun _ => h.fail _ _

theorem ejectNotTaken (hw : W cmdRetract [])
    (hphase : ∀ message, Goes I R (setPhase .retracting message none)) (discId slot : Nat) :
    Goes I R (ejectNotTaken discId slot) := by
  refine (hphase _).bind fun _ => (h.mark _).bind fun _ => Goes.bind ?_ fun acked => ?_
  · refine h.exceptDeviceError ((h.retract hw _).bind fun _ => Goes.pure _) fun exc => ?_
    refine Goes.bind ?_ fun _ => Goes.pure _
    exact (h.mark _).bind fun _ => (hc.logEvent _ _ _ _).bind fun _ =>
      hc.commit.bind fun _ => h.fail _ _
  · cases acked with
    | none => exact Goes.pure _
    | some acked =>
      exact (h.mark _).bind fun _ => (h.parkBy _).bind fun _ => (hc.logEvent _ _ _ _).bind fun _ =>
        hc.commit.bind fun _ => h.fail _ _

end ReportRule

namespace JobRule

variable (h : JobRule W I R)
include h

theorem watch : Goes I R watch := by
  refine (h.mark _).bind fun _ => h.clock.bind fun now => ?_
  refine h.exceptDeviceError (Goes.loop ?_ h.hang) fun _ => h.mark _
  refine h.clock.bind fun now => Goes.ite ?_ (Goes.pure _)
  exact h.watched

variable (hc : StoreRule I R)
include hc

theorem runReset (hreset : Goes I R (reset .note)) : Goes I R runReset :=
  (h.setPhase _ _ _).bind fun _ => hreset.bind fun _ => (hc.logEvent _ _ _ _).bind fun _ =>
    hc.commit.bind fun _ => h.succeed _ _

theorem ejectPresented (hw : W cmdRetract []) (discId slot : Nat) (title : String) :
    Goes I R (ejectPresented discId slot title) := by
  refine (h.setPhase _ _ _).bind fun _ => (h.mark _).bind fun _ => ?_
  refine (h.waitState _ _ _).bind fun taken => Goes.ite ?_ ?_
  · exact h.ejectTaken hc (fun _ => h.setPhase _ _ _) _ _ _
  · exact h.ejectNotTaken hc hw (fun _ => h.setPhase _ _ _) _ _

theorem runEject (hw : W cmdRetract []) (discId : Nat) : Goes I R (runEject discId) := by
  refine (hc.getDisc discId).bind fun disc => ?_
  cases disc with
  | none => exact h.fail _ _
  | some disc =>
    refine (h.setPhase _ _ _).bind fun _ => (h.mark _).bind fun _ => ?_
    refine (h.moves _ _ _).bind fun _ => h.discInBay.bind fun inBay => Goes.ite ?_ ?_
    · exact h.ejectPresented hc hw _ _ _
    · exact h.ejectFoundNothing hc (fun _ => h.setPhase _ _ _) _ _

theorem runAdd (hw : W cmdAcceptDisc []) (slot : Nat) (discId : Option Nat) :
    Goes I R (runAdd slot discId) := by
  refine (h.setPhase _ _ _).bind fun _ => (h.mark _).bind fun _ => (h.moves _ _ _).bind fun _ => ?_
  refine (h.setPhase _ _ _).bind fun _ => (h.mark _).bind fun _ => ?_
  refine (h.waitState _ _ _).bind fun inserted => Goes.ite ?_ ?_
  · refine Goes.bind ?_ fun _ => ?_
    · refine (h.setPhase _ _ _).bind fun _ => (h.mark _).bind fun _ => ?_
      refine (h.ingest hw _).bind fun _ => (h.mark _).bind fun _ => ?_
      exact (h.setPhase _ _ _).bind fun _ => h.parkBy _
    · refine ((hc.writeRow _ _).bind fun id => h.catalogued.bind fun _ => Goes.pure id).bind
        fun id => h.watch.bind fun _ => ?_
      cases discId with
      | none => exact h.succeed _ _
      | some _ => exact (hc.getDisc _).bind fun disc => h.succeed _ _
  · exact (h.setPhase _ _ _).bind fun _ => (h.parkBy _).bind fun _ =>
      (hc.logEvent _ _ _ _).bind fun _ => hc.commit.bind fun _ => h.fail _ _

theorem flow (hreset : Goes I R (reset .note)) (hr : W cmdRetract []) (ha : W cmdAcceptDisc [])
    (flow : Flow) : Goes I R flow.run := by
  cases flow with
  | reset => exact h.runReset hc hreset
  | eject discId => exact h.runEject hc hr discId
  | add slot => exact h.runAdd hc ha slot none
  | return_ slot discId => exact h.runAdd hc ha slot (some discId)

end JobRule

end StakkaWeb
