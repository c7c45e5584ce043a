import StakkaWeb.Readings
import StakkaWeb.Puppet
import StakkaWeb.Laws.Kept

/-!
# What the trace holds

`wait_state` hands every word to the trace, and so does the watch after a load; `status` does not.
So the trace follows what is observed as long as `status` is answered with the word it holds last.
-/

set_option autoImplicit false

namespace StakkaWeb

open Lib Lib.Prog

variable {σ : Type}

/-- The job is traced, and the trace holds what was observed. -/
structure Tracked (w : World σ) : Prop where
  tracing : w.ds.tracing = true
  enabled : w.trace.enabled = true
  last : w.trace.last = (words w.obs).head?
  faithful : Faithful w

theorem Trace.words_status {t : Trace} (he : t.enabled = true) (st : Nat) :
    (t.status st).words = if t.last = some st then t.words else t.words ++ [st] := by
  unfold Trace.status
  by_cases hst : t.last = some st
  · rw [if_pos hst, if_neg fun h => h.2 hst]
  · rw [if_neg hst, if_pos ⟨he, hst⟩]
    simp [Trace.words, List.filterMap_append]

theorem Trace.words_mark (t : Trace) (label : String) : (t.mark label).words = t.words := by
  unfold Trace.mark
  split
  · simp [Trace.words, List.filterMap_append]
  · rfl

namespace Tracked

variable {w : World σ}

theorem congr {w' : World σ} (h : Tracked w) (hds : w'.ds.tracing = w.ds.tracing)
    (htrace : w'.trace = w.trace) (hobs : words w'.obs = words w.obs) : Tracked w' := by
  refine ⟨hds.trans h.tracing, htrace ▸ h.enabled, ?_, ?_⟩
  · rw [htrace, hobs]
    exact h.last
  · unfold Faithful
    rw [htrace, hobs]
    exact h.faithful

/-- A word that is observed and handed to the trace. -/
theorem traced (h : Tracked w) (st : Nat) :
    Tracked { w with obs := .word st :: w.obs, trace := w.trace.status st } := by
  have henabled : (w.trace.status st).enabled = true := by
    unfold Trace.status
    split <;> exact h.enabled
  have hlast : (w.trace.status st).last = some st := by
    unfold Trace.status
    split
    · rfl
    next hno => exact Decidable.not_not.mp fun hst => hno ⟨h.enabled, hst⟩
  refine ⟨h.tracing, henabled, hlast, ?_⟩
  show (w.trace.status st).words.reverse = collapse (st :: words w.obs)
  rw [Trace.words_status h.enabled, collapse, ← h.last]
  split
  · exact h.faithful
  · rw [List.reverse_append, h.faithful]
    rfl

/-- **A word that is only observed** leaves the trace faithful exactly when it repeats the last one. -/
theorem untraced_iff (h : Tracked w) (st : Nat) :
    Faithful { w with obs := .word st :: w.obs } ↔ w.trace.last = some st := by
  show w.trace.words.reverse = collapse (st :: words w.obs) ↔ _
  rw [collapse, ← h.last]
  constructor
  · intro hw
    by_contra hne
    rw [if_neg hne, show w.trace.words.reverse = _ from h.faithful] at hw
    exact List.cons_ne_self st _ hw.symm
  · intro hst
    rw [if_pos hst]
    exact h.faithful

theorem untraced (h : Tracked w) {st : Nat} (hst : w.trace.last = some st) :
    Tracked { w with obs := .word st :: w.obs } :=
  ⟨h.tracing, h.enabled, hst, (h.untraced_iff st).mpr hst⟩

theorem marked (h : Tracked w) (label : String) : Tracked { w with trace := w.trace.mark label } := by
  refine ⟨h.tracing, ?_, ?_, ?_⟩
  · unfold Trace.mark
    split <;> exact h.enabled
  · show (w.trace.mark label).last = _
    unfold Trace.mark
    split <;> exact h.last
  · show (w.trace.mark label).words.reverse = _
    rw [Trace.words_mark]
    exact h.faithful

end Tracked

variable [Outside σ]

/-! ## Code that does not ask -/

theorem tracked_calls : CallKept (σ := σ) (fun _ _ => True) Tracked where
  opens _ hw := hw.congr rfl rfl rfl
  closes _ hw := hw.congr rfl rfl rfl
  read _ _ hw := hw.congr rfl rfl rfl
  write _ _ _ _ _ _ hw := hw.congr rfl rfl rfl
  clock _ hw := hw.congr rfl rfl rfl
  sleep _ _ hw := hw.congr rfl rfl rfl
  shut _ hw := hw.congr rfl rfl rfl
  answered _ _ _ _ _ hw := hw.congr rfl rfl rfl

/-- **A wait hands every word to the trace.** -/
theorem tracked_polls : PollRule (σ := σ) (fun _ _ => True) Tracked (fun _ => Tracked) where
  toLinkRule := tracked_calls.link
  request := trivial
  matchState mask want reply := by
    cases reply with
    | none => exact Keeps.pure _
    | some p =>
      refine Keeps.ite ?_ (Keeps.pure _)
      -- between the two steps the word is observed and not yet on the trace
      refine Triple.bind (M := fun _ w => ∃ w₁, Tracked w₁ ∧ w = { w₁ with obs := .word p.status :: w₁.obs })
        (triple_observe fun w hw => ⟨w, hw, rfl⟩) fun _ => ?_
      refine Triple.bind (M := fun _ => Tracked) (Triple.modify ?_) fun _ => Triple.pure fun _ => id
      rintro _ ⟨w, hw, rfl⟩
      rw [if_pos hw.tracing]
      exact hw.traced p.status

omit [Outside σ] in
theorem tracked_report (progress : Progress) (message : String) :
    Keeps (Tracked (σ := σ)) (report progress message) := by
  cases progress with
  | none => exact Keeps.pure ()
  | note => exact Keeps.modify fun w hw => hw.congr rfl rfl rfl

theorem tracked_idleOr (msg : String) : Keeps (Tracked (σ := σ)) (idleOr msg) := tracked_polls.idleOr msg

theorem tracked_require (cmd : Nat) (args : List Nat) : Keeps (Tracked (σ := σ)) (require cmd args) :=
  tracked_polls.require trivial

omit [Outside σ] in
theorem tracked_job (f : Job → Job) : Keeps (Tracked (σ := σ)) (modifyJob f) :=
  Keeps.modify fun _ hw => hw.congr rfl rfl rfl

omit [Outside σ] in
theorem tracked_mark (label : String) : Keeps (Tracked (σ := σ)) (mark label) :=
  Keeps.modify fun _ hw => hw.marked label

omit [Outside σ] in
theorem tracked_conn : ConnFree (Tracked (σ := σ)) := fun _ _ hw => hw.congr rfl rfl rfl

theorem tracked_setPhase (phase : Phase) (message : String) (window_s : Option Nat) :
    Keeps (Tracked (σ := σ)) (setPhase phase message window_s) := by
  refine Keeps.bind ?_ fun deadline => (tracked_job _).bind fun _ => ?_
  · cases window_s with
    | none => exact Keeps.pure _
    | some window => exact tracked_calls.keepsClock.bind fun now => Keeps.pure _
  · exact keeps_ofOutside fun w hw => hw.congr rfl rfl rfl

/-! ## Code that asks -/

/-- A run of `m` keeps the trace if `status` is answered with the word it holds last. -/
def TrackedAt {α : Type} (a : Asks σ) (m : Py σ α) : Prop :=
  ∀ n w, Tracked w → (∀ w₁ ∈ a n w, repeatsHere n w₁ = true) → Tracked (m n w).2

namespace TrackedAt

variable {α β : Type} {a : Asks σ} {m : Py σ α}

theorem never (h : Keeps Tracked m) : TrackedAt .never m := fun n _ hw _ => h.run n hw

theorem andThen {b : α → Asks σ} {k : α → Py σ β} (hm : TrackedAt a m)
    (hk : ∀ x, TrackedAt (b x) (k x)) : TrackedAt (a.andThen m b) (m >>= k) := by
  intro n w hw hasks
  rw [bind_run]
  rcases hr : m n w with ⟨x | e | _, w'⟩
  · rw [Asks.andThen_ok hr, List.forall_mem_append] at hasks
    have hw' := hm n w hw hasks.1
    rw [hr] at hw'
    exact hk x n w' hw' hasks.2
  · rw [Asks.andThen_raise hr] at hasks
    simpa only [hr] using hm n w hw hasks
  · rw [Asks.andThen_hang hr] at hasks
    simpa only [hr] using hm n w hw hasks

theorem after {b : α → Asks σ} {k : α → Py σ β} (hm : Keeps Tracked m)
    (hk : ∀ x, TrackedAt (b x) (k x)) : TrackedAt (.after m b) (m >>= k) :=
  andThen (never hm) hk

/-- What follows does not ask. -/
theorem thenQuiet {k : α → Py σ β} (hm : TrackedAt a m) (hk : ∀ x, Keeps Tracked (k x)) :
    TrackedAt a (m >>= k) :=
  fun n w hw hasks => Keeps.then_bind (hm n w hw hasks) hk

theorem attempt {h : Exc → Py σ α} (hm : TrackedAt a m) (hh : ∀ e, Keeps Tracked (h e)) :
    TrackedAt a (Prog.attempt m h) :=
  fun n w hw hasks => Keeps.then_attempt (hm n w hw hasks) hh

end TrackedAt

theorem trackedAt_status : TrackedAt .here (status (σ := σ)) := by
  intro n w hw hasks
  have h := (tracked_require cmdRequestState []).run n hw
  have hrepeats := hasks w (List.mem_singleton_self w)
  unfold repeatsHere at hrepeats
  have hrun : status n w =
      (require cmdRequestState [] >>= fun p => observe (.word p.status) >>= fun _ => pure p.status) n w := rfl
  rw [hrun, bind_run] at hrepeats ⊢
  rcases hr : require cmdRequestState [] n w with ⟨p | e | _, w'⟩ <;> rw [hr] at h hrepeats
  · exact h.untraced (beq_iff_eq.mp hrepeats)
  · exact h
  · exact h

theorem trackedAt_discInBay : TrackedAt .here (discInBay (σ := σ)) :=
  trackedAt_status.thenQuiet fun _ => Keeps.pure _

theorem trackedAt_refuse : TrackedAt .here (refuseWithADiscOut (σ := σ)) :=
  trackedAt_discInBay.thenQuiet fun _ => Keeps.raiseIf _ _

theorem trackedAt_ensureHomed (progress : Progress) :
    TrackedAt (ensureHomedAsks progress) (ensureHomed (σ := σ) progress) := by
  refine trackedAt_status.andThen fun st => ?_
  split
  · exact TrackedAt.never (Keeps.pure _)
  · refine TrackedAt.after (tracked_idleOr _) fun _ => TrackedAt.after (tracked_report _ _) fun _ => ?_
    refine TrackedAt.after (tracked_require _ _) fun _ => TrackedAt.after (tracked_idleOr _) fun _ => ?_
    exact trackedAt_status.thenQuiet fun _ => Keeps.raiseIf _ _

theorem trackedAt_retract (progress : Progress) :
    TrackedAt (retractAsks progress) (retract (σ := σ) progress) := by
  refine TrackedAt.after (tracked_report _ _) fun _ => ?_
  refine TrackedAt.after (tracked_polls.waitState _ _ _) fun _ => ?_
  refine TrackedAt.after ?_ fun acked => TrackedAt.after (tracked_idleOr _) fun _ => ?_
  · refine Keeps.attempt ((tracked_require _ _).bind fun _ => Keeps.pure _) fun exc => ?_
    cases exc with
    | deviceError _ => exact Keeps.pure _
    | _ => exact Keeps.raise _
  · exact trackedAt_discInBay.thenQuiet fun _ => (Keeps.raiseIf _ _).bind fun _ => Keeps.pure _

theorem trackedAt_moveTo (slot : Nat) (eject : Bool) (progress : Progress) :
    TrackedAt (moveToAsks slot progress) (moveTo (σ := σ) slot eject progress) := by
  refine TrackedAt.after (Keeps.raiseIf _ _) fun _ => TrackedAt.after (tracked_idleOr _) fun _ => ?_
  refine trackedAt_refuse.andThen fun _ => TrackedAt.thenQuiet ?_ fun _ => ?_
  · unfold Prog.when
    simp only [decide_eq_true_eq]
    split
    · exact trackedAt_ensureHomed progress
    · exact TrackedAt.never (Keeps.pure _)
  · exact (tracked_require _ _).bind fun _ => tracked_idleOr _

theorem trackedAt_park (progress : Progress) :
    TrackedAt (parkAsks progress) (park (σ := σ) progress) := by
  refine TrackedAt.after (tracked_report _ _) fun _ => (trackedAt_moveTo _ _ _).attempt fun exc => ?_
  exact Keeps.ite (Keeps.pure _) (Keeps.raise _)

theorem trackedAt_reset (progress : Progress) :
    TrackedAt (resetAsks progress) (reset (σ := σ) progress) := by
  have hcommand : ∀ cmd args, Keeps (Tracked (σ := σ)) (command cmd args ackMs) := fun cmd args =>
    tracked_polls.command trivial ackMs
  refine TrackedAt.after (tracked_report _ _) fun _ => TrackedAt.after (hcommand _ _) fun _ => ?_
  refine TrackedAt.after (hcommand _ _) fun _ => TrackedAt.after (hcommand _ _) fun _ => ?_
  refine TrackedAt.after (tracked_idleOr _) fun _ => trackedAt_refuse.thenQuiet fun _ => ?_
  refine (hcommand _ _).bind fun _ => (tracked_report _ _).bind fun _ => ?_
  exact (tracked_require _ _).bind fun _ => tracked_idleOr _

/-! ## The flows -/

/-- **The watch hands what it reads to the trace itself.** -/
theorem tracked_watch : Keeps (Tracked (σ := σ)) watch := by
  have hread : Keeps (Tracked (σ := σ)) (do
      let st ← status
      modifyTrace (Trace.status st)
      pure (none : Option Unit)) := by
    have hstatus : Triple (Tracked (σ := σ)) status
        (fun st w => ∃ w₁, Tracked w₁ ∧ w = { w₁ with obs := .word st :: w₁.obs }) (fun _ => Tracked) := by
      refine Triple.bind (tracked_require cmdRequestState []) fun p => ?_
      refine Triple.bind (M := fun _ w => ∃ w₁, Tracked w₁ ∧ w = { w₁ with obs := .word p.status :: w₁.obs })
        (triple_observe fun w hw => ⟨w, hw, rfl⟩) fun _ => ?_
      exact Triple.pure fun _ => id
    refine Triple.bind hstatus fun st => Triple.bind (M := fun _ => Tracked) (Triple.modify ?_) fun _ => ?_
    · rintro _ ⟨w, hw, rfl⟩
      exact hw.traced st
    · exact Triple.pure fun _ => id
  refine (tracked_mark _).bind fun _ => tracked_calls.keepsClock.bind fun now => ?_
  refine Keeps.attempt (Keeps.loop ?_) fun exc => Keeps.ite (tracked_mark _) (Keeps.raise _)
  exact tracked_calls.keepsClock.bind fun now => Keeps.ite hread (Keeps.pure _)

theorem trackedAt_ejectFoundNothing (discId slot : Nat) :
    TrackedAt ejectFoundNothingAsks (ejectFoundNothing (σ := σ) discId slot) := by
  refine TrackedAt.after (tracked_setPhase _ _ _) fun _ => TrackedAt.after (tracked_mark _) fun _ => ?_
  refine (trackedAt_park _).thenQuiet fun _ => (tracked_conn.logEvent _ _ _ _).bind fun _ => ?_
  exact tracked_conn.commit.bind fun _ => tracked_job _

theorem trackedAt_ejectNotTaken (discId slot : Nat) :
    TrackedAt (ejectNotTakenAsks discId slot) (ejectNotTaken (σ := σ) discId slot) := by
  have hfail : ∀ error result, Keeps (Tracked (σ := σ)) (fail error result) := fun _ _ => tracked_job _
  refine TrackedAt.after (tracked_setPhase _ _ _) fun _ => TrackedAt.after (tracked_mark _) fun _ => ?_
  refine TrackedAt.andThen (TrackedAt.attempt ?_ fun exc => Keeps.ite ?_ (Keeps.raise _)) fun acked => ?_
  · exact (trackedAt_retract .note).thenQuiet fun _ => Keeps.pure _
  · refine Keeps.bind ?_ fun _ => Keeps.pure _
    refine (tracked_mark _).bind fun _ => (tracked_conn.logEvent _ _ _ _).bind fun _ => ?_
    exact tracked_conn.commit.bind fun _ => hfail _ _
  · cases acked with
    | none => exact TrackedAt.never (Keeps.pure _)
    | some acked =>
      refine TrackedAt.after (tracked_mark _) fun _ => (trackedAt_park _).thenQuiet fun _ => ?_
      exact (tracked_conn.logEvent _ _ _ _).bind fun _ => tracked_conn.commit.bind fun _ => hfail _ _

theorem trackedAt_ejectTaken (discId slot : Nat) (title : String) :
    TrackedAt ejectTakenAsks (ejectTaken (σ := σ) discId slot title) := by
  refine TrackedAt.after (tracked_setPhase _ _ _) fun _ => TrackedAt.after (tracked_mark _) fun _ => ?_
  refine (trackedAt_park _).thenQuiet fun _ => (tracked_conn.markOut _ _ _).bind fun _ => ?_
  exact tracked_job _

theorem trackedAt_ejectPresented (discId slot : Nat) (title : String) :
    TrackedAt (ejectPresentedAsks discId slot) (ejectPresented (σ := σ) discId slot title) := by
  refine TrackedAt.after (tracked_setPhase _ _ _) fun _ => TrackedAt.after (tracked_mark _) fun _ => ?_
  refine TrackedAt.after (tracked_polls.waitState _ _ _) fun taken => ?_
  cases taken with
  | true => exact trackedAt_ejectTaken discId slot title
  | false => exact trackedAt_ejectNotTaken discId slot

theorem trackedAt_runEject (discId : Nat) :
    TrackedAt (runEjectAsks discId) (runEject (σ := σ) discId) := by
  refine TrackedAt.after (tracked_conn.execute _) fun disc => ?_
  cases disc with
  | none => exact TrackedAt.never (tracked_job _)
  | some disc =>
    refine TrackedAt.after (tracked_setPhase _ _ _) fun _ => TrackedAt.after (tracked_mark _) fun _ => ?_
    refine (trackedAt_moveTo _ _ _).andThen fun _ => trackedAt_discInBay.andThen fun inBay => ?_
    cases inBay with
    | false => exact trackedAt_ejectFoundNothing discId disc.slot
    | true => exact trackedAt_ejectPresented discId disc.slot disc.title

theorem trackedAt_addIngest : TrackedAt addIngestAsks (addIngest (σ := σ)) := by
  have hingest : Keeps (Tracked (σ := σ)) (ingest .note) := by
    refine (tracked_report _ _).bind fun _ => (tracked_idleOr _).bind fun _ => ?_
    exact (tracked_report _ _).bind fun _ => (tracked_require _ _).bind fun _ => tracked_idleOr _
  refine TrackedAt.after (tracked_setPhase _ _ _) fun _ => TrackedAt.after (tracked_mark _) fun _ => ?_
  refine TrackedAt.after hingest fun _ => TrackedAt.after (tracked_mark _) fun _ => ?_
  exact TrackedAt.after (tracked_setPhase _ _ _) fun _ => trackedAt_park _

theorem tracked_addFinish (slot : Nat) (discId : Option Nat) :
    Keeps (Tracked (σ := σ)) (addFinish slot discId) := by
  have hcatalogue : Keeps (Tracked (σ := σ)) (catalogue slot discId) := by
    refine (tracked_conn.writeRow _ _).bind fun id => Keeps.bind (Keeps.modify fun w hw => ?_) fun _ => ?_
    · exact hw.congr rfl rfl rfl
    · exact Keeps.pure _
  refine hcatalogue.bind fun id => tracked_watch.bind fun _ => ?_
  cases discId with
  | none => exact tracked_job _
  | some _ => exact (tracked_conn.execute _).bind fun disc => tracked_job _

theorem trackedAt_addTimedOut (slot : Nat) (discId : Option Nat) :
    TrackedAt addTimedOutAsks (addTimedOut (σ := σ) slot discId) := by
  refine TrackedAt.after (tracked_setPhase _ _ _) fun _ => (trackedAt_park _).thenQuiet fun _ => ?_
  exact (tracked_conn.logEvent _ _ _ _).bind fun _ => tracked_conn.commit.bind fun _ => tracked_job _

theorem trackedAt_runAdd (slot : Nat) (discId : Option Nat) :
    TrackedAt (runAddAsks slot) (runAdd (σ := σ) slot discId) := by
  refine TrackedAt.after (tracked_setPhase _ _ _) fun _ => TrackedAt.after (tracked_mark _) fun _ => ?_
  refine (trackedAt_moveTo _ _ _).andThen fun _ => TrackedAt.after (tracked_setPhase _ _ _) fun _ => ?_
  refine TrackedAt.after (tracked_mark _) fun _ => ?_
  refine TrackedAt.after (tracked_polls.waitState _ _ _) fun inserted => ?_
  cases inserted with
  | true => exact trackedAt_addIngest.thenQuiet fun _ => tracked_addFinish slot discId
  | false => exact trackedAt_addTimedOut slot discId

theorem trackedAt_flow (flow : Flow) : TrackedAt (σ := σ) flow.asks flow.run := by
  cases flow with
  | reset =>
    refine TrackedAt.after (tracked_setPhase _ _ _) fun _ => (trackedAt_reset _).thenQuiet fun _ => ?_
    exact (tracked_conn.logEvent _ _ _ _).bind fun _ => tracked_conn.commit.bind fun _ => tracked_job _
  | eject discId => exact trackedAt_runEject discId
  | add slot => exact trackedAt_runAdd slot none
  | return_ slot discId => exact trackedAt_runAdd slot (some discId)

/-! ## The job -/

omit [Outside σ] in
/-- Nothing more is observed, and no status line is written. -/
theorem faithful_of {w w' : World σ} (h : Faithful w) (htrace : w'.trace.words = w.trace.words)
    (hobs : words w'.obs = words w.obs) : Faithful w' := by
  unfold Faithful
  rw [htrace, hobs]
  exact h

/-- Nothing has been observed, and the trace is new. -/
structure Untold (w : World σ) : Prop where
  obs : words w.obs = []
  trace : w.trace = ⟨true, none, []⟩

theorem untold_openUnit : Keeps (Untold (σ := σ)) openUnit := by
  have hcalls : CallKept (σ := σ) (fun _ _ => True) Untold :=
    { opens := fun _ hw => ⟨hw.obs, hw.trace⟩
      closes := fun _ hw => ⟨hw.obs, hw.trace⟩
      read := fun _ _ hw => ⟨hw.obs, hw.trace⟩
      write := fun _ _ _ _ _ _ hw => ⟨hw.obs, hw.trace⟩
      clock := fun _ hw => ⟨hw.obs, hw.trace⟩
      sleep := fun _ _ hw => ⟨hw.obs, hw.trace⟩
      shut := fun _ hw => ⟨hw.obs, hw.trace⟩
      answered := fun _ _ _ _ _ hw => ⟨hw.obs, hw.trace⟩ }
  exact hcalls.openUnit (fun _ _ => trivial) fun _ _ hw => ⟨hw.obs, hw.trace⟩

/-- The flow with the unit and the database open, from where the trace is attached. -/
theorem trackedAt_attached (flow : Flow) :
    TrackedAt (σ := σ) (.after connect fun _ => flow.asks) (connect >>= fun _ => flow.run) := by
  refine TrackedAt.after ?_ fun _ => trackedAt_flow flow
  refine (tracked_conn.execute _).bind fun _ => (tracked_conn.execute _).bind fun _ => ?_
  exact Keeps.modify fun w hw => hw.congr rfl rfl rfl

theorem ownedBody_faithful (flow : Flow) (n : Nat) (w : World σ) (hw : Untold w)
    (h : ∀ w₁ ∈ (Asks.after openUnit fun _ => .after (modifyDs fun ds => { ds with tracing := true })
      fun _ => .after connect fun _ => flow.asks) n w, repeatsHere n w₁ = true) :
    Faithful (ownedBody flow.run n w).2 := by
  have hfaithful : ∀ w : World σ, Untold w → Faithful w := fun w hw => by
    unfold Faithful
    rw [hw.trace, hw.obs]
    rfl
  have hopen := untold_openUnit.run n hw
  unfold ownedBody
  rw [bind_run]
  rcases hr : openUnit n w with ⟨⟨⟩ | e | _, w'⟩ <;> rw [hr] at hopen
  · unfold Asks.after at h
    rw [Asks.andThen_ok hr] at h
    have hstart : Tracked { w' with ds := { w'.ds with tracing := true } } := by
      refine ⟨rfl, ?_, ?_, hfaithful _ ⟨hopen.obs, hopen.trace⟩⟩
      · exact congrArg Trace.enabled hopen.trace
      · exact (congrArg Trace.last hopen.trace).trans (congrArg List.head? hopen.obs).symm
    exact (trackedAt_attached flow n _ hstart h).faithful
  · exact hfaithful w' hopen
  · exact hfaithful w' hopen

omit [Outside σ] in
/-- What follows the flow observes nothing and writes no status line. -/
theorem faithful_reportFailure (exc : Exc) : Keeps (Faithful (σ := σ)) (reportFailure exc) := by
  have hconn : ConnFree (Faithful (σ := σ)) := fun _ _ hw => hw
  have hjob : ∀ error result, Keeps (Faithful (σ := σ)) (fail error result) := fun _ _ =>
    Keeps.modify fun _ hw => hw
  refine (hconn.logFailure exc).bind fun _ => ?_
  cases exc <;> exact hjob _ _

omit [Outside σ] in
theorem faithful_ownedFinally : Keeps (Faithful (σ := σ)) ownedFinally := by
  refine Keeps.bind (Keeps.modify fun w hw => hw) fun _ => Keeps.bind (Keeps.modify fun w hw => ?_) fun _ => ?_
  · exact faithful_of hw (Trace.words_mark w.trace _) rfl
  · refine Keeps.bind (Keeps.modify fun w hw => hw) fun _ => (Keeps.gets _).bind fun done => ?_
    exact Keeps.when (Keeps.modify fun w hw => hw)

/-- **The trace holds every status the job was decided on**, repeats collapsed, in every run in
which each `status` outside the watch is answered with the word that the trace holds last. -/
theorem trace_holds_every_status (flow : Flow) (n : Nat) (w : World σ) (j : Job)
    (h : ∀ w₁ ∈ ownedAsks true flow n (w.start j), repeatsHere n w₁ = true) :
    Faithful (runOwned true flow.run n (w.start j)).2 := by
  have hbody := ownedBody_faithful flow n { w.start j with
    trace := ⟨true, none, []⟩
    conn := { w.conn with isOpen := false, view := w.conn.committed, executed := 0 } } ⟨rfl, rfl⟩ h
  exact Keeps.then_ensure (Keeps.then_attempt hbody faithful_reportFailure) faithful_ownedFinally

/-- A homed, idle unit that answers every command with its status, in which bit 8 is set in its
`k`-th packet alone. -/
def flickering (k : Nat) : World Puppet :=
  World.boot (.reading (fun i => .ok
    [0x01, 0, if i % 2 = 0 then 1 else 0, if i = 0 then cmdGetSerial else cmdRequestState,
      0, if i = k then 1 else 0, 1, 0]) 0) []

/-- The job that resets it. -/
def resetJob : Job := Job.new "Reset the unit" none none

theorem trace_holds_steady_status :
    Faithful (runOwned true (Flow.run .reset) 5 ((flickering 0).start resetJob)).2 :=
  trace_holds_every_status .reset 5 (flickering 0) resetJob (by decide +kernel)

/-- The word that the bay check of a reset is decided on is not on the trace, and the reset
succeeds. -/
theorem bay_reading_not_traced :
    let w := (runOwned true (Flow.run .reset) 5 ((flickering 14).start resetJob)).2
    w.job.phase = .done ∧ words w.obs = [0x0001, 0x0101, 0x0001] ∧ w.trace.words = [0x0001] ∧
      ¬ Faithful w := by
  decide +kernel

end StakkaWeb
