import Mathlib.Data.List.Destutter
import StakkaWeb.Laws.Settles

/-!
# The phases of a job

A job's `history` has an entry for the state it starts in and one for every `set_phase`,
`succeed` and `fail`. Here every flow is followed through all its `return`s and raises: a run of
`_run_owned` leaves a job that took one of the runner's courses and then ended once
(`runOwned_course`), over every outside world and every failing database statement.
-/

set_option autoImplicit false

namespace StakkaWeb

open Lib Lib.Prog

/-! ## Courses -/

/-- The runner of a flow: `run_add` serves an add and a return. -/
inductive Runner where
  | reset
  | eject
  | add

def Flow.runner : Flow → Runner
  | .reset => .reset
  | .eject _ => .eject
  | .add _ | .return_ _ _ => .add

/-- The courses of a runner's job before its end. -/
def Runner.courses : Runner → List (List Phase)
  | .reset => [[.moving]]
  | .eject =>
    [[.moving, .parking], [.moving, .presented, .parking], [.moving, .presented, .retracting]]
  | .add =>
    [[.moving, .awaitingInsert, .parking], [.moving, .awaitingInsert, .ingesting, .parking]]

/-- The course after which the job may be done. -/
def Runner.doneCourse : Runner → List Phase
  | .reset => [.moving]
  | .eject => [.moving, .presented, .parking]
  | .add => [.moving, .awaitingInsert, .ingesting, .parking]

/-- The phases of a history, consecutive repeats collapsed. -/
def course (history : List (Phase × JobResult)) : List Phase :=
  (history.map Prod.fst).destutter (· ≠ ·)

/-- No phase of the history is an end, and they follow one of the runner's courses. -/
structure OnCourse (runner : Runner) (history : List (Phase × JobResult)) : Prop where
  running : ∀ x ∈ history, x.1.terminal = false
  prefix_ : ∃ c ∈ runner.courses, course history <+: c

/-- The job has not ended. -/
def Underway (runner : Runner) (j : Job) : Prop := OnCourse runner j.history ∧ j.done = false

/-- The job followed a course, then entered `done` or `failed` once, and is still as it was then;
it entered `done` only after the runner's own course. -/
def Ended (runner : Runner) (j : Job) : Prop :=
  ∃ before, j.history = before ++ [(j.phase, j.result)] ∧ OnCourse runner before ∧
    j.phase.terminal = true ∧ (j.phase = .done → course before = runner.doneCourse)

/-! ## Where a run stands -/

/-- The job went through exactly the phases `ps` so far and stands in the last. -/
structure Took (ps : List Phase) (j : Job) : Prop where
  phases : j.history.map Prod.fst = ps
  last : j.history.getLast? = some (j.phase, j.result)

section Took

variable {ps : List Phase} {j : Job}

theorem Took.setPhase (h : Took ps j) (p : Phase) (message : String) (deadline : Option Nat) :
    Took (ps ++ [p]) (j.setPhase p message deadline) where
  phases := by simp only [Job.setPhase, List.map_append, h.phases, List.map_cons, List.map_nil]
  last := List.getLast?_concat

theorem Took.succeed (h : Took ps j) (message : String) (result : JobResult) :
    Took (ps ++ [.done]) (j.succeed message result) where
  phases := by simp only [Job.succeed, List.map_append, h.phases, List.map_cons, List.map_nil]
  last := List.getLast?_concat

theorem Took.fail (h : Took ps j) (error : String) (result : JobResult) :
    Took (ps ++ [.failed]) (j.fail error result) where
  phases := by simp only [Job.fail, List.map_append, h.phases, List.map_cons, List.map_nil]
  last := List.getLast?_concat

theorem Took.note (h : Took ps j) (message : String) : Took ps (j.note message) :=
  ⟨h.phases, h.last⟩

theorem Took.phase_eq {p : Phase} (h : Took (ps ++ [p]) j) : j.phase = p := by
  have := congrArg List.getLast? h.phases
  rw [List.getLast?_map, h.last, List.getLast?_concat] at this
  exact Option.some.inj this

end Took

variable {σ : Type} {runner : Runner} {ps : List Phase}

/-- `Took`, of the job in the world. -/
abbrev Went (ps : List Phase) (w : World σ) : Prop := Took ps w.job

theorem connFree_went : ConnFree (Went (σ := σ) ps) := fun _ _ h => h

variable [Outside σ]

/-- The protocol does not move a job on. -/
theorem kept_went : Kept (σ := σ) (fun _ _ => True) (Went ps) where
  opens _ h := h
  closes _ h := h
  read _ _ h := h
  write _ _ _ _ _ _ h := h
  clock _ h := h
  sleep _ _ h := h
  shut _ h := h
  note message _ h := h.note message
  trace _ _ h := h
  answered _ _ _ _ _ h := h
  word _ _ h := h

/-! ## One flow -/

/-- Where a run can stop short: the phases its job went through by then. -/
def Runner.stops : Runner → List (List Phase)
  | .reset => [[.moving], [.moving, .moving]]
  | .eject =>
    [[.moving], [.moving, .moving], [.moving, .moving, .parking], [.moving, .moving, .presented],
      [.moving, .moving, .presented, .parking], [.moving, .moving, .presented, .retracting]]
  | .add =>
    [[.moving], [.moving, .moving], [.moving, .moving, .awaitingInsert],
      [.moving, .moving, .awaitingInsert, .parking],
      [.moving, .moving, .awaitingInsert, .ingesting],
      [.moving, .moving, .awaitingInsert, .ingesting, .parking]]

/-- Every place to stop is on one of the courses. -/
theorem Runner.stops_onCourse {runner : Runner} {ps : List Phase} (h : ps ∈ runner.stops) :
    (∀ p ∈ ps, p.terminal = false) ∧ ∃ c ∈ runner.courses, ps.destutter (· ≠ ·) <+: c := by
  cases runner <;> revert ps <;> decide

/-- The job stands at one of the runner's stops. -/
def Stopped (runner : Runner) (w : World σ) : Prop := ∃ ps ∈ runner.stops, Went ps w

/-- The job has ended, after one of the runner's stops. -/
def Closed (runner : Runner) (w : World σ) : Prop :=
  ∃ ps ∈ runner.stops, ∃ e, (e = .failed ∨ e = .done ∧ ps.destutter (· ≠ ·) = runner.doneCourse) ∧
    Went (ps ++ [e]) w

omit [Outside σ] in
theorem closed_of_fail (h : ps ∈ runner.stops) {w : World σ} (hw : Went ps w) (error : String)
    (result : JobResult) : Closed runner { w with job := w.job.fail error result } :=
  ⟨ps, h, .failed, .inl rfl, hw.fail error result⟩

omit [Outside σ] in
/-- Code that leaves the job alone may stop where it stands. -/
theorem goesOn {α : Type} {m : Py σ α} (h : ps ∈ runner.stops) (hm : Keeps (Went ps) m) :
    Triple (Went ps) m (fun _ => Went ps) (fun _ => Stopped runner) :=
  hm.conseq (fun _ => id) (fun _ _ => id) fun _ _ hw => ⟨ps, h, hw⟩

theorem setPhase_went (p : Phase) (message : String) (window_s : Option Nat) :
    Triple (Went ps) (setPhase (σ := σ) p message window_s) (fun _ => Went (ps ++ [p]))
      (fun _ => Stopped runner) := by
  refine Triple.bind (M := fun _ => Went ps) ?_ fun deadline => ?_
  · cases window_s with
    | none => exact Triple.pure fun _ => id
    | some window =>
      exact (triple_clock fun w h => kept_went.clock w h).bind fun _ => Triple.pure fun _ => id
  · refine Triple.bind (M := fun _ => Went (ps ++ [p]))
      (triple_modifyJob fun w h => h.setPhase p message deadline) fun _ => ?_
    exact triple_cue fun w h => h

omit [Outside σ] in
theorem fail_closed (h : ps ∈ runner.stops) (error : String) (result : JobResult) :
    Triple (Went ps) (fail (σ := σ) error result) (fun _ => Closed runner)
      (fun _ => Stopped runner) :=
  triple_modifyJob fun _ hw => closed_of_fail h hw error result

omit [Outside σ] in
theorem succeed_closed (h : ps ∈ runner.stops) (hd : ps.destutter (· ≠ ·) = runner.doneCourse)
    (message : String) (result : JobResult) :
    Triple (Went ps) (succeed (σ := σ) message result) (fun _ => Closed runner)
      (fun _ => Stopped runner) :=
  triple_modifyJob fun _ hw => ⟨ps, h, .done, .inr ⟨rfl, hd⟩, hw.succeed message result⟩

omit [Outside σ] in
theorem went_mark (label : String) : Keeps (Went (σ := σ) ps) (mark label) :=
  Keeps.modify fun _ h => h

omit [Outside σ] in
theorem went_observe (o : Obs) : Keeps (Went (σ := σ) ps) (observe o) :=
  Keeps.modify fun _ h => h

theorem went_park (progress : Progress) : Keeps (Went (σ := σ) ps) (park progress) :=
  kept_went.park trivial trivial progress

/-- A run from the job's start ends it, or stops short. -/
def RunsCourse (runner : Runner) (m : Py σ Unit) : Prop :=
  Triple (Went [.moving]) m (fun _ => Closed runner) (fun _ => Stopped runner)

theorem runReset_course : RunsCourse .reset (runReset (σ := σ)) := by
  have hs : [.moving, .moving] ∈ Runner.reset.stops := by decide
  refine (setPhase_went _ _ _).bind fun _ => ?_
  refine (goesOn hs (kept_went.reset (fun _ _ _ => trivial) trivial _)).bind fun _ => ?_
  refine (goesOn hs (connFree_went.logEvent _ _ _ _)).bind fun _ => ?_
  refine (goesOn hs connFree_went.commit).bind fun _ => ?_
  exact succeed_closed hs (by decide) _ _

section Eject

variable (discId slot : Nat)

theorem ejectFoundNothing_course :
    Triple (Went [.moving, .moving]) (ejectFoundNothing (σ := σ) discId slot)
      (fun _ => Closed .eject) (fun _ => Stopped .eject) := by
  have hs : [.moving, .moving, .parking] ∈ Runner.eject.stops := by decide
  refine (setPhase_went _ _ _).bind fun _ => (goesOn hs (went_mark _)).bind fun _ => ?_
  refine (goesOn hs (went_park _)).bind fun _ => ?_
  refine (goesOn hs (connFree_went.logEvent _ _ _ _)).bind fun _ => ?_
  exact (goesOn hs connFree_went.commit).bind fun _ => fail_closed hs _ _

theorem ejectTaken_course (title : String) :
    Triple (Went [.moving, .moving, .presented]) (ejectTaken (σ := σ) discId slot title)
      (fun _ => Closed .eject) (fun _ => Stopped .eject) := by
  have hs : [.moving, .moving, .presented, .parking] ∈ Runner.eject.stops := by decide
  refine (setPhase_went _ _ _).bind fun _ => (goesOn hs (went_mark _)).bind fun _ => ?_
  refine (goesOn hs (went_park _)).bind fun _ => ?_
  refine (goesOn hs (connFree_went.markOut _ _ _)).bind fun _ => ?_
  exact succeed_closed hs (by decide) _ _

/-- `retract` may raise: the handler ends the job, and the flow goes on to nothing. -/
theorem ejectNotTaken_course :
    Triple (Went [.moving, .moving, .presented]) (ejectNotTaken (σ := σ) discId slot)
      (fun _ => Closed .eject) (fun _ => Stopped .eject) := by
  have hs : [.moving, .moving, .presented, .retracting] ∈ Runner.eject.stops := by decide
  refine (setPhase_went _ _ _).bind fun _ => (goesOn hs (went_mark _)).bind fun _ => ?_
  refine Triple.bind (M := fun acked w => if acked.isSome then
    Went [.moving, .moving, .presented, .retracting] w else Closed .eject w) ?_ fun acked => ?_
  · refine Triple.attempt (E := fun _ => Went [.moving, .moving, .presented, .retracting])
      (Triple.bind (kept_went.retract trivial trivial _) fun acked => Triple.pure fun _ => id)
      (fun exc => ?_) fun w hw => ⟨_, hs, hw⟩
    refine Triple.ite (fun _ => ?_) fun _ => Triple.raise fun w hw => ⟨_, hs, hw⟩
    refine Triple.bind ?_ fun _ => Triple.pure fun _ => id
    refine (goesOn hs (went_mark _)).bind fun _ => ?_
    refine (goesOn hs (connFree_went.logEvent _ _ _ _)).bind fun _ => ?_
    exact (goesOn hs connFree_went.commit).bind fun _ => fail_closed hs _ _
  · cases acked with
    | none => exact Triple.pure fun _ => id
    | some acked =>
      refine (goesOn hs (went_mark _)).bind fun _ => (goesOn hs (went_park _)).bind fun _ => ?_
      refine (goesOn hs (connFree_went.logEvent _ _ _ _)).bind fun _ => ?_
      exact (goesOn hs connFree_went.commit).bind fun _ => fail_closed hs _ _

theorem runEject_course : RunsCourse .eject (runEject (σ := σ) discId) := by
  have h₀ : [.moving] ∈ Runner.eject.stops := by decide
  have h₁ : [.moving, .moving] ∈ Runner.eject.stops := by decide
  have h₂ : [.moving, .moving, .presented] ∈ Runner.eject.stops := by decide
  refine (goesOn h₀ (connFree_went.execute _)).bind fun disc => ?_
  cases disc with
  | none => exact fail_closed h₀ _ _
  | some disc =>
    refine (setPhase_went _ _ _).bind fun _ => (goesOn h₁ (went_mark _)).bind fun _ => ?_
    refine (goesOn h₁ (kept_went.moveTo trivial trivial trivial _)).bind fun _ => ?_
    refine (goesOn h₁ (kept_went.discInBay trivial)).bind fun inBay => Triple.ite (fun _ => ?_)
      fun _ => ejectFoundNothing_course discId _
    refine (setPhase_went _ _ _).bind fun _ => (goesOn h₂ (went_mark _)).bind fun _ => ?_
    refine (goesOn h₂ (kept_went.waitState trivial _ _ _)).bind fun taken => ?_
    exact Triple.ite (fun _ => ejectTaken_course discId _ _) fun _ => ejectNotTaken_course discId _

end Eject

section Add

variable (slot : Nat) (discId : Option Nat)

theorem addTimedOut_course :
    Triple (Went [.moving, .moving, .awaitingInsert]) (addTimedOut (σ := σ) slot discId)
      (fun _ => Closed .add) (fun _ => Stopped .add) := by
  have hs : [.moving, .moving, .awaitingInsert, .parking] ∈ Runner.add.stops := by decide
  refine (setPhase_went _ _ _).bind fun _ => (goesOn hs (went_park _)).bind fun _ => ?_
  refine (goesOn hs (connFree_went.logEvent _ _ _ _)).bind fun _ => ?_
  exact (goesOn hs connFree_went.commit).bind fun _ => fail_closed hs _ _

omit [Outside σ] in
theorem went_catalogue : Keeps (Went (σ := σ) ps) (catalogue slot discId) := by
  exact (connFree_went.writeRow slot discId).bind fun _ => (went_observe _).bind fun _ =>
    Keeps.pure _

theorem went_watch : Keeps (Went (σ := σ) ps) watch := by
  refine (went_mark _).bind fun _ => kept_went.keepsClock.bind fun _ => Keeps.attempt
    (Keeps.loop ?_) fun exc => Keeps.ite (went_mark _) (Keeps.raise _)
  refine kept_went.keepsClock.bind fun _ => Keeps.ite ?_ (Keeps.pure _)
  refine (kept_went.status trivial).bind fun st => ?_
  exact Keeps.bind (Keeps.modify fun w => kept_went.trace _ w) fun _ => Keeps.pure _

theorem addFinish_course :
    Triple (Went [.moving, .moving, .awaitingInsert, .ingesting, .parking])
      (addFinish (σ := σ) slot discId)
      (fun _ => Closed .add) (fun _ => Stopped .add) := by
  have hs : [.moving, .moving, .awaitingInsert, .ingesting, .parking] ∈ Runner.add.stops := by
    decide
  refine (goesOn hs (went_catalogue slot discId)).bind fun id => ?_
  refine (goesOn hs went_watch).bind fun _ => ?_
  cases discId with
  | none => exact succeed_closed hs (by decide) _ _
  | some _ =>
    exact (goesOn hs (connFree_went.execute _)).bind fun _ => succeed_closed hs (by decide) _ _

theorem runAdd_course : RunsCourse .add (runAdd (σ := σ) slot discId) := by
  have h₁ : [.moving, .moving] ∈ Runner.add.stops := by decide
  have h₂ : [.moving, .moving, .awaitingInsert] ∈ Runner.add.stops := by decide
  have h₃ : [.moving, .moving, .awaitingInsert, .ingesting] ∈ Runner.add.stops := by decide
  have h₄ : [.moving, .moving, .awaitingInsert, .ingesting, .parking] ∈ Runner.add.stops := by
    decide
  refine (setPhase_went _ _ _).bind fun _ => (goesOn h₁ (went_mark _)).bind fun _ => ?_
  refine (goesOn h₁ (kept_went.moveTo trivial trivial trivial _)).bind fun _ => ?_
  refine (setPhase_went _ _ _).bind fun _ => (goesOn h₂ (went_mark _)).bind fun _ => ?_
  refine (goesOn h₂ (kept_went.waitState trivial _ _ _)).bind fun inserted => ?_
  refine Triple.ite (fun _ => Triple.bind ?_ fun _ => addFinish_course slot discId) fun _ =>
    addTimedOut_course slot discId
  refine (setPhase_went _ _ _).bind fun _ => (goesOn h₃ (went_mark _)).bind fun _ => ?_
  refine (goesOn h₃ (kept_went.ingest trivial trivial _)).bind fun _ => ?_
  refine (goesOn h₃ (went_mark _)).bind fun _ => ?_
  exact (setPhase_went _ _ _).bind fun _ => goesOn h₄ (went_park _)

end Add

/-- **Every flow runs its course.** -/
theorem flow_course (flow : Flow) : RunsCourse flow.runner (flow.run (σ := σ)) := by
  cases flow with
  | reset => exact runReset_course
  | eject discId => exact runEject_course discId
  | add slot => exact runAdd_course slot none
  | return_ slot discId => exact runAdd_course slot (some discId)

/-! ## The job around it -/

section Owned

variable {runner : Runner}

omit [Outside σ] in
theorem done_of_closed {w : World σ} (h : Closed runner w) : w.job.done = true := by
  obtain ⟨ps, _, e, rfl | ⟨rfl, _⟩, hw⟩ := h
  all_goals
    unfold Job.done
    rw [hw.phase_eq]
    rfl

omit [Outside σ] in
/-- `_log_failure` swallows what the database raises. -/
theorem logFailure_went (exc : Exc) :
    Triple (Went ps) (logFailure (σ := σ) exc) (fun _ => Went ps) (fun _ _ => False) := by
  have hc : ConnFree (Went (σ := σ) ps) := connFree_went
  refine Triple.bind (M := fun _ => Went ps) (Triple.gets fun _ => id) fun w => ?_
  refine Triple.when (fun _ => ?_) fun _ hw _ => hw
  refine Triple.attempt (E := fun e w => Went ps w ∧ ∃ exc, e = some exc ∧
    exc.isSqliteError = true) ?_ (fun e => ?_) fun _ hw => by obtain ⟨_, _, h, _⟩ := hw; cases h
  · refine hc.rollback_raises.bind fun _ => Triple.bind (M := fun _ => Went ps) ?_ fun _ =>
      hc.commit_raises
    refine Triple.bind (M := fun _ => Went ps) (Triple.gets fun _ => id) fun _ => ?_
    exact hc.execute_raises fun _ _ he => Catalog.insertEvent_error he
  · refine Triple.ite (fun _ => Triple.pure fun _ hw => hw.1) fun hn => Triple.raise fun _ hw => ?_
    obtain ⟨_, exc, h, he⟩ := hw
    cases h
    exact hn he

omit [Outside σ] in
theorem reportFailure_closed (exc : Exc) :
    Triple (Stopped runner) (reportFailure (σ := σ) exc) (fun _ => Closed runner)
      (fun _ _ => False) := by
  refine Triple.pre (A := fun w => ∃ ps, ps ∈ runner.stops ∧ Went ps w) ?_ fun _ h => h
  refine Triple.of_exists fun ps => Triple.of_fact fun hs => ?_
  refine (logFailure_went exc).bind fun _ => ?_
  have hfail : ∀ text, Triple (Went ps) (fail (σ := σ) text {}) (fun _ => Closed runner)
      (fun _ _ => False) := fun text => triple_modifyJob fun w hw => closed_of_fail hs hw text {}
  cases exc <;> exact hfail _

omit [Outside σ] in
theorem ownedFinally_closed :
    Triple (Closed runner) (ownedFinally (σ := σ)) (fun _ => Closed runner)
      (fun _ _ => False) := by
  refine Triple.bind (M := fun _ => Closed runner) (triple_modifyDs fun _ h => h) fun _ => ?_
  refine Triple.bind (M := fun _ => Closed runner) (triple_modifyTrace fun _ h => h) fun _ => ?_
  refine Triple.bind (M := fun _ => Closed runner) (Triple.modify fun _ h => h) fun _ => ?_
  refine Triple.bind (M := fun done w => done = true ∧ Closed runner w)
    (Triple.gets fun w h => ⟨done_of_closed h, h⟩) fun done => Triple.of_fact fun hd => ?_
  subst hd
  exact Triple.pure fun _ => id

/-- **`_run_owned` ends its job**: it never raises, and a run that returns has closed the job. -/
theorem runOwned_closed (traced : Bool) {m : Py σ Unit} (hm : RunsCourse runner m) :
    Triple (Went [.moving]) (runOwned traced m) (fun _ => Closed runner)
      (fun e w => e = none ∧ Stopped runner w) := by
  have hs : [.moving] ∈ runner.stops := by cases runner <;> decide
  refine Triple.bind (M := fun _ => Went [.moving])
    (Triple.modify fun _ h => h) fun _ => ?_
  refine Triple.ensure (B := fun _ => Closed runner)
    (E := fun e w => e = none ∧ Stopped runner w) ?_
    (fun _ => ownedFinally_closed.conseq (fun _ => id) (fun _ _ => id) fun _ _ => False.elim)
    (fun e => Triple.of_fact nofun) fun _ => id
  refine Triple.attempt (E := fun _ => Stopped runner) ?_
    (fun e => (reportFailure_closed e).conseq (fun _ => id) (fun _ _ => id)
      fun _ _ => False.elim) fun _ h => ⟨rfl, h⟩
  refine (goesOn hs (kept_went.openUnit (fun _ _ => trivial) fun _ _ h => h)).bind fun _ => ?_
  refine Triple.bind (M := fun _ => Went [.moving]) (triple_modifyDs fun _ h => h) fun _ => ?_
  exact (goesOn hs connFree_went.connect).bind fun _ => hm

end Owned

/-! ## The law -/

omit [Outside σ] in
theorem onCourse_of_went {runner : Runner} {history : List (Phase × JobResult)}
    (hs : history.map Prod.fst ∈ runner.stops) : OnCourse runner history where
  running x hx := (Runner.stops_onCourse hs).1 x.1 (List.mem_map_of_mem hx)
  prefix_ := (Runner.stops_onCourse hs).2

omit [Outside σ] in
theorem underway_of_stopped {runner : Runner} {w : World σ} (h : Stopped runner w) :
    Underway runner w.job := by
  obtain ⟨ps, hs, hw⟩ := h
  have hc := onCourse_of_went (hw.phases ▸ hs)
  exact ⟨hc, hc.running _ (List.mem_of_getLast? hw.last)⟩

omit [Outside σ] in
theorem ended_of_closed {runner : Runner} {w : World σ} (h : Closed runner w) :
    Ended runner w.job := by
  obtain ⟨ps, hs, e, he, hw⟩ := h
  obtain ⟨before, hb⟩ := List.getLast?_eq_some_iff.mp hw.last
  have hps : before.map Prod.fst = ps := by
    have := hw.phases
    rw [hb, List.map_append] at this
    exact (List.append_inj' this rfl).1
  have hphase := hw.phase_eq
  refine ⟨before, hb, onCourse_of_went (hps ▸ hs), ?_, fun hd => ?_⟩
  · rw [hphase]
    rcases he with rfl | ⟨rfl, _⟩ <;> rfl
  · rcases he with rfl | ⟨rfl, hdone⟩
    · rw [hphase] at hd
      cases hd
    · rw [course, hps]
      exact hdone

/-- **Every job follows its phase machine and ends exactly once**, whatever the unit and the
database do: a run of `_run_owned` never raises, a run that returns leaves the job ended, one cut
short leaves it on its course. In a world whose time passes no run is cut short that is allowed
enough turns. -/
theorem runOwned_course (flow : Flow) (traced : Bool) (title : String) (discId slot : Option Nat)
    (w : World σ) :
    (∀ n, match runOwned traced flow.run n { w with job := Job.new title discId slot } with
      | (.ok _, w') => Ended flow.runner w'.job
      | (.raise _, _) => False
      | (.hang, w') => Underway flow.runner w'.job) ∧
    ∀ [Paced σ], ∃ N, ∀ n, N ≤ n →
      (runOwned traced flow.run n { w with job := Job.new title discId slot }).1 = .ok () := by
  have hstart : Went [.moving] { w with job := Job.new title discId slot } := ⟨rfl, rfl⟩
  have htriple := runOwned_closed traced (flow_course (σ := σ) flow)
  refine ⟨fun n => ?_, fun {_} => ?_⟩
  · have h := htriple n _ hstart
    split <;> rename_i hr <;> rw [hr] at h
    · exact ended_of_closed h
    · exact nomatch h.1
    · exact underway_of_stopped h.2
  · obtain ⟨N, hN⟩ := (settles_runOwned _ traced fun w => settles_flow w flow).meets htriple hstart
    refine ⟨N, fun n hn => ?_⟩
    rcases hN n hn with ⟨_, _, hr, _⟩ | ⟨_, _, _, h, _⟩
    · rw [hr]
    · cases h

end StakkaWeb
