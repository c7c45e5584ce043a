import StakkaWeb.Laws.Logbook
import StakkaWeb.Requests

/-!
# A job is a thread of the site

`Site` takes a job at the grain of its catalogue writes. This is the grain of `_run_owned`: whatever
the unit does, and whichever statements fail, what the job makes of the catalogue is what the moves of
its thread in `Site` make of it, from the start of the job to its end (`Task.Comes`): one write of its
flow at most and the failure that is logged after it at most (`Task.Leaves`).
-/

set_option autoImplicit false

namespace StakkaWeb

open Lib Lib.Prog

/-! ## The job as the site has it -/

/-- The points of the job, before its end. -/
def Task.UnderWay (task : Task) : Site.Point → Prop
  | .starts job | .acts job _ | .wrote job | .handler job => job = task
  | _ => False

/-- A job that has begun on `c` may have come to `p`, and made `c'` of the catalogue. -/
def Task.Comes (task : Task) (c : Catalog) (p : Site.Point) (c' : Catalog) : Prop :=
  Threads.Solo (fun (_ : Nat) s p s' p' => Site.Moves s p s' p') 0 task.UnderWay
    (⟨c, some task⟩, .starts task) (⟨c', some task⟩, p)

/-- The slot that the job works on, over the catalogue it has found. -/
def Task.HasSlot (c : Catalog) (slot : Nat) : Task → Prop
  | .reset => slot = home
  | .eject discId _ => ∃ disc, c.getDisc discId = some disc ∧ disc.slot = slot
  | .return_ _ s => slot = s
  | .add s => slot = s.val

/-- One of the writes with which the flow may end, or none. -/
def Task.Wrote (task : Task) (c c₁ : Catalog) : Prop :=
  c₁ = c ∨ ∃ slot now, task.HasSlot c slot ∧ Ends c now task slot (.ok c₁)

/-- Such a write, and after it a failure in the log or nothing. -/
def Task.Leaves (task : Task) (c c' : Catalog) : Prop :=
  ∃ c₁, task.Wrote c c₁ ∧
    (c' = c₁ ∨ ∃ text now, c₁.log .failed task.discId task.slot (some text) now = .ok c')

/-- What the job has made of the catalogue by a point. -/
def Task.LeavesAt (task : Task) (c c' : Catalog) : Site.Point → Prop
  | .starts _ => c' = c
  | .acts _ slot => c' = c ∧ task.HasSlot c slot
  | .wrote _ | .handler _ => task.Wrote c c'
  | .ends _ => task.Leaves c c'
  | _ => True

/-- **One step of the job.** -/
theorem leavesAt_moves {task : Task} {c : Catalog} {s s' : Site} {p p' : Site.Point}
    (hp : task.UnderWay p) (hm : Site.Moves s p s' p') (h : task.LeavesAt c s.catalog p) :
    task.LeavesAt c s'.catalog p' := by
  cases hm with
  | resets =>
    obtain rfl : Task.reset = task := hp
    exact ⟨h, rfl⟩
  | @adds slot =>
    obtain rfl : Task.add slot = task := hp
    exact ⟨h, rfl⟩
  | @returns d slot =>
    obtain rfl : Task.return_ d slot = task := hp
    exact ⟨h, rfl⟩
  | @ejects d slot disc hd =>
    obtain rfl : Task.eject d slot = task := hp
    have hsame : s.catalog = c := h
    exact ⟨hsame, disc, hsame ▸ hd, rfl⟩
  | ejectsNothing | startRaises => exact .inl h
  | actRaises | refused => exact .inl h.1
  | @writes job slot now _ hends =>
    obtain rfl : job = task := hp
    obtain ⟨hsame, hworks⟩ := h
    exact .inr ⟨slot, now, hworks, hsame ▸ hends⟩
  | watchRaises => exact h
  | finishes | logRaises => exact ⟨_, h, .inl rfl⟩
  | @logs job text now _ hlog =>
    obtain rfl : job = task := hp
    exact ⟨_, h, .inr ⟨text, now, hlog⟩⟩
  | _ => exact hp.elim

/-- **A job that has come to its end** has made one write of its flow at most. -/
theorem Task.Comes.leaves {task : Task} {c c' : Catalog} (h : task.Comes c (.ends task) c') :
    task.Leaves c c' := by
  have hsteps : ∀ b, Threads.Solo (fun (_ : Nat) s p s' p' => Site.Moves s p s' p') 0 task.UnderWay
      (⟨c, some task⟩, .starts task) b → task.LeavesAt c b.1.catalog b.2 := by
    intro b hb
    induction hb with
    | refl => rfl
    | tail _ hmove ih => exact leavesAt_moves hmove.1 hmove.2 ih
  exact hsteps _ h

namespace Task.Comes

variable {task : Task} {c c' c₁ : Catalog} {slot : Nat}

theorem starts_raises (h : task.Comes c (.starts task) c') : task.Comes c (.handler task) c' :=
  h.tail ⟨rfl, .startRaises⟩

theorem acts_raises (h : task.Comes c (.acts task slot) c') : task.Comes c (.handler task) c' :=
  h.tail ⟨rfl, .actRaises⟩

theorem wrote_raises (h : task.Comes c (.wrote task) c') : task.Comes c (.handler task) c' :=
  h.tail ⟨rfl, .watchRaises⟩

theorem writes {now : Stamp} (h : task.Comes c (.acts task slot) c')
    (hends : Ends c' now task slot (.ok c₁)) : task.Comes c (.wrote task) c₁ :=
  h.tail ⟨rfl, .writes hends⟩

theorem finishes (h : task.Comes c (.wrote task) c') : task.Comes c (.ends task) c' :=
  h.tail ⟨rfl, .finishes⟩

theorem logs {text : String} {now : Stamp} (h : task.Comes c (.handler task) c')
    (hlog : c'.log .failed task.discId task.slot (some text) now = .ok c₁) :
    task.Comes c (.ends task) c₁ :=
  h.tail ⟨rfl, .logs hlog⟩

theorem log_raises (h : task.Comes c (.handler task) c') : task.Comes c (.ends task) c' :=
  h.tail ⟨rfl, .logRaises⟩

end Task.Comes

/-! ## The job as it is run -/

variable {σ : Type}

/-- The job in the world is `task`. -/
def Task.Borne (task : Task) (w : World σ) : Prop :=
  w.job.discId = task.discId ∧ w.job.slot = task.slot

/-- And it has not written: its connection sees the catalogue that is in the file. -/
def Task.Unwritten (task : Task) (c : Catalog) (w : World σ) : Prop :=
  task.Borne w ∧ w.conn.view = c ∧ w.conn.committed = c

/-- And it has come to `p`. -/
def Task.CameTo (task : Task) (c : Catalog) (p : Site.Point) (w : World σ) : Prop :=
  task.Borne w ∧ task.Comes c p w.conn.committed

section Statements

variable {task : Task} {c : Catalog} {slot : Nat} {α : Type}

theorem borne_connFree : ConnFree (task.Borne (σ := σ)) := fun _ _ h => h

/-- A statement at a time. -/
theorem unwritten_each {m : Py σ α} {Q : α → World σ → Prop} {R : Option Exc → World σ → Prop}
    (h : ∀ φ now n, Triple (fun w => task.Borne w ∧ w.conn.At φ now n c c) m Q R) :
    Triple (task.Unwritten c) m Q R := by
  apply Triple.of_each
  intro w hw
  apply (h w.conn.faults w.conn.now w.conn.executed).pre
  rintro _ rfl
  exact ⟨hw.1, rfl, rfl, rfl, hw.2.1, hw.2.2⟩

/-- A statement that reads. -/
theorem unwritten_reads (f : Catalog → α) :
    Triple (task.Unwritten (σ := σ) c) (execute fun c => .ok (f c, c))
      (fun a w => a = f c ∧ task.Unwritten c w) (fun _ => task.Unwritten c) := by
  apply Triple.call
  · intro w a w' hw hr
    dsimp only at hr
    split at hr
    · cases hr
    · cases hr
      exact ⟨congrArg f hw.2.1, hw⟩
  · intro w e w' hw hr
    dsimp only at hr
    split at hr
    · cases hr
      exact hw
    · cases hr

section Log

variable {φ : Nat → Bool} {now : Stamp} {n : Nat}

theorem borne_logEvent (kind : EventKind) (discId s : Option Nat) (detail : Option String) :
    Triple (fun w : World σ => task.Borne w ∧ w.conn.At φ now n c c) (logEvent kind discId s detail)
      (fun _ w => task.Borne w ∧ ∃ c', c.log kind discId s detail now = .ok c' ∧
        w.conn.At φ now (n + 1) c' c)
      (fun _ w => task.Borne w ∧ w.conn.committed = c) := by
  have hborne : Keeps (task.Borne (σ := σ)) (logEvent kind discId s detail) :=
    borne_connFree.logEvent kind discId s detail
  apply (hborne.and (logEvent_goes kind discId s detail)).conseq (fun _ h => h) (fun _ _ h => h)
  exact fun _ _ h => ⟨h.1, h.2.2⟩

theorem borne_commit {Q : Catalog → Prop} :
    Triple (fun w : World σ => task.Borne w ∧ ∃ c', Q c' ∧ w.conn.At φ now n c' c) commit
      (fun _ w => task.Borne w ∧ Q w.conn.committed)
      (fun _ w => task.Borne w ∧ w.conn.committed = c) := by
  apply Triple.of_each
  intro w₀ h₀
  obtain ⟨hborne₀, c', hQ, hat⟩ := h₀
  have hborne : Keeps (task.Borne (σ := σ)) commit := borne_connFree.commit
  apply (hborne.and (commit_at (c := c'))).conseq
  · rintro _ rfl
    exact ⟨hborne₀, hat⟩
  · exact fun _ _ h => ⟨h.1, h.2.2 ▸ hQ⟩
  · exact fun _ _ h => ⟨h.1, h.2.2⟩

end Log

theorem unwritten_came {p : Site.Point} {w : World σ} (h : task.Comes c p c)
    (hw : task.Unwritten c w) : task.CameTo c p w := by
  refine ⟨hw.1, ?_⟩
  rw [hw.2.2]
  exact h

/-- A flow that goes through has come to its end in the site, and one that raises to the handler. -/
def Task.Passes (task : Task) (c : Catalog) (m : Py σ α) : Prop :=
  Triple (task.Unwritten c) m (fun _ => task.CameTo c (.wrote task))
    (fun _ => task.CameTo c (.handler task))

variable (hacts : task.Comes c (.acts task slot) c)
include hacts

/-- Before the write. -/
theorem Task.Passes.after {β : Type} {m : Py σ α} {k : α → Py σ β} (hm : Keeps (task.Unwritten c) m)
    (hk : ∀ a, task.Passes c (k a)) : task.Passes c (m >>= k) := by
  apply Triple.bind (hm.conseq (fun _ h => h) (fun _ _ h => h) fun _ _ h =>
    unwritten_came hacts.acts_raises h)
  exact hk

omit hacts in
/-- After the write. -/
theorem came_after {m : Py σ α} (hm : Keeps (task.CameTo c (.wrote task)) m) :
    Triple (task.CameTo c (.wrote task)) m (fun _ => task.CameTo c (.wrote task))
      (fun _ => task.CameTo c (.handler task)) :=
  hm.conseq (fun _ h => h) (fun _ _ h => h) fun _ _ h => ⟨h.1, h.2.wrote_raises⟩

/-- A transaction, and what follows it. -/
theorem Task.Passes.write {β : Type} {m : Py σ α} {k : α → Py σ β}
    (hm : ∀ φ now n, Triple (fun w => w.conn.At φ now n c c) m
      (fun _ w => Ends c now task slot (.ok w.conn.committed)) (fun _ w => w.conn.committed = c))
    (hborne : Keeps task.Borne m) (hk : ∀ a, Keeps (task.CameTo c (.wrote task)) (k a)) :
    task.Passes c (m >>= k) := by
  apply unwritten_each
  intro φ now n
  have hwrites : Triple (fun w => task.Borne w ∧ w.conn.At φ now n c c) m
      (fun _ => task.CameTo c (.wrote task)) (fun _ => task.CameTo c (.handler task)) := by
    apply (hborne.and (hm φ now n)).conseq (fun _ h => h)
    · exact fun _ _ h => ⟨h.1, hacts.writes h.2⟩
    · intro _ w h
      exact ⟨h.1, h.2 ▸ hacts.acts_raises⟩
  exact hwrites.bind fun a => came_after (hk a)

/-- `log_event`, `commit` and what follows them. -/
theorem Task.Passes.log {β : Type} {k : Py σ β} {kind : EventKind} {discId s : Option Nat}
    {detail : Option String}
    (hends : ∀ now c', c.log kind discId s detail now = .ok c' → Ends c now task slot (.ok c'))
    (hk : Keeps (task.CameTo c (.wrote task)) k) :
    task.Passes c (do logEvent kind discId s detail; commit; k) := by
  apply unwritten_each
  intro φ now n
  have hraise : ∀ w : World σ, task.Borne w ∧ w.conn.committed = c →
      task.CameTo c (.handler task) w := fun w h => ⟨h.1, h.2 ▸ hacts.acts_raises⟩
  apply ((borne_logEvent kind discId s detail).conseq (fun _ h => h) (fun _ _ h => h)
    fun _ w h => hraise w h).bind
  intro _
  have hcommit : Triple (fun w : World σ => task.Borne w ∧ ∃ c',
      c.log kind discId s detail now = .ok c' ∧ w.conn.At φ now (n + 1) c' c) commit
      (fun _ => task.CameTo c (.wrote task)) (fun _ => task.CameTo c (.handler task)) := by
    apply borne_commit.conseq (fun _ h => h)
    · exact fun _ w h => ⟨h.1, hacts.writes (hends now _ h.2)⟩
    · exact fun _ w h => hraise w h
  exact hcommit.bind fun _ => came_after hk

end Statements

/-! ## What does not touch the catalogue -/

variable {task : Task} {c : Catalog}

theorem unwritten_mark (label : String) : Keeps (task.Unwritten (σ := σ) c) (mark label) :=
  Keeps.modify fun _ h => h

theorem came_ends {p : Site.Point} {f : Job → Job}
    (hf : ∀ j, (f j).discId = j.discId ∧ (f j).slot = j.slot) :
    Keeps (task.CameTo (σ := σ) c p) (modifyJob f) := by
  apply Keeps.modify
  intro w h
  exact ⟨⟨(hf w.job).1.trans h.1.1, (hf w.job).2.trans h.1.2⟩, h.2⟩

theorem came_reads {p : Site.Point} {α : Type} (f : Catalog → α) :
    Keeps (task.CameTo (σ := σ) c p) (execute fun c => .ok (f c, c)) := by
  apply Keeps.call
  intro w h
  dsimp only
  split
  · exact h
  · exact h

variable [Outside σ]

theorem borne_kept (φ : Conn → Prop) :
    Kept (fun _ _ => True) (fun w : World σ => task.Borne w ∧ φ w.conn) where
  opens _ h := h
  closes _ h := h
  read _ _ h := h
  write _ _ _ _ _ _ h := h
  clock _ h := h
  sleep _ _ h := h
  shut _ h := h
  note _ _ h := h
  trace _ _ h := h
  answered _ _ _ _ _ h := h
  word _ _ h := h

theorem unwritten_kept : Kept (fun _ _ => True) (task.Unwritten (σ := σ) c) :=
  borne_kept fun conn => conn.view = c ∧ conn.committed = c

theorem unwritten_moves : MethodRule (fun _ _ => True) (task.Unwritten (σ := σ) c)
    (fun _ => task.Unwritten c) :=
  unwritten_kept.methods trivial

theorem unwritten_setPhase (p : Phase) (message : String) (window_s : Option Nat) :
    Keeps (task.Unwritten (σ := σ) c) (setPhase p message window_s) := by
  have hdeadline : Keeps (task.Unwritten (σ := σ) c) (deadlineIn window_s) := by
    cases window_s with
    | none => exact Keeps.pure _
    | some window => exact unwritten_kept.keepsClock.bind fun _ => Keeps.pure _
  have hjob : ∀ deadline, Keeps (task.Unwritten (σ := σ) c)
      (modifyJob (Job.setPhase p message deadline)) := fun _ => Keeps.modify fun _ h => h
  apply hdeadline.bind
  intro deadline
  exact (hjob deadline).bind fun _ => keeps_ofOutside fun _ h => h

theorem unwritten_moveTo (slot : Nat) (eject : Bool) :
    Keeps (task.Unwritten (σ := σ) c) (moveTo slot eject .note) :=
  unwritten_moves.moveTo (fun _ => trivial) trivial (fun _ _ _ h => h) .note

theorem unwritten_park : Keeps (task.Unwritten (σ := σ) c) (park .none) :=
  unwritten_moves.park trivial .none

theorem came_watch {p : Site.Point} : Keeps (task.CameTo (σ := σ) c p) watch := by
  have hk : Kept (fun _ _ => True) (task.CameTo (σ := σ) c p) :=
    borne_kept fun conn => task.Comes c p conn.committed
  have hmark : ∀ label, Keeps (task.CameTo (σ := σ) c p) (mark label) :=
    fun _ => Keeps.modify fun _ h => h
  apply (hmark _).bind
  intro _
  apply hk.keepsClock.bind
  intro _
  apply Keeps.attempt
  · apply Keeps.loop
    apply hk.keepsClock.bind
    intro _
    apply Keeps.ite
    · apply Keeps.bind (hk.methods trivial).status
      intro st
      have htrace : Keeps (task.CameTo (σ := σ) c p) (modifyTrace (Trace.status st)) :=
        Keeps.modify fun _ h => h
      exact htrace.bind fun _ => Keeps.pure _
    · exact Keeps.pure _
  · exact fun _ => Keeps.ite (hmark _) (Keeps.raise _)

/-- A phase and a line of the trace. -/
theorem Task.Passes.shows {slot : Nat} {β : Type} {k : Py σ β} {p : Phase} {message label : String}
    {window_s : Option Nat} (hacts : task.Comes c (.acts task slot) c) (hk : task.Passes c k) :
    task.Passes c (do setPhase p message window_s; mark label; k) := by
  apply Task.Passes.after hacts (unwritten_setPhase _ _ _)
  intro _
  apply Task.Passes.after hacts (unwritten_mark _)
  exact fun _ => hk

/-! ## The flows -/

theorem runReset_passes (hacts : Task.reset.Comes c (.acts .reset home) c) :
    Task.reset.Passes c (runReset (σ := σ)) := by
  apply Task.Passes.after hacts (unwritten_setPhase _ _ _)
  intro _
  apply Task.Passes.after hacts (unwritten_moves.reset (fun _ _ => trivial) trivial trivial .note)
  intro _
  apply Task.Passes.log hacts
  · intro now c' hlog
    exact hlog ▸ .reset
  · exact came_ends fun _ => ⟨rfl, rfl⟩

section Eject

variable {d s slot : Nat} (hacts : (Task.eject d s).Comes c (.acts (.eject d s) slot) c)
include hacts

theorem ejectFoundNothing_passes : (Task.eject d s).Passes c (ejectFoundNothing (σ := σ) d slot) := by
  apply Task.Passes.shows hacts
  apply Task.Passes.after hacts unwritten_park
  intro _
  apply Task.Passes.log hacts
  · intro now c' hlog
    exact hlog ▸ .nothingOut
  · exact came_ends fun _ => ⟨rfl, rfl⟩

omit [Outside σ] in
theorem ejectNotRetracted_passes (exc : Exc) :
    (Task.eject d s).Passes c (ejectNotRetracted (σ := σ) d slot exc) := by
  apply Task.Passes.after hacts (unwritten_mark _)
  intro _
  apply Task.Passes.log hacts
  · intro now c' hlog
    exact hlog ▸ .notRetracted exc
  · exact came_ends fun _ => ⟨rfl, rfl⟩

theorem ejectRetracted_passes (acked : Bool) :
    (Task.eject d s).Passes c (ejectRetracted (σ := σ) d slot acked) := by
  apply Task.Passes.after hacts (unwritten_mark _)
  intro _
  apply Task.Passes.after hacts unwritten_park
  intro _
  apply Task.Passes.log hacts
  · intro now c' hlog
    exact hlog ▸ .retracted
  · exact came_ends fun _ => ⟨rfl, rfl⟩

theorem ejectNotTaken_passes : (Task.eject d s).Passes c (ejectNotTaken (σ := σ) d slot) := by
  apply Task.Passes.shows hacts
  -- only a `retract` that raised has the failure written by its handler
  have hretract : Triple ((Task.eject d s).Unwritten (σ := σ) c)
      (exceptDeviceError (do let acked ← retract .note; pure (some acked)) fun exc => do
        ejectNotRetracted d slot exc
        pure none)
      (fun acked w => if acked.isSome then (Task.eject d s).Unwritten c w
        else (Task.eject d s).CameTo c (.wrote (.eject d s)) w)
      (fun _ => (Task.eject d s).CameTo c (.handler (.eject d s))) := by
    apply Triple.attempt (E := fun _ => (Task.eject d s).Unwritten c)
    · apply Triple.bind (unwritten_moves.retract trivial .note)
      exact fun _ => Triple.pure fun _ h => h
    · intro exc
      apply Triple.ite
      · intro _
        exact Triple.bind (ejectNotRetracted_passes hacts exc) fun _ => Triple.pure fun _ h => h
      · exact fun _ => Triple.raise fun _ h => unwritten_came hacts.acts_raises h
    · exact fun _ h => unwritten_came hacts.acts_raises h
  apply hretract.bind
  intro acked
  cases acked with
  | none => exact Triple.pure fun _ h => h
  | some acked => exact ejectRetracted_passes hacts acked

theorem ejectTaken_passes (title : String) :
    (Task.eject d s).Passes c (ejectTaken (σ := σ) d slot title) := by
  apply Task.Passes.shows hacts
  apply Task.Passes.after hacts unwritten_park
  intro _
  apply Task.Passes.write hacts
  · intro φ now n
    apply (setStatus_goes d _ .ejected none).conseq (fun _ h => h)
    · intro _ w h
      exact h ▸ .taken
    · exact fun _ _ h => h
  · exact borne_connFree.markOut _ _ _
  · exact fun _ => came_ends fun _ => ⟨rfl, rfl⟩

theorem ejectPresented_passes (title : String) :
    (Task.eject d s).Passes c (ejectPresented (σ := σ) d slot title) := by
  apply Task.Passes.shows hacts
  apply Task.Passes.after hacts (unwritten_moves.waitState _ _ _)
  intro taken
  apply Triple.ite
  · exact fun _ => ejectTaken_passes hacts title
  · exact fun _ => ejectNotTaken_passes hacts

end Eject

theorem runEject_passes (d s : Nat) : (Task.eject d s).Passes c (runEject (σ := σ) d) := by
  have hread : Triple ((Task.eject d s).Unwritten (σ := σ) c) (getDisc d)
      (fun disc w => disc = c.getDisc d ∧ (Task.eject d s).Unwritten c w)
      (fun _ => (Task.eject d s).CameTo c (.handler (.eject d s))) := by
    apply (unwritten_reads fun c => c.getDisc d).conseq (fun _ h => h) (fun _ _ h => h)
    exact fun _ _ h => unwritten_came (Task.Comes.starts_raises .refl) h
  apply hread.bind
  intro disc
  apply Triple.of_fact
  intro hdisc
  cases disc with
  | none =>
    have hnothing : (Task.eject d s).Comes c (.wrote (.eject d s)) c :=
      .single ⟨rfl, .ejectsNothing hdisc.symm⟩
    exact Triple.modify fun w h => unwritten_came (w := w) hnothing h
  | some disc =>
    have hacts : (Task.eject d s).Comes c (.acts (.eject d s) disc.slot) c :=
      .single ⟨rfl, .ejects hdisc.symm⟩
    apply Task.Passes.shows hacts
    apply Task.Passes.after hacts (unwritten_moveTo _ _)
    intro _
    apply Task.Passes.after hacts unwritten_moves.discInBay
    intro inBay
    apply Triple.ite
    · exact fun _ => ejectPresented_passes hacts disc.title
    · exact fun _ => ejectFoundNothing_passes hacts

/-- `run_add` when what its write does is one of the ends of the job. -/
theorem runAdd_passes {slot : Nat} {discId : Option Nat}
    (hacts : task.Comes c (.acts task slot) c)
    (hflow : task.flow = .add slot ∨ ∃ d, task.flow = .return_ slot d) (hid : task.discId = discId)
    (hwrite : ∀ φ now n, Triple (fun w : World σ => w.conn.At φ now n c c) (writeRow slot discId)
      (fun _ w => Ends c now task slot (.ok w.conn.committed)) (fun _ w => w.conn.committed = c)) :
    task.Passes c (runAdd (σ := σ) slot discId) := by
  apply Task.Passes.shows hacts
  apply Task.Passes.after hacts (unwritten_moveTo _ _)
  intro _
  apply Task.Passes.shows hacts
  apply Task.Passes.after hacts (unwritten_moves.waitState _ _ _)
  intro inserted
  apply Triple.ite
  · intro _
    have hingest : Keeps (task.Unwritten (σ := σ) c) addIngest := by
      apply (unwritten_setPhase _ _ _).bind
      intro _
      apply (unwritten_mark _).bind
      intro _
      apply Keeps.bind (unwritten_moves.ingest trivial .note)
      intro _
      apply (unwritten_mark _).bind
      intro _
      apply (unwritten_setPhase _ _ _).bind
      exact fun _ => unwritten_park
    apply Task.Passes.after hacts hingest
    intro _
    have hcatalogue : task.Passes c (catalogue (σ := σ) slot discId) := by
      apply Task.Passes.write hacts hwrite (borne_connFree.writeRow _ _)
      intro id
      exact (keeps_observe fun _ h => h).bind fun _ => Keeps.pure id
    apply Triple.bind hcatalogue
    intro id
    apply came_after
    apply came_watch.bind
    intro _
    cases discId with
    | none => exact came_ends fun _ => ⟨rfl, rfl⟩
    | some _ =>
      apply (came_reads _).bind
      exact fun _ => came_ends fun _ => ⟨rfl, rfl⟩
  · intro _
    apply Task.Passes.after hacts (unwritten_setPhase _ _ _)
    intro _
    apply Task.Passes.after hacts unwritten_park
    intro _
    apply Task.Passes.log hacts
    · intro now c' hlog
      rw [← hlog, ← hid]
      exact .timedOut hflow
    · exact came_ends fun _ => ⟨rfl, rfl⟩

theorem flow_passes (task : Task) : task.Passes c (task.flow.run (σ := σ)) := by
  cases task with
  | reset => exact runReset_passes (.single ⟨rfl, .resets⟩)
  | eject d s => exact runEject_passes d s
  | return_ d slot =>
    apply runAdd_passes (.single ⟨rfl, .returns⟩) (.inr ⟨d, rfl⟩) rfl
    intro φ now n
    have hstored : Triple (fun w : World σ => w.conn.At φ now n c c) (markStored d .returned none)
        (fun _ w => Ends c now (.return_ d slot) slot (.ok w.conn.committed))
        (fun _ w => w.conn.committed = c) :=
      (setStatus_goes d _ .returned none).post fun _ _ h => h ▸ .stored
    exact hstored.bind fun _ => Triple.pure fun _ h => h
  | add slot =>
    apply runAdd_passes (.single ⟨rfl, .adds⟩) (.inl rfl) rfl
    intro φ now n
    apply (createDisc_goes _ _ _).post
    intro _ w h
    obtain ⟨id, hcreate⟩ := h
    have hends : Ends c now (.add slot) slot.val _ := .created
    rw [hcreate] at hends
    exact hends

/-! ## The rest of the job -/

omit [Outside σ] in
theorem rollback_at {φ : Nat → Bool} {now : Stamp} {n : Nat} {v : Catalog} :
    Triple (fun w : World σ => w.conn.At φ now n v c) rollback
      (fun _ w => w.conn.At φ now (n + 1) c c) (fun _ w => w.conn.committed = c) := by
  apply Triple.call
  · intro w _ w' h hr
    dsimp only at hr
    split at hr
    · cases hr
    · cases hr
      exact ⟨h.faults, h.now, congrArg (· + 1) h.executed, h.saved, h.saved⟩
  · intro w _ w' h hr
    dsimp only at hr
    split at hr
    · cases hr
      exact h.saved
    · cases hr

omit [Outside σ] in
/-- The failure is logged, on the catalogue as the flow has left it, or nothing is. -/
theorem logFailure_ends (exc : Exc) :
    Triple (task.CameTo (σ := σ) c (.handler task)) (logFailure exc)
      (fun _ => task.CameTo c (.ends task)) (fun _ => task.CameTo c (.ends task)) := by
  apply Triple.of_each
  intro w₀ h₀
  obtain ⟨hborne₀, hcomes⟩ := h₀
  have hends : ∀ w : World σ, task.Borne w ∧ w.conn.committed = w₀.conn.committed →
      task.CameTo c (.ends task) w := fun w h => ⟨h.1, h.2 ▸ hcomes.log_raises⟩
  have hlook : Triple (fun w : World σ => w = w₀) (Prog.gets id : Py σ (World σ))
      (fun a w => a = w₀ ∧ w = w₀) (fun _ => task.CameTo c (.ends task)) :=
    Triple.gets fun _ h => ⟨h, h⟩
  apply hlook.bind
  intro a
  apply Triple.of_fact
  rintro rfl
  rw [hborne₀.1, hborne₀.2]
  apply Triple.when
  · intro _
    apply Triple.attempt (E := fun _ => task.CameTo c (.ends task))
    · have hborne : Keeps (task.Borne (σ := σ)) rollback := borne_connFree.rollback
      have hrolled : Triple (fun w : World σ => w = a) rollback
          (fun _ w => task.Borne w ∧ w.conn.At a.conn.faults a.conn.now (a.conn.executed + 1)
            a.conn.committed a.conn.committed)
          (fun _ w => task.Borne w ∧ w.conn.committed = a.conn.committed) := by
        apply (hborne.and (rollback_at (v := a.conn.view))).pre
        intro w h
        rw [h]
        exact ⟨hborne₀, rfl, rfl, rfl, rfl, rfl⟩
      apply (hrolled.conseq (fun _ h => h) (fun _ _ h => h) fun _ w h => hends w h).bind
      intro _
      apply ((borne_logEvent .failed task.discId task.slot (some exc.text)).conseq (fun _ h => h)
        (fun _ _ h => h) fun _ w h => hends w h).bind
      intro _
      apply borne_commit.conseq (fun _ h => h)
      · exact fun _ w h => ⟨h.1, hcomes.logs h.2⟩
      · exact fun _ w h => hends w h
    · exact fun _ => Triple.ite (fun _ => Triple.pure fun _ h => h) fun _ => Triple.raise fun _ h => h
    · exact fun _ h => h
  · rintro _ rfl _
    exact hends _ ⟨hborne₀, rfl⟩

omit [Outside σ] in
theorem reportFailure_comes (exc : Exc) :
    Triple (task.CameTo (σ := σ) c (.handler task)) (reportFailure exc)
      (fun _ => task.CameTo c (.ends task)) (fun _ => task.CameTo c (.ends task)) := by
  apply (logFailure_ends exc).bind
  intro _
  cases exc <;> exact came_ends fun _ => ⟨rfl, rfl⟩

theorem ownedBody_passes (task : Task) :
    task.Passes c (ownedBody (σ := σ) task.flow.run) := by
  have hfirst : ∀ {m : Py σ Unit}, Keeps (task.Unwritten c) m → Triple (task.Unwritten c) m
      (fun _ => task.Unwritten c) (fun _ => task.CameTo c (.handler task)) :=
    fun hm => hm.conseq (fun _ h => h) (fun _ _ h => h)
      fun _ _ h => unwritten_came (Task.Comes.starts_raises .refl) h
  have hpragma : Keeps (task.Unwritten (σ := σ) c) (execute fun c => .ok ((), c)) :=
    (unwritten_reads fun _ => ()).post fun _ _ h => h.2
  apply (hfirst (unwritten_kept.openUnit (fun _ _ => trivial) fun _ _ h => h)).bind
  intro _
  have htracing : Keeps (task.Unwritten (σ := σ) c)
      (modifyDs fun ds => { ds with tracing := true }) := Keeps.modify fun _ h => h
  apply (hfirst htracing).bind
  intro _
  have hconnect : Keeps (task.Unwritten (σ := σ) c) connect :=
    hpragma.bind fun _ => hpragma.bind fun _ => Keeps.modify fun _ h => h
  apply (hfirst hconnect).bind
  exact fun _ => flow_passes task

theorem runOwned_comes (task : Task) (traced : Bool) :
    Triple (fun w : World σ => task.Borne w ∧ w.conn.committed = c) (runOwned traced task.flow.run)
      (fun _ => task.CameTo c (.ends task)) (fun _ => task.CameTo c (.ends task)) := by
  have hfinally : Keeps (task.CameTo (σ := σ) c (.ends task)) ownedFinally := by
    have htracing : Keeps (task.CameTo (σ := σ) c (.ends task))
        (modifyDs fun ds => { ds with tracing := false }) := Keeps.modify fun _ h => h
    have hmark : Keeps (task.CameTo (σ := σ) c (.ends task)) (mark "end") := Keeps.modify fun _ h => h
    have hclose : Keeps (task.CameTo (σ := σ) c (.ends task)) closeConn := Keeps.modify fun _ h => h
    apply htracing.bind
    intro _
    apply hmark.bind
    intro _
    apply hclose.bind
    intro _
    exact (Keeps.gets _).bind fun _ => Keeps.when (came_ends fun _ => ⟨rfl, rfl⟩)
  have hstart : Triple (fun w : World σ => task.Borne w ∧ w.conn.committed = c)
      (Prog.modify fun w => { w with
        trace := ⟨traced, none, []⟩
        conn := { w.conn with isOpen := false, view := w.conn.committed, executed := 0 } }
          : Py σ Unit)
      (fun _ => task.Unwritten c) (fun _ => task.CameTo c (.ends task)) :=
    Triple.modify fun _ h => ⟨h.1, h.2, h.2⟩
  apply hstart.bind
  intro _
  have htry : Triple (task.Unwritten (σ := σ) c)
      (Prog.attempt (ownedBody task.flow.run) reportFailure)
      (fun _ => task.CameTo c (.ends task)) (fun _ => task.CameTo c (.ends task)) := by
    apply Triple.attempt (E := fun _ => task.CameTo c (.handler task))
    · exact (ownedBody_passes task).post fun _ _ h => ⟨h.1, h.2.finishes⟩
    · exact reportFailure_comes
    · exact fun _ h => ⟨h.1, h.2.log_raises⟩
  exact Triple.ensure htry (fun _ => hfinally) (fun _ => hfinally) fun _ h => h

/-- **A job is a thread of the site**, whatever the unit does and whichever statements fail: to the
catalogue that `_run_owned` leaves, the job's thread comes in `Site` by its own steps from the start of
the job to its end, while the others stand still; so at most one write of its flow and one failure
after it make up the difference. Where a run hangs, the site has a step that raises. -/
theorem runOwned_refines (task : Task) (title : String) (traced : Bool) (n : Nat) (w : World σ)
    (others : Nat → Site.Point) (t : Nat) :
    Threads.Solo (fun _ s p s' p' => Site.Moves s p s' p') t task.UnderWay
      (⟨w.conn.committed, some task⟩, .starts task)
      (⟨(runOwned traced task.flow.run n (w.start (.new title task.discId task.slot))).2.conn.committed,
        some task⟩, .ends task) ∧
    task.Leaves w.conn.committed
      (runOwned traced task.flow.run n (w.start (.new title task.discId task.slot))).2.conn.committed ∧
    Site.Run ⟨⟨w.conn.committed, some task⟩, Function.update others t (.starts task)⟩
      ⟨⟨(runOwned traced task.flow.run n (w.start (.new title task.discId task.slot))).2.conn.committed,
        some task⟩, Function.update others t (.ends task)⟩ := by
  have h := runOwned_comes (σ := σ) (c := w.conn.committed) task traced n
    (w.start (.new title task.discId task.slot)) ⟨⟨rfl, rfl⟩, rfl⟩
  generalize runOwned (σ := σ) traced task.flow.run n _ = r at h ⊢
  obtain ⟨outcome, w'⟩ := r
  have hcomes : task.Comes w.conn.committed (.ends task) w'.conn.committed := by
    cases outcome with
    | ok _ | raise _ | hang => exact h.2
  refine ⟨hcomes, hcomes.leaves, ?_⟩
  let c : Threads Site Site.Point :=
    ⟨⟨w.conn.committed, some task⟩, Function.update others t (.starts task)⟩
  have hsolo : Threads.Solo (fun (_ : Nat) s p s' p' => Site.Moves s p s' p') t task.UnderWay
      (c.shared, .starts task) (⟨w'.conn.committed, some task⟩, .ends task) := hcomes
  have hrun := hsolo.steps (c := c) rfl (Function.update_self ..)
  rwa [Threads.put, Function.update_idem] at hrun

end StakkaWeb
