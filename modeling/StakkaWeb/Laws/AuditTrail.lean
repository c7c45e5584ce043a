import Mathlib.Tactic.Choose
import StakkaWeb.Laws.Catalog
import StakkaWeb.Laws.Database
import StakkaWeb.Laws.Endings
import StakkaWeb.Laws.LoadOutcome

/-!
# The audit trail

On a database that works, with the job's row present, a job whose database was opened has one event
committed before it is reported as ended, and the kind of that event says how it ended and what
became of the table `disc`. `EndsBy` is how "before" is said: a flow is some work that leaves the job
open, and then one change of the job.
-/

set_option autoImplicit false

namespace StakkaWeb

open Lib Lib.Prog

/-! ## What is written down -/

/-- How a job ends that has written an event of this kind. -/
def EventKind.ending : EventKind → Option Phase
  | .reset | .ejected | .added | .returned => some .done
  | .failed | .retracted => some .failed
  | .manual | .removed => none

/-- What becomes of the rows of `disc`. -/
def TableAfter (now : Stamp) (task : Task) (rows rows' : List Disc) : EventKind → Prop
  | .ejected => ∃ d, task.discId = some d ∧ rows' = updateRow d
      (fun r => { r with status := .out, checkedOutAt := some now, updatedAt := now }) rows
  | .returned => ∃ d, task.discId = some d ∧ rows' = updateRow d
      (fun r => { r with status := .stored, checkedOutAt := none, updatedAt := now }) rows
  | .added => ∃ row : Disc, task.slot = some row.slot ∧ row.status = .stored ∧ rows' = rows ++ [row]
  | _ => rows' = rows

/-- One event of this kind was added to the log, and the rows are what it says. -/
structure Audited (c : Catalog) (now : Stamp) (task : Task) (kind : EventKind) (c' : Catalog) :
    Prop where
  event : ∃ e : Event, e.kind = kind ∧ c'.events = c.events ++ [e]
  discs : TableAfter now task c.discs c'.discs kind

/-- What the job needs of the catalogue: its row, or a slot to fill. -/
def Provides (c : Catalog) : Task → Prop
  | .reset => True
  | .eject d _ | .return_ d _ => c.getDisc d ≠ none
  | .add slot => c.getBySlot slot.val = none

section Catalog

variable {c : Catalog} {now : Stamp}

theorem Provides.row {task : Task} (h : Provides c task) {d : Nat} (hd : task.discId = some d) :
    c.getDisc d ≠ none := by
  cases task with
  | reset => cases hd
  | add slot => cases hd
  | eject d' s => cases hd; exact h
  | return_ d' s => cases hd; exact h

variable (now) in
/-- The log takes an event of no disc, or of one that is there. -/
theorem log_recorded (kind : EventKind) {discId : Option Nat} (slot : Option Nat)
    (detail : Option String) (h : ∀ d, discId = some d → c.getDisc d ≠ none) :
    ∃ c', c.log kind discId slot detail now = .ok c' ∧
      (∃ e : Event, e.kind = kind ∧ c'.events = c.events ++ [e]) ∧ c'.discs = c.discs := by
  have hlog : ∃ c', c.log kind discId slot detail now = .ok c' := Catalog.log_ok h
  obtain ⟨c', hlog⟩ := hlog
  exact ⟨c', hlog, Catalog.log_event hlog, Catalog.log_discs hlog⟩

variable (now) in
theorem setStatus_recorded {d : Nat} {f : Disc → Disc} (hf : ∀ r, (f r).id = r.id)
    (kind : EventKind) (detail : Option String) (h : c.getDisc d ≠ none) :
    ∃ c', c.setStatus d f kind detail now = .ok c' ∧
      (∃ e : Event, e.kind = kind ∧ c'.events = c.events ++ [e]) ∧
      c'.discs = updateRow d f c.discs := by
  have hset : ∃ c', c.setStatus d f kind detail now = .ok c' := Catalog.setStatus_ok hf h
  obtain ⟨c', hset⟩ := hset
  exact ⟨c', hset, Catalog.setStatus_event hset, Catalog.setStatus_discs hset⟩

variable (now) in
theorem createDisc_recorded (slot : FormSlot) (title : String) (kind : EventKind)
    (h : c.getBySlot slot.val = none) :
    ∃ id c', c.createDisc slot.val title kind now = .ok (id, c') ∧
      (∃ e : Event, e.kind = kind ∧ c'.events = c.events ++ [e]) ∧
      ∃ row : Disc, row.slot = slot.val ∧ row.status = .stored ∧ c'.discs = c.discs ++ [row] := by
  have hcreate : ∃ id c', c.createDisc slot.val title kind now = .ok (id, c') :=
    Catalog.createDisc_ok h slot.low slot.high
  obtain ⟨id, c', hcreate⟩ := hcreate
  obtain ⟨row, hrow, _, hslot, hstored⟩ := Catalog.createDisc_row hcreate
  exact ⟨id, c', hcreate, Catalog.createDisc_event hcreate, row, hslot, hstored, hrow⟩

end Catalog

/-! ## Some work, and then the end -/

section EndsBy

variable {σ : Type}

/-- `m` is some work and then the change of the job that the work has answered. From `P` the work
leads to `Q`, which is told that change, or to `R`. -/
def EndsBy (P : World σ → Prop) (m : Py σ Unit) (Q : (Job → Job) → World σ → Prop)
    (R : Option Exc → World σ → Prop) : Prop :=
  ∃ work : Py σ (Job → Job), m = work >>= modifyJob ∧ Triple P work Q R

namespace EndsBy

variable {α : Type} {P : World σ → Prop} {Q : (Job → Job) → World σ → Prop}
  {R E : Option Exc → World σ → Prop}

theorem leaf {f : Job → Job} (h : ∀ w, P w → Q f w) : EndsBy P (modifyJob f) Q R :=
  ⟨pure f, rfl, Triple.pure h⟩

theorem bind {m : Py σ α} {k : α → Py σ Unit} {M : α → World σ → Prop} (hm : Triple P m M R)
    (hk : ∀ a, EndsBy (M a) (k a) Q R) : EndsBy P (m >>= k) Q R := by
  choose work heq hwork using hk
  refine ⟨m >>= work, ?_, hm.bind hwork⟩
  rw [bind_assoc]
  exact congrArg (m >>= ·) (funext heq)

theorem ite {c : Prop} [Decidable c] {m m' : Py σ Unit} (h : c → EndsBy P m Q R)
    (h' : ¬ c → EndsBy P m' Q R) : EndsBy P (if c then m else m') Q R := by
  split
  · exact h ‹_›
  · exact h' ‹_›

theorem pre {A : World σ → Prop} {m : Py σ Unit} (h : EndsBy A m Q R) (hP : ∀ w, P w → A w) :
    EndsBy P m Q R := by
  obtain ⟨work, heq, hwork⟩ := h
  exact ⟨work, heq, hwork.pre hP⟩

/-- Handlers that end the job, too. -/
theorem attempt {m : Py σ Unit} {h : Exc → Py σ Unit} (hm : EndsBy P m Q E)
    (hh : ∀ e, EndsBy (E (some e)) (h e) Q R) (hg : ∀ w, E none w → R none w) :
    EndsBy P (Prog.attempt m h) Q R := by
  obtain ⟨work, rfl, hwork⟩ := hm
  choose handle heq hhandle using hh
  refine ⟨Prog.attempt work handle, ?_, hwork.attempt hhandle hg⟩
  rw [funext heq]
  funext n w
  rw [bind_run]
  unfold Prog.attempt
  rw [bind_run]
  rcases work n w with ⟨f | e | _, w'⟩ <;> rfl

/-- A part of a flow whose `DeviceError`s end the job; what follows, `K`, knows of it. -/
theorem handled {m : Py σ α} {h : Exc → Py σ Unit} {k : α → Py σ Unit} {K : Option α → Py σ Unit}
    {M : α → World σ → Prop} (hsome : ∀ a, K (some a) = k a) (hnone : K none = pure ())
    (hm : Triple P m M E) (hh : ∀ e, EndsBy (E (some e)) (h e) Q R)
    (hk : ∀ a, EndsBy (M a) (k a) Q R) (hE : ∀ e w, E e w → R e w) :
    EndsBy P
      (exceptDeviceError (do let a ← m; pure (some a)) (fun e => do h e; pure none) >>= K) Q R := by
  choose handle hheq hhandle using hh
  choose work hkeq hwork using hk
  refine ⟨exceptDeviceError (do let a ← m; pure (Sum.inl a)) (fun e => do
      let f ← handle e
      pure (Sum.inr f)) >>= fun
    | .inl a => work a
    | .inr f => pure f, ?_, ?_⟩
  · rw [funext hheq]
    funext n w
    simp only [bind_run, exceptDeviceError, Prog.attempt]
    rcases m n w with ⟨a | e | _, w'⟩
    · show K (some a) n w' = _
      rw [hsome, hkeq]
      rfl
    · by_cases he : e.isDeviceError = true
      · simp only [he, if_true, bind_run]
        rcases handle e n w' with ⟨f | e' | _, w''⟩
        · exact congrFun (congrFun hnone n) _
        · rfl
        · rfl
      · simp only [he]
        rfl
    · rfl
  · refine Triple.bind (M := fun r w => match r with | .inl a => M a w | .inr f => Q f w) ?_ ?_
    · refine Triple.attempt (hm.bind fun a => Triple.pure fun _ => id) (fun e => ?_) (hE none)
      refine Triple.ite (fun _ => (hhandle e).bind fun f => Triple.pure fun _ => id) fun _ => ?_
      exact Triple.raise (hE (some e))
    · rintro (a | f)
      · exact hwork a
      · exact Triple.pure fun _ => id

end EndsBy

end EndsBy

/-! ## The job under way -/

section Flows

variable {σ : Type} [Outside σ] {J : σ → Prop} {c : Catalog} {now : Stamp} {task : Task}

/-- The job is this task, is open and has never been anything else. -/
structure Job.Live (task : Task) (j : Job) : Prop where
  discId : j.discId = task.discId
  slot : j.slot = task.slot
  done : j.done = false
  past : ∀ entry ∈ j.history, entry.1.terminal = false

theorem Job.Live.note {j : Job} (hj : j.Live task) (message : String) : (j.note message).Live task :=
  ⟨hj.discId, hj.slot, hj.done, hj.past⟩

theorem Job.Live.setPhase {j : Job} (hj : j.Live task) {p : Phase} (hp : p.terminal = false)
    (message : String) (deadline : Option Nat) : (j.setPhase p message deadline).Live task := by
  refine ⟨hj.discId, hj.slot, hp, fun entry hentry => ?_⟩
  rcases List.mem_append.mp hentry with hold | hnew
  · exact hj.past entry hold
  · cases List.mem_singleton.mp hnew
    exact hp

/-- The job is at work over a transport that does as `J` says. -/
structure AtWork (J : σ → Prop) (task : Task) (w : World σ) : Prop where
  io : J w.io
  job : w.job.Live task

/-- And nothing has been written. -/
def Pending (J : σ → Prop) (c : Catalog) (now : Stamp) (task : Task) (w : World σ) : Prop :=
  AtWork J task w ∧ Rests c now w.conn ∧ w.conn.isOpen = true

/-- And one event has been committed, whose kind `f` ends the job with. -/
def WrittenDown (J : σ → Prop) (c : Catalog) (now : Stamp) (task : Task) (f : Job → Job) (w : World σ) :
    Prop :=
  AtWork J task w ∧ ∃ kind phase, kind.ending = some phase ∧ (∀ j, (f j).phase = phase) ∧
    ∃ c', Audited c now task kind c' ∧ Rests c' now w.conn

/-- A flow that raises has not written. -/
def Raised (J : σ → Prop) (c : Catalog) (now : Stamp) (task : Task) (e : Option Exc) (w : World σ) :
    Prop :=
  e = none ∨ Pending J c now task w

omit [Outside σ] in
theorem atWork_connFree : ConnFree (AtWork J task) := fun _ _ hw =>
  ⟨hw.io, hw.job⟩

variable (h : RaisesOsError J)
include h

/-- The protocol keeps the job at work, and whatever is said of the address and the connection. -/
theorem atWork_kept (φ : Nat → Conn → Prop) :
    Kept (fun _ _ => True) (fun w => AtWork J task w ∧ φ w.ds.unit w.conn) where
  opens w hw := ⟨⟨h.opens w.io hw.1.io, hw.1.job⟩, hw.2⟩
  closes w hw := ⟨⟨h.closes w.io hw.1.io, hw.1.job⟩, hw.2⟩
  read t w hw := ⟨⟨h.read t w.io hw.1.io, hw.1.job⟩, hw.2⟩
  write unit msgid cmd args w hc hw := ⟨⟨h.write unit msgid cmd args w.io hc hw.1.io, hw.1.job⟩, hw.2⟩
  clock w hw := ⟨⟨h.clock w.io hw.1.io, hw.1.job⟩, hw.2⟩
  sleep ms w hw := ⟨⟨h.sleep ms w.io hw.1.io, hw.1.job⟩, hw.2⟩
  shut _ hw := ⟨⟨hw.1.io, hw.1.job⟩, hw.2⟩
  note message _ hw := ⟨⟨hw.1.io, hw.1.job.note message⟩, hw.2⟩
  trace _ _ hw := ⟨⟨hw.1.io, hw.1.job⟩, hw.2⟩
  answered _ _ _ _ _ hw := ⟨⟨hw.1.io, hw.1.job⟩, hw.2⟩
  word _ _ hw := ⟨⟨hw.1.io, hw.1.job⟩, hw.2⟩

/-- With a byte for the unit's address the protocol raises nothing but `DeviceError`s. -/
theorem atWork_civil (φ : Conn → Prop) :
    Civil (fun _ _ => True) J (fun w => AtWork J task w ∧ w.ds.unit ≤ 255 ∧ φ w.conn) where
  toKept := atWork_kept h fun unit conn => unit ≤ 255 ∧ φ conn
  tame _ hw := ⟨hw.1.io, hw.2.1⟩
  errors := h
  request := trivial

/-- A phase that is not terminal leaves the job open. -/
theorem atWork_setPhase (φ : Conn → Prop) {p : Phase} (hp : p.terminal = false) (message : String)
    (window_s : Option Nat) :
    Keeps (fun w => AtWork J task w ∧ φ w.conn) (setPhase p message window_s) := by
  refine Keeps.bind ?_ fun deadline => Keeps.bind (Keeps.modify fun w hw => ?_) fun _ =>
    keeps_ofOutside fun w hw => ?_
  · cases window_s with
    | none => exact Keeps.pure _
    | some window => exact (atWork_kept h fun _ => φ).keepsClock.bind fun _ => Keeps.pure _
  · exact ⟨⟨hw.1.io, hw.1.job.setPhase hp message deadline⟩, hw.2⟩
  · exact ⟨⟨h.phase p w.io hw.1.io, hw.1.job⟩, hw.2⟩

/-! ## The address -/

omit h in
/-- Only the handshake sets the address. -/
theorem address_kept (unit : Nat) : FlowKept (fun _ _ => True) (fun w : World σ => w.ds.unit = unit) where
  opens _ := id
  closes _ := id
  read _ _ := id
  write _ _ _ _ _ _ := id
  clock _ := id
  sleep _ _ := id
  shut _ := id
  answered _ _ _ _ _ := id
  note _ _ := id
  trace _ _ := id
  word _ _ := id
  job _ _ := id
  phase _ _ := id

omit h in
/-- A report that was made has a byte for its address. -/
theorem write_addresses (unit msgid cmd : Nat) (args : List Nat) :
    Triple (fun w : World σ => w.ds.unit = unit) (write msgid cmd args) (fun _ _ => unit ≤ 255)
      (fun _ _ => True) := by
  refine Triple.bind (M := fun ds _ => ds.unit = unit) (Triple.gets fun _ => id) fun ds => ?_
  refine Triple.bind (M := fun _ _ => ds.unit = unit)
    (Triple.raiseIf (fun _ _ _ => trivial) fun _ hw _ => hw) fun _ => ?_
  refine Triple.bind (M := fun _ _ => unit ≤ 255)
    (Triple.raiseIf (fun _ _ _ => trivial) fun w hw hb => ?_) fun _ => Triple.fact
  have := List.any_eq_false.mp hb ds.unit (by simp [reportBytes])
  rw [decide_eq_true_eq, Nat.not_lt] at this
  exact hw ▸ this

omit h in
theorem requireFrom_addresses (unit cmd : Nat) (args : List Nat) (tries left : Nat) :
    Triple (fun w : World σ => w.ds.unit = unit) (requireFrom cmd args tries left)
      (fun _ _ => unit ≤ 255) (fun _ _ => True) := by
  cases left with
  | zero => exact Triple.raise fun _ _ => trivial
  | succ left =>
    refine Triple.bind (M := fun _ _ => unit ≤ 255) ?_ fun _ => Triple.fact
    refine Triple.bind (((address_kept unit).keepsRead ackMs).conseq (fun _ => id) (fun _ _ => id)
      fun _ _ _ => trivial) fun seed => ?_
    cases seed with
    | none => exact Triple.raise fun _ _ => trivial
    | some seed => exact (write_addresses unit _ _ _).bind fun _ => Triple.fact

omit h in
theorem addIngest_addresses (unit : Nat) :
    Triple (fun w : World σ => w.ds.unit = unit) (addIngest (σ := σ))
      (fun _ w => unit ≤ 255 ∧ w.ds.unit = unit) (fun _ _ => True) := by
  have hk := address_kept (σ := σ) unit
  have hkeeps : Keeps (fun w : World σ => w.ds.unit = unit) (addIngest (σ := σ)) := by
    refine (hk.setPhase _ _ _).bind fun _ => (FlowKept.mark hk.trace _).bind fun _ => ?_
    refine (hk.ingest trivial trivial _).bind fun _ => (FlowKept.mark hk.trace _).bind fun _ => ?_
    exact (hk.setPhase _ _ _).bind fun _ => hk.park trivial trivial _
  have hbyte : Triple (fun w : World σ => w.ds.unit = unit) (addIngest (σ := σ))
      (fun _ _ => unit ≤ 255) (fun _ _ => True) := by
    refine Triple.bind ((hk.setPhase _ _ _).conseq (fun _ => id) (fun _ _ => id)
      fun _ _ _ => trivial) fun _ => ?_
    refine Triple.bind ((FlowKept.mark hk.trace _).conseq (fun _ => id) (fun _ _ => id)
      fun _ _ _ => trivial) fun _ => ?_
    refine Triple.bind (M := fun _ _ => unit ≤ 255) ?_ fun _ => Triple.fact
    have hbefore : ∀ {α : Type} {m : Py σ α}, Keeps (fun w : World σ => w.ds.unit = unit) m →
        Triple (fun w : World σ => w.ds.unit = unit) m (fun _ w => w.ds.unit = unit)
          (fun _ _ => True) := fun hm => hm.conseq (fun _ => id) (fun _ _ => id) fun _ _ _ => trivial
    refine Triple.bind (hbefore (hk.report _ _)) fun _ => ?_
    refine Triple.bind (hbefore (hk.idleOr trivial _)) fun _ => ?_
    refine Triple.bind (hbefore (hk.report _ _)) fun _ => ?_
    exact Triple.bind (requireFrom_addresses unit _ _ _ _) fun _ => Triple.fact
  exact (hbyte.and hkeeps).conseq (fun _ hw => ⟨hw, hw⟩) (fun _ _ => id) fun _ _ _ => trivial

/-! ## Before the write -/

omit [Outside σ] h in
theorem EndsBy.after {α : Type} {m : Py σ α} {k : α → Py σ Unit} (hm : Keeps (Pending J c now task) m)
    (hk : ∀ a, EndsBy (Pending J c now task) (k a) (WrittenDown J c now task) (Raised J c now task)) :
    EndsBy (Pending J c now task) (m >>= k) (WrittenDown J c now task) (Raised J c now task) :=
  EndsBy.bind (hm.conseq (fun _ => id) (fun _ _ => id) fun _ _ => .inr) hk

/-- What a flow does until it writes keeps the job pending. -/
theorem pending_moves : MethodRule (fun _ _ => True) (Pending J c now task) (fun _ => Pending J c now task) :=
  (atWork_kept h fun _ conn => Rests c now conn ∧ conn.isOpen = true).methods trivial

theorem pending_setPhase {p : Phase} (hp : p.terminal = false) (message : String)
    (window_s : Option Nat) : Keeps (Pending J c now task) (setPhase p message window_s) :=
  atWork_setPhase h (fun conn => Rests c now conn ∧ conn.isOpen = true) hp message window_s

omit [Outside σ] h in
theorem pending_mark (label : String) : Keeps (Pending J c now task) (mark label) :=
  Keeps.modify fun _ hw => ⟨⟨hw.1.io, hw.1.job⟩, hw.2⟩

theorem pending_moveTo (slot : Nat) (eject : Bool) (progress : Progress) :
    Keeps (Pending J c now task) (moveTo slot eject progress) :=
  (pending_moves h).moveTo (fun _ => trivial) trivial (fun _ _ _ => id) progress

theorem pending_park (progress : Progress) : Keeps (Pending J c now task) (park progress) :=
  (pending_moves h).park trivial progress

/-! ## The write and the end -/

omit [Outside σ] h in
/-- An event that leaves the rows alone. -/
theorem EndsBy.log {kind : EventKind} {phase : Phase} {f : Job → Job} {discId : Option Nat}
    (slot : Option Nat) (detail : Option String) (hkind : kind.ending = some phase)
    (hf : ∀ j, (f j).phase = phase) (htable : ∀ rows, TableAfter now task rows rows kind)
    (hrow : ∀ d, discId = some d → c.getDisc d ≠ none) :
    EndsBy (Pending J c now task) (do logEvent kind discId slot detail; commit; modifyJob f)
      (WrittenDown J c now task) (Raised J c now task) := by
  obtain ⟨c', hlog, hevent, hdiscs⟩ := log_recorded now kind slot detail hrow
  have haudited : Audited c now task kind c' := ⟨hevent, hdiscs ▸ htable c.discs⟩
  refine EndsBy.bind (M := fun _ w => AtWork J task w ∧ Sees c' c now w.conn) ?_ fun _ =>
    EndsBy.bind (M := fun _ w => AtWork J task w ∧ Rests c' now w.conn) ?_ fun _ => ?_
  · refine ((logEvent_sees kind discId slot detail).and
      (atWork_connFree.logEvent kind discId slot detail)).conseq
      (fun w hw => ⟨hw.2.1, hw.1⟩) ?_ ?_
    · rintro _ w ⟨⟨c₁, hc₁, hw⟩, hunder⟩
      cases hlog.symm.trans hc₁
      exact ⟨hunder, hw⟩
    · rintro _ w ⟨⟨exc, _, herr, _⟩, _⟩
      cases hlog.symm.trans herr
  · exact (commit_sees.and atWork_connFree.commit).conseq (fun w hw => ⟨hw.2, hw.1⟩)
      (fun _ w hw => ⟨hw.2, hw.1⟩) fun _ w hw => hw.1.elim
  · exact EndsBy.leaf fun w hw => ⟨hw.1, kind, phase, hkind, hf, c', haudited, hw.2⟩

/-- One event has been committed, of this kind, and the job is still open. -/
def Committed (J : σ → Prop) (c : Catalog) (now : Stamp) (task : Task) (kind : EventKind)
    {α : Type} (m : Py σ α) : Prop :=
  ∃ c', Audited c now task kind c' ∧ Triple (Pending J c now task) m
    (fun _ w => AtWork J task w ∧ Rests c' now w.conn) (Raised J c now task)

omit [Outside σ] h in
/-- A statement that goes through with its event. -/
theorem committed_of {α : Type} {m : Py σ α} {kind : EventKind} {c' : Catalog}
    {φ : α → Catalog → Prop} {ψ : Exc → Prop}
    (hm : Triple (fun w : World σ => Rests c now w.conn) m
      (fun a w => ∃ c₁, φ a c₁ ∧ Rests c₁ now w.conn)
      (fun e w => ∃ exc, e = some exc ∧ ψ exc ∧ Rests c now w.conn))
    (hwork : Keeps (AtWork J task) m) (haudited : Audited c now task kind c')
    (hok : ∀ a c₁, φ a c₁ → c₁ = c') (herr : ∀ exc, ¬ ψ exc) :
    Committed J c now task kind m := by
  refine ⟨c', haudited, (hm.and hwork).conseq (fun w hw => ⟨hw.2.1, hw.1⟩) ?_ ?_⟩
  · rintro a w ⟨⟨c₁, hc₁, hrests⟩, hw⟩
    exact ⟨hw, hok a c₁ hc₁ ▸ hrests⟩
  · rintro _ w ⟨⟨exc, _, hψ, _⟩, _⟩
    exact absurd hψ (herr exc)

variable (now) in
omit [Outside σ] h in
theorem markOut_committed {d s : Nat} (hrow : c.getDisc d ≠ none) :
    Committed J c now (.eject d s) .ejected (markOut (σ := σ) d .ejected none) := by
  obtain ⟨c', hset, hevent, hdiscs⟩ := setStatus_recorded now (d := d)
    (f := fun r => { r with status := .out, checkedOutAt := some now, updatedAt := now })
    (fun _ => rfl) .ejected none hrow
  refine committed_of (markOut_rests d .ejected none) (atWork_connFree.markOut _ _ _)
    ⟨hevent, d, rfl, hdiscs⟩ ?_ ?_
  · exact fun _ c₁ hc₁ => Except.ok.inj (hc₁.symm.trans hset)
  · exact fun exc herr => nomatch hset.symm.trans herr

variable (now) in
omit [Outside σ] h in
theorem markStored_committed {d s : Nat} (hrow : c.getDisc d ≠ none) :
    Committed J c now (.return_ d s) .returned (markStored (σ := σ) d .returned none) := by
  obtain ⟨c', hset, hevent, hdiscs⟩ := setStatus_recorded now (d := d)
    (f := fun r => { r with status := .stored, checkedOutAt := none, updatedAt := now })
    (fun _ => rfl) .returned none hrow
  refine committed_of (markStored_rests d .returned none) (atWork_connFree.markStored _ _ _)
    ⟨hevent, d, rfl, hdiscs⟩ ?_ ?_
  · exact fun _ c₁ hc₁ => Except.ok.inj (hc₁.symm.trans hset)
  · exact fun exc herr => nomatch hset.symm.trans herr

omit [Outside σ] h in
theorem createDisc_committed {slot : FormSlot} (title : String) (hfree : c.getBySlot slot.val = none) :
    Committed J c now (.add slot) .added (createDisc (σ := σ) slot.val title .added) := by
  obtain ⟨id, c', hcreate, hevent, row, hslot, hstored, hdiscs⟩ :=
    createDisc_recorded now slot title .added hfree
  refine committed_of (createDisc_rests slot.val title .added) (atWork_connFree.createDisc _ _ _)
    ⟨hevent, row, congrArg some hslot.symm, hstored, hdiscs⟩ ?_ ?_
  · exact fun _ c₁ hc₁ => (Prod.mk.inj (Except.ok.inj (hc₁.symm.trans hcreate))).2
  · exact fun exc herr => nomatch hcreate.symm.trans herr

omit [Outside σ] h in
/-- `get_disc`, which reads what was committed. -/
theorem getDisc_pending (d : Nat) :
    Triple (Pending J c now task) (getDisc d)
      (fun disc w => disc = c.getDisc d ∧ Pending J c now task w) (Raised J c now task) := by
  intro n w hw
  obtain ⟨hunder, hrests, hopen⟩ := hw
  unfold getDisc execute Prog.call
  dsimp only
  rw [hrests.faults, hrests.view, if_neg nofun]
  exact ⟨rfl, atWork_connFree _ _ hunder, ⟨hrests.faults, rfl, hrests.committed, hrests.now⟩, hopen⟩

/-! ## The flows -/

theorem runReset_ends : EndsBy (Pending J c now .reset) runReset (WrittenDown J c now .reset)
    (Raised J c now .reset) := by
  refine EndsBy.after (pending_setPhase h rfl _ _) fun _ => EndsBy.after ?_ fun _ => ?_
  · exact (pending_moves h).reset (fun _ _ => trivial) trivial trivial _
  · exact EndsBy.log none none rfl (fun _ => rfl) (fun _ => rfl) nofun

section Eject

variable {d s : Nat} (hrow : c.getDisc d ≠ none)
include hrow

theorem ejectFoundNothing_ends (slot : Nat) :
    EndsBy (Pending J c now (.eject d s)) (ejectFoundNothing d slot)
      (WrittenDown J c now (.eject d s)) (Raised J c now (.eject d s)) := by
  refine EndsBy.after (pending_setPhase h rfl _ _) fun _ => EndsBy.after (pending_mark _) fun _ => ?_
  refine EndsBy.after (pending_park h _) fun _ => ?_
  exact EndsBy.log _ _ rfl (fun _ => rfl) (fun _ => rfl) fun _ hd => Option.some.inj hd ▸ hrow

theorem ejectNotTaken_ends (slot : Nat) :
    EndsBy (Pending J c now (.eject d s)) (ejectNotTaken d slot)
      (WrittenDown J c now (.eject d s)) (Raised J c now (.eject d s)) := by
  have hlog : ∀ {kind detail error result}, kind.ending = some .failed →
      (∀ rows, TableAfter now (.eject d s) rows rows kind) →
      EndsBy (Pending J c now (.eject d s))
        (do logEvent kind (some d) (some slot) detail; commit; fail error result)
        (WrittenDown J c now (.eject d s)) (Raised J c now (.eject d s)) := fun hkind htable =>
    EndsBy.log _ _ hkind (fun _ => rfl) htable fun _ hd => Option.some.inj hd ▸ hrow
  refine EndsBy.after (pending_setPhase h rfl _ _) fun _ => EndsBy.after (pending_mark _) fun _ => ?_
  refine EndsBy.handled (E := fun _ => Pending J c now (.eject d s)) (k := ejectRetracted d slot)
    (fun _ => rfl) rfl ((pending_moves h).retract trivial _) (fun exc => ?_) (fun acked => ?_)
    fun _ _ => .inr
  · exact EndsBy.after (pending_mark _) fun _ => hlog rfl fun _ => rfl
  · refine EndsBy.after (pending_mark _) fun _ => EndsBy.after (pending_park h _) fun _ => ?_
    exact hlog rfl fun _ => rfl

theorem ejectTaken_ends (slot : Nat) (title : String) :
    EndsBy (Pending J c now (.eject d s)) (ejectTaken d slot title)
      (WrittenDown J c now (.eject d s)) (Raised J c now (.eject d s)) := by
  refine EndsBy.after (pending_setPhase h rfl _ _) fun _ => EndsBy.after (pending_mark _) fun _ => ?_
  obtain ⟨c', haudited, hwrite⟩ := markOut_committed (σ := σ) (J := J) now (s := s) hrow
  refine EndsBy.after (pending_park h _) fun _ => EndsBy.bind hwrite fun _ => ?_
  exact EndsBy.leaf fun w hw => ⟨hw.1, .ejected, .done, rfl, fun _ => rfl, c', haudited, hw.2⟩

theorem runEject_ends : EndsBy (Pending J c now (.eject d s)) (runEject d)
    (WrittenDown J c now (.eject d s)) (Raised J c now (.eject d s)) := by
  refine EndsBy.bind (getDisc_pending d) fun disc => ?_
  cases disc with
  | none => exact EndsBy.leaf fun w hw => absurd hw.1.symm hrow
  | some disc =>
    refine EndsBy.pre ?_ fun w hw => hw.2
    refine EndsBy.after (pending_setPhase h rfl _ _) fun _ => EndsBy.after (pending_mark _) fun _ => ?_
    refine EndsBy.after (pending_moveTo h _ _ _) fun _ => ?_
    refine EndsBy.after (pending_moves h).discInBay fun inBay => EndsBy.ite (fun _ => ?_) fun _ =>
      ejectFoundNothing_ends h hrow disc.slot
    refine EndsBy.after (pending_setPhase h rfl _ _) fun _ => EndsBy.after (pending_mark _) fun _ => ?_
    refine EndsBy.after ((pending_moves h).waitState _ _ _) fun taken => EndsBy.ite (fun _ => ?_) fun _ => ?_
    · exact ejectTaken_ends h hrow disc.slot disc.title
    · exact ejectNotTaken_ends h hrow disc.slot

end Eject

section Add

variable {slot : Nat} {discId : Option Nat}

theorem addIngest_pending : Keeps (Pending J c now task) (addIngest (σ := σ)) := by
  refine (pending_setPhase h rfl _ _).bind fun _ => (pending_mark _).bind fun _ => ?_
  refine Keeps.bind ((pending_moves h).ingest trivial _) fun _ => (pending_mark _).bind fun _ => ?_
  exact (pending_setPhase h rfl _ _).bind fun _ => pending_park h _

/-- A load that has fed a disc in has a byte for the unit's address. -/
theorem addIngest_addressed : Triple (Pending J c now task) (addIngest (σ := σ))
    (fun _ w => Pending J c now task w ∧ w.ds.unit ≤ 255) (Raised J c now task) := by
  refine Triple.of_each fun w₀ hw₀ => ?_
  have hkeeps : Keeps (Pending J c now task) (addIngest (σ := σ)) := addIngest_pending h
  refine (hkeeps.and (addIngest_addresses w₀.ds.unit)).conseq ?_ ?_ ?_
  · rintro _ rfl
    exact ⟨hw₀, rfl⟩
  · exact fun _ w hw => ⟨hw.1, hw.2.2 ▸ hw.2.1⟩
  · exact fun _ _ hw => .inr hw.1

/-- Once the row is written the job ends well: the watch does not raise. -/
theorem addFinish_ends {kind : EventKind} (hkind : kind.ending = some .done)
    (hwrite : Committed J c now task kind (writeRow (σ := σ) slot discId)) :
    EndsBy (fun w => Pending J c now task w ∧ w.ds.unit ≤ 255) (addFinish slot discId)
      (WrittenDown J c now task) (Raised J c now task) := by
  obtain ⟨c', haudited, hwrite⟩ := hwrite
  have hcatalogued : Triple (fun w => Pending J c now task w ∧ w.ds.unit ≤ 255)
      (catalogue (σ := σ) slot discId)
      (fun _ w => AtWork J task w ∧ w.ds.unit ≤ 255 ∧ Rests c' now w.conn) (Raised J c now task) := by
    have hds : Keeps (fun w : World σ => w.ds.unit ≤ 255) (writeRow (σ := σ) slot discId) := by
      have hfree : ConnFree fun w : World σ => w.ds.unit ≤ 255 := fun _ _ => id
      cases discId with
      | none => exact hfree.createDisc _ _ _
      | some d => exact (hfree.markStored _ _ _).bind fun _ => Keeps.pure d
    refine Triple.bind ((hwrite.and hds).conseq (fun _ => id)
      (fun _ w hw => (⟨hw.1.1, hw.2, hw.1.2⟩ : _ ∧ w.ds.unit ≤ 255 ∧ _)) fun _ _ hw => hw.1) fun row => ?_
    refine Triple.bind (M := fun _ w => AtWork J task w ∧ w.ds.unit ≤ 255 ∧ Rests c' now w.conn) ?_
      fun _ => Triple.pure fun _ => id
    exact triple_observe fun w hw => ⟨⟨hw.1.io, hw.1.job⟩, hw.2⟩
  have hwatch : Triple (fun w : World σ => AtWork J task w ∧ w.ds.unit ≤ 255 ∧ Rests c' now w.conn)
      watch (fun _ w => AtWork J task w ∧ Rests c' now w.conn) (Raised J c now task) :=
    (atWork_civil h fun conn => Rests c' now conn).watchCivil.conseq (fun _ => id)
      (fun _ _ hw => ⟨hw.1, hw.2.2⟩) fun _ _ => .inl
  have hend : ∀ f : Job → Job, (∀ j, (f j).phase = .done) →
      EndsBy (fun w : World σ => AtWork J task w ∧ Rests c' now w.conn) (modifyJob f)
        (WrittenDown J c now task) (Raised J c now task) := fun f hf =>
    EndsBy.leaf fun w hw => ⟨hw.1, kind, .done, hkind, hf, c', haudited, hw.2⟩
  refine EndsBy.bind hcatalogued fun id => EndsBy.bind hwatch fun _ => ?_
  cases discId with
  | none => exact hend _ fun _ => rfl
  | some d =>
    refine EndsBy.bind (M := fun _ w => AtWork J task w ∧ Rests c' now w.conn) ?_ fun disc =>
      hend _ fun _ => rfl
    refine ((execute_sees _).and (atWork_connFree.execute _)).conseq (fun _ hw => ⟨hw.2, hw.1⟩) ?_ ?_
    · rintro _ w ⟨⟨v, hv, hsees⟩, hw⟩
      cases hv
      exact ⟨hw, hsees⟩
    · rintro _ w ⟨⟨exc, _, herr, _⟩, _⟩
      cases herr

theorem runAdd_ends (kind : EventKind) (hkind : kind.ending = some .done)
    (hwrite : Committed J c now task kind (writeRow (σ := σ) slot discId))
    (hrow : ∀ d, discId = some d → c.getDisc d ≠ none) :
    EndsBy (Pending J c now task) (runAdd slot discId) (WrittenDown J c now task)
      (Raised J c now task) := by
  refine EndsBy.after (pending_setPhase h rfl _ _) fun _ => EndsBy.after (pending_mark _) fun _ => ?_
  refine EndsBy.after (pending_moveTo h _ _ _) fun _ => ?_
  refine EndsBy.after (pending_setPhase h rfl _ _) fun _ => EndsBy.after (pending_mark _) fun _ => ?_
  refine EndsBy.after ((pending_moves h).waitState _ _ _) fun inserted =>
    EndsBy.ite (fun _ => ?_) fun _ => ?_
  · exact EndsBy.bind (addIngest_addressed h) fun _ => addFinish_ends h hkind hwrite
  · refine EndsBy.after (pending_setPhase h rfl _ _) fun _ => EndsBy.after (pending_park h _) fun _ => ?_
    exact EndsBy.log _ _ rfl (fun _ => rfl) (fun _ => rfl) hrow

end Add

/-- A flow that has its row, or a free slot, ends with one event, or raises before it has written. -/
theorem flow_ends (hprovides : Provides c task) :
    EndsBy (Pending J c now task) task.flow.run (WrittenDown J c now task) (Raised J c now task) := by
  cases task with
  | reset => exact runReset_ends h
  | eject d s => exact runEject_ends h hprovides
  | return_ d slot =>
    refine runAdd_ends h .returned rfl ?_ fun _ hd => Option.some.inj hd ▸ hprovides
    obtain ⟨c', haudited, hwrite⟩ :=
      markStored_committed (σ := σ) (J := J) now (s := slot) hprovides
    exact ⟨c', haudited, hwrite.bind fun _ => Triple.pure fun _ => id⟩
  | add slot => exact runAdd_ends h .added rfl (createDisc_committed _ hprovides) nofun

/-! ## The failure handler -/

variable (now) in
omit [Outside σ] h in
theorem logFailure_committed (exc : Exc) (hrow : ∀ d, task.discId = some d → c.getDisc d ≠ none) :
    ∃ c', Audited c now task .failed c' ∧ Triple (Pending J c now task) (logFailure (σ := σ) exc)
      (fun _ w => AtWork J task w ∧ Rests c' now w.conn) NoRaise := by
  obtain ⟨c', hlog, hevent, hdiscs⟩ :=
    log_recorded now .failed task.slot (some exc.text) hrow
  refine ⟨c', ⟨hevent, hdiscs⟩, ?_⟩
  refine Triple.bind (M := fun w₀ w => (w₀.job.discId = task.discId ∧ w₀.job.slot = task.slot ∧
    w₀.conn.isOpen = true) ∧ Pending J c now task w)
    (Triple.gets fun w hw => ⟨⟨hw.1.job.discId, hw.1.job.slot, hw.2.2⟩, hw⟩) fun w₀ => Triple.of_fact ?_
  rintro ⟨hdisc, hslot, hopen⟩
  rw [hdisc, hslot, hopen]
  refine Triple.attempt (E := NoRaise) ?_ (fun e => ?_) fun _ => id
  · refine Triple.bind (M := fun _ w => AtWork J task w ∧ Rests c now w.conn) ?_ fun _ =>
      Triple.bind (M := fun _ w => AtWork J task w ∧ Sees c' c now w.conn) ?_ fun _ => ?_
    · exact (rollback_sees.and atWork_connFree.rollback).conseq (fun _ hw => ⟨hw.2.1, hw.1⟩)
        (fun _ _ hw => ⟨hw.2, hw.1⟩) fun _ _ hw => hw.1.elim
    · refine ((logEvent_sees .failed task.discId task.slot (some exc.text)).and
        (atWork_connFree.logEvent _ _ _ _)).conseq (fun _ hw => ⟨hw.2, hw.1⟩) ?_ ?_
      · rintro _ w ⟨⟨c₁, hc₁, hw⟩, hwork⟩
        cases hlog.symm.trans hc₁
        exact ⟨hwork, hw⟩
      · rintro _ w ⟨⟨exc', _, herr, _⟩, _⟩
        cases hlog.symm.trans herr
    · exact (commit_sees.and atWork_connFree.commit).conseq (fun _ hw => ⟨hw.2, hw.1⟩)
        (fun _ _ hw => ⟨hw.2, hw.1⟩) fun _ _ hw => hw.1.elim
  · exact Triple.ite (fun _ => Triple.pure fun _ hw => nomatch hw) fun _ => Triple.raise fun _ => id

omit [Outside σ] h in
/-- What escapes a flow is written down as a failure. -/
theorem reportFailure_ends (exc : Exc) (hrow : ∀ d, task.discId = some d → c.getDisc d ≠ none) :
    EndsBy (Pending J c now task) (reportFailure exc) (WrittenDown J c now task) NoRaise := by
  obtain ⟨c', haudited, hlog⟩ := logFailure_committed (σ := σ) (J := J) now exc hrow
  have hend : ∀ error, EndsBy (fun w : World σ => AtWork J task w ∧ Rests c' now w.conn)
      (fail error {}) (WrittenDown J c now task) NoRaise := fun error =>
    EndsBy.leaf fun w hw => ⟨hw.1, .failed, .failed, rfl, fun _ => rfl, c', haudited, hw.2⟩
  refine EndsBy.bind hlog fun _ => ?_
  cases exc <;> exact hend _

end Flows

/-! ## The law -/

section Law

variable {σ : Type} [Outside σ] {J : σ → Prop} {c : Catalog} {now : Stamp} {task : Task}

omit [Outside σ] in
/-- `_run_owned` up to `self._ds.open()`. -/
def World.claimed (traced : Bool) (w : World σ) : World σ := { w with
  trace := ⟨traced, none, []⟩
  conn := { w.conn with isOpen := false, view := w.conn.committed, executed := 0 } }

/-- `_run_owned` from the moment `self._ds.open()` has returned. -/
def ownedOpened (runner : Py σ Unit) : Py σ Unit :=
  Prog.ensure
    (Prog.attempt
      (do
        modifyDs fun ds => { ds with tracing := true }
        connect
        runner)
      reportFailure)
    ownedFinally

theorem runOwned_opened {traced : Bool} {runner : Py σ Unit} {n : Nat} {w w₁ : World σ}
    (hopen : openUnit n (w.claimed traced) = (.ok (), w₁)) :
    runOwned traced runner n w = ownedOpened runner n w₁ := by
  have hbody : ownedBody runner n (w.claimed traced) =
      (do modifyDs fun ds => { ds with tracing := true }; connect; runner : Py σ Unit) n w₁ :=
    bind_of_ok hopen
  show Prog.ensure (Prog.attempt (ownedBody runner) reportFailure) ownedFinally n (w.claimed traced) = _
  unfold ownedOpened Prog.ensure Prog.attempt
  rw [hbody]

omit [Outside σ] in
theorem connect_pending :
    Triple (fun w : World σ => AtWork J task w ∧ Rests c now w.conn) connect
      (fun _ => Pending J c now task) (fun _ _ => False) := by
  have pragma : Triple (fun w : World σ => AtWork J task w ∧ Rests c now w.conn)
      (execute fun c => .ok ((), c)) (fun _ w => AtWork J task w ∧ Rests c now w.conn)
      (fun _ _ => False) := by
    refine ((execute_sees _).and (atWork_connFree.execute _)).conseq (fun _ hw => ⟨hw.2, hw.1⟩) ?_ ?_
    · rintro _ w ⟨⟨v, hv, hsees⟩, hw⟩
      cases hv
      exact ⟨hw, hsees⟩
    · rintro _ w ⟨⟨exc, _, herr, _⟩, _⟩
      cases herr
  refine pragma.bind fun _ => pragma.bind fun _ => Triple.modify fun w hw => ?_
  exact ⟨⟨hw.1.io, hw.1.job⟩, ⟨hw.2.faults, hw.2.view, hw.2.committed, hw.2.now⟩, rfl⟩

variable (now) in
/-- The whole of the job from there is some work and then one change of the job. -/
theorem ownedOpened_ends (h : RaisesOsError J) (hprovides : Provides c task) :
    EndsBy (fun w : World σ => AtWork J task w ∧ Rests c now w.conn)
      (Prog.attempt
        (do
          modifyDs fun ds => { ds with tracing := true }
          connect
          task.flow.run)
        reportFailure)
      (WrittenDown J c now task) NoRaise := by
  refine EndsBy.attempt (E := Raised J c now task) ?_ (fun e => ?_) fun _ _ => rfl
  · refine EndsBy.bind (M := fun _ w => AtWork J task w ∧ Rests c now w.conn)
      (triple_modifyDs fun w hw => ⟨⟨hw.1.io, hw.1.job⟩, hw.2⟩) fun _ => ?_
    refine EndsBy.bind (connect_pending.conseq (fun _ => id) (fun _ _ => id) fun _ _ => False.elim)
      fun _ => flow_ends h hprovides
  · refine EndsBy.pre (reportFailure_ends e fun _ hd => hprovides.row hd) fun w hw => ?_
    exact hw.resolve_left nofun

omit [Outside σ] in
/-- The `finally` finds the job ended and leaves it and the tables. -/
theorem ownedFinally_ended {phase : Phase} (hphase : phase.terminal = true) {committed : Catalog} :
    Triple (fun w : World σ => w.job.phase = phase ∧ w.conn.committed = committed) ownedFinally
      (fun _ w => w.job.phase = phase ∧ w.conn.committed = committed) (fun _ _ => False) := by
  refine Triple.bind (M := fun _ w => w.job.phase = phase ∧ w.conn.committed = committed)
    (triple_modifyDs fun _ => id) fun _ => ?_
  refine Triple.bind (M := fun _ w => w.job.phase = phase ∧ w.conn.committed = committed)
    (triple_modifyTrace fun _ => id) fun _ => ?_
  refine Triple.bind (M := fun _ w => w.job.phase = phase ∧ w.conn.committed = committed)
    (Triple.modify fun _ => id) fun _ => ?_
  refine Triple.bind (M := fun done w => done = true ∧ w.job.phase = phase ∧
    w.conn.committed = committed) (Triple.gets fun w hw => ⟨?_, hw⟩) fun done => ?_
  · rw [Job.done, hw.1, hphase]
  · refine Triple.of_fact ?_
    rintro rfl
    exact Triple.pure fun _ => id

theorem EventKind.ending_terminal {kind : EventKind} {phase : Phase} (h : kind.ending = some phase) :
    phase.terminal = true := by
  cases kind <;> cases h <;> rfl

/-- How the job's last part went: `work` had written the event down while the job was open, and the
change `f` of the job that it answered is all that was left. -/
structure Concludes (task : Task) (n : Nat) (w₁ w' : World σ) (work : Py σ (Job → Job)) : Prop where
  cut : ownedOpened task.flow.run = Prog.ensure (work >>= modifyJob) ownedFinally
  ran : ∃ f w₂, work n w₁ = (.ok f, w₂) ∧ w₂.job.Live task ∧
    w₂.conn.committed = w'.conn.committed ∧ w'.job.phase = (f w₂.job).phase

/-- **The audit trail records each job once and agrees with the catalogue**, whatever the unit does
once it is open, on a database that works and has the job's row or a free slot: one event is
committed while the job is still open, its kind says how the job ends, and the rows are what it
says. -/
theorem audit_trail (h : RaisesOsError J) (task : Task) (title : String) (traced : Bool) {n : Nat}
    {w w₁ w' : World σ} (hio : J w.io) (hworks : ∀ k, w.conn.faults k = false)
    (hprovides : Provides w.conn.committed task)
    (hopen : openUnit n ((w.start (Job.new title task.discId task.slot)).claimed traced) = (.ok (), w₁))
    (hrun : runOwned traced task.flow.run n (w.start (Job.new title task.discId task.slot)) = (.ok (), w')) :
    ∃ kind, kind.ending = some w'.job.phase ∧
      Audited w.conn.committed w.conn.now task kind w'.conn.committed ∧
      ∃ work, Concludes task n w₁ w' work := by
  have hopened : AtWork J task w₁ ∧ Rests w.conn.committed w.conn.now w₁.conn := by
    have hkept : Kept (fun _ _ => True) fun v : World σ => AtWork J task v ∧
        Rests w.conn.committed w.conn.now v.conn := atWork_kept h fun _ => Rests w.conn.committed w.conn.now
    refine (hkept.openUnit (fun _ _ => trivial) fun _ _ hw => ⟨⟨hw.1.io, hw.1.job⟩, hw.2⟩).of_ok ?_ hopen
    refine ⟨⟨hio, rfl, rfl, rfl, fun entry hentry => ?_⟩, hworks, rfl, rfl, rfl⟩
    cases List.mem_singleton.mp hentry
    rfl
  obtain ⟨work, hwork, htriple⟩ := ownedOpened_ends w.conn.now h hprovides
  have hcut : ownedOpened task.flow.run = Prog.ensure (work >>= modifyJob) ownedFinally := by
    rw [← hwork]
    rfl
  rw [runOwned_opened hopen, hcut] at hrun
  have hw₁ := htriple n w₁ hopened
  unfold Prog.ensure at hrun
  rw [bind_run] at hrun
  rcases hran : work n w₁ with ⟨f | e | _, w₂⟩ <;> rw [hran] at hw₁ hrun
  · obtain ⟨hat, kind, phase, hkind, hf, c', haudited, hrests⟩ := hw₁
    obtain ⟨_, w₃, hfinal, hlast⟩ := bind_eq_ok.mp hrun
    cases hlast
    have hended : w'.job.phase = phase ∧ w'.conn.committed = c' := by
      refine (ownedFinally_ended (EventKind.ending_terminal hkind)).of_ok ?_ hfinal
      exact ⟨hf w₂.job, hrests.committed⟩
    refine ⟨kind, hended.1 ▸ hkind, hended.2 ▸ haudited, work, hcut, f, w₂, hran, hat.job, ?_, ?_⟩
    · rw [hrests.committed, hended.2]
    · rw [hended.1, hf]
  · cases hw₁
  · cases hrun

end Law

/-- The load to slot 1 that is cut off while the carousel takes the disc in. -/
def cutOffLoad : World Faulty := (World.boot failingIngest []).start (Job.new "" none (some 1))

theorem audit_trail_cutOff : ∃ kind, kind.ending = some failingIngestAdded.2.job.phase ∧
    Audited ⟨[], []⟩ 0 (.add ⟨1, by decide, by decide⟩) kind failingIngestAdded.2.conn.committed ∧
    ∃ work, Concludes (.add ⟨1, by decide, by decide⟩) 200
      (openUnit 200 (cutOffLoad.claimed false)).2 failingIngestAdded.2 work := by
  have hrun : runOwned false (runAdd 1 none) 200 cutOffLoad = failingIngestAdded := by
    unfold failingIngestAdded
    exact Eq.refl _
  have hok : failingIngestAdded.1 = .ok () := by decide +kernel
  have hopen : (openUnit 200 (cutOffLoad.claimed false)).1 = .ok () := by decide +kernel
  have hlatched : (World.boot failingIngest []).io.Latched := nofun
  exact audit_trail Faulty.raises_latched (.add ⟨1, by decide, by decide⟩) "" false hlatched
    (fun _ => rfl) rfl (Prog.run_eq hopen) (hrun.trans (Prog.run_eq hok))

end StakkaWeb
