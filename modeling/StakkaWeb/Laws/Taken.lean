import StakkaWeb.Laws.Catalog
import StakkaWeb.Laws.Unseen
import StakkaWeb.Laws.Visits

/-!
# A disc taken by hand

A hand takes the disc at a time that is set before the eject begins. Until then nothing comes out
otherwise for it, so that the move ends as it would without. From the reading of the bay to the last
poll of `wait_for_take` the take is seen, and recorded. The times at which the job showed its phases
say when that was.
-/

set_option autoImplicit false

namespace StakkaWeb

open Lib Lib.Prog

/-! ## When the job asked for the disc -/

namespace Sim

/-- The disc was asked for only at times of which `φ` holds. -/
def PromptedAt (φ : Nat → Prop) (s : Sim) : Prop := ∀ t, (.presented, t) ∈ s.prompts → φ t

/-- It is `t` or later, and the disc was not asked for before. -/
def Late (t : Nat) (s : Sim) : Prop := t ≤ s.car.now ∧ s.PromptedAt (t ≤ ·)

theorem opens_prompts (s : Sim) : s.opens.2.prompts = s.prompts := by
  unfold opens
  split_ifs <;> rfl

theorem opens_car (s : Sim) : s.opens.2.car = s.car := by
  unfold opens
  split_ifs <;> rfl

theorem read_prompts (timeoutMs : Nat) (s : Sim) : (s.read timeoutMs).2.prompts = s.prompts := by
  unfold read
  dsimp only
  repeat' split
  all_goals rfl

theorem write_prompts (buf : List Nat) (s : Sim) : (s.write buf).2.prompts = s.prompts := by
  unfold write deliver
  dsimp only
  repeat' split
  all_goals rfl

theorem PromptedAt.congr {φ : Nat → Prop} {s s' : Sim} (h : s.PromptedAt φ)
    (hprompts : s'.prompts = s.prompts) : s'.PromptedAt φ := by
  intro t ht
  rw [hprompts] at ht
  exact h t ht

/-- No call of the transport shows a phase. -/
theorem promptedAt_stable (φ : Nat → Prop) : Stable (fun _ _ => True) (PromptedAt φ) where
  opens s h := h.congr s.opens_prompts
  closes _ h := h
  read t s h := h.congr (read_prompts t s)
  write _ _ _ _ s _ h := h.congr (write_prompts _ s)
  clock _ h := h
  sleep _ _ h := h

theorem late_stable (t : Nat) : Stable (fun _ _ => True) (Late t) where
  opens s h := ⟨by rw [show (Outside.opens s).2.car = s.car from s.opens_car]; exact h.1,
    h.2.congr s.opens_prompts⟩
  closes _ h := h
  read timeoutMs s h := ⟨Nat.le_trans h.1 (read_now timeoutMs s), h.2.congr (read_prompts timeoutMs s)⟩
  write _ _ _ _ s _ h :=
    ⟨Nat.le_trans h.1 (Nat.le_of_eq (write_now _ s).symm), h.2.congr (write_prompts _ s)⟩
  clock _ h := h
  sleep ms s h := ⟨Nat.le_add_right_of_le h.1, h.2⟩

/-- A phase that is shown: the disc is asked for now, if it is the one that asks. -/
theorem PromptedAt.show_ {φ : Nat → Prop} {s : Sim} (h : s.PromptedAt φ) {p : Phase}
    (hp : p = .presented → φ s.car.now) : (s.show_ p).PromptedAt φ := by
  intro t ht
  rcases List.mem_cons.mp ht with heq | ht
  · obtain ⟨hphase, rfl⟩ := Prod.mk.inj heq
    exact hp hphase.symm
  · exact h t ht

end Sim

/-- Later phases come later. -/
theorem late_kept (t : Nat) : FlowKept (fun _ _ => True) fun w : World Sim => w.io.Late t where
  toKept := (Sim.late_stable t).kept
  job _ _ h := h
  phase _ _ h := ⟨Nat.le_trans h.1 (Nat.le_of_eq (Sim.feed_now _ _).symm), h.2.show_ fun _ => h.1⟩

theorem promptedAt_kept (φ : Nat → Prop) :
    Kept (fun _ _ => True) fun w : World Sim => w.io.PromptedAt φ :=
  (Sim.promptedAt_stable φ).kept

/-- A phase at which the disc may be asked for. -/
theorem promptedAt_setPhase {φ : Nat → Prop} {p : Phase} (message : String) (window_s : Option Nat)
    {R : Option Exc → World Sim → Prop} :
    Triple (fun w : World Sim => w.io.PromptedAt φ ∧ (p = .presented → φ w.io.car.now))
      (setPhase p message window_s) (fun _ w => w.io.PromptedAt φ) R := by
  let Fits : World Sim → Prop := fun w => w.io.PromptedAt φ ∧ (p = .presented → φ w.io.car.now)
  have hdeadline : Triple Fits (deadlineIn (σ := Sim) window_s) (fun _ => Fits) R := by
    cases window_s with
    | none => exact Triple.pure fun _ => id
    | some window => exact Goes.bind (triple_clock fun _ hw => hw) fun _ => Triple.pure fun _ => id
  have hjob : ∀ f, Triple Fits (modifyJob (σ := Sim) f) (fun _ => Fits) R := fun f =>
    triple_modifyJob fun _ hw => hw
  exact hdeadline.bind fun _ => (hjob _).bind fun _ => triple_cue fun w hw => hw.1.show_ hw.2

/-- No other phase asks for it. -/
theorem promptedAt_phase {φ : Nat → Prop} {p : Phase} (hp : p ≠ .presented) (message : String)
    (window_s : Option Nat) : Keeps (fun w : World Sim => w.io.PromptedAt φ) (setPhase p message window_s) :=
  (promptedAt_setPhase message window_s).pre fun _ hw => ⟨hw, fun h => absurd h hp⟩

/-! ## A hand on its way -/

section Rules

variable {g : Bool} {h : Hands} {K : Nat → Prop} {since T : Nat} {s : Stage}

/-- With nothing else pending, what is on its way is what is pending. -/
theorem Carousel.Fits.adds {c : Carousel} (hc : c.Fits K since s) (hpending : s.pending = [])
    {a : Agenda CarouselEvent} (ha : c.events.Adds (T, .taken) a) :
    ({ c with events := a } : Carousel).Fits K since { s with pending := [(T, .taken)] } := by
  obtain ⟨rfl, hlapses, hsince⟩ := hc
  refine ⟨Stage.ext rfl rfl rfl rfl rfl rfl rfl rfl rfl ?_, fun x hx hack => ?_, hsince⟩
  · obtain ⟨front, back, hfront, hback⟩ := ha
    have hnone : (front ++ back).filter (fun x => c.lively x.2) = [] := hfront ▸ hpending
    rw [List.filter_append, List.append_eq_nil_iff] at hnone
    show a.entries.filter (fun x => c.lively x.2) = _
    rw [hback, List.filter_append, hnone.1, List.filter_cons_of_pos rfl, hnone.2]
    rfl
  · rcases ha.mem.mp hx with rfl | hx
    · cases hack
    · exact hlapses x hx hack

variable {P P' : Carousel → Prop} {x : Nat × CarouselEvent}

theorem on_adds {w v : World Sim} (hw : On g h P w) (hadds : Adds x w v)
    (hP : ∀ c a, P c → c.events.Adds x a → P' { c with events := a }) : On g h P' v := by
  obtain ⟨_, ⟨_, a, ha, rfl⟩, rfl⟩ := hadds
  obtain ⟨⟨⟨⟨raw, hlinked⟩, haddress⟩, hhands, hunstirred, htolerable⟩, hcar⟩ := hw
  refine ⟨⟨⟨⟨raw, ?_⟩, haddress⟩, hhands, hunstirred, fun hg => (htolerable hg).congr rfl rfl⟩,
    hP _ _ hcar ha⟩
  exact ⟨hlinked.isOpen, hlinked.unit, hlinked.streams.opened, hlinked.streams.present,
    hlinked.streams.latched, hlinked.streams.long⟩

/-- The run without the hand. -/
theorem adds_of_on {v : World Sim} (hv : On g h (fun d => ∃ c, P c ∧ Carousel.Adds x c d) v) :
    ∃ w, Adds x w v ∧ On g h P w := by
  obtain ⟨⟨⟨⟨raw, hlinked⟩, haddress⟩, hhands, hunstirred, htolerable⟩, c, hc, a, ha, hcar⟩ := hv
  obtain ⟨io, ds, job, trace, conn, obs⟩ := v
  obtain ⟨car, present, opened, failOpens, latched, msgid, hands, calls, prompts⟩ := io
  obtain rfl : car = { c with events := a } := hcar
  refine ⟨⟨⟨c, present, opened, failOpens, latched, msgid, hands, calls, prompts⟩, ds, job, trace, conn,
    obs⟩, ⟨_, ⟨hunstirred, a, ha, rfl⟩, rfl⟩, ⟨⟨⟨raw, ?_⟩, haddress⟩, hhands, hunstirred, fun hg =>
      (htolerable hg).congr rfl rfl⟩, hc⟩
  exact ⟨hlinked.isOpen, hlinked.unit, hlinked.streams.opened, hlinked.streams.present,
    hlinked.streams.latched, hlinked.streams.long⟩

/-- The unit rests at `s`, and what is in the bay will be taken at `T`. -/
def Stage.Awaits (K : Nat → Prop) (since T : Nat) (s : Stage) (c : Carousel) : Prop :=
  ∃ b ≤ c.now, c.Fits K since { s with busyUntil := b, pending := [(T, .taken)] }

/-- **A move with a hand on its way** ends as without, or the hand has acted. -/
theorem moveTo_awaits (hpending : s.pending = []) (hbay : s.bay = false) (hposition : s.position ≤ 255)
    {slot : Nat} (hslot : slot ≤ slotMax) (eject : Bool) (progress : Progress) :
    Triple (On g h fun d => ∃ c, (c.Fits K since s ∧ s.busyUntil ≤ c.now + 29757) ∧
        Carousel.Adds (T, .taken) c d)
      (moveTo slot eject progress)
      (fun _ v => Past T v ∨ On g h (fun c => (s.docked slot
        (eject && decide (slot ∈ s.occupied))).Awaits K since T c ∧ c.now < T) v)
      fun _ _ => True := by
  refine ((unseen_moveTo (x := (T, .taken)) slot eject progress).triple
    (moveTo_mild hpending hbay hposition hslot eject progress)).conseq (fun v hv => adds_of_on hv)
    (fun _ v hv => ?_) fun _ _ _ => trivial
  by_cases hpast : Past T v
  · exact .inl hpast
  · obtain ⟨w, hadds, hw⟩ := hv.resolve_left hpast
    have hon : On g h ((s.docked slot (eject && decide (slot ∈ s.occupied))).Awaits K since T) v :=
      on_adds hw hadds fun c a ⟨b, hb, hc⟩ ha => ⟨b, hb, hc.adds hpending ha⟩
    exact .inr ⟨hon.1, hon.2, Nat.lt_of_not_le hpast⟩

/-! ## The reading of the bay -/

theorem status_on :
    Triple (On g h P) status (fun st => On g h fun d => ∃ c, P c ∧
      st = (c.wait Firmware.repeatMs).status ∧ d = c.polled) NoRaise := by
  refine on_of_traced fun b => status_traced.post ?_
  rintro st w ⟨c, hc, hst, hw⟩
  exact hw.imp fun d hd => ⟨c, hc, hst, hd⟩

/-- **The reading of the bay**: it shows the disc when the hand comes later, and the hand may then
act before the reply is read. -/
theorem discInBay_awaits (hbay : s.bay = true) :
    Triple (On g h fun c => s.Awaits K since T c ∧ c.now < T) discInBay
      (fun inBay => On g h fun c => (inBay = true ↔ c.now < T + pollMs) ∧ ∃ b ≤ c.now,
        Expects K since { s with busyUntil := b, pending := [(T, .taken)] } c.now T c) NoRaise := by
  have hpoll : pollMs = 100 := rfl
  refine status_on.bind fun st => Triple.pure fun w hw => hw.imp ?_
  rintro _ ⟨c, ⟨⟨b, hb, hc⟩, hbefore⟩, rfl, rfl⟩
  have hnow : (c.wait Firmware.repeatMs).asked.now = c.now + Firmware.repeatMs := c.wait_now _
  have hreads : ∀ bay, (c.wait Firmware.repeatMs).discInBay = bay →
      (decide ((c.wait Firmware.repeatMs).status &&& stDiscInBay ≠ 0) = true ↔ bay = true) := by
    rintro bay rfl
    rw [decide_eq_true_eq, Ne, Carousel.status_bay, Bool.not_eq_false]
  rw [Carousel.polled_now]
  rcases hc.takes rfl Firmware.repeatMs with ⟨hc, hlt⟩ | ⟨hle, hc⟩
  · refine ⟨(hreads true ((congrArg Stage.bay hc.stage).trans hbay)).trans (iff_of_true rfl (by omega)), b,
      by omega, 0, (c.polled_now).trans (by omega), ?_⟩
    rw [Carousel.polled_now]
    rcases hc.asked.takes rfl pollMs with ⟨hc, hlt⟩ | ⟨hle, hc⟩
    · exact .inl ⟨hc, by omega⟩
    · exact .inr ⟨_, hle, by omega, hc⟩
  · refine ⟨(hreads false (congrArg Stage.bay hc.stage)).trans
      (iff_of_false Bool.noConfusion (by omega)), b,
      by omega, 0, (c.polled_now).trans (by omega), .inr ⟨_, hle, ?_, hc.asked.still rfl pollMs⟩⟩
    rw [Carousel.polled_now]
    omega

/-- A read that comes back leaves the clock later by a poll at least. -/
theorem read_late :
    Triple (fun w => Past T w ∧ w.io.PromptedAt fun _ => False) (read ackMs)
      (fun _ w => w.io.Late (T + pollMs)) fun _ _ => True := by
  let Before : World Sim → Prop := fun w => Past T w ∧ w.io.PromptedAt fun _ => False
  refine Triple.bind (M := fun _ => Before) (Triple.gets fun _ => id) fun _ => ?_
  refine Triple.bind (M := fun _ => Before) (Triple.raiseIf (fun _ _ _ => trivial) fun _ hw _ => hw)
    fun _ => ?_
  refine Triple.bind (M := fun _ w => w.io.Late (T + pollMs)) ?_ fun raw =>
    Goes.ite (Goes.pure _) (Goes.ite (Triple.raise fun _ _ => trivial) (Goes.pure _))
  refine triple_orNotConnected (J := fun _ => True) (fun _ => id) (triple_onOutside ?_ ?_) _
  · rintro w raw io ⟨hpast, hprompts⟩ hr
    have hnow := Sim.read_ok_advances hr
    have hlater : pollMs ≤ min ackMs Firmware.repeatMs := by decide
    have hsame : io.prompts = w.io.prompts := by
      rw [← Sim.read_prompts ackMs w.io, show w.io.read ackMs = _ from hr]
    have hfrom : T ≤ w.io.car.now := hpast
    refine ⟨?_, fun t ht => (hprompts t (hsame ▸ ht)).elim⟩
    show T + pollMs ≤ io.car.now
    omega
  · exact fun _ _ _ _ _ => trivial

/-- When the hand came before the reading, it was a poll ago at least once the bay is read. -/
theorem discInBay_late :
    Triple (fun w => Past T w ∧ w.io.PromptedAt fun _ => False) discInBay
      (fun _ w => w.io.Late (T + pollMs)) fun _ _ => True := by
  have hk : Kept (fun _ _ => True) fun w : World Sim => w.io.Late (T + pollMs) := (late_kept _).toKept
  have hloose : ∀ {α : Type} {m : Py Sim α}, Keeps (fun w : World Sim => w.io.Late (T + pollMs)) m →
      Triple (fun w => w.io.Late (T + pollMs)) m (fun _ w => w.io.Late (T + pollMs)) fun _ _ => True :=
    fun hm => hm.conseq (fun _ => id) (fun _ _ => id) fun _ _ _ => trivial
  have hcommand : Triple (fun w => Past T w ∧ w.io.PromptedAt fun _ => False)
      (command cmdRequestState [] ackMs) (fun _ w => w.io.Late (T + pollMs)) fun _ _ => True := by
    refine read_late.bind fun seed => ?_
    cases seed with
    | none => exact Triple.raise fun _ _ => trivial
    | some seed =>
      refine hloose ((hk.keepsWrite _ trivial).bind fun _ => hk.keepsClock.bind fun now => ?_)
      exact Keeps.loop (hk.awaitReply [] trivial _ _)
  refine Triple.bind (M := fun _ w => w.io.Late (T + pollMs)) (Triple.bind
    (M := fun _ w => w.io.Late (T + pollMs)) (hcommand.bind fun reply => ?_) fun p => ?_) fun _ => Goes.pure _
  · cases reply with
    | some p => exact Goes.pure p
    | none =>
      refine hloose (Keeps.bind (Keeps.when ?_) fun _ => hk.requireFrom trivial trivial 3 2)
      exact (hk.waitState trivial _ _ _).bind fun _ => Keeps.pure _
  · exact hloose ((keeps_observe fun w => hk.word _ w).bind fun _ => Keeps.pure _)

end Rules

/-! ## The disc is marked as out -/

/-- The job has succeeded, and the disc is committed as out. -/
def TakenOut (discId : Nat) (w : World Sim) : Prop :=
  w.job.phase = .done ∧ ∃ d, w.conn.committed.getDisc discId = some d ∧ d.status = .out

section Rows

variable {rows saved : List Disc}

/-- An opened transport has a packet to repeat, and the database works and holds `rows`. -/
def Working (rows saved : List Disc) (w : World Sim) : Prop :=
  Tame Sim.Latched w ∧ Works rows saved w.conn

theorem working_kept : FlowKept (fun _ _ => True) (Working rows saved) where
  toKept := Sim.raises_latched.kept_tame.and (flowKept_conn _).toKept
  job _ _ hw := hw
  phase p w hw := ⟨⟨Sim.raises_latched.phase p w.io hw.1.1, hw.1.2⟩, hw.2⟩

theorem working_civil : Civil (fun _ _ => True) Sim.Latched (Working rows saved) where
  toKept := working_kept.toKept
  tame _ hw := hw.1
  errors := Sim.raises_latched
  request := trivial

theorem On.working {g : Bool} {h : Hands} {P : Carousel → Prop} {w : World Sim} (hw : On g h P w)
    (hdb : Works rows saved w.conn) : Working rows saved w := by
  obtain ⟨raw, hlinked⟩ := hw.1.linked
  refine ⟨⟨fun _ => ?_, hw.1.address⟩, hdb⟩
  rw [hlinked.streams.latched]
  exact Option.some_ne_none raw

/-- **Once the disc is seen to be taken it is recorded**, whatever becomes of the way home. -/
theorem ejectTaken_out {disc : Disc} (hd : findDisc rows disc.id = some disc) (title : String) :
    Triple (Working rows saved) (ejectTaken disc.id disc.slot title) (fun _ => TakenOut disc.id)
      NoRaise := by
  have hphase : Triple (Working rows saved) (setPhase .parking "Returning to home..." none)
      (fun _ => Working rows saved) (NoRaise (ε := Exc)) :=
    (working_kept.setPhase _ _ _).total fun _ _ => ⟨_, _, rfl⟩
  have hmark : ∀ label, Triple (Working rows saved) (mark label) (fun _ => Working rows saved)
      (NoRaise (ε := Exc)) := fun label => triple_modifyTrace fun w => working_kept.trace _ w
  refine hphase.bind fun _ => (hmark _).bind fun _ => (working_civil.parkCivil trivial _).bind fun _ => ?_
  refine Triple.bind (M := fun _ w => ∃ d, w.conn.committed.getDisc disc.id = some d ∧ d.status = .out) ?_
    fun _ => triple_modifyJob fun w hw => ⟨rfl, hw⟩
  refine Triple.bind (M := fun _ w => Works rows saved w.conn)
    (Triple.gets fun w hw => hw.2) fun now => Triple.of_exists fun ran => ?_
  let f : Disc → Disc := fun d => { d with status := .out, checkedOutAt := some now, updatedAt := now }
  refine (setStatus_db disc.id (f := f) (fun _ => rfl) .ejected none).conseq (fun _ => id)
    (fun _ w hw => ?_) fun _ _ he => ?_
  · have hview : (⟨rows, []⟩ : Catalog).getDisc disc.id = some disc := hd
    have hrow := Catalog.getDisc_updateWhere (c := ⟨rows, []⟩) (f := f) (fun _ => rfl) disc.id disc.id
    rw [hview, Option.map_some, if_pos rfl] at hrow
    exact ⟨f disc, (Catalog.getDisc_congr hw.2.saved disc.id).trans hrow, rfl⟩
  · rcases he with hf | hnone
    · exact (not_failed hf).elim
    · rw [hd] at hnone
      cases hnone

/-! ## The eject -/

/-- The job asked for the disc so that the take at `T` comes after the reading of the bay and no
later than the last poll. -/
def Catches (T : Nat) (w : World Sim) : Prop :=
  ∃ P, (.presented, P) ∈ w.io.prompts ∧ P < T + pollMs ∧ T ≤ P + 5003

/-- How an eject may end otherwise than by its last step. -/
def Misses (T : Nat) (e : Option Exc) (w : World Sim) : Prop := e = none ∨ ¬ Catches T w

theorem not_catches_of_late {T : Nat} {w : World Sim} (hw : w.io.Late (T + pollMs)) : ¬ Catches T w := by
  rintro ⟨P, hP, hlt, _⟩
  have := hw.2 P hP
  omega

theorem not_catches_of_never {T : Nat} {w : World Sim} (hw : w.io.PromptedAt fun _ => False) :
    ¬ Catches T w := fun ⟨P, hP, _⟩ => hw P hP

/-- What keeps the disc from being caught. -/
theorem misses_of_keeps {T : Nat} {I : World Sim → Prop} (hI : ∀ w, I w → ¬ Catches T w) {discId : Nat}
    {m : Py Sim Unit} (hm : Keeps I m) :
    Triple I m (fun _ w => Catches T w → TakenOut discId w) (Misses T) :=
  hm.conseq (fun _ => id) (fun _ w hw hc => absurd hc (hI w hw)) fun _ w hw => .inr (hI w hw)

/-- A job on its way that has not asked for the disc: the carousel is as `P` says, and the database
works and holds `rows`. -/
def Unasked (g : Bool) (P : Carousel → Prop) (rows saved : List Disc) (w : World Sim) : Prop :=
  On g .none P w ∧ w.io.PromptedAt (fun _ => False) ∧ Works rows saved w.conn

variable {g : Bool} {P : Carousel → Prop} {T : Nat}

theorem unasked_step {α : Type} {m : Py Sim α} {Q : α → Carousel → Prop}
    (hm : Triple (On g .none P) m (fun a => On g .none (Q a)) NoRaise)
    (hprompts : Keeps (fun w : World Sim => w.io.PromptedAt fun _ => False) m)
    (hdb : Keeps (fun w : World Sim => Works rows saved w.conn) m) :
    Triple (Unasked g P rows saved) m (fun a => Unasked g (Q a) rows saved) (Misses T) :=
  (hm.and (hprompts.and hdb)).conseq (fun _ => id) (fun _ _ => id) fun _ _ hw => .inl hw.1

/-- The steps of a flow after which the disc was asked for at times of which `φ` holds. -/
theorem promptedAt_reports (φ : Nat → Prop) :
    ReportRule (fun _ _ => True) (fun w : World Sim => w.io.PromptedAt φ) fun _ w => w.io.PromptedAt φ :=
  (promptedAt_kept φ).reports trivial (fun _ _ hw => hw) fun _ _ _ =>
    (promptedAt_kept φ).moveTo trivial trivial trivial _

theorem late_jobs (t : Nat) :
    JobRule (fun _ _ => True) (fun w : World Sim => w.io.Late t) fun _ w => w.io.Late t :=
  (late_kept t).jobs trivial (fun _ _ _ => (late_kept t).moveTo trivial trivial trivial _) fun _ hw => hw

variable {K : Nat → Prop} {since : Nat} {s : Stage} {disc : Disc}

/-- **From the prompt on** a take up to the last poll is recorded. -/
theorem ejectPresented_catches {t : Nat} (hd : findDisc rows disc.id = some disc)
    (hpending : s.pending = [(T, .taken)]) (hbay : s.bay = true) (title : String) :
    Triple (Unasked g (fun c => Expects K since s t T c ∧ c.now = t) rows saved)
      (ejectPresented disc.id disc.slot title) (fun _ w => Catches T w → TakenOut disc.id w)
      (Misses T) := by
  by_cases hT : T ≤ t + 5003
  · have hwindow : takeWindowMs = 5000 := rfl
    let Here (P : Carousel → Prop) (w : World Sim) : Prop :=
      On g .none P w ∧ Works rows saved w.conn
    have hstep : ∀ {α : Type} {m : Py Sim α} {P : Carousel → Prop} {Q : α → Carousel → Prop},
        Triple (On g .none P) m (fun a => On g .none (Q a)) NoRaise →
        Keeps (fun w : World Sim => Works rows saved w.conn) m →
        Triple (Here P) m (fun a => Here (Q a)) (Misses T) := fun hm hdb =>
      (hm.and hdb).conseq (fun _ => id) (fun _ _ => id) fun _ _ hw => .inl hw.1
    refine Triple.pre (A := Here fun c => Expects K since s t T c ∧ c.now = t) ?_
      fun w hw => ⟨hw.1, hw.2.2⟩
    refine (hstep (on_setPhase_unheeded rfl _ _) ((flowKept_conn _).setPhase _ _ _)).bind fun _ => ?_
    refine (hstep (on_mark _) (FlowKept.mark (fun _ _ hw => hw) _)).bind fun _ => ?_
    refine (hstep (on_of_traced fun b => waitForTake_expects hpending hbay (by omega) (s.leads_true b) fun f =>
      (s.taken f).leads_true b) ((flowKept_conn _).waitState trivial _ _ _)).bind fun taken => ?_
    refine Triple.pre (A := fun w => taken = true ∧ Working rows saved w) (Triple.of_fact ?_) fun w hw =>
      ⟨hw.1.2.1, hw.1.working hw.2⟩
    rintro rfl
    exact (ejectTaken_out hd title).conseq (fun _ => id) (fun _ _ hw _ => hw) fun _ _ => .inl
  · -- the disc is asked for once, and too early for the take
    have hearly : ∀ w : World Sim, (w.io.PromptedAt fun t' => t' = t) → ¬ Catches T w := by
      rintro w hw ⟨P, hP, _, hle⟩
      have := hw P hP
      omega
    have hstore : StoreRule (fun w : World Sim => w.io.PromptedAt fun t' => t' = t) _ :=
      ConnFree.store fun _ _ hw => hw
    have hrest := promptedAt_reports fun t' => t' = t
    refine Triple.bind (M := fun _ w => w.io.PromptedAt fun t' => t' = t) ?_ fun _ =>
      misses_of_keeps hearly ((hrest.mark _).bind fun _ => (hrest.waitState _ _ _).bind fun taken =>
        Goes.ite ?_ ?_)
    · refine ((promptedAt_setPhase (p := .presented) (φ := fun t' => t' = t) _ _)).pre fun w hw => ?_
      exact ⟨fun t' ht' => (hw.2.1 t' ht').elim, fun _ => hw.1.2.2⟩
    · exact hrest.ejectTaken hstore
        (fun message => promptedAt_phase (p := .parking) (by decide) message _) _ _ _
    · exact hrest.ejectNotTaken hstore trivial
        (fun message => promptedAt_phase (p := .retracting) (by decide) message _) _ _

/-- Once the disc is in the bay, with a hand on its way. -/
theorem ejectFetched_catches (hd : findDisc rows disc.id = some disc) (hbay : s.bay = true) (title : String) :
    Triple (Unasked g (fun c => s.Awaits K since T c ∧ c.now < T) rows saved)
      (do
        let inBay ← discInBay
        if inBay then ejectPresented disc.id disc.slot title else ejectFoundNothing disc.id disc.slot)
      (fun _ w => Catches T w → TakenOut disc.id w) (Misses T) := by
  have hprompts := (promptedAt_kept fun _ => False).discInBay trivial
  refine (unasked_step (discInBay_awaits hbay) hprompts
    ((flowKept_conn _).discInBay trivial)).bind fun inBay =>
      Triple.ite (fun hin => ?_) fun hin => ?_
  · refine Triple.pre (A := fun w => ∃ t b, Unasked g (fun c => Expects K since
      { s with busyUntil := b, pending := [(T, .taken)] } t T c ∧ c.now = t) rows saved w)
      (Triple.of_exists fun t => Triple.of_exists fun b => ejectPresented_catches
        (s := { s with busyUntil := b, pending := [(T, .taken)] }) hd rfl hbay title) ?_
    rintro w ⟨⟨hTidy, _, b, _, hexpects⟩, hrest⟩
    exact ⟨_, b, ⟨hTidy, hexpects, rfl⟩, hrest⟩
  · refine (misses_of_keeps (fun _ => not_catches_of_late) ?_).pre fun w hw =>
      (⟨Nat.le_of_not_lt fun hlt => hin (hw.1.2.1.mpr hlt), fun t' ht' => (hw.2.1 t' ht').elim⟩ :
        w.io.Late (T + pollMs))
    exact (late_jobs _).ejectFoundNothing (ConnFree.store fun _ _ hw => hw)
      (fun message => (late_kept _).setPhase .parking message none) _ _

/-- Once the hand has acted before the reading. -/
theorem ejectEarly_misses (discId slot : Nat) (title : String) :
    Triple (fun w => Past T w ∧ w.io.PromptedAt fun _ => False)
      (do
        let inBay ← discInBay
        if inBay then ejectPresented discId slot title else ejectFoundNothing discId slot)
      (fun _ w => Catches T w → TakenOut disc.id w) (Misses T) := by
  have hstore : StoreRule (fun w : World Sim => w.io.Late (T + pollMs)) _ := ConnFree.store fun _ _ hw => hw
  have hbay : Triple (fun w => Past T w ∧ w.io.PromptedAt fun _ => False) discInBay
      (fun _ w => w.io.Late (T + pollMs)) (Misses T) :=
    (discInBay_late.and ((promptedAt_kept fun _ => False).discInBay trivial)).conseq
      (fun w hw => ⟨hw, hw.2⟩) (fun _ _ hw => hw.1) fun _ _ hw => .inr (not_catches_of_never hw.2)
  refine hbay.bind fun inBay => misses_of_keeps (fun _ => not_catches_of_late) (Goes.ite ?_ ?_)
  · exact (late_jobs _).ejectPresented hstore trivial _ _ _
  · exact (late_jobs _).ejectFoundNothing hstore
      (fun message => (late_kept _).setPhase .parking message none) _ _

/-- **An eject with a hand on its way.** -/
theorem runEject_catches (hd : findDisc rows disc.id = some disc) (hs : s.Vacant)
    (hheld : disc.slot ∈ s.occupied) (hrange : disc.slot ≤ slotMax) :
    Triple (Unasked g (fun d => ∃ c, (c.Fits K since s ∧ s.busyUntil ≤ c.now + 29757) ∧
        Carousel.Adds (T, .taken) c d) rows saved)
      (runEject disc.id) (fun _ w => Catches T w → TakenOut disc.id w) (Misses T) := by
  let Start : Carousel → Prop := fun d => ∃ c, (c.Fits K since s ∧ s.busyUntil ≤ c.now + 29757) ∧
    Carousel.Adds (T, .taken) c d
  let Free (w : World Sim) : Prop := On g .none Start w ∧ w.io.PromptedAt fun _ => False
  have hfree : ConnFree Free := fun _ _ hw => ⟨hw.1.congr rfl rfl, hw.2⟩
  have hget : Triple (Unasked g Start rows saved) (getDisc disc.id)
      (fun found w => found = some disc ∧ Unasked g Start rows saved w) (Misses T) := by
    have hdb : Triple (fun w : World Sim => Works rows saved w.conn) (getDisc disc.id)
        (fun found w => found = findDisc rows disc.id ∧ Works rows saved w.conn) (fun _ _ => False) :=
      Triple.of_exists fun ran => (getDisc_db disc.id).conseq (fun _ => id)
        (fun _ _ hw => ⟨hw.1, _, hw.2⟩) fun _ _ => not_failed
    refine ((hfree.execute _).and hdb).conseq (fun w hw => ⟨⟨hw.1, hw.2.1⟩, hw.2.2⟩)
      (fun found w hw => ⟨hw.2.1.trans hd, hw.1.1, hw.1.2, hw.2.2⟩) fun _ _ hw => hw.2.elim
  refine hget.bind fun found => Triple.of_fact ?_
  rintro rfl
  refine (unasked_step (on_setPhase_unheeded rfl _ _) (promptedAt_phase (p := .moving) (by decide) _ _)
    ((flowKept_conn _).setPhase _ _ _)).bind fun _ => ?_
  refine (unasked_step (on_mark _) (FlowKept.mark (fun _ _ hw => hw) _)
    (FlowKept.mark (fun _ _ hw => hw) _)).bind fun _ => ?_
  have hpresents : (true && decide (disc.slot ∈ s.occupied)) = true := by
    rw [decide_eq_true hheld, Bool.and_true]
  have hmove : Triple (On g .none Start) (moveTo disc.slot true .note) (fun _ v => Past T v ∨
      On g .none (fun c => (s.docked disc.slot true).Awaits K since T c ∧ c.now < T) v) fun _ _ => True := by
    have hawaits : Triple (On g .none Start) (moveTo disc.slot true .note) _ _ :=
      moveTo_awaits hs.pending hs.bay hs.position hrange true .note
    rw [hpresents] at hawaits
    exact hawaits
  have hkept : Keeps (fun w : World Sim => w.io.PromptedAt (fun _ => False) ∧
      Works rows saved w.conn) (moveTo disc.slot true .note) :=
    ((promptedAt_kept _).and (flowKept_conn _).toKept).moveTo trivial trivial trivial .note
  refine Triple.bind ((hmove.and hkept).conseq (fun w hw => hw) (fun _ _ hw => hw)
    fun _ _ hw => .inr (not_catches_of_never hw.2.1)) fun _ => ?_
  have hfetched : Triple (Unasked g (fun c => (s.docked disc.slot true).Awaits K since T c ∧ c.now < T) rows
      saved) _ (fun _ w => Catches T w → TakenOut disc.id w) (Misses T) :=
    ejectFetched_catches hd rfl disc.title
  refine (Triple.of_or (ejectEarly_misses disc.id disc.slot disc.title) hfetched).pre fun w hw => ?_
  rcases hw with ⟨hpast | hawaits, hrest⟩
  · exact .inl ⟨hpast, hrest.1⟩
  · exact .inr ⟨hawaits, hrest⟩

end Rows

/-! ## A take is recorded -/

/-- `take_disc(at_ms)`, called before the run. -/
def World.takeDisc (atMs : Nat) (w : World Sim) : World Sim :=
  { w with io := { w.io with car := w.io.car.at_ atMs Hand.take.event } }

/-- The client has the unit open and nobody else touches it; the carousel is calm, and holds the disc
in the slot that the catalogue says. The database works, and no disc has been asked for yet. -/
structure Fetchable (disc : Disc) (w : World Sim) : Prop extends Online w where
  hands : w.io.hands = .none
  calm : w.io.car.Calm w.io.car.occupied
  held : disc.slot ∈ w.io.car.occupied
  range : disc.slot ≤ slotMax
  row : w.conn.view.getDisc disc.id = some disc
  works : w.conn.faults = fun _ => false
  unasked : ∀ t, (.presented, t) ∉ w.io.prompts

/-- With a hand on its way. -/
theorem Fetchable.takeDisc {disc : Disc} {w : World Sim} (hw : Fetchable disc w) (T : Nat) {s : Stage}
    (hfits : w.io.car.Fits Carousel.Never 0 s) (hbusy : s.busyUntil ≤ w.io.car.now + 20000) :
    Unasked false (fun d => ∃ c, (c.Fits Carousel.Never 0 s ∧ s.busyUntil ≤ c.now + 29757) ∧
      Carousel.Adds (T, .taken) c d) w.conn.view.discs w.conn.committed.discs (w.takeDisc T) := by
  obtain ⟨raw, hlinked⟩ := hw.linked
  refine ⟨⟨⟨⟨⟨raw, ?_⟩, hw.address⟩, hw.hands, fun k => ?_, nofun⟩, w.io.car, ⟨hfits, by omega⟩, _,
    Agenda.adds_push T CarouselEvent.taken _, rfl⟩, fun t ht => hw.unasked t ht, _, hw.works, rfl, rfl, rfl,
    fun _ _ => rfl⟩
  · exact ⟨hlinked.isOpen, hlinked.unit, hlinked.streams.opened, hlinked.streams.present,
      hlinked.streams.latched, hlinked.streams.long⟩
  · show w.io.hands.between k = []
    rw [hw.hands]
    rfl

/-- **A disc taken by hand is recorded as out**, whatever the slot, the time and the blips, if the hand
comes after the reading of the bay, a poll before the prompt, and no later than the last poll. -/
theorem take_recorded (disc : Disc) (w : World Sim) (hw : Fetchable disc w) (T : Nat) :
    ∃ N, ∀ n, N ≤ n → ∀ P, (.presented, P) ∈ (runEject disc.id n (w.takeDisc T)).2.io.prompts →
      P < T + 100 → T ≤ P + 5003 →
        (runEject disc.id n (w.takeDisc T)).1 = .ok () ∧
        (runEject disc.id n (w.takeDisc T)).2.job.phase = .done ∧
        ∃ d, (runEject disc.id n (w.takeDisc T)).2.conn.committed.getDisc disc.id = some d ∧
          d.status = .out := by
  obtain ⟨s, hs, hocc, hfits, hbusy⟩ := hw.calm
  have hrule : Triple (Unasked false (fun d => ∃ c, (c.Fits Carousel.Never 0 s ∧
      s.busyUntil ≤ c.now + 29757) ∧ Carousel.Adds (T, .taken) c d) w.conn.view.discs w.conn.committed.discs)
      (runEject disc.id) (fun _ w => Catches T w → TakenOut disc.id w) (Misses T) :=
    runEject_catches hw.row hs (hocc ▸ hw.held) hw.range
  obtain ⟨N, hN⟩ := (settles_runEject (w := w.takeDisc T) disc.id).meets hrule (hw.takeDisc T hfits hbusy)
  refine ⟨N, fun n hn P hP hafter hbefore => ?_⟩
  rcases hN n hn with ⟨_, w', hrun, htaken⟩ | ⟨e, w', hrun, hmiss⟩
  · rw [hrun] at hP ⊢
    exact ⟨rfl, htaken ⟨P, hP, hafter, hbefore⟩⟩
  · rw [hrun] at hP
    exact absurd ⟨P, hP, hafter, hbefore⟩ (hmiss.resolve_left (Option.some_ne_none e))

/-- A disc in slot 3, and a client that has just opened the unit. -/
def fetchable : World Sim :=
  { World.boot { Sim.new (.new 0 {3} 0x0DECAF01 0) true .none with
      opened := true, latched := some [0x01, 0, 0, 0xCC, 0, 0, 0, 0] }
      [⟨1, 3, "Myst", none, none, none, none, none, .stored, none, 0, 0⟩] with
    ds := ⟨true, 0, none, none, false⟩ }

/-- The disc is asked for at 7047 ms, and a hand that comes 5003 ms later is seen. -/
theorem take_recorded_fetchable :
    (.presented, 7047) ∈ (runEject 1 100 (fetchable.takeDisc 12050)).2.io.prompts ∧
    ∃ N, ∀ n, N ≤ n → ∀ P, (.presented, P) ∈ (runEject 1 n (fetchable.takeDisc 12050)).2.io.prompts →
      P < 12050 + 100 → 12050 ≤ P + 5003 →
        (runEject 1 n (fetchable.takeDisc 12050)).1 = .ok () ∧
        (runEject 1 n (fetchable.takeDisc 12050)).2.job.phase = .done ∧
        ∃ d, (runEject 1 n (fetchable.takeDisc 12050)).2.conn.committed.getDisc 1 = some d ∧
          d.status = .out := by
  let disc : Disc := ⟨1, 3, "Myst", none, none, none, none, none, .stored, none, 0, 0⟩
  have hfetchable : Fetchable disc fetchable :=
    { linked := ⟨[0x01, 0, 0, 0xCC, 0, 0, 0, 0], rfl, rfl, rfl, rfl, rfl, by decide⟩
      address := Nat.zero_le 255
      hands := rfl
      calm := ⟨fetchable.io.car.stage, ⟨rfl, rfl, rfl, rfl, Nat.zero_le _⟩, rfl,
        ⟨rfl, fun _ hx => absurd hx List.not_mem_nil, Nat.zero_le _⟩, Nat.zero_le _⟩
      held := Finset.mem_singleton_self 3
      range := by decide
      row := rfl
      works := rfl
      unasked := nofun }
  exact ⟨by decide +kernel, take_recorded disc fetchable hfetchable 12050⟩

/-- **Two takes that are not recorded**: one while the unit still reports that it is busy, before the
bay is read, and one between the last poll and the phase in which `0x05` is sent. The bay held the
disc at both. -/
theorem take_not_recorded :
    ((runEject 1 100 (fetchable.takeDisc 6000)).2.io.car.takes = [true] ∧
      (∀ x ∈ (runEject 1 100 (fetchable.takeDisc 6000)).2.io.car.log, x.1 ≠ cmdRetract) ∧
      (runEject 1 100 (fetchable.takeDisc 6000)).2.job.phase = .failed ∧
      (runEject 1 100 (fetchable.takeDisc 6000)).2.conn.committed.getDisc 1 =
        fetchable.conn.committed.getDisc 1) ∧
    (runEject 1 100 (fetchable.takeDisc 12100)).2.io.car.takes = [true] ∧
      (.retracting, 12150) ∈ (runEject 1 100 (fetchable.takeDisc 12100)).2.io.prompts ∧
      (runEject 1 100 (fetchable.takeDisc 12100)).2.job.phase = .failed ∧
      (runEject 1 100 (fetchable.takeDisc 12100)).2.conn.committed.getDisc 1 =
        fetchable.conn.committed.getDisc 1 := by
  decide +kernel

end StakkaWeb
