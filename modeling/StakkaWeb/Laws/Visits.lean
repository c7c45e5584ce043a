import Mathlib.Data.Finset.Basic
import StakkaWeb.Visits
import StakkaWeb.Laws.LoadOutcome
import StakkaWeb.Laws.Prompts
import StakkaWeb.Laws.Upkeep

/-!
# The catalogue mirrors the carousel

Every job takes the carousel from rest to rest at home, and does to the stored rows what it did to
the discs. The timed rules say what becomes of the carousel, the rules of the database what becomes
of the rows, and a job on its way is both: `Desk P rows`.
-/

set_option autoImplicit false

namespace StakkaWeb

open Lib Lib.Prog

/-! ## At rest between two jobs -/

/-- Nothing is pending, at the aperture or in the bay. -/
structure Stage.Vacant (s : Stage) : Prop where
  pending : s.pending = []
  waiting : s.waiting = false
  ack : s.ack = false
  bay : s.bay = false
  position : s.position ≤ 255

namespace Carousel

/-- The carousel holds `occ` and nothing is going on. -/
def Calm (occ : Finset Nat) (c : Carousel) : Prop :=
  ∃ s : Stage, s.Vacant ∧ s.occupied = occ ∧ c.Fits Never 0 s ∧ s.busyUntil ≤ c.now + 20000

/-- It does so at home. -/
def AtHome (occ : Finset Nat) (c : Carousel) : Prop :=
  ∃ s : Stage, s.Vacant ∧ (s.position = home ∧ s.homed = true) ∧ s.occupied = occ ∧ s.Rests Never 0 c

theorem AtHome.calm {occ : Finset Nat} {c : Carousel} (h : c.AtHome occ) : c.Calm occ := by
  obtain ⟨s, hs, _, hocc, b, hb, hc⟩ := h
  exact ⟨{ s with busyUntil := b }, ⟨hs.pending, hs.waiting, hs.ack, hs.bay, hs.position⟩, hocc, hc,
    Nat.le_add_right_of_le hb⟩

end Carousel

/-! ## A job on its way -/

/-- The carousel is as `P` says, and the database works and holds `rows`. -/
def Desk (h : Hands) (P : Carousel → Prop) (rows : List Disc) (w : World Sim) : Prop :=
  On true h P w ∧ Works rows rows w.conn

section Steps

variable {α : Type} {h : Hands} {P : Carousel → Prop} {Q : α → Carousel → Prop} {rows : List Disc}

theorem Desk.imp {P' : Carousel → Prop} {w : World Sim} (hw : Desk h P rows w) (hP : ∀ c, P c → P' c) :
    Desk h P' rows w :=
  ⟨hw.1.imp hP, hw.2⟩

/-- A step of the protocol. -/
theorem desk_unit {m : Py Sim α} (hm : Triple (On true h P) m (fun a => On true h (Q a)) NoRaise)
    (hk : Keeps (fun w : World Sim => Works rows rows w.conn) m) :
    Triple (Desk h P rows) m (fun a => Desk h (Q a) rows) NoRaise :=
  (hm.and hk).conseq (fun _ => id) (fun _ _ => id) fun _ _ hw => hw.1

theorem desk_phase {p : Phase} (hp : h.shown p = []) (message : String) (window_s : Option Nat) :
    Triple (Desk h P rows) (setPhase p message window_s) (fun _ => Desk h P rows) NoRaise :=
  desk_unit (on_setPhase_unheeded hp message window_s) ((flowKept_conn _).setPhase p message window_s)

theorem desk_mark (label : String) :
    Triple (Desk h P rows) (mark label) (fun _ => Desk h P rows) NoRaise :=
  desk_unit (on_mark label) (FlowKept.mark (fun _ _ hw => hw) label)

theorem desk_job (f : Job → Job) :
    Triple (Desk h P rows) (modifyJob f) (fun _ => Desk h P rows) NoRaise :=
  desk_unit (on_modifyJob f) (Keeps.modify fun _ hw => hw)

theorem on_connFree : ConnFree (On true h P) := fun _ _ hw => hw.congr rfl rfl

/-- A statement, of which no fault can happen and which is not refused. -/
theorem desk_store {m : Py Sim α} {M : α → List Disc → Prop} {k : Nat} {refused : Prop} (hno : ¬ refused)
    (hk : Keeps (On true h P) m)
    (hm : ∀ ran, Triple (fun w : World Sim => DbAt (fun _ => false) ran rows rows w.conn) m
      (fun a w => ∃ rows', M a rows' ∧ DbAt (fun _ => false) (ran + k) rows' rows' w.conn)
      (fun _ _ => Failed (fun _ => false) (ran + k) ∨ refused)) :
    Triple (Desk h P rows) m (fun a w => ∃ rows', M a rows' ∧ Desk h P rows' w) NoRaise := by
  have hworks : Triple (fun w : World Sim => Works rows rows w.conn) m
      (fun a w => ∃ rows', M a rows' ∧ Works rows' rows' w.conn) (fun _ _ => False) :=
    Triple.of_exists fun ran => (hm ran).conseq (fun _ => id)
      (fun _ _ ⟨rows', hM, hdb⟩ => ⟨rows', hM, _, hdb⟩) fun _ _ hw => hw.elim not_failed hno
  exact (hk.and hworks).conseq (fun _ => id) (fun _ _ ⟨hon, rows', hM, hdb⟩ => ⟨rows', hM, hon, hdb⟩)
    fun _ _ hw => hw.2.elim

theorem desk_getDisc (discId : Nat) :
    Triple (Desk h P rows) (getDisc discId) (fun d w => d = findDisc rows discId ∧ Desk h P rows w)
      NoRaise :=
  (desk_store (M := fun d rows' => d = findDisc rows discId ∧ rows' = rows) id (on_connFree.execute _)
    (fun _ => (getDisc_db discId).conseq (fun _ => id) (fun _ _ hw => ⟨rows, ⟨hw.1, rfl⟩, hw.2⟩)
      fun _ _ => .inl)).post fun _ _ ⟨_, ⟨hd, hrows⟩, hw⟩ => ⟨hd, hrows ▸ hw⟩

/-- A line of the log, in a transaction of its own. -/
theorem desk_logged {β : Type} (kind : EventKind) {discId : Option Nat} (slot : Option Nat)
    (detail : Option String) (hrow : ∀ id, discId = some id → findDisc rows id ≠ none) {k : Py Sim β}
    {Q : β → World Sim → Prop} (hk : Triple (Desk h P rows) k Q NoRaise) :
    Triple (Desk h P rows) (do
      logEvent kind discId slot detail
      commit
      k) Q NoRaise := by
  have hlog : Triple (Desk h P rows) (logEvent kind discId slot detail) (fun _ => Desk h P rows) NoRaise := by
    refine (desk_store (M := fun _ rows' => rows' = rows) ?_ (on_connFree.logEvent kind discId slot detail)
      fun _ => (logEvent_db kind discId slot detail).conseq (fun _ => id)
        (fun _ _ hw => ⟨rows, rfl, hw.2⟩) fun _ _ => id).post fun _ _ ⟨_, hrows, hw⟩ => hrows ▸ hw
    rintro ⟨id, hid, hnone⟩
    exact hrow id hid hnone
  have hcommit : Triple (Desk h P rows) commit (fun _ => Desk h P rows) NoRaise :=
    (desk_store (M := fun _ rows' => rows' = rows) id on_connFree.commit fun _ =>
      commit_db.conseq (fun _ => id) (fun _ _ hw => ⟨rows, rfl, hw⟩) fun _ _ => .inl).post
        fun _ _ ⟨_, hrows, hw⟩ => hrows ▸ hw
  exact hlog.bind fun _ => hcommit.bind fun _ => hk

/-- The rows once a disc is marked as out. -/
def MarkedOut (discId : Nat) (rows rows' : List Disc) : Prop :=
  ∃ f : Disc → Disc, (∀ d, (f d).slot = d.slot) ∧ (∀ d, (f d).status = .out) ∧
    rows' = updateRow discId f rows

theorem desk_markOut {discId : Nat} (hrow : findDisc rows discId ≠ none) (kind : EventKind)
    (detail : Option String) :
    Triple (Desk h P rows) (markOut discId kind detail)
      (fun _ w => ∃ rows', MarkedOut discId rows rows' ∧ Desk h P rows' w) NoRaise := by
  refine desk_store (k := 4) hrow.elim (on_connFree.markOut discId kind detail) fun ran => ?_
  refine Triple.bind (M := fun _ w => DbAt (fun _ => false) ran rows rows w.conn) (Triple.gets fun _ => id)
    fun now => ?_
  let f : Disc → Disc := fun d => { d with status := .out, checkedOutAt := some now, updatedAt := now }
  exact (setStatus_db discId (f := f) (fun _ => rfl) kind detail).conseq (fun _ => id)
    (fun _ _ hw => ⟨updateRow discId f rows, ⟨f, fun _ => rfl, fun _ => rfl, rfl⟩, hw.2⟩) fun _ _ => id

theorem desk_writeRow {slot : Nat} {discId : Option Nat} (hadmits : Admits slot rows discId) :
    Triple (Desk h P rows) (writeRow slot discId)
      (fun _ w => ∃ rows', Loaded slot rows discId rows' ∧ Desk h P rows' w) NoRaise :=
  desk_store (not_not_intro hadmits) (on_connFree.writeRow slot discId)
    fun _ => (writeRow_db slot discId).conseq (fun _ => id) (fun _ _ hw => hw.2) fun _ _ => id

end Steps

/-! ## The flows -/

section Flows

variable {delay : Option Nat} {occ : Finset Nat} {rows : List Disc}

/-- A job that starts with the carousel calm. -/
theorem triple_calm {α : Type} {h : Hands} {m : Py Sim α} {Q : α → World Sim → Prop}
    {E : Option Exc → World Sim → Prop}
    (hm : ∀ s : Stage, s.Vacant → s.occupied = occ →
      Triple (Desk h (fun c => c.Fits Carousel.Never 0 s ∧ s.busyUntil ≤ c.now + 20000) rows) m Q E) :
    Triple (Desk h (Carousel.Calm occ) rows) m Q E := by
  refine Triple.pre (A := fun w => ∃ s : Stage, (s.Vacant ∧ s.occupied = occ) ∧
    Desk h (fun c => c.Fits Carousel.Never 0 s ∧ s.busyUntil ≤ c.now + 20000) rows w)
    (Triple.of_exists fun s => Triple.of_fact fun hs => hm s hs.1 hs.2) ?_
  rintro w ⟨⟨hTidy, s, hs, hocc, hc⟩, hdb⟩
  exact ⟨s, ⟨hs, hocc⟩, ⟨hTidy, hc⟩, hdb⟩

theorem moveTo_desk {h : Hands} {s : Stage} (hs : s.Vacant) {slot : Nat} (hslot : slot ≤ slotMax)
    (eject : Bool) :
    Triple (Desk h (fun c => c.Fits Carousel.Never 0 s ∧ s.busyUntil ≤ c.now + 20000) rows)
      (moveTo slot eject .note)
      (fun _ => Desk h ((s.docked slot (eject && decide (slot ∈ s.occupied))).Rests Carousel.Never 0) rows)
      NoRaise :=
  (desk_unit (moveTo_rests hs.pending hs.bay hs.position hslot eject .note)
    ((flowKept_conn _).moveTo trivial trivial trivial .note)).pre
    fun _ hw => hw.imp fun _ hc => ⟨hc.1, Nat.le_trans hc.2 (Nat.add_le_add_left (by decide) _)⟩

/-- What a stage must have for the carousel to go home from it. -/
theorem Stage.docked_atHome {s : Stage} (hpending : s.pending = []) (hwaiting : s.waiting = false)
    (hack : s.ack = false) (hbay : s.bay = false) {c : Carousel}
    (hc : (s.docked home false).Rests Carousel.Never 0 c) : c.AtHome s.occupied :=
  ⟨s.docked home false, ⟨hpending, hwaiting, hack, hbay, Nat.zero_le _⟩, ⟨rfl, rfl⟩, rfl, hc⟩

/-- Returning to home. -/
theorem park_desk {h : Hands} {s : Stage} (hpending : s.pending = []) (hwaiting : s.waiting = false)
    (hack : s.ack = false) (hbay : s.bay = false) (hposition : s.position ≤ 255) :
    Triple (Desk h (s.Rests Carousel.Never 0) rows) (park .none)
      (fun _ => Desk h (Carousel.AtHome s.occupied) rows) NoRaise :=
  (desk_unit (park_resting hpending hbay hposition .none) ((flowKept_conn _).park trivial trivial .none)).post
    fun _ _ hw => hw.imp fun _ hc => Stage.docked_atHome hpending hwaiting hack hbay hc

/-- **A reset** changes neither the discs nor the rows. -/
theorem runReset_desk :
    Triple (Desk (.answering delay) (Carousel.Calm occ) rows) runReset
      (fun _ => Desk (.answering delay) (Carousel.AtHome occ) rows) NoRaise := by
  refine (desk_phase rfl _ _).bind fun _ => triple_calm fun s hs hocc => ?_
  refine Triple.bind (desk_unit (reset_rests hs.pending hs.bay hs.position .note)
    ((flowKept_conn _).reset (fun _ _ _ => trivial) trivial .note)) fun _ => ?_
  have hrow : ∀ id, (none : Option Nat) = some id → findDisc rows id ≠ none := nofun
  refine (desk_logged .reset none none hrow (desk_job _)).pre fun w hw => hw.imp fun c hc => ?_
  exact hocc ▸ Stage.docked_atHome hs.pending hs.waiting hs.ack hs.bay hc

/-! ### Eject -/

/-- What an eject leaves: nothing has changed, or the disc is out of the carousel and marked so. -/
def Ejected (disc : Disc) (occ : Finset Nat) (rows : List Disc) (occ' : Finset Nat) (rows' : List Disc) :
    Prop :=
  (occ' = occ ∧ rows' = rows) ∨ (occ' = occ.erase disc.slot ∧ MarkedOut disc.id rows rows')

variable {disc : Disc} {K : Nat → Prop} {s : Stage}

/-- The carousel has presented the disc of a slot. -/
structure Stage.Presented (slot : Nat) (occ : Finset Nat) (s : Stage) : Prop where
  pending : s.pending = []
  waiting : s.waiting = false
  ack : s.ack = false
  bay : s.bay = true
  position : s.position = slot
  range : slot ≤ slotMax
  occupied : s.occupied = occ.erase slot

theorem Stage.Presented.position_le {slot : Nat} (hs : s.Presented slot occ) : s.position ≤ 255 := by
  have hrange := hs.range
  have hmax : slotMax = 100 := rfl
  rw [hs.position]
  omega

theorem ejectTaken_desk (hs : s.Presented disc.slot occ) (hrow : findDisc rows disc.id ≠ none)
    (title : String) :
    Triple (Desk (.answering delay) (fun c => ∃ f ≤ c.now, ∃ b ≤ c.now,
        c.Fits Carousel.Never 0 ({ s with busyUntil := b }.taken f)) rows)
      (ejectTaken disc.id disc.slot title)
      (fun _ w => ∃ rows', MarkedOut disc.id rows rows' ∧
        Desk (.answering delay) (Carousel.AtHome (occ.erase disc.slot)) rows' w) NoRaise := by
  refine (desk_phase rfl _ _).bind fun _ => (desk_mark _).bind fun _ => ?_
  refine Triple.bind (M := fun _ =>
    Desk (.answering delay) (Carousel.AtHome (occ.erase disc.slot)) rows) ?_ fun _ => ?_
  · refine Triple.pre (A := fun w => ∃ f b, Desk (.answering delay) (fun c =>
      c.Fits Carousel.Never 0 ({ s with busyUntil := b }.taken f) ∧
        ({ s with busyUntil := b }.taken f).busyUntil ≤ c.now + 29757) rows w)
      (Triple.of_exists fun f => Triple.of_exists fun b => ?_) ?_
    · refine (desk_unit (park_rests (s := { s with busyUntil := b }.taken f) rfl rfl hs.position_le .none)
        ((flowKept_conn _).park trivial trivial .none)).post fun _ w hw => hw.imp fun c hc => ?_
      exact hs.occupied ▸ Stage.docked_atHome (s := { s with busyUntil := b }.taken f) rfl hs.waiting
        hs.ack rfl hc
    · rintro w ⟨⟨hTidy, f, hf, b, hb, hc⟩, hdb⟩
      refine ⟨f, b, ⟨hTidy, hc, ?_⟩, hdb⟩
      show max b (f + 900) ≤ _
      omega
  · refine (desk_markOut hrow .ejected none).bind fun _ => Triple.of_exists fun rows' =>
      Triple.of_fact fun hmarked => (desk_job _).post fun _ w hw => ⟨rows', hmarked, hw⟩

theorem ejectNotTaken_desk (hs : s.Presented disc.slot occ) (hstored : disc.slot ∈ occ)
    (hrow : findDisc rows disc.id ≠ none) :
    Triple (Desk (.answering delay) (s.Rests Carousel.Never 0) rows)
      (ejectNotTaken disc.id disc.slot)
      (fun _ => Desk (.answering delay) (Carousel.AtHome occ) rows) NoRaise := by
  refine (desk_phase rfl _ _).bind fun _ => (desk_mark _).bind fun _ => ?_
  refine Triple.bind (M := fun acked w => acked = some true ∧
    Desk (.answering delay) (s.retracted.Rests Carousel.Never 0) rows w) ?_ fun acked =>
      Triple.of_fact fun hacked => ?_
  · refine Triple.attempt ((desk_unit (retract_rests hs.pending hs.bay .note)
      ((flowKept_conn _).retract trivial trivial .note)).bind fun acked =>
        Triple.pure fun w hw => ?_) (fun e => Triple.pre (A := fun _ => False) ?_ fun _ he => nomatch he)
      fun _ _ => rfl
    · exact ⟨congrArg some hw.1.2.1, hw.imp fun c hc => hc.2⟩
    · exact Triple.ite (fun _ => fun _ _ hf => hf.elim) fun _ => fun _ _ hf => hf.elim
  · subst hacked
    have hocc : s.retracted.occupied = occ := by
      show insert s.position s.occupied = occ
      rw [hs.position, hs.occupied, Finset.insert_erase hstored]
    refine (desk_mark _).bind fun _ => (park_desk (s := s.retracted) hs.pending hs.waiting hs.ack rfl
      hs.position_le).bind fun _ => ?_
    rw [hocc]
    exact desk_logged _ _ _ (fun id hid => Option.some.inj hid ▸ hrow) (desk_job _)

theorem ejectPresented_desk (hs : s.Presented disc.slot occ) (hstored : disc.slot ∈ occ)
    (hrow : findDisc rows disc.id ≠ none) (htime : ∀ ms, delay = some ms → ms + 243 ≤ takeWindowMs)
    (title : String) :
    Triple (Desk (.answering delay) (s.Rests Carousel.Never 0) rows)
      (ejectPresented disc.id disc.slot title)
      (fun _ w => ∃ occ' rows', Ejected disc occ rows occ' rows' ∧
        Desk (.answering delay) (Carousel.AtHome occ') rows' w) NoRaise := by
  cases delay with
  | none =>
    refine (desk_phase rfl _ _).bind fun _ => (desk_mark _).bind fun _ => ?_
    refine Triple.bind (M := fun taken w => taken = false ∧
      Desk (.answering none) (s.Rests Carousel.Never 0) rows w)
      ((desk_unit (waitForTake_rests hs.pending hs.bay takeWindowMs)
        ((flowKept_conn _).waitState trivial _ _ _)).post fun taken w hw =>
          ⟨hw.1.2.1, hw.imp fun c hc => hc.2⟩) fun taken => Triple.of_fact fun htaken => ?_
    subst htaken
    exact (ejectNotTaken_desk hs hstored hrow).post fun _ w hw => ⟨occ, rows, .inl ⟨rfl, rfl⟩, hw⟩
  | some ms =>
    have hms := htime ms rfl
    have hwindow : takeWindowMs = 5000 := rfl
    refine Triple.bind (desk_unit (on_prompt hs.pending rfl _ _) ((flowKept_conn _).setPhase _ _ _)) fun _ =>
      (desk_mark _).bind fun _ => ?_
    refine Triple.pre (A := fun w => ∃ P b, b ≤ P ∧ Desk (.answering (some ms)) (fun c =>
      c.Fits Carousel.Never 0 { s with busyUntil := b, pending := [(P + ms, .taken)] } ∧ c.now = P) rows w)
      (Triple.of_exists fun P => Triple.of_exists fun b => Triple.of_fact fun hb => ?_) ?_
    · have hto : ∀ k, takeWindowMs ≤ 243 * (k + 1) → P + ms ≤ P + 243 * k + 143 := by omega
      refine Triple.bind (M := fun taken w => taken = true ∧ Desk (.answering (some ms)) (fun c =>
        ∃ f ≤ c.now, ∃ b ≤ c.now, c.Fits Carousel.Never 0 ({ s with busyUntil := b }.taken f)) rows w)
        ((desk_unit (waitForTake_on (s := { s with busyUntil := b, pending := [(P + ms, .taken)] }) rfl
            hs.bay (Nat.le_add_right P ms) hto)
          ((flowKept_conn _).waitState trivial _ _ _)).post fun taken w hw => ?_)
        fun taken => Triple.of_fact fun htaken => ?_
      · refine ⟨hw.1.2.1, hw.imp fun c ⟨_, f, hT, hf, hc⟩ => ⟨f, hf, b, by omega, hc⟩⟩
      · subst htaken
        refine (ejectTaken_desk hs hrow title).post ?_
        rintro _ w ⟨rows', hmarked, hw⟩
        exact ⟨occ.erase disc.slot, rows', .inr ⟨rfl, hmarked⟩, hw⟩
    · rintro w ⟨⟨hTidy, b, hb, hc⟩, hdb⟩
      exact ⟨_, b, hb, ⟨hTidy, hc, rfl⟩, hdb⟩

/-- **An eject** takes the disc out of the carousel and of the stored rows, or neither. -/
theorem runEject_desk (hd : findDisc rows disc.id = some disc) (hstored : disc.slot ∈ occ)
    (hrange : disc.slot ≤ slotMax) (htime : ∀ ms, delay = some ms → ms + 243 ≤ takeWindowMs) :
    Triple (Desk (.answering delay) (Carousel.Calm occ) rows) (runEject disc.id)
      (fun _ w => ∃ occ' rows', Ejected disc occ rows occ' rows' ∧
        Desk (.answering delay) (Carousel.AtHome occ') rows' w) NoRaise := by
  have hrow : findDisc rows disc.id ≠ none := by
    rw [hd]
    nofun
  refine (desk_getDisc disc.id).bind fun found => Triple.of_fact fun hfound => ?_
  obtain rfl := hfound.trans hd
  refine (desk_phase rfl _ _).bind fun _ => (desk_mark _).bind fun _ => triple_calm fun s hs hocc => ?_
  have hpresents : (true && decide (disc.slot ∈ s.occupied)) = true := by
    rw [hocc, decide_eq_true hstored, Bool.and_true]
  have hpresented : (s.docked disc.slot true).Presented disc.slot occ :=
    { pending := hs.pending
      waiting := hs.waiting
      ack := hs.ack
      bay := rfl
      position := rfl
      range := hrange
      occupied := hocc ▸ rfl }
  refine Triple.bind (moveTo_desk hs hrange true) fun _ => ?_
  rw [hpresents]
  refine Triple.bind (M := fun inBay w => inBay = true ∧
    Desk (.answering delay) ((s.docked disc.slot true).Rests Carousel.Never 0) rows w) ?_ fun inBay =>
      Triple.of_fact fun hin => ?_
  · refine ((discInBay_rests (s := s.docked disc.slot true) hs.pending).and
      ((flowKept_conn _).discInBay trivial)).conseq (fun _ => id)
        (fun inBay w hw => ?_) fun _ _ hw => hw.1
    exact ⟨hw.1.1, hw.1.2, hw.2⟩
  · subst hin
    exact ejectPresented_desk hpresented hstored hrow htime disc.title

/-! ### Add and return -/

/-- What a load leaves: nothing has changed, or the disc is in the carousel and stored. -/
def Filled (slot : Nat) (discId : Option Nat) (occ : Finset Nat) (rows : List Disc)
    (occ' : Finset Nat) (rows' : List Disc) : Prop :=
  (occ' = occ ∧ rows' = rows) ∨ (occ' = insert slot occ ∧ Loaded slot rows discId rows')

/-- The carousel holds nothing out and stands at a slot. -/
structure Stage.Stands (slot : Nat) (occ : Finset Nat) (s : Stage) : Prop where
  vacant : s.Vacant
  position : s.position = slot
  occupied : s.occupied = occ

variable {slot : Nat} {discId : Option Nat}

theorem addTimedOut_desk (hs : s.Stands slot occ)
    (hrow : ∀ id, discId = some id → findDisc rows id ≠ none) :
    Triple (Desk (.answering delay) (s.Rests Carousel.Never 0) rows) (addTimedOut slot discId)
      (fun _ => Desk (.answering delay) (Carousel.AtHome occ) rows) NoRaise := by
  obtain ⟨hvacant, _, hocc⟩ := hs
  refine (desk_phase rfl _ _).bind fun _ => (park_desk hvacant.pending hvacant.waiting hvacant.ack
    hvacant.bay hvacant.position).bind fun _ => ?_
  rw [hocc]
  exact desk_logged _ _ _ hrow (desk_job _)

/-- The disc has been fed in at `f`, and the wait has seen it. -/
theorem addIngest_desk (hs : s.Stands slot occ) :
    Triple (Desk (.answering delay) (fun c => ∃ f b T, b ≤ f ∧
        c.Fits Carousel.Never 0 ({ s with busyUntil := b, pending := [(T, .discArrives)] }.inserted f) ∧
          f ≤ c.now ∧ c.now ≤ f + 343) rows)
      addIngest
      (fun _ => Desk (.answering delay) (fun c => ∃ u,
        (s.landed.docked home false).Rests (· = u + 11800) (u + 1800) c) rows) NoRaise := by
  refine (desk_phase rfl _ _).bind fun _ => (desk_mark _).bind fun _ => ?_
  refine Triple.bind (M := fun _ => Desk (.answering delay) (fun c => ∃ u,
    s.landed.Rests (· = u + 11800) (u + 1800) c) rows) ?_ fun _ => ?_
  · refine Triple.pre (A := fun w => ∃ f b T, b ≤ f ∧ Desk (.answering delay) (fun c =>
      c.Fits Carousel.Never 0 ({ s with busyUntil := b, pending := [(T, .discArrives)] }.inserted f) ∧
        f ≤ c.now ∧ c.now ≤ f + 343 ∧ c.Spares cmdAcceptDisc 3) rows w)
      (Triple.of_exists fun f => Triple.of_exists fun b => Triple.of_exists fun T =>
        Triple.of_fact fun hb => ?_) ?_
    · exact desk_unit (ingest_on (s := { s with busyUntil := b, pending := [(T, .discArrives)] }) hb .note)
        ((flowKept_conn _).ingest trivial trivial .note)
    · rintro w ⟨⟨hTidy, f, b, T, hb, hc, hfrom, hto⟩, hdb⟩
      exact ⟨f, b, T, hb, ⟨hTidy, hc, hfrom, hto, (hTidy.tolerable rfl).spares (by decide)⟩, hdb⟩
  · refine (desk_mark _).bind fun _ => (desk_phase rfl _ _).bind fun _ => ?_
    refine Triple.pre (A := fun w => ∃ u, Desk (.answering delay)
      (s.landed.Rests (· = u + 11800) (u + 1800)) rows w) (Triple.of_exists fun u => ?_) ?_
    · exact (desk_unit (park_resting (s := s.landed) rfl hs.vacant.bay hs.vacant.position .none)
        ((flowKept_conn _).park trivial trivial .none)).post fun _ w hw => hw.imp fun c hc => ⟨u, hc⟩
    · rintro w ⟨⟨hTidy, u, hc⟩, hdb⟩
      exact ⟨u, ⟨hTidy, hc⟩, hdb⟩

/-- The firmware's ten seconds are over when the watch is. -/
theorem addFinish_desk (hs : s.Stands slot occ) (hadmits : Admits slot rows discId) :
    Triple (Desk (.answering delay) (fun c => ∃ u,
        (s.landed.docked home false).Rests (· = u + 11800) (u + 1800) c) rows)
      (addFinish slot discId)
      (fun _ w => ∃ rows', Loaded slot rows discId rows' ∧
        Desk (.answering delay) (Carousel.AtHome (insert slot occ)) rows' w) NoRaise := by
  refine Triple.pre (A := fun w => ∃ u, Desk (.answering delay)
    ((s.landed.docked home false).Rests (· = u + 11800) (u + 1800)) rows w) (Triple.of_exists fun u => ?_) ?_
  · refine Triple.bind (M := fun _ w => ∃ rows', Loaded slot rows discId rows' ∧ Desk (.answering delay)
      ((s.landed.docked home false).Rests (· = u + 11800) (u + 1800)) rows' w) ?_ fun id => ?_
    · refine (desk_writeRow hadmits).bind fun id => Triple.of_exists fun rows' => Triple.of_fact fun hloaded =>
        ?_
      refine Triple.bind (desk_unit (on_observe .catalogued) (keeps_observe fun _ hw => hw)) fun _ =>
        Triple.pure fun w hw => ⟨rows', hloaded, hw⟩
    · refine Triple.of_exists fun rows' => Triple.of_fact fun hloaded => ?_
      have hlanded : (s.landed.docked home false).pending = [] := rfl
      have hatHome : ∀ c : Carousel, (s.landed.docked home false).Rests (· = u + 11800) (u + 1800) c ∧
          u + 1800 + 10000 ≤ c.now ∧ c.Undue → c.AtHome (insert slot occ) := by
        rintro c ⟨⟨b, hb, hc⟩, hnow, hundue⟩
        rw [← hs.position, ← hs.occupied]
        refine Stage.docked_atHome (s := s.landed) rfl rfl rfl hs.vacant.bay
          ⟨b, hb, hc.stage, ?_, Nat.zero_le _⟩
        intro x hx he
        have hlater := hundue x hx
        rw [hc.lapses x hx he] at hlater
        omega
      refine Triple.bind ((desk_unit (watch_rests hlanded)
        ((flowKept_conn _).watch trivial)).post fun _ w hw =>
        hw.imp hatHome) fun _ => ?_
      cases discId with
      | none => exact (desk_job _).post fun _ w hw => ⟨rows', hloaded, hw⟩
      | some _ =>
        refine (desk_getDisc id).bind fun d => Triple.of_fact fun _ => ?_
        exact (desk_job _).post fun _ w hw => ⟨rows', hloaded, hw⟩
  · rintro w ⟨⟨hTidy, u, hc⟩, hdb⟩
    exact ⟨u, ⟨hTidy, hc⟩, hdb⟩

/-- **A load** adds a disc to the carousel and to the stored rows, or neither. -/
theorem runAdd_desk (hadmits : Admits slot rows discId)
    (hrow : ∀ id, discId = some id → findDisc rows id ≠ none) (hrange : slot ≤ slotMax)
    (htime : ∀ ms, delay = some ms → ms + 243 ≤ insertWindowMs) :
    Triple (Desk (.answering delay) (Carousel.Calm occ) rows) (runAdd slot discId)
      (fun _ w => ∃ occ' rows', Filled slot discId occ rows occ' rows' ∧
        Desk (.answering delay) (Carousel.AtHome occ') rows' w) NoRaise := by
  refine (desk_phase rfl _ _).bind fun _ => (desk_mark _).bind fun _ => triple_calm fun s hs hocc => ?_
  have hmax : slotMax = 100 := rfl
  have hstands : (s.docked slot false).Stands slot occ :=
    ⟨⟨hs.pending, hs.waiting, hs.ack, hs.bay, show slot ≤ 255 by omega⟩, rfl, hocc⟩
  refine Triple.bind (moveTo_desk hs hrange false) fun _ => ?_
  rw [Bool.false_and]
  obtain ⟨hvacant, _⟩ := id hstands
  cases delay with
  | none =>
    refine (desk_phase rfl _ _).bind fun _ => (desk_mark _).bind fun _ => ?_
    refine Triple.bind (M := fun seen w => seen = false ∧
      Desk (.answering none) ((s.docked slot false).Rests Carousel.Never 0) rows w)
      ((desk_unit (waitForInsert_rests hvacant.pending hvacant.waiting insertWindowMs)
        ((flowKept_conn _).waitState trivial _ _ _)).post fun seen w hw =>
          ⟨hw.1.2.1, hw.imp fun c hc => hc.2⟩) fun seen => Triple.of_fact fun hseen => ?_
    subst hseen
    exact (addTimedOut_desk hstands hrow).post fun _ w hw => ⟨occ, rows, .inl ⟨rfl, rfl⟩, hw⟩
  | some ms =>
    have hms := htime ms rfl
    refine Triple.bind (desk_unit (on_prompt hvacant.pending rfl _ _) ((flowKept_conn _).setPhase _ _ _))
      fun _ => (desk_mark _).bind fun _ => ?_
    refine Triple.pre (A := fun w => ∃ P b, b ≤ P ∧ Desk (.answering (some ms)) (fun c =>
      c.Fits Carousel.Never 0 { s.docked slot false with
        busyUntil := b, pending := [(P + ms, .discArrives)] } ∧ c.now = P) rows w)
      (Triple.of_exists fun P => Triple.of_exists fun b => Triple.of_fact fun hb => ?_) ?_
    · refine Triple.bind (M := fun seen w => seen = true ∧ Desk (.answering (some ms)) (fun c => ∃ f b T,
        b ≤ f ∧ c.Fits Carousel.Never 0 ({ s.docked slot false with
          busyUntil := b, pending := [(T, .discArrives)] }.inserted f) ∧ f ≤ c.now ∧ c.now ≤ f + 343) rows w)
        ((desk_unit (waitForInsert_on (s := { s.docked slot false with
            busyUntil := b, pending := [(P + ms, .discArrives)] }) rfl hvacant.waiting
            (Nat.le_add_right P ms) (show P + ms + 243 ≤ P + insertWindowMs by omega))
          ((flowKept_conn _).waitState trivial _ _ _)).post fun seen w hw => ?_)
        fun seen => Triple.of_fact fun hseen => ?_
      · exact ⟨hw.1.2.1, hw.imp fun c ⟨_, f, hT, hc, hfrom, hto⟩ =>
          ⟨f, b, P + ms, by omega, hc, hfrom, hto⟩⟩
      · subst hseen
        refine (addIngest_desk hstands).bind fun _ => (addFinish_desk hstands hadmits).post ?_
        rintro _ w ⟨rows', hloaded, hw⟩
        exact ⟨insert slot occ, rows', .inr ⟨rfl, hloaded⟩, hw⟩
    · rintro w ⟨⟨hTidy, b, hb, hc⟩, hdb⟩
      exact ⟨_, b, hb, ⟨hTidy, hc, rfl⟩, hdb⟩

end Flows

end StakkaWeb
