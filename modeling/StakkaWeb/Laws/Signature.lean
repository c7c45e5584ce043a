import StakkaWeb.Laws.Visits
import StakkaWeb.Laws.Tracing

/-!
# What a run shows

Each stage of the carousel shows some flags, and a run of the protocol passes from stage to stage
without skipping one that a poll must see. So what the trace holds, restricted to these flags, is
the same for every hand, every slot and every pattern of drops that the protocol gets over.
-/

set_option autoImplicit false

namespace StakkaWeb

open Lib Lib.Prog

/-! ## Signatures word by word -/

/-- A signature after one more word: a repeat of the last changes nothing. -/
def thenShown (sig : List Nat) (x : Nat) : List Nat := if sig.getLast? = some x then sig else sig ++ [x]

theorem thenShown_last (sig : List Nat) (x : Nat) : (thenShown sig x).getLast? = some x := by
  unfold thenShown
  split
  next h => exact h
  next => exact List.getLast?_concat

theorem thenShown_cons {sig : List Nat} (hsig : sig ≠ []) (a x : Nat) :
    thenShown (a :: sig) x = a :: thenShown sig x := by
  obtain ⟨b, rest, rfl⟩ := List.exists_cons_of_ne_nil hsig
  unfold thenShown
  rw [List.getLast?_cons_cons]
  split <;> rfl

theorem collapse_ne_nil (st : Nat) (l : List Nat) : collapse (st :: l) ≠ [] := by
  induction l generalizing st with
  | nil => exact List.cons_ne_nil st []
  | cons st' l ih =>
    rw [collapse]
    split
    · exact ih st'
    · exact List.cons_ne_nil _ _

/-- Collapsing word by word. -/
theorem collapse_concat (l : List Nat) (x : Nat) :
    collapse (l ++ [x]) = thenShown (collapse l) x := by
  induction l with
  | nil => rfl
  | cons a l ih =>
    cases l with
    | nil =>
      simp only [List.cons_append, List.nil_append, collapse, thenShown, List.head?_cons, List.head?_nil,
        List.getLast?_singleton, Option.some.injEq, reduceCtorEq, if_false, eq_comm (a := x)]
      split
      next h => rw [h]
      next => rfl
    | cons b l =>
      have hcons : ∀ l, collapse (a :: b :: l) =
          if some b = some a then collapse (b :: l) else a :: collapse (b :: l) := fun _ => rfl
      refine (hcons (l ++ [x])).trans ?_
      rw [hcons, show b :: (l ++ [x]) = b :: l ++ [x] from rfl, ih]
      split
      · rfl
      · rw [thenShown_cons (collapse_ne_nil b l)]

theorem collapse_last (l : List Nat) : (collapse l).getLast? = l.getLast? := by
  induction l using List.reverseRecOn with
  | nil => rfl
  | append_singleton l x _ => rw [collapse_concat, thenShown_last, List.getLast?_concat]

/-- A trace that records, and its signature so far. -/
structure Signed (sig : List Nat) (t : Trace) : Prop where
  enabled : t.enabled = true
  last : t.last = t.words.getLast?
  signature : t.signature = sig

/-- A word that is handed to the trace, whether or not it is written down. -/
theorem Signed.status {sig : List Nat} {t : Trace} (h : Signed sig t) (st : Nat) :
    Signed (thenShown sig (st &&& signatureFlags)) (t.status st) := by
  have hwords := Trace.words_status h.enabled st
  by_cases hst : t.last = some st
  · have hsame : t.status st = t := if_neg fun hno => hno.2 hst
    have hlast : sig.getLast? = some (st &&& signatureFlags) := by
      rw [← h.signature, Trace.signature, collapse_last, List.getLast?_map, ← h.last, hst]
      rfl
    rw [hsame, thenShown, if_pos hlast]
    exact h
  · rw [if_neg hst] at hwords
    have hstatus : t.status st = { t with last := some st, lines := t.lines ++ [.status st] } :=
      if_pos ⟨h.enabled, hst⟩
    refine ⟨by rw [hstatus]; exact h.enabled, ?_, ?_⟩
    · rw [hwords, List.getLast?_concat, hstatus]
    · rw [Trace.signature, hwords, List.map_append, List.map_singleton, collapse_concat]
      exact congrArg (thenShown · _) h.signature

theorem Signed.mark {sig : List Nat} {t : Trace} (h : Signed sig t) (label : String) :
    Signed sig (t.mark label) := by
  have hwords := Trace.words_mark t label
  have hsame : (t.mark label).enabled = t.enabled ∧ (t.mark label).last = t.last := by
    unfold Trace.mark
    split <;> exact ⟨rfl, rfl⟩
  refine ⟨hsame.1.trans h.enabled, ?_, ?_⟩
  · rw [hsame.2, hwords]
    exact h.last
  · rw [Trace.signature, hwords]
    exact h.signature

/-! ## What a stage shows -/

namespace Stage

/-- A word restricted to the flags by which runs are compared. -/
def flags (waiting ack bay error homed : Bool) : Nat :=
  Carousel.flag waiting stDiscWaiting ||| Carousel.flag ack stNewDiscAck |||
    Carousel.flag bay stDiscInBay ||| Carousel.flag error stAckTimeout ||| Carousel.flag homed stHomed

def shown (s : Stage) : Nat := flags s.waiting s.ack s.bay s.ackTimeout s.homed

theorem shown_eq {s : Stage} {waiting ack bay error homed : Bool} (hwaiting : s.waiting = waiting)
    (hack : s.ack = ack) (hbay : s.bay = bay) (herror : s.ackTimeout = error) (hhomed : s.homed = homed) :
    s.shown = flags waiting ack bay error homed := by
  rw [shown, hwaiting, hack, hbay, herror, hhomed]

theorem flag_and (set : Bool) (bit mask : Nat) :
    Carousel.flag set bit &&& mask = Carousel.flag set (bit &&& mask) := by
  cases set
  · exact Nat.zero_and mask
  · rfl

/-- Busyness, `RETRACTED` and the unknown bit are left out. -/
theorem status_shown (c : Carousel) : c.status &&& signatureFlags = c.stage.shown := by
  have hbusy : (if c.working then Firmware.busyIdle ||| Firmware.busyWorking else Firmware.busyIdle) &&&
      signatureFlags = 0 := by
    cases c.working <;> rfl
  have hnone : ∀ b, Carousel.flag b 0 = 0 := fun b => ite_self 0
  unfold Carousel.status
  simp only [Nat.and_or_distrib_right, flag_and, hbusy]
  rw [show Firmware.retracted &&& signatureFlags = 0 from rfl,
    show Firmware.unknown &&& signatureFlags = 0 from rfl, hnone, hnone, hnone, Nat.zero_or, Nat.or_zero,
    Nat.or_zero]
  rfl

/-- A word read at a stage adds what the stage shows. -/
theorem leads {s : Stage} {x : Nat} (hx : s.shown = x) (sig : List Nat) :
    s.Leads true (Signed sig) (Signed (thenShown sig x)) := by
  intro t c u hc ht
  have hshown : c.status &&& signatureFlags = x := (status_shown c).trans (hc ▸ hx)
  rw [← hshown]
  exact ht.status c.status

/-- A word that repeats what was shown. -/
theorem leads_again {s : Stage} {x : Nat} (hx : s.shown = x) {sig : List Nat} (hsig : sig.getLast? = some x) :
    s.Leads true (Signed sig) (Signed sig) := by
  have h := leads hx sig
  rwa [thenShown, if_pos hsig] at h

end Stage

/-! ## Moves -/

section Rules

variable {h : Hands} {K : Nat → Prop} {since : Nat} {s : Stage} {sig : List Nat}

/-- The job is traced, with tolerable blips, and has this signature so far. -/
abbrev Signing (h : Hands) (sig : List Nat) (P : Carousel → Prop) : World Sim → Prop :=
  Traced true true h (Signed sig) P

/-- A move from a homed stage shows that, and then the stage it ends in. The error that it clears is
gone as soon as it is accepted, and the disc that it presents is there when it ends. -/
theorem moveTo_signed (hpending : s.pending = []) (hbay : s.bay = false) (hhomed : s.homed = true)
    (hposition : s.position ≤ 255) {slot : Nat} (hslot : slot ≤ slotMax) {eject : Bool} {presenting : Bool}
    (hpresents : (eject && decide (slot ∈ s.occupied)) = presenting)
    (honce : s.ackTimeout = false ∨ presenting = false) {x y : Nat} (hx : s.shown = x)
    (hy : (s.docked slot presenting).shown = y) (progress : Progress) :
    Triple (Signing h sig fun c => c.Fits K since s ∧ s.busyUntil ≤ c.now + 29757)
      (moveTo slot eject progress)
      (fun _ => Signing h (thenShown (thenShown sig x) y) ((s.docked slot presenting).Rests K since))
      NoRaise := by
  subst hx hy
  have hmax : slotMax = 100 := rfl
  let rest := thenShown sig s.shown
  let ended := thenShown rest (s.docked slot presenting).shown
  refine Triple.bind (M := fun _ => Signing h sig fun c => c.Fits K since s ∧ s.busyUntil ≤ c.now + 29757)
    (Triple.raiseIf (fun w _ hlt => absurd (of_decide_eq_true hlt) (Nat.not_lt.mpr hslot))
      fun w hw _ => hw) fun _ => ?_
  have hrest : s.Leads true (Signed rest) (Signed rest) := Stage.leads_again rfl (thenShown_last _ _)
  refine (idleOr_resting_traced hpending (Stage.leads rfl sig) hrest _).bind fun _ =>
    (refuse_traced hpending hbay).bind fun _ => ?_
  refine Triple.bind (M := fun _ => Signing h rest (s.Rests K since)) (Triple.when (fun _ => ?_)
    fun w hw _ => hw) fun _ => ?_
  · -- the status shows `HOMED`
    refine (status_rests_traced hpending).bind fun st => Triple.pre (A := fun w => (st &&& stHomed ≠ 0) ∧
      Signing h rest (s.Rests K since) w) (Triple.of_fact fun hst => ?_) fun w hw =>
        ⟨fun hno => ?_, hw.imp fun c hc => hc.2⟩
    · rw [if_pos hst]
      exact Triple.pure fun _ => id
    · have := hw.on.2.1.2.mp hno
      rw [hhomed] at this
      cases this
  · refine Triple.bind (require_rests (sent_attempts hpending (sendable_move hslot eject) fun _ => hhomed)
      (by decide) hrest) fun _ => ?_
    have hargs : s.presents (Sim.padded [slot, if eject then 1 else 0]) = presenting := by
      rw [← hpresents]
      unfold Stage.presents
      cases eject <;> simp [Sim.padded]
    rw [hargs]
    have htarget : slot ≤ 255 := by omega
    have hdocked : (s.docked slot presenting).Leads true (Signed rest) (Signed ended) := Stage.leads rfl rest
    have hended : (s.docked slot presenting).Leads true (Signed ended) (Signed ended) :=
      Stage.leads_again rfl (thenShown_last _ _)
    rcases honce with hclear | rfl
    · refine idleOr_sent_traced hpending htarget hposition presenting (fun a => ?_) hdocked hended _
      have hsent : (s.sent a slot presenting).shown = s.shown := by
        unfold Stage.shown
        rw [hclear]
        rfl
      exact Stage.leads_again hsent (thenShown_last _ _)
    · refine (idleOr_sent_traced (I := fun t => Signed rest t ∨ Signed ended t) hpending htarget hposition
        false (fun a => ?_) (fun t c u hc => ?_) hended _).pre fun w hw => hw.weaken fun _ => .inl
      · have hsent : (s.sent a slot false).shown = (s.docked slot false).shown := by
          unfold Stage.shown
          show _ ||| Carousel.flag s.homed stHomed = _
          rw [hhomed]
          rfl
        intro t c u hc ht
        exact .inr (ht.elim (Stage.leads hsent rest t c u hc)
          (Stage.leads_again hsent (thenShown_last _ _) t c u hc))
      · exact fun ht => ht.elim (hdocked t c u hc) (hended t c u hc)

/-- **Parking** shows the stage and then, at home, the same stage without its error. -/
theorem park_signed (hpending : s.pending = []) (hbay : s.bay = false) (hhomed : s.homed = true)
    (hposition : s.position ≤ 255) {x y : Nat} (hx : s.shown = x) (hy : (s.docked home false).shown = y)
    (progress : Progress) :
    Triple (Signing h sig fun c => c.Fits K since s ∧ s.busyUntil ≤ c.now + 29757) (park progress)
      (fun _ => Signing h (thenShown (thenShown sig x) y) ((s.docked home false).Rests K since))
      NoRaise := by
  refine Triple.bind (traced_report progress _) fun _ => ?_
  refine Triple.attempt (moveTo_signed hpending hbay hhomed hposition (Nat.zero_le slotMax)
    (Bool.false_and _) (.inr rfl) hx hy .none) (fun e =>
      Triple.pre (A := fun _ => False) (fun _ _ hf => hf.elim) fun _ he => ?_) fun _ _ => rfl
  cases he

/-! ## Steps that show nothing -/

variable {b g : Bool} {I : Trace → Prop} {P Q : Carousel → Prop} {R : Option Exc → World Sim → Prop}

theorem traced_setPhase {p : Phase} {message : String} {window_s : Option Nat}
    (hm : Triple (On g h P) (setPhase p message window_s) (fun _ => On g h Q) R) :
    Triple (Traced b g h I P) (setPhase p message window_s) (fun _ => Traced b g h I Q) R := by
  refine traced_quiet hm fun t => Triple.bind (M := fun _ => Traces b t) ?_ fun deadline => ?_
  · cases window_s with
    | none => exact Triple.pure fun _ hw => hw.2
    | some window => exact triple_clock (fun _ hw => hw.2) |>.bind fun _ => Triple.pure fun _ => id
  · exact Triple.bind (M := fun _ => Traces b t) (triple_modifyJob fun _ => id) fun _ =>
      triple_cue fun _ => id

theorem signing_phase {p : Phase} (hp : h.shown p = []) (message : String) (window_s : Option Nat) :
    Triple (Signing h sig P) (setPhase p message window_s) (fun _ => Signing h sig P) R :=
  traced_setPhase (on_setPhase_unheeded hp message window_s)

theorem signing_mark (label : String) :
    Triple (Signing h sig P) (mark label) (fun _ => Signing h sig P) R :=
  traced_mark (fun _ label ht => ht.mark label) label

/-- The run has this signature. -/
def Shows (sig : List Nat) (w : World Sim) : Prop := w.trace.signature = sig

/-- It has this signature when it raises. -/
def ShowsOnRaise (sig : List Nat) (e : Option Exc) (w : World Sim) : Prop := e = none ∨ Shows sig w

theorem Traced.shows {w : World Sim} (hw : Traced b g h (Signed sig) P w) : Shows sig w :=
  hw.2.2.1.signature

theorem shows_connFree : ConnFree (Shows sig) := fun _ _ hw => hw

theorem shows_job (f : Job → Job) : Keeps (Shows sig) (modifyJob f) := Keeps.modify fun _ hw => hw

/-- A step that does not raise. -/
theorem showing {α : Type} {m : Py Sim α} {A : World Sim → Prop} {B : α → World Sim → Prop}
    (hm : Triple A m B NoRaise) : Triple A m B (ShowsOnRaise sig) :=
  hm.conseq (fun _ => id) (fun _ _ => id) fun _ _ => .inl

/-- A step that keeps the signature, for good or raising. -/
theorem shown_throughout {α : Type} {m : Py Sim α} (hm : Keeps (Shows sig) m) :
    Triple (Shows sig) m (fun _ => Shows sig) (ShowsOnRaise sig) :=
  hm.conseq (fun _ => id) (fun _ _ => id) fun _ _ => .inr

theorem signing_connFree : ConnFree (Signing h sig P) := fun conn w hw =>
  have hon : On true h P { w with conn } := On.congr (w := w) hw.on rfl rfl
  ⟨hon.1, hw.2.1, hw.2.2⟩

end Rules

/-! ## Runs -/

/-- Nothing is going on, and of the flags of a signature only `HOMED` is set. -/
structure Stage.Plain (s : Stage) : Prop extends s.Vacant where
  homed : s.homed = true
  clear : s.ackTimeout = false

theorem Stage.Plain.shown {s : Stage} (hs : s.Plain) : s.shown = stHomed :=
  Stage.shown_eq hs.waiting hs.ack hs.bay hs.clear hs.homed

theorem Stage.shown_docked {s : Stage} (hwaiting : s.waiting = false) (hack : s.ack = false)
    (hbay : s.bay = false) (slot : Nat) (presenting : Bool) :
    (s.docked slot presenting).shown = Stage.flags false false presenting false true :=
  Stage.shown_eq hwaiting hack (by
    show (presenting || s.bay) = presenting
    rw [hbay, Bool.or_false]) rfl rfl

theorem Stage.shown_tookIn (s : Stage) (a : Nat) :
    (s.tookIn a).shown = Stage.flags s.waiting false s.bay s.ackTimeout s.homed := rfl

section Runs

variable {s : Stage} {δ : Nat}

/-- What a load shows until the disc is offered, and until it is in. -/
def insertSignature : List Nat := [stHomed, stDiscWaiting ||| stHomed]
def offerSignature : List Nat := insertSignature ++ [stNewDiscAck ||| stHomed]
def loadSignature : List Nat := offerSignature ++ [stHomed]

/-- From the disc at the aperture to the disc in its slot. -/
theorem addIngest_signed {h : Hands} (hquiet : h.shown .ingesting = [] ∧ h.shown .parking = [])
    (hplain : s.Plain) {f b T : Nat} (hb : b ≤ f) :
    Triple (Signing h insertSignature fun c => c.Fits Carousel.Never 0
        ({ s with busyUntil := b, pending := [(T, .discArrives)] }.inserted f) ∧
          f ≤ c.now ∧ c.now ≤ f + 343)
      addIngest
      (fun _ => Signing h loadSignature fun c => ∃ u,
        (s.landed.docked home false).Rests (· = u + 11800) (u + 1800) c) NoRaise := by
  let e : Stage := { s with busyUntil := b, pending := [(T, .discArrives)] }
  have hflags : ∀ waiting ack, Stage.flags waiting ack s.bay s.ackTimeout s.homed =
      Stage.flags waiting ack false false true := by
    intro waiting ack
    rw [hplain.bay, hplain.clear, hplain.homed]
  have hinserted : (e.inserted f).shown = stDiscWaiting ||| stHomed :=
    (hflags true s.ack).trans (congrArg (Stage.flags true · false false true) hplain.ack)
  have hdrawn : ∀ u, (e.drawn f u).shown = stNewDiscAck ||| stHomed := fun _ => hflags false true
  have htook : ∀ u a, ((e.drawn f u).tookIn a).shown = stHomed := fun u a =>
    (Stage.shown_tookIn (e.drawn f u) a).trans (hflags false false)
  have hlanded : s.landed.shown = stHomed := hflags false false
  have hdrawnLeads : ∀ u, (e.drawn f u).Leads true (Signed insertSignature) (Signed offerSignature) :=
    fun u => Stage.leads (hdrawn u) insertSignature
  have hoffer : offerSignature.getLast? = some (stNewDiscAck ||| stHomed) := rfl
  have hload : loadSignature.getLast? = some stHomed := rfl
  -- until `0x1D` is accepted the trace is as it was, and then a word may come or not
  have haccepted : ∀ t : Stage, t.shown = stHomed → t.Leads true
      (fun tr => Signed offerSignature tr ∨ Signed loadSignature tr) (Signed loadSignature) :=
    fun t ht tr c v hc htr => htr.elim (Stage.leads ht offerSignature tr c v hc)
      (Stage.leads_again ht hload tr c v hc)
  refine (signing_phase hquiet.1 _ _).bind fun _ => (signing_mark _).bind fun _ => ?_
  refine Triple.bind (M := fun _ => Signing h loadSignature fun c => ∃ u,
    s.landed.Rests (· = u + 11800) (u + 1800) c) ?_ fun _ => ?_
  · refine (ingest_traced (s := e) hb (Stage.leads_again hinserted rfl) hdrawnLeads
      (fun u => Stage.leads_again (hdrawn u) hoffer) (fun u a tr c v hc htr =>
        .inr (haccepted _ (htook u a) tr c v hc htr)) (haccepted _ hlanded) .note).pre fun w hw => ?_
    have hspares : w.io.car.Spares cmdAcceptDisc 3 := (hw.on.1.tolerable rfl).spares (by decide)
    exact ⟨hw.1, hw.2.1, hw.2.2.1, hw.2.2.2.1, hw.2.2.2.2.1, hw.2.2.2.2.2, hspares⟩
  · refine (signing_mark _).bind fun _ => (signing_phase hquiet.2 _ _).bind fun _ => ?_
    refine Triple.pre (A := fun w => ∃ u b, Signing h loadSignature (fun c =>
      c.Fits (· = u + 11800) (u + 1800) { s.landed with busyUntil := b } ∧ b ≤ c.now + 29757) w)
      (Triple.of_exists fun u => Triple.of_exists fun b => ?_) ?_
    · have hatHome : ({ s.landed with busyUntil := b }.docked home false).shown = stHomed :=
        Stage.shown_docked (s := { s.landed with busyUntil := b }) rfl rfl hplain.bay home false
      exact (park_signed (s := { s.landed with busyUntil := b }) rfl hplain.bay hplain.homed hplain.position
        hlanded hatHome .none).post fun _ w hw => hw.imp fun c hc => ⟨u, hc⟩
    · rintro w ⟨hTidy, htracing, ht, u, b, hb, hc⟩
      exact ⟨u, b, hTidy, htracing, ht, hc, Nat.le_add_right_of_le hb⟩

/-- The watch shows no more, whatever the catalogue makes of the disc. -/
theorem addFinish_signed {h : Hands} (hplain : s.Plain) (slot : Nat) (discId : Option Nat) :
    Triple (Signing h loadSignature fun c => ∃ u,
        (s.landed.docked home false).Rests (· = u + 11800) (u + 1800) c)
      (addFinish slot discId) (fun _ => Shows loadSignature) (ShowsOnRaise loadSignature) := by
  have hatHome : (s.landed.docked home false).shown = stHomed :=
    Stage.shown_docked (s := s.landed) rfl rfl hplain.bay home false
  have hobserve : ∀ P, Keeps (Signing h loadSignature P) (observe .catalogued) := fun P =>
    Keeps.modify fun w hw =>
      have hon : On true h P { w with obs := .catalogued :: w.obs } := On.congr (w := w) hw.on rfl rfl
      ⟨hon.1, hw.2.1, hw.2.2⟩
  refine Triple.bind ((((signing_connFree.writeRow slot discId).bind fun id =>
    (hobserve _).bind fun _ => Keeps.pure id)).conseq (fun _ => id) (fun _ _ => id)
      fun _ _ hw => .inr hw.shows) fun id => ?_
  refine Triple.bind (M := fun _ => Shows loadSignature) (showing ?_) fun _ => ?_
  · refine Triple.pre (A := fun w => ∃ u, Signing h loadSignature
      ((s.landed.docked home false).Rests (· = u + 11800) (u + 1800)) w) (Triple.of_exists fun u => ?_) ?_
    · exact (watch_traced rfl (Stage.leads_again hatHome rfl) fun t label ht => ht.mark label).post
        fun _ _ hw => hw.shows
    · rintro w ⟨hTidy, htracing, ht, u, hc⟩
      exact ⟨u, hTidy, htracing, ht, hc⟩
  · cases discId with
    | none => exact shown_throughout (shows_job _)
    | some _ => exact shown_throughout ((shows_connFree.execute _).bind fun _ => shows_job _)

/-- **A load** shows the disc at the aperture, the disc on offer, and then no more. -/
theorem runAdd_signed (hplain : s.Plain) {slot : Nat} (hslot : slot ≤ slotMax) (discId : Option Nat)
    (hδ : δ + 243 ≤ insertWindowMs) :
    Triple (Signing (.answering (some δ)) [] fun c => c.Fits Carousel.Never 0 s ∧
        s.busyUntil ≤ c.now + 29757)
      (runAdd slot discId) (fun _ => Shows loadSignature) (ShowsOnRaise loadSignature) := by
  have hmax : slotMax = 100 := rfl
  have hdocked : (s.docked slot false).Plain :=
    ⟨⟨hplain.pending, hplain.waiting, hplain.ack, hplain.bay, show slot ≤ 255 by omega⟩, rfl, rfl⟩
  refine (signing_phase rfl _ _).bind fun _ => (signing_mark _).bind fun _ => ?_
  refine Triple.bind (showing (moveTo_signed hplain.pending hplain.bay hplain.homed hplain.position hslot
    (Bool.false_and _) (.inl hplain.clear) hplain.shown hdocked.shown .note)) fun _ => ?_
  refine Triple.bind (traced_setPhase (on_prompt hdocked.pending rfl _ _)) fun _ =>
    (signing_mark _).bind fun _ => ?_
  refine Triple.pre (A := fun w => ∃ P b, b ≤ P ∧ Signing (.answering (some δ)) [stHomed] (fun c =>
    c.Fits Carousel.Never 0 { s.docked slot false with
      busyUntil := b, pending := [(P + δ, .discArrives)] } ∧ c.now = P) w)
    (Triple.of_exists fun P => Triple.of_exists fun b => Triple.of_fact fun hb => ?_) ?_
  · let e : Stage := { s.docked slot false with busyUntil := b, pending := [(P + δ, .discArrives)] }
    have hstands : e.shown = stHomed := hdocked.shown
    have hwaits : ∀ f, (e.inserted f).shown = Stage.flags true false false false true := fun f =>
      Stage.shown_eq (s := e.inserted f) rfl hplain.ack hplain.bay rfl rfl
    refine Triple.bind (M := fun seen w => seen = true ∧ Signing (.answering (some δ)) insertSignature
      (fun c => ∃ f, b ≤ f ∧ c.Fits Carousel.Never 0 (e.inserted f) ∧ f ≤ c.now ∧ c.now ≤ f + 343) w)
      (showing ((waitForInsert_traced (s := e) rfl hdocked.waiting (Nat.le_add_right P δ)
        (show P + δ + 243 ≤ P + insertWindowMs by omega) (Stage.leads_again hstands rfl)
          fun f => Stage.leads (hwaits f) _).post fun seen w hw => ?_)) fun seen => Triple.of_fact fun hseen => ?_
    · refine ⟨hw.on.2.1, hw.imp ?_⟩
      rintro c ⟨_, f, hT, hc⟩
      exact ⟨f, by omega, hc⟩
    · subst hseen
      refine Triple.pre (A := fun w => ∃ f, b ≤ f ∧ Signing (.answering (some δ)) insertSignature
        (fun c => c.Fits Carousel.Never 0 (e.inserted f) ∧ f ≤ c.now ∧ c.now ≤ f + 343) w)
        (Triple.of_exists fun f => Triple.of_fact fun hb => ?_) ?_
      · exact (showing (addIngest_signed ⟨rfl, rfl⟩ hdocked hb)).bind fun _ =>
          addFinish_signed hdocked slot discId
      · rintro w ⟨hTidy, htracing, ht, f, hb, hc⟩
        exact ⟨f, hb, hTidy, htracing, ht, hc⟩
  · rintro w ⟨hTidy, htracing, ht, b, hb, hc⟩
    exact ⟨_, b, hb, hTidy, htracing, ht, hc, rfl⟩

/-- What an eject shows until the disc is taken, and when it is and the unit is home. -/
def presentSignature : List Nat := [stHomed, stDiscInBay ||| stHomed]
def takeSignature : List Nat := presentSignature ++ [stAckTimeout ||| stHomed, stHomed]

/-- When it is not. -/
def leaveSignature : List Nat := presentSignature ++ [stHomed]

theorem ejectTaken_signed {h : Hands} (hparking : h.shown .parking = []) (hplain : s.Plain)
    {slot : Nat} (hslot : slot ≤ slotMax) (discId : Nat) (title : String) :
    Triple (Signing h (presentSignature ++ [stAckTimeout ||| stHomed]) fun c => ∃ f ≤ c.now, ∃ b ≤ c.now,
        c.Fits Carousel.Never 0 ({ s.docked slot true with busyUntil := b }.taken f))
      (ejectTaken discId slot title) (fun _ => Shows takeSignature) (ShowsOnRaise takeSignature) := by
  refine (signing_phase hparking _ _).bind fun _ => (signing_mark _).bind fun _ => ?_
  refine Triple.bind (M := fun _ => Shows takeSignature) (showing ?_) fun _ =>
    shown_throughout ((shows_connFree.markOut _ _ _).bind fun _ => shows_job _)
  refine Triple.pre (A := fun w => ∃ f b, Signing h (presentSignature ++ [stAckTimeout ||| stHomed]) (fun c =>
    c.Fits Carousel.Never 0 ({ s.docked slot true with busyUntil := b }.taken f) ∧
      ({ s.docked slot true with busyUntil := b }.taken f).busyUntil ≤ c.now + 29757) w)
    (Triple.of_exists fun f => Triple.of_exists fun b => ?_) ?_
  · let e : Stage := { s.docked slot true with busyUntil := b }.taken f
    have hmax : slotMax = 100 := rfl
    have herror : e.shown = Stage.flags false false false true true :=
      Stage.shown_eq (s := e) hplain.waiting hplain.ack rfl rfl rfl
    have hatHome : (e.docked home false).shown = Stage.flags false false false false true :=
      Stage.shown_docked (s := e) hplain.waiting hplain.ack rfl home false
    exact (park_signed (s := e) rfl rfl rfl (show slot ≤ 255 by omega) herror hatHome .none).post
      fun _ _ hw => hw.shows
  · rintro w ⟨hTidy, htracing, ht, f, hf, b, hb, hc⟩
    refine ⟨f, b, hTidy, htracing, ht, hc, ?_⟩
    show max b (f + 900) ≤ _
    omega

theorem ejectNotTaken_signed {h : Hands} (hquiet : h.shown .retracting = []) (hplain : s.Plain)
    {slot : Nat} (hslot : slot ≤ slotMax) (discId : Nat) :
    Triple (Signing h presentSignature ((s.docked slot true).Rests Carousel.Never 0))
      (ejectNotTaken discId slot) (fun _ => Shows leaveSignature) (ShowsOnRaise leaveSignature) := by
  let e : Stage := s.docked slot true
  have hmax : slotMax = 100 := rfl
  have hpresents : e.shown = Stage.flags false false true false true :=
    Stage.shown_docked hplain.waiting hplain.ack hplain.bay slot true
  have hgoes : ∀ a, (e.retracting a).shown = Stage.flags false false true false true := fun _ => hpresents
  have hback : e.retracted.shown = Stage.flags false false false false true :=
    Stage.shown_eq (s := e.retracted) hplain.waiting hplain.ack rfl rfl rfl
  refine (signing_phase hquiet _ _).bind fun _ => (signing_mark _).bind fun _ => ?_
  refine Triple.bind (M := fun acked w => acked = some true ∧
    Signing h leaveSignature (e.retracted.Rests Carousel.Never 0) w) (showing ?_) fun acked =>
      Triple.of_fact fun hacked => ?_
  · refine Triple.attempt (((retract_traced (s := e) hplain.pending rfl (Stage.leads_again hpresents rfl)
      (fun a => Stage.leads_again (hgoes a) rfl) (Stage.leads hback presentSignature)
      (Stage.leads_again hback rfl) .note)).bind fun acked => Triple.pure fun w hw => ?_)
      (fun e => Triple.pre (A := fun _ => False) ?_ fun _ he => nomatch he) fun _ _ => rfl
    · exact ⟨congrArg some hw.on.2.1, hw.imp fun c hc => hc.2⟩
    · exact Triple.ite (fun _ => fun _ _ hf => hf.elim) fun _ => fun _ _ hf => hf.elim
  · subst hacked
    have hatHome : (e.retracted.docked home false).shown = Stage.flags false false false false true :=
      Stage.shown_docked (s := e.retracted) hplain.waiting hplain.ack rfl home false
    refine (signing_mark _).bind fun _ => ?_
    refine Triple.bind (M := fun _ => Shows leaveSignature) (showing ?_) fun _ => shown_throughout
      ((shows_connFree.logEvent _ _ _ _).bind fun _ => shows_connFree.commit.bind fun _ => shows_job _)
    refine Triple.pre (A := fun w => ∃ b, Signing h leaveSignature (fun c =>
      c.Fits Carousel.Never 0 { e.retracted with busyUntil := b } ∧ b ≤ c.now + 29757) w)
      (Triple.of_exists fun b => ?_) ?_
    · exact (park_signed (s := { e.retracted with busyUntil := b }) hplain.pending rfl rfl
        (show slot ≤ 255 by omega) hback hatHome .none).post fun _ _ hw => hw.shows
    · rintro w ⟨hTidy, htracing, ht, b, hb, hc⟩
      exact ⟨b, hTidy, htracing, ht, hc, Nat.le_add_right_of_le hb⟩

/-- The row of a disc. -/
theorem signing_getDisc {h : Hands} {sig : List Nat} {P : Carousel → Prop} {discId : Nat} {disc : Disc}
    {R : Option Exc → World Sim → Prop} :
    Triple (fun w => Signing h sig P w ∧ w.conn.faults w.conn.executed = false ∧
        w.conn.view.getDisc discId = some disc)
      (getDisc discId) (fun found w => found = some disc ∧ Signing h sig P w) R := by
  refine Triple.call (fun w a w' hw hr => ?_) fun w e w' hw hr => ?_
  · dsimp only at hr
    rw [hw.2.1] at hr
    cases hr
    exact ⟨hw.2.2, signing_connFree _ _ hw.1⟩
  · dsimp only at hr
    rw [hw.2.1] at hr
    cases hr

/-- An eject up to the disc in the bay. -/
theorem runEject_signed {h : Hands} (hmoving : h.shown .moving = []) (hplain : s.Plain) {disc : Disc}
    (hslot : disc.slot ≤ slotMax) (hstored : disc.slot ∈ s.occupied) {shown : List Nat}
    (hpresented : Triple (Signing h presentSignature ((s.docked disc.slot true).Rests Carousel.Never 0))
      (ejectPresented disc.id disc.slot disc.title) (fun _ => Shows shown) (ShowsOnRaise shown)) :
    Triple (fun w => Signing h [] (fun c => c.Fits Carousel.Never 0 s ∧ s.busyUntil ≤ c.now + 29757) w ∧
        w.conn.faults w.conn.executed = false ∧ w.conn.view.getDisc disc.id = some disc)
      (runEject disc.id) (fun _ => Shows shown) (ShowsOnRaise shown) := by
  refine signing_getDisc.bind fun found => Triple.of_fact fun hfound => ?_
  subst hfound
  refine (signing_phase hmoving _ _).bind fun _ => (signing_mark _).bind fun _ => ?_
  have hpresents : (true && decide (disc.slot ∈ s.occupied)) = true := by
    rw [decide_eq_true hstored, Bool.and_true]
  have hshown : (s.docked disc.slot true).shown = Stage.flags false false true false true :=
    Stage.shown_docked hplain.waiting hplain.ack hplain.bay disc.slot true
  refine Triple.bind (showing (moveTo_signed hplain.pending hplain.bay hplain.homed hplain.position hslot
    hpresents (.inl hplain.clear) hplain.shown hshown .note)) fun _ => ?_
  refine Triple.bind (M := fun inBay w => inBay = true ∧ Signing h presentSignature
    ((s.docked disc.slot true).Rests Carousel.Never 0) w) (showing ?_) fun inBay =>
      Triple.of_fact fun hin => ?_
  · exact (discInBay_traced (s := s.docked disc.slot true) hplain.pending).post fun inBay w hw =>
      ⟨hw.on.2.1, hw.imp fun c hc => hc.2⟩
  · subst hin
    exact hpresented

/-- **An eject that is left** shows the disc in the bay, and then no more. -/
theorem ejectPresented_left (hplain : s.Plain) {slot : Nat} (hslot : slot ≤ slotMax) (discId : Nat)
    (title : String) :
    Triple (Signing (.answering none) presentSignature ((s.docked slot true).Rests Carousel.Never 0))
      (ejectPresented discId slot title) (fun _ => Shows leaveSignature) (ShowsOnRaise leaveSignature) := by
  have hpresents : (s.docked slot true).shown = Stage.flags false false true false true :=
    Stage.shown_docked hplain.waiting hplain.ack hplain.bay slot true
  refine (signing_phase rfl _ _).bind fun _ => (signing_mark _).bind fun _ => ?_
  refine Triple.bind (M := fun taken w => taken = false ∧
    Signing (.answering none) presentSignature ((s.docked slot true).Rests Carousel.Never 0) w) (showing ?_)
    fun taken => Triple.of_fact fun htaken => ?_
  · exact (waitForTake_rests_traced (s := s.docked slot true) hplain.pending rfl
      (Stage.leads_again hpresents rfl) takeWindowMs).post fun taken w hw =>
        ⟨hw.on.2.1, hw.imp fun c hc => hc.2⟩
  · subst htaken
    exact ejectNotTaken_signed rfl hplain hslot discId

/-- **An eject that is answered** shows the disc in the bay, that it was taken, and then no more. -/
theorem ejectPresented_taken (hplain : s.Plain) {slot : Nat} (hslot : slot ≤ slotMax)
    (hδ : δ + 243 ≤ takeWindowMs) (discId : Nat) (title : String) :
    Triple (Signing (.answering (some δ)) presentSignature ((s.docked slot true).Rests Carousel.Never 0))
      (ejectPresented discId slot title) (fun _ => Shows takeSignature) (ShowsOnRaise takeSignature) := by
  have hwindow : takeWindowMs = 5000 := rfl
  have hpresents : (s.docked slot true).shown = Stage.flags false false true false true :=
    Stage.shown_docked hplain.waiting hplain.ack hplain.bay slot true
  refine Triple.bind (traced_setPhase (on_prompt (s := s.docked slot true) hplain.pending rfl _ _)) fun _ =>
    (signing_mark _).bind fun _ => ?_
  refine Triple.pre (A := fun w => ∃ P b, b ≤ P ∧ Signing (.answering (some δ)) presentSignature (fun c =>
    c.Fits Carousel.Never 0 { s.docked slot true with busyUntil := b, pending := [(P + δ, .taken)] } ∧ c.now = P) w)
    (Triple.of_exists fun P => Triple.of_exists fun b => Triple.of_fact fun hb => ?_) ?_
  · let e : Stage := { s.docked slot true with busyUntil := b, pending := [(P + δ, .taken)] }
    have hout : ∀ f, (e.taken f).shown = Stage.flags false false false true true := fun f =>
      Stage.shown_eq (s := e.taken f) hplain.waiting hplain.ack rfl rfl rfl
    have hto : ∀ k, takeWindowMs ≤ 243 * (k + 1) → P + δ ≤ P + 243 * k + 143 := by omega
    have hwaits : e.shown = Stage.flags false false true false true := hpresents
    refine Triple.bind (M := fun taken w => taken = true ∧ Signing (.answering (some δ))
      (presentSignature ++ [stAckTimeout ||| stHomed]) (fun c => ∃ f ≤ c.now, ∃ b ≤ c.now,
        c.Fits Carousel.Never 0 ({ s.docked slot true with busyUntil := b }.taken f)) w)
      (showing ((waitForTake_traced (s := e) rfl rfl (Nat.le_add_right P δ) hto
        (Stage.leads_again hwaits rfl) fun f => Stage.leads (hout f) _).post fun taken w hw => ?_))
      fun taken => Triple.of_fact fun htaken => ?_
    · refine ⟨hw.on.2.1, hw.imp ?_⟩
      rintro c ⟨_, f, hT, hf, hc⟩
      exact ⟨f, hf, b, by omega, hc⟩
    · subst htaken
      exact ejectTaken_signed rfl hplain hslot discId title
  · rintro w ⟨hTidy, htracing, ht, b, hb, hc⟩
    exact ⟨_, b, hb, hTidy, htracing, ht, hc, rfl⟩

end Runs

/-! ## The signature of a run -/

/-- The client has the unit open and traces it. The carousel is idle and homed at home, with no other
flag set and no event pending, and the blips are tolerable. -/
structure Poised (w : World Sim) : Prop extends Online w where
  unstirred : w.io.Unstirred
  tracing : w.ds.tracing = true
  fresh : w.trace = ⟨true, none, []⟩
  tolerable : w.io.car.Tolerable
  events : w.io.car.events.entries = []
  idle : w.io.car.busyUntil ≤ w.io.car.now
  homed : w.io.car.homed = true
  position : w.io.car.position = home
  waiting : w.io.car.discWaiting = false
  ack : w.io.car.newDiscAck = false
  bay : w.io.car.discInBay = false
  clear : w.io.car.ackTimeout = false

theorem Poised.plain {w : World Sim} (hw : Poised w) : w.io.car.stage.Plain where
  pending := by
    show w.io.car.events.entries.filter _ = []
    rw [hw.events]
    rfl
  waiting := hw.waiting
  ack := hw.ack
  bay := hw.bay
  position := by
    show w.io.car.position ≤ 255
    rw [hw.position]
    exact Nat.zero_le _
  homed := hw.homed
  clear := hw.clear

theorem Poised.signing {w : World Sim} (hw : Poised w) {h : Hands} (hh : w.io.hands = h) :
    Signing h [] (fun c => c.Fits Carousel.Never 0 w.io.car.stage ∧
      w.io.car.stage.busyUntil ≤ c.now + 29757) w := by
  refine ⟨⟨hw.toOnline, hh, hw.unstirred, fun _ => hw.tolerable⟩, hw.tracing, ?_, ⟨rfl, ?_, Nat.zero_le _⟩, ?_⟩
  · rw [hw.fresh]
    exact ⟨rfl, rfl, rfl⟩
  · intro x hx _
    rw [Agenda.mem_def, hw.events] at hx
    exact absurd hx List.not_mem_nil
  · exact Nat.le_add_right_of_le hw.idle

/-- However a run ends, with enough turns it shows what its rule says. -/
theorem shows_of_settles {m : Py Sim Unit} {sig : List Nat} {A : World Sim → Prop} {w : World Sim}
    (hm : Settles m w) (hrule : Triple A m (fun _ => Shows sig) (ShowsOnRaise sig)) (hw : A w) :
    ∃ N, ∀ n, N ≤ n → (m n w).2.trace.signature = sig := by
  obtain ⟨N, hN⟩ := hm.meets hrule hw
  refine ⟨N, fun n hn => ?_⟩
  rcases hN n hn with ⟨_, w', hrun, hshows⟩ | ⟨e, w', hrun, hshows⟩
  · rw [hrun]
    exact hshows
  · rw [hrun]
    exact hshows.resolve_left (Option.some_ne_none e)

/-- **The signature of a run depends only on what happened.** From an idle homed carousel at home,
for every slot, every time of the hand up to 243 ms before its window closes, every clock and every
pattern of drops that the protocol gets over, a load shows the disc at the aperture and the disc on
offer, an eject shows the disc in the bay and, if it is taken, that it was. -/
theorem status_signature (w : World Sim) (hw : Poised w) :
    (∀ slot discId δ, slot ≤ slotMax → w.io.hands = .answering (some δ) → δ + 243 ≤ insertWindowMs →
      ∃ N, ∀ n, N ≤ n → (runAdd slot discId n w).2.trace.signature =
        [stHomed, stDiscWaiting ||| stHomed, stNewDiscAck ||| stHomed, stHomed]) ∧
    ∀ disc : Disc, w.conn.view.getDisc disc.id = some disc → w.conn.faults w.conn.executed = false →
      disc.slot ≤ slotMax → disc.slot ∈ w.io.car.occupied →
      (∀ δ, w.io.hands = .answering (some δ) → δ + 243 ≤ takeWindowMs →
        ∃ N, ∀ n, N ≤ n → (runEject disc.id n w).2.trace.signature =
          [stHomed, stDiscInBay ||| stHomed, stAckTimeout ||| stHomed, stHomed]) ∧
      (w.io.hands = .answering none →
        ∃ N, ∀ n, N ≤ n → (runEject disc.id n w).2.trace.signature =
          [stHomed, stDiscInBay ||| stHomed, stHomed]) := by
  have hplain := hw.plain
  refine ⟨fun slot discId δ hslot hhands hδ => ?_, fun disc hdisc hfault hslot hstored =>
    ⟨fun δ hhands hδ => ?_, fun hhands => ?_⟩⟩
  · exact shows_of_settles (settles_runAdd w slot discId) (runAdd_signed hplain hslot discId hδ)
      (hw.signing hhands)
  · have htaken := ejectPresented_taken hplain hslot hδ disc.id disc.title
    exact shows_of_settles (settles_runEject w disc.id)
      (runEject_signed rfl hplain hslot hstored htaken) ⟨hw.signing hhands, hfault, hdisc⟩
  · have hleft := ejectPresented_left hplain hslot disc.id disc.title
    exact shows_of_settles (settles_runEject w disc.id)
      (runEject_signed rfl hplain hslot hstored hleft) ⟨hw.signing hhands, hfault, hdisc⟩

/-- A unit with a stored disc in slot 3 and its unknown bit set, of which two sends in three of every
command are dropped. -/
def poised (delay : Option Nat) : World Sim :=
  { World.boot { Sim.new { Carousel.new 0 {3} 0x0DECAF01 0 with
        homed := true
        unknownBit := true
        blips := true
        rolls := fun _ i => decide (i % 3 ≠ 2) } true (.answering delay) with
      opened := true, latched := some [0x01, 0, 0, 0xCC, 0, 0, 0, 0] }
      [⟨1, 3, "Myst", none, none, none, none, none, .stored, none, 0, 0⟩] with
    ds := ⟨true, 0, none, none, true⟩
    trace := ⟨true, none, []⟩ }

theorem poised_poised (delay : Option Nat) : Poised (poised delay) where
  linked := ⟨[0x01, 0, 0, 0xCC, 0, 0, 0, 0], rfl, rfl, ⟨rfl, rfl, rfl, by decide⟩⟩
  address := Nat.zero_le 255
  unstirred _ := rfl
  tracing := rfl
  fresh := rfl
  tolerable _ _ _ i := by
    refine ⟨2 - i % 3, by omega, decide_eq_false (not_not_intro ?_)⟩
    omega
  events := rfl
  idle := Nat.zero_le 0
  homed := rfl
  position := rfl
  waiting := rfl
  ack := rfl
  bay := rfl
  clear := rfl

theorem status_signature_poised :
    (∃ N, ∀ n, N ≤ n → (runAdd 100 none n (poised (some 29757))).2.trace.signature =
      [stHomed, stDiscWaiting ||| stHomed, stNewDiscAck ||| stHomed, stHomed]) ∧
    (∃ N, ∀ n, N ≤ n → (runEject 1 n (poised (some 0))).2.trace.signature =
      [stHomed, stDiscInBay ||| stHomed, stAckTimeout ||| stHomed, stHomed]) ∧
    ∃ N, ∀ n, N ≤ n → (runEject 1 n (poised none)).2.trace.signature =
      [stHomed, stDiscInBay ||| stHomed, stHomed] := by
  let disc : Disc := ⟨1, 3, "Myst", none, none, none, none, none, .stored, none, 0, 0⟩
  refine ⟨?_, ?_, ?_⟩
  · exact (status_signature _ (poised_poised (some 29757))).1 100 none 29757 (by decide) rfl (by decide)
  · exact ((status_signature _ (poised_poised (some 0))).2 disc rfl rfl (by decide)
      (Finset.mem_singleton_self 3)).1 0 rfl (by decide)
  · exact ((status_signature _ (poised_poised none)).2 disc rfl rfl (by decide)
      (Finset.mem_singleton_self 3)).2 rfl

end StakkaWeb
