import StakkaWeb.Laws.Arrival
import StakkaWeb.Laws.OnTime
import StakkaWeb.Laws.Stage
import StakkaWeb.Laws.Settles

/-!
# Moves on time

The rules of the moving methods in terms of stages: from a carousel at rest with the bay empty, busy
for at most twenty seconds more, and with blips that are tolerable, a move and a reset return, and
leave the stage that the move is for. Waiting for the unit to be idle comes to what is pending, and
a command that the unit hears acts on the stage.
-/

set_option autoImplicit false

namespace StakkaWeb

open Lib Lib.Prog

/-! ## Commands on stages -/

namespace Stage

/-- How long the carousel travels to `target`, with a disc to push out when `presenting`. -/
def travel (target : Nat) (presenting : Bool) (s : Stage) : Nat :=
  Firmware.seekBaseMs + Firmware.seekPerSlotMs * Carousel.absDiff target s.position +
    if presenting then Firmware.pushMs else 0

/-- Whether `0x04` with these arguments presents a disc. -/
def presents (args : List Nat) (s : Stage) : Bool :=
  decide (args.getD 1 0 ≠ 0 ∧ args.getD 0 0 ∈ s.occupied)

/-- The stage that an accepted `0x04` leaves. -/
def sent (now target : Nat) (presenting : Bool) (s : Stage) : Stage :=
  ({ s with ackTimeout := false }.workFor now (s.travel target presenting +
      if presenting then Firmware.bayMs else 0)).push
    (now + s.travel target presenting) (.arrived target presenting)

/-- The stage in which a move ends. -/
def docked (target : Nat) (presenting : Bool) (s : Stage) : Stage :=
  { s with
    position := target
    homed := true
    ackTimeout := false
    occupied := if presenting then s.occupied.erase target else s.occupied
    bay := presenting || s.bay }

/-- A word that is read at this stage, whenever the unit is busy last, leads from `I` to `J`. -/
def Leads (b : Bool) (s : Stage) (I J : Trace → Prop) : Prop :=
  ∀ t (c : Carousel) u, c.stage = { s with busyUntil := u } → I t → J (t.given b c.status)

theorem leads_true (b : Bool) (s : Stage) : s.Leads b (fun _ => True) fun _ => True :=
  fun _ _ _ _ _ => trivial

theorem Leads.at_ {b : Bool} {s : Stage} {I J : Trace → Prop} (h : s.Leads b I J) (u : Nat) :
    ({ s with busyUntil := u } : Stage).Leads b I J :=
  fun t c u' hc ht => h t c u' hc ht

end Stage

namespace Carousel

variable {c : Carousel} {K : Nat → Prop} {since : Nat} {s : Stage}

theorem Fits.blipped (h : c.Fits K since s) (cmd : Nat) (args : List Nat) :
    (c.blipped cmd args).Fits K since
      { s with busyUntil := max s.busyUntil (c.now + Firmware.blipForMs) } :=
  ⟨h.stage ▸ rfl, h.lapses, h.since⟩

/-- What is pushed is no `_ack_expired`. -/
theorem Lapses.push (h : c.Lapses K) (t : Nat) {e : CarouselEvent} (he : e ≠ .ackExpired) :
    ∀ x ∈ c.events.push t e, x.2 = .ackExpired → K x.1 := by
  intro x hx hack
  rcases Agenda.mem_push.mp hx with rfl | hx
  · exact absurd hack he
  · exact h x hx hack

theorem Fits.sent (h : c.Fits K since s) (args : List Nat) (rolls : Nat → Nat → Bool) :
    (c.acted cmdSetPos args rolls).Fits K since
      (s.sent c.now (args.getD 0 0) (s.presents args)) := by
  obtain ⟨rfl, hlapses, hsince⟩ := h
  exact ⟨Stage.ext rfl rfl rfl rfl rfl rfl rfl rfl rfl (pending_push _ (.arrived _ _) c),
    hlapses.push _ nofun, hsince⟩

end Carousel

/-! ## Waiting for the unit to be idle -/

section Rules

variable {g : Bool} {h : Hands} {K : Nat → Prop} {since : Nat} {s : Stage}

/-- **The rule of a wait for the unit to be idle**, which it is within the time: it ends with the
first turn in which the unit is seen idle. -/
theorem idleOr_shown {b : Bool} {S : Trace → Carousel → Prop} {B : Nat} (start H : Nat)
    (hwait : ∀ t c ms, S t c → ms ≤ Firmware.repeatMs → c.now + ms ≤ H → S t (c.wait ms))
    (hasked : ∀ t c, S t c → S t c.asked) (hbusy : ∀ t c, S t c → c.busyUntil ≤ B)
    (hword : ∀ t c, S t c → c.busy = true → S (t.given b c.status) c)
    (hB : B ≤ start + 29757) (hH : start + 243 ≤ H ∧ B + 343 ≤ H) (msg : String) :
    Triple (Shown b g h fun t c => S t c ∧ c.now = start) (idleOr msg)
      (fun _ => Shown b g h fun t' c => ∃ t d, S t d ∧ (d.wait Firmware.repeatMs).busy = false ∧
        t' = t.given b (d.wait Firmware.repeatMs).status ∧ c = d.polled ∧
        (d.now = start ∨ d.now < B + pollMs)) NoRaise := by
  have hrepeat : Firmware.repeatMs = 143 := rfl
  have hpoll : pollMs = 100 := rfl
  have hsettle : settleMs = 30000 := rfl
  let Between : Trace → Carousel → Prop := fun t c => S t c ∧ (c.now = start ∨ c.now < B + pollMs)
  have hread : ∀ t c, Between t c → S t (c.wait Firmware.repeatMs) :=
    fun t c hc => hwait t c _ hc.1 (Nat.le_refl _) (by have := hc.2; omega)
  have hlate : ∀ t c, Between t c → (c.wait Firmware.repeatMs).status &&& stBusy ≠ 0 →
      (c.wait Firmware.repeatMs).busy = true ∧ c.now + Firmware.repeatMs < B := by
    intro t c hc hne
    rw [Ne, Carousel.status_busy, Bool.not_eq_false] at hne
    have hlt := of_decide_eq_true hne
    rw [Carousel.wait_now] at hlt
    exact ⟨hne, Nat.lt_of_lt_of_le hlt (hbusy t _ (hread t c hc))⟩
  refine Triple.bind (M := fun idle => Shown b g h fun t' c => idle = true ∧ ∃ t d, S t d ∧
    (d.wait Firmware.repeatMs).busy = false ∧ t' = t.given b (d.wait Firmware.repeatMs).status ∧
    c = d.polled ∧ (d.now = start ∨ d.now < B + pollMs)) ?_ fun idle => ?_
  · refine (waitState_shown (S := Between) start
      (fun t c hc hm => ⟨rfl, t, c, hc.1, c.wait _ |>.status_busy.mp hm, rfl, rfl, hc.2⟩)
      (fun t c hc hne hend => ?_) fun t c hc hne hgo => ⟨?_, .inr ?_⟩).pre ?_
    · have := (hlate t c hc hne).2
      rw [Carousel.polled_now] at hend
      omega
    · have hnow : (c.wait Firmware.repeatMs).asked.now = c.now + Firmware.repeatMs := c.wait_now _
      obtain ⟨hyes, hlt⟩ := hlate t c hc hne
      exact hwait _ _ _ (hasked _ _ (hword t _ (hread t c hc) hyes)) (by decide) (by omega)
    · have := (hlate t c hc hne).2
      rw [Carousel.polled_now]
      omega
    · rintro w ⟨hTidy, htracing, hS, hnow⟩
      exact ⟨hTidy, htracing, ⟨hS, .inl hnow⟩, hnow⟩
  · refine Triple.raiseIf (fun w hw hidle => ?_) fun w hw _ => hw.imp fun t c hc => hc.2
    rw [hw.2.2.1] at hidle
    cases hidle

theorem Carousel.Fits.busyUntil {c : Carousel} (hc : c.Fits K since s) : c.busyUntil = s.busyUntil :=
  congrArg Stage.busyUntil hc.stage

/-- A wait with nothing pending. -/
theorem Carousel.Fits.still {c : Carousel} (hc : c.Fits K since s) (hpending : s.pending = []) (ms : Nat) :
    (c.wait ms).Fits K since s :=
  hc.calm fun _ hx => absurd (hpending ▸ hx) List.not_mem_nil

theorem Carousel.Fits.polled {c : Carousel} (hc : c.Fits K since s) (hpending : s.pending = []) :
    c.polled.Fits K since s :=
  (hc.still hpending _).asked.still hpending _

/-- A rule that is told the time at which it starts. -/
theorem triple_starting {α : Type} {P : Carousel → Prop} {m : Py Sim α} {Q : α → World Sim → Prop}
    {R : Option Exc → World Sim → Prop}
    (hm : ∀ start, Triple (On g h fun c => P c ∧ c.now = start) m Q R) : Triple (On g h P) m Q R := by
  refine Triple.of_each fun w₀ hw₀ => (hm w₀.io.car.now).pre ?_
  rintro w rfl
  exact ⟨hw₀.1, hw₀.2, rfl⟩

/-- A rule of the trace that is told the time at which it starts. -/
theorem traced_starting {b : Bool} {I : Trace → Prop} {α : Type} {P : Carousel → Prop} {m : Py Sim α}
    {Q : α → World Sim → Prop} {R : Option Exc → World Sim → Prop}
    (hm : ∀ start, Triple (Traced b g h I fun c => P c ∧ c.now = start) m Q R) :
    Triple (Traced b g h I P) m Q R := by
  refine Triple.of_each fun w₀ hw₀ => (hm w₀.io.car.now).pre ?_
  rintro w rfl
  exact ⟨hw₀.1, hw₀.2.1, hw₀.2.2.1, hw₀.2.2.2, rfl⟩

/-- Waiting with nothing pending. -/
theorem idleOr_rest_traced {b : Bool} {I J : Trace → Prop} (hpending : s.pending = [])
    (hI : s.Leads b I J) (hJ : s.Leads b J J) (msg : String) :
    Triple (Traced b g h I fun c => c.Fits K since s ∧ s.busyUntil ≤ c.now + 29757) (idleOr msg)
      (fun _ => Traced b g h J fun c => c.Fits K since s ∧ s.busyUntil ≤ c.now) NoRaise := by
  refine traced_starting fun start => ?_
  refine Triple.pre (A := fun w => s.busyUntil ≤ start + 29757 ∧ Shown b g h (fun t c =>
    ((I t ∨ J t) ∧ c.Fits K since s) ∧ c.now = start) w) (Triple.of_fact fun hB => ?_) ?_
  · refine (idleOr_shown start (start + s.busyUntil + 343)
      (fun t c ms hc _ _ => ⟨hc.1, hc.2.still hpending ms⟩) (fun t c hc => ⟨hc.1, hc.2.asked⟩)
      (fun t c hc => Nat.le_of_eq hc.2.busyUntil) (fun t c hc _ =>
        ⟨.inr (hc.1.elim (hI t c _ hc.2.stage) (hJ t c _ hc.2.stage)), hc.2⟩) hB (by omega) msg).post ?_
    · rintro _ w ⟨hTidy, htracing, t, d, ⟨ht, hd⟩, hidle, htrace, hcar, _⟩
      have hread := hd.still hpending Firmware.repeatMs
      refine ⟨hTidy, htracing, ?_, hcar ▸ hd.polled hpending, ?_⟩
      · rw [htrace]
        exact ht.elim (hI t _ _ hread.stage) (hJ t _ _ hread.stage)
      · have hle := Nat.not_lt.mp (of_decide_eq_false hidle)
        rw [hcar, Carousel.polled_now]
        rw [hread.busyUntil, Carousel.wait_now] at hle
        omega
  · rintro w ⟨hTidy, htracing, ht, ⟨hfits, hle⟩, hnow⟩
    exact ⟨hnow ▸ hle, hTidy, htracing, ⟨.inl ht, hfits⟩, hnow⟩

/-- At `s` one event is pending, due before the unit is idle, and what it leaves does not depend
on the moment at which it happens. -/
structure Stage.Ends (s : Stage) (t : Nat) (e : CarouselEvent) (s' : Stage) : Prop where
  pending : s.pending = [(t, e)]
  fires : ∀ now, s.calm.fire now e = s'
  calm : s'.pending = []
  alone : e ≠ .discDrawnOff
  inTime : t ≤ s.busyUntil
  busyUntil : s'.busyUntil = s.busyUntil

/-- It is pending or has happened. -/
def Stage.Ending (K : Nat → Prop) (since : Nat) (s s' : Stage) (c : Carousel) : Prop :=
  c.Fits K since s ∨ c.Fits K since s'

theorem Stage.Ends.wait {t : Nat} {e : CarouselEvent} {s' : Stage} (he : s.Ends t e s') {c : Carousel}
    (hc : s.Ending K since s' c) (ms : Nat) : s.Ending K since s' (c.wait ms) := by
  rcases hc with hc | hc
  · by_cases hdue : t ≤ c.now + ms
    · have := hc.fires he.pending hdue (fun hd => absurd hd he.alone) fun hd => absurd hd he.alone
      rw [he.fires] at this
      exact .inr this
    · refine .inl (hc.calm fun x hx => ?_)
      rw [he.pending] at hx
      obtain rfl := List.mem_singleton.mp hx
      exact Nat.lt_of_not_le hdue
  · exact .inr (hc.still he.calm ms)

variable (K since) in
/-- Waiting for what is pending. -/
theorem idleOr_ends_traced {b : Bool} {I J : Trace → Prop} {t : Nat} {e : CarouselEvent} {s' : Stage}
    (he : s.Ends t e s') (hI : s.Leads b I I) (hJ : s'.Leads b I J) (hJ' : s'.Leads b J J) (msg : String) :
    Triple (Traced b g h I fun c => s.Ending K since s' c ∧ s.busyUntil ≤ c.now + 29757) (idleOr msg)
      (fun _ => Traced b g h J fun c => c.Fits K since s' ∧ s'.busyUntil ≤ c.now) NoRaise := by
  -- before the event the trace is as it was, after it as it will be
  let S : Trace → Carousel → Prop := fun tr c =>
    (I tr ∧ c.Fits K since s) ∨ ((I tr ∨ J tr) ∧ c.Fits K since s')
  have hends : ∀ tr c, S tr c → s.Ending K since s' c := fun _ _ hc =>
    hc.imp (fun hc => hc.2) fun hc => hc.2
  have hwait : ∀ tr c ms, S tr c → S tr (c.wait ms) := by
    rintro tr c ms (⟨htr, hc⟩ | ⟨htr, hc⟩)
    · exact (he.wait (.inl hc) ms).imp (fun hc => ⟨htr, hc⟩) fun hc => ⟨.inl htr, hc⟩
    · exact .inr ⟨htr, hc.still he.calm ms⟩
  have hafter : ∀ {tr} {c : Carousel}, (I tr ∨ J tr) → c.Fits K since s' → J (tr.given b c.status) := fun htr hc =>
    htr.elim (hJ _ _ _ hc.stage) (hJ' _ _ _ hc.stage)
  have hbusy : ∀ tr c, S tr c → c.busyUntil = s.busyUntil := fun tr c hc =>
    (hends tr c hc).elim (fun hc => hc.busyUntil) fun hc => hc.busyUntil.trans he.busyUntil
  refine traced_starting fun start => ?_
  refine Triple.pre (A := fun w => s.busyUntil ≤ start + 29757 ∧
    Shown b g h (fun tr c => S tr c ∧ c.now = start) w) (Triple.of_fact fun hB => ?_) ?_
  · refine (idleOr_shown start (start + s.busyUntil + 343) (fun tr c ms hc _ _ => hwait tr c ms hc)
      (fun tr c hc => hc.imp (fun hc => ⟨hc.1, hc.2.asked⟩) fun hc => ⟨hc.1, hc.2.asked⟩)
      (fun tr c hc => Nat.le_of_eq (hbusy tr c hc)) (fun tr c hc _ => hc.imp
        (fun hc => ⟨hI _ _ _ hc.2.stage hc.1, hc.2⟩) fun hc => ⟨.inr (hafter hc.1 hc.2), hc.2⟩)
      hB (by omega) msg).post ?_
    rintro _ w ⟨hTidy, htracing, tr, d, hd, hidle, htrace, hcar, _⟩
    have hread := hwait tr d Firmware.repeatMs hd
    have hle := Nat.not_lt.mp (of_decide_eq_false hidle)
    rw [hbusy tr _ hread] at hle
    -- an idle unit has nothing pending any more
    obtain ⟨htr, hfits⟩ : (I tr ∨ J tr) ∧ (d.wait Firmware.repeatMs).Fits K since s' := by
      refine hread.resolve_left fun hc => ?_
      have := (d.wait_undue Firmware.repeatMs).pending (t, e)
        (by rw [hc.2.stage, he.pending]; exact List.mem_singleton_self _)
      have := he.inTime
      omega
    refine ⟨hTidy, htracing, htrace ▸ hafter htr hfits, hcar ▸ hfits.asked.still he.calm _, ?_⟩
    rw [hcar, he.busyUntil, Carousel.polled_now]
    rw [Carousel.wait_now] at hle
    omega
  · rintro w ⟨hTidy, htracing, htr, ⟨hends, hle⟩, hnow⟩
    exact ⟨hnow ▸ hle, hTidy, htracing, hends.imp (fun hc => ⟨htr, hc⟩) fun hc => ⟨.inl htr, hc⟩, hnow⟩

/-! ## At rest -/

/-- The carousel is idle at the stage `s`, whenever it was busy last. -/
def Stage.Rests (K : Nat → Prop) (since : Nat) (s : Stage) (c : Carousel) : Prop :=
  ∃ b ≤ c.now, c.Fits K since { s with busyUntil := b }

/-- It has accepted a move from the stage `s`. -/
def Stage.Underway (K : Nat → Prop) (since target : Nat) (presenting : Bool) (s : Stage)
    (c : Carousel) : Prop :=
  ∃ b a, b ≤ a ∧ a ≤ c.now ∧ c.Fits K since ({ s with busyUntil := b }.sent a target presenting)

theorem idleOr_resting_traced {b : Bool} {I J : Trace → Prop} (hpending : s.pending = [])
    (hI : s.Leads b I J) (hJ : s.Leads b J J) (msg : String) :
    Triple (Traced b g h I fun c => c.Fits K since s ∧ s.busyUntil ≤ c.now + 29757) (idleOr msg)
      (fun _ => Traced b g h J (s.Rests K since)) NoRaise :=
  (idleOr_rest_traced hpending hI hJ msg).post fun _ _ hw =>
    hw.imp fun _ hc => ⟨s.busyUntil, hc.2, hc.1⟩

theorem idleOr_resting (hpending : s.pending = []) (msg : String) :
    Triple (On g h fun c => c.Fits K since s ∧ s.busyUntil ≤ c.now + 29757) (idleOr msg)
      (fun _ => On g h (s.Rests K since)) NoRaise :=
  on_of_traced fun b => idleOr_resting_traced hpending (s.leads_true b) (s.leads_true b) msg

theorem idleOr_rests (hpending : s.pending = []) (msg : String) :
    Triple (On g h (s.Rests K since)) (idleOr msg) (fun _ => On g h (s.Rests K since)) NoRaise := by
  refine Triple.pre (A := fun w => ∃ b, On g h (fun c =>
    c.Fits K since { s with busyUntil := b } ∧ b ≤ c.now + 29757) w) (Triple.of_exists fun b => ?_) ?_
  · exact idleOr_resting (s := { s with busyUntil := b }) hpending msg
  · rintro w ⟨hTidy, b, hb, hc⟩
    exact ⟨b, hTidy, hc, Nat.le_add_right_of_le hb⟩

/-- A status reading at rest. -/
theorem status_rests_traced {b : Bool} {I : Trace → Prop} (hpending : s.pending = []) :
    Triple (Traced b g h I (s.Rests K since)) status
      (fun st => Traced b g h I fun c => ((st &&& stDiscInBay = 0 ↔ s.bay = false) ∧
        (st &&& stHomed = 0 ↔ s.homed = false)) ∧ s.Rests K since c) NoRaise := by
  refine status_traced.post ?_
  rintro st w ⟨c, ⟨u, hu, hc⟩, rfl, hTidy, htracing, ht, hcar⟩
  have hread := (hc.still hpending Firmware.repeatMs).stage
  refine ⟨hTidy, htracing, ht, ⟨?_, ?_⟩, u, ?_, hcar ▸ hc.polled hpending⟩
  · rw [Carousel.status_bay, show (c.wait Firmware.repeatMs).discInBay = s.bay from congrArg Stage.bay hread]
  · rw [Carousel.status_homed, show (c.wait Firmware.repeatMs).homed = s.homed from congrArg Stage.homed hread]
  · rw [hcar, Carousel.polled_now]
    omega

theorem status_rests (hpending : s.pending = []) :
    Triple (On g h (s.Rests K since)) status
      (fun st w => ((st &&& stDiscInBay = 0 ↔ s.bay = false) ∧ (st &&& stHomed = 0 ↔ s.homed = false)) ∧
        On g h (s.Rests K since) w) NoRaise :=
  (on_of_traced fun _ => status_rests_traced hpending).post fun _ _ hw =>
    ⟨hw.2.1, hw.imp fun _ hc => hc.2⟩

theorem discInBay_traced {b : Bool} {I : Trace → Prop} (hpending : s.pending = []) :
    Triple (Traced b g h I (s.Rests K since)) discInBay
      (fun inBay => Traced b g h I fun c => inBay = s.bay ∧ s.Rests K since c) NoRaise := by
  refine (status_rests_traced hpending).bind fun st => Triple.pure fun w hw => hw.imp fun c hc => ⟨?_, hc.2⟩
  cases hbay : s.bay with
  | false => exact decide_eq_false (not_not.mpr (hc.1.1.mpr hbay))
  | true =>
    refine decide_eq_true fun hst => ?_
    rw [hc.1.1.mp hst] at hbay
    cases hbay

theorem discInBay_rests (hpending : s.pending = []) :
    Triple (On g h (s.Rests K since)) discInBay
      (fun inBay w => inBay = s.bay ∧ On g h (s.Rests K since) w) NoRaise :=
  (on_of_traced fun _ => discInBay_traced hpending).post fun _ _ hw => ⟨hw.2.1, hw.imp fun _ hc => hc.2⟩

theorem refuse_traced {b : Bool} {I : Trace → Prop} (hpending : s.pending = []) (hbay : s.bay = false) :
    Triple (Traced b g h I (s.Rests K since)) refuseWithADiscOut
      (fun _ => Traced b g h I (s.Rests K since)) NoRaise := by
  refine (discInBay_traced hpending).bind fun inBay => Triple.pre (A := fun w => inBay = s.bay ∧
    Traced b g h I (s.Rests K since) w) (Triple.of_fact fun hin => ?_) fun w hw =>
      ⟨hw.on.2.1, hw.imp fun c hc => hc.2⟩
  rw [hin, hbay]
  exact Triple.pure fun _ => id

theorem refuse_rests (hpending : s.pending = []) (hbay : s.bay = false) :
    Triple (On g h (s.Rests K since)) refuseWithADiscOut (fun _ => On g h (s.Rests K since)) NoRaise :=
  on_of_traced fun _ => refuse_traced hpending hbay

/-! ## Moving -/

theorem Stage.sent_ends (hpending : s.pending = []) (a target : Nat) (presenting : Bool) :
    (s.sent a target presenting).Ends (a + s.travel target presenting) (.arrived target presenting)
      { s.docked target presenting with
        busyUntil := (s.sent a target presenting).busyUntil } where
  pending := by
    show Agenda.insertLast _ _ s.pending = _
    rw [hpending]
    rfl
  fires now := by
    cases presenting <;> exact Stage.ext rfl rfl rfl rfl rfl rfl rfl rfl rfl hpending.symm
  calm := hpending
  alone := nofun
  inTime := by
    show _ ≤ max s.busyUntil _
    omega
  busyUntil := rfl

theorem Stage.base_le_travel (target : Nat) (presenting : Bool) (s : Stage) :
    Firmware.seekBaseMs ≤ s.travel target presenting :=
  Nat.le_add_right_of_le (Nat.le_add_right _ _)

theorem Stage.travel_le {target : Nat} (htarget : target ≤ 255) (hposition : s.position ≤ 255)
    (presenting : Bool) : s.travel target presenting ≤ 16280 := by
  have hdiff : Carousel.absDiff target s.position ≤ 255 := by
    unfold Carousel.absDiff
    omega
  have hpush : (if presenting then Firmware.pushMs else 0) ≤ 500 := by
    split
    · exact Nat.le_refl _
    · omega
  simp only [Stage.travel, Firmware.seekBaseMs, Firmware.seekPerSlotMs]
  omega

/-- What the attempts of a move are asked of. -/
theorem sent_attempts (hpending : s.pending = []) {args : List Nat} (hs : Sendable cmdSetPos args)
    (hhomed : (Sim.padded args).getD 0 0 ≠ 0 → s.homed = true) (t₀ : Nat) :
    Attempts (fun c => ∃ u, c.Fits K since { s with busyUntil := u })
      (s.Underway K since ((Sim.padded args).getD 0 0) (s.presents (Sim.padded args))) cmdSetPos args
      t₀ (t₀ + 7015) where
  sendable := hs
  dropped := by decide
  horizon := Nat.le_refl _
  wait := by
    rintro c ms ⟨u, hc⟩ _ _
    have hc' := hc.still hpending ms
    exact ⟨⟨u, hc'⟩, hc'.busyUntil.trans hc.busyUntil.symm⟩
  asked := fun c ⟨u, hc⟩ => ⟨u, hc.asked⟩
  blipped := fun c ⟨u, hc⟩ => ⟨_, hc.blipped _ _⟩
  homed := fun c ⟨u, hc⟩ _ htarget => (congrArg Stage.homed hc.stage).trans (hhomed htarget)
  acted := by
    rintro c rolls ⟨u, hc⟩ _ hidle _ _
    rw [hc.busyUntil] at hidle
    have hsent := hc.sent (Sim.padded args) rolls
    have hnow : (c.acted cmdSetPos (Sim.padded args) rolls).now = c.now := rfl
    have hends := Stage.sent_ends (s := { s with busyUntil := u }) hpending c.now
      ((Sim.padded args).getD 0 0) (s.presents (Sim.padded args))
    have hbase := Stage.base_le_travel ((Sim.padded args).getD 0 0) (s.presents (Sim.padded args))
      { s with busyUntil := u }
    have hseek : Firmware.seekBaseMs = 1500 := rfl
    have hpoll : pollMs = 100 := rfl
    refine ⟨u, c.now, hidle, ?_, hsent.calm fun x hx => ?_⟩
    · rw [Carousel.wait_now, hnow]
      omega
    · obtain rfl := List.mem_singleton.mp (hends.pending ▸ hx)
      rw [hnow]
      show c.now + pollMs < c.now + _
      omega

/-- What raises nothing is mild, whatever the blips. -/
theorem mild {α : Type} {P : World Sim → Prop} {m : Py Sim α} {Q : α → World Sim → Prop}
    (hm : Triple P m Q NoRaise) : Triple P m Q (Mild g) :=
  hm.conseq (fun _ => id) (fun _ _ => id) fun _ _ => .inl

theorem noRaise_of_mild {α : Type} {P : World Sim → Prop} {m : Py Sim α} {Q : α → World Sim → Prop}
    (hm : Triple P m Q (Mild true)) : Triple P m Q NoRaise :=
  hm.conseq (fun _ => id) (fun _ _ => id) fun _ _ he => he.resolve_right nofun

/-- **The rule of a command sent from rest.** -/
theorem require_mild {b : Bool} {I : Trace → Prop} {Q : Carousel → Prop} {cmd : Nat} {args : List Nat}
    (hattempts : ∀ t₀, Attempts (fun c => ∃ u, c.Fits K since { s with busyUntil := u }) Q cmd args
      t₀ (t₀ + 7015)) (hmoves : cmd ∈ [cmdSetPos, cmdRetract, cmdAcceptDisc]) (hI : s.Leads b I I) :
    Triple (Traced b g h I (s.Rests K since)) (require cmd args) (fun _ => Traced b g h I Q) (Mild g) := by
  refine traced_starting fun t₀ => ?_
  refine (require_traced (hattempts t₀) (fun t c ht ⟨u, hc⟩ => hI t c u hc.stage ht) hmoves).pre
    fun w hw => hw.imp ?_
  rintro c ⟨⟨u, hu, hc⟩, hnow⟩
  refine ⟨⟨u, hc⟩, hnow, ?_⟩
  rw [hc.busyUntil]
  show u ≤ _
  omega

theorem require_rests {b : Bool} {I : Trace → Prop} {Q : Carousel → Prop} {cmd : Nat} {args : List Nat}
    (hattempts : ∀ t₀, Attempts (fun c => ∃ u, c.Fits K since { s with busyUntil := u }) Q cmd args
      t₀ (t₀ + 7015)) (hmoves : cmd ∈ [cmdSetPos, cmdRetract, cmdAcceptDisc]) (hI : s.Leads b I I) :
    Triple (Traced b true h I (s.Rests K since)) (require cmd args) (fun _ => Traced b true h I Q)
      NoRaise :=
  noRaise_of_mild (require_mild hattempts hmoves hI)

/-- The rule of sending a move. -/
theorem require_sent (hpending : s.pending = []) {args : List Nat} (hs : Sendable cmdSetPos args)
    (hhomed : (Sim.padded args).getD 0 0 ≠ 0 → s.homed = true) :
    Triple (On g h (s.Rests K since)) (require cmdSetPos args)
      (fun _ => On g h (s.Underway K since ((Sim.padded args).getD 0 0)
        (s.presents (Sim.padded args)))) (Mild g) :=
  on_of_traced fun b => require_mild (sent_attempts hpending hs hhomed) (by decide) (s.leads_true b)

/-- The move ends. -/
theorem idleOr_sent_traced {b : Bool} {I J : Trace → Prop} (hpending : s.pending = []) {target : Nat}
    (htarget : target ≤ 255) (hposition : s.position ≤ 255) (presenting : Bool)
    (hI : ∀ a, (s.sent a target presenting).Leads b I I)
    (hJ : (s.docked target presenting).Leads b I J) (hJ' : (s.docked target presenting).Leads b J J)
    (msg : String) :
    Triple (Traced b g h I (s.Underway K since target presenting)) (idleOr msg)
      (fun _ => Traced b g h J ((s.docked target presenting).Rests K since)) NoRaise := by
  refine Triple.pre (A := fun w => ∃ u a, u ≤ a ∧ Traced b g h I (fun c => a ≤ c.now ∧
    c.Fits K since ({ s with busyUntil := u }.sent a target presenting)) w) ?_ ?_
  · refine Triple.of_exists fun u => Triple.of_exists fun a => Triple.of_fact fun hu => ?_
    have hends := Stage.sent_ends (s := { s with busyUntil := u }) hpending a target presenting
    have htravel := Stage.travel_le (s := { s with busyUntil := u }) htarget hposition presenting
    have hbay : (if presenting then Firmware.bayMs else 0) ≤ 1200 := by
      split
      · exact Nat.le_refl _
      · omega
    refine (idleOr_ends_traced K since hends ((hI a).at_ _) (hJ.at_ _) (hJ'.at_ _) msg).conseq
      (fun w hw => hw.imp fun c hc => ?_) (fun _ w hw => hw.imp fun c hc => ?_) fun _ _ => id
    · refine ⟨.inl hc.2, ?_⟩
      show max u (a + _) ≤ _
      omega
    · exact ⟨_, hc.2, hc.1⟩
  · rintro w ⟨hTidy, htracing, ht, u, a, hu, ha, hc⟩
    exact ⟨u, a, hu, hTidy, htracing, ht, ha, hc⟩

theorem idleOr_sent (hpending : s.pending = []) {target : Nat} (htarget : target ≤ 255)
    (hposition : s.position ≤ 255) (presenting : Bool) (msg : String) :
    Triple (On g h (s.Underway K since target presenting)) (idleOr msg)
      (fun _ => On g h ((s.docked target presenting).Rests K since)) NoRaise :=
  on_of_traced fun b => idleOr_sent_traced hpending htarget hposition presenting
    (fun a => (s.sent a target presenting).leads_true b) ((s.docked target presenting).leads_true b)
    ((s.docked target presenting).leads_true b) msg

theorem sendable_move {slot : Nat} (hslot : slot ≤ slotMax) (eject : Bool) :
    Sendable cmdSetPos [slot, if eject then 1 else 0] := by
  have hmax : slotMax = 100 := rfl
  refine ⟨by decide, fun a ha => ?_, by simp⟩
  rcases List.mem_cons.mp ha with rfl | ha
  · omega
  · obtain rfl := List.mem_singleton.mp ha
    split <;> omega

theorem sendable_bare {cmd : Nat} (hcmd : cmd ≤ 255) : Sendable cmd [] :=
  ⟨hcmd, fun _ ha => absurd ha List.not_mem_nil, Nat.zero_le _⟩

theorem sendable_home : Sendable cmdSetPos [home] := ⟨by decide, by decide, by decide⟩

/-- The stage from which `ensure_homed` lets a move go on. -/
def Stage.onceHomed (s : Stage) : Stage := if s.homed then s else s.docked home false

/-- Homing changes nothing that a move leaves. -/
theorem Stage.onceHomed_same (s : Stage) : s.onceHomed.homed = true ∧
    s.onceHomed.pending = s.pending ∧ s.onceHomed.bay = s.bay ∧ s.onceHomed.occupied = s.occupied ∧
    (s.position ≤ 255 → s.onceHomed.position ≤ 255) ∧
    ∀ target presenting, ∃ b, s.onceHomed.docked target presenting =
      { s.docked target presenting with busyUntil := b } := by
  unfold onceHomed
  split
  next h => exact ⟨h, rfl, rfl, rfl, id, fun _ _ => ⟨s.busyUntil, rfl⟩⟩
  next => exact ⟨rfl, rfl, rfl, rfl, fun _ => Nat.zero_le _, fun _ _ => ⟨s.busyUntil, rfl⟩⟩

theorem ensureHomed_mild (hpending : s.pending = []) (hposition : s.position ≤ 255)
    (progress : Progress) :
    Triple (On g h (s.Rests K since)) (ensureHomed progress)
      (fun _ => On g h (s.onceHomed.Rests K since)) (Mild g) := by
  refine (mild (status_rests hpending)).bind fun st => Triple.of_fact fun hst => ?_
  unfold Stage.onceHomed
  cases hhomed : s.homed with
  | true =>
    refine Triple.ite (fun _ => Triple.pure fun _ => id) fun hno => ?_
    rw [hst.2.mp (not_not.mp hno)] at hhomed
    cases hhomed
  | false =>
    refine Triple.ite (fun hyes => absurd (hst.2.mpr hhomed) hyes) fun _ => ?_
    refine (mild (idleOr_rests hpending _)).bind fun _ => Triple.bind (on_report progress _) fun _ => ?_
    refine (require_sent hpending sendable_home fun hne => absurd rfl hne).bind fun _ => ?_
    have hpresents : s.presents (Sim.padded [home]) = false := decide_eq_false fun hp => hp.1 rfl
    rw [hpresents]
    refine Triple.bind (mild (idleOr_sent hpending (Nat.zero_le _) hposition false _)) fun _ => ?_
    refine (mild (status_rests (s := s.docked home false) hpending)).bind fun st =>
      Triple.of_fact fun hst => ?_
    refine Triple.raiseIf (fun w _ hno => ?_) fun w hw _ => hw
    exact absurd (hst.2.mp (of_decide_eq_true hno)) (by simp [Stage.docked])

/-- A move that returns leaves the carousel docked, from rest with the bay empty. -/
theorem moveTo_mild (hpending : s.pending = []) (hbay : s.bay = false) (hposition : s.position ≤ 255)
    {slot : Nat} (hslot : slot ≤ slotMax) (eject : Bool) (progress : Progress) :
    Triple (On g h fun c => c.Fits K since s ∧ s.busyUntil ≤ c.now + 29757)
      (moveTo slot eject progress)
      (fun _ => On g h
        ((s.docked slot (eject && decide (slot ∈ s.occupied))).Rests K since)) (Mild g) := by
  have hmax : slotMax = 100 := rfl
  refine Triple.bind (M := fun _ => On g h fun c => c.Fits K since s ∧ s.busyUntil ≤ c.now + 29757)
    (Triple.raiseIf (fun w _ hlt => absurd (of_decide_eq_true hlt) (Nat.not_lt.mpr hslot))
      fun w hw _ => hw) fun _ => ?_
  refine (mild (idleOr_resting hpending _)).bind fun _ => ?_
  refine (mild (refuse_rests hpending hbay)).bind fun _ => ?_
  have hsend : ∀ s' : Stage, s'.pending = [] → s'.position ≤ 255 → s'.occupied = s.occupied →
      (slot ≠ home → s'.homed = true) → (∃ b, s'.docked slot (eject && decide (slot ∈ s.occupied)) =
        { s.docked slot (eject && decide (slot ∈ s.occupied)) with busyUntil := b }) →
      Triple (On g h (s'.Rests K since))
        (do
          let _ ← require cmdSetPos [slot, if eject then 1 else 0]
          idleOr ("timed out moving to slot " ++ toString slot))
        (fun _ => On g h
          ((s.docked slot (eject && decide (slot ∈ s.occupied))).Rests K since)) (Mild g) := by
    intro s' hpending' hposition' hoccupied hhomed ⟨b', hdocked⟩
    refine (require_sent hpending' (sendable_move hslot eject) fun hne => hhomed hne).bind fun _ => ?_
    have hpresents : s'.presents (Sim.padded [slot, if eject then 1 else 0]) =
        (eject && decide (slot ∈ s.occupied)) := by
      unfold Stage.presents
      rw [hoccupied]
      cases eject <;> simp [Sim.padded]
    rw [hpresents]
    have htarget : slot ≤ 255 := by omega
    refine (mild (idleOr_sent hpending' htarget hposition' _ _)).post ?_
    rintro _ w ⟨hTidy, b, hb, hc⟩
    rw [hdocked] at hc
    exact ⟨hTidy, b, hb, hc⟩
  by_cases hhome : slot = home
  · refine Triple.bind (M := fun _ => On g h (s.Rests K since)) (Triple.when
      (fun hne => absurd hhome (of_decide_eq_true hne)) fun w hw _ => hw) fun _ => ?_
    exact hsend s hpending hposition rfl (fun hne => absurd hhome hne) ⟨s.busyUntil, rfl⟩
  · obtain ⟨hhomed, hpending', _, hoccupied, hposition', hdocked⟩ := s.onceHomed_same
    refine Triple.bind (M := fun _ => On g h (s.onceHomed.Rests K since)) (Triple.when
      (fun _ => ensureHomed_mild hpending hposition progress)
      fun w _ hno => absurd hhome (of_decide_eq_false hno)) fun _ => ?_
    exact hsend s.onceHomed (hpending'.trans hpending) (hposition' hposition) hoccupied
      (fun _ => hhomed) (hdocked _ _)

/-- **A move returns** from rest with the bay empty, and leaves the carousel docked. -/
theorem moveTo_rests (hpending : s.pending = []) (hbay : s.bay = false) (hposition : s.position ≤ 255)
    {slot : Nat} (hslot : slot ≤ slotMax) (eject : Bool) (progress : Progress) :
    Triple (On true h fun c => c.Fits K since s ∧ s.busyUntil ≤ c.now + 29757)
      (moveTo slot eject progress)
      (fun _ => On true h
        ((s.docked slot (eject && decide (slot ∈ s.occupied))).Rests K since)) NoRaise :=
  noRaise_of_mild (moveTo_mild hpending hbay hposition hslot eject progress)

/-- **Parking returns**, with the carousel at home. -/
theorem park_rests (hpending : s.pending = []) (hbay : s.bay = false) (hposition : s.position ≤ 255)
    (progress : Progress) :
    Triple (On true h fun c => c.Fits K since s ∧ s.busyUntil ≤ c.now + 29757) (park progress)
      (fun _ => On true h ((s.docked home false).Rests K since)) NoRaise := by
  refine Triple.bind (on_report progress _) fun _ => ?_
  refine Triple.attempt (moveTo_rests hpending hbay hposition (Nat.zero_le slotMax) false .none) (fun e =>
    Triple.pre (A := fun _ => False) (fun _ _ hf => hf.elim) fun _ he => ?_) fun _ _ => rfl
  cases he

theorem park_resting (hpending : s.pending = []) (hbay : s.bay = false) (hposition : s.position ≤ 255)
    (progress : Progress) :
    Triple (On true h (s.Rests K since)) (park progress)
      (fun _ => On true h ((s.docked home false).Rests K since)) NoRaise := by
  refine Triple.pre (A := fun w => ∃ b, On true h (fun c =>
    c.Fits K since { s with busyUntil := b } ∧ b ≤ c.now + 29757) w) (Triple.of_exists fun b => ?_) ?_
  · exact park_rests (s := { s with busyUntil := b }) hpending hbay hposition progress
  · rintro w ⟨hTidy, b, hb, hc⟩
    exact ⟨b, hTidy, hc, Nat.le_add_right_of_le hb⟩

/-! ## Resetting -/

/-- The carousel is at the stage `s` but for its error, and busy no longer than `s` or now. -/
def Stage.Loose (K : Nat → Prop) (since : Nat) (s : Stage) (c : Carousel) : Prop :=
  ∃ b error, b ≤ max s.busyUntil c.now ∧ c.Fits K since { s with busyUntil := b, ackTimeout := error }

/-- The commands that move no disc and no carousel. -/
abbrev Idle (cmd : Nat) : Prop := cmd ∉ [cmdSetPos, cmdRetract, cmdAcceptDisc]

theorem dispatch_idle {cmd : Nat} (hcmd : Idle cmd) (args : List Nat) {c : Carousel}
    (hc : c.Fits K since s) :
    ∃ error, (c.dispatch cmd args).2.Fits K since { s with ackTimeout := error } := by
  obtain ⟨rfl, hlapses, hsince⟩ := hc
  refine Carousel.dispatch_rule (P := fun r => ∃ error, r.2.Fits K since
    { c.stage with ackTimeout := error }) (fun _ => ?_) (fun _ => ?_) (fun h => ?_) (fun h => ?_)
    (fun _ => ?_) (fun h => ?_) fun _ _ => ?_
  · exact ⟨c.ackTimeout, rfl, hlapses, hsince⟩
  · exact ⟨false, rfl, hlapses, hsince⟩
  · exact absurd (by rw [h]; decide) hcmd
  · exact absurd (by rw [h]; decide) hcmd
  · exact ⟨false, rfl, hlapses, hsince⟩
  · exact absurd (by rw [h]; decide) hcmd
  · exact ⟨c.ackTimeout, rfl, hlapses, hsince⟩

/-- What such a command does to the stage: a blip makes the unit busy for a moment. -/
theorem handle_idle_fits {cmd : Nat} (hcmd : Idle cmd) (args : List Nat) {c : Carousel}
    (hundue : c.Undue) (hc : c.Fits K since s) :
    ∃ b error, (c.handle cmd args).2.Fits K since { s with busyUntil := b, ackTimeout := error } ∧
      b ≤ max s.busyUntil
        (if (c.handle cmd args).1 = none then c.now + Firmware.blipForMs else 0) := by
  have hmove : cmd ≠ 0x04 := fun h => hcmd (by rw [h]; decide)
  have hdue := Carousel.runDue_of_undue hundue
  obtain ⟨rfl, hlapses, hsince⟩ := hc
  refine Carousel.handle_rule (P := fun r => ∃ b error,
    r.2.Fits K since { c.stage with busyUntil := b, ackTimeout := error } ∧
      b ≤ max c.stage.busyUntil (if r.1 = none then c.now + Firmware.blipForMs else 0))
    (fun _ _ => ?_) (fun _ _ _ _ => ?_) fun d hd => ?_
  · rw [hdue]
    exact ⟨c.busyUntil, c.ackTimeout, ⟨rfl, hlapses, hsince⟩, Nat.le_max_left _ _⟩
  · rw [hdue]
    exact ⟨_, c.ackTimeout, ⟨rfl, hlapses, hsince⟩, Nat.le_refl _⟩
  · have hheard : (d : Carousel).Fits K since c.stage := by
      rw [hdue] at hd
      cases hd <;> exact ⟨rfl, hlapses, hsince⟩
    refine Carousel.hear_rule (P := fun r => ∃ b error,
      r.2.Fits K since { c.stage with busyUntil := b, ackTimeout := error } ∧
        b ≤ max c.stage.busyUntil (if r.1 = none then c.now + Firmware.blipForMs else 0))
      (fun h => absurd h hmove) fun _ => ?_
    obtain ⟨error, hfits⟩ := dispatch_idle hcmd args (c := { d with log := d.log ++ [(cmd, args)] })
      ⟨hheard.stage, hheard.lapses, hheard.since⟩
    exact ⟨c.stage.busyUntil, error, hfits, Nat.le_max_left _ _⟩

/-- Waiting on with nothing pending. -/
theorem Carousel.Fits.waits (hpending : s.pending = []) (k : Nat) {c : Carousel}
    (hc : c.Fits K since s) :
    ((Carousel.wait pollMs)^[k] c).Fits K since s ∧
      ((Carousel.wait pollMs)^[k] c).now = c.now + k * pollMs := by
  have hkept := Carousel.waits_keep (S := fun c => c.Fits K since s) (H := c.now + k * pollMs)
    (fun d ms hd _ _ => ⟨hd.still hpending ms, (hd.still hpending ms).busyUntil.trans hd.busyUntil.symm⟩)
    k hc (Nat.le_refl _)
  exact ⟨hkept.1, hkept.2.2⟩

/-- A command that may go unanswered. -/
theorem command_loose (hpending : s.pending = []) {cmd : Nat} {args : List Nat}
    (hs : Sendable cmd args) (hcmd : Idle cmd) :
    Triple (On g h (s.Loose K since)) (command cmd args ackMs) (fun _ => On g h (s.Loose K since))
      NoRaise := by
  refine (command_on (Q := fun _ => s.Loose K since) hs ?_).post fun _ w ⟨_, _, hw⟩ => hw
  rintro c ⟨b, error, hb, hc⟩ r
  have hread := hc.still hpending Firmware.repeatMs
  obtain ⟨b', error', hfits, hb'⟩ := handle_idle_fits hcmd (Sim.padded args)
    (c.wait_undue Firmware.repeatMs) hread
  obtain ⟨hkept, hnow⟩ := Carousel.Fits.waits (s := { s with busyUntil := b', ackTimeout := error' })
    hpending (Sim.reads ackMs r.1) hfits
  refine ⟨b', error', ?_, hkept⟩
  have hrepeat : Firmware.repeatMs = 143 := rfl
  have hblip : Firmware.blipForMs = 300 := rfl
  have hpoll : pollMs = 100 := rfl
  rw [hnow, Carousel.handle_now, Carousel.wait_now]
  rw [Carousel.wait_now] at hb'
  change b' ≤ max b (if r.1 = none then _ else 0) at hb'
  split at hb'
  next hnone =>
    rw [show Sim.reads ackMs r.1 = 30 by rw [hnone]; rfl]
    omega
  next => omega

theorem Stage.Rests.loose {c : Carousel} (hc : s.Rests K since c) : s.Loose K since c := by
  obtain ⟨b, hb, hc⟩ := hc
  exact ⟨b, s.ackTimeout, Nat.le_trans hb (Nat.le_max_right _ _), hc⟩

/-- **A reset returns** from rest with the bay empty, and leaves the carousel at home with its
error cleared. -/
theorem reset_rests (hpending : s.pending = []) (hbay : s.bay = false) (hposition : s.position ≤ 255)
    (progress : Progress) :
    Triple (On true h fun c => c.Fits K since s ∧ s.busyUntil ≤ c.now + 20000) (reset progress)
      (fun _ => On true h ((s.docked home false).Rests K since)) NoRaise := by
  refine triple_starting fun start => ?_
  refine Triple.pre (A := fun w => (since ≤ start ∧ s.busyUntil ≤ start + 20000) ∧
    On true h (s.Loose K start) w) (Triple.of_fact fun ⟨hsince, hbusy⟩ => ?_) ?_
  · have hcommand : ∀ {cmd args}, Sendable cmd args → Idle cmd →
        Triple (On true h (s.Loose K start)) (command cmd args ackMs)
          (fun _ => On true h (s.Loose K start)) NoRaise := command_loose hpending
    refine Triple.bind (on_report progress _) fun _ => ?_
    refine (hcommand (sendable_bare (by decide)) (by decide)).bind fun _ => ?_
    refine (hcommand (sendable_bare (by decide)) (by decide)).bind fun _ => ?_
    refine (hcommand (sendable_bare (by decide)) (by decide)).bind fun _ => ?_
    refine Triple.pre (A := fun w => ∃ b error, On true h (fun c =>
      c.Fits K start { s with busyUntil := b, ackTimeout := error } ∧ b ≤ c.now + 29757) w)
      (Triple.of_exists fun b => Triple.of_exists fun error => ?_) ?_
    · refine (idleOr_resting (s := { s with busyUntil := b, ackTimeout := error }) hpending _).bind
        fun _ => ?_
      refine (refuse_rests (s := { s with ackTimeout := error }) hpending hbay).bind fun _ => ?_
      have hled : Triple (On true h (Stage.Loose K start { s with busyUntil := 0, ackTimeout := error }))
          (command cmdSetLed [1, 1] ackMs) (fun _ => On true h
            (Stage.Loose K start { s with busyUntil := 0, ackTimeout := error })) NoRaise :=
        command_loose (s := { s with busyUntil := 0, ackTimeout := error }) hpending
          ⟨by decide, by decide, by decide⟩ (by decide)
      refine (hled.pre fun w hw => hw.imp fun c hc => Stage.Rests.loose hc).bind fun _ => ?_
      refine Triple.pre (A := fun w => ∃ error, On true h
        (Stage.Rests K start { s with ackTimeout := error }) w) (Triple.of_exists fun error => ?_) ?_
      · refine Triple.bind (on_report progress _) fun _ => ?_
        refine (noRaise_of_mild (require_sent (s := { s with ackTimeout := error }) hpending sendable_home
          fun hne => absurd rfl hne)).bind fun _ => ?_
        have hpresents : Stage.presents (Sim.padded [home]) { s with ackTimeout := error } = false :=
          decide_eq_false fun hp => hp.1 rfl
        rw [hpresents]
        refine (idleOr_sent (s := { s with ackTimeout := error }) hpending (Nat.zero_le _) hposition
          false _).post ?_
        rintro _ w ⟨hTidy, b, hb, hc⟩
        exact ⟨hTidy, b, hb, hc.mono (fun _ => id) hsince⟩
      · rintro w ⟨hTidy, b, error, hb, hc⟩
        exact ⟨error, hTidy, b, hb.trans_eq (Nat.zero_max _), hc⟩
    · rintro w ⟨hTidy, b, error, hb, hc⟩
      have := hc.since
      exact ⟨b, error, hTidy, hc, by omega⟩
  · rintro w ⟨hTidy, ⟨hc, hbusy⟩, rfl⟩
    exact ⟨⟨hc.since, hbusy⟩, hTidy, s.busyUntil, s.ackTimeout, Nat.le_max_left _ _, hc.stage, hc.lapses, Nat.le_refl _⟩

end Rules

/-! ## Moves that return -/

/-- The client has the unit open and nobody touches it; nothing is pending, the bay is empty, and
the unit will be idle within twenty seconds. -/
structure Ready (w : World Sim) : Prop extends Online w where
  unstirred : w.io.Unstirred
  events : w.io.car.events.entries = []
  bay : w.io.car.discInBay = false
  busy : w.io.car.busyUntil ≤ w.io.car.now + 20000
  tolerable : w.io.car.Tolerable

/-- With nothing on the agenda nothing is pending. -/
theorem Ready.pending {w : World Sim} (h : Ready w) : w.io.car.stage.pending = [] := by
  show w.io.car.events.entries.filter _ = []
  rw [h.events]
  rfl

theorem Ready.on {w : World Sim} (h : Ready w) :
    On true w.io.hands (fun c => c.Fits (fun _ => False) w.io.car.now w.io.car.stage ∧
      w.io.car.stage.busyUntil ≤ c.now + 20000) w := by
  refine ⟨⟨h.toOnline, rfl, h.unstirred, fun _ => h.tolerable⟩, ⟨rfl, fun x hx _ => ?_, Nat.le_refl _⟩,
    h.busy⟩
  rw [Agenda.mem_def, h.events] at hx
  exact List.not_mem_nil hx

/-- A method that settles and raises nothing returns. -/
theorem returns {σ α : Type} {m : Py σ α} {P : World σ → Prop} {Q : α → World σ → Prop} {w : World σ}
    (hm : Settles m w) (h : Triple P m Q NoRaise) (hw : P w) :
    ∃ N a w', Q a w' ∧ ∀ n, N ≤ n → m n w = (.ok a, w') := by
  obtain ⟨N, ⟨o, w'⟩, ho, hN⟩ := hm
  have hrun := hN N (Nat.le_refl _)
  cases o with
  | ok a => exact ⟨N, a, w', h.of_ok hw hrun, hN⟩
  | raise e => cases h.of_raise hw hrun
  | hang => exact absurd rfl ho

/-- **A move that returns really happened**: the carousel is at the slot and homed, the move was
the last that it accepted, all others in the call went to home (and there are none if that is where it
goes), and none met it unhomed; a reset that returns leaves it at home. Both return when the unit is
ready, and a reset then clears the error. -/
theorem move_really_happened (w : World Sim) (hreachable : w.io.car.Reachable) :
    (∀ slot eject progress n w', moveTo slot eject progress n w.taping = (.ok (), w') →
      w'.io.inner.car.position = slot ∧ w'.io.inner.car.homed = true ∧
        (∃ homes, ((∀ move ∈ homes, move = homeward) ∧ (slot = home → homes = [])) ∧
          w'.io.inner.car.moves = w.io.car.moves ++
            homes ++ [(0x04, [slot, if eject then 1 else 0, 0, 0, 0])]) ∧
        ∀ x ∈ w'.io.tape, ¬ Unhomed x) ∧
    (∀ progress n w', reset progress n w = (.ok (), w') →
      w'.io.car.position = home ∧ w'.io.car.homed = true) ∧
    (Ready w → ∀ progress,
      (∀ slot ≤ slotMax, ∀ eject, ∃ N, ∀ n, N ≤ n → ∃ w', moveTo slot eject progress n w = (.ok (), w')) ∧
      ∃ N, ∀ n, N ≤ n → ∃ w', reset progress n w = (.ok (), w') ∧ w'.io.car.ackTimeout = false) := by
  have htimely := hreachable.timely
  refine ⟨fun slot eject progress n w' hr => ?_, fun progress n w' hr => ?_, fun hready progress => ⟨?_, ?_⟩⟩
  · have hon : Untaped (fun v : World Sim => v.io.car.Timely w.io.car.moves) w.taping :=
      ⟨w, onTapeOf_taping w, htimely⟩
    have hdocked := (triple_taped (matched_moveTo taped_twins slot eject progress)
      (moveTo_docked w.io.car.moves slot eject progress)).of_ok hon hr
    obtain ⟨homes, hhomes, hcar⟩ := untaped_io (J := fun s : Sim => ∃ homes,
      ((∀ move ∈ homes, move = homeward) ∧ (slot = home → homes = [])) ∧ s.car.Docked
        (w.io.car.moves ++ homes ++ [(0x04, Sim.padded [slot, if eject then 1 else 0])]) slot) hdocked
    refine ⟨hcar.position, hcar.homed rfl, ⟨homes, hhomes, hcar.moves⟩, ?_⟩
    exact (moveTo_obeyed w.io.car.moves slot eject progress).of_ok
      ⟨hon, fun _ hx => absurd hx List.not_mem_nil⟩ hr
  · have hdocked := (reset_docked w.io.car.moves progress).of_ok htimely hr
    exact ⟨hdocked.position, hdocked.homed rfl⟩
  · intro slot hslot eject
    obtain ⟨N, _, w', _, hN⟩ := returns (settles_moveTo w slot eject progress)
      (moveTo_rests hready.pending hready.bay hreachable.bounded.position hslot eject progress)
      (hready.on.imp fun c hc => ⟨hc.1, Nat.le_trans hc.2 (by omega)⟩)
    exact ⟨N, fun n hn => ⟨w', hN n hn⟩⟩
  · obtain ⟨N, _, w', ⟨_, b, _, hfits⟩, hN⟩ := returns (settles_reset w progress)
      (reset_rests hready.pending hready.bay hreachable.bounded.position progress) hready.on
    exact ⟨N, fun n hn => ⟨w', hN n hn, congrArg Stage.ackTimeout hfits.stage⟩⟩

/-- A new carousel with a disc in slot 3, and a client that has just opened it. -/
def justOpened : World Sim :=
  { World.boot { Sim.new (.made 0 {3} 0x0DECAF01 0 false fun _ _ => false) true .none with
      opened := true, latched := some [0x01, 0, 0, 0xCC, 0, 0, 0, 0] } [] with
    ds := ⟨true, 0, none, none, false⟩ }

theorem move_really_happened_justOpened :
    (∃ w', moveTo 3 true .none 100 justOpened.taping = (.ok (), w') ∧
      w'.io.inner.car.position = 3 ∧ w'.io.inner.car.homed = true) ∧
    (∃ w', reset .none 100 justOpened = (.ok (), w') ∧ w'.io.car.position = home) ∧
    ∃ N, ∀ n, N ≤ n → ∃ w', reset .none n justOpened = (.ok (), w') ∧ w'.io.car.ackTimeout = false := by
  have hreachable : justOpened.io.car.Reachable :=
    .made 0 {3} 0x0DECAF01 0 false false fun _ _ => false
  have hready : Ready justOpened :=
    ⟨⟨⟨[0x01, 0, 0, 0xCC, 0, 0, 0, 0], rfl, rfl, ⟨rfl, rfl, rfl, by decide⟩⟩, by decide⟩,
      fun _ => rfl, rfl, rfl, by decide, fun hb => by cases hb⟩
  have hmoved : (moveTo 3 true .none 100 justOpened.taping).1 = .ok () := by decide +kernel
  have hreset : (reset .none 100 justOpened).1 = .ok () := by decide +kernel
  obtain ⟨hmove, hhome, hreturns⟩ := move_really_happened justOpened hreachable
  obtain ⟨hposition, hhomed, _⟩ := hmove 3 true .none 100 _ (run_eq hmoved)
  exact ⟨⟨_, run_eq hmoved, hposition, hhomed⟩,
    ⟨_, run_eq hreset, (hhome .none 100 _ (run_eq hreset)).1⟩, (hreturns hready .none).2⟩

end StakkaWeb
