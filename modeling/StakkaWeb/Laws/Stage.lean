import StakkaWeb.Laws.Clockwork

/-!
# Stages of the carousel

A `Stage` is what matters of a carousel to the laws on time: what it holds and where, until when it
is busy, what it has taken in, and what is pending. Entries of the agenda that will do nothing of
note are left out of `pending`: `settled`, and an `_ack_expired` whose disc was taken in. Events act
on stages as they act on carousels, and a wait in which at most one event is pending comes to that
event.
-/

set_option autoImplicit false

namespace StakkaWeb

open Lib

namespace Carousel

/-- Whether an event, were it due, would change more than `retracted`. -/
def lively (c : Carousel) : CarouselEvent → Bool
  | .settled => false
  | .ackExpired => c.newDiscAck
  | _ => true

end Carousel

@[ext]
structure Stage where
  occupied : Finset Nat
  position : Nat
  homed : Bool
  waiting : Bool
  ack : Bool
  bay : Bool
  ackTimeout : Bool
  busyUntil : Nat
  ingested : List Nat
  pending : List (Nat × CarouselEvent)

/-- The stage of a carousel. -/
def Carousel.stage (c : Carousel) : Stage where
  occupied := c.occupied
  position := c.position
  homed := c.homed
  waiting := c.discWaiting
  ack := c.newDiscAck
  bay := c.discInBay
  ackTimeout := c.ackTimeout
  busyUntil := c.busyUntil
  ingested := c.ingested
  pending := c.events.entries.filter fun x => c.lively x.2

namespace Stage

def workFor (now ms : Nat) (s : Stage) : Stage := { s with busyUntil := max s.busyUntil (now + ms) }

def push (t : Nat) (e : CarouselEvent) (s : Stage) : Stage :=
  { s with pending := Agenda.insertLast t e s.pending }

/-- With nothing pending. -/
def calm (s : Stage) : Stage := { s with pending := [] }

/-- What an event does to a stage at the time `now`. -/
def fire (now : Nat) : CarouselEvent → Stage → Stage
  | .discArrives, s =>
    ({ s with waiting := true }.workFor now Firmware.apertureMs).push (now + Firmware.apertureMs)
      .discDrawnOff
  | .taken, s => { s with bay := false, ackTimeout := true }.workFor now Firmware.takeMs
  | .discDrawnOff, s =>
    ({ s with waiting := false, ack := true }.workFor now Firmware.settleMs).push
      (now + Firmware.settleMs + Firmware.ackWindowMs) .ackExpired
  | .ackExpired, s =>
    if s.ack then
      { s with ack := false, ackTimeout := true, bay := true,
               pending := s.pending.filter fun x => decide (x.2 ≠ CarouselEvent.ackExpired) }.workFor now
        Firmware.bayMs
    else s
  | .arrived target presenting, s =>
    if presenting then
      { s with position := target, homed := true, occupied := s.occupied.erase target, bay := true }
    else { s with position := target, homed := true }
  | .backInSlot, s =>
    if s.bay then { s with bay := false, occupied := insert s.position s.occupied } else s
  | .settled, s => s
  | .stored slot, s => { s with occupied := insert slot s.occupied }

/-- An event makes nothing due. -/
theorem fire_later (now : Nat) (e : CarouselEvent) (s : Stage) :
    ∀ x ∈ (s.calm.fire now e).pending, now < x.1 := by
  intro x hx
  cases e with
  | discArrives =>
    obtain rfl := List.mem_singleton.mp (show x ∈ [_] from hx)
    exact Nat.lt_add_of_pos_right (by decide)
  | discDrawnOff =>
    obtain rfl := List.mem_singleton.mp (show x ∈ [_] from hx)
    show now < now + Firmware.settleMs + Firmware.ackWindowMs
    simp only [Firmware.settleMs, Firmware.ackWindowMs]
    omega
  | ackExpired =>
    simp only [fire] at hx
    split at hx <;> exact absurd hx List.not_mem_nil
  | arrived target presenting =>
    simp only [fire] at hx
    split at hx <;> exact absurd hx List.not_mem_nil
  | backInSlot =>
    simp only [fire] at hx
    split at hx <;> exact absurd hx List.not_mem_nil
  | taken => exact absurd hx List.not_mem_nil
  | settled => exact absurd hx List.not_mem_nil
  | stored slot => exact absurd hx List.not_mem_nil

end Stage

namespace Carousel

variable {c : Carousel}

/-! ## Events -/

theorem fire_now (e : CarouselEvent) (c : Carousel) : (c.fire e).now = c.now :=
  Driven.Lawful.now_fire e c

/-- What is pushed on the agenda is pending, if it is lively. -/
theorem pending_push (t : Nat) (e : CarouselEvent) (c : Carousel) :
    ((c.events.push t e).entries.filter fun x => c.lively x.2) =
      if c.lively e then Agenda.insertLast t e c.stage.pending else c.stage.pending :=
  Agenda.filter_insertLast _ t e c.events.sorted

/-- No `_ack_expired` is on the agenda but at times that `K` allows. -/
def Lapses (K : Nat → Prop) (c : Carousel) : Prop := ∀ x ∈ c.events, x.2 = .ackExpired → K x.1

theorem Lapses.mono {K K' : Nat → Prop} (h : c.Lapses K) (hK : ∀ t, K t → K' t) : c.Lapses K' :=
  fun x hx he => hK _ (h x hx he)

/-- **Events act on stages as on carousels**: a disc is drawn off with no `_ack_expired` left over. -/
theorem fire_stage (e : CarouselEvent) (c : Carousel)
    (hlone : e = .discDrawnOff → c.Lapses fun _ => False) :
    (c.fire e).stage = c.stage.fire c.now e := by
  cases e with
  | discArrives =>
    exact Stage.ext rfl rfl rfl rfl rfl rfl rfl rfl rfl (pending_push _ .discDrawnOff c)
  | discDrawnOff =>
    have hpending : ({ c with newDiscAck := true } : Carousel).stage.pending = c.stage.pending := by
      refine List.filter_congr fun x hx => ?_
      have hne : x.2 ≠ .ackExpired := hlone rfl x hx
      unfold lively
      split
      · rfl
      next heq => exact absurd heq hne
      · rfl
    have hpush := pending_push (c.now + Firmware.settleMs + Firmware.ackWindowMs) .ackExpired
      { c with newDiscAck := true }
    rw [hpending] at hpush
    exact Stage.ext rfl rfl rfl rfl rfl rfl rfl rfl rfl hpush
  | ackExpired =>
    cases hack : c.newDiscAck with
    | false =>
      have hstage : c.stage.ack = false := hack
      simp only [fire, Stage.fire]
      rw [if_pos (by rw [hack]; rfl), if_neg (by rw [hstage]; decide)]
    | true =>
      have hstage : c.stage.ack = true := hack
      simp only [fire, Stage.fire]
      rw [if_neg (by rw [hack]; decide), if_pos hstage]
      refine Stage.ext rfl rfl rfl rfl rfl rfl rfl rfl rfl ?_
      show c.events.entries.filter _ = (c.events.entries.filter _).filter _
      rw [List.filter_filter]
      refine List.filter_congr fun x _ => ?_
      cases hx : x.2 <;> simp [lively, workFor, hack]
  | arrived target presenting => cases presenting <;> rfl
  | backInSlot =>
    cases hbay : c.discInBay with
    | false =>
      have hstage : c.stage.bay = false := hbay
      simp only [fire, Stage.fire]
      rw [if_neg (by rw [hbay]; decide), if_neg (by rw [hstage]; decide)]
    | true =>
      have hstage : c.stage.bay = true := hbay
      simp only [fire, Stage.fire]
      rw [if_pos hbay, if_pos hstage]
      exact Stage.ext rfl rfl rfl rfl rfl rfl rfl rfl rfl (pending_push _ .settled c)
  | taken => rfl
  | settled => rfl
  | stored slot => rfl

/-- An event that is not lively changes no stage. -/
theorem fire_inert {e : CarouselEvent} (he : c.lively e = false) :
    e ≠ .discDrawnOff ∧ c.stage.fire c.now e = c.stage := by
  cases e with
  | ackExpired =>
    have hack : c.stage.ack = false := he
    refine ⟨nofun, ?_⟩
    simp only [Stage.fire]
    rw [if_neg (by rw [hack]; decide)]
  | settled => exact ⟨nofun, rfl⟩
  | _ => cases he

theorem fire_lapses {K : Nat → Prop} {e : CarouselEvent} (h : c.Lapses K)
    (hK : e = .discDrawnOff → K (c.now + Firmware.settleMs + Firmware.ackWindowMs)) :
    (c.fire e).Lapses K := by
  have hpush : ∀ (e' : CarouselEvent) t, e' ≠ .ackExpired → ∀ x ∈ c.events.push t e',
      x.2 = .ackExpired → K x.1 := by
    intro e' t he' x hx hack
    rcases Agenda.mem_push.mp hx with rfl | hx
    · exact absurd hack he'
    · exact h x hx hack
  cases e with
  | discArrives => exact hpush .discDrawnOff _ nofun
  | discDrawnOff =>
    intro x hx hack
    rcases Agenda.mem_push.mp hx with rfl | hx
    · exact hK rfl
    · exact h x hx hack
  | ackExpired => simp only [fire]; split <;> exact h
  | arrived target presenting => simp only [fire]; split <;> exact h
  | backInSlot =>
    simp only [fire]
    split
    · exact hpush .settled _ nofun
    · exact h
  | taken => exact h
  | settled => exact h
  | stored slot => exact h

/-- The agenda without its first entry. -/
theorem stage_pop {t : Nat} {e : CarouselEvent} (hhead : c.events.entries.head? = some (t, e)) :
    ∃ rest, c.stage.pending = (if c.lively e then (t, e) :: rest else rest) ∧
      ({ c with events := c.events.pop } : Carousel).stage = { c.stage with pending := rest } := by
  obtain ⟨tail, hentries⟩ := List.head?_eq_some_iff.mp hhead
  refine ⟨tail.filter fun x => c.lively x.2, ?_, Stage.ext rfl rfl rfl rfl rfl rfl rfl rfl rfl ?_⟩
  · show c.events.entries.filter _ = _
    rw [hentries, List.filter_cons]
  · show c.events.entries.tail.filter _ = _
    rw [hentries]
    rfl

/-! ## Waiting -/

/-- The carousel is at the stage `s`, with no `_ack_expired` but as `K` allows, at `since` or
later. -/
structure Fits (K : Nat → Prop) (since : Nat) (s : Stage) (c : Carousel) : Prop where
  stage : c.stage = s
  lapses : c.Lapses K
  since : since ≤ c.now

variable {K : Nat → Prop} {since ms : Nat} {s : Stage}

/-- An event that is not lively fires. -/
theorem Fits.fire_inert (h : c.Fits K since s) {t : Nat} {e : CarouselEvent}
    (hhead : c.events.entries.head? = some (t, e)) (he : c.lively e = false) :
    (fire e { c with events := c.events.pop }).Fits K since s := by
  obtain ⟨rest, hpending, hpop⟩ := stage_pop hhead
  rw [he, if_neg Bool.false_ne_true] at hpending
  have hsame : ({ c with events := c.events.pop } : Carousel).stage = c.stage := by
    rw [hpop, ← hpending]
  obtain ⟨hne, hfire⟩ := Carousel.fire_inert
    (show ({ c with events := c.events.pop } : Carousel).lively e = false from he)
  have hlapses : ({ c with events := c.events.pop } : Carousel).Lapses K :=
    fun x hx => h.lapses x (Agenda.mem_of_mem_pop hx)
  refine ⟨?_, fire_lapses hlapses fun hd => absurd hd hne, ?_⟩
  · rw [fire_stage e _ fun hd => absurd hd hne, hfire, hsame, h.stage]
  · rw [fire_now]
    exact h.since

/-- **Nothing happens before something is due.** -/
theorem Fits.calm (h : c.Fits K since s) (hlater : ∀ x ∈ s.pending, c.now + ms < x.1) :
    (c.wait ms).Fits K since s := by
  have hinv := runDue_inv (fun d => d.now = c.now + ms ∧ d.Fits K since s) ?_
    (c := { c with now := c.now + ms }) ⟨rfl, h.stage, h.lapses, Nat.le_add_right_of_le h.since⟩
  · exact hinv.2
  rintro d t e ⟨hnow, hd⟩ hhead hdue
  refine ⟨(fire_now e _).trans hnow, hd.fire_inert hhead ?_⟩
  refine Bool.eq_false_iff.mpr fun hlively => ?_
  obtain ⟨rest, hpending, _⟩ := stage_pop hhead
  rw [if_pos hlively, hd.stage] at hpending
  have := hlater (t, e) (by rw [hpending]; exact List.mem_cons_self)
  omega

/-- **What is pending alone happens when it is due.** -/
theorem Fits.fires (h : c.Fits K since s) {t : Nat} {e : CarouselEvent}
    (hpending : s.pending = [(t, e)]) (hdue : t ≤ c.now + ms)
    (hlone : e = .discDrawnOff → c.Lapses fun _ => False)
    (hK : e = .discDrawnOff → K (c.now + ms + Firmware.settleMs + Firmware.ackWindowMs)) :
    (c.wait ms).Fits K since (s.calm.fire (c.now + ms) e) := by
  let fired := s.calm.fire (c.now + ms) e
  have hinv := runDue_inv (fun d => d.now = c.now + ms ∧ ((d.Fits K since s ∧
      (e = .discDrawnOff → d.Lapses fun _ => False)) ∨ d.Fits K since fired)) ?_
    (c := { c with now := c.now + ms })
    ⟨rfl, .inl ⟨⟨h.stage, h.lapses, Nat.le_add_right_of_le h.since⟩, hlone⟩⟩
  · -- what is due does not stay
    refine hinv.2.resolve_left fun ⟨hd, _⟩ => ?_
    have hmem : (t, e) ∈ (c.wait ms).stage.pending := by
      rw [show (c.wait ms).stage = s from hd.stage, hpending]
      exact List.mem_singleton_self _
    have := c.wait_undue ms _ (List.mem_of_mem_filter hmem)
    rw [wait_now] at this
    exact absurd hdue (Nat.not_le.mpr this)
  rintro d t' e' ⟨hnow, hd⟩ hhead hdue'
  refine ⟨(fire_now e' _).trans hnow, ?_⟩
  by_cases hlively : d.lively e' = true
  · obtain ⟨rest, hrest, hpop⟩ := stage_pop hhead
    rw [if_pos hlively] at hrest
    rcases hd with ⟨hd, hlone'⟩ | hd
    · rw [hd.stage, hpending] at hrest
      cases hrest
      have hstage : ({ d with events := d.events.pop } : Carousel).stage = s.calm := by
        rw [hpop, hd.stage]
        rfl
      have hpopped : ∀ {K' : Nat → Prop}, d.Lapses K' →
          ({ d with events := d.events.pop } : Carousel).Lapses K' :=
        fun hl x hx => hl x (Agenda.mem_of_mem_pop hx)
      refine .inr ⟨?_, fire_lapses (hpopped hd.lapses) fun he => ?_, ?_⟩
      · rw [fire_stage e _ fun he => hpopped (hlone' he), hstage]
        exact congrArg (fun now => s.calm.fire now e) hnow
      · rw [show ({ d with events := d.events.pop } : Carousel).now = c.now + ms from hnow]
        exact hK he
      · rw [fire_now]
        exact hd.since
    · rw [hd.stage] at hrest
      have := Stage.fire_later (c.now + ms) e s (t', e') (by
        rw [show (s.calm.fire (c.now + ms) e).pending = _ from hrest]
        exact List.mem_cons_self)
      omega
  · rw [Bool.not_eq_true] at hlively
    have hne := (Carousel.fire_inert (c := d) hlively).1
    refine hd.imp (fun ⟨hd, hlone'⟩ => ⟨hd.fire_inert hhead hlively, fun he => ?_⟩) fun hd =>
      hd.fire_inert hhead hlively
    refine fire_lapses (fun x hx => hlone' he x (Agenda.mem_of_mem_pop hx)) fun hd => absurd hd hne

/-- What is pending is not due right after a wait. -/
theorem Undue.pending (h : c.Undue) : ∀ x ∈ c.stage.pending, c.now < x.1 :=
  fun x hx => h x (List.mem_of_mem_filter hx)

/-! ## Commands -/

theorem Fits.asked (h : c.Fits K since s) : c.asked.Fits K since s := ⟨h.stage, h.lapses, h.since⟩

theorem Fits.mono {K' : Nat → Prop} {since' : Nat} (h : c.Fits K since s) (hK : ∀ t, K t → K' t)
    (hsince : since' ≤ since) : c.Fits K' since' s :=
  ⟨h.stage, h.lapses.mono hK, Nat.le_trans hsince h.since⟩

end Carousel

end StakkaWeb
