import StakkaWeb.Laws.Bench
import StakkaWeb.Laws.Moves

/-!
# The window of a disc

A disc that is drawn off the aperture sets a timer that nothing takes back, and the timer puts out
whatever disc awaits its acknowledgement when it runs. So a disc has the whole of its window as long
as no timer that was already set when it was drawn off runs before it is acknowledged.
-/

set_option autoImplicit false

namespace StakkaWeb

open Lib

namespace Carousel

variable {c : Carousel}

/-- The times of the timers that are set. -/
def timers (c : Carousel) : List Nat :=
  c.events.entries.filterMap fun x => if x.2 = .ackExpired then some x.1 else none

/-- The disc of `0x1D` is on its way into its slot. -/
def storing (c : Carousel) : Bool :=
  c.events.entries.any fun x => match x.2 with
    | .stored _ => true
    | _ => false

/-- A disc is fed only when no other waits, awaits its acknowledgement, is being stored or lies in
the bay. -/
def Fed (c : Carousel) (b : Beat) : Prop :=
  b = .round → c.next.map Prod.snd = some .discArrives →
    c.discWaiting = false ∧ c.newDiscAck = false ∧ c.storing = false ∧ c.discInBay = false

instance (c : Carousel) (b : Beat) : Decidable (c.Fed b) :=
  inferInstanceAs (Decidable (_ → _ → _))

/-- The carousel with the story of the disc that was drawn off last. -/
structure Watch where
  car : Carousel
  /-- When it was drawn off. -/
  drawn : Option Nat
  /-- The timers that were set before. -/
  early : List Nat
  /-- A `0x1D` was accepted since. -/
  acked : Bool

namespace Watch

def beat (b : Beat) (w : Watch) : Watch :=
  let car := Carousel.beat b w.car
  match b with
  | .round =>
    if w.car.next.map Prod.snd = some .discDrawnOff then
      { car, drawn := some w.car.now, early := w.car.timers, acked := false }
    else { w with car }
  | .serve _ _ => { w with car, acked := w.acked || decide (car.ingested ≠ w.car.ingested) }
  | .pass _ | .touch _ _ => { w with car }

/-- A round that puts a disc back out does so when its window is over, and it was not
acknowledged. -/
def Whole (w : Watch) (b : Beat) : Prop :=
  b = .round → w.car.next.map Prod.snd = some .ackExpired → w.car.newDiscAck = true →
    (w.drawn.any fun drawn => drawn + Firmware.settleMs + Firmware.ackWindowMs ≤ w.car.now) = true ∧
      w.acked = false

instance (w : Watch) (b : Beat) : Decidable (w.Whole b) :=
  inferInstanceAs (Decidable (_ → _ → _ → _))

/-- A timer that was set before the last disc was drawn off finds it acknowledged. -/
def Spares (w : Watch) (b : Beat) : Prop :=
  b = .round → ∀ x ∈ w.car.next, x.2 = .ackExpired → x.1 ∈ w.early → w.acked = true

instance (w : Watch) (b : Beat) : Decidable (w.Spares b) :=
  inferInstanceAs (Decidable (_ → ∀ x ∈ w.car.next, _))

/-- A watch over a carousel that is switched on. -/
def start (c : Carousel) : Watch := ⟨c, none, [], false⟩

/-- Nothing happens to the carousel for being watched. -/
theorem beat_car (b : Beat) (w : Watch) : (beat b w).car = Carousel.beat b w.car := by
  unfold beat
  cases b with
  | round => dsimp only; split <;> rfl
  | _ => rfl

end Watch

/-! ## What a beat makes of the timers and of the flag -/

theorem lapses_timers (c : Carousel) : c.Lapses (· ∈ c.timers) := by
  intro x hx hack
  exact List.mem_filterMap.mpr ⟨x, hx, if_pos hack⟩

/-- Only a disc that is drawn off sets the flag. -/
theorem fire_newDiscAck {e : CarouselEvent} (he : e ≠ .discDrawnOff)
    (h : (c.fire e).newDiscAck = true) : c.newDiscAck = true := by
  cases e with
  | discDrawnOff => exact absurd rfl he
  | ackExpired =>
    simp only [fire] at h
    split at h
    · exact h
    · cases h
  | arrived target presenting =>
    simp only [fire] at h
    split at h <;> exact h
  | backInSlot =>
    simp only [fire] at h
    split at h <;> exact h
  | _ => exact h

/-- A command sets no timer, and takes the flag away with the disc that it accepts. -/
structure Unflagged (c d : Carousel) : Prop where
  lapses : ∀ K, c.Lapses K → d.Lapses K
  ack : d.newDiscAck = true → c.newDiscAck = true ∧ d.ingested = c.ingested

theorem dispatch_unflagged (cmd : Nat) (args : List Nat) (c : Carousel) :
    Unflagged c (c.dispatch cmd args).2 := by
  refine dispatch_rule (P := fun r => Unflagged c r.2) (fun _ => ⟨fun _ h => h, fun h => ⟨h, rfl⟩⟩)
    (fun _ => ⟨fun _ h => h, fun h => ⟨h, rfl⟩⟩) (fun _ => ⟨fun _ h => h.push _ nofun, fun h => ⟨h, rfl⟩⟩)
    (fun _ => ⟨fun _ h => h.push _ nofun, fun h => ⟨h, rfl⟩⟩) (fun _ => ⟨fun _ h => h, fun h => ⟨h, rfl⟩⟩)
    (fun _ => ?_) fun _ _ => ⟨fun _ h => h, fun h => ⟨h, rfl⟩⟩
  unfold cmd1d
  split
  · exact ⟨fun _ h => h, fun h => ⟨h, rfl⟩⟩
  · exact ⟨fun _ h => h.push _ nofun, nofun⟩

theorem serve_unflagged (cmd : Nat) (args : List Nat) (c : Carousel) :
    Unflagged c (c.serve cmd args).2 := by
  refine serve_rule (P := fun r => Unflagged c r.2) (fun _ _ => ⟨fun _ h => h, fun h => ⟨h, rfl⟩⟩)
    (fun _ _ _ _ => ⟨fun _ h => h, fun h => ⟨h, rfl⟩⟩) fun d hd => ?_
  have hd' : Unflagged c d := by cases hd <;> exact ⟨fun _ h => h, fun h => ⟨h, rfl⟩⟩
  refine hear_rule (P := fun r => Unflagged c r.2) (fun _ _ _ => ⟨hd'.lapses, hd'.ack⟩)
    fun _ => ?_
  have hrun := dispatch_unflagged cmd args { d with log := d.log ++ [(cmd, args)] }
  refine ⟨fun K h => hrun.lapses K (hd'.lapses K h), fun h => ?_⟩
  obtain ⟨hack, hingested⟩ := hrun.ack h
  exact ⟨(hd'.ack hack).1, hingested.trans (hd'.ack hack).2⟩

/-! ## The story of a disc -/

namespace Watch

/-- Every timer was set early or is the one of the disc drawn off last, and a disc that awaits its
acknowledgement was drawn off and had none. -/
structure Tells (w : Watch) : Prop where
  timers : w.car.Lapses fun t => t ∈ w.early ∨
    ∃ drawn ∈ w.drawn, t = drawn + Firmware.settleMs + Firmware.ackWindowMs
  ack : w.car.newDiscAck = true → (∃ drawn, w.drawn = some drawn) ∧ w.acked = false

theorem Tells.round {w : Watch} (h : w.Tells) : (beat .round w).Tells := by
  refine round_rule (c := w.car) (P := fun car => Tells
    (if w.car.next.map Prod.snd = some .discDrawnOff then
      { car, drawn := some w.car.now, early := w.car.timers, acked := false }
    else { w with car })) (fun hidle => ?_) fun t e hnext _ _ => ?_
  · rw [hidle, if_neg nofun]
    exact ⟨h.timers, h.ack⟩
  · have hpop : ∀ {K}, w.car.Lapses K → ({ w.car with events := w.car.events.pop } : Carousel).Lapses K :=
      fun hK x hx => hK x (Agenda.mem_of_mem_pop hx)
    rw [hnext, Option.map_some]
    by_cases he : e = .discDrawnOff
    · rw [if_pos (congrArg some he)]
      refine ⟨fire_lapses ((hpop (lapses_timers w.car)).mono fun _ ht => .inl ht) fun _ => ?_,
        fun _ => ⟨⟨_, rfl⟩, rfl⟩⟩
      exact .inr ⟨w.car.now, rfl, rfl⟩
    · rw [if_neg fun hd => he (Option.some.inj hd)]
      exact ⟨fire_lapses (hpop h.timers) fun hd => absurd hd he,
        fun hack => h.ack (fire_newDiscAck (c := { w.car with events := w.car.events.pop }) he hack)⟩

theorem Tells.beat {w : Watch} (h : w.Tells) (b : Beat) : (Watch.beat b w).Tells := by
  cases b with
  | round => exact h.round
  | serve cmd args =>
    have hserve := serve_unflagged cmd args w.car
    refine ⟨hserve.lapses _ h.timers, fun hack => ?_⟩
    obtain ⟨hflag, hsame⟩ := hserve.ack hack
    obtain ⟨hdrawn, hnone⟩ := h.ack hflag
    refine ⟨hdrawn, ?_⟩
    show (w.acked || decide ((w.car.serve cmd args).2.ingested ≠ w.car.ingested)) = false
    rw [hnone, hsame]
    simp
  | pass ms => exact ⟨h.timers, h.ack⟩
  | touch hand atMs => exact ⟨h.timers.push _ (by cases hand <;> exact nofun), h.ack⟩

/-- A timer that was not set early is the disc's own. -/
theorem Tells.whole {w : Watch} {b : Beat} (h : w.Tells) (hb : w.Spares b) : w.Whole b := by
  intro hround hnext hflag
  obtain ⟨⟨t, e⟩, hx, rfl⟩ := Option.map_eq_some_iff.mp hnext
  obtain ⟨hdrawn, hnone⟩ := h.ack hflag
  refine ⟨?_, hnone⟩
  obtain ⟨hhead, hdue⟩ := Option.filter_eq_some_iff.mp hx
  have hdue : t ≤ w.car.now := of_decide_eq_true hdue
  rcases h.timers _ (List.mem_of_mem_head? hhead) rfl with hearly | ⟨drawn, hmem, rfl⟩
  · have := hb hround _ hx rfl hearly
    rw [hnone] at this
    cases this
  · rw [Option.mem_def.mp hmem]
    exact decide_eq_true hdue

end Watch

section Runs

variable (now : Nat) (occupied : Finset Nat) (serial unit : Nat) (blips : Bool)
  (rolls : Nat → Nat → Bool) (acts : List Act)

/-- The beats of a run from the moment the unit is switched on, under watch. -/
def watched : List (Watch × Beat) :=
  Runs.trail Watch.beat (score acts (powered now occupied serial unit blips rolls))
    (Watch.start (powered now occupied serial unit blips rolls))

/-- What is watched is the run. -/
theorem watched_beats :
    (watched now occupied serial unit blips rolls acts).map (fun x => (x.1.car, x.2)) =
      Runs.trail beat (score acts (powered now occupied serial unit blips rolls))
        (powered now occupied serial unit blips rolls) :=
  Runs.trail_map Watch.car Watch.beat_car _ _

/-- **Every disc has the whole of its window** in every run in which no timer that was set before it
was drawn off runs before it is acknowledged. -/
theorem whole_of_spares
    (h : ∀ x ∈ watched now occupied serial unit blips rolls acts, x.1.Spares x.2) :
    ∀ x ∈ watched now occupied serial unit blips rolls acts, x.1.Whole x.2 := by
  intro x hx
  have hstart : (Watch.start (powered now occupied serial unit blips rolls)).Tells :=
    ⟨fun x hx => absurd hx (Agenda.not_mem_empty x), nofun⟩
  exact (Runs.trail_inv (I := Watch.Tells) (G := fun _ _ => True) (fun _ b hw _ => hw.beat b) hstart
    (fun _ _ => trivial) x hx).whole (h x hx)

end Runs

/-- Two discs are fed, the second once the first is in its slot. -/
def secondDisc : List Act :=
  [.touch .insert none, .runDue, .advance 1500, .runDue, .advance 1800, .handle 0x1D [],
    .advance 1800, .runDue, .touch .insert none, .runDue, .advance 1500, .runDue,
    .advance 6700, .runDue]

/-- The timer of the first disc puts the second one out 6,700 milliseconds after it was drawn
off. -/
theorem not_whole : ¬ ∀ (now : Nat) (occupied : Finset Nat) (serial unit : Nat) (blips : Bool)
    (rolls : Nat → Nat → Bool) (acts : List Act),
    (∀ x ∈ watched now occupied serial unit blips rolls acts, x.1.car.Fed x.2) →
      ∀ x ∈ watched now occupied serial unit blips rolls acts, x.1.Whole x.2 := by
  intro h
  have hfed : ∀ x ∈ watched 0 ∅ 0 0 false (fun _ _ => false) secondDisc, x.1.car.Fed x.2 := by
    decide
  have hshort : ¬ ∀ x ∈ watched 0 ∅ 0 0 false (fun _ _ => false) secondDisc, x.1.Whole x.2 := by
    decide
  exact hshort (h 0 ∅ 0 0 false _ secondDisc hfed)

/-- One disc that nobody acknowledges is put out when its time is over. -/
theorem whole_of_spares_lone : (watched 0 ∅ 0 0 false (fun _ _ => false)
    [.touch .insert none, .runDue, .advance 1500, .runDue, .advance 11800, .runDue]).Forall
      fun x => x.1.Whole x.2 :=
  List.forall_iff_forall_mem.mpr (whole_of_spares 0 ∅ 0 0 false _ _ (by decide))

end Carousel

end StakkaWeb
