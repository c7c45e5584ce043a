import StakkaWeb.Bench
import StakkaWeb.Laws.Simulator

/-!
# The carousel on the bench

An act is its beats, so what every beat keeps holds of every state of every run. Two laws of the
firmware follow: an idle unit has nothing of an earlier command still to do as long as no disc is
found back in its slot too late to settle before the unit is idle, and every disc has the whole of
its window as long as no timer of an earlier disc runs while it waits.
-/

set_option autoImplicit false

namespace StakkaWeb

open Lib

namespace Carousel

variable {c : Carousel}

/-! ## Beats -/

theorem run_rounds (c : Carousel) : Runs.run beat c.rounds c = c.runDue := by
  unfold rounds
  rw [Runs.run_replicate]
  exact (Driven.runDue_eq_turns c).symm

/-- **An act is its beats.** -/
theorem run_beats (a : Act) (c : Carousel) : Runs.run beat (beats a c) c = act a c := by
  cases a with
  | handle cmd args =>
    show Runs.run beat (c.rounds ++ [.serve cmd args]) c = _
    rw [Runs.run_append, run_rounds]
    rfl
  | runDue => exact run_rounds c
  | advance ms => rfl
  | touch hand atMs => rfl

theorem run_score (acts : List Act) (c : Carousel) :
    Runs.run beat (score acts c) c = Runs.run act acts c := by
  induction acts generalizing c with
  | nil => rfl
  | cons a acts ih =>
    unfold score
    rw [Runs.run_append, run_beats, ih]
    rfl

/-- What the next round fires, with the time it was for. -/
def next (c : Carousel) : Option (Nat × CarouselEvent) :=
  c.events.entries.head?.filter fun x => x.1 ≤ c.now

/-- A round fires what is due, if anything is. -/
theorem round_rule {P : Carousel → Prop} (hidle : c.next = none → P c)
    (hfire : ∀ t e, c.next = some (t, e) → c.events.entries.head? = some (t, e) → t ≤ c.now →
      P (fire e { c with events := c.events.pop })) : P (beat .round c) := by
  show P (Driven.turn c)
  unfold Driven.turn
  split
  next hq =>
    refine hidle ?_
    unfold next
    rw [show c.events.entries = [] from hq]
    rfl
  next t e rest hq =>
    have hhead : c.events.entries.head? = some (t, e) := by
      rw [show c.events.entries = _ from hq]
      rfl
    have hnext : c.next = (some (t, e)).filter fun x => x.1 ≤ c.now := by
      unfold next
      rw [hhead]
    split
    next hdue => exact hfire t e (hnext.trans (Option.filter_some_pos (decide_eq_true hdue))) hhead hdue
    next hlate => exact hidle (hnext.trans (Option.filter_some_neg (decide_eq_false hlate)))

/-! ## An idle unit -/

/-- What a command has set going. -/
def ofCommand : CarouselEvent → Bool
  | .arrived _ _ | .backInSlot | .settled | .stored _ => true
  | .discArrives | .taken | .discDrawnOff | .ackExpired => false

/-- If nothing is due and the unit is not busy then nothing of a command is pending. -/
def Settled (c : Carousel) : Prop :=
  (∀ x ∈ c.events.entries, c.now < x.1) → c.busy = false →
    ∀ x ∈ c.events.entries, ofCommand x.2 = false

instance (c : Carousel) : Decidable c.Settled :=
  inferInstanceAs (Decidable ((∀ x ∈ c.events.entries, c.now < x.1) → c.busy = false →
    ∀ x ∈ c.events.entries, ofCommand x.2 = false))

/-- A round that finds a disc in the bay on its way back leaves it time to settle while the unit
is busy. -/
def InTime (c : Carousel) (b : Beat) : Prop :=
  b = .round → c.next.map Prod.snd = some .backInSlot → c.discInBay = true →
    c.now + (Firmware.retractMs - Firmware.retractBayMs) ≤ c.busyUntil

instance (c : Carousel) (b : Beat) : Decidable (c.InTime b) :=
  inferInstanceAs (Decidable (_ → _ → _ → _))

/-- All that a command has set going is over when the unit is idle. -/
def Within (c : Carousel) : Prop := ∀ x ∈ c.events, ofCommand x.2 = true → x.1 ≤ c.busyUntil

theorem Within.mono {c d : Carousel} (h : c.Within) (hevents : ∀ x ∈ d.events, x ∈ c.events)
    (hbusy : c.busyUntil ≤ d.busyUntil) : d.Within :=
  fun x hx hcmd => Nat.le_trans (h x (hevents x hx) hcmd) hbusy

theorem Within.workFor (h : c.Within) (ms : Nat) (working : Bool) : (c.workFor ms working).Within :=
  h.mono (fun _ hx => hx) (Nat.le_max_left _ _)

theorem Within.at_ (h : c.Within) {t : Nat} {e : CarouselEvent}
    (ht : ofCommand e = true → t ≤ c.busyUntil) : (c.at_ t e).Within := by
  intro x hx hcmd
  rcases Agenda.mem_push.mp hx with rfl | hx
  · exact ht hcmd
  · exact h x hx hcmd

/-- An event leaves what it finds within the busy time, and so what it sets going, if it is not a
disc found back too late. -/
theorem Within.fire (h : c.Within) {e : CarouselEvent}
    (htime : e = .backInSlot → c.discInBay = true →
      c.now + (Firmware.retractMs - Firmware.retractBayMs) ≤ c.busyUntil) : (c.fire e).Within := by
  cases e with
  | discArrives => exact (h.workFor Firmware.apertureMs true).at_ nofun
  | taken => exact h.workFor Firmware.takeMs true
  | discDrawnOff => exact (h.workFor Firmware.settleMs true).at_ nofun
  | ackExpired =>
    simp only [Carousel.fire]
    split
    · exact h
    · exact h.workFor Firmware.bayMs true
  | arrived target presenting =>
    simp only [Carousel.fire]
    split <;> exact h
  | backInSlot =>
    simp only [Carousel.fire]
    split
    next hbay =>
      exact Within.at_ (c := { c with discInBay := false, occupied := insert c.position c.occupied })
        h fun _ => htime rfl hbay
    next => exact h
  | settled => exact h
  | stored slot => exact h

/-- A command makes the unit busy for as long as what it sets going takes. -/
theorem Within.dispatch (h : c.Within) (cmd : Nat) (args : List Nat) :
    (c.dispatch cmd args).2.Within := by
  refine dispatch_rule (P := fun r => r.2.Within) (fun _ => h) (fun _ => h) (fun _ => ?_)
    (fun _ => ?_) (fun _ => h) (fun _ => ?_) fun _ _ => h
  · refine Within.at_ (h.workFor _ true) fun _ => ?_
    exact Nat.le_trans (Nat.add_le_add_left (Nat.le_add_right _ _) _) (Nat.le_max_right _ _)
  · refine Within.at_ (h.workFor Firmware.retractMs true) fun _ => ?_
    exact Nat.le_trans (Nat.add_le_add_left (by decide) _) (Nat.le_max_right _ _)
  · unfold cmd1d
    split
    · exact h
    · exact Within.at_ (h.workFor Firmware.ingestMs true) fun _ => Nat.le_max_right _ _

theorem Within.serve (h : c.Within) (cmd : Nat) (args : List Nat) : (c.serve cmd args).2.Within := by
  refine serve_rule (P := fun r => r.2.Within) (fun _ _ => h)
    (fun _ _ _ _ => h.workFor Firmware.blipForMs false) fun d hd => ?_
  have hd' : d.Within := by cases hd <;> exact h
  exact hear_rule (P := fun r => r.2.Within) (fun _ _ _ => hd') fun _ =>
    Within.dispatch (c := { d with log := d.log ++ [(cmd, args)] }) hd' cmd args

/-- What every beat keeps, if it is in time. -/
theorem Within.beat (h : c.Within) {b : Beat} (hb : c.InTime b) : (Carousel.beat b c).Within := by
  cases b with
  | round =>
    refine round_rule (fun _ => h) fun t e hnext _ _ => ?_
    have hpop : ({ c with events := c.events.pop } : Carousel).Within :=
      h.mono (fun _ hx => Agenda.mem_of_mem_pop hx) (Nat.le_refl _)
    refine hpop.fire fun he hbay => hb rfl ?_ hbay
    rw [hnext, he]
    rfl
  | serve cmd args => exact h.serve cmd args
  | pass ms => exact h
  | touch hand atMs => exact h.at_ (by cases hand <;> exact nofun)

theorem Within.settled (h : c.Within) : c.Settled := by
  intro hdue hidle x hx
  by_contra hcmd
  have hlate := hdue x hx
  have hsoon := h x hx (Bool.eq_true_of_not_eq_false hcmd)
  unfold busy at hidle
  have := of_decide_eq_false hidle
  omega

/-- **An idle unit is settled** in every state of every run in which no disc is found back in its
slot too late to settle before the unit is idle. -/
theorem settled_of_inTime (now : Nat) (occupied : Finset Nat) (serial unit : Nat) (blips : Bool)
    (rolls : Nat → Nat → Bool) (acts : List Act)
    (h : ∀ x ∈ Runs.trail beat (score acts (powered now occupied serial unit blips rolls))
      (powered now occupied serial unit blips rolls), x.1.InTime x.2) :
    (Runs.run act acts (powered now occupied serial unit blips rolls)).Settled := by
  rw [← run_score]
  have hnew : (powered now occupied serial unit blips rolls).Within := fun x hx =>
    absurd hx (Agenda.not_mem_empty x)
  exact (Runs.run_inv (I := Within) (G := InTime) (fun _ _ hc hb => hc.beat hb) hnew h).settled

/-- A disc is put out and taken back by a unit that is looked at every 143 milliseconds: it is found
back in its slot 59 milliseconds late. -/
def lateRetract : List Act :=
  [.handle 0x04 [0, 0], .advance 1500, .handle 0x04 [1, 1], .advance 3256, .handle 0x05 [],
    .advance 1859, .runDue, .advance 1741, .runDue]

/-- The unit is idle and a disc is still settling. -/
theorem not_settled : ¬ ∀ (now : Nat) (occupied : Finset Nat) (serial unit : Nat) (blips : Bool)
    (rolls : Nat → Nat → Bool) (acts : List Act),
    (Runs.run act acts (powered now occupied serial unit blips rolls)).Settled := by
  intro h
  have := h 0 {1} 0 0 false (fun _ _ => false) lateRetract
  revert this
  decide

/-- The same disc, found back on time. -/
theorem settled_of_inTime_retract : (Runs.run act
    [.handle 0x04 [0, 0], .advance 1500, .handle 0x04 [1, 1], .advance 3256, .handle 0x05 [],
      .advance 1800, .runDue, .advance 1800, .runDue]
    (powered 0 {1} 0 0 false fun _ _ => false)).Settled :=
  settled_of_inTime 0 {1} 0 0 false _ _ (by decide)

end Carousel

end StakkaWeb
