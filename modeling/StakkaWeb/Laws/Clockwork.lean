import StakkaWeb.Laws.Command

/-!
# The carousel on the clock

With no hands between its calls, everything a command does to the carousel is a `wait` of 143 ms,
one call of `handle`, and waits of 100 ms. This module says what a wait does to a carousel of which
it is known what is pending, so that the timed laws need neither the agenda nor the transport.
-/

set_option autoImplicit false

namespace StakkaWeb

open Lib

namespace Carousel

/-- Time passes, and what is due by then happens. -/
def wait (ms : Nat) (c : Carousel) : Carousel := { c with now := c.now + ms }.runDue

/-- Nothing is due. -/
def Undue (c : Carousel) : Prop := ∀ x ∈ c.events, c.now < x.1

variable {c : Carousel}

@[simp] theorem wait_now (ms : Nat) (c : Carousel) : (c.wait ms).now = c.now + ms := runDue_now _

theorem wait_undue (ms : Nat) (c : Carousel) : (c.wait ms).Undue := by
  intro x hx
  rw [wait_now]
  exact runDue_later _ hx

theorem wait_sameSetup (ms : Nat) (c : Carousel) : SameSetup c (c.wait ms) := by
  have h := runDue_sameSetup { c with now := c.now + ms }
  exact ⟨h.serial, h.unit, h.unknownBit, h.blips, h.rolls, h.log, h.dropped, h.turns, h.ingested⟩

theorem runDue_of_undue (h : c.Undue) : c.runDue = c := Driven.runDue_eq_self h

/-! ## Requests for the status -/

/-- A status request is answered at once, after the events that are due. -/
theorem handle_request (c : Carousel) :
    c.handle cmdRequestState (Sim.padded []) = (some c.runDue.statusReply, c.runDue.asked) := by
  have hanswered : cmdRequestState ∈ Firmware.alwaysAnswered := by decide
  unfold handle serve
  rw [if_neg fun hb => hb.2 hanswered, if_neg fun hb => hb.2 hanswered]
  rfl

theorem handle_status (h : c.Undue) :
    c.handle cmdRequestState (Sim.padded []) = (some c.statusReply, c.asked) := by
  rw [handle_request, runDue_of_undue h]

/-- The word in the packet of a status reply. -/
theorem replyPacket_status (unit msgid : Nat) (c : Carousel) :
    (replyPacket unit msgid cmdRequestState c.statusReply).status = c.status :=
  c.status_word

/-- One turn of a wait: the status is read after 143 ms, and the reply 100 ms later. -/
def polled (c : Carousel) : Carousel := (c.wait Firmware.repeatMs).asked.wait pollMs

@[simp] theorem polled_now (c : Carousel) :
    c.polled.now = c.now + Firmware.repeatMs + pollMs := by
  unfold polled
  rw [wait_now]
  show (c.wait Firmware.repeatMs).now + pollMs = _
  rw [wait_now]

end Carousel

/-! ## The transport without hands in between -/

namespace Sim

/-- No hand acts between the calls. -/
def Unstirred (s : Sim) : Prop := ∀ k, s.hands.between k = []

variable {s : Sim}

theorem Unstirred.stir_car (h : s.Unstirred) : s.stir.car = s.car := by
  unfold stir
  rw [h s.calls]
  rfl

theorem Unstirred.seeded_car (h : s.Unstirred) (timeoutMs : Nat) :
    (s.seeded timeoutMs).car = s.car.wait (min timeoutMs Firmware.repeatMs) := by
  have hnext : (s.stir.tick (min timeoutMs Firmware.repeatMs)).Unstirred := h
  unfold seeded
  rw [hnext.stir_car]
  show ({ s.stir.car with now := s.stir.car.now + _ } : Carousel).runDue = _
  rw [h.stir_car]
  rfl

theorem Unstirred.lulls_car (h : s.Unstirred) (k : Nat) :
    (lull^[k] s).car = (Carousel.wait pollMs)^[k] s.car := by
  induction k generalizing s with
  | zero => rfl
  | succ k ih =>
    have hcar : s.lull.car = s.car.wait pollMs := by
      show ({ s.stir.car with now := s.stir.car.now + pollMs } : Carousel).runDue = _
      rw [h.stir_car]
      rfl
    have hlull : s.lull.Unstirred := h
    rw [Function.iterate_succ_apply, Function.iterate_succ_apply, ih hlull, hcar]

theorem lulls_hands (k : Nat) (s : Sim) : (lull^[k] s).hands = s.hands := by
  induction k generalizing s with
  | zero => rfl
  | succ k ih => exact (ih s.lull).trans rfl

theorem deliver_hands (msgid cmd : Nat) (args : List Nat) (s : Sim) :
    (s.deliver msgid cmd args).hands = s.hands := by
  unfold deliver
  split <;> rfl

theorem deliver_car (msgid cmd : Nat) (args : List Nat) (s : Sim) :
    (s.deliver msgid cmd args).car = (s.car.handle cmd args).2 := by
  unfold deliver
  rcases hr : s.car.handle cmd args with ⟨_ | _, car⟩ <;> rfl

/-- What a command does to the carousel, and that the hands stay as they are. -/
theorem Unstirred.call_car (h : s.Unstirred) (msgid cmd : Nat) (args : List Nat) (timeoutMs : Nat) :
    let d := s.car.wait (min timeoutMs Firmware.repeatMs)
    let r := d.handle cmd (padded args)
    (s.call msgid cmd args timeoutMs).1 = r.1 ∧
      (s.call msgid cmd args timeoutMs).2.car = (Carousel.wait pollMs)^[reads timeoutMs r.1] r.2 ∧
      (s.call msgid cmd args timeoutMs).2.hands = s.hands := by
  intro d r
  have hr : (s.seeded timeoutMs).car.handle cmd (padded args) = r := by rw [h.seeded_car timeoutMs]
  have hunstirred : ((s.seeded timeoutMs).deliver msgid cmd (padded args)).Unstirred := by
    intro k
    rw [deliver_hands]
    exact h k
  refine ⟨congrArg Prod.fst hr, ?_, ?_⟩
  · show (lull^[_] _).car = _
    rw [hunstirred.lulls_car, deliver_car, hr]
  · show (lull^[_] _).hands = _
    rw [lulls_hands, deliver_hands]
    rfl

end Sim

end StakkaWeb
