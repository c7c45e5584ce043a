import Mathlib.Algebra.BigOperators.Group.List.Basic
import Mathlib.Data.Finset.Card
import StakkaWeb.Laws.Bench

/-!
# No disc is made or lost

The discs that the carousel has are those in its slots, the one in the bay, the one that awaits its
acknowledgement, and those on their way off the aperture or into a slot. A disc that is fed in adds
one, a disc that is taken from the bay is one less, and nothing else changes their number but a disc
that comes to where another one is: the firmware keeps one flag for each place.

No move is heard while another is under way, so that the slot an eject empties is still full when
the carousel arrives there.
-/

set_option autoImplicit false

namespace StakkaWeb

open Lib

namespace Carousel

variable {c : Carousel}

/-! ## The discs of a carousel -/

/-- An event with which a disc is on its way. -/
def carries : CarouselEvent → Bool
  | .discDrawnOff | .stored _ => true
  | .discArrives | .taken | .ackExpired | .arrived _ _ | .backInSlot | .settled => false

/-- How many discs are on their way. -/
def underWay (c : Carousel) : Nat := c.events.entries.countP fun x => carries x.2

/-- Every disc that the carousel has. -/
def discs (c : Carousel) : Nat :=
  c.occupied.card + c.discInBay.toNat + c.newDiscAck.toNat + c.underWay

/-- A disc is fed in. -/
def feeds (_ : Carousel) : CarouselEvent → Bool
  | .discArrives => true
  | _ => false

/-- A hand takes a disc: the bay is not empty. -/
def yields (c : Carousel) : CarouselEvent → Bool
  | .taken => c.discInBay
  | _ => false

/-- A disc comes to where another one is. -/
def collides (c : Carousel) : CarouselEvent → Bool
  | .discDrawnOff => c.newDiscAck
  | .ackExpired => c.newDiscAck && c.discInBay
  | .arrived _ presenting => presenting && c.discInBay
  | .backInSlot => c.discInBay && decide (c.position ∈ c.occupied)
  | .stored slot => decide (slot ∈ c.occupied)
  | .discArrives | .taken | .settled => false

/-- What `p` says of the event that a beat fires, if it fires one. -/
def firing (p : Carousel → CarouselEvent → Bool) (x : Carousel × Beat) : Nat :=
  match x.2, x.1.next with
  | .round, some (_, e) => (p x.1 e).toNat
  | _, _ => 0

/-- How many beats of the acts fire an event of which `p` holds. -/
def tally (p : Carousel → CarouselEvent → Bool) (acts : List Act) (c : Carousel) : Nat :=
  ((Runs.trail beat (score acts c) c).map (firing p)).sum

/-! ## Moves under way -/

/-- The carousel is on its way to a slot. -/
def travels : CarouselEvent → Bool
  | .arrived _ _ => true
  | _ => false

/-- At most one move is under way, the unit is busy until it is over, and the disc that it presents
is in its slot. -/
structure Moving (events : Agenda CarouselEvent) (busyUntil : Nat) (occupied : Finset Nat) : Prop where
  busy : ∀ x ∈ events, travels x.2 = true → x.1 ≤ busyUntil
  one : events.entries.countP (fun x => travels x.2) ≤ 1
  full : ∀ x ∈ events, ∀ target, x.2 = .arrived target true → target ∈ occupied

def OneMove (c : Carousel) : Prop := Moving c.events c.busyUntil c.occupied

/-- A command is served after all that was due. -/
def Served (c : Carousel) (b : Beat) : Prop :=
  ∀ cmd args, b = .serve cmd args → ∀ x ∈ c.events, c.now < x.1

theorem beats_served (a : Act) (c : Carousel) :
    ∀ x ∈ Runs.trail beat (beats a c) c, x.1.Served x.2 := by
  intro x hx cmd args hserve
  cases a with
  | handle cmd' args' =>
    unfold beats at hx
    rw [Runs.trail_append, run_rounds] at hx
    rcases List.mem_append.mp hx with hx | hx
    · have hround := List.eq_of_mem_replicate (Runs.input_of_mem_trail _ hx)
      rw [hround] at hserve
      cases hserve
    · rw [Runs.trail, Runs.trail] at hx
      obtain rfl := List.mem_singleton.mp hx
      intro y hy
      rw [runDue_now]
      exact runDue_later c hy
  | runDue =>
    have hround := List.eq_of_mem_replicate (Runs.input_of_mem_trail _ hx)
    rw [hround] at hserve
    cases hserve
  | advance ms =>
    have hpass := List.mem_singleton.mp (Runs.input_of_mem_trail _ hx)
    rw [hpass] at hserve
    cases hserve
  | touch hand atMs =>
    have htouch := List.mem_singleton.mp (Runs.input_of_mem_trail _ hx)
    rw [htouch] at hserve
    cases hserve

/-- In a score every command is served so. -/
theorem score_served (acts : List Act) (c : Carousel) :
    ∀ x ∈ Runs.trail beat (score acts c) c, x.1.Served x.2 := by
  induction acts generalizing c with
  | nil =>
    intro x hx
    cases Runs.input_of_mem_trail _ hx
  | cons a acts ih =>
    intro x hx
    unfold score at hx
    rw [Runs.trail_append, run_beats] at hx
    rcases List.mem_append.mp hx with hx | hx
    · exact beats_served a c x hx
    · exact ih _ x hx

section OneMove

variable {d : Carousel}

/-- Fewer moves under way, and no less busy or full than before. -/
theorem OneMove.mono (h : c.OneMove)
    (hevents : ∀ x ∈ d.events, travels x.2 = true → x ∈ c.events)
    (hcount : d.events.entries.countP (fun x => travels x.2) ≤
      c.events.entries.countP fun x => travels x.2)
    (hbusy : c.busyUntil ≤ d.busyUntil) (hfull : c.occupied ⊆ d.occupied) : d.OneMove :=
  ⟨fun x hx ht => Nat.le_trans (h.busy x (hevents x hx ht) ht) hbusy, Nat.le_trans hcount h.one,
    fun x hx target he => hfull (h.full x (hevents x hx (by rw [he]; rfl)) target he)⟩

theorem OneMove.workFor (h : c.OneMove) (ms : Nat) (working : Bool) : (c.workFor ms working).OneMove :=
  h.mono (fun _ hx _ => hx) (Nat.le_refl _) (Nat.le_max_left _ _) fun _ hx => hx

/-- An event that is no move is put on the agenda. -/
theorem OneMove.at_ (h : c.OneMove) (t : Nat) {e : CarouselEvent} (he : travels e = false) :
    (c.at_ t e).OneMove := by
  refine h.mono (fun x hx ht => ?_) ?_ (Nat.le_refl _) fun _ hx => hx
  · rcases Agenda.mem_push.mp hx with rfl | hx
    · rw [he] at ht
      cases ht
    · exact hx
  · show (c.events.push t e).entries.countP _ ≤ _
    rw [Agenda.countP_push, he]
    exact Nat.le_refl _

theorem OneMove.insert (h : c.OneMove) (slot : Nat) :
    ({ c with occupied := insert slot c.occupied } : Carousel).OneMove :=
  h.mono (fun _ hx _ => hx) (Nat.le_refl _) (Nat.le_refl _) (Finset.subset_insert slot c.occupied)

/-- With no move under way there is nothing to keep. -/
theorem oneMove_of_none (h : ∀ x ∈ c.events, travels x.2 = false) : c.OneMove := by
  refine ⟨fun x hx ht => absurd ht (Bool.eq_false_iff.mp (h x hx)), ?_, fun x hx target he => ?_⟩
  · rw [List.countP_eq_zero.mpr fun x hx => Bool.eq_false_iff.mp (h x hx)]
    exact Nat.zero_le 1
  · have := h x hx
    rw [he] at this
    cases this

/-- A move is started while none is under way. -/
theorem moving_push {events : Agenda CarouselEvent} {busyUntil : Nat} {occupied : Finset Nat}
    (h : ∀ x ∈ events, travels x.2 = false) {t target : Nat} {presenting : Bool}
    (ht : t ≤ busyUntil) (hfull : presenting = true → target ∈ occupied) :
    Moving (events.push t (.arrived target presenting)) busyUntil occupied := by
  refine ⟨fun x hx hmove => ?_, ?_, fun x hx other he => ?_⟩
  · rcases Agenda.mem_push.mp hx with rfl | hx
    · exact ht
    · rw [h x hx] at hmove
      cases hmove
  · rw [Agenda.countP_push, List.countP_eq_zero.mpr fun x hx => Bool.eq_false_iff.mp (h x hx)]
    exact Nat.le_refl 1
  · rcases Agenda.mem_push.mp hx with rfl | hx
    · cases he
      exact hfull rfl
    · have := h x hx
      rw [he] at this
      cases this

theorem oneMove_cmd04 (h : ∀ x ∈ c.events, travels x.2 = false) (args : List Nat) :
    (c.cmd04 args).2.OneMove := by
  have hmax : ∀ travel more, c.now + travel ≤ max c.busyUntil (c.now + (travel + more)) :=
    fun travel more => Nat.le_trans (Nat.add_le_add_left (Nat.le_add_right _ _) _) (Nat.le_max_right _ _)
  exact moving_push h (hmax _ _) fun hpresenting => (of_decide_eq_true hpresenting).2

/-- An event leaves one move at most: the move that it ends was the one. -/
theorem OneMove.fire (h : c.OneMove) {t : Nat} {e : CarouselEvent}
    (hhead : c.events.entries.head? = some (t, e)) :
    (Carousel.fire e { c with events := c.events.pop }).OneMove := by
  have hpop : ({ c with events := c.events.pop } : Carousel).OneMove := by
    refine h.mono (fun x hx _ => Agenda.mem_of_mem_pop hx) ?_ (Nat.le_refl _) fun _ hx => hx
    rw [Agenda.countP_pop _ hhead]
    exact Nat.le_add_right _ _
  cases e with
  | discArrives => exact (hpop.workFor Firmware.apertureMs true).at_ _ rfl
  | taken => exact hpop.workFor Firmware.takeMs true
  | discDrawnOff => exact (hpop.workFor Firmware.settleMs true).at_ _ rfl
  | ackExpired =>
    simp only [Carousel.fire]
    split
    · exact hpop
    · exact hpop.workFor Firmware.bayMs true
  | arrived target presenting =>
    have hnone : ∀ x ∈ c.events.pop, travels x.2 = false := by
      have hone := h.one
      rw [Agenda.countP_pop _ hhead] at hone
      have hzero : c.events.pop.entries.countP (fun x => travels x.2) = 0 :=
        Nat.le_zero.mp (Nat.le_of_succ_le_succ hone)
      exact fun x hx => Bool.eq_false_iff.mpr (List.countP_eq_zero.mp hzero x hx)
    simp only [Carousel.fire]
    split <;> exact oneMove_of_none hnone
  | backInSlot =>
    simp only [Carousel.fire]
    split
    · exact (hpop.insert c.position).at_ _ rfl
    · exact hpop
  | settled => exact hpop
  | stored slot => exact hpop.insert slot

/-- A command that sets the carousel going is heard when nothing is under way. -/
theorem OneMove.serve (h : c.OneMove) (hserved : ∀ x ∈ c.events, c.now < x.1) (cmd : Nat)
    (args : List Nat) : (c.serve cmd args).2.OneMove := by
  have hidle : c.busy = false → ∀ x ∈ c.events, travels x.2 = false := by
    intro hidle x hx
    rw [← Bool.not_eq_true]
    intro ht
    have hsoon := h.busy x hx ht
    have hlate := hserved x hx
    unfold busy at hidle
    have := of_decide_eq_false hidle
    omega
  refine serve_rule (P := fun r => r.2.OneMove) (fun _ _ => h)
    (fun _ _ _ _ => h.workFor Firmware.blipForMs false) fun d hd => ?_
  have hd' : d.OneMove := by cases hd <;> exact h
  have hnone : cmd ∉ Firmware.alwaysAnswered → ∀ x ∈ d.events, travels x.2 = false := by
    intro hcmd
    cases hd with
    | always halways => exact absurd halways hcmd
    | steady hbusy _ => exact hidle hbusy
    | rolled hbusy _ _ => exact hidle hbusy
  refine hear_rule (P := fun r => r.2.OneMove) (fun _ _ _ => hd') fun _ => ?_
  have hlog : ({ d with log := d.log ++ [(cmd, args)] } : Carousel).OneMove := hd'
  refine dispatch_rule (P := fun r => r.2.OneMove) (fun _ => hlog) (fun _ => hlog) (fun h04 => ?_)
    (fun _ => (hlog.workFor Firmware.retractMs true).at_ (e := .backInSlot) _ rfl) (fun _ => hlog)
    (fun _ => ?_)
    fun _ _ => hlog
  · exact oneMove_cmd04 (hnone (by rw [h04]; decide)) args
  · unfold cmd1d
    split
    · exact hlog
    · exact OneMove.at_ (e := .stored d.position) (hlog.workFor Firmware.ingestMs true) _ rfl

end OneMove

/-! ## The books -/

theorem underWay_push {c d : Carousel} {t : Nat} {e : CarouselEvent} (h : d.events = c.events.push t e) :
    d.underWay = c.underWay + (carries e).toNat := by
  unfold underWay
  rw [h, Agenda.countP_push]

/-- A disc put into a slot is one more there, unless the slot was full. -/
theorem card_insert_slot (slot : Nat) (occupied : Finset Nat) :
    (insert slot occupied).card + (decide (slot ∈ occupied)).toNat = occupied.card + 1 := by
  by_cases h : slot ∈ occupied
  · rw [Finset.insert_eq_of_mem h, decide_eq_true h]
    rfl
  · rw [Finset.card_insert_of_notMem h, decide_eq_false h]
    rfl

/-- What an event does to the number of discs, when it has been taken off the agenda. -/
theorem discs_fire (c : Carousel) (e : CarouselEvent)
    (hfull : ∀ target, e = .arrived target true → target ∈ c.occupied) :
    (c.fire e).discs + ((c.yields e).toNat + (c.collides e).toNat) =
      c.discs + (carries e).toNat + (c.feeds e).toNat := by
  unfold discs
  cases e with
  | discArrives =>
    rw [underWay_push (c := c) (d := c.fire .discArrives) rfl]
    rfl
  | taken =>
    show c.occupied.card + 0 + c.newDiscAck.toNat + c.underWay + (c.discInBay.toNat + 0) = _ + 0 + 0
    omega
  | discDrawnOff =>
    rw [underWay_push (c := c) (d := c.fire .discDrawnOff) rfl]
    show c.occupied.card + c.discInBay.toNat + 1 + (c.underWay + 0) + (0 + c.newDiscAck.toNat) = _ + 1 + 0
    omega
  | ackExpired =>
    cases hack : c.newDiscAck with
    | false => simp [fire, yields, collides, feeds, carries, hack]
    | true =>
      have hfire : c.fire .ackExpired =
          { c with newDiscAck := false, ackTimeout := true, discInBay := true, putOut := true }.workFor
            Firmware.bayMs true := by
        simp [fire, hack]
      rw [hfire]
      show c.occupied.card + 1 + 0 + c.underWay + (0 + (c.newDiscAck && c.discInBay).toNat) =
        c.occupied.card + c.discInBay.toNat + 1 + c.underWay + 0 + 0
      rw [hack, Bool.true_and]
      omega
  | arrived target presenting =>
    cases presenting with
    | false => rfl
    | true =>
      have hcard := Finset.card_erase_add_one (hfull target rfl)
      show (c.occupied.erase target).card + 1 + c.newDiscAck.toNat + c.underWay +
        (0 + c.discInBay.toNat) = _ + 0 + 0
      omega
  | backInSlot =>
    cases hbay : c.discInBay with
    | false => simp [fire, yields, collides, feeds, carries, hbay]
    | true =>
      have hcard := card_insert_slot c.position c.occupied
      have hfire : c.fire .backInSlot =
          { c with discInBay := false, occupied := insert c.position c.occupied }.after
            (Firmware.retractMs - Firmware.retractBayMs) .settled := by
        simp [fire, hbay]
      have hpush : (c.fire .backInSlot).underWay = c.underWay + 0 := by
        rw [hfire]
        exact underWay_push (c := c) (e := .settled) rfl
      rw [hpush, hfire]
      show (insert c.position c.occupied).card + 0 + c.newDiscAck.toNat + (c.underWay + 0) +
          (0 + (c.discInBay && decide (c.position ∈ c.occupied)).toNat) =
        c.occupied.card + 1 + c.newDiscAck.toNat + c.underWay + 0 + 0
      rw [hbay, Bool.true_and]
      omega
  | settled => rfl
  | stored slot =>
    have hcard := card_insert_slot slot c.occupied
    show (insert slot c.occupied).card + c.discInBay.toNat + c.newDiscAck.toNat + c.underWay +
      (0 + (decide (slot ∈ c.occupied)).toNat) = _ + 1 + 0
    omega

/-- A command moves no disc at once, and the one it accepts is on its way from then on. -/
theorem discs_dispatch (cmd : Nat) (args : List Nat) (c : Carousel) :
    (c.dispatch cmd args).2.discs = c.discs := by
  refine dispatch_rule (P := fun r => r.2.discs = c.discs) (fun _ => rfl) (fun _ => rfl) (fun _ => ?_)
    (fun _ => ?_) (fun _ => rfl) (fun _ => ?_) fun _ _ => rfl
  · unfold discs
    rw [underWay_push (c := c) (d := (c.cmd04 args).2) rfl]
    rfl
  · unfold discs
    rw [underWay_push (c := c) (d := c.cmd05.2) rfl]
    rfl
  · unfold cmd1d
    cases hack : c.newDiscAck with
    | false => rfl
    | true =>
      simp only [Bool.not_true, Bool.false_eq_true, if_false]
      unfold discs
      rw [underWay_push (c := c) rfl, hack]
      show c.occupied.card + c.discInBay.toNat + 0 + (c.underWay + 1) = _ + 1 + _
      omega

theorem discs_serve (cmd : Nat) (args : List Nat) (c : Carousel) :
    (c.serve cmd args).2.discs = c.discs := by
  refine serve_rule (P := fun r => r.2.discs = c.discs) (fun _ _ => rfl) (fun _ _ _ _ => rfl)
    fun d hd => ?_
  have hd' : d.discs = c.discs := by cases hd <;> rfl
  refine hear_rule (P := fun r => r.2.discs = c.discs) (fun _ _ _ => hd') fun _ => ?_
  exact (discs_dispatch cmd args _).trans hd'

/-- One beat of the books. -/
theorem discs_beat (h : c.OneMove) (b : Beat) :
    (beat b c).discs + (firing yields (c, b) + firing collides (c, b)) =
      c.discs + firing feeds (c, b) := by
  cases b with
  | serve cmd args => exact discs_serve cmd args c
  | pass ms => rfl
  | touch hand atMs =>
    have hpush := underWay_push (c := c) (d := beat (.touch hand atMs) c) rfl
    have hcarries : carries hand.event = false := by cases hand <;> rfl
    show c.occupied.card + c.discInBay.toNat + c.newDiscAck.toNat + (beat (.touch hand atMs) c).underWay = _
    rw [hpush, hcarries]
    rfl
  | round =>
    unfold firing
    refine round_rule (P := fun d => d.discs + _ = _) (fun hnext => ?_) fun t e hnext hhead _ => ?_
    · rw [hnext]
      rfl
    · rw [hnext]
      have hpop : c.underWay = ({ c with events := c.events.pop } : Carousel).underWay +
          (carries e).toNat := Agenda.countP_pop _ hhead
      have hfire := discs_fire { c with events := c.events.pop } e fun target he =>
        h.full (t, e) (List.mem_of_mem_head? hhead) target he
      unfold discs at hfire ⊢
      rw [hpop]
      show _ + ((c.yields e).toNat + (c.collides e).toNat) = _ + (c.feeds e).toNat
      have hyields : ({ c with events := c.events.pop } : Carousel).yields e = c.yields e := by
        cases e <;> rfl
      have hcollides : ({ c with events := c.events.pop } : Carousel).collides e = c.collides e := by
        cases e <;> rfl
      have hfeeds : ({ c with events := c.events.pop } : Carousel).feeds e = c.feeds e := by
        cases e <;> rfl
      rw [hyields, hcollides, hfeeds] at hfire
      dsimp only at hfire ⊢
      omega

theorem OneMove.beat (h : c.OneMove) {b : Beat} (hb : c.Served b) : (Carousel.beat b c).OneMove := by
  cases b with
  | round => exact round_rule (fun _ => h) fun _ _ _ hhead _ => h.fire hhead
  | serve cmd args => exact h.serve (hb cmd args rfl) cmd args
  | pass ms => exact h
  | touch hand atMs => exact h.at_ _ (by cases hand <;> rfl)

section Runs

/-- What a run brings in and what it takes out. -/
theorem discs_run {c : Carousel} (h : c.OneMove) (acts : List Act) :
    (Runs.run act acts c).discs + (tally yields acts c + tally collides acts c) =
      c.discs + tally feeds acts c := by
  have hmoves : ∀ x ∈ Runs.trail beat (score acts c) c, x.1.OneMove :=
    Runs.trail_inv (I := OneMove) (G := Served) (fun _ _ hd hb => hd.beat hb) h (score_served acts c)
  have hbooks : (Runs.run beat (score acts c) c).discs +
      ((Runs.trail beat (score acts c) c).map fun x => firing yields x + firing collides x).sum =
      c.discs + ((Runs.trail beat (score acts c) c).map (firing feeds)).sum :=
    Runs.run_ledger fun x hx => discs_beat (hmoves x hx) x.2
  rw [run_score, List.sum_map_add] at hbooks
  exact hbooks

variable (now : Nat) (occupied : Finset Nat) (serial unit : Nat) (blips : Bool)
  (rolls : Nat → Nat → Bool) (acts : List Act)

/-- **The books of the carousel balance**, whatever is done to it and whenever: the discs it has and
those that were taken and those that came to where another was are those it began with and those
that were fed in. -/
theorem discs_balance :
    (Runs.run act acts (powered now occupied serial unit blips rolls)).discs +
        (tally yields acts (powered now occupied serial unit blips rolls) +
          tally collides acts (powered now occupied serial unit blips rolls)) =
      occupied.card + tally feeds acts (powered now occupied serial unit blips rolls) := by
  have hnew : (powered now occupied serial unit blips rolls).OneMove :=
    oneMove_of_none fun x hx => absurd hx (Agenda.not_mem_empty x)
  exact discs_run hnew acts

end Runs

end Carousel

end StakkaWeb
