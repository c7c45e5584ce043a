import StakkaWeb.Laws.Drift

/-!
# The bay interlock

A move reads the bay once and then acts. Between the reading and the accepted `0x04` lie homing,
reads and up to three sends, and whatever the hands and the firmware do meanwhile. Three
properties of the carousel carry the argument: `Guarded` between moves, `Still` once the unit has
been seen idle, `Cleared` from a report that has shown the bay clear to the `0x04`. The one thing that
gets past them is `_ack_expired` in the gap, and `putOut` tells it.
-/

set_option autoImplicit false

namespace StakkaWeb

open Lib Lib.Prog

namespace Carousel

/-- An event that puts a presented disc in the bay. -/
def Presents (e : CarouselEvent) : Prop := ∃ target, e = .arrived target true

/-- An event that ends a move. -/
def Arrives (e : CarouselEvent) : Prop := ∃ target presenting, e = .arrived target presenting

/-- Only a disc that was put out is ever turned. -/
def SafeTurns (c : Carousel) : Prop := ∀ turn ∈ c.turns, turn.putOut = false → turn.bay = false

/-- A disc that is being presented is in the bay before the unit is idle. -/
structure Guarded (c : Carousel) : Prop where
  presents : ∀ x ∈ c.events, Presents x.2 → x.1 ≤ c.busyUntil
  safe : c.SafeTurns

/-- No disc is being presented. -/
structure Still (c : Carousel) : Prop where
  still : ∀ x ∈ c.events, ¬ Presents x.2
  safe : c.SafeTurns

/-- If no disc was put out since the bay was read, it is clear. -/
structure Cleared (c : Carousel) : Prop extends Still c where
  clear : c.putOut = false → c.discInBay = false

theorem Still.guarded {c : Carousel} (h : c.Still) : c.Guarded :=
  ⟨fun x hx hp => absurd hp (h.still x hx), h.safe⟩

/-- An idle unit presents nothing: what it had to present has arrived. -/
theorem Guarded.still {c : Carousel} (h : c.Guarded) (hidle : c.busy = false)
    (hlater : ∀ x ∈ c.events, c.now < x.1) : c.Still := by
  refine ⟨fun x hx hp => ?_, h.safe⟩
  have hdue := h.presents x hx hp
  have hlate := hlater x hx
  simp only [busy, decide_eq_false_iff_not, Nat.not_lt] at hidle
  omega

/-! ## What the firmware's own events do -/

/-- No event makes anything arrive anew, and none shortens the time for which the unit is busy. -/
theorem fire_arrives (e : CarouselEvent) (c : Carousel) :
    (∀ x ∈ (c.fire e).events, Arrives x.2 → x ∈ c.events) ∧ c.busyUntil ≤ (c.fire e).busyUntil := by
  have hpush : ∀ t e', ¬ Arrives e' → ∀ x ∈ c.events.push t e', Arrives x.2 → x ∈ c.events := by
    intro t e' he x hx ha
    rcases Agenda.mem_push.mp hx with rfl | hx
    · exact absurd ha he
    · exact hx
  cases e with
  | discArrives => exact ⟨hpush _ _ nofun, Nat.le_max_left _ _⟩
  | taken => exact ⟨fun x hx _ => hx, Nat.le_max_left _ _⟩
  | discDrawnOff => exact ⟨hpush _ _ nofun, Nat.le_max_left _ _⟩
  | ackExpired =>
    simp only [fire]
    split
    · exact ⟨fun x hx _ => hx, Nat.le_refl _⟩
    · exact ⟨fun x hx _ => hx, Nat.le_max_left _ _⟩
  | arrived target presenting =>
    simp only [fire]
    split <;> exact ⟨fun x hx _ => hx, Nat.le_refl _⟩
  | backInSlot =>
    simp only [fire]
    split
    · exact ⟨hpush _ _ nofun, Nat.le_refl _⟩
    · exact ⟨fun x hx _ => hx, Nat.le_refl _⟩
  | settled => exact ⟨fun x hx _ => hx, Nat.le_refl _⟩
  | stored slot => exact ⟨fun x hx _ => hx, Nat.le_refl _⟩

theorem Presents.arrives {e : CarouselEvent} : Presents e → Arrives e :=
  fun ⟨target, he⟩ => ⟨target, true, he⟩

theorem fire_presents (e : CarouselEvent) (c : Carousel) :
    (∀ x ∈ (c.fire e).events, Presents x.2 → x ∈ c.events) ∧ c.busyUntil ≤ (c.fire e).busyUntil :=
  ⟨fun x hx hp => (fire_arrives e c).1 x hx hp.arrives, (fire_arrives e c).2⟩

/-- Only presenting a disc fills the bay unnoticed: `_ack_expired` raises `putOut`. -/
theorem fire_bay {e : CarouselEvent} (he : ¬ Presents e) {c : Carousel}
    (hput : (c.fire e).putOut = false) (hbay : (c.fire e).discInBay = true) :
    c.putOut = false ∧ c.discInBay = true := by
  cases e with
  | discArrives | discDrawnOff | settled | stored => exact ⟨hput, hbay⟩
  | taken => cases hbay
  | ackExpired =>
    simp only [fire] at hput hbay
    split at hput
    next hack =>
      rw [if_pos hack] at hbay
      exact ⟨hput, hbay⟩
    next => cases hput
  | arrived target presenting =>
    cases presenting with
    | true => exact absurd ⟨target, rfl⟩ he
    | false => exact ⟨hput, hbay⟩
  | backInSlot =>
    simp only [fire] at hput hbay
    split at hbay
    next => cases hbay
    next hout =>
      rw [if_neg hout] at hput
      exact ⟨hput, hbay⟩

theorem not_arrives_hand (a : Hand) : ¬ Arrives a.event := by
  rintro ⟨target, presenting, ha⟩
  cases a <;> cases ha

theorem mem_at_hand {t : Nat} {a : Hand} {c : Carousel} {x : Nat × CarouselEvent}
    (hx : x ∈ (c.at_ t a.event).events) (ha : Arrives x.2) : x ∈ c.events := by
  rcases Agenda.mem_push.mp hx with rfl | hx
  · exact absurd ha (not_arrives_hand a)
  · exact hx

theorem safeTurns_fire {c : Carousel} (h : c.SafeTurns) (e : CarouselEvent) :
    (fire e { c with events := c.events.pop }).SafeTurns := by
  unfold SafeTurns
  rw [(fire_sameSetup e _).turns]
  exact h

theorem Guarded.drifts : Drifts Guarded where
  hand t a c h := ⟨fun x hx hp => h.presents x (mem_at_hand hx hp.arrives) hp, h.safe⟩
  later ms c h := ⟨h.presents, h.safe⟩
  fire c t e h _ _ := by
    obtain ⟨hmem, hbusy⟩ := fire_presents e { c with events := c.events.pop }
    refine ⟨fun x hx hp => Nat.le_trans ?_ hbusy, safeTurns_fire h.safe e⟩
    exact h.presents x (Agenda.mem_of_mem_pop (hmem x hx hp)) hp

theorem still_fire {c : Carousel} (h : c.Still) (e : CarouselEvent) :
    (fire e { c with events := c.events.pop }).Still :=
  ⟨fun x hx hp => h.still x
    (Agenda.mem_of_mem_pop ((fire_presents e { c with events := c.events.pop }).1 x hx hp)) hp,
    safeTurns_fire h.safe e⟩

/-- The event that fires presents nothing when nothing on the agenda does. -/
theorem Still.head {c : Carousel} (h : c.Still) {t : Nat} {e : CarouselEvent}
    (hhead : c.events.entries.head? = some (t, e)) : ¬ Presents e :=
  h.still (t, e) (List.mem_of_head? hhead)

theorem Still.drifts : Drifts Still where
  hand _ _ _ h := ⟨fun x hx hp => h.still x (mem_at_hand hx hp.arrives) hp, h.safe⟩
  later _ _ h := ⟨h.still, h.safe⟩
  fire _ _ e h _ _ := still_fire h e

theorem Cleared.drifts : Drifts Cleared where
  hand t a c h := ⟨Still.drifts.hand t a c h.toStill, h.clear⟩
  later ms c h := ⟨⟨h.still, h.safe⟩, h.clear⟩
  fire c t e h hhead _ := by
    refine ⟨still_fire h.toStill e, fun hput => Bool.eq_false_iff.mpr fun hbay => ?_⟩
    obtain ⟨hput', hbay'⟩ := fire_bay (h.toStill.head hhead) hput hbay
    exact absurd hbay' (Bool.eq_false_iff.mp (h.clear hput'))

/-! ## What commands do -/

/-- What every command but an accepted `0x04` leaves alone. -/
structure Gentle (c d : Carousel) : Prop where
  presents : ∀ x ∈ d.events, Presents x.2 → x ∈ c.events
  busyUntil : c.busyUntil ≤ d.busyUntil
  turns : d.turns = c.turns
  bay : d.discInBay = c.discInBay
  putOut : d.discInBay = true → d.putOut = c.putOut

theorem Gentle.refl (c : Carousel) : Gentle c c :=
  ⟨fun _ hx _ => hx, Nat.le_refl _, rfl, rfl, fun _ => rfl⟩

theorem Gentle.guarded {c d : Carousel} (h : Gentle c d) (hc : c.Guarded) : d.Guarded := by
  refine ⟨fun x hx hp => Nat.le_trans (hc.presents x (h.presents x hx hp) hp) h.busyUntil, ?_⟩
  unfold SafeTurns
  rw [h.turns]
  exact hc.safe

theorem Gentle.still {c d : Carousel} (h : Gentle c d) (hc : c.Still) : d.Still := by
  refine ⟨fun x hx hp => hc.still x (h.presents x hx hp) hp, ?_⟩
  unfold SafeTurns
  rw [h.turns]
  exact hc.safe

theorem Gentle.cleared {c d : Carousel} (h : Gentle c d) (hc : c.Cleared) : d.Cleared := by
  refine ⟨h.still hc.toStill, fun hput => Bool.eq_false_iff.mpr fun hbay => ?_⟩
  have hclear := hc.clear ((h.putOut hbay).symm.trans hput)
  rw [h.bay, hclear] at hbay
  cases hbay

theorem dispatch_gentle {cmd : Nat} (hcmd : cmd ≠ 0x04) (args : List Nat) (c : Carousel) :
    Gentle c (c.dispatch cmd args).2 := by
  have hpush : ∀ {t e'} (d : Carousel), ¬ Presents e' → ∀ x ∈ d.events.push t e', Presents x.2 →
      x ∈ d.events := by
    intro t e' d he x hx hp
    rcases Agenda.mem_push.mp hx with rfl | hx
    · exact absurd hp he
    · exact hx
  refine dispatch_rule (P := fun r => Gentle c r.2) (fun _ => ?_) (fun _ => ?_)
    (fun h => absurd h hcmd) (fun _ => ?_) (fun _ => ?_) (fun _ => ?_) fun _ _ => .refl c
  · refine ⟨fun _ hx _ => hx, Nat.le_refl _, rfl, rfl, fun hbay => ?_⟩
    exact (congrArg (c.putOut && ·) hbay).trans (Bool.and_true _)
  · exact ⟨fun _ hx _ => hx, Nat.le_refl _, rfl, rfl, fun _ => rfl⟩
  · exact ⟨hpush c nofun, Nat.le_max_left _ _, rfl, rfl, fun _ => rfl⟩
  · exact ⟨fun _ hx _ => hx, Nat.le_refl _, rfl, rfl, fun _ => rfl⟩
  · unfold cmd1d
    split
    · exact .refl c
    · exact ⟨hpush c nofun, Nat.le_max_left _ _, rfl, rfl, fun _ => rfl⟩

/-- What `handle` made of a command: only an accepted `0x04` does more than `Gentle` allows, and
the unit was idle then. -/
inductive Made (cmd : Nat) (args : List Nat) (c : Carousel) : Option (List Nat) → Carousel → Prop
  | gentle {r : Option (List Nat)} {d : Carousel} (h : Gentle c.runDue d)
    (hcmd : r = none ∨ cmd ≠ 0x04) : Made cmd args c r d
  | turned {d : Carousel} (h : Gentle c.runDue d) (hcmd : cmd = 0x04) (hbusy : c.runDue.busy = false) :
    Made cmd args c (some (cmd04 args d).1) (cmd04 args d).2

theorem handle_made (cmd : Nat) (args : List Nat) (c : Carousel) :
    Made cmd args c (c.handle cmd args).1 (c.handle cmd args).2 := by
  refine handle_rule (P := fun r => Made cmd args c r.1 r.2) (fun _ _ => ?_) (fun _ _ _ _ => ?_)
    fun d hd => ?_
  · exact .gentle ⟨fun _ hx _ => hx, Nat.le_refl _, rfl, rfl, fun _ => rfl⟩ (.inl rfl)
  · exact .gentle ⟨fun _ hx _ => hx, Nat.le_max_left _ _, rfl, rfl, fun _ => rfl⟩ (.inl rfl)
  · have hgentle : Gentle c.runDue d := by
      cases hd <;> exact ⟨fun _ hx _ => hx, Nat.le_refl _, rfl, rfl, fun _ => rfl⟩
    refine hear_rule (P := fun r => Made cmd args c r.1 r.2) (fun _ _ _ => ?_) fun _ => ?_
    · refine .gentle ?_ (.inl rfl)
      exact ⟨hgentle.presents, hgentle.busyUntil, hgentle.turns, hgentle.bay, hgentle.putOut⟩
    · by_cases hcmd : cmd = 0x04
      · subst hcmd
        refine .turned ?_ rfl ?_
        · exact ⟨hgentle.presents, hgentle.busyUntil, hgentle.turns, hgentle.bay, hgentle.putOut⟩
        · cases hd with
          | always h => exact absurd h (by decide)
          | steady hbusy => exact hbusy
          | rolled hbusy => exact hbusy
      · have := dispatch_gentle hcmd args { d with log := d.log ++ [(cmd, args)] }
        refine .gentle ⟨fun x hx hp => hgentle.presents x (this.presents x hx hp) hp, ?_, ?_, ?_, ?_⟩
          (.inr hcmd)
        · exact Nat.le_trans hgentle.busyUntil this.busyUntil
        · exact this.turns.trans hgentle.turns
        · exact this.bay.trans hgentle.bay
        · exact fun hbay => (this.putOut hbay).trans (hgentle.putOut (this.bay.symm.trans hbay))

/-- An accepted move from a cleared bay is a safe turn, and what it presents arrives in time. -/
theorem cmd04_guarded {c : Carousel} (h : c.Cleared) (args : List Nat) :
    (cmd04 args c).2.Guarded := by
  refine ⟨fun x hx hp => ?_, fun turn ht hput => ?_⟩
  · rcases Agenda.mem_push.mp hx with rfl | hx
    · show c.now + _ ≤ max c.busyUntil (c.now + _)
      omega
    · exact absurd hp (h.still x hx)
  · rcases List.mem_append.mp ht with ht | ht
    · exact h.safe turn ht hput
    · obtain rfl := List.mem_singleton.mp ht
      exact h.clear hput

/-- A move that presents nothing leaves the bay as it is. -/
theorem cmd04_cleared {c : Carousel} (h : c.Cleared) {args : List Nat} (he : args.getD 1 0 = 0) :
    (cmd04 args c).2.Cleared := by
  have hguarded := cmd04_guarded h args
  refine ⟨⟨fun x hx hp => ?_, hguarded.safe⟩, h.clear⟩
  rcases Agenda.mem_push.mp hx with rfl | hx
  · obtain ⟨_, htarget⟩ := hp
    have hpresenting := (CarouselEvent.arrived.inj htarget).2
    rw [decide_eq_true_eq] at hpresenting
    exact hpresenting.1 he
  · exact h.still x hx hp

end Carousel

/-! ## Waiting and reading the bay -/

section Client

open Carousel

/-- A report of a guarded carousel: without `BUSY` nothing is being presented. -/
theorem idle_reports : Reports Guarded fun st c => c.Guarded ∧ (st &&& stBusy = 0 → c.Still) where
  before := Guarded.drifts
  after _ := Guarded.drifts.and_imp Still.drifts _
  weaken _ _ h := h.1
  report c h hlater := by
    refine ⟨⟨h.presents, h.safe⟩, fun hst => ?_⟩
    have hstill := h.still (c.status_busy.mp hst) hlater
    exact ⟨hstill.still, hstill.safe⟩

/-- A report of a still carousel: without `DISC_IN_BAY` the bay is clear. -/
theorem bay_reports : Reports Still fun st c => c.Still ∧ (st &&& stDiscInBay = 0 → c.Cleared) where
  before := Still.drifts
  after _ := Still.drifts.and_imp Cleared.drifts _
  weaken _ _ h := h.1
  report c h _ :=
    ⟨⟨h.still, h.safe⟩, fun hst => ⟨⟨h.still, h.safe⟩, fun _ => c.status_bay.mp hst⟩⟩

/-- The world's carousel is guarded. -/
def Safe (w : World Sim) : Prop := w.io.car.Guarded

theorem idleOr_still (msg : String) :
    Triple Safe (idleOr msg) (fun _ w => w.io.car.Still) (fun _ => Safe) :=
  idle_reports.idleOr msg

theorem refuseWithADiscOut_cleared :
    Triple (fun w : World Sim => w.io.car.Still) refuseWithADiscOut (fun _ w => w.io.car.Cleared)
      (fun _ => Safe) := by
  have hbay : Triple (fun w : World Sim => w.io.car.Still) discInBay
      (fun inBay w => w.io.car.Still ∧ (inBay = false → w.io.car.Cleared)) (fun _ => Safe) := by
    refine (bay_reports.status.conseq (fun _ => id) (fun _ _ => id) fun _ w hw => hw.guarded).bind
      fun st => Triple.pure fun w hw => ⟨hw.1, fun hst => hw.2.2 ?_⟩
    simpa using hst
  refine hbay.bind fun inBay => ?_
  exact Triple.raiseIf (fun w hw _ => hw.1.guarded) fun w hw hout => hw.2 hout

/-- What may be sent between the bay reading and the move itself. -/
def Preparing (cmd : Nat) (args : List Nat) : Prop :=
  args.length ≤ 5 ∧ (cmd = cmdSetPos → (Sim.padded args).getD 1 0 = 0)

theorem handle_cleared {cmd : Nat} {args : List Nat} {c : Carousel}
    (hp : cmd = cmdSetPos → args.getD 1 0 = 0) (h : c.Cleared) : (c.handle cmd args).2.Cleared := by
  have hdue := Cleared.drifts.runDue h
  have hmade := handle_made cmd args c
  cases hr : c.handle cmd args with
  | _ r d =>
  rw [hr] at hmade
  cases hmade with
  | gentle hgentle => exact hgentle.cleared hdue
  | turned hgentle hcmd => exact cmd04_cleared (hgentle.cleared hdue) (hp hcmd)

theorem handle_guarded {cmd : Nat} (args : List Nat) {c : Carousel} (hcmd : cmd ≠ cmdSetPos)
    (h : c.Guarded) : (c.handle cmd args).2.Guarded := by
  have hdue := Guarded.drifts.runDue h
  have hmade := handle_made cmd args c
  cases hr : c.handle cmd args with
  | _ r d =>
  rw [hr] at hmade
  cases hmade with
  | gentle hgentle => exact hgentle.guarded hdue
  | turned _ hset => exact absurd hset hcmd

/-- Commands that are no moves leave a guarded carousel guarded. -/
def NoMove (cmd : Nat) (args : List Nat) : Prop := args.length ≤ 5 ∧ cmd ≠ cmdSetPos

instance (cmd : Nat) (args : List Nat) : Decidable (NoMove cmd args) :=
  inferInstanceAs (Decidable (_ ∧ _))

theorem safe_kept : FlowKept NoMove Safe where
  toKept := (Guarded.drifts.stable (fun _ _ _ hW h => handle_guarded _ hW.2 h)
    fun _ _ hW => hW.1).kept
  job _ _ h := h
  phase p w h := by
    have hfeed := Guarded.drifts.feed
      ((w.io.hands.shown p).map fun a => (w.io.car.now + a.1, a.2)) h
    exact ⟨hfeed.presents, hfeed.safe⟩

theorem cleared_kept : Kept Preparing fun w : World Sim => w.io.car.Cleared :=
  (Cleared.drifts.stable (fun _ _ _ hW h => handle_cleared hW.2 h) fun _ _ hW => hW.1).kept

/-! ## The moves -/

/-- Sending a move until it is heard. -/
theorem requireFrom_safe {args : List Nat} (hargs : args.length ≤ 5) (tries left : Nat) :
    Triple (fun w : World Sim => w.io.car.Cleared) (requireFrom cmdSetPos args tries left)
      (fun _ => Safe) (fun _ => Safe) := by
  let H := Reacts Carousel.Cleared fun _ => Carousel.Guarded
  have hH : ∀ r, Drifts (H r) := drifts_reacts Cleared.drifts fun _ => Guarded.drifts
  have hh : ∀ c, Cleared c → H (c.handle cmdSetPos (Sim.padded args)).1
      (c.handle cmdSetPos (Sim.padded args)).2 := by
    intro c hc
    have hdue := Cleared.drifts.runDue hc
    have hmade := handle_made cmdSetPos (Sim.padded args) c
    cases hr : c.handle cmdSetPos (Sim.padded args) with
    | _ r d =>
    rw [hr] at hmade
    cases hmade with
    | gentle hgentle hcmd =>
      rcases hcmd with rfl | hcmd
      · exact hgentle.cleared hdue
      · exact absurd rfl hcmd
    | turned hgentle => exact cmd04_guarded (hgentle.cleared hdue) _
  have hcommand := (triple_command_drift Cleared.drifts hH hargs hh (by decide : 0 < ackMs)).conseq
    (fun _ => id) (fun _ _ => id) fun _ w hw => (show Safe w by
      rcases hw with hw | ⟨_ | _, hw⟩
      · exact hw.guarded
      · exact hw.guarded
      · exact hw)
  induction left with
  | zero => exact Triple.raise fun w hw => hw.guarded
  | succ left ih =>
    refine hcommand.bind fun reply => ?_
    cases reply with
    | some p => exact Triple.pure fun w hw => hw.2
    | none =>
      have hwait := cleared_kept.waitState ⟨by decide, nofun⟩ stBusy 0 2000
      refine Triple.bind (M := fun _ w => w.io.car.Cleared) (Triple.when (fun _ => ?_)
        fun w hw _ => hw.elim id id) fun _ => ih
      refine Triple.bind ((hwait.pre fun w hw => hw.elim id id).conseq (fun _ => id) (fun _ _ => id)
        fun _ w hw => hw.guarded) fun _ => ?_
      exact Triple.pure fun w hw => hw

/-- **A move keeps the interlock**: it turns from a cleared bay or not at all. -/
theorem moveTo_safe (slot : Nat) (eject : Bool) (progress : Progress) :
    Keeps Safe (moveTo slot eject progress) := by
  refine (Keeps.raiseIf _ _).bind fun _ => ?_
  refine Triple.bind (idleOr_still _) fun _ => Triple.bind refuseWithADiscOut_cleared fun _ => ?_
  refine Triple.bind (M := fun _ w => w.io.car.Cleared) (Triple.when (fun _ => ?_)
    fun w hw _ => hw) fun _ => ?_
  · exact (cleared_kept.ensureHomed ⟨by decide, nofun⟩ ⟨by decide, fun _ => rfl⟩ progress).conseq
      (fun _ => id) (fun _ _ => id) fun _ w hw => hw.guarded
  · refine Triple.bind (requireFrom_safe (by simp) 3 3) fun _ => ?_
    exact safe_kept.idleOr ⟨by decide, by decide⟩ _

theorem reset_safe (progress : Progress) : Keeps Safe (reset progress) := by
  have hs : NoMove cmdRequestState [] := ⟨by decide, by decide⟩
  refine (safe_kept.report _ _).bind fun _ => (safe_kept.command hs ackMs).bind fun _ => ?_
  refine (safe_kept.command ⟨by decide, by decide⟩ ackMs).bind fun _ => ?_
  refine (safe_kept.command ⟨by decide, by decide⟩ ackMs).bind fun _ => ?_
  refine Triple.bind (idleOr_still _) fun _ => Triple.bind refuseWithADiscOut_cleared fun _ => ?_
  have hled : Preparing cmdSetLed [1, 1] := ⟨by decide, nofun⟩
  refine Triple.bind ((cleared_kept.command hled ackMs).conseq (fun _ => id) (fun _ _ => id)
    fun _ w hw => hw.guarded) fun _ => ?_
  refine Triple.bind ((cleared_kept.report _ _).conseq (fun _ => id) (fun _ _ => id)
    fun _ w hw => hw.guarded) fun _ => ?_
  exact Triple.bind (requireFrom_safe (by decide) 3 3) fun _ => safe_kept.idleOr hs _

/-! ## Sequences of calls -/

/-- What a user of `DiscStakka` and the flows may call. -/
inductive Call where
  | openUnit
  | moveTo (slot : Nat) (eject : Bool)
  | park
  | reset
  | runAdd (slot : Nat) (discId : Option Nat)
  | runEject (discId : Nat)
  | runReset

def Call.run : Call → Py Sim Unit
  | .openUnit => StakkaWeb.openUnit
  | .moveTo slot eject => StakkaWeb.moveTo slot eject .none
  | .park => StakkaWeb.park .none
  | .reset => StakkaWeb.reset .none
  | .runAdd slot discId => StakkaWeb.runAdd slot discId
  | .runEject discId => StakkaWeb.runEject discId
  | .runReset => StakkaWeb.runReset

/-- The calls one after another, each with a bound on its loops, whatever comes of each. -/
def runCalls (calls : List (Call × Nat)) (w : World Sim) : World Sim :=
  calls.foldl (fun w call => (call.1.run call.2 w).2) w

theorem Call.run_safe (call : Call) : Keeps Safe call.run := by
  have hs : NoMove cmdRequestState [] := ⟨by decide, by decide⟩
  have hstore : StoreRule Safe fun _ => Safe := ConnFree.store fun _ _ h => h
  have hjobs : JobRule NoMove Safe fun _ => Safe := safe_kept.jobs hs moveTo_safe fun _ h => h
  cases call with
  | openUnit => exact safe_kept.openUnit (by decide) fun _ _ h => h
  | moveTo slot eject => exact moveTo_safe slot eject _
  | park => exact hjobs.parkBy _
  | reset => exact reset_safe _
  | runAdd slot discId => exact hjobs.runAdd hstore ⟨by decide, by decide⟩ slot discId
  | runEject discId => exact hjobs.runEject hstore ⟨by decide, by decide⟩ discId
  | runReset => exact hjobs.runReset hstore (reset_safe _)

theorem runCalls_safe (calls : List (Call × Nat)) {w : World Sim} (h : Safe w) :
    Safe (runCalls calls w) := by
  induction calls generalizing w with
  | nil => exact h
  | cons call calls ih => exact ih (call.1.run_safe.run call.2 h)

/-- A carousel as it is made, with its blips. -/
def Carousel.made (now : Nat) (occupied : Finset Nat) (serial unit : Nat) (blips : Bool)
    (rolls : Nat → Nat → Bool) : Carousel :=
  { Carousel.new now occupied serial unit with blips, rolls }

/-- **The carousel turns with a disc in the bay only if the firmware put it there behind the move's
back**: from a new carousel, over any sequence of calls, whatever the hands do and whichever commands
the blips drop, an accepted `0x04` finds the bay clear unless `_ack_expired` has put a disc out since
a status report last showed the bay clear. -/
theorem runCalls_turns_clear (now : Nat) (occupied : Finset Nat) (serial unit : Nat) (blips : Bool)
    (rolls : Nat → Nat → Bool) (present : Bool) (hands : Hands) (w : World Sim)
    (calls : List (Call × Nat)) (turn : Turn)
    (hturn : turn ∈ (runCalls calls { w with
      io := Sim.new (.made now occupied serial unit blips rolls) present hands }).io.car.turns)
    (hput : turn.putOut = false) : turn.bay = false := by
  refine (runCalls_safe calls ?_).safe turn hturn hput
  exact ⟨fun _ hx => absurd hx (Agenda.not_mem_empty _), fun _ ht => absurd ht List.not_mem_nil⟩

/-- A disc is fed in one second after the start and never acknowledged. -/
def lateInsert : Hands := ⟨fun k => if k = 0 then [(1000, .insert)] else [], fun _ => []⟩

/-- The unit is opened and sent home five times over. -/
def homing : List (Call × Nat) := (.openUnit, 200) :: List.replicate 5 (.moveTo home false, 200)

/-- `homing` with the late insert. It is irreducible so that only the kernel runs it. -/
@[irreducible] def sentHome (w : World Sim) : World Sim :=
  runCalls homing { w with
    io := Sim.new (.made 0 ∅ 0x0DECAF01 0 false fun _ _ => false) true lateInsert }

/-- The firmware puts the disc back out between the bay reading of the last move and its `0x04`,
and the carousel turns with the disc in the bay. -/
theorem sentHome_turns_with_disc :
    ∃ turn ∈ (sentHome (World.boot (Sim.new (.new 0 ∅ 0 0) true .none) [])).io.car.turns,
      turn.bay = true := by
  decide +kernel

theorem runCalls_turns_clear_sentHome :
    ∃ turn ∈ (sentHome (World.boot (Sim.new (.new 0 ∅ 0 0) true .none) [])).io.car.turns,
      turn.putOut = false ∧ turn.bay = false := by
  have hturn : ∃ turn ∈ (sentHome (World.boot (Sim.new (.new 0 ∅ 0 0) true .none) [])).io.car.turns,
      turn.putOut = false := by decide +kernel
  obtain ⟨turn, hmem, hput⟩ := hturn
  refine ⟨turn, hmem, hput, ?_⟩
  unfold sentHome at hmem
  exact runCalls_turns_clear _ _ _ _ _ _ _ _ _ _ turn hmem hput

end Client

end StakkaWeb
