import Mathlib.Tactic.SplitIfs
import StakkaWeb.Laws.Errors
import StakkaWeb.Laws.Settles
import StakkaWeb.Simulator

/-!
# The simulated transport as an outside world

What no event and no command of the carousel changes, that its agenda is lawful, that the virtual
clock never runs back and every read advances it, and that an opened transport has a packet to
repeat.
-/

set_option autoImplicit false

namespace StakkaWeb

open Lib

namespace Carousel

/-! ## The status word -/

/-- The status word of nine conditions, and what is read off it. -/
theorem flags_word (busy working waiting ack bay timeout retracted unknown homed : Bool) :
    let st := flag busy (if working then Firmware.busyIdle ||| Firmware.busyWorking
        else Firmware.busyIdle)
      ||| flag waiting Firmware.discWaiting ||| flag ack Firmware.newDiscAck
      ||| flag bay Firmware.discInBay ||| flag timeout Firmware.ackTimeout
      ||| flag retracted Firmware.retracted ||| flag unknown Firmware.unknown
      ||| flag homed Firmware.homed
    (st >>> 8 &&& 0xFF) <<< 8 ||| (st &&& 0xFF) = st ∧
      (st &&& stBusy = 0 ↔ busy = false) ∧
      (st &&& stDiscWaiting = stDiscWaiting ↔ waiting = true) ∧
      (st &&& stDiscInBay = 0 ↔ bay = false) ∧ (st &&& stHomed = 0 ↔ homed = false) ∧
      (st &&& stAckTimeout = 0 ↔ timeout = false) := by
  revert busy working waiting ack bay timeout retracted unknown homed
  decide

variable (c : Carousel)

theorem status_busy : c.status &&& stBusy = 0 ↔ c.busy = false :=
  (flags_word c.busy c.working c.discWaiting c.newDiscAck c.discInBay c.ackTimeout c.retracted
    c.unknownBit c.homed).2.1

theorem status_waiting : c.status &&& stDiscWaiting = stDiscWaiting ↔ c.discWaiting = true :=
  (flags_word c.busy c.working c.discWaiting c.newDiscAck c.discInBay c.ackTimeout c.retracted
    c.unknownBit c.homed).2.2.1

theorem status_bay : c.status &&& stDiscInBay = 0 ↔ c.discInBay = false :=
  (flags_word c.busy c.working c.discWaiting c.newDiscAck c.discInBay c.ackTimeout c.retracted
    c.unknownBit c.homed).2.2.2.1

theorem status_homed : c.status &&& stHomed = 0 ↔ c.homed = false :=
  (flags_word c.busy c.working c.discWaiting c.newDiscAck c.discInBay c.ackTimeout c.retracted
    c.unknownBit c.homed).2.2.2.2.1

theorem status_timeout : c.status &&& stAckTimeout = 0 ↔ c.ackTimeout = false :=
  (flags_word c.busy c.working c.discWaiting c.newDiscAck c.discInBay c.ackTimeout c.retracted
    c.unknownBit c.homed).2.2.2.2.2

/-- The two bytes of a status reply carry the whole word. -/
theorem status_word : (c.status >>> 8 &&& 0xFF) <<< 8 ||| (c.status &&& 0xFF) = c.status :=
  (flags_word c.busy c.working c.discWaiting c.newDiscAck c.discInBay c.ackTimeout c.retracted
    c.unknownBit c.homed).1

/-! ## Events -/

instance : Driven.Lawful Carousel where
  agenda_withAgenda _ _ := rfl
  now_withAgenda _ _ := rfl
  now_fire e c := by
    show (c.fire e).now = c.now
    cases e <;> simp only [fire, workFor, after, at_] <;> split <;> rfl
  dueCount_fire e c := by
    show (c.fire e).events.dueCount c.now = c.events.dueCount c.now
    cases e with
    | discArrives =>
      exact Agenda.dueCount_push (by simp [workFor, Firmware.apertureMs]) _ _
    | discDrawnOff =>
      exact Agenda.dueCount_push
        (by simp [workFor, Firmware.settleMs, Firmware.ackWindowMs]; omega) _ _
    | backInSlot =>
      simp only [fire]
      split
      · exact Agenda.dueCount_push (by simp [Firmware.retractMs, Firmware.retractBayMs]) _ _
      · rfl
    | taken => rfl
    | ackExpired => simp only [fire]; split <;> rfl
    | arrived target presenting => simp only [fire]; split <;> rfl
    | settled => rfl
    | stored slot => rfl

/-- The rule of `runDue`: what firing the next due event keeps. -/
theorem runDue_inv (I : Carousel → Prop)
    (step : ∀ c t e, I c → c.events.entries.head? = some (t, e) → t ≤ c.now →
      I (fire e { c with events := c.events.pop })) {c : Carousel} (h : I c) : I c.runDue :=
  Driven.runDue_inv I step h

@[simp] theorem runDue_now (c : Carousel) : c.runDue.now = c.now := Driven.now_runDue c

theorem runDue_later (c : Carousel) {x : Nat × CarouselEvent} (hx : x ∈ c.runDue.events) :
    c.now < x.1 :=
  Driven.runDue_later c hx

/-- The fields that no event touches. -/
structure SameSetup (c c' : Carousel) : Prop where
  serial : c'.serial = c.serial
  unit : c'.unit = c.unit
  unknownBit : c'.unknownBit = c.unknownBit
  blips : c'.blips = c.blips
  rolls : c'.rolls = c.rolls
  log : c'.log = c.log
  dropped : c'.dropped = c.dropped
  turns : c'.turns = c.turns
  ingested : c'.ingested = c.ingested

theorem fire_sameSetup (e : CarouselEvent) (c : Carousel) : SameSetup c (c.fire e) := by
  cases e <;> simp only [fire, workFor, after, at_] <;> (try split) <;> constructor <;> rfl

theorem SameSetup.refl (c : Carousel) : SameSetup c c :=
  ⟨rfl, rfl, rfl, rfl, rfl, rfl, rfl, rfl, rfl⟩

theorem SameSetup.trans {a b c : Carousel} (h : SameSetup a b) (h' : SameSetup b c) :
    SameSetup a c :=
  ⟨h'.serial.trans h.serial, h'.unit.trans h.unit, h'.unknownBit.trans h.unknownBit,
    h'.blips.trans h.blips, h'.rolls.trans h.rolls, h'.log.trans h.log,
    h'.dropped.trans h.dropped, h'.turns.trans h.turns, h'.ingested.trans h.ingested⟩

theorem runDue_sameSetup (c : Carousel) : SameSetup c c.runDue := by
  refine runDue_inv (SameSetup c) (fun c' t e h _ _ => h.trans ?_) (.refl c)
  have hf := fire_sameSetup e { c' with events := c'.events.pop }
  exact ⟨hf.serial, hf.unit, hf.unknownBit, hf.blips, hf.rolls, hf.log, hf.dropped, hf.turns,
    hf.ingested⟩

/-! ## Commands -/

/-- What a dispatched command can do, case by case. -/
theorem dispatch_rule {P : List Nat × Carousel → Prop} {cmd : Nat} {args : List Nat} {c : Carousel}
    (h01 : cmd = 0x01 → P (c.statusReply, { c with putOut := c.putOut && c.discInBay }))
    (h03 : cmd = 0x03 → P c.cmd03) (h04 : cmd = 0x04 → P (c.cmd04 args))
    (h05 : cmd = 0x05 → P c.cmd05) (h14 : cmd = 0x14 → P c.cmd14)
    (h1d : cmd = 0x1D → P c.cmd1d)
    (hsame : cmd ∉ [0x01, 0x03, 0x04, 0x05, 0x14, 0x1D] → ∀ reply, P (reply, c)) :
    P (c.dispatch cmd args) := by
  unfold dispatch
  split_ifs with h₁ h₃ h₄ h₅ h₁₄ h₁a h₁b h₁c h₁d
  · exact h01 h₁
  · exact h03 h₃
  · exact h04 h₄
  · exact h05 h₅
  · exact h14 h₁₄
  · exact hsame (by rw [h₁a]; decide) _
  · exact hsame (by rw [h₁b]; decide) _
  · exact hsame (by rw [h₁c]; decide) _
  · exact h1d h₁d
  · exact hsame (by simp [h₁, h₃, h₄, h₅, h₁₄, h₁d]) _

/-- A heard command is dropped as a move of an unhomed carousel, or dispatched. -/
theorem hear_rule {P : Option (List Nat) × Carousel → Prop} {cmd : Nat} {args : List Nat}
    {c : Carousel}
    (hlost : cmd = 0x04 → args.getD 0 0 ≠ 0 → c.homed = false → P (c.drop cmd args))
    (hrun : (cmd = 0x04 → args.getD 0 0 ≠ 0 → c.homed = true) →
      P (some (dispatch cmd args { c with log := c.log ++ [(cmd, args)] }).1,
        (dispatch cmd args { c with log := c.log ++ [(cmd, args)] }).2)) :
    P (c.hear cmd args) := by
  unfold hear
  split_ifs with h
  · exact hlost h.1 h.2.1 h.2.2
  · refine hrun fun hc ha => ?_
    cases hh : c.homed with
    | true => rfl
    | false => exact absurd ⟨hc, ha, hh⟩ h

/-- The state in which a command is heard: no blip swallowed it. -/
inductive Heard (cmd : Nat) (c : Carousel) : Carousel → Prop
  | always (h : cmd ∈ Firmware.alwaysAnswered) : Heard cmd c c
  | steady (hbusy : c.busy = false) (hblips : c.blips = false) : Heard cmd c c
  | rolled (hbusy : c.busy = false) (hcmd : cmd ∉ Firmware.alwaysAnswered)
    (hroll : c.rolls cmd 0 = false) : Heard cmd c (c.roll cmd)

/-- What the unit makes of a command: one of two drops, or it is heard. -/
theorem serve_rule {P : Option (List Nat) × Carousel → Prop} {cmd : Nat} {args : List Nat}
    {c : Carousel}
    (hbusy : c.busy = true → cmd ∉ Firmware.alwaysAnswered → P (c.drop cmd args))
    (hblip : c.busy = false → c.blips = true → cmd ∉ Firmware.alwaysAnswered →
      c.rolls cmd 0 = true → P (((c.roll cmd).workFor Firmware.blipForMs false).drop cmd args))
    (hhear : ∀ d, Heard cmd c d → P (d.hear cmd args)) : P (c.serve cmd args) := by
  unfold serve
  split_ifs with h h' hroll
  · exact hbusy h.1 h.2
  · refine hblip ?_ h'.1 h'.2 hroll
    exact Bool.eq_false_iff.mpr fun hb => h ⟨hb, h'.2⟩
  · refine hhear _ (.rolled ?_ h'.2 (Bool.eq_false_iff.mpr hroll))
    exact Bool.eq_false_iff.mpr fun hb => h ⟨hb, h'.2⟩
  · by_cases hcmd : cmd ∈ Firmware.alwaysAnswered
    · exact hhear _ (.always hcmd)
    · refine hhear _ (.steady ?_ ?_)
      · exact Bool.eq_false_iff.mpr fun hb => h ⟨hb, hcmd⟩
      · exact Bool.eq_false_iff.mpr fun hb => h' ⟨hb, hcmd⟩

/-- The same, after the events that are due. -/
theorem handle_rule {P : Option (List Nat) × Carousel → Prop} {cmd : Nat} {args : List Nat}
    {c : Carousel}
    (hbusy : c.runDue.busy = true → cmd ∉ Firmware.alwaysAnswered → P (c.runDue.drop cmd args))
    (hblip : c.runDue.busy = false → c.runDue.blips = true → cmd ∉ Firmware.alwaysAnswered →
      c.runDue.rolls cmd 0 = true →
      P (((c.runDue.roll cmd).workFor Firmware.blipForMs false).drop cmd args))
    (hhear : ∀ d, Heard cmd c.runDue d → P (d.hear cmd args)) : P (c.handle cmd args) :=
  serve_rule hbusy hblip hhear

/-- `SameClock c c'`: neither the time nor the unit's address is another. -/
def SameClock (c c' : Carousel) : Prop := c'.now = c.now ∧ c'.unit = c.unit

theorem dispatch_sameClock (cmd : Nat) (args : List Nat) (c : Carousel) :
    SameClock c (c.dispatch cmd args).2 := by
  refine dispatch_rule (P := fun r => SameClock c r.2) (fun _ => ⟨rfl, rfl⟩) (fun _ => ⟨rfl, rfl⟩)
    (fun _ => ⟨rfl, rfl⟩) (fun _ => ⟨rfl, rfl⟩) (fun _ => ⟨rfl, rfl⟩) (fun _ => ?_)
    fun _ _ => ⟨rfl, rfl⟩
  unfold cmd1d
  split <;> exact ⟨rfl, rfl⟩

theorem handle_sameClock (cmd : Nat) (args : List Nat) (c : Carousel) :
    SameClock c (c.handle cmd args).2 := by
  have hdue : SameClock c c.runDue := ⟨runDue_now c, (runDue_sameSetup c).unit⟩
  refine handle_rule (P := fun r => SameClock c r.2) (fun _ _ => hdue) (fun _ _ _ _ => hdue)
    fun d hd => ?_
  have hd' : SameClock c d := by cases hd <;> exact hdue
  refine hear_rule (P := fun r => SameClock c r.2) (fun _ _ _ => hd') fun _ => ?_
  have := dispatch_sameClock cmd args { d with log := d.log ++ [(cmd, args)] }
  exact ⟨this.1.trans hd'.1, this.2.trans hd'.2⟩

theorem handle_now (cmd : Nat) (args : List Nat) (c : Carousel) :
    (c.handle cmd args).2.now = c.now :=
  (handle_sameClock cmd args c).1

theorem handle_unit (cmd : Nat) (args : List Nat) (c : Carousel) :
    (c.handle cmd args).2.unit = c.unit :=
  (handle_sameClock cmd args c).2

end Carousel

namespace Sim

/-! ## Time -/

@[simp] theorem feed_now (acts : List (Nat × Hand)) (c : Carousel) : (feed acts c).now = c.now := by
  induction acts generalizing c with
  | nil => rfl
  | cons a acts ih => exact ih _

theorem feed_sameSetup (acts : List (Nat × Hand)) (c : Carousel) :
    Carousel.SameSetup c (feed acts c) := by
  induction acts generalizing c with
  | nil => exact .refl c
  | cons a acts ih =>
    have hpush : Carousel.SameSetup c (c.at_ a.1 a.2.event) :=
      ⟨rfl, rfl, rfl, rfl, rfl, rfl, rfl, rfl, rfl⟩
    exact hpush.trans (ih _)

@[simp] theorem feed_unit (acts : List (Nat × Hand)) (c : Carousel) :
    (feed acts c).unit = c.unit :=
  (feed_sameSetup acts c).unit

theorem stir_sameSetup (s : Sim) : Carousel.SameSetup s.car s.stir.car := feed_sameSetup _ _

theorem tick_sameSetup (ms : Nat) (s : Sim) : Carousel.SameSetup s.car (s.tick ms).car :=
  have h := Carousel.runDue_sameSetup { s.car with now := s.car.now + ms }
  ⟨h.serial, h.unit, h.unknownBit, h.blips, h.rolls, h.log, h.dropped, h.turns, h.ingested⟩

@[simp] theorem stir_now (s : Sim) : s.stir.car.now = s.car.now := feed_now _ _

@[simp] theorem tick_now (ms : Nat) (s : Sim) : (s.tick ms).car.now = s.car.now + ms :=
  Carousel.runDue_now _

@[simp] theorem deliver_now (msgid cmd : Nat) (args : List Nat) (s : Sim) :
    (s.deliver msgid cmd args).car.now = s.car.now := by
  have := Carousel.handle_now cmd args s.car
  unfold deliver
  rcases hr : s.car.handle cmd args with ⟨_ | _, car⟩ <;> rw [hr] at this <;> exact this

theorem read_now (timeoutMs : Nat) (s : Sim) : s.car.now ≤ (s.read timeoutMs).2.car.now := by
  unfold read
  dsimp only
  split
  · rw [stir_now]
  · split
    · rw [tick_now, stir_now]; omega
    · split <;> (rw [tick_now, stir_now]; omega)

theorem write_now (buf : List Nat) (s : Sim) : (s.write buf).2.car.now = s.car.now := by
  unfold write
  dsimp only
  repeat' split
  all_goals simp only [stir_now, deliver_now]

/-- A read that comes back has advanced the clock. -/
theorem read_ok_advances {timeoutMs : Nat} {s s' : Sim} {raw : List Nat}
    (h : s.read timeoutMs = (.ok raw, s')) :
    s'.car.now = s.car.now + min timeoutMs Firmware.repeatMs := by
  unfold read at h
  dsimp only at h
  split at h
  · cases h
  · split at h
    · cases h
    · split at h <;> cases h
      rw [tick_now, stir_now]

theorem read_ok_now {timeoutMs : Nat} {s s' : Sim} {raw : List Nat} (ht : 0 < timeoutMs)
    (h : s.read timeoutMs = (.ok raw, s')) : s.car.now < s'.car.now := by
  have : 0 < min timeoutMs Firmware.repeatMs := Nat.lt_min.mpr ⟨ht, by decide⟩
  rw [read_ok_advances h]
  omega

/-- On the virtual clock every read takes time. -/
instance : Paced Sim where
  slack _ := 0
  opens s := by
    show NoEarlier _ s s.opens.2
    unfold opens
    repeat' split
    all_goals exact .inr ⟨rfl, Nat.le_refl _⟩
  closes s := .inr ⟨rfl, Nat.le_refl _⟩
  read _ timeoutMs s := by
    rcases Nat.lt_or_eq_of_le (read_now timeoutMs s) with h | h
    · exact .inl h
    · exact .inr ⟨h, Nat.le_refl _⟩
  read_later _ timeoutMs s s' raw ht h := .inl (read_ok_now ht h)
  write buf s := .inr ⟨(write_now buf s).symm, Nat.le_refl _⟩
  clock s := .inr ⟨rfl, Nat.le_refl _⟩
  sleep ms s := by
    rcases Nat.eq_zero_or_pos ms with rfl | h
    · exact .inr ⟨rfl, Nat.le_refl _⟩
    · exact .inl (Nat.lt_add_of_pos_right h)
  cue _ _ := .inr ⟨(feed_now _ _).symm, Nat.le_refl _⟩

/-! ## What it raises -/

/-- An opened transport has a packet to repeat. -/
def Latched (s : Sim) : Prop := s.opened = true → s.latched ≠ none

theorem deliver_latched {s : Sim} (msgid cmd : Nat) (args : List Nat) (h : s.Latched) :
    (s.deliver msgid cmd args).Latched := by
  unfold deliver
  split
  · exact h
  · exact fun _ => nofun

theorem raises_latched : RaisesOsError Latched where
  opens s h := by
    show Latched s.opens.2
    unfold opens
    split
    · exact h
    · split
      · exact h
      · exact fun _ => nofun
  closes s h := nofun
  read t s h := by
    show Latched (s.read t).2
    unfold read
    dsimp only
    repeat' split
    all_goals exact h
  write u m c a s _ h := by
    show Latched (s.write _).2
    unfold write
    dsimp only
    repeat' split
    all_goals first | exact h | exact deliver_latched _ _ _ h
  clock _ h := h
  sleep _ _ h := h
  phase _ _ h := h
  read_error t s s' e h hr := by
    change s.read t = _ at hr
    unfold read at hr
    dsimp only at hr
    split at hr
    · cases hr; rfl
    next hopen =>
      split at hr
      · cases hr; rfl
      · split at hr
        next hnone => exact absurd hnone (h (by simpa [stir] using hopen))
        next => cases hr
  write_error buf s s' e h hr := by
    change s.write buf = _ at hr
    unfold write at hr
    dsimp only at hr
    split at hr
    · cases hr; rfl
    · split at hr
      · cases hr; rfl
      · split at hr <;> cases hr

end Sim

end StakkaWeb
