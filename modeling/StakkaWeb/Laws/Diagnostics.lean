import StakkaWeb.Diagnostics
import StakkaWeb.Laws.Clockwork
import StakkaWeb.Laws.Taping

/-!
# A probe and the error it shows

The probe reads the status, and only if that shows no error does it send `0x14`, which clears one.
An error that is latched between the two is wiped; nothing else wipes one.
-/

set_option autoImplicit false

namespace StakkaWeb

open Lib Lib.Prog

/-! ## What becomes of the error in one call -/

namespace Carousel

/-- The same carousel, with an error if `b` says so. -/
def latched (b : Bool) (c : Carousel) : Carousel := { c with ackTimeout := b || c.ackTimeout }

/-- An event does the same with an error there as without. -/
theorem fire_latched (b : Bool) (e : CarouselEvent) (c : Carousel) :
    (c.latched b).fire e = (c.fire e).latched b := by
  have htrue : (b || true) = true := Bool.or_true b
  cases e with
  | discArrives => rfl
  | taken => simp only [fire, latched, workFor, htrue]
  | discDrawnOff => rfl
  | ackExpired => cases hack : c.newDiscAck <;> simp [fire, latched, workFor, hack]
  | arrived target presenting => cases presenting <;> rfl
  | backInSlot => cases hbay : c.discInBay <;> simp [fire, latched, after, at_, hbay]
  | settled => rfl
  | stored slot => rfl

/-- The events that are due latch the same errors whether or not there is one already. -/
theorem runDue_ackTimeout (c : Carousel) : c.runDue.ackTimeout =
    (c.ackTimeout || ({ c with ackTimeout := false } : Carousel).runDue.ackTimeout) := by
  have hstart : c = ({ c with ackTimeout := false } : Carousel).latched c.ackTimeout := by
    show c = { c with ackTimeout := c.ackTimeout || false }
    rw [Bool.or_false]
  have hrun := Driven.runDue_rel (fun a d : Carousel => a = d.latched c.ackTimeout)
    (fun a d h => h ▸ ⟨rfl, rfl⟩)
    (fun a d e h => h ▸ fire_latched c.ackTimeout e { d with events := d.events.pop }) hstart
  exact congrArg ackTimeout hrun

/-- A dispatched command clears the error, or leaves it. -/
theorem dispatch_ackTimeout (cmd : Nat) (args : List Nat) (c : Carousel) :
    (c.dispatch cmd args).2.ackTimeout = (c.ackTimeout && !decide (cmd ∈ [0x03, 0x04, 0x14])) := by
  have hleft {b : Bool} (hcmd : cmd ∉ [0x03, 0x04, 0x14]) :
      b = (b && !decide (cmd ∈ [0x03, 0x04, 0x14])) := by
    rw [decide_eq_false hcmd, Bool.not_false, Bool.and_true]
  have hcleared {b : Bool} (hcmd : cmd ∈ [0x03, 0x04, 0x14]) :
      false = (b && !decide (cmd ∈ [0x03, 0x04, 0x14])) := by
    rw [decide_eq_true hcmd, Bool.not_true, Bool.and_false]
  refine dispatch_rule (P := fun r => r.2.ackTimeout = (c.ackTimeout && _)) (fun h => ?_)
    (fun h => ?_) (fun h => ?_) (fun h => ?_) (fun h => ?_) (fun h => ?_) fun h _ => ?_
  · exact hleft (by rw [h]; decide)
  · exact hcleared (by rw [h]; decide)
  · exact hcleared (by rw [h]; decide)
  · exact hleft (by rw [h]; decide)
  · exact hcleared (by rw [h]; decide)
  · refine Eq.trans ?_ (hleft (by rw [h]; decide))
    unfold cmd1d
    split <;> rfl
  · exact hleft fun hcmd => h (by revert hcmd; simp; tauto)

/-- A command clears the error if it is processed and one of those that do. -/
theorem handle_ackTimeout (cmd : Nat) (args : List Nat) (c : Carousel) :
    (c.handle cmd args).2.ackTimeout = (c.runDue.ackTimeout &&
      !(decide (cmd ∈ [0x03, 0x04, 0x14]) && (c.handle cmd args).1.isSome)) := by
  have hdropped {d : Carousel} (hd : d.ackTimeout = c.runDue.ackTimeout) :
      d.ackTimeout = (c.runDue.ackTimeout && !(decide (cmd ∈ [0x03, 0x04, 0x14]) && false)) := by
    rw [hd, Bool.and_false, Bool.not_false, Bool.and_true]
  refine handle_rule (P := fun r => r.2.ackTimeout = (c.runDue.ackTimeout &&
    !(decide (cmd ∈ [0x03, 0x04, 0x14]) && r.1.isSome))) (fun _ _ => hdropped rfl)
    (fun _ _ _ _ => hdropped rfl) fun d hd => ?_
  have hd' : d.ackTimeout = c.runDue.ackTimeout := by cases hd <;> rfl
  refine hear_rule (P := fun r => r.2.ackTimeout = (c.runDue.ackTimeout &&
    !(decide (cmd ∈ [0x03, 0x04, 0x14]) && r.1.isSome))) (fun _ _ _ => hdropped hd') fun _ => ?_
  rw [dispatch_ackTimeout, Option.isSome_some, Bool.and_true, ← hd']

end Carousel

/-- What a call makes of the error: an event in it may latch one, and a command clear it. -/
def LeavesError (x : OutsideCall × Sim) (s : Sim) : Prop :=
  s.car.ackTimeout = ((x.2.car.ackTimeout || latches x) && !clears x)

theorem feed_ackTimeout (acts : List (Nat × Hand)) (c : Carousel) :
    (Sim.feed acts c).ackTimeout = c.ackTimeout := by
  induction acts generalizing c with
  | nil => rfl
  | cons a acts ih => exact ih _

/-- A call in which the carousel runs nothing. -/
theorem leaves_idle {call : OutsideCall} {s s' : Sim} (hrun : running (call, s) = none)
    (hhand : handed (call, s) = none) (h : s'.car.ackTimeout = s.car.ackTimeout) :
    LeavesError (call, s) s' := by
  unfold LeavesError latches clears processes
  rw [hrun, hhand, h]
  simp

/-- A call in which the carousel runs what is due. -/
theorem leaves_run {x : OutsideCall × Sim} {s : Sim} {c : Carousel} (hrun : running x = some c)
    (hc : c.ackTimeout = x.2.car.ackTimeout)
    (h : s.car.ackTimeout = (c.runDue.ackTimeout && !clears x)) : LeavesError x s := by
  unfold LeavesError latches
  rw [hrun, h, c.runDue_ackTimeout, hc]

theorem leaves_read (size timeoutMs : Nat) (s : Sim) :
    LeavesError (.read size timeoutMs, s) (s.read timeoutMs).2 := by
  have hstir : s.stir.opened = s.opened := rfl
  cases hopen : s.opened with
  | false =>
    have hread : s.read timeoutMs = (.error (.osError "device is not open"), s.stir) :=
      if_pos (by rw [hstir, hopen]; rfl)
    rw [hread]
    exact leaves_idle (if_neg (by rw [hopen]; decide)) rfl (feed_ackTimeout _ _)
  | true =>
    refine leaves_run (if_pos hopen) (feed_ackTimeout _ _) ?_
    have hcar : (s.read timeoutMs).2.car = (s.stir.tick (min timeoutMs Firmware.repeatMs)).car := by
      simp only [Sim.read, hstir, hopen, Bool.not_true, Bool.false_eq_true, if_false]
      split
      · rfl
      · split <;> rfl
    rw [hcar, show clears (.read size timeoutMs, s) = false from rfl, Bool.not_false, Bool.and_true]
    rfl

theorem running_write (buf : List Nat) (s : Sim) :
    running (.write buf, s) = (handed (.write buf, s)).map fun h => h.2.2 := rfl

theorem leaves_write (buf : List Nat) (s : Sim) : LeavesError (.write buf, s) (s.write buf).2 := by
  have hunit : s.stir.car.unit = s.car.unit := Sim.feed_unit _ _
  by_cases hmine : s.opened ∧ s.present ∧ buf.getD 1 0 = 0x01 ∧ buf.getD 2 0 = s.car.unit
  · have hhanded : handed (.write buf, s) = some (buf.getD 4 0, (buf.drop 5).take 5, s.stir.car) :=
      if_pos hmine
    have hrun : running (.write buf, s) = some s.stir.car := by rw [running_write, hhanded]; rfl
    refine leaves_run hrun (feed_ackTimeout _ _) ?_
    obtain ⟨hopen, hpresent, htag, haddr⟩ := hmine
    have hcar : (s.write buf).2.car =
        (s.stir.car.handle (buf.getD 4 0) ((buf.drop 5).take 5)).2 := by
      have hopen' : s.stir.opened = true := hopen
      have hpresent' : s.stir.present = true := hpresent
      simp only [Sim.write, hopen', hpresent', htag, haddr, hunit, Bool.not_true, Bool.false_eq_true,
        if_false, ne_eq, not_true_eq_false, or_self]
      unfold Sim.deliver
      rcases s.stir.car.handle (buf.getD 4 0) ((buf.drop 5).take 5) with ⟨_ | _, car⟩ <;> rfl
    rw [hcar, Carousel.handle_ackTimeout]
    unfold clears processes
    rw [hhanded]
  · have hhanded : handed (.write buf, s) = none := if_neg hmine
    have hrun : running (.write buf, s) = none := by rw [running_write, hhanded]; rfl
    refine leaves_idle hrun hhanded ?_
    have hcar : (s.write buf).2.car = s.stir.car := by
      unfold Sim.write
      dsimp only
      split_ifs with hopen hpresent haddr
      · rfl
      · rfl
      · rfl
      · refine absurd ⟨?_, ?_, ?_⟩ hmine
        · simpa [Sim.stir] using hopen
        · simpa [Sim.stir] using hpresent
        · rw [hunit] at haddr
          tauto
    rw [hcar]
    exact feed_ackTimeout _ _

/-! ## The error and the tape -/

/-- What the first status report says of the error. -/
def reported : List (OutsideCall × Sim) → Option Bool
  | [] => none
  | x :: rest => reported rest <|> if asks x then some (erring x) else none

theorem reported_eq_none {tape : List (OutsideCall × Sim)} (h : reported tape = none) :
    tape.any asks = false := by
  induction tape with
  | nil => rfl
  | cons x rest ih =>
    unfold reported at h
    cases hrest : reported rest with
    | some b =>
      rw [hrest] at h
      cases h
    | none =>
      rw [hrest] at h
      cases hx : asks x with
      | true =>
        rw [hx] at h
        cases h
      | false => rw [List.any_cons, hx, ih hrest, Bool.or_false]

theorem reported_ne_none {tape : List (OutsideCall × Sim)} {b : Bool} (h : reported tape = some b) :
    tape.any asks = true := by
  induction tape with
  | nil => cases h
  | cons x rest ih =>
    rw [List.any_cons, Bool.or_eq_true]
    unfold reported at h
    cases hrest : reported rest with
    | some b' =>
      right
      have hb : b' = b := by
        rw [hrest] at h
        exact Option.some.inj h
      exact ih (hb ▸ hrest)
    | none =>
      left
      rw [hrest] at h
      by_contra hx
      rw [if_neg hx] at h
      cases h

/-- A call in which the carousel processes a command runs what is due. -/
theorem erring_of_processes {cmds : List Nat} {x : OutsideCall × Sim} (h : processes cmds x = true) :
    erring x = (x.2.car.ackTimeout || latches x) := by
  obtain ⟨call, s⟩ := x
  cases call with
  | write buf =>
    have hrun := running_write buf s
    unfold processes at h
    split at h
    next cmd args c hhanded =>
      have hc : c = s.stir.car := by
        unfold handed at hhanded
        dsimp only at hhanded
        split at hhanded <;> cases hhanded
        rfl
      rw [hhanded] at hrun
      unfold erring latches
      rw [hrun]
      dsimp only [Option.map_some]
      rw [c.runDue_ackTimeout, hc]
      exact congrArg (· || _) (feed_ackTimeout _ _)
    next => cases h
  | _ => cases h

/-- Every command that clears the error meets one exactly when it was latched since the report. -/
def Agrees : List (OutsideCall × Sim) → Prop
  | [] => True
  | x :: rest => (clears x = true → erring x = late (latchedSince rest) x rest) ∧ Agrees rest

theorem Agrees.cleared_iff {tape : List (OutsideCall × Sim)} (h : Agrees tape) :
    (∀ x ∈ tape, wipes x = false) ↔ Undisturbed tape := by
  induction tape with
  | nil => exact ⟨fun _ => trivial, fun _ _ hx => nomatch hx⟩
  | cons x rest ih =>
    rw [List.forall_mem_cons, ih h.2]
    refine and_congr_left fun _ => ?_
    unfold wipes
    rw [Bool.and_eq_false_imp]
    exact forall_congr' fun hx => by rw [h.1 hx]

/-- What the tape says of the carousel at its end. -/
structure Watched (s : Taped Sim) : Prop where
  since : reported s.tape = some false → s.inner.car.ackTimeout = latchedSince s.tape
  agrees : Agrees s.tape
  stays : (∀ x ∈ s.tape, wipes x = false) →
    ∀ x ∈ s.tape, x.2.car.ackTimeout = true → s.inner.car.ackTimeout = true

/-- **One call**: the error stands after it exactly when the tape says so. -/
theorem Watched.note {s : Taped Sim} (h : Watched s) {call : OutsideCall} {s' : Sim}
    (hleaves : LeavesError (call, s.inner) s')
    (hclears : clears (call, s.inner) = true → reported s.tape = some false) :
    Watched (s.note call s') := by
  refine ⟨fun hreported => ?_, ⟨fun hx => ?_, h.agrees⟩, fun hkept x hx herror => ?_⟩
  · show s'.car.ackTimeout = (late (latchedSince s.tape) (call, s.inner) s.tape && _)
    unfold late
    change (reported s.tape <|> _) = some false at hreported
    rw [hleaves]
    cases hrest : reported s.tape with
    | some b =>
      rw [hrest] at hreported
      rw [reported_ne_none hrest, Bool.true_and, ← h.since (hrest.trans hreported)]
    | none =>
      rw [hrest] at hreported
      rw [reported_eq_none hrest, Bool.false_and, Bool.false_and]
      by_cases hask : asks (call, s.inner) = true
      · rw [if_pos hask] at hreported
        have herring : erring (call, s.inner) = false := Option.some.inj hreported
        rw [← erring_of_processes hask, herring, Bool.false_and]
      · rw [if_neg hask] at hreported
        cases hreported
  · unfold late
    rw [erring_of_processes hx, reported_ne_none (hclears hx), Bool.true_and, ← h.since (hclears hx)]
  · have hrest := fun y hy => hkept y (List.mem_cons_of_mem _ hy)
    have hbefore : s.inner.car.ackTimeout = true := by
      rcases List.mem_cons.mp hx with rfl | hx
      · exact herror
      · exact h.stays hrest x hx herror
    have hwipes := hkept _ List.mem_cons_self
    show s'.car.ackTimeout = true
    rw [hleaves, show (call, s.inner).2.car.ackTimeout = true from hbefore, Bool.true_or,
      Bool.true_and]
    cases hx : clears (call, s.inner) with
    | false => rfl
    | true =>
      unfold wipes at hwipes
      rw [hx, Bool.true_and, erring_of_processes hx, hbefore] at hwipes
      cases hwipes

/-! ## What the methods keep -/

/-- The opcodes of the commands that clear the error. -/
def clearing : List Nat := [0x03, 0x04, 0x14]

theorem processes_write {cmds : List Nat} {unit msgid cmd : Nat} {args : List Nat} {s : Sim}
    (h : processes cmds (.write (reportBytes unit msgid cmd args), s) = true) : cmd ∈ cmds := by
  unfold processes at h
  split at h
  next cmd' args' c hhanded =>
    unfold handed at hhanded
    dsimp only at hhanded
    split at hhanded
    · injection hhanded with hhanded
      injection hhanded with hcmd _
      have hcmd : cmd = cmd' := hcmd
      rw [Bool.and_eq_true, decide_eq_true_eq] at h
      exact hcmd ▸ h.1
    · cases hhanded
  next => cases h

theorem processes_quiet {cmds : List Nat} {call : OutsideCall} {s : Sim}
    (h : ∀ buf, call ≠ .write buf) : processes cmds (call, s) = false := by
  cases call with
  | write buf => exact absurd rfl (h buf)
  | _ => rfl

/-- Only a write is a status report. -/
theorem reported_quiet {s : Taped Sim} {call : OutsideCall} (s' : Sim)
    (h : ∀ buf, call ≠ .write buf) : reported (s.note call s').tape = reported s.tape := by
  show (reported s.tape <|> if processes [0x01] (call, s.inner) then _ else none) = _
  rw [processes_quiet h]
  cases reported s.tape <;> rfl

theorem reported_clock (s : Taped Sim) (s' : Sim) :
    reported (s.note .clock s').tape = reported s.tape :=
  reported_quiet s' nofun

theorem reported_read (size timeoutMs : Nat) (s : Taped Sim) (s' : Sim) :
    reported (s.note (.read size timeoutMs) s').tape = reported s.tape :=
  reported_quiet s' nofun

/-- A property of the tape that every call keeps, a write if its command is one of `W`. -/
theorem tape_kept {W : Nat → List Nat → Prop} {J : Taped Sim → Prop}
    (hquiet : ∀ s call s', LeavesError (call, s.inner) s' → (∀ buf, call ≠ .write buf) → J s →
      J (s.note call s'))
    (hwrite : ∀ s unit msgid cmd args s', W cmd args →
      LeavesError (.write (reportBytes unit msgid cmd args), s.inner) s' → J s →
      J (s.note (.write (reportBytes unit msgid cmd args)) s')) :
    Kept W fun w : World (Taped Sim) => J w.io := by
  refine Stable.kept {
    opens := fun s h => hquiet s .opens _ (leaves_idle rfl rfl ?_) nofun h
    closes := fun s h => hquiet s .closes _ (leaves_idle rfl rfl rfl) nofun h
    read := fun timeout_ms s h => hquiet s (.read 64 timeout_ms) _ (leaves_read _ _ _) nofun h
    write := fun unit msgid cmd args s hw h => hwrite s _ _ _ _ _ hw (leaves_write _ _) h
    clock := fun s h => hquiet s .clock _ (leaves_idle rfl rfl rfl) nofun h
    sleep := fun ms s h => hquiet s (.sleep ms) _ (leaves_idle rfl rfl rfl) nofun h }
  show (Sim.opens s.inner).2.car.ackTimeout = s.inner.car.ackTimeout
  unfold Sim.opens
  repeat' split
  all_goals rfl

/-- Before anything is sent that clears an error. -/
theorem watched_kept :
    Kept (fun cmd _ => cmd ∉ clearing) fun w : World (Taped Sim) => Watched w.io := by
  refine tape_kept (fun s call s' hl hcall h => h.note hl fun hc => ?_)
    fun s unit msgid cmd args s' hw hl h => h.note hl fun hc => absurd (processes_write hc) hw
  rw [clears, processes_quiet hcall] at hc
  cases hc

/-- No status was reported. -/
theorem unasked_kept :
    Kept (fun cmd _ => cmd ≠ 0x01) fun w : World (Taped Sim) => reported w.io.tape = none := by
  have hnote : ∀ (s : Taped Sim) call s', asks (call, s.inner) = false → reported s.tape = none →
      reported (s.note call s').tape = none := by
    intro s call s' hask h
    show (reported s.tape <|> _) = none
    rw [h, hask]
    rfl
  refine tape_kept (fun s call s' _ hcall h => hnote s call s' (processes_quiet hcall) h)
    fun s unit msgid cmd args s' hw _ h => hnote s _ s' ?_ h
  refine Bool.eq_false_iff.mpr fun hask => hw ?_
  exact List.mem_singleton.mp (processes_write hask)

/-- Once the status was reported to show no error. -/
theorem reported_kept : Kept (fun _ _ => True) fun w : World (Taped Sim) =>
    Watched w.io ∧ reported w.io.tape = some false := by
  have hnote : ∀ (s : Taped Sim) call s', LeavesError (call, s.inner) s' →
      Watched s ∧ reported s.tape = some false →
      Watched (s.note call s') ∧ reported (s.note call s').tape = some false := by
    intro s call s' hl h
    refine ⟨h.1.note hl fun _ => h.2, ?_⟩
    show (reported s.tape <|> _) = some false
    rw [h.2]
    rfl
  exact tape_kept (fun s call s' hl _ h => hnote s call s' hl h)
    fun s unit msgid cmd args s' _ hl h => hnote s _ s' hl h

/-! ## The report that the probe decides on -/

section Steps

variable {σ : Type} [Outside σ] {w₀ : World σ}

/-- A read that answers made one call. -/
theorem read_ok (timeout_ms : Nat) : Triple (fun w => w = w₀) (read timeout_ms)
    (fun reply w => ∃ raw, (Outside.read 64 timeout_ms w₀.io).1 = .ok raw ∧
      w = { w₀ with io := (Outside.read 64 timeout_ms w₀.io).2 } ∧
      (raw ≠ [] → reply = some (Packet.ofRaw raw)) ∧ (raw = [] → reply = none)) (fun _ _ => True) := by
  refine Triple.bind (M := fun _ w => w = w₀) (Triple.gets fun _ => id) fun isOpen => ?_
  refine Triple.bind (M := fun _ w => w = w₀) (Triple.raiseIf (fun _ _ _ => trivial) fun _ hw _ => hw)
    fun _ => ?_
  refine Triple.bind (M := fun raw w => (Outside.read 64 timeout_ms w₀.io).1 = .ok raw ∧
    w = { w₀ with io := (Outside.read 64 timeout_ms w₀.io).2 }) ?_ fun raw => ?_
  · refine Triple.attempt (E := fun _ _ => True) (triple_onOutside ?_ fun _ _ _ _ _ => trivial)
      (fun e => ?_) fun _ => id
    · rintro w raw s rfl hr
      rw [hr]
      exact ⟨rfl, rfl⟩
    · exact Triple.ite (fun _ => Triple.bind Triple.any fun _ => Triple.raise fun _ => id)
        fun _ => Triple.raise fun _ => id
  · refine Triple.ite (fun hempty => Triple.pure fun w hw => ?_) fun hfull => ?_
    · exact ⟨raw, hw.1, hw.2, fun hne => absurd (List.isEmpty_iff.mp hempty) hne, fun _ => rfl⟩
    · refine Triple.ite (fun _ => Triple.raise fun _ _ => trivial) fun _ => Triple.pure fun w hw => ?_
      exact ⟨raw, hw.1, hw.2, fun _ => rfl, fun hempty => absurd (List.isEmpty_iff.mpr hempty) hfull⟩

/-- A write that answers made one call. -/
theorem write_ok (msgid cmd : Nat) (args : List Nat) : Triple (fun w => w = w₀) (write msgid cmd args)
    (fun _ w => w = { w₀ with
      io := (Outside.write (reportBytes w₀.ds.unit msgid cmd args) w₀.io).2 }) (fun _ _ => True) := by
  refine Triple.bind (M := fun ds w => ds = w₀.ds ∧ w = w₀) (Triple.gets ?_) fun ds => ?_
  · rintro w rfl
    exact ⟨rfl, rfl⟩
  refine Triple.of_fact fun hds => ?_
  subst hds
  refine Triple.bind (M := fun _ w => w = w₀) (Triple.raiseIf (fun _ _ _ => trivial) fun _ hw _ => hw)
    fun _ => ?_
  refine Triple.bind (M := fun _ w => w = w₀) (Triple.raiseIf (fun _ _ _ => trivial) fun _ hw _ => hw)
    fun _ => ?_
  refine Triple.bind ?_ fun _ => Triple.raiseIf (fun _ _ _ => trivial) fun _ hw _ => hw
  refine Triple.attempt (E := fun _ _ => True) (triple_onOutside ?_ fun _ _ _ _ _ => trivial)
    (fun e => ?_) fun _ => id
  · rintro w count s rfl hr
    rw [hr]
  · exact Triple.ite (fun _ => Triple.bind Triple.any fun _ => Triple.raise fun _ => id)
      fun _ => Triple.raise fun _ => id

end Steps

/-- The transport is open, the unit on the bus, and the packet it repeats is `raw`. -/
structure Repeating (raw : List Nat) (s : Sim) : Prop where
  opened : s.opened = true
  present : s.present = true
  latched : s.latched = some raw

/-- A read that succeeds was of the packet that is repeated, and it is repeated still. -/
theorem repeats_of_read {timeoutMs : Nat} {s : Sim} {raw : List Nat}
    (h : (s.read timeoutMs).1 = .ok raw) : Repeating raw s ∧ Repeating raw (s.read timeoutMs).2 ∧
      (s.read timeoutMs).2 = s.stir.tick (min timeoutMs Firmware.repeatMs) := by
  have hopen : s.opened = true := by
    by_contra hopen
    have hread : s.read timeoutMs = (.error (.osError "device is not open"), s.stir) :=
      if_pos (by rw [show s.stir.opened = s.opened from rfl, Bool.eq_false_iff.mpr hopen]; rfl)
    rw [hread] at h
    cases h
  have hstir : s.stir.opened = true := hopen
  have hread : s.read timeoutMs = (.ok raw, s.stir.tick (min timeoutMs Firmware.repeatMs)) ∧
      s.present = true ∧ s.latched = some raw := by
    simp only [Sim.read, hstir, Bool.not_true, Bool.false_eq_true, if_false] at h ⊢
    split at h
    · cases h
    next hpresent =>
      rw [if_neg hpresent]
      split at h
      · cases h
      next raw' hlatched =>
        cases h
        exact ⟨rfl, by simpa [Sim.tick, Sim.stir] using hpresent, hlatched⟩
  rw [hread.1]
  exact ⟨⟨hopen, hread.2.1, hread.2.2⟩, ⟨hopen, hread.2.1, hread.2.2⟩, rfl⟩

/-- The unit repeats a reply of this id to a status request, and the word in it says of the error
what the tape says was reported. -/
structure Answered (msgid : Nat) (raw : List Nat) (w : World (Taped Sim)) : Prop where
  nonempty : raw ≠ []
  repeats : Repeating raw w.io.inner
  msgid : (Packet.ofRaw raw).msgid = msgid
  shows : ∃ b, reported w.io.tape = some b ∧
    ((Packet.ofRaw raw).status &&& stAckTimeout = 0 ↔ b = false)

/-- What the client writes goes to another unit, and the status was never reported. -/
structure Astray (w : World (Taped Sim)) : Prop where
  address : w.ds.unit ≠ w.io.inner.car.unit
  unasked : reported w.io.tape = none

namespace Astray

variable {w : World (Taped Sim)} (h : Astray w)
include h

theorem clock : Astray { w with io := w.io.note .clock w.io.inner } :=
  ⟨h.address, (reported_clock _ _).trans h.unasked⟩

theorem read {timeoutMs : Nat} {raw : List Nat} (hread : (w.io.inner.read timeoutMs).1 = .ok raw) :
    Astray { w with io := (Outside.read 64 timeoutMs w.io).2 } := by
  refine ⟨?_, (reported_read _ _ _ _).trans h.unasked⟩
  show w.ds.unit ≠ (w.io.inner.read timeoutMs).2.car.unit
  rw [(repeats_of_read hread).2.2]
  exact fun he => h.address (he.trans ((Sim.tick_sameSetup _ _).unit.trans (Sim.feed_unit _ _)))

theorem write (msgid cmd : Nat) (args : List Nat) (hargs : args.length ≤ 5) :
    Astray { w with io := (Outside.write (reportBytes w.ds.unit msgid cmd args) w.io).2 } ∧
      (w.io.inner.write (reportBytes w.ds.unit msgid cmd args)).2 = w.io.inner.stir := by
  have hwrite : (w.io.inner.write (reportBytes w.ds.unit msgid cmd args)).2 = w.io.inner.stir := by
    refine Sim.write_rule (P := fun r => r.2 = _) hargs (fun _ _ => rfl) (fun _ _ _ => rfl)
      fun _ _ hmine => absurd hmine h.address
  have hasks : asks (.write (reportBytes w.ds.unit msgid cmd args), w.io.inner) = false := by
    have hhanded : handed (.write (reportBytes w.ds.unit msgid cmd args), w.io.inner) = none :=
      if_neg fun hmine => h.address hmine.2.2.2
    unfold asks processes
    rw [hhanded]
  refine ⟨⟨?_, ?_⟩, hwrite⟩
  · show w.ds.unit ≠ (w.io.inner.write _).2.car.unit
    rw [hwrite]
    exact fun he => h.address (he.trans (Sim.feed_unit _ _))
  · show (reported w.io.tape <|> if asks (.write _, w.io.inner) then _ else none) = none
    rw [h.unasked, hasks]
    rfl

end Astray

/-- A status request reaches the unit, or goes astray. -/
theorem request_reaches {w : World (Taped Sim)} {raw : List Nat} (hrepeats : Repeating raw w.io.inner)
    (hnone : reported w.io.tape = none) (msgid : Nat) (hfresh : (Packet.ofRaw raw).msgid ≠ msgid) :
    let buf := reportBytes w.ds.unit msgid cmdRequestState []
    let w' : World (Taped Sim) := { w with io := (Outside.write buf w.io).2 }
    (∃ raw', Answered msgid raw' w') ∨
      Astray w' ∧ Repeating raw w'.io.inner ∧ (Packet.ofRaw raw).msgid ≠ msgid := by
  intro buf w'
  let c := w.io.inner.stir.car
  by_cases haddr : w.ds.unit = w.io.inner.car.unit
  · left
    have hwrite : (w.io.inner.write buf).2 =
        w.io.inner.stir.deliver msgid cmdRequestState (Sim.padded []) := by
      refine Sim.write_rule (P := fun r => r.2 = _) (Nat.zero_le _) (fun hgone => ?_)
        (fun _ _ hother => absurd haddr hother) fun _ _ _ => rfl
      rw [hrepeats.opened, hrepeats.present] at hgone
      rcases hgone with h | h <;> cases h
    have hdeliver : w.io.inner.stir.deliver msgid cmdRequestState (Sim.padded []) =
        { w.io.inner.stir with
          car := c.runDue.asked
          msgid := msgid
          latched := some ([0x01, c.runDue.asked.unit, msgid, cmdRequestState] ++
            c.runDue.statusReply) } := by
      unfold Sim.deliver
      rw [Carousel.handle_request]
      rfl
    have hhanded : handed (.write buf, w.io.inner) = some (cmdRequestState, Sim.padded [], c) :=
      if_pos ⟨hrepeats.opened, hrepeats.present, rfl, haddr⟩
    have hasks : asks (.write buf, w.io.inner) = true := by
      unfold asks processes
      rw [hhanded]
      dsimp only
      rw [Carousel.handle_request]
      rfl
    have herring : erring (.write buf, w.io.inner) = c.runDue.ackTimeout := by
      unfold erring
      rw [running_write, hhanded]
      rfl
    have hinner : w'.io.inner = _ := hwrite.trans hdeliver
    refine ⟨_, List.cons_ne_nil _ _, ⟨?_, ?_, congrArg Sim.latched hinner⟩, rfl,
      c.runDue.ackTimeout, ?_, ?_⟩
    · rw [hinner]
      exact hrepeats.opened
    · rw [hinner]
      exact hrepeats.present
    · show (reported w.io.tape <|> if asks (.write buf, w.io.inner) then _ else none) = _
      rw [hnone, hasks, herring]
      rfl
    · rw [← c.runDue.status_timeout, ← Carousel.replyPacket_status c.runDue.asked.unit msgid c.runDue]
      rfl
  · right
    obtain ⟨hastray, hwrite⟩ := Astray.write ⟨haddr, hnone⟩ msgid cmdRequestState [] (Nat.zero_le 5)
    have hinner : w'.io.inner = w.io.inner.stir := hwrite
    refine ⟨hastray, ⟨?_, ?_, ?_⟩, hfresh⟩
    · rw [hinner]
      exact hrepeats.opened
    · rw [hinner]
      exact hrepeats.present
    · rw [hinner]
      exact hrepeats.latched

/-- What a status request leaves and answers, if the run goes on. -/
def Learned (reply : Option Packet) (w : World (Taped Sim)) : Prop :=
  (∀ p, reply = some p → ∃ b, reported w.io.tape = some b ∧
    (p.status &&& stAckTimeout = 0 ↔ b = false)) ∧ (reply = none → Astray w)

/-- The wait for the reply, when the unit was reached. -/
theorem await_answered (msgid start : Nat) (raw : List Nat) :
    Triple (fun w => Answered msgid raw w ∧ w.io.inner.car.now = start)
      (Prog.loop (awaitReply (σ := Taped Sim) cmdRequestState msgid (start + ackMs))) Learned
      (fun _ _ => True) := by
  refine Triple.loop (fun w => Answered msgid raw w ∧ w.io.inner.car.now = start) (fun _ => id) ?_
    fun _ _ => trivial
  refine Triple.of_each fun w hw => ?_
  have hclock : ∀ n, clock n w = (.ok start, { w with io := w.io.note .clock w.io.inner }) :=
    fun n => by
      rw [← hw.2]
      rfl
  refine Triple.after hclock ?_
  rw [if_pos (Nat.lt_add_of_pos_right (show 0 < ackMs by decide))]
  refine (read_ok pollMs).bind fun reply => Triple.of_exists fun raw' => Triple.of_fact fun hraw => ?_
  have hread : (w.io.inner.read pollMs).1 = .ok raw' := hraw
  have hsame : raw' = raw :=
    Option.some.inj ((repeats_of_read hread).1.latched.symm.trans hw.1.repeats.latched)
  subst hsame
  refine Triple.of_each fun w' hw' => ?_
  obtain ⟨hnext, hreply, _⟩ := hw'
  rw [hreply hw.1.nonempty]
  refine Triple.ite (fun _ => ?_) fun hne => absurd hw.1.msgid hne
  refine Triple.bind (M := fun _ => Learned (some (Packet.ofRaw raw'))) (triple_observe ?_)
    fun _ => Triple.pure fun _ => id
  rintro v rfl
  obtain ⟨b, hb, hshows⟩ := hw.1.shows
  refine ⟨fun p hp => ⟨b, ?_, Option.some.inj hp ▸ hshows⟩, nofun⟩
  rw [hnext]
  exact (reported_read _ _ _ _).trans ((reported_clock _ _).trans hb)

/-- The wait for the reply, when what was written went astray: nobody answers. -/
theorem await_astray {msgid : Nat} {raw : List Nat} (hid : (Packet.ofRaw raw).msgid ≠ msgid)
    (deadline : Nat) : Triple (fun w => Astray w ∧ Repeating raw w.io.inner)
      (Prog.loop (awaitReply (σ := Taped Sim) cmdRequestState msgid deadline)) Learned
      (fun _ _ => True) := by
  refine Triple.loop (fun w => Astray w ∧ Repeating raw w.io.inner) (fun _ => id) ?_
    fun _ _ => trivial
  refine Triple.of_each fun w hw => ?_
  let w₁ : World (Taped Sim) := { w with io := w.io.note .clock w.io.inner }
  have hclock : ∀ n, clock n w = (.ok w.io.inner.car.now, w₁) := fun n => rfl
  have h₁ : Astray w₁ := hw.1.clock
  refine Triple.after hclock (Triple.ite (fun _ => ?_) fun _ => ?_)
  · refine (read_ok pollMs).bind fun reply => Triple.of_exists fun raw' => Triple.of_fact fun hraw => ?_
    have hread : (w.io.inner.read pollMs).1 = .ok raw' := hraw
    obtain ⟨hrep, hrep', _⟩ := repeats_of_read hread
    have hsame : raw' = raw := Option.some.inj (hrep.latched.symm.trans hw.2.latched)
    subst hsame
    refine Triple.of_each fun w' hw' => ?_
    obtain ⟨hnext, hreply, hnone⟩ := hw'
    have h' : Astray w' ∧ Repeating raw' w'.io.inner := by
      rw [hnext]
      exact ⟨h₁.read hread, hrep'⟩
    cases reply with
    | none => exact Triple.pure fun v hv => hv ▸ h'
    | some p =>
      have hp : p = Packet.ofRaw raw' := by
        by_cases hne : raw' = []
        · exact nomatch hnone hne
        · exact Option.some.inj (hreply hne)
      refine Triple.ite (fun h => absurd h (hp ▸ hid)) fun _ => ?_
      exact Triple.pure fun v hv => hv ▸ h'
  · exact Triple.pure fun v hv => ⟨nofun, fun _ => hv ▸ h₁⟩

/-- **A status request**: its answer says of the error what was reported first, or there is no answer
and the unit was not reached. -/
theorem command_reports : Triple (fun w : World (Taped Sim) => reported w.io.tape = none)
    (command cmdRequestState [] ackMs) Learned (fun _ _ => True) := by
  refine Triple.of_each fun w hnone => (read_ok ackMs).bind fun seed => ?_
  refine Triple.of_exists fun raw => Triple.of_fact fun hraw => ?_
  refine Triple.of_each fun w₁ hw₁ => ?_
  have hread : (w.io.inner.read ackMs).1 = .ok raw := hraw
  obtain ⟨hnext, hreply, hempty⟩ := hw₁
  cases seed with
  | none => exact Triple.raise fun _ _ => trivial
  | some seed =>
    have hseed : seed = Packet.ofRaw raw := by
      by_cases hne : raw = []
      · exact nomatch hempty hne
      · exact Option.some.inj (hreply hne)
    have hnone₁ : reported w₁.io.tape = none := by
      rw [hnext]
      exact (reported_read _ _ _ _).trans hnone
    have hrepeats : Repeating raw w₁.io.inner := by
      rw [hnext]
      exact (repeats_of_read hread).2.1
    have hfresh := freshId_ne raw
    subst hseed
    refine (write_ok _ _ _).bind fun _ => Triple.of_each fun w₂ hw₂ => ?_
    have hclock : ∀ n, clock n w₂ =
        (.ok w₂.io.inner.car.now, { w₂ with io := w₂.io.note .clock w₂.io.inner }) := fun _ => rfl
    refine Triple.after hclock ?_
    rcases request_reaches hrepeats hnone₁ (freshId raw) hfresh with ⟨raw', h⟩ | ⟨h, hrep, hid⟩
    · have h : Answered (freshId raw) raw' w₂ := hw₂ ▸ h
      refine (await_answered _ _ raw').pre fun v hv => ?_
      obtain ⟨b, hb, hshows⟩ := h.shows
      subst hv
      exact ⟨⟨h.nonempty, h.repeats, h.msgid, b, (reported_clock _ _).trans hb, hshows⟩, rfl⟩
    · have h : Astray w₂ := hw₂ ▸ h
      have hrep : Repeating raw w₂.io.inner := hw₂ ▸ hrep
      refine (await_astray hid _).pre fun v hv => ?_
      subst hv
      exact ⟨⟨h.address, (reported_clock _ _).trans h.unasked⟩, hrep⟩

/-- What goes astray goes on doing so. -/
theorem astray_polls : PollRule (fun _ args => args = []) (Astray : World (Taped Sim) → Prop)
    (fun _ _ => True) where
  read timeout_ms := by
    refine Triple.of_each fun w hw => (read_ok timeout_ms).post fun reply w' hw' => ?_
    obtain ⟨raw, hraw, rfl, _⟩ := hw'
    exact hw.read hraw
  write msgid cmd args hargs _ := by
    refine Triple.of_each fun w hw => (write_ok msgid cmd args).post fun _ w' hw' => ?_
    subst hargs
    exact hw' ▸ (hw.write msgid cmd [] (Nat.zero_le 5)).1
  clock := triple_clock fun w hw => hw.clock
  answered _ _ := triple_observe fun w hw => ⟨hw.address, hw.unasked⟩
  hang _ _ := trivial
  raises _ _ _ := trivial
  request := rfl
  matchState mask want reply := by
    cases reply with
    | none => exact Triple.pure fun _ => id
    | some p =>
      refine Triple.ite (fun _ => ?_) fun _ => Triple.pure fun _ => id
      refine Triple.bind (M := fun _ => Astray)
        (triple_observe fun w hw => ⟨hw.address, hw.unasked⟩) fun _ => ?_
      refine Triple.bind (Triple.modify fun w hw => ?_) fun _ => Triple.pure fun _ => id
      show Astray (if w.ds.tracing then _ else w)
      split
      · exact ⟨hw.address, hw.unasked⟩
      · exact hw

/-- **The word that `status` returns** says of the error what was reported first. -/
theorem status_reports : Triple (fun w : World (Taped Sim) => reported w.io.tape = none) status
    (fun st w => ∃ b, reported w.io.tape = some b ∧ (st &&& stAckTimeout = 0 ↔ b = false))
    (fun _ _ => True) := by
  refine Triple.bind (requireFrom_answers (A := fun _ w => reported w.io.tape = none)
    (B := fun _ => Astray) (C := fun p w => ∃ b, reported w.io.tape = some b ∧
      (p.status &&& stAckTimeout = 0 ↔ b = false)) (fun _ => command_reports)
    (fun _ _ => (astray_polls.waitState _ _ _).post fun _ w hw => hw.unasked)
    (fun _ _ _ => trivial) 2) fun p => ?_
  exact Triple.bind (triple_observe fun w hw => hw) fun _ => Triple.pure fun _ => id

/-! ## The probe -/

/-- A probe keeps the tape telling: it sends what clears an error only on a report of none. -/
theorem probe_watched :
    Triple (fun w : World (Taped Sim) => Watched w.io ∧ reported w.io.tape = none) probe
      (fun _ w => Watched w.io) (fun _ w => Watched w.io) := by
  have hopen := ((watched_kept.openUnit (by decide) fun _ _ => id).and
    (unasked_kept.openUnit (by decide) fun _ _ => id)).conseq (fun _ => id) (fun _ _ => id)
    fun _ _ hw => hw.1
  refine hopen.bind fun _ => ?_
  have hstatus := ((watched_kept.status (by decide)).and status_reports).conseq (fun _ => id)
    (fun _ _ => id) fun _ _ hw => hw.1
  refine hstatus.bind fun st => ?_
  refine Triple.bind (M := fun _ w => Watched w.io ∧ ∃ b, reported w.io.tape = some b ∧
    (st &&& stAckTimeout = 0 ↔ b = false)) (Triple.gets fun _ => id) fun ds => ?_
  cases ds.serial with
  | none => exact Triple.raise fun w hw => hw.1
  | some serial =>
    refine Triple.ite (fun _ => ?_) fun hclear => ?_
    · exact Triple.pure fun w hw => hw.1
    · have hposition : Keeps (fun w : World (Taped Sim) =>
          Watched w.io ∧ reported w.io.tape = some false) (require cmdClearErr2 []) :=
        reported_kept.require trivial trivial
      have hread : Triple (fun w : World (Taped Sim) => Watched w.io ∧ reported w.io.tape = some false)
          position (fun _ w => Watched w.io) (fun _ w => Watched w.io) :=
        Triple.bind (M := fun _ w => Watched w.io)
          (Triple.conseq hposition (fun _ => id) (fun _ _ => And.left) fun _ _ => And.left)
          fun _ => Triple.pure fun _ => id
      refine (hread.pre fun w hw => ?_).bind fun _ => Triple.pure fun _ => id
      obtain ⟨hwatched, b, hb, hshows⟩ := hw
      exact ⟨hwatched, hb.trans (congrArg some (hshows.mp (not_not.mp hclear)))⟩

/-- **A probe leaves the error alone exactly when nothing comes between**: no error is cleared by
it, and one that was there at any moment is there at the end, if and only if no event latches one
between the status report that it decides on and the command with which it reads the position. -/
theorem probe_leaves_alone (w : World Sim) (n : Nat) :
    LeftAlone (probe n w.taping).2.io ↔ Undisturbed (probe n w.taping).2.io.tape := by
  have hblank : Watched w.taping.io ∧ reported w.taping.io.tape = none :=
    ⟨⟨nofun, trivial, fun _ _ hx => nomatch hx⟩, rfl⟩
  have hwatched : Watched (probe n w.taping).2.io := by
    have := probe_watched n w.taping hblank
    rcases hr : probe n w.taping with ⟨_ | _ | _, w'⟩ <;> rw [hr] at this <;> exact this
  refine ⟨fun h => hwatched.agrees.cleared_iff.mp h.cleared, fun h => ?_⟩
  have hcleared := hwatched.agrees.cleared_iff.mpr h
  exact ⟨hcleared, hwatched.stays hcleared⟩

/-- A disc is presented, and somebody takes it while the unit is probed: after the report of the
status, before the request for the position. -/
def takenMeanwhile : World Sim :=
  World.boot (Sim.new { Carousel.new 0 ∅ 0x0DECAF01 0 with
    homed := true, discInBay := true, events := Agenda.empty.push 1000 .taken } true .none) []

/-- The probe shows a unit without an error, and wipes the one that the take has latched. -/
theorem takenMeanwhile_wiped :
    (probe 60 takenMeanwhile.taping).1 =
        .ok ⟨"0decaf01", some "02.17.0079", some 0, "0401 [DISC_IN_BAY HOMED]"⟩ ∧
      ¬ LeftAlone (probe 60 takenMeanwhile.taping).2.io :=
  ⟨by decide +kernel, fun h => absurd h.cleared (by decide +kernel)⟩

end StakkaWeb
