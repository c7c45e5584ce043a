import StakkaWeb.Laws.Clockwork

/-!
# The rules of the protocol on the clock

`On g h P`: the client has the unit open, the hands are `h` and do nothing between the calls, and
the carousel is as `P` says. With `g` the blips are tolerable: no command that only `require`
sends is dropped three times in a row. The rules of `command`, of waits, of status readings and of
`require` ask what the carousel does in `wait`s and calls of `handle`, and nothing of the protocol;
none of them raises, unless the blips may be intolerable.
-/

set_option autoImplicit false

namespace StakkaWeb

open Lib Lib.Prog

/-! ## Blips -/

namespace Carousel

/-- Of any three rolls in a row for a command that only `require` sends, one is no blip. -/
def Tolerable (c : Carousel) : Prop :=
  c.blips = true → ∀ cmd ∈ [cmdSetPos, cmdRetract, cmdAcceptDisc], ∀ i,
    ∃ j < 3, c.rolls cmd (i + j) = false

variable {c c' : Carousel}

theorem Tolerable.congr (h : c.Tolerable) (hblips : c'.blips = c.blips)
    (hrolls : c'.rolls = c.rolls) : c'.Tolerable := by
  intro hb cmd hcmd i
  rw [hrolls]
  exact h (hblips ▸ hb) cmd hcmd i

theorem Tolerable.roll (h : c.Tolerable) (cmd : Nat) : (c.roll cmd).Tolerable := by
  intro hb k hk i
  show ∃ j < 3, (if k = cmd then c.rolls k (i + j + 1) else c.rolls k (i + j)) = false
  split
  · obtain ⟨j, hj, hroll⟩ := h hb k hk (i + 1)
    exact ⟨j, hj, by rwa [Nat.add_right_comm] at hroll⟩
  · exact h hb k hk i

theorem Tolerable.wait (h : c.Tolerable) (ms : Nat) : (c.wait ms).Tolerable :=
  h.congr (c.wait_sameSetup ms).blips (c.wait_sameSetup ms).rolls

theorem dispatch_rolls (cmd : Nat) (args : List Nat) (c : Carousel) :
    (c.dispatch cmd args).2.blips = c.blips ∧ (c.dispatch cmd args).2.rolls = c.rolls := by
  refine dispatch_rule (P := fun r => r.2.blips = c.blips ∧ r.2.rolls = c.rolls) (fun _ => ⟨rfl, rfl⟩)
    (fun _ => ⟨rfl, rfl⟩) (fun _ => ⟨rfl, rfl⟩) (fun _ => ⟨rfl, rfl⟩) (fun _ => ⟨rfl, rfl⟩)
    (fun _ => ?_) fun _ _ => ⟨rfl, rfl⟩
  unfold cmd1d
  split <;> exact ⟨rfl, rfl⟩

theorem Tolerable.handle (h : c.Tolerable) (cmd : Nat) (args : List Nat) :
    (c.handle cmd args).2.Tolerable := by
  have hdue : c.runDue.Tolerable := h.congr (runDue_sameSetup c).blips (runDue_sameSetup c).rolls
  refine handle_rule (P := fun r => r.2.Tolerable) (fun _ _ => hdue.congr rfl rfl)
    (fun _ _ _ _ => (hdue.roll cmd).congr rfl rfl) fun d hd => ?_
  have hd' : d.Tolerable := by
    cases hd with
    | always => exact hdue
    | steady => exact hdue
    | rolled => exact hdue.roll cmd
  refine hear_rule (P := fun r => r.2.Tolerable) (fun _ _ _ => hd'.congr rfl rfl) fun _ => ?_
  obtain ⟨hblips, hrolls⟩ := dispatch_rolls cmd args { d with log := d.log ++ [(cmd, args)] }
  exact hd'.congr hblips hrolls

end Carousel

/-! ## The state between two calls -/

/-- The client has the unit open, and the hands are `h`. -/
structure Tidy (g : Bool) (h : Hands) (w : World Sim) : Prop extends Online w where
  hands : w.io.hands = h
  unstirred : w.io.Unstirred
  tolerable : g = true → w.io.car.Tolerable

/-- `Tidy`, with a carousel of which `P` holds. -/
def On (g : Bool) (h : Hands) (P : Carousel → Prop) (w : World Sim) : Prop :=
  Tidy g h w ∧ P w.io.car

/-- Nothing is raised, unless the blips may be intolerable. -/
def Mild (g : Bool) (e : Option Exc) (_ : World Sim) : Prop := e = none ∨ g = false

variable {g : Bool} {h : Hands} {P : Carousel → Prop}

/-- What the client keeps besides the unit plays no part. -/
theorem On.congr {w w' : World Sim} (hw : On g h P w) (hio : w'.io = w.io) (hds : w'.ds = w.ds) :
    On g h P w' := by
  obtain ⟨⟨⟨⟨raw, hlinked⟩, haddress⟩, hhands, hunstirred, htolerable⟩, hP⟩ := hw
  refine ⟨⟨⟨⟨raw, ?_⟩, hds ▸ haddress⟩, hio ▸ hhands, hio ▸ hunstirred, hio ▸ htolerable⟩, hio ▸ hP⟩
  exact ⟨hds ▸ hlinked.isOpen, by rw [hds, hio]; exact hlinked.unit, hio ▸ hlinked.streams⟩

theorem On.imp {Q : Carousel → Prop} {w : World Sim} (hw : On g h P w)
    (hPQ : ∀ c, P c → Q c) : On g h Q w :=
  ⟨hw.1, hPQ _ hw.2⟩

theorem on_modifyJob (f : Job → Job) {R : Option Exc → World Sim → Prop} :
    Triple (On g h P) (modifyJob f) (fun _ => On g h P) R :=
  triple_modifyJob fun _ hw => hw.congr rfl rfl

theorem on_mark (label : String) {R : Option Exc → World Sim → Prop} :
    Triple (On g h P) (mark label) (fun _ => On g h P) R :=
  triple_modifyTrace fun _ hw => hw.congr rfl rfl

theorem on_observe (o : Obs) {R : Option Exc → World Sim → Prop} :
    Triple (On g h P) (observe o) (fun _ => On g h P) R :=
  triple_observe fun _ hw => hw.congr rfl rfl

theorem on_report (progress : Progress) (message : String) {R : Option Exc → World Sim → Prop} :
    Triple (On g h P) (report progress message) (fun _ => On g h P) R := by
  cases progress with
  | none => exact Triple.pure fun _ => id
  | note => exact on_modifyJob _

theorem on_clock {R : Option Exc → World Sim → Prop} :
    Triple (On g h P) clock (fun now => On g h fun c => P c ∧ c.now = now) R :=
  triple_clock fun _ hw => ⟨hw.1, hw.2, rfl⟩

/-! ## Commands -/

/-- The packet that answers a command, by the carousel's reply. -/
def Replies (cmd : Nat) (handled : Option (List Nat)) (reply : Option Packet) : Prop :=
  ∃ unit msgid, reply = handled.map (replyPacket unit msgid cmd)

/-- **The rule of a command**: a wait, one call of `handle`, and waits for as long as it takes. -/
theorem command_on {Q : Option (List Nat) → Carousel → Prop} {cmd : Nat} {args : List Nat}
    (hs : Sendable cmd args)
    (hQ : ∀ c, P c → let r := (c.wait Firmware.repeatMs).handle cmd (Sim.padded args)
      Q r.1 ((Carousel.wait pollMs)^[Sim.reads ackMs r.1] r.2)) :
    Triple (On g h P) (command cmd args ackMs)
      (fun reply w => ∃ handled, Replies cmd handled reply ∧ On g h (Q handled) w) NoRaise := by
  refine triple_command hs (by decide) (fun w hw => hw.1.toOnline) fun w raw hw hlinked => ?_
  obtain ⟨hreply, hcar, hhands⟩ := hw.1.unstirred.call_car (freshId raw) cmd args ackMs
  intro r reply w' honline
  refine ⟨r.1, ⟨w.ds.unit, freshId raw, rfl⟩, ⟨honline, hhands.trans hw.1.hands, ?_, ?_⟩, ?_⟩
  · intro k
    show r.2.hands.between k = []
    rw [hhands]
    exact hw.1.unstirred k
  · intro hg
    have hhandled : Carousel.Tolerable
        ((w.io.car.wait (min ackMs Firmware.repeatMs)).handle cmd (Sim.padded args)).2 :=
      ((hw.1.tolerable hg).wait _).handle _ _
    have hwaits : ∀ k (c : Carousel), c.Tolerable → ((Carousel.wait pollMs)^[k] c).Tolerable := by
      intro k
      induction k with
      | zero => exact fun c hc => hc
      | succ k ih => exact fun c hc => ih _ (hc.wait pollMs)
    show r.2.car.Tolerable
    rw [hcar]
    exact hwaits _ _ hhandled
  · show Q r.1 r.2.car
    rw [hcar, hreply]
    exact hQ _ hw.2

/-! ## Status readings and waits -/

theorem sendable_status : Sendable cmdRequestState [] := ⟨by decide, nofun, by decide⟩

/-- The status is read 143 ms after the request is made. -/
theorem statusCommand_on {S : Carousel → Prop} :
    Triple (On g h S) (command cmdRequestState [] ackMs)
      (fun reply w => ∃ c p, S c ∧ reply = some p ∧ p.cmd = cmdRequestState ∧
        p.status = (c.wait Firmware.repeatMs).status ∧ On g h (· = c.polled) w) NoRaise := by
  refine (command_on (Q := fun handled c' => ∃ c, S c ∧
    handled = some (c.wait Firmware.repeatMs).statusReply ∧ c' = c.polled)
    sendable_status fun c hc => ?_).post ?_
  · intro r
    have hr : r = _ := Carousel.handle_status (c.wait_undue Firmware.repeatMs)
    rw [hr]
    exact ⟨c, hc, rfl, rfl⟩
  · rintro reply w ⟨handled, ⟨unit, msgid, rfl⟩, hTidy, c, hc, rfl, hcar⟩
    exact ⟨c, _, hc, rfl, rfl, Carousel.replyPacket_status unit msgid _, hTidy, hcar⟩

/-! ## What the trace holds -/

/-- The trace once the protocol has come to a word; `b` says whether it hands words to the trace. -/
def Trace.given (b : Bool) (st : Nat) (t : Trace) : Trace := if b then t.status st else t

/-- `On`, with what the trace holds. -/
def Shown (b g : Bool) (h : Hands) (P : Trace → Carousel → Prop) (w : World Sim) : Prop :=
  Tidy g h w ∧ w.ds.tracing = b ∧ P w.trace w.io.car

theorem Shown.on {b : Bool} {P : Trace → Carousel → Prop} {w : World Sim} (hw : Shown b g h P w) :
    On g h (P w.trace) w :=
  ⟨hw.1, hw.2.2⟩

theorem Shown.imp {b : Bool} {P Q : Trace → Carousel → Prop} {w : World Sim} (hw : Shown b g h P w)
    (hPQ : ∀ t c, P t c → Q t c) : Shown b g h Q w :=
  ⟨hw.1, hw.2.1, hPQ _ _ hw.2.2⟩

/-- What a world traces: this trace, or nothing. -/
def Traces (b : Bool) (t : Trace) (w : World Sim) : Prop := w.ds.tracing = b ∧ w.trace = t

/-- A command hands nothing to the trace. -/
theorem command_untraced (b : Bool) (t : Trace) (cmd : Nat) (args : List Nat) (timeoutMs : Nat) :
    Keeps (Traces b t) (command (σ := Sim) cmd args timeoutMs) :=
  CallKept.command (W := fun _ _ => True)
    { opens := fun _ hw => hw
      closes := fun _ hw => hw
      read := fun _ _ hw => hw
      write := fun _ _ _ _ _ _ hw => hw
      clock := fun _ hw => hw
      sleep := fun _ _ hw => hw
      shut := fun _ hw => hw
      answered := fun _ _ _ _ _ hw => hw } trivial timeoutMs

/-- A rule that is told what the trace holds. -/
theorem triple_shown {b : Bool} {α : Type} {P : Trace → Carousel → Prop} {m : Py Sim α}
    {Q : α → World Sim → Prop} {R : Option Exc → World Sim → Prop}
    (hm : ∀ t, Triple (fun w => On g h (P t) w ∧ Traces b t w) m Q R) :
    Triple (Shown b g h P) m Q R := by
  refine Triple.pre (A := fun w => ∃ t, On g h (P t) w ∧ Traces b t w) (Triple.of_exists hm) ?_
  intro w hw
  exact ⟨w.trace, hw.on, hw.2.1, rfl⟩

theorem shown_of_traces {b : Bool} {P : Trace → Carousel → Prop} {t : Trace} {w : World Sim}
    (hw : On g h (P t) w ∧ Traces b t w) : Shown b g h P w := by
  obtain ⟨⟨hTidy, hP⟩, htracing, rfl⟩ := hw
  exact ⟨hTidy, htracing, hP⟩

/-- `On`, with a trace of which `I` holds. -/
def Traced (b g : Bool) (h : Hands) (I : Trace → Prop) (P : Carousel → Prop) : World Sim → Prop :=
  Shown b g h fun t c => I t ∧ P c

theorem Traced.on {b : Bool} {I : Trace → Prop} {w : World Sim} (hw : Traced b g h I P w) : On g h P w :=
  ⟨hw.1, hw.2.2.2⟩

theorem Traced.imp {b : Bool} {I : Trace → Prop} {Q : Carousel → Prop} {w : World Sim}
    (hw : Traced b g h I P w) (hPQ : ∀ c, P c → Q c) : Traced b g h I Q w :=
  Shown.imp hw fun _ c hc => ⟨hc.1, hPQ c hc.2⟩

/-- A rule that holds whatever the trace holds. -/
theorem on_of_traced {α : Type} {m : Py Sim α} {Q : α → Carousel → Prop} {R : Option Exc → World Sim → Prop}
    (hm : ∀ b, Triple (Traced b g h (fun _ => True) P) m (fun a => Traced b g h (fun _ => True) (Q a)) R) :
    Triple (On g h P) m (fun a => On g h (Q a)) R := by
  refine Triple.of_each fun w₀ hw₀ => (hm w₀.ds.tracing).conseq ?_ (fun _ _ hw => hw.on) fun _ _ => id
  rintro w rfl
  exact ⟨hw₀.1, rfl, trivial, hw₀.2⟩

/-- A step that hands nothing to the trace. -/
theorem traced_quiet {b : Bool} {α : Type} {I : Trace → Prop} {Q : α → Carousel → Prop} {m : Py Sim α}
    {R : Option Exc → World Sim → Prop} (hm : Triple (On g h P) m (fun a => On g h (Q a)) R)
    (hk : ∀ t, Triple (fun w => On g h P w ∧ Traces b t w) m (fun _ => Traces b t) fun _ _ => True) :
    Triple (Traced b g h I P) m (fun a => Traced b g h I (Q a)) R := by
  refine triple_shown fun t => Triple.pre (A := fun w => I t ∧ On g h P w ∧ Traces b t w)
    (Triple.of_fact fun ht => ?_) fun w hw => ⟨hw.1.2.1, hw.1.imp fun c hc => hc.2, hw.2⟩
  exact (hm.and (hk t)).conseq (fun w hw => ⟨hw.1, hw⟩)
    (fun a w hw => shown_of_traces ⟨hw.1.imp fun c hc => ⟨ht, hc⟩, hw.2⟩) fun _ _ hw => hw.1

theorem Traced.weaken {b : Bool} {I J : Trace → Prop} {w : World Sim} (hw : Traced b g h I P w)
    (hIJ : ∀ t, I t → J t) : Traced b g h J P w :=
  Shown.imp hw fun t _ hc => ⟨hIJ t hc.1, hc.2⟩

theorem traced_report {b : Bool} {I : Trace → Prop} (progress : Progress) (message : String)
    {R : Option Exc → World Sim → Prop} :
    Triple (Traced b g h I P) (report progress message) (fun _ => Traced b g h I P) R := by
  refine traced_quiet (on_report progress message) fun t => ?_
  cases progress with
  | none => exact Triple.pure fun _ hw => hw.2
  | note => exact triple_modifyJob fun _ hw => hw.2

theorem traced_mark {b : Bool} {I : Trace → Prop} (hI : ∀ t label, I t → I (t.mark label)) (label : String)
    {R : Option Exc → World Sim → Prop} :
    Triple (Traced b g h I P) (mark label) (fun _ => Traced b g h I P) R :=
  triple_modifyTrace fun w ⟨hTidy, htracing, ht, hP⟩ =>
    have hmarked : On g h P { w with trace := w.trace.mark label } :=
      On.congr (w := w) ⟨hTidy, hP⟩ rfl rfl
    ⟨hmarked.1, htracing, hI _ _ ht, hP⟩

theorem traced_clock {b : Bool} {I : Trace → Prop} {R : Option Exc → World Sim → Prop} :
    Triple (Traced b g h I P) clock (fun now => Traced b g h I fun c => P c ∧ c.now = now) R :=
  traced_quiet on_clock fun _ => triple_clock fun _ hw => hw.2

/-- **The rule of a status reading**, which hands nothing to the trace. -/
theorem status_traced {b : Bool} {I : Trace → Prop} {S : Carousel → Prop} :
    Triple (Traced b g h I S) status
      (fun st w => ∃ c, S c ∧ st = (c.wait Firmware.repeatMs).status ∧ Traced b g h I (· = c.polled) w)
      NoRaise := by
  refine triple_shown fun t => Triple.pre (A := fun w => I t ∧ On g h S w ∧ Traces b t w)
    (Triple.of_fact fun ht => ?_) fun w hw => ⟨hw.1.2.1, hw.1.imp fun c hc => hc.2, hw.2⟩
  refine Triple.bind (M := fun p w => ∃ c, S c ∧ p.status = (c.wait Firmware.repeatMs).status ∧
    On g h (· = c.polled) w ∧ Traces b t w) ?_ fun p => ?_
  · refine (statusCommand_on.and (command_untraced b t cmdRequestState [] ackMs)).conseq (fun _ => id)
      (fun _ _ => id) (fun _ _ hw => hw.1) |>.bind fun reply => ?_
    refine Triple.pre (A := fun w => ∃ c p, S c ∧ reply = some p ∧
      p.status = (c.wait Firmware.repeatMs).status ∧ On g h (· = c.polled) w ∧ Traces b t w) ?_ ?_
    · refine Triple.of_exists fun c => Triple.of_exists fun p => Triple.of_fact fun hc =>
        Triple.of_fact fun hp => ?_
      subst hp
      exact Triple.pure fun w hw => ⟨c, hc, hw⟩
    · rintro w ⟨⟨c, p, hc, hp, _, hst, hon⟩, htraces⟩
      exact ⟨c, p, hc, hp, hst, hon, htraces⟩
  · refine Triple.of_exists fun c => Triple.of_fact fun hc => Triple.of_fact fun hst => ?_
    refine Triple.bind (M := fun _ w => On g h (· = c.polled) w ∧ Traces b t w)
      (triple_observe fun w hw => ⟨hw.1.congr rfl rfl, hw.2⟩) fun _ => Triple.pure fun w hw => ?_
    exact ⟨c, hc, hst, shown_of_traces ⟨hw.1.imp fun d hd => ⟨ht, hd⟩, hw.2⟩⟩

/-- **The rule of a wait**: a poll that matches, one at the end of the time, one in between; the
word of each is given to the trace. -/
theorem waitState_shown {b : Bool} {S : Trace → Carousel → Prop} {Q : Bool → Trace → Carousel → Prop}
    {mask want timeoutMs : Nat} (start : Nat)
    (hmatch : ∀ t c, S t c → (c.wait Firmware.repeatMs).status &&& mask = want →
      Q true (t.given b (c.wait Firmware.repeatMs).status) c.polled)
    (hlate : ∀ t c, S t c → (c.wait Firmware.repeatMs).status &&& mask ≠ want →
      start + timeoutMs ≤ c.polled.now →
      Q false (t.given b (c.wait Firmware.repeatMs).status) c.polled)
    (hgo : ∀ t c, S t c → (c.wait Firmware.repeatMs).status &&& mask ≠ want →
      c.polled.now < start + timeoutMs → S (t.given b (c.wait Firmware.repeatMs).status) c.polled) :
    Triple (Shown b g h fun t c => S t c ∧ c.now = start) (waitState mask want timeoutMs)
      (fun matched => Shown b g h (Q matched)) NoRaise := by
  refine Triple.bind (M := fun begun w => begun = start ∧ Shown b g h S w) (triple_clock fun w hw =>
    ⟨hw.2.2.2, hw.imp fun t c hc => hc.1⟩) fun begun => Triple.of_fact fun hbegun => ?_
  rw [hbegun]
  refine Triple.loop (Shown b g h S) (fun _ => id) (triple_shown fun t => ?_) fun _ _ => rfl
  refine Triple.bind (M := fun reply w => ∃ c p, S t c ∧ reply = some p ∧ p.cmd = cmdRequestState ∧
    p.status = (c.wait Firmware.repeatMs).status ∧ On g h (· = c.polled) w ∧ Traces b t w)
    ((statusCommand_on.and (command_untraced b t _ _ _)).conseq (fun _ => id) ?_ fun _ _ hw => hw.1)
    fun reply => Triple.of_exists fun c => Triple.of_exists fun p => Triple.of_fact fun hc =>
      Triple.of_fact fun hp => Triple.of_fact fun hcmd => Triple.of_fact fun hst => ?_
  · rintro reply w ⟨⟨c, p, hc, hp, hcmd, hst, hon⟩, htraces⟩
    exact ⟨c, p, hc, hp, hcmd, hst, hon, htraces⟩
  subst hp
  let st := (c.wait Firmware.repeatMs).status
  have hmatched : Triple (fun w => On g h (· = c.polled) w ∧ Traces b t w)
      (matchState mask want (some p)) (fun matched w => matched = decide (st &&& mask = want) ∧
        On g h (· = c.polled) w ∧ Traces b (t.given b st) w) NoRaise := by
    refine Triple.ite (fun _ => ?_) fun hno => absurd (by rw [hcmd]; decide) hno
    refine Triple.bind (M := fun _ w => On g h (· = c.polled) w ∧ Traces b t w)
      (triple_observe fun w hw => ⟨hw.1.congr rfl rfl, hw.2⟩) fun _ => ?_
    refine Triple.bind (M := fun _ w => On g h (· = c.polled) w ∧ Traces b (t.given b st) w) ?_
      fun _ => Triple.pure fun w hw => ⟨by rw [hst], hw⟩
    refine Triple.modify fun w hw => ?_
    obtain ⟨hon, rfl, rfl⟩ := hw
    unfold Trace.given
    rw [hst]
    split
    · exact ⟨hon.congr rfl rfl, rfl, rfl⟩
    · exact ⟨hon, rfl, rfl⟩
  refine hmatched.bind fun matched => Triple.of_fact fun hm => ?_
  have hend : ∀ {P : Trace → Carousel → Prop} {w : World Sim}, P (t.given b st) c.polled →
      On g h (· = c.polled) w ∧ Traces b (t.given b st) w → Shown b g h P w := fun hP hw =>
    shown_of_traces ⟨hw.1.imp fun d hd => hd ▸ hP, hw.2⟩
  refine Triple.ite (fun hyes => Triple.pure fun w hw => ?_) fun hno => ?_
  · rw [hyes] at hm
    exact hend (hmatch t c hc (of_decide_eq_true hm.symm)) hw
  · have hne : st &&& mask ≠ want := fun heq => hno (hm.trans (decide_eq_true heq))
    refine Triple.bind (M := fun now w => now = c.polled.now ∧ On g h (· = c.polled) w ∧
      Traces b (t.given b st) w) (triple_clock fun w hw => ⟨congrArg Carousel.now hw.1.2, hw⟩)
      fun now => Triple.of_fact fun hnow => ?_
    subst hnow
    by_cases hover : start + timeoutMs ≤ c.polled.now
    · rw [if_pos hover]
      exact Triple.pure fun w hw => hend (hlate t c hc hne hover) hw
    · rw [if_neg hover]
      exact Triple.pure fun w hw => hend (hgo t c hc hne (Nat.lt_of_not_le hover)) hw

/-! ## `require` -/

namespace Carousel

/-- What a blip leaves of a command. -/
def blipped (cmd : Nat) (args : List Nat) (c : Carousel) : Carousel :=
  (((c.roll cmd).workFor Firmware.blipForMs false).drop cmd args).2

/-- What hearing a command leaves, whatever the rolls. -/
def acted (cmd : Nat) (args : List Nat) (rolls : Nat → Nat → Bool) (c : Carousel) : Carousel :=
  (dispatch cmd args { c with rolls := rolls, log := c.log ++ [(cmd, args)] }).2

/-- An idle carousel drops a command by a blip, or acts on it. -/
theorem handle_idle {c : Carousel} (hundue : c.Undue) (hidle : c.busy = false) {cmd : Nat}
    {args : List Nat} (hhomed : cmd = 0x04 → args.getD 0 0 ≠ 0 → c.homed = true) :
    (c.blips = true ∧ c.rolls cmd 0 = true ∧ c.handle cmd args = (none, c.blipped cmd args)) ∨
      ∃ reply rolls, c.handle cmd args = (some reply, c.acted cmd args rolls) := by
  have hear : ∀ d : Carousel, d.homed = c.homed →
      d.hear cmd args = (some (dispatch cmd args { d with log := d.log ++ [(cmd, args)] }).1,
        (dispatch cmd args { d with log := d.log ++ [(cmd, args)] }).2) := by
    intro d hd
    unfold hear
    rw [if_neg]
    rintro ⟨h4, harg, hnot⟩
    rw [hd, hhomed h4 harg] at hnot
    cases hnot
  unfold handle serve
  rw [runDue_of_undue hundue]
  rw [if_neg fun hb => by rw [hidle] at hb; cases hb.1]
  split
  next hb =>
    split
    next hroll => exact .inl ⟨hb.1, hroll, rfl⟩
    next => exact .inr ⟨_, _, hear (c.roll cmd) rfl⟩
  next => exact .inr ⟨_, c.rolls, hear c rfl⟩

/-- Waiting on keeps what waiting keeps. -/
theorem waits_keep {S : Carousel → Prop} {H : Nat}
    (hwait : ∀ c ms, S c → ms ≤ Firmware.repeatMs → c.now + ms ≤ H →
      S (c.wait ms) ∧ (c.wait ms).busyUntil = c.busyUntil) (k : Nat) {c : Carousel} (hc : S c)
    (hH : c.now + k * pollMs ≤ H) :
    S ((wait pollMs)^[k] c) ∧ ((wait pollMs)^[k] c).busyUntil = c.busyUntil ∧
      ((wait pollMs)^[k] c).now = c.now + k * pollMs := by
  induction k generalizing c with
  | zero => exact ⟨hc, rfl, by simp⟩
  | succ k ih =>
    rw [Nat.succ_mul] at hH ⊢
    obtain ⟨hS, hbusy⟩ := hwait c pollMs hc (by decide) (by omega)
    obtain ⟨hS', hbusy', hnow⟩ := ih hS (by rw [wait_now]; omega)
    rw [wait_now] at hnow
    exact ⟨hS', hbusy'.trans hbusy, by rw [Function.iterate_succ_apply, hnow]; omega⟩

end Carousel

/-- Among the next `left` rolls for `cmd` there is one that is no blip. -/
def Carousel.Spares (cmd left : Nat) (c : Carousel) : Prop :=
  c.blips = true → ∃ i < left, c.rolls cmd i = false

/-- With tolerable blips a `require` is heard. -/
theorem Carousel.Tolerable.spares {c : Carousel} (h : c.Tolerable) {cmd : Nat}
    (hcmd : cmd ∈ [cmdSetPos, cmdRetract, cmdAcceptDisc]) : c.Spares cmd 3 := by
  intro hb
  obtain ⟨j, hj, hroll⟩ := h hb cmd hcmd 0
  exact ⟨j, hj, by rwa [Nat.zero_add] at hroll⟩

section Require

variable {k : Bool} {S Q : Carousel → Prop} {cmd : Nat} {args : List Nat} {t₀ H : Nat}

/-- The state in which a `require` has `left` attempts to go, with `spent` turns of the clock. -/
structure Trying (k : Bool) (S : Carousel → Prop) (cmd t₀ left : Nat) (c : Carousel) : Prop where
  state : S c
  begun : t₀ ≤ c.now
  spent : c.now + left * 3386 ≤ t₀ + 10158
  idle : c.busyUntil ≤ c.now + Firmware.repeatMs
  spared : k = true → c.Spares cmd left

/-- What an attempt is asked of: the carousel is in `S` throughout, and acts on the command. -/
structure Attempts (S Q : Carousel → Prop) (cmd : Nat) (args : List Nat) (t₀ H : Nat) : Prop where
  sendable : Sendable cmd args
  dropped : cmd ∉ Firmware.alwaysAnswered
  horizon : t₀ + 7015 ≤ H
  wait : ∀ c ms, S c → ms ≤ Firmware.repeatMs → c.now + ms ≤ H →
    S (c.wait ms) ∧ (c.wait ms).busyUntil = c.busyUntil
  asked : ∀ c, S c → S c.asked
  blipped : ∀ c, S c → S (c.blipped cmd (Sim.padded args))
  homed : ∀ c, S c → cmd = 0x04 → (Sim.padded args).getD 0 0 ≠ 0 → c.homed = true
  acted : ∀ c rolls, S c → c.Undue → c.busyUntil ≤ c.now → t₀ + Firmware.repeatMs ≤ c.now →
    c.now ≤ t₀ + 6915 → Q ((c.acted cmd (Sim.padded args) rolls).wait pollMs)

/-- After a drop: the unit has been silent for three seconds. -/
structure Silent (k : Bool) (S : Carousel → Prop) (cmd t₀ left : Nat) (c : Carousel) : Prop where
  state : S c
  begun : t₀ ≤ c.now
  spent : c.now + left * 3386 + 243 ≤ t₀ + 10158
  idle : c.busyUntil ≤ c.now
  spared : k = true → c.Spares cmd left

/-- After an attempt that went unanswered: the last does so only when blips may be intolerable. -/
def Unheard (k : Bool) (S : Carousel → Prop) (cmd t₀ left : Nat) (c : Carousel) : Prop :=
  if left = 0 then k = false else Silent k S cmd t₀ left c

variable (hA : Attempts S Q cmd args t₀ H)
include hA

/-- The carousel at the time when the command reaches it. -/
theorem Trying.reading {left : Nat} {c : Carousel} (hc : Trying k S cmd t₀ (left + 1) c) :
    S (c.wait Firmware.repeatMs) ∧
      (c.wait Firmware.repeatMs).busyUntil ≤ (c.wait Firmware.repeatMs).now ∧
      t₀ + Firmware.repeatMs ≤ (c.wait Firmware.repeatMs).now ∧
      (c.wait Firmware.repeatMs).now + left * 3386 ≤ t₀ + 6915 := by
  have hspent := hc.spent
  have hbegun := hc.begun
  have hH := hA.horizon
  have hrepeat : Firmware.repeatMs = 143 := rfl
  obtain ⟨hS, hbusy⟩ := hA.wait c Firmware.repeatMs hc.state (Nat.le_refl _) (by omega)
  have hnow : (c.wait Firmware.repeatMs).now = c.now + Firmware.repeatMs := c.wait_now _
  refine ⟨hS, ?_, ?_, ?_⟩
  · rw [hbusy, hnow]
    exact hc.idle
  · omega
  · omega

omit hA in
/-- A roll that was a blip is spent. -/
theorem Trying.spend {left : Nat} {c : Carousel} (hc : Trying k S cmd t₀ (left + 1) c)
    (hblips : c.blips = true) (hroll : c.rolls cmd 0 = true) (hk : k = true) :
    ∃ i < left, c.rolls cmd (i + 1) = false := by
  obtain ⟨i, hi, hf⟩ := hc.spared hk hblips
  cases i with
  | zero =>
    rw [hroll] at hf
    cases hf
  | succ i => exact ⟨i, by omega, hf⟩

/-- After a blip the unit is silent until the client gives up waiting. -/
theorem Trying.silent {left : Nat} {c : Carousel} (hc : Trying k S cmd t₀ (left + 1) c)
    (hleft : left ≠ 0) (hblips : c.blips = true) (hroll : c.rolls cmd 0 = true) :
    Silent k S cmd t₀ left
      ((Carousel.wait pollMs)^[30] ((c.wait Firmware.repeatMs).blipped cmd (Sim.padded args))) := by
  obtain ⟨hS, hrest, hbegun, hspent⟩ := hc.reading hA
  have hH := hA.horizon
  have hpoll : pollMs = 100 := rfl
  have hfor : Firmware.blipForMs = 300 := rfl
  have hnow : ((c.wait Firmware.repeatMs).blipped cmd (Sim.padded args)).now =
      (c.wait Firmware.repeatMs).now := rfl
  have hbusy : ((c.wait Firmware.repeatMs).blipped cmd (Sim.padded args)).busyUntil =
      max (c.wait Firmware.repeatMs).busyUntil
        ((c.wait Firmware.repeatMs).now + Firmware.blipForMs) := rfl
  obtain ⟨hS', hb, hn⟩ := Carousel.waits_keep hA.wait 30 (hA.blipped _ hS) (by omega)
  refine ⟨hS', by omega, by omega, by omega, fun hk hb' => ?_⟩
  obtain ⟨i, hi, hf⟩ := hc.spend hblips hroll hk
  have hwaits : ∀ k (d : Carousel), ((Carousel.wait pollMs)^[k] d).rolls = d.rolls := by
    intro k
    induction k with
    | zero => exact fun _ => rfl
    | succ k ih => exact fun d => (ih _).trans (d.wait_sameSetup pollMs).rolls
  refine ⟨i, hi, ?_⟩
  rw [hwaits]
  show (if cmd = cmd then (c.wait _).rolls cmd (i + 1) else _) = false
  rw [if_pos rfl, (c.wait_sameSetup _).rolls]
  exact hf

/-- One attempt. -/
theorem attempt_on (left : Nat) :
    Triple (On g h (Trying k S cmd t₀ (left + 1))) (command cmd args ackMs)
      (fun reply w => match reply with
        | some _ => On g h Q w
        | none => On g h (Unheard k S cmd t₀ left) w)
      NoRaise := by
  refine (command_on (Q := Reacts (Unheard k S cmd t₀ left) fun _ => Q) hA.sendable
    fun c hc => ?_).post ?_
  · obtain ⟨hS, hrest, hbegun, hspent⟩ := hc.reading hA
    have hnot : (c.wait Firmware.repeatMs).busy = false := decide_eq_false (Nat.not_lt.mpr hrest)
    have hsame := c.wait_sameSetup Firmware.repeatMs
    have hundue := c.wait_undue Firmware.repeatMs
    rcases Carousel.handle_idle hundue hnot (hA.homed _ hS)
      with ⟨hblips, hroll, hr⟩ | ⟨reply, rolls, hr⟩
    · rw [hr]
      rw [hsame.blips] at hblips
      rw [hsame.rolls] at hroll
      show Unheard k S cmd t₀ left _
      unfold Unheard
      split
      next hzero =>
        cases hk : k with
        | false => rfl
        | true =>
          obtain ⟨i, hi, _⟩ := hc.spend hblips hroll hk
          omega
      next hpos => exact hc.silent hA hpos hblips hroll
    · rw [hr]
      exact hA.acted _ rolls hS hundue hrest hbegun (by omega)
  · rintro reply w ⟨handled, ⟨unit, msgid, rfl⟩, hw⟩
    cases handled with
    | none => exact hw
    | some _ => exact hw

/-- The carousel at the poll between two attempts. -/
theorem Silent.reading {left : Nat} (hleft : 0 < left) {c : Carousel}
    (hc : Silent k S cmd t₀ left c) :
    S (c.wait Firmware.repeatMs) ∧ (c.wait Firmware.repeatMs).busyUntil = c.busyUntil := by
  have hrepeat : Firmware.repeatMs = 143 := rfl
  have hH := hA.horizon
  have hspent := hc.spent
  exact hA.wait c Firmware.repeatMs hc.state (Nat.le_refl _) (by omega)

/-- That poll finds the unit idle. -/
theorem Silent.poll {left : Nat} (hleft : 0 < left) {c : Carousel} (hc : Silent k S cmd t₀ left c) :
    (c.wait Firmware.repeatMs).status &&& stBusy = 0 ∧ Trying k S cmd t₀ left c.polled := by
  have hpoll : pollMs = 100 := rfl
  have hrepeat : Firmware.repeatMs = 143 := rfl
  have hH := hA.horizon
  have hspent := hc.spent
  have hbegun := hc.begun
  have hidle := hc.idle
  obtain ⟨hS, hbusy⟩ := hc.reading hA hleft
  have hnow : (c.wait Firmware.repeatMs).now = c.now + Firmware.repeatMs := c.wait_now _
  have hasked : (c.wait Firmware.repeatMs).asked.now = (c.wait Firmware.repeatMs).now := rfl
  have hasked' : (c.wait Firmware.repeatMs).asked.busyUntil =
      (c.wait Firmware.repeatMs).busyUntil := rfl
  obtain ⟨hS', hbusy'⟩ := hA.wait (c.wait Firmware.repeatMs).asked pollMs (hA.asked _ hS)
    (by decide) (by omega)
  refine ⟨?_, hS', ?_, ?_, ?_, fun hk hb => ?_⟩
  · rw [Carousel.status_busy]
    exact decide_eq_false (by omega)
  · rw [Carousel.polled_now]
    omega
  · rw [Carousel.polled_now]
    omega
  · rw [Carousel.polled_now, show c.polled.busyUntil = _ from hbusy']
    omega
  · have hrolls : c.polled.rolls = c.rolls :=
      (Carousel.wait_sameSetup pollMs _).rolls.trans (c.wait_sameSetup _).rolls
    have hblips : c.polled.blips = c.blips :=
      (Carousel.wait_sameSetup pollMs _).blips.trans (c.wait_sameSetup _).blips
    rw [hrolls]
    exact hc.spared hk (hblips ▸ hb)

section Words

variable {b : Bool} {T : Trace → Prop} (hT : ∀ t c, T t → S c → T (t.given b c.status))
include hT

theorem retry_traced {left : Nat} (hleft : 0 < left) :
    Triple (Traced b g h T (Silent k S cmd t₀ left)) (waitState stBusy 0 2000)
      (fun _ => Traced b g h T (Trying k S cmd t₀ left)) NoRaise := by
  refine Triple.of_each fun w₀ hw₀ => ?_
  refine (waitState_shown (S := fun t c => T t ∧ Silent k S cmd t₀ left c)
    (Q := fun _ t c => T t ∧ Trying k S cmd t₀ left c) w₀.io.car.now (fun t c hc _ => ?_)
    (fun t c hc hne => absurd (hc.2.poll hA hleft).1 hne)
    fun t c hc hne => absurd (hc.2.poll hA hleft).1 hne).pre ?_
  · exact ⟨hT t _ hc.1 (hc.2.reading hA hleft).1, (hc.2.poll hA hleft).2⟩
  · rintro w rfl
    exact ⟨hw₀.1, hw₀.2.1, hw₀.2.2, rfl⟩

/-- The attempts, when the words read between them leave the trace as `T` says. -/
theorem requireFrom_traced (left : Nat) :
    Triple (Traced b g h T (Trying k S cmd t₀ (left + 1))) (requireFrom cmd args 3 (left + 1))
      (fun _ => Traced b g h T Q) (Mild k) := by
  have hmild : ∀ (e : Option Exc) (w : World Sim), NoRaise e w → Mild k e w := fun _ _ => .inl
  refine requireFrom_rule (A := fun left => Traced b g h T (Trying k S cmd t₀ left))
    (B := fun left => Traced b g h T (Unheard k S cmd t₀ left)) (fun left => triple_shown fun t => ?_)
    (fun left hleft => (retry_traced hA hT hleft).conseq (fun w hw => ?_) (fun _ _ => id) hmild)
    (fun msg w hw => .inr hw.on.2) left
  · refine Triple.pre (A := fun w => T t ∧ On g h (Trying k S cmd t₀ (left + 1)) w ∧ Traces b t w)
      (Triple.of_fact fun ht => ?_) fun w hw => ⟨hw.1.2.1, hw.1.imp fun c hc => hc.2, hw.2⟩
    refine ((attempt_on hA left).and (command_untraced b t cmd args ackMs)).conseq (fun _ => id)
      (fun reply w ⟨hanswer, htraces⟩ => ?_) fun _ w hw => hmild _ w hw.1
    cases reply with
    | some p =>
      exact shown_of_traces (P := fun t c => T t ∧ Q c) ⟨hanswer.imp fun c hc => ⟨ht, hc⟩, htraces⟩
    | none =>
      exact shown_of_traces (P := fun t c => T t ∧ Unheard k S cmd t₀ left c)
        ⟨hanswer.imp fun c hc => ⟨ht, hc⟩, htraces⟩
  · exact hw.imp fun c hc => by rwa [Unheard, if_neg (Nat.ne_of_gt hleft)] at hc

/-- **The rule of `require`**, sent to an idle unit: within 6915 ms the carousel acts on the
command, or the blips are intolerable. -/
theorem require_traced (hmoves : cmd ∈ [cmdSetPos, cmdRetract, cmdAcceptDisc]) :
    Triple (Traced b g h T fun c => S c ∧ c.now = t₀ ∧ c.busyUntil ≤ t₀ + Firmware.repeatMs)
      (require cmd args) (fun _ => Traced b g h T Q) (Mild g) := by
  refine (requireFrom_traced hA hT 2).pre fun w hw => ⟨hw.1, hw.2.1, hw.2.2.1, ?_⟩
  obtain ⟨hTidy, hS, hnow, hidle⟩ := hw.on
  refine ⟨hS, ?_, ?_, ?_, ?_⟩
  · omega
  · omega
  · omega
  · exact fun hg => (hTidy.tolerable hg).spares hmoves

end Words

theorem retry_on {left : Nat} (hleft : 0 < left) :
    Triple (On g h (Silent k S cmd t₀ left)) (waitState stBusy 0 2000)
      (fun _ => On g h (Trying k S cmd t₀ left)) NoRaise :=
  on_of_traced fun _ => retry_traced hA (fun _ _ _ _ => trivial) hleft

end Require

end StakkaWeb
