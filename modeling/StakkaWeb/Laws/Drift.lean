import StakkaWeb.Laws.Command

/-!
# What only a command can change

A property of the carousel `Drifts` when neither the hands nor the clock nor the firmware's own
timers end it. Between two commands nothing else happens to a carousel, so what a command does is
known from what it finds: `triple_command_drift` is the rule of `command` in those terms, for
any state of the transport, open or not.
-/

set_option autoImplicit false

namespace StakkaWeb

open Lib Lib.Prog

/-- Hands, time and timers keep `D`. -/
structure Drifts (D : Carousel → Prop) : Prop where
  hand : ∀ t (a : Hand) c, D c → D (c.at_ t a.event)
  later : ∀ ms c, D c → D { c with now := c.now + ms }
  fire : ∀ c t e, D c → c.events.entries.head? = some (t, e) → t ≤ c.now →
    D (Carousel.fire e { c with events := c.events.pop })

namespace Drifts

variable {D : Carousel → Prop}

/-- Delivering a command is handling it, as far as the carousel goes. -/
theorem deliver {s : Sim} {msgid cmd : Nat} {args : List Nat}
    (hs : D (s.car.handle cmd args).2) : D (s.deliver msgid cmd args).car := by
  unfold Sim.deliver
  rcases hh : s.car.handle cmd args with ⟨_ | _, car⟩ <;> rw [hh] at hs <;> exact hs

variable (h : Drifts D)
include h

theorem runDue {c : Carousel} (hc : D c) : D c.runDue := Carousel.runDue_inv D h.fire hc

theorem feed (acts : List (Nat × Hand)) {c : Carousel} (hc : D c) : D (Sim.feed acts c) := by
  induction acts generalizing c with
  | nil => exact hc
  | cons a acts ih => exact ih (h.hand a.1 a.2 c hc)

theorem stir {s : Sim} (hs : D s.car) : D s.stir.car := h.feed _ hs

theorem tick (ms : Nat) {s : Sim} (hs : D s.car) : D (s.tick ms).car := h.runDue (h.later ms _ hs)

theorem read (timeoutMs : Nat) {s : Sim} (hs : D s.car) : D (s.read timeoutMs).2.car := by
  unfold Sim.read
  dsimp only
  repeat' split
  · exact h.stir hs
  all_goals exact h.tick _ (h.stir hs)

/-- A property that drifts is kept by code that writes only commands which keep it. -/
theorem stable {W : Nat → List Nat → Prop}
    (hw : ∀ cmd args c, W cmd args → D c → D (c.handle cmd (Sim.padded args)).2)
    (hfive : ∀ cmd args, W cmd args → args.length ≤ 5) :
    Stable W fun s : Sim => D s.car where
  opens s hs := by
    show D s.opens.2.car
    unfold Sim.opens
    repeat' split
    all_goals exact hs
  closes _ hs := hs
  read timeoutMs _ hs := h.read timeoutMs hs
  write unit msgid cmd args s hW hs := by
    refine Sim.write_rule (P := fun r => D r.2.car) (hfive cmd args hW) (fun _ _ => h.stir hs)
      (fun _ _ _ => h.stir hs) fun _ _ _ => ?_
    exact deliver (hw cmd args _ hW (h.stir hs))
  clock _ hs := hs
  sleep ms s hs := h.later ms s.car hs

end Drifts

theorem Drifts.or {D D' : Carousel → Prop} (h : Drifts D) (h' : Drifts D') :
    Drifts fun c => D c ∨ D' c where
  hand t a c := Or.imp (h.hand t a c) (h'.hand t a c)
  later ms c := Or.imp (h.later ms c) (h'.later ms c)
  fire c t e hc ht hnow := hc.imp (fun hc => h.fire c t e hc ht hnow)
    fun hc => h'.fire c t e hc ht hnow

theorem Drifts.and_imp {D D' : Carousel → Prop} (h : Drifts D) (h' : Drifts D') (φ : Prop) :
    Drifts fun c => D c ∧ (φ → D' c) where
  hand t a c hc := ⟨h.hand t a c hc.1, fun hφ => h'.hand t a c (hc.2 hφ)⟩
  later ms c hc := ⟨h.later ms c hc.1, fun hφ => h'.later ms c (hc.2 hφ)⟩
  fire c t e hc hhead hdue :=
    ⟨h.fire c t e hc.1 hhead hdue, fun hφ => h'.fire c t e (hc.2 hφ) hhead hdue⟩

theorem drifts_reacts {D : Carousel → Prop} {heard : List Nat → Carousel → Prop} (h : Drifts D)
    (hheard : ∀ payload, Drifts (heard payload)) (r : Option (List Nat)) : Drifts (Reacts D heard r) := by
  cases r with
  | none => exact h
  | some payload => exact hheard payload

/-! ## The rule of a command -/

section Rule

variable {D : Carousel → Prop} {H : Option (List Nat) → Carousel → Prop}

/-- The carousel is in `D` and the transport repeats `latched`. -/
def Repeats (D : Carousel → Prop) (latched : Option (List Nat)) (w : World Sim) : Prop :=
  D w.io.car ∧ w.io.latched = latched

/-- A read returns the packet that the transport repeats. -/
theorem read_repeats (h : Drifts D) (latched : Option (List Nat)) (timeoutMs : Nat) :
    Triple (Repeats D latched) (read timeoutMs)
      (fun r w => Repeats D latched w ∧ ∃ raw, latched = some raw ∧
        if raw = [] then r = none else r = some (Packet.ofRaw raw))
      (fun _ w => D w.io.car) := by
  refine (Triple.gets (Q := fun _ => Repeats D latched)
    fun w hw => hw).bind fun isOpen => ?_
  refine (Triple.raiseIf (Q := fun _ => Repeats D latched)
    (fun w hw _ => hw.1) fun w hw _ => hw).bind fun _ => ?_
  have hlatched : ∀ s : Sim, (s.read timeoutMs).2.latched = s.latched := by
    intro s
    unfold Sim.read
    dsimp only
    repeat' split
    all_goals rfl
  have hread : Triple (Repeats D latched)
      (onOutside (Outside.read 64 timeoutMs))
      (fun raw w => Repeats D latched w ∧ latched = some raw)
      (fun _ w => D w.io.car) := by
    refine triple_onOutside (fun w raw s hw hr => ?_) fun w e s hw hr => ?_
    · have hs : s = (w.io.read timeoutMs).2 := (Prod.ext_iff.mp hr).2.symm
      have hraw : (w.io.read timeoutMs).1 = .ok raw := (Prod.ext_iff.mp hr).1
      rw [hs]
      refine ⟨⟨h.read timeoutMs hw.1, (hlatched _).trans hw.2⟩, ?_⟩
      rw [← hw.2]
      unfold Sim.read at hraw
      dsimp only at hraw
      split at hraw
      · cases hraw
      · split at hraw
        · cases hraw
        · split at hraw
          next => cases hraw
          next raw' hl =>
            cases hraw
            exact hl
    · have hs : s = (w.io.read timeoutMs).2 := (Prod.ext_iff.mp hr).2.symm
      rw [hs]
      exact h.read timeoutMs hw.1
  refine (triple_orNotConnected (J := fun s : Sim => D s.car) (fun _ hs => hs) hread _).bind fun raw => ?_
  refine Triple.ite (fun hempty => Triple.pure fun w hw => ⟨hw.1, raw, hw.2, ?_⟩) fun hempty => ?_
  · rw [if_pos (List.isEmpty_iff.mp hempty)]
  refine Triple.ite (fun _ => Triple.raise fun w hw => hw.1.1) fun _ => Triple.pure fun w hw => ?_
  refine ⟨hw.1, raw, hw.2, ?_⟩
  rw [if_neg fun he => hempty (List.isEmpty_iff.mpr he)]

/-- The carousel after a write: it has not heard of the command, has dropped it, or has replied. -/
def Wrote (D : Carousel → Prop) (H : Option (List Nat) → Carousel → Prop)
    (latched : Option (List Nat)) (msgid cmd : Nat) (w : World Sim) : Prop :=
  ((D w.io.car ∨ H none w.io.car) ∧ w.io.latched = latched) ∨
    ∃ unit payload, payload.length = 4 ∧ H (some payload) w.io.car ∧
      w.io.latched = some ([0x01, unit, msgid, cmd] ++ payload)

theorem write_handles (h : Drifts D) {cmd : Nat} {args : List Nat} (hargs : args.length ≤ 5)
    (hh : ∀ c, D c → H (c.handle cmd (Sim.padded args)).1 (c.handle cmd (Sim.padded args)).2)
    (latched : Option (List Nat)) (msgid : Nat) :
    Triple (Repeats D latched) (write msgid cmd args)
      (fun _ => Wrote D H latched msgid cmd) (fun _ w => D w.io.car) := by
  refine (Triple.gets (Q := fun _ => Repeats D latched)
    fun w hw => hw).bind fun ds => ?_
  refine (Triple.raiseIf (Q := fun _ => Repeats D latched)
    (fun w hw _ => hw.1) fun w hw _ => hw).bind fun _ => ?_
  refine (Triple.raiseIf (Q := fun _ => Repeats D latched)
    (fun w hw _ => hw.1) fun w hw _ => hw).bind fun _ => ?_
  have hwrite : Triple (Repeats D latched)
      (onOutside (Outside.write (reportBytes ds.unit msgid cmd args)))
      (fun count w => Wrote D H latched msgid cmd w ∧ count = 10) (fun _ w => D w.io.car) := by
    have key : ∀ w : World Sim, D w.io.car ∧ w.io.latched = latched →
        match w.io.write (reportBytes ds.unit msgid cmd args) with
        | (.ok count, s) => Wrote D H latched msgid cmd { w with io := s } ∧ count = 10
        | (.error _, s) => D s.car := by
      intro w hw
      refine Sim.write_rule (P := fun r => match r with
        | (.ok count, s) => Wrote D H latched msgid cmd { w with io := s } ∧ count = 10
        | (.error _, s) => D s.car) hargs (fun _ _ => h.stir hw.1)
        (fun _ _ _ => ⟨.inl ⟨.inl (h.stir hw.1), hw.2⟩, rfl⟩) fun _ _ _ => ⟨?_, rfl⟩
      have hdue := hh w.io.stir.car (h.stir hw.1)
      have hhandled := w.io.stir.car.handle_handled cmd (Sim.padded args)
      unfold Sim.deliver
      rcases hr : w.io.stir.car.handle cmd (Sim.padded args) with ⟨_ | payload, car⟩ <;>
        rw [hr] at hdue hhandled
      · exact .inl ⟨.inr hdue, hw.2⟩
      · obtain ⟨hlen, _, _⟩ | _ := hhandled
        exact .inr ⟨_, payload, hlen, hdue, rfl⟩
    refine triple_onOutside (fun w count s hw hr => ?_) fun w e s hw hr => ?_
    · have := key w hw
      rwa [show w.io.write _ = _ from hr] at this
    · have := key w hw
      rwa [show w.io.write _ = _ from hr] at this
  refine (triple_orNotConnected (J := fun s : Sim => D s.car) (fun _ hs => hs) hwrite _).bind fun count => ?_
  refine Triple.raiseIf (fun w hw hc => ?_) fun w hw _ => hw.1
  rw [hw.2] at hc
  cases hc

/-- What `command` is known to have done to the carousel, by what it answered. -/
def Told (D : Carousel → Prop) (H : Option (List Nat) → Carousel → Prop) (cmd : Nat)
    (reply : Option Packet) (c : Carousel) : Prop :=
  match reply with
  | none => D c ∨ H none c
  | some p => p.cmd = cmd ∧ H (some p.payload) c

/-- The reply loop goes on: the carousel has not replied, or its reply will be read in time. -/
def Awaiting (D : Carousel → Prop) (H : Option (List Nat) → Carousel → Prop) (raw : List Nat)
    (msgid cmd deadline : Nat) (w : World Sim) : Prop :=
  Wrote D H (some raw) msgid cmd w ∧ (w.io.latched = some raw ∨ w.io.car.now < deadline)

/-- After one turn of the reply loop. -/
def Turned (D : Carousel → Prop) (H : Option (List Nat) → Carousel → Prop) (raw : List Nat)
    (msgid cmd deadline : Nat) (r : Option (Option Packet)) (w : World Sim) : Prop :=
  match r with
  | some reply => Told D H cmd reply w.io.car
  | none => Awaiting D H raw msgid cmd deadline w

/-- A turn that reads the packet of before the command. -/
theorem awaitReply_stale (h : Drifts D) (hH : ∀ r, Drifts (H r)) {raw : List Nat} {msgid : Nat}
    (hid : (Packet.ofRaw raw).msgid ≠ msgid) (cmd deadline : Nat) :
    Triple (Repeats (fun c => D c ∨ H none c) (some raw)) (awaitReply cmd msgid deadline)
      (Turned D H raw msgid cmd deadline) (fun _ w => D w.io.car ∨ ∃ r, H r w.io.car) := by
  refine Triple.bind (M := fun _ => Repeats (fun c => D c ∨ H none c) (some raw))
    (triple_clock fun w hw => hw) fun now => ?_
  refine Triple.ite (fun _ => ?_) fun _ => Triple.pure fun w hw => hw.1
  have hread := (read_repeats (h.or (hH none)) (some raw) pollMs).conseq (fun _ => id)
    (fun _ _ => id) fun _ w hw => (Or.imp id (fun hd => ⟨none, hd⟩) hw :
      D w.io.car ∨ ∃ r, H r w.io.car)
  refine hread.bind fun reply => ?_
  cases reply with
  | none => exact Triple.pure fun w hw => ⟨.inl hw.1, .inl hw.1.2⟩
  | some p =>
    refine Triple.ite (fun heq => ?_) fun _ => Triple.pure fun w hw => ⟨.inl hw.1, .inl hw.1.2⟩
    refine Triple.pre (A := fun _ => False) (fun n s hs => hs.elim) fun w hw => ?_
    obtain ⟨_, raw', hraw, hp⟩ := hw
    cases hraw
    split at hp <;> cases hp
    exact hid heq

/-- A turn that reads the reply. -/
theorem awaitReply_fresh (hH : ∀ r, Drifts (H r)) {payload : List Nat} (hlen : payload.length = 4)
    (raw : List Nat) (unit cmd msgid deadline : Nat) :
    Triple (fun w => Repeats (H (some payload)) (some ([0x01, unit, msgid, cmd] ++ payload)) w ∧
        w.io.car.now < deadline) (awaitReply cmd msgid deadline)
      (Turned D H raw msgid cmd deadline) (fun _ w => D w.io.car ∨ ∃ r, H r w.io.car) := by
  refine Triple.bind (M := fun now w =>
    now < deadline ∧ Repeats (H (some payload)) (some ([0x01, unit, msgid, cmd] ++ payload)) w)
    (triple_clock fun w hw => ⟨hw.2, hw.1⟩) fun now => Triple.of_fact fun hnow => ?_
  rw [if_pos hnow]
  have hread := (read_repeats (hH (some payload)) (some ([0x01, unit, msgid, cmd] ++ payload))
    pollMs).conseq (Q := fun reply w =>
      reply = some (Packet.ofRaw ([0x01, unit, msgid, cmd] ++ payload)) ∧ H (some payload) w.io.car)
    (R := fun _ w => D w.io.car ∨ ∃ r, H r w.io.car)
    (fun _ => id) (fun reply w ⟨⟨hd, _⟩, raw', hraw, hp⟩ => ?_) fun _ w hw => .inr ⟨some payload, hw⟩
  · refine hread.bind fun reply => Triple.of_fact fun hreply => ?_
    subst hreply
    refine Triple.ite (fun _ => ?_) fun hne => absurd rfl hne
    refine Triple.bind (M := fun _ w => H (some payload) w.io.car)
      (triple_observe fun w hw => hw) fun _ => Triple.pure fun w hw => ⟨rfl, ?_⟩
    rw [show (Packet.ofRaw _).payload = payload from replyPacket_payload unit msgid cmd hlen]
    exact hw
  · cases hraw
    exact ⟨hp, hd⟩

/-- **The rule of a command**, for any state of the transport: no answer means that the carousel
has not heard of it or dropped it, and an answer is what the carousel replied to it. -/
theorem triple_command_drift (h : Drifts D) (hH : ∀ r, Drifts (H r)) {cmd : Nat} {args : List Nat}
    (hargs : args.length ≤ 5)
    (hh : ∀ c, D c → H (c.handle cmd (Sim.padded args)).1 (c.handle cmd (Sim.padded args)).2)
    {timeoutMs : Nat} (ht : 0 < timeoutMs) :
    Triple (fun w : World Sim => D w.io.car) (command cmd args timeoutMs)
      (fun reply w => Told D H cmd reply w.io.car)
      (fun _ w => D w.io.car ∨ ∃ r, H r w.io.car) := by
  refine Triple.of_each fun w₀ h₀ => ?_
  have hseed := (read_repeats h w₀.io.latched timeoutMs).conseq (P := fun w => w = w₀)
    (by rintro w rfl; exact ⟨h₀, rfl⟩) (fun _ _ => id)
    fun _ w (hw : D w.io.car) => (Or.inl hw : D w.io.car ∨ ∃ r, H r w.io.car)
  refine hseed.bind fun seed => ?_
  cases seed with
  | none => exact Triple.raise fun w hw => .inl hw.1.1
  | some seed =>
    refine Triple.pre (A := fun w => (∃ raw, w₀.io.latched = some raw ∧ seed = Packet.ofRaw raw) ∧
      Repeats D w₀.io.latched w) ?_ fun w ⟨hw, raw, hraw, hp⟩ => ⟨⟨raw, hraw, ?_⟩, hw⟩
    on_goal 2 =>
      split at hp <;> cases hp
      rfl
    refine Triple.of_fact fun ⟨raw, hraw, hseed⟩ => ?_
    have hwrite := (write_handles h hargs hh w₀.io.latched ((seed.msgid + 1) % 256)).conseq
      (fun _ => id) (fun _ _ => id)
      fun _ w (hw : D w.io.car) => (Or.inl hw : D w.io.car ∨ ∃ r, H r w.io.car)
    refine hwrite.bind fun _ => ?_
    have hid : (Packet.ofRaw raw).msgid ≠ (seed.msgid + 1) % 256 := by
      rw [hseed]
      exact freshId_ne raw
    refine Triple.bind (M := fun now w => Wrote D H w₀.io.latched ((seed.msgid + 1) % 256) cmd w ∧
      w.io.car.now = now) (triple_clock fun w hw => ⟨hw, rfl⟩) fun now => ?_
    rw [hraw]
    have hturn : Triple (Awaiting D H raw ((seed.msgid + 1) % 256) cmd (now + timeoutMs))
        (awaitReply cmd ((seed.msgid + 1) % 256) (now + timeoutMs))
        (Turned D H raw ((seed.msgid + 1) % 256) cmd (now + timeoutMs))
        (fun _ w => D w.io.car ∨ ∃ r, H r w.io.car) := by
      refine Triple.of_each fun w₁ ⟨hwrote, hearly⟩ => ?_
      rcases hwrote with ⟨hd, hl⟩ | ⟨unit, payload, hlen, hd, hl⟩
      · refine (awaitReply_stale h hH hid _ _).pre ?_
        rintro w rfl
        exact ⟨hd, hl⟩
      · refine (awaitReply_fresh hH hlen raw unit cmd _ _).pre ?_
        rintro w rfl
        refine ⟨⟨hd, hl⟩, hearly.resolve_left fun hold => hid ?_⟩
        rw [hl] at hold
        cases hold
        rfl
    refine Triple.loop _ (fun w hw => ⟨hw.1, .inr ?_⟩)
      (hturn.post fun r w hw => by cases r <;> exact hw) fun w hw => ?_
    · obtain ⟨⟨hd | hd, _⟩ | ⟨_, payload, _, hd, _⟩, _⟩ := hw
      · exact .inl hd
      · exact .inr ⟨none, hd⟩
      · exact .inr ⟨some payload, hd⟩
    · rw [hw.2]
      omega

end Rule

/-! ## The rules of a status reading -/

/-- A status request finds a carousel in `D`, with nothing due, and leaves `S` of the word it
reports. -/
structure Reports (D : Carousel → Prop) (S : Nat → Carousel → Prop) : Prop where
  before : Drifts D
  after : ∀ st, Drifts (S st)
  weaken : ∀ st c, S st c → D c
  report : ∀ c, D c → (∀ x ∈ c.events, c.now < x.1) →
    S c.status c.asked

namespace Reports

variable {D : Carousel → Prop} {S : Nat → Carousel → Prop} (h : Reports D S)
include h

/-- The postcondition of a status request. -/
theorem command : Triple (fun w : World Sim => D w.io.car) (command cmdRequestState [] ackMs)
    (fun reply w => D w.io.car ∧ ∀ p, reply = some p → S p.status w.io.car)
    (fun _ w => D w.io.car) := by
  let H := Reacts D fun payload => S (payload.getD 1 0 <<< 8 ||| payload.getD 2 0)
  have hH : ∀ r, Drifts (H r) := drifts_reacts h.before fun _ => h.after _
  have hweak : ∀ r c, H r c → D c := by
    intro r c hr
    cases r with
    | none => exact hr
    | some payload => exact h.weaken _ c hr
  have hh : ∀ c, D c → H (c.handle cmdRequestState (Sim.padded [])).1
      (c.handle cmdRequestState (Sim.padded [])).2 := by
    intro c hc
    have hanswered : cmdRequestState ∈ Firmware.alwaysAnswered := by decide
    refine Carousel.handle_rule (P := fun r => H r.1 r.2) (fun _ hn => absurd hanswered hn)
      (fun _ _ hn => absurd hanswered hn) fun d hd => ?_
    have hdue : d = c.runDue := by
      cases hd with
      | always => rfl
      | steady => rfl
      | rolled _ hn => exact absurd hanswered hn
    subst hdue
    have hmove : cmdRequestState ≠ 0x04 := by decide
    refine Carousel.hear_rule (P := fun r => H r.1 r.2) (fun hc => absurd hc hmove) fun _ => ?_
    have hreport := h.report c.runDue (h.before.runDue hc) fun x hx => by
      rw [Carousel.runDue_now]
      exact c.runDue_later hx
    have hword := c.runDue.status_word
    show S (_ <<< 8 ||| _) _
    rw [show c.runDue.status = _ from hword.symm] at hreport
    exact hreport
  refine (triple_command_drift h.before hH (by decide) hh (by decide)).conseq (fun _ => id)
    (fun reply w ht => ?_) fun _ w hw => hw.elim id fun ⟨r, hr⟩ => hweak r _ hr
  cases reply with
  | none => exact ⟨ht.elim id id, nofun⟩
  | some p =>
    refine ⟨hweak (some p.payload) _ ht.2, fun p' hp => ?_⟩
    cases hp
    exact ht.2

omit h in
/-- Whether a wait that was told the status word ends with it. -/
theorem matchState (mask want : Nat) (reply : Option Packet) :
    Triple (fun w : World Sim => D w.io.car ∧ ∀ p, reply = some p → S p.status w.io.car)
      (matchState mask want reply)
      (fun matched w => D w.io.car ∧ (matched = true →
        ∃ st, st &&& mask = want ∧ S st w.io.car)) (fun _ w => D w.io.car) := by
  cases reply with
  | none => exact Triple.pure fun w hw => ⟨hw.1, nofun⟩
  | some p =>
    have hkept : ∀ w w' : World Sim, w'.io = w.io →
        (D w.io.car ∧ ∀ q, some p = some q → S q.status w.io.car) →
        D w'.io.car ∧ ∀ q, some p = some q → S q.status w'.io.car := by
      intro w w' hio hw
      rw [hio]
      exact hw
    refine Triple.ite (fun _ => ?_) fun _ => Triple.pure fun w hw => ⟨hw.1, nofun⟩
    refine Triple.bind (M := fun _ w => D w.io.car ∧ ∀ q, some p = some q → S q.status w.io.car)
      (triple_observe fun w hw => hw) fun _ => ?_
    refine Triple.bind (M := fun _ w => D w.io.car ∧ ∀ q, some p = some q → S q.status w.io.car)
      (Triple.modify fun w hw => ?_) fun _ => Triple.pure fun w hw => ⟨hw.1, fun hm => ?_⟩
    · split <;> exact hw
    · exact ⟨p.status, of_decide_eq_true hm, hw.2 p rfl⟩

/-- The rule of `wait_state`. -/
theorem waitState (mask want timeoutMs : Nat) :
    Triple (fun w : World Sim => D w.io.car) (waitState mask want timeoutMs)
      (fun matched w => D w.io.car ∧ (matched = true →
        ∃ st, st &&& mask = want ∧ S st w.io.car)) (fun _ w => D w.io.car) := by
  refine Triple.bind (M := fun _ w => D w.io.car) (triple_clock fun w hw => hw) fun now => ?_
  refine Triple.loop (fun w => D w.io.car) (fun w hw => hw) ?_ fun w hw => hw
  refine h.command.bind fun reply => (matchState mask want reply).bind fun matched => ?_
  refine Triple.ite (fun hm => Triple.pure fun w hw => ⟨hw.1, fun _ => hw.2 hm⟩) fun _ => ?_
  refine Triple.bind (M := fun _ w => D w.io.car) (triple_clock fun w hw => hw.1) fun now => ?_
  refine Triple.pure fun w hw => ?_
  split
  next hend =>
    split at hend <;> cases hend
    exact ⟨hw, nofun⟩
  next => exact hw

/-- The rule of `status`. -/
theorem status : Triple (fun w : World Sim => D w.io.car) status
    (fun st w => D w.io.car ∧ S st w.io.car) (fun _ w => D w.io.car) := by
  have hrequire : ∀ left, Triple (fun w : World Sim => D w.io.car)
      (requireFrom cmdRequestState [] 3 left)
      (fun p w => D w.io.car ∧ S p.status w.io.car) (fun _ w => D w.io.car) := by
    intro left
    induction left with
    | zero => exact Triple.raise fun w hw => hw
    | succ left ih =>
      refine h.command.bind fun reply => ?_
      cases reply with
      | some p => exact Triple.pure fun w hw => ⟨hw.1, hw.2 p rfl⟩
      | none =>
        refine Triple.bind (M := fun _ w => D w.io.car) (Triple.when (fun _ => ?_)
          fun w hw _ => hw.1) fun _ => ih
        refine ((h.waitState stBusy 0 2000).pre fun w hw => hw.1).bind fun _ => ?_
        exact Triple.pure fun w hw => hw.1
  refine (hrequire 3).bind fun p => ?_
  refine Triple.bind (M := fun _ w => D w.io.car ∧ S p.status w.io.car)
    (triple_observe fun w hw => hw) fun _ => Triple.pure fun w hw => hw

omit h in
/-- The rule of a wait for the unit to be idle, by what an idle word tells. -/
theorem idleOr {D' : Carousel → Prop}
    (h : Reports D fun st c => D c ∧ (st &&& stBusy = 0 → D' c)) (msg : String) :
    Triple (fun w : World Sim => D w.io.car) (idleOr msg) (fun _ w => D' w.io.car)
      (fun _ w => D w.io.car) := by
  refine (h.waitState stBusy 0 settleMs).bind fun idle => ?_
  refine Triple.raiseIf (fun w hw _ => hw.1) fun w hw hidle => ?_
  obtain ⟨st, hst, htold⟩ := hw.2 (by simpa using hidle)
  exact htold.2 hst

end Reports

end StakkaWeb
