import StakkaWeb.Found
import StakkaWeb.Laws.Command
import StakkaWeb.Laws.Taping

/-!
# The handshake identifies the unit

Whatever packet the unit repeats when it is found, `open` learns its number, its serial and its
firmware, and writes nothing that would have it do something.
-/

set_option autoImplicit false

namespace StakkaWeb

open Lib Lib.Prog

/-! ## The serial in four bytes -/

/-- A number is its last byte and what is before it. -/
theorem shift_byte (n : Nat) : (n >>> 8) <<< 8 ||| (n &&& 0xFF) = n := by
  have hlow : n &&& 0xFF < 2 ^ 8 := Nat.and_lt_two_pow n (by decide)
  rw [← Nat.shiftLeft_add_eq_or_of_lt hlow, show (0xFF : Nat) = 2 ^ 8 - 1 from rfl,
    Nat.and_two_pow_sub_one_eq_mod, Nat.shiftLeft_eq, Nat.shiftRight_eq_div_pow]
  omega

/-- What `_cmd_1c` splits, `_u32` puts together. -/
theorem join_bytes {serial : Nat} (h : serial < 2 ^ 32) :
    (serial >>> 24 &&& 0xFF) <<< 24 ||| (serial >>> 16 &&& 0xFF) <<< 16
      ||| (serial >>> 8 &&& 0xFF) <<< 8 ||| (serial &&& 0xFF) = serial := by
  have htop : serial >>> 24 &&& 0xFF = serial >>> 24 := by
    rw [show (0xFF : Nat) = 2 ^ 8 - 1 from rfl, Nat.and_two_pow_sub_one_eq_mod,
      Nat.shiftRight_eq_div_pow]
    omega
  have h₁ := shift_byte serial
  have h₂ := shift_byte (serial >>> 8)
  have h₃ := shift_byte (serial >>> 16)
  rw [← Nat.shiftRight_add] at h₂ h₃
  calc _ = (((serial >>> 24) <<< 8 ||| (serial >>> 16 &&& 0xFF)) <<< 8
          ||| (serial >>> 8 &&& 0xFF)) <<< 8 ||| (serial &&& 0xFF) := by
        rw [htop]
        simp only [Nat.shiftLeft_or_distrib, ← Nat.shiftLeft_add]
    _ = serial := by rw [h₃, h₂, h₁]

/-! ## What the unit says of itself -/

/-- The payload of the unit's reply to `0x1A`, to `0x1B`, or to `0x1C`. -/
def identity (serial cmd : Nat) : List Nat :=
  if cmd = 0x1A then [0x01, 0x04, 0x23, 0x17]
  else if cmd = 0x1B then [0x00, 0x02, 0x00, 0x79]
  else [serial >>> 24 &&& 0xFF, serial >>> 16 &&& 0xFF, serial >>> 8 &&& 0xFF, serial &&& 0xFF]

/-- It says so while it is busy, too. -/
theorem Carousel.handle_identity {cmd : Nat} (h : cmd ∈ [0x1A, 0x1B, 0x1C]) (args : List Nat)
    (c : Carousel) : (c.handle cmd args).1 = some (identity c.serial cmd) := by
  have halways : cmd ∈ Firmware.alwaysAnswered := List.mem_cons_of_mem _ h
  have hserial := c.runDue_sameSetup.serial
  refine handle_rule (P := fun r => r.1 = some (identity c.serial cmd))
    (fun _ hn => absurd halways hn) (fun _ _ hn _ => absurd halways hn) fun d hd => ?_
  have hd' : d.serial = c.serial := by cases hd <;> exact hserial
  refine hear_rule (P := fun r => r.1 = some (identity c.serial cmd)) (fun hm => ?_) fun _ => ?_
  · subst hm
    exact absurd h (by decide)
  · rw [← hd']
    simp only [List.mem_cons, List.not_mem_nil, or_false] at h
    rcases h with rfl | rfl | rfl <;> rfl

/-- No command changes the serial. -/
theorem Carousel.handle_serial (cmd : Nat) (args : List Nat) (c : Carousel) :
    (c.handle cmd args).2.serial = c.serial := by
  have hdue := c.runDue_sameSetup.serial
  refine handle_rule (P := fun r => r.2.serial = c.serial) (fun _ _ => hdue) (fun _ _ _ _ => hdue)
    fun d hd => ?_
  have hd' : d.serial = c.serial := by cases hd <;> exact hdue
  refine hear_rule (P := fun r => r.2.serial = c.serial) (fun _ _ _ => hd') fun _ => ?_
  refine dispatch_rule (P := fun r => r.2.serial = c.serial) (fun _ => hd') (fun _ => hd')
    (fun _ => hd') (fun _ => hd') (fun _ => hd') (fun _ => ?_) fun _ _ => hd'
  unfold cmd1d
  split <;> exact hd'

theorem Sim.deliver_serial (msgid cmd : Nat) (args : List Nat) (s : Sim) :
    (s.deliver msgid cmd args).car.serial = s.car.serial := by
  have h := s.car.handle_serial cmd args
  unfold deliver
  rcases hh : s.car.handle cmd args with ⟨_ | _, car⟩ <;> rw [hh] at h <;> exact h

/-- The client addresses the unit that has this serial, and its fields are `ds`. -/
structure Knows (serial : Nat) (ds : DiscStakka) (w : World Sim) : Prop where
  online : Online w
  serial : w.io.car.serial = serial
  ds : w.ds = ds

/-- What the client notes of the unit does not change how it is addressed. -/
theorem Knows.note {serial : Nat} {ds : DiscStakka} {w : World Sim} (h : Knows serial ds w)
    {ds' : DiscStakka} (hopen : ds'.isOpen = ds.isOpen) (hunit : ds'.unit = ds.unit) :
    Knows serial ds' { w with ds := ds' } := by
  obtain ⟨raw, hlinked⟩ := h.online.linked
  have haddress := h.online.address
  rw [h.ds] at haddress
  refine ⟨⟨⟨raw, ?_, ?_, hlinked.streams⟩, hunit ▸ haddress⟩, h.serial, rfl⟩
  · exact hopen.trans (h.ds ▸ hlinked.isOpen)
  · exact hunit.trans (h.ds ▸ hlinked.unit)

section Identify

variable {serial : Nat} {ds : DiscStakka}

/-- A command that asks the unit what it is is answered. -/
theorem command_identity {cmd : Nat} (h : cmd ∈ [cmdVersionA, cmdVersionB, cmdGetSerial]) :
    Triple (Knows serial ds) (command cmd [] ackMs)
      (fun reply w => (∃ p, reply = some p ∧ p.payload = identity serial cmd) ∧ Knows serial ds w)
      NoRaise := by
  have hs : Sendable cmd [] := by
    refine ⟨?_, nofun, Nat.zero_le _⟩
    revert h
    decide +revert
  refine triple_command hs (by decide) (fun w hw => hw.online) fun w raw hw hlink => ?_
  intro r reply w' honline
  obtain ⟨hcall, _⟩ := w.io.call_handled (freshId raw) cmd [] ackMs
  have hseeded := (w.io.seeded_sameSetup ackMs).serial
  have hr : r.1 = some (identity serial cmd) := by
    rw [← hw.serial, ← hseeded]
    exact hcall.trans (Carousel.handle_identity h _ _)
  have hreply : reply = some (replyPacket w.ds.unit (freshId raw) cmd (identity serial cmd)) := by
    simp only [reply, hr, Option.map_some]
  refine ⟨⟨_, hreply, replyPacket_payload _ _ _ ?_⟩, honline, ?_, hw.ds⟩
  · show (identity serial cmd).length = 4
    unfold identity
    split
    · rfl
    · split <;> rfl
  · refine ((Sim.lulls_sameSetup _ _).serial.trans (Sim.deliver_serial _ _ _ _)).trans ?_
    exact hseeded.trans hw.serial

/-- The firmware is read from the two replies. -/
theorem readFirmware_identity : Triple (Knows serial ds) readFirmware
    (fun firmware w => firmware = some "02.17.0079" ∧ Knows serial ds w) NoRaise := by
  refine (command_identity (by decide)).bind fun a => Triple.of_fact fun ⟨p, ha, hp⟩ => ?_
  refine (command_identity (by decide)).bind fun b => Triple.of_fact fun ⟨q, hb, hq⟩ => ?_
  subst ha hb
  refine Triple.pure fun w hw => ⟨congrArg some ?_, hw⟩
  injection hp with _ hp
  injection hp with _ hp
  injection hp with _ hp
  injection hp with hp4 _
  injection hq with _ hq
  injection hq with hq2 hq
  injection hq with hq3 hq
  injection hq with hq4 _
  rw [hp4, hq2, hq3, hq4]
  decide

end Identify

/-! ## The handshake -/

/-- The unit is open and repeats `raw`; which unit it is the client may not know. -/
structure Met (serial unit : Nat) (raw : List Nat) (w : World Sim) : Prop where
  isOpen : w.ds.isOpen = true
  streams : w.io.Streams raw
  repeats : Repeatable serial unit raw
  serial : w.io.car.serial = serial
  unit : w.io.car.unit = unit

theorem Repeatable.unit {serial unit : Nat} {raw : List Nat} (h : Repeatable serial unit raw) :
    (Packet.ofRaw raw).unit = unit := by
  cases h <;> rfl

/-- A state between two turns of the handshake's loop: at its start, or a turn later with the serial
to be read. -/
structure Greeting (serial unit start : Nat) (tracing : Bool) (raw : List Nat) (w : World Sim) : Prop
    extends Met serial unit raw w where
  tracing : w.ds.tracing = tracing
  soon : w.io.car.now = start ∨
    (Packet.ofRaw raw).cmd = cmdGetSerial ∧ w.io.car.now = start + pollMs

/-- The client has learned the number and the serial. -/
def Named (serial unit : Nat) (tracing : Bool) (w : World Sim) : Prop :=
  ∃ firmware, Knows serial ⟨true, unit, some serial, firmware, tracing⟩ w

section Handshake

variable {serial unit start : Nat} {tracing : Bool} {raw : List Nat}

/-- Once the number is taken from a packet, the unit is addressed. -/
theorem Met.linked {w : World Sim} (h : Met serial unit raw w) :
    Linked { w with ds := { w.ds with unit } } raw :=
  ⟨h.isOpen, h.unit.symm, h.streams⟩

/-- The world after the first read of a turn, with the number taken from the packet. -/
def turned (unit : Nat) (w : World Sim) : World Sim :=
  { w with io := w.io.stir.tick (min pollMs Firmware.repeatMs), ds := { w.ds with unit } }

theorem Met.turned {w : World Sim} (h : Met serial unit raw w) :
    Linked (StakkaWeb.turned unit w) raw ∧ (StakkaWeb.turned unit w).io.car.serial = serial := by
  refine ⟨h.linked.seeded pollMs, ?_⟩
  exact ((Sim.tick_sameSetup _ _).serial.trans w.io.stir_sameSetup.serial).trans h.serial

/-- An announcement is answered with `0x1C`, and the unit repeats its reply from then on. -/
theorem greet_announced {w : World Sim} (hunit : unit ≤ 255) (msgid : Nat)
    (h : Greeting serial unit start tracing [0x01, unit, msgid, 0xCC, 0, 0, 0, 0] w)
    (hstart : w.io.car.now = start) :
    Triple (fun v => v = turned unit w) (write ((msgid + 1) % 256) cmdGetSerial [])
      (fun _ v => ∃ raw, Greeting serial unit start tracing raw v) NoRaise := by
  have hbytes : ∀ b ∈ unit :: (msgid + 1) % 256 :: cmdGetSerial :: [], b ≤ 255 := by
    simp only [List.forall_mem_cons]
    exact ⟨hunit, by omega, by decide, nofun⟩
  rintro n v rfl
  rw [h.turned.1.write_run hbytes (Nat.zero_le _) n]
  have hidentity : ((w.io.seeded pollMs).car.handle cmdGetSerial (Sim.padded [])).1 =
      some (identity serial cmdGetSerial) := by
    rw [Carousel.handle_identity (by decide), (w.io.seeded_sameSetup pollMs).serial, h.serial]
  have hlinked := h.linked.delivered_heard ((msgid + 1) % 256) hidentity
  refine ⟨[0x01, unit, (msgid + 1) % 256, 0x1C] ++ identity serial cmdGetSerial, ?_⟩
  refine ⟨⟨hlinked.isOpen, hlinked.streams, .serial _, ?_, ?_⟩, h.tracing, .inr ⟨rfl, ?_⟩⟩
  · exact ((Sim.deliver_serial _ _ _ _).trans (w.io.seeded_sameSetup pollMs).serial).trans h.serial
  · exact hlinked.unit.symm
  · show ((w.io.seeded pollMs).deliver _ _ _).car.now = _
    rw [Sim.deliver_now, ← hstart]
    exact (Sim.stir_now _).trans ((Sim.tick_now _ _).trans (by rw [Sim.stir_now]; rfl))

variable (hserial : serial < 2 ^ 32) (hunit : unit ≤ 255)
include hserial hunit

/-- One turn of the handshake's loop. -/
theorem greet_turn : Triple (fun w => ∃ raw, Greeting serial unit start tracing raw w)
    (greet (start + 5000))
    (fun r w => match r with
      | some _ => Named serial unit tracing w
      | none => ∃ raw, Greeting serial unit start tracing raw w) NoRaise := by
  refine Triple.of_each fun w ⟨raw, hw⟩ => ?_
  have hnow : w.io.car.now < start + 5000 := by
    have hpoll : pollMs = 100 := rfl
    rcases hw.soon with h | ⟨_, h⟩ <;> omega
  have hclock : ∀ n, clock n w = (.ok w.io.car.now, w) := fun _ => rfl
  refine Triple.after hclock ?_
  rw [if_pos hnow]
  refine Triple.after (fun n => read_streams hw.isOpen hw.streams pollMs n) ?_
  have hset : ∀ n, modifyDs (fun ds => { ds with unit := (Packet.ofRaw raw).unit }) n
      { w with io := w.io.stir.tick (min pollMs Firmware.repeatMs) } = (.ok (), turned unit w) := by
    intro n
    rw [hw.repeats.unit]
    rfl
  refine Triple.after hset ?_
  obtain ⟨hlinked, hsame⟩ := hw.turned
  have hfields : (turned unit w).ds = ⟨true, unit, w.ds.serial, w.ds.firmware, tracing⟩ := by
    rw [← hw.isOpen, ← hw.tracing]
    rfl
  obtain msgid | msgid | ⟨msgid, cmd, x1, x2, x3, x4, hcc, h1c⟩ := hw.repeats
  · have hstart : w.io.car.now = start :=
      hw.soon.resolve_right fun h => absurd h.1 (show ¬ 0xCC = 0x1C by decide)
    refine Triple.ite (fun _ => ?_) fun h => absurd rfl h
    exact (greet_announced hunit msgid hw hstart).bind fun _ => Triple.pure fun _ => id
  · refine Triple.ite (fun h => absurd h (show ¬ 0x1C = 0xCC by decide)) fun _ => ?_
    refine Triple.ite (fun _ => ?_) fun h => absurd rfl h
    have hu32 : (Packet.ofRaw [0x01, unit, msgid, 0x1C, serial >>> 24 &&& 0xFF,
        serial >>> 16 &&& 0xFF, serial >>> 8 &&& 0xFF, serial &&& 0xFF]).u32 = serial :=
      join_bytes hserial
    rw [hu32]
    refine Triple.bind (triple_modifyDs ?_) fun _ => Triple.pure fun _ => id
    rintro v rfl
    refine ⟨w.ds.firmware, ⟨⟨_, hlinked.isOpen, hlinked.unit, hlinked.streams⟩, hunit⟩, hsame, ?_⟩
    rw [hfields]
  · refine Triple.ite (fun h => absurd h hcc) fun _ => Triple.ite (fun h => absurd h h1c) fun _ => ?_
    have hknows : Knows serial ⟨true, unit, w.ds.serial, w.ds.firmware, tracing⟩ (turned unit w) :=
      ⟨⟨⟨_, hlinked⟩, hunit⟩, hsame, hfields⟩
    refine ((command_identity (by decide)).pre fun v hv => hv ▸ hknows).bind fun reply => ?_
    refine Triple.of_fact fun ⟨p, hp, hpayload⟩ => ?_
    subst hp
    have hu32 : p.u32 = serial := by
      injection hpayload with h₁ hpayload
      injection hpayload with h₂ hpayload
      injection hpayload with h₃ hpayload
      injection hpayload with h₄ _
      rw [Packet.u32, h₁, h₂, h₃, h₄]
      exact join_bytes hserial
    dsimp only
    rw [hu32]
    refine Triple.bind (triple_modifyDs ?_) fun _ => Triple.pure fun _ => id
    intro v hv
    refine ⟨w.ds.firmware, ?_⟩
    rw [hv.ds]
    exact hv.note rfl rfl

/-- **The handshake identifies the unit**, whatever it repeats. -/
theorem handshake_identifies :
    Triple (fun w => Met serial unit raw w ∧ w.ds.tracing = tracing) handshake
      (fun _ => Knows serial ⟨true, unit, some serial, some "02.17.0079", tracing⟩) NoRaise := by
  refine Triple.of_each fun w hw => ?_
  have hclock : ∀ n, clock n w = (.ok w.io.car.now, w) := fun _ => rfl
  refine Triple.after hclock ?_
  refine Triple.bind (M := fun _ => Named serial unit tracing) ?_ fun _ => ?_
  · refine Triple.loop (fun v => ∃ raw, Greeting serial unit w.io.car.now tracing raw v) ?_
      ((greet_turn hserial hunit).post fun r _ hr => by cases r <;> exact hr) fun _ _ => rfl
    rintro v rfl
    exact ⟨raw, hw.1, hw.2, .inl rfl⟩
  · refine Triple.of_exists fun firmware => readFirmware_identity.bind fun a => ?_
    refine Triple.of_fact fun ha => triple_modifyDs fun v hv => ?_
    rw [hv.ds, ha]
    exact hv.note rfl rfl

end Handshake

/-! ## `open` -/

/-- The rule of `open`: some failures to open, one fewer after each, and then a handshake. -/
theorem openFrom_rule {σ : Type} [Outside σ] {A : Nat → World σ → Prop} {B C : World σ → Prop}
    (hfails : ∀ k w, A (k + 1) w → ∃ msg s, Outside.opens w.io = (.error (.osError msg), s) ∧
      A k { w with io := Outside.sleep 400 s })
    (hopens : ∀ w, A 0 w → ∃ s, Outside.opens w.io = (.ok (), s) ∧
      B { w with io := s, ds := { w.ds with isOpen := true } })
    (hshake : Triple B handshake (fun _ => C) NoRaise) (left k : Nat) (hk : k < left)
    (last : String) : Triple (A k) (openFrom last left) (fun _ => C) NoRaise := by
  induction left generalizing k last with
  | zero => exact absurd hk k.not_lt_zero
  | succ left ih =>
    refine Triple.of_each fun w hw => ?_
    cases k with
    | zero =>
      obtain ⟨s, hs, hB⟩ := hopens w hw
      have hopen : ∀ n, onOutside Outside.opens n w = (.ok (), { w with io := s }) := fun n => by
        simp only [onOutside, call, hs]
      refine Triple.bind (M := fun failed v => failed = none ∧ C v) ?_ fun failed => ?_
      · refine Triple.attempt (E := NoRaise) (Triple.after hopen ?_) (fun e => ?_) fun _ => id
        · refine Triple.bind (triple_modifyDs (Q := fun _ => B) ?_) fun _ => ?_
          · rintro v rfl
            exact hB
          · refine Triple.attempt (E := NoRaise) ?_ (fun e => ?_) fun _ => id
            · exact hshake.bind fun _ => Triple.pure fun v hv => ⟨rfl, hv⟩
            · exact fun n v (hv : some e = none) => absurd hv (Option.some_ne_none e)
        · exact fun n v (hv : some e = none) => absurd hv (Option.some_ne_none e)
      · refine Triple.of_fact fun hnone => ?_
        subst hnone
        exact Triple.pure fun _ => id
    | succ k =>
      obtain ⟨msg, s, hs, hA⟩ := hfails k w hw
      have hfailed : ∀ n, openOnce n w = (.ok (some (.osError msg)), { w with io := s }) := fun n => by
        have hcall : onOutside Outside.opens n w = (.raise (.osError msg), { w with io := s }) := by
          simp only [onOutside, call, hs]
        unfold openOnce attempt
        rw [bind_of_raise hcall]
        rfl
      refine Triple.after hfailed ?_
      have hslept : ∀ n, Prog.when (decide (0 < left))
          (ofOutside fun s => ((), Outside.sleep 400 s)) n { w with io := s } =
          (.ok (), { w with io := Outside.sleep 400 s }) := fun n => by
        rw [decide_eq_true (show 0 < left by omega)]
        rfl
      refine Triple.after hslept ?_
      exact (ih k (by omega) _).pre fun v hv => hv ▸ hA

/-! ## A unit found on the bus -/

section Found

variable {raw : List Nat}

instance : Paced (Found raw) where
  slack := Paced.slack (σ := Sim)
  opens s := by
    have h := Paced.opens (σ := Sim) s
    change NoEarlier _ s (Sim.opens s).2 at h
    show NoEarlier _ s (Found.opens raw s).2
    unfold Found.opens
    rcases hs : Sim.opens s with ⟨_ | _, s'⟩ <;> rw [hs] at h <;> exact h
  closes := Paced.closes (σ := Sim)
  read := Paced.read (σ := Sim)
  read_later := Paced.read_later (σ := Sim)
  write := Paced.write (σ := Sim)
  clock := Paced.clock (σ := Sim)
  sleep := Paced.sleep (σ := Sim)
  cue := Paced.cue (σ := Sim)

theorem Sim.opens_fails {s : Sim} (hfail : 0 < s.failOpens) :
    s.opens = (.error (.osError "simulated open failure"), { s with failOpens := s.failOpens - 1 }) :=
  if_pos hfail

/-- An open that succeeds has the unit announce itself. -/
theorem Sim.opens_ok {s : Sim} (hfail : s.failOpens = 0) (hpresent : s.present = true) :
    s.opens = (.ok (),
      { s with opened := true, latched := some (s.packet s.msgid 0xCC [0, 0, 0, 0]) }) := by
  unfold opens
  rw [if_neg (Nat.not_lt.mpr (Nat.le_of_eq hfail)), if_neg (by rw [hpresent]; decide)]

/-- `SimulatedTransport.open` is the case of the announcement. -/
theorem Found.opens_announced (s : Sim) :
    Found.opens (s.packet s.msgid 0xCC [0, 0, 0, 0]) s = s.opens := by
  unfold Found.opens Sim.opens
  by_cases hfail : 0 < s.failOpens
  · simp only [if_pos hfail]
  · by_cases hpresent : (!s.present) = true
    · simp only [if_neg hfail, if_pos hpresent]
    · simp only [if_neg hfail, if_neg hpresent]

/-- An open finds the unit, after as many failures as it has left. -/
def Finds (serial unit : Nat) (tracing : Bool) (k : Nat) (w : World (Found raw)) : Prop :=
  (w.io.sim.present = true ∧ w.io.sim.failOpens = k) ∧
    (w.io.sim.car.serial = serial ∧ w.io.sim.car.unit = unit) ∧ w.ds.tracing = tracing

/-- `open` over a unit that is found. -/
theorem openUnit_identifies {serial unit : Nat} (hserial : serial < 2 ^ 32) (hunit : unit ≤ 255)
    (hraw : Repeatable serial unit raw) (tracing : Bool) {k : Nat} (hk : k < 3) :
    Triple (fun w : World (Found raw) => Finds serial unit tracing k w ∧ w.ds.isOpen = false) openUnit
      (fun _ => Knows serial ⟨true, unit, some serial, some "02.17.0079", tracing⟩) NoRaise := by
  have hshake : Triple (fun w : World (Found raw) =>
      Met serial unit raw w ∧ w.ds.tracing = tracing) (handshake (σ := Found raw))
      (fun _ => Knows serial ⟨true, unit, some serial, some "02.17.0079", tracing⟩) NoRaise :=
    handshake_identifies hserial hunit
  have hfrom := openFrom_rule (A := Finds serial unit tracing) (fun k w hw => ?_) (fun w hw => ?_)
    hshake 3 k hk "None"
  · refine Triple.bind (M := fun isOpen w => isOpen = false ∧ Finds serial unit tracing k w)
      (Triple.gets fun w hw => ⟨hw.2, hw.1⟩) fun isOpen => Triple.of_fact fun hclosed => ?_
    subst hclosed
    exact hfrom
  · obtain ⟨⟨hpresent, hfail⟩, hsame, htracing⟩ := hw
    refine ⟨"simulated open failure", { w.io.sim with failOpens := w.io.sim.failOpens - 1 }, ?_,
      ⟨hpresent, ?_⟩, hsame, htracing⟩
    · show Found.opens raw w.io.sim = _
      unfold Found.opens
      rw [Sim.opens_fails (by omega)]
      rfl
    · show w.io.sim.failOpens - 1 = k
      omega
  · obtain ⟨⟨hpresent, hfail⟩, hsame, htracing⟩ := hw
    refine ⟨{ w.io.sim with opened := true, latched := some raw }, ?_,
      ⟨rfl, ⟨rfl, hpresent, rfl, ?_⟩, hraw, hsame.1, hsame.2⟩, htracing⟩
    · show Found.opens raw w.io.sim = _
      unfold Found.opens
      rw [Sim.opens_ok hfail hpresent]
      rfl
    · cases hraw <;> exact Nat.le_refl 8

/-- **The handshake identifies every unit**: whatever packet the unit is found to repeat, `open`
ends connected with its number, its serial and its firmware, and has written nothing that would
have it do something. -/
theorem open_identifies (w : World (Found raw)) (hfound : Findable raw w.io.sim)
    (hclosed : w.ds.isOpen = false) :
    ∃ m, ∀ n, m ≤ n → ∃ w', openUnit n w.taping = (.ok (), w') ∧
      w'.ds = { w.ds with
        isOpen := true
        unit := w.io.sim.car.unit
        serial := some w.io.sim.car.serial
        firmware := some "02.17.0079" } ∧
      ∀ call ∈ w'.io.tape, ¬ Actuates call.1 := by
  obtain ⟨N, r, hr, hN⟩ := settles_openUnit w
  refine ⟨N, fun n hn => ?_⟩
  have hmeets := openUnit_identifies hfound.serial hfound.unit hfound.raw w.ds.tracing
    hfound.failOpens n w ⟨⟨⟨hfound.present, rfl⟩, ⟨rfl, rfl⟩, rfl⟩, hclosed⟩
  obtain ⟨halike, hunder⟩ := under_openUnit n w w.taping rfl
  have hclear : Clear (fun x => Actuates x.1) (openUnit n w.taping).2.io := by
    have hkept : Kept (fun cmd _ => cmd ∉ actuating) fun w' : World (Taped (Found raw)) =>
        Clear (fun x => Actuates x.1) w'.io := by
      refine clear_kept ?_ fun hcmd unit msgid s hcall => hcmd hcall
      rintro ⟨call, s⟩ hcall
      cases call with
      | write buf => exact ⟨buf, rfl⟩
      | _ => exact hcall.elim
    have hblank : Clear (fun x => Actuates x.1) w.taping.io := fun x hx => nomatch hx
    exact (hkept.openUnit (by decide) fun _ _ => id).run n hblank
  have hsettled := hN n hn
  rcases hrun : openUnit n w with ⟨_ | _ | _, w₁⟩ <;> rw [hrun] at hmeets halike hunder
  · rcases htape : openUnit n w.taping with ⟨_ | _ | _, w'⟩ <;> rw [htape] at halike hunder hclear
    · refine ⟨w', rfl, ?_, hclear⟩
      have hds : w₁.ds = w'.ds := congrArg World.ds hunder
      exact hds.symm.trans hmeets.ds
    · exact halike.elim
    · exact halike.elim
  · cases hmeets
  · rw [hrun] at hsettled
    exact absurd (congrArg Prod.fst hsettled).symm hr

end Found

/-- A unit that fails to open once, and is then found repeating the reply to a version request. -/
def versionLeft : World (Found [0x01, 200, 255, 0x1B, 0x00, 0x02, 0x00, 0x79]) :=
  World.boot { Sim.new (.new 0 ∅ 0x0DECAF01 200) true .none with failOpens := 1 } []

theorem open_identifies_versionLeft : ∃ m, ∀ n, m ≤ n → ∃ w',
    openUnit n versionLeft.taping = (.ok (), w') ∧
      w'.ds = ⟨true, 200, some 0x0DECAF01, some "02.17.0079", false⟩ ∧
      ∀ call ∈ w'.io.tape, ¬ Actuates call.1 := by
  have hraw : Repeatable 0x0DECAF01 200 [0x01, 200, 255, 0x1B, 0x00, 0x02, 0x00, 0x79] :=
    .other 255 0x1B 0 2 0 0x79 (by decide) (by decide)
  exact open_identifies versionLeft ⟨rfl, by decide, by decide, by decide, hraw⟩ rfl

end StakkaWeb
