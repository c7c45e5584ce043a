import Mathlib.Logic.Function.Iterate
import StakkaWeb.Laws.Simulator

/-!
# A command over the simulated transport

`command` reads a report for the id, writes, and reads on until the id comes back or the time is
up. Over a transport that is there throughout this is one call of `Carousel.handle` between reads
(`Sim.call`), whatever the carousel, the hands and the packet it repeats: a repeated packet never
carries the fresh id. `require` on top of it has the carousel process its command at most once.
-/

set_option autoImplicit false

namespace StakkaWeb

open Lib Lib.Prog

/-! ## The transport's side -/

/-- What holds of the carousel once it has been sent a command: `silent` if it said nothing. -/
def Reacts (silent : Carousel → Prop) (heard : List Nat → Carousel → Prop) :
    Option (List Nat) → Carousel → Prop
  | none => silent
  | some payload => heard payload

namespace Carousel

/-- The log has exactly one more entry, or the list of dropped commands does. -/
inductive Handled (cmd : Nat) (args : List Nat) (c : Carousel) :
    Option (List Nat) → Carousel → Prop
  | heard {reply : List Nat} {c' : Carousel} (hlen : reply.length = 4)
    (hlog : c'.log = c.log ++ [(cmd, args)]) (hdropped : c'.dropped = c.dropped) :
    Handled cmd args c (some reply) c'
  | dropped {c' : Carousel} (hlog : c'.log = c.log)
    (hdropped : c'.dropped = c.dropped ++ [(cmd, args)]) : Handled cmd args c none c'

/-- What changes neither the log nor the dropped list may happen before and after. -/
theorem Handled.frame {cmd : Nat} {args : List Nat} {c₀ c c' c₁ : Carousel}
    {reply : Option (List Nat)} (h : Handled cmd args c reply c') (h₀ : SameSetup c₀ c)
    (h₁ : SameSetup c' c₁) : Handled cmd args c₀ reply c₁ := by
  cases h with
  | heard hlen hlog hdropped =>
    refine .heard hlen (h₁.log.trans (hlog.trans ?_))
      (h₁.dropped.trans (hdropped.trans h₀.dropped))
    rw [h₀.log]
  | dropped hlog hdropped =>
    refine .dropped (h₁.log.trans (hlog.trans h₀.log)) (h₁.dropped.trans (hdropped.trans ?_))
    rw [h₀.dropped]

theorem dispatch_reply (cmd : Nat) (args : List Nat) (c : Carousel) :
    (c.dispatch cmd args).1.length = 4 ∧ (c.dispatch cmd args).2.log = c.log ∧
      (c.dispatch cmd args).2.dropped = c.dropped := by
  unfold dispatch
  split_ifs
  all_goals first
    | exact ⟨rfl, rfl, rfl⟩
    | unfold cmd1d
      split <;> exact ⟨rfl, rfl, rfl⟩

/-- `handle` enters its command in the log and replies, or enters it in `dropped` and does not. -/
theorem handle_handled (cmd : Nat) (args : List Nat) (c : Carousel) :
    Handled cmd args c (c.handle cmd args).1 (c.handle cmd args).2 := by
  have hdue := runDue_sameSetup c
  refine handle_rule (P := fun r => Handled cmd args c r.1 r.2) (fun _ _ => ?_)
    (fun _ _ _ _ => ?_) fun d hd => ?_
  · refine .dropped hdue.log ?_
    show c.runDue.dropped ++ _ = _
    rw [hdue.dropped]
  · refine .dropped hdue.log ?_
    show c.runDue.dropped ++ _ = _
    rw [hdue.dropped]
  · have hsame : d.log = c.log ∧ d.dropped = c.dropped := by
      cases hd <;> exact ⟨hdue.log, hdue.dropped⟩
    refine hear_rule (P := fun r => Handled cmd args c r.1 r.2) (fun _ _ _ => ?_) fun _ => ?_
    · refine .dropped hsame.1 ?_
      show d.dropped ++ _ = _
      rw [hsame.2]
    · obtain ⟨hlen, hlog, hdropped⟩ :=
        dispatch_reply cmd args { d with log := d.log ++ [(cmd, args)] }
      refine .heard hlen (hlog.trans ?_) (hdropped.trans hsame.2)
      show d.log ++ _ = _
      rw [hsame.1]

/-- A command that the unit never drops for being busy is heard. -/
theorem handle_alwaysAnswered {cmd : Nat} (h : cmd ∈ Firmware.alwaysAnswered) (args : List Nat)
    (c : Carousel) : (c.handle cmd args).1 ≠ none := by
  have hmove : cmd ≠ 0x04 := by
    rintro rfl
    exact absurd h (by decide)
  refine handle_rule (P := fun r => r.1 ≠ none) (fun _ hn => absurd h hn)
    (fun _ _ hn _ => absurd h hn) fun d _ => ?_
  exact hear_rule (P := fun r => r.1 ≠ none) (fun hc => absurd hc hmove) fun _ => nofun

end Carousel

namespace Sim

/-- The transport is open, the unit on the bus, and the packet it repeats is `raw`. -/
structure Streams (s : Sim) (raw : List Nat) : Prop where
  opened : s.opened = true
  present : s.present = true
  latched : s.latched = some raw
  long : 8 ≤ raw.length

/-- One read of the reply loop, with no more to it than the time it takes. -/
def lull (s : Sim) : Sim := s.stir.tick pollMs

/-- What a command sees of the transport before its own report arrives: the read for the id, and
the hands before the write. -/
def seeded (timeoutMs : Nat) (s : Sim) : Sim := (s.stir.tick (min timeoutMs Firmware.repeatMs)).stir

/-- The five argument bytes that `_write` sends. -/
def padded (args : List Nat) : List Nat := args ++ List.replicate (5 - args.length) 0

/-- How many reads the reply loop makes: one when there is a reply, else all that fit. -/
def reads (timeoutMs : Nat) : Option (List Nat) → Nat
  | some _ => 1
  | none => (timeoutMs + 99) / 100

/-- **A command as one step of the transport**: `Carousel.handle` once, between reads. -/
def call (msgid cmd : Nat) (args : List Nat) (timeoutMs : Nat) (s : Sim) :
    Option (List Nat) × Sim :=
  let s := s.seeded timeoutMs
  let reply := (s.car.handle cmd (padded args)).1
  (reply, lull^[reads timeoutMs reply] (s.deliver msgid cmd (padded args)))

theorem Streams.lull {s : Sim} {raw : List Nat} (h : s.Streams raw) : s.lull.Streams raw :=
  ⟨h.opened, h.present, h.latched, h.long⟩

theorem Streams.seeded {s : Sim} {raw : List Nat} (h : s.Streams raw) (timeoutMs : Nat) :
    (s.seeded timeoutMs).Streams raw :=
  ⟨h.opened, h.present, h.latched, h.long⟩

theorem Streams.read {s : Sim} {raw : List Nat} (h : s.Streams raw) (timeoutMs : Nat) :
    s.read timeoutMs = (.ok raw, s.stir.tick (min timeoutMs Firmware.repeatMs)) := by
  have ho : s.stir.opened = true := h.opened
  have hp : (s.stir.tick (min timeoutMs Firmware.repeatMs)).present = true := h.present
  have hl : (s.stir.tick (min timeoutMs Firmware.repeatMs)).latched = some raw := h.latched
  simp only [Sim.read, ho, hp, hl, Bool.not_true, Bool.false_eq_true, if_false]

theorem lull_now (s : Sim) : s.lull.car.now = s.car.now + pollMs := by
  rw [lull, tick_now, stir_now]

theorem lull_sameSetup (s : Sim) : Carousel.SameSetup s.car s.lull.car :=
  s.stir_sameSetup.trans (tick_sameSetup _ _)

theorem seeded_sameSetup (timeoutMs : Nat) (s : Sim) :
    Carousel.SameSetup s.car (s.seeded timeoutMs).car :=
  (s.stir_sameSetup.trans (tick_sameSetup _ _)).trans (stir_sameSetup _)

theorem lulls_sameSetup (k : Nat) (s : Sim) : Carousel.SameSetup s.car (lull^[k] s).car := by
  induction k generalizing s with
  | zero => exact .refl _
  | succ k ih => exact s.lull_sameSetup.trans (ih s.lull)

/-- The bytes of `_write` come out of `write` as they went in, if the report is for this unit. -/
theorem write_rule {P : Except Exc Int × Sim → Prop} {s : Sim} {unit msgid cmd : Nat}
    {args : List Nat} (hargs : args.length ≤ 5)
    (hgone : s.opened = false ∨ s.present = false → ∀ msg, P (.error (.osError msg), s.stir))
    (hother : s.opened = true → s.present = true → unit ≠ s.car.unit → P (.ok 10, s.stir))
    (hmine : s.opened = true → s.present = true → unit = s.car.unit →
      P (.ok 10, s.stir.deliver msgid cmd (padded args))) :
    P (s.write (reportBytes unit msgid cmd args)) := by
  have hunit : s.stir.car.unit = s.car.unit := feed_unit _ _
  have hpad : (padded args).length = 5 := by
    rw [padded, List.length_append, List.length_replicate]
    omega
  have hbuf : reportBytes unit msgid cmd args =
      0x00 :: 0x01 :: unit :: msgid :: cmd :: padded args := by
    rw [reportBytes, padded, List.append_assoc]
    rfl
  have htake : (padded args).take 5 = padded args := List.take_of_length_le (Nat.le_of_eq hpad)
  have hten : ((0x00 :: 0x01 :: unit :: msgid :: cmd :: padded args).length : Int) = 10 := by
    rw [List.length_cons, List.length_cons, List.length_cons, List.length_cons, List.length_cons,
      hpad]
    rfl
  simp only [Sim.write, hbuf, hunit, List.getD_cons_succ, List.getD_cons_zero, ne_eq,
    not_true_eq_false, false_or, List.drop_succ_cons, List.drop_zero, htake, hten]
  split_ifs with hopen hpresent hunit'
  · exact hgone (.inl (by simpa [stir] using hopen)) _
  · exact hgone (.inr (by simpa [stir] using hpresent)) _
  · exact hmine (by simpa [stir] using hopen) (by simpa [stir] using hpresent) hunit'
  · exact hother (by simpa [stir] using hopen) (by simpa [stir] using hpresent) hunit'

/-- A report for this unit reaches the carousel. -/
theorem write_reportBytes {s : Sim} {raw : List Nat} (h : s.Streams raw) {args : List Nat}
    (hargs : args.length ≤ 5) (msgid cmd : Nat) :
    s.write (reportBytes s.car.unit msgid cmd args) =
      (.ok 10, s.stir.deliver msgid cmd (padded args)) := by
  refine write_rule (P := fun r => r = _) hargs (fun hgone => ?_) (fun _ _ hother => absurd rfl hother)
    fun _ _ _ => rfl
  rw [h.opened, h.present] at hgone
  rcases hgone with hgone | hgone <;> cases hgone

end Sim

/-- What an answered status request leaves of the carousel. -/
def Carousel.asked (c : Carousel) : Carousel :=
  { c with log := c.log ++ [(cmdRequestState, Sim.padded [])], putOut := c.putOut && c.discInBay }

/-! ## The client's side -/

/-- The client has the unit open, addresses it, and the transport repeats `raw`. -/
structure Linked (w : World Sim) (raw : List Nat) : Prop where
  isOpen : w.ds.isOpen = true
  unit : w.ds.unit = w.io.car.unit
  streams : w.io.Streams raw

/-- A read returns the packet that is repeated. -/
theorem read_streams {w : World Sim} {raw : List Nat} (hopen : w.ds.isOpen = true)
    (h : w.io.Streams raw) (timeoutMs n : Nat) :
    read timeoutMs n w = (.ok (some (Packet.ofRaw raw)),
      { w with io := w.io.stir.tick (min timeoutMs Firmware.repeatMs) }) := by
  have hcall : orNotConnected "read failed: " (onOutside (Outside.read 64 timeoutMs)) n w =
      (.ok raw, { w with io := w.io.stir.tick (min timeoutMs Firmware.repeatMs) }) := by
    have hread : Outside.read 64 timeoutMs w.io = _ := h.read timeoutMs
    simp only [orNotConnected, attempt, onOutside, call, hread]
  have hlong := h.long
  have hne : raw.isEmpty = false := by
    cases raw with
    | nil => simp at hlong
    | cons => rfl
  simp only [read, bind_run, gets_run, hopen, Bool.not_true, raiseIf, Bool.false_eq_true,
    if_false, pure_run, hcall, hne, Nat.not_lt.mpr hlong]

namespace Linked

variable {w : World Sim} {raw : List Nat}

theorem read_run (h : Linked w raw) (timeoutMs n : Nat) :
    read timeoutMs n w = (.ok (some (Packet.ofRaw raw)),
      { w with io := w.io.stir.tick (min timeoutMs Firmware.repeatMs) }) :=
  read_streams h.isOpen h.streams timeoutMs n

/-- A command of bytes is written, and the unit handles it. -/
theorem write_run (h : Linked w raw) {msgid cmd : Nat} {args : List Nat}
    (hbytes : ∀ b ∈ w.ds.unit :: msgid :: cmd :: args, b ≤ 255) (hargs : args.length ≤ 5)
    (n : Nat) :
    write msgid cmd args n w =
      (.ok (), { w with io := w.io.stir.deliver msgid cmd (Sim.padded args) }) := by
  have hcall : orNotConnected "write failed: "
      (onOutside (Outside.write (reportBytes w.ds.unit msgid cmd args))) n w =
      (.ok 10, { w with io := w.io.stir.deliver msgid cmd (Sim.padded args) }) := by
    have hwrite := Sim.write_reportBytes h.streams hargs msgid cmd
    rw [← h.unit] at hwrite
    change Outside.write (reportBytes w.ds.unit msgid cmd args) w.io = _ at hwrite
    simp only [orNotConnected, attempt, onOutside, call, hwrite]
  have hsmall : ((reportBytes w.ds.unit msgid cmd args).any fun b => decide (255 < b)) = false := by
    rw [List.any_eq_false]
    intro b hb
    rw [decide_eq_true_eq, Nat.not_lt]
    simp only [reportBytes, List.mem_append, List.mem_cons, List.not_mem_nil, or_false,
      List.mem_replicate] at hb
    rcases hb with ((rfl | rfl | hb) | hb) | ⟨_, rfl⟩
    · decide
    · decide
    · refine hbytes b ?_
      rcases hb with hb | hb | hb <;> simp [hb]
    · exact hbytes b (by simp [hb])
    · decide
  simp only [write, bind_run, gets_run, h.isOpen, Bool.not_true, raiseIf, Bool.false_eq_true,
    if_false, pure_run, hsmall, hcall]
  rfl

/-- One turn of the reply loop before the deadline. -/
theorem awaitReply_run (h : Linked w raw) (cmd msgid : Nat) {deadline : Nat}
    (hnow : w.io.car.now < deadline) (n : Nat) :
    awaitReply cmd msgid deadline n w =
      if (Packet.ofRaw raw).msgid = msgid then
        (.ok (some (some (Packet.ofRaw raw))),
          { w with io := w.io.lull, obs := .answered cmd (Packet.ofRaw raw) :: w.obs })
      else (.ok none, { w with io := w.io.lull }) := by
  have hclock : clock n w = (.ok w.io.car.now, w) := rfl
  have hread := h.read_run pollMs n
  unfold awaitReply
  rw [bind_of_ok hclock, if_pos hnow, bind_of_ok hread]
  dsimp only
  split
  · rfl
  · rfl

theorem lull (h : Linked w raw) : Linked { w with io := w.io.lull } raw :=
  ⟨h.isOpen, h.unit.trans w.io.lull_sameSetup.unit.symm, h.streams.lull⟩

/-- The packet carries the id: the first turn answers. -/
theorem turns_answered (h : Linked w raw) (cmd : Nat) {msgid deadline : Nat}
    (hid : (Packet.ofRaw raw).msgid = msgid) (hnow : w.io.car.now < deadline) (j n : Nat) :
    turns (awaitReply cmd msgid deadline) (j + 1) n w = (.ok (some (Packet.ofRaw raw)),
      { w with io := w.io.lull, obs := .answered cmd (Packet.ofRaw raw) :: w.obs }) := by
  have hturn := h.awaitReply_run cmd msgid hnow n
  rw [if_pos hid] at hturn
  rw [turns, bind_of_ok hturn]
  rfl

/-- The packet is an older one: the loop reads until the time is up, or hangs before that. -/
theorem turns_stale (h : Linked w raw) (cmd deadline k : Nat) {msgid : Nat}
    (hid : (Packet.ofRaw raw).msgid ≠ msgid) (j n : Nat)
    (hlate : deadline ≤ w.io.car.now + k * pollMs)
    (hearly : ∀ i < k, w.io.car.now + i * pollMs < deadline) :
    turns (awaitReply cmd msgid deadline) j n w =
      if k < j then (.ok none, { w with io := Sim.lull^[k] w.io })
      else (.hang, { w with io := Sim.lull^[j] w.io }) := by
  induction k generalizing w j with
  | zero =>
    cases j with
    | zero => rfl
    | succ j =>
      have hturn : awaitReply cmd msgid deadline n w = (.ok (some none), w) := by
        have hclock : clock n w = (.ok w.io.car.now, w) := rfl
        rw [awaitReply, bind_of_ok hclock, if_neg (by omega)]
        rfl
      rw [turns, bind_of_ok hturn, if_pos j.succ_pos]
      rfl
  | succ k ih =>
    cases j with
    | zero => rfl
    | succ j =>
      have hturn := h.awaitReply_run cmd msgid (hearly 0 k.succ_pos) n
      rw [if_neg hid] at hturn
      rw [turns, bind_of_ok hturn]
      have hnow : w.io.lull.car.now = w.io.car.now + pollMs := w.io.lull_now
      simp only [Nat.succ_lt_succ_iff]
      refine ih h.lull j ?_ fun i hi => ?_
      · show deadline ≤ w.io.lull.car.now + _
        rw [Nat.succ_mul] at hlate
        omega
      · have := hearly (i + 1) (Nat.succ_lt_succ hi)
        show w.io.lull.car.now + _ < _
        rw [Nat.succ_mul] at this
        omega

end Linked

/-! ## The call -/

/-- The id that the next command carries. -/
def freshId (raw : List Nat) : Nat := ((Packet.ofRaw raw).msgid + 1) % 256

/-- No packet carries the id that is derived from it, `0xFF` included. -/
theorem freshId_ne (raw : List Nat) : (Packet.ofRaw raw).msgid ≠ freshId raw := by
  unfold freshId
  omega

/-- The packet that carries `reply`. -/
def replyPacket (unit msgid cmd : Nat) (reply : List Nat) : Packet :=
  Packet.ofRaw ([0x01, unit, msgid, cmd] ++ reply)

/-- The four payload bytes of a packet. -/
def Packet.payload (p : Packet) : List Nat := [p.x1, p.x2, p.x3, p.x4]

theorem replyPacket_payload (unit msgid cmd : Nat) {reply : List Nat} (h : reply.length = 4) :
    (replyPacket unit msgid cmd reply).payload = reply := by
  match reply, h with
  | [_, _, _, _], _ => rfl

/-- The opcode and the arguments fit the ten bytes of a report. -/
structure Sendable (cmd : Nat) (args : List Nat) : Prop where
  opcode : cmd ≤ 255
  payload : ∀ a ∈ args, a ≤ 255
  five : args.length ≤ 5

/-- What is observed of a command. -/
def answerObs (cmd : Nat) : Option Packet → List Obs
  | some p => [.answered cmd p]
  | none => []

namespace Linked

variable {w : World Sim} {raw : List Nat}

theorem seeded (h : Linked w raw) (timeoutMs : Nat) :
    Linked { w with io := w.io.stir.tick (min timeoutMs Firmware.repeatMs) } raw :=
  ⟨h.isOpen, h.unit.trans ((Sim.tick_sameSetup _ _).unit.trans (Sim.feed_unit _ _)).symm,
    ⟨h.streams.opened, h.streams.present, h.streams.latched, h.streams.long⟩⟩

/-- `command` up to its reply loop. -/
theorem command_start (h : Linked w raw) {cmd : Nat} {args : List Nat}
    (haddr : w.ds.unit ≤ 255) (hs : Sendable cmd args) (timeoutMs n : Nat) :
    let s := (w.io.seeded timeoutMs).deliver (freshId raw) cmd (Sim.padded args)
    command cmd args timeoutMs n w =
      turns (awaitReply cmd (freshId raw) (s.car.now + timeoutMs)) n n { w with io := s } := by
  intro s
  have hbytes : ∀ b ∈ w.ds.unit :: freshId raw :: cmd :: args, b ≤ 255 := by
    simp only [List.forall_mem_cons]
    refine ⟨haddr, ?_, hs.opcode, hs.payload⟩
    unfold freshId
    omega
  have hwrite := (h.seeded timeoutMs).write_run hbytes hs.five n
  have hclock : clock n { w with io := s } = (.ok s.car.now, { w with io := s }) := rfl
  rw [command, bind_of_ok (h.read_run timeoutMs n)]
  refine (bind_of_ok hwrite).trans ?_
  exact bind_of_ok hclock

/-- A dropped command leaves the packet that is repeated. -/
theorem delivered_dropped (h : Linked w raw) (msgid : Nat) {timeoutMs cmd : Nat} {args : List Nat}
    (hd : ((w.io.seeded timeoutMs).car.handle cmd args).1 = none) :
    Linked { w with io := (w.io.seeded timeoutMs).deliver msgid cmd args } raw := by
  have hseeded := h.streams.seeded timeoutMs
  have hunit := (w.io.seeded timeoutMs).car.handle_unit cmd args
  rw [(w.io.seeded_sameSetup timeoutMs).unit, ← h.unit] at hunit
  unfold Sim.deliver
  rcases hh : (w.io.seeded timeoutMs).car.handle cmd args with ⟨_ | payload, car⟩ <;>
    rw [hh] at hd hunit
  · exact ⟨h.isOpen, hunit.symm,
      ⟨hseeded.opened, hseeded.present, hseeded.latched, hseeded.long⟩⟩
  · cases hd

/-- A heard command leaves its reply to be repeated. -/
theorem delivered_heard (h : Linked w raw) (msgid : Nat) {timeoutMs cmd : Nat}
    {args payload : List Nat}
    (hd : ((w.io.seeded timeoutMs).car.handle cmd args).1 = some payload) :
    Linked { w with io := (w.io.seeded timeoutMs).deliver msgid cmd args }
      ([0x01, w.ds.unit, msgid, cmd] ++ payload) := by
  have hseeded := h.streams.seeded timeoutMs
  have hunit := (w.io.seeded timeoutMs).car.handle_unit cmd args
  have hhandled := (w.io.seeded timeoutMs).car.handle_handled cmd args
  rw [(w.io.seeded_sameSetup timeoutMs).unit, ← h.unit] at hunit
  unfold Sim.deliver
  rcases hh : (w.io.seeded timeoutMs).car.handle cmd args with ⟨_ | payload', car⟩ <;>
    rw [hh] at hd hunit hhandled <;> cases hd
  obtain ⟨hfour, _, _⟩ | _ := hhandled
  refine ⟨h.isOpen, hunit.symm, ⟨hseeded.opened, hseeded.present, ?_, ?_⟩⟩
  · show some ([0x01, car.unit, msgid, cmd] ++ payload) = _
    rw [hunit]
  · show 8 ≤ payload.length + 4
    omega

/-- **A command is an atomic call**: given turns enough it answers what `Sim.call` answers and
leaves the transport as `Sim.call` does, and otherwise it hangs. -/
theorem command_run (h : Linked w raw) {cmd : Nat} {args : List Nat}
    (haddr : w.ds.unit ≤ 255) (hs : Sendable cmd args) {timeoutMs : Nat} (ht : 0 < timeoutMs) (n : Nat) :
    let r := w.io.call (freshId raw) cmd args timeoutMs
    let reply := r.1.map (replyPacket w.ds.unit (freshId raw) cmd)
    (command cmd args timeoutMs n w =
        (.ok reply, { w with io := r.2, obs := answerObs cmd reply ++ w.obs })) ∨
      (command cmd args timeoutMs n w).1 = .hang ∧ n ≤ (timeoutMs + 99) / 100 := by
  intro r reply
  rw [h.command_start haddr hs]
  let s := (w.io.seeded timeoutMs).deliver (freshId raw) cmd (Sim.padded args)
  cases hd : ((w.io.seeded timeoutMs).car.handle cmd (Sim.padded args)).1 with
  | none =>
    have hr : r = (none, Sim.lull^[(timeoutMs + 99) / 100] s) := by
      simp only [r, Sim.call, hd, Sim.reads, s]
    have hreply : reply = none := by simp only [reply, hr, Option.map_none]
    have hlate : s.car.now + timeoutMs ≤ s.car.now + (timeoutMs + 99) / 100 * pollMs := by
      simp only [pollMs]
      omega
    have hearly : ∀ i < (timeoutMs + 99) / 100, s.car.now + i * pollMs < s.car.now + timeoutMs := by
      simp only [pollMs]
      omega
    have hlink := h.delivered_dropped (freshId raw) hd
    rw [hlink.turns_stale cmd _ _ (freshId_ne raw) n n hlate hearly, hreply, hr]
    split
    · exact .inl rfl
    next hn => exact .inr ⟨rfl, Nat.not_lt.mp hn⟩
  | some payload =>
    have hr : r = (some payload, s.lull) := by
      simp only [r, Sim.call, hd, Sim.reads, s]
      rfl
    have hreply : reply = some (replyPacket w.ds.unit (freshId raw) cmd payload) := by
      simp only [reply, hr, Option.map_some]
    rw [hreply, hr]
    cases n with
    | zero => exact .inr ⟨rfl, Nat.zero_le _⟩
    | succ n =>
      refine .inl ((h.delivered_heard (freshId raw) hd).turns_answered cmd rfl ?_ n _)
      show s.car.now < s.car.now + timeoutMs
      omega

end Linked

/-! ## What a call leaves -/

namespace Linked

variable {w : World Sim} {raw : List Nat}

theorem lulls (h : Linked w raw) (k : Nat) : Linked { w with io := Sim.lull^[k] w.io } raw := by
  induction k generalizing w with
  | zero => exact h
  | succ k ih => exact ih h.lull

/-- The packet repeated after a call. -/
def after (raw : List Nat) (unit cmd : Nat) : Option (List Nat) → List Nat
  | none => raw
  | some payload => [0x01, unit, freshId raw, cmd] ++ payload

/-- The link outlives the call. -/
theorem call (h : Linked w raw) (cmd : Nat) (args : List Nat) (timeoutMs : Nat) (obs : List Obs) :
    let r := w.io.call (freshId raw) cmd args timeoutMs
    Linked { w with io := r.2, obs := obs } (after raw w.ds.unit cmd r.1) := by
  intro r
  have hlink : Linked
      { w with io := (w.io.seeded timeoutMs).deliver (freshId raw) cmd (Sim.padded args) }
      (after raw w.ds.unit cmd r.1) := by
    cases hd : ((w.io.seeded timeoutMs).car.handle cmd (Sim.padded args)).1 with
    | none =>
      simp only [r, Sim.call, hd]
      exact h.delivered_dropped (freshId raw) hd
    | some payload =>
      simp only [r, Sim.call, hd]
      exact h.delivered_heard (freshId raw) hd
  have := hlink.lulls (Sim.reads timeoutMs r.1)
  exact ⟨this.isOpen, this.unit, this.streams⟩

end Linked

namespace Sim

/-- **The call is of `Carousel.handle`, once**: it answers what `handle` answers, and the log or
the list of dropped commands is longer by the command. -/
theorem call_handled (msgid cmd : Nat) (args : List Nat) (timeoutMs : Nat) (s : Sim) :
    let r := s.call msgid cmd args timeoutMs
    r.1 = ((s.seeded timeoutMs).car.handle cmd (padded args)).1 ∧
      Carousel.Handled cmd (padded args) s.car r.1 r.2.car := by
  intro r
  have hdeliver : ((s.seeded timeoutMs).deliver msgid cmd (padded args)).car =
      ((s.seeded timeoutMs).car.handle cmd (padded args)).2 := by
    unfold deliver
    rcases hh : (s.seeded timeoutMs).car.handle cmd (padded args) with ⟨_ | _, car⟩ <;> rfl
  refine ⟨rfl, ((s.seeded timeoutMs).car.handle_handled cmd (padded args)).frame
    (s.seeded_sameSetup timeoutMs) ?_⟩
  rw [← hdeliver]
  exact lulls_sameSetup _ _

end Sim

/-! ## `command` and `require` over the transport -/

/-- The client has the unit open over a transport that is there, and addresses it by a byte. -/
structure Online (w : World Sim) : Prop where
  linked : ∃ raw, Linked w raw
  address : w.ds.unit ≤ 255

/-- The rule of `command` over the simulated transport: it neither raises nor loses the link, and
what it does is `Sim.call`. -/
theorem triple_command {P : World Sim → Prop} {Q : Option Packet → World Sim → Prop} {cmd : Nat}
    {args : List Nat} (hs : Sendable cmd args) {timeoutMs : Nat} (ht : 0 < timeoutMs)
    (hP : ∀ w, P w → Online w)
    (hQ : ∀ w raw, P w → Linked w raw →
      let r := w.io.call (freshId raw) cmd args timeoutMs
      let reply := r.1.map (replyPacket w.ds.unit (freshId raw) cmd)
      let w' : World Sim := { w with io := r.2, obs := answerObs cmd reply ++ w.obs }
      Online w' → Q reply w') : Triple P (command cmd args timeoutMs) Q NoRaise := by
  intro n w hw
  obtain ⟨raw, h⟩ := (hP w hw).linked
  have haddr := (hP w hw).address
  rcases h.command_run haddr hs ht n with hr | ⟨hr, _⟩
  · rw [hr]
    exact hQ w raw hw h ⟨⟨_, h.call _ _ _ _⟩, haddr⟩
  · rw [run_eq hr]
    rfl

/-- A command is processed when it is answered, and not when it is not. -/
theorem command_log {cmd : Nat} {args : List Nat} (hs : Sendable cmd args)
    (entries : List (Nat × List Nat)) :
    Triple (fun w => Online w ∧ w.io.car.log = entries) (command cmd args ackMs)
      (fun reply w => Online w ∧ (reply = none → cmd ∉ Firmware.alwaysAnswered) ∧
        w.io.car.log = entries ++ if reply = none then [] else [(cmd, Sim.padded args)])
      NoRaise := by
  refine triple_command hs (by decide) (fun w hw => hw.1) fun w raw hw h => ?_
  obtain ⟨hcall, hhandled⟩ := w.io.call_handled (freshId raw) cmd args ackMs
  intro r reply w' honline
  have hreply : reply = none ↔ r.1 = none := Option.map_eq_none_iff
  refine ⟨honline, fun hnone hcmd => ?_, ?_⟩
  · have hanswer := (w.io.seeded ackMs).car.handle_alwaysAnswered hcmd (Sim.padded args)
    rw [← hcall] at hanswer
    exact hanswer (hreply.mp hnone)
  show r.2.car.log = _
  have key : ∀ o c, Carousel.Handled cmd (Sim.padded args) w.io.car o c →
      c.log = entries ++ if o = none then [] else [(cmd, Sim.padded args)] := by
    rintro o c (⟨_, hlog, _⟩ | ⟨hlog, _⟩)
    · rw [hlog, hw.2, if_neg nofun]
    · rw [hlog, hw.2, if_pos rfl, List.append_nil]
  rw [key _ _ hhandled]
  simp only [hreply]
  rfl

/-- What the waits between two attempts keep, they being made of status requests. -/
theorem waitState_keeps {I : World Sim → Prop}
    (hcommand : Triple I (command cmdRequestState [] ackMs) (fun _ => I) NoRaise)
    (hobs : ∀ w obs, I w → I { w with obs := obs })
    (htrace : ∀ w trace, I w → I { w with trace := trace }) (mask want timeoutMs : Nat) :
    Triple I (waitState mask want timeoutMs) (fun _ => I) NoRaise := by
  have hclock : ∀ {R}, Triple I (clock (σ := Sim)) (fun _ => I) R := fun {R} =>
    triple_clock fun w hw => hw
  refine hclock.bind fun now => Triple.loop I (fun w hw => hw) ?_ fun _ _ => rfl
  refine hcommand.bind fun reply => ?_
  have hmatch : Triple I (matchState mask want reply) (fun _ => I) NoRaise := by
    cases reply with
    | none => exact Triple.pure fun w hw => hw
    | some p =>
      refine Triple.ite (fun _ => ?_) fun _ => Triple.pure fun w hw => hw
      refine (triple_observe (Q := fun _ => I) fun w hw => hobs w _ hw).bind fun _ => ?_
      refine Triple.bind (M := fun _ => I) (Triple.modify fun w hw => ?_) fun _ => Triple.pure fun w hw => hw
      split
      · exact htrace w _ hw
      · exact hw
  refine hmatch.bind fun matched => ?_
  refine Triple.ite (fun _ => Triple.pure fun w hw => hw) fun _ => ?_
  refine hclock.bind fun now => Triple.pure fun w hw => ?_
  split <;> exact hw

/-- The carousel has processed the command `k` times. -/
def Processed (cmd : Nat) (args : List Nat) (k : Nat) (w : World Sim) : Prop :=
  Online w ∧ w.io.car.log.count (cmd, Sim.padded args) = k

/-- A command is processed once if it is answered, else not at all, and it is no status request
then. -/
theorem command_processed {cmd : Nat} {args : List Nat} (hs : Sendable cmd args) (k : Nat) :
    Triple (Processed cmd args k) (command cmd args ackMs)
      (fun reply w => if reply = none then cmd ≠ cmdRequestState ∧ Processed cmd args k w
        else Processed cmd args (k + 1) w) NoRaise := by
  refine Triple.of_each fun w₀ h₀ => ((command_log hs w₀.io.car.log).pre ?_).post ?_
  · rintro w rfl
    exact ⟨h₀.1, rfl⟩
  · rintro reply w ⟨honline, hcmd, hlog⟩
    unfold Processed
    rw [hlog, List.count_append, h₀.2]
    split
    next hnone =>
      refine ⟨?_, honline, by rw [List.count_nil, Nat.add_zero]⟩
      rintro rfl
      exact hcmd hnone (by decide)
    next => exact ⟨honline, by rw [List.count_singleton_self]⟩

/-- Waiting for idle does not process a command that is no status request. -/
theorem waitIdle_processed {cmd : Nat} (hcmd : cmd ≠ cmdRequestState) (args : List Nat) (k : Nat)
    (timeoutMs : Nat) :
    Triple (Processed cmd args k) (waitIdle timeoutMs) (fun _ => Processed cmd args k) NoRaise := by
  have hfree : ∀ w w' : World Sim, w'.io = w.io → w'.ds = w.ds → Processed cmd args k w →
      Processed cmd args k w' := by
    intro w w' hio hds hw
    refine ⟨⟨hw.1.linked.imp fun raw h => ?_, hds ▸ hw.1.address⟩, hio ▸ hw.2⟩
    exact ⟨hds ▸ h.isOpen, hio ▸ hds ▸ h.unit, hio ▸ h.streams⟩
  refine waitState_keeps (Triple.of_each fun w₀ h₀ => ?_) (fun w obs => hfree w _ rfl rfl)
    (fun w trace => hfree w _ rfl rfl) _ _ _
  have hstatus : Sendable cmdRequestState [] := ⟨by decide, nofun, by decide⟩
  refine ((command_log hstatus w₀.io.car.log).pre ?_).post ?_
  · rintro w rfl
    exact ⟨h₀.1, rfl⟩
  · rintro reply w ⟨honline, _, hlog⟩
    refine ⟨honline, ?_⟩
    have hne : (cmd, Sim.padded args) ≠ (cmdRequestState, Sim.padded []) := fun he =>
      hcmd (congrArg Prod.fst he)
    rw [hlog, List.count_append, h₀.2]
    split
    · rfl
    · rw [List.count_singleton, if_neg (by simpa using hne.symm), Nat.add_zero]

theorem requireFrom_processed {cmd : Nat} {args : List Nat} (hs : Sendable cmd args)
    (k tries left : Nat) :
    Triple (Processed cmd args k) (requireFrom cmd args tries left)
      (fun _ => Processed cmd args (k + 1)) (fun e w => e = none ∨ Processed cmd args k w) := by
  induction left with
  | zero => exact Triple.raise fun w hw => .inr hw
  | succ left ih =>
    refine ((command_processed hs k).conseq (fun _ => id) (fun _ _ => id) fun e w he => .inl he).bind
      fun reply => ?_
    cases reply with
    | some p => exact Triple.pure fun w hw => hw
    | none =>
      refine Triple.of_fact fun hcmd => ?_
      refine Triple.bind (Triple.when (fun _ => ?_) fun w hw _ => hw) fun _ => ih
      have hwait := waitIdle_processed hcmd args k 2000
      exact (hwait.conseq (fun _ => id) (fun _ _ => id) fun e w he => .inl he).bind fun _ =>
        Triple.pure fun w hw => hw

/-- What the caller of `command` learns of a carousel's step from `c` to `c'`, by what `handle`
made of the command: nothing, and the command is among the dropped ones, or a packet of that
opcode and id with `handle`'s four bytes, and the command is in the log. -/
def Answers (msgid cmd : Nat) (args : List Nat) (c c' : Carousel) (reply : Option Packet) :
    Option (List Nat) → Prop
  | none => reply = none ∧ c'.log = c.log ∧ c'.dropped = c.dropped ++ [(cmd, args)]
  | some payload => c'.log = c.log ++ [(cmd, args)] ∧ c'.dropped = c.dropped ∧
    ∃ p, reply = some p ∧ p.cmd = cmd ∧ p.msgid = msgid ∧ p.payload = payload

theorem answers_of_handled {cmd : Nat} {args : List Nat} {c c' : Carousel}
    {handled : Option (List Nat)} (h : Carousel.Handled cmd args c handled c') (unit msgid : Nat) :
    Answers msgid cmd args c c' (handled.map (replyPacket unit msgid cmd)) handled := by
  cases h with
  | dropped hlog hdropped => exact ⟨rfl, hlog, hdropped⟩
  | @heard payload _ hlen hlog hdropped =>
    exact ⟨hlog, hdropped, _, rfl, rfl, rfl, replyPacket_payload unit msgid cmd hlen⟩

/-- **The message-id protocol is an atomic call.** With turns enough `command` comes to `Sim.call`,
in which `Carousel.handle` is called once, and answers by what that call made of the command.
`require` comes to an end, and by then the carousel has processed its command once if it returns
and not at all if it raises. -/
theorem command_atomic {w : World Sim} {raw : List Nat} (h : Linked w raw)
    (haddr : w.ds.unit ≤ 255) {cmd : Nat} {args : List Nat} (hs : Sendable cmd args)
    {timeoutMs : Nat} (ht : 1 ≤ timeoutMs) :
    let msgid := ((Packet.ofRaw raw).msgid + 1) % 256
    let x := (cmd, Sim.padded args)
    (∀ n, (timeoutMs + 99) / 100 < n → ∃ reply w', command cmd args timeoutMs n w = (.ok reply, w') ∧
      w'.io = (w.io.call msgid cmd args timeoutMs).2 ∧
      Answers msgid cmd (Sim.padded args) w.io.car w'.io.car reply
        ((w.io.seeded timeoutMs).car.handle cmd (Sim.padded args)).1) ∧
    (∃ m, ∀ n, m ≤ n → (require cmd args n w).1 ≠ .hang) ∧
    ∀ n o w', require cmd args n w = (o, w') → match o with
      | .ok _ => w'.io.car.log.count x = w.io.car.log.count x + 1
      | .raise _ => w'.io.car.log.count x = w.io.car.log.count x
      | .hang => True := by
  intro msgid x
  refine ⟨fun n hn => ?_, ?_, fun n o w' hr => ?_⟩
  · rcases h.command_run haddr hs ht n with hr | ⟨_, hle⟩
    · obtain ⟨hcall, hhandled⟩ := w.io.call_handled (freshId raw) cmd args timeoutMs
      refine ⟨_, _, hr, rfl, ?_⟩
      rw [← hcall]
      exact answers_of_handled hhandled w.ds.unit msgid
    · omega
  · obtain ⟨N, r, hne, hN⟩ := settles_require w cmd args
    refine ⟨N, fun n hn => ?_⟩
    rw [hN n hn]
    exact hne
  · have honline : Processed cmd args (w.io.car.log.count x) w := ⟨⟨⟨raw, h⟩, haddr⟩, rfl⟩
    have hend := requireFrom_processed hs (w.io.car.log.count x) 3 3 n w honline
    rw [show requireFrom cmd args 3 3 n w = (o, w') from hr] at hend
    cases o with
    | ok p => exact hend.2
    | raise e =>
      rcases hend with hend | hend
      · cases hend
      · exact hend.2
    | hang => trivial

/-- An idle carousel whose transport repeats a packet with the id `0xFF`. -/
def repeatingFF : World Sim :=
  { World.boot { Sim.new (.new 0 ∅ 0x0DECAF01 0) true .none with
      opened := true, latched := some [0x01, 0, 0xFF, 0xCC, 0, 0, 0, 0] } [] with
    ds := ⟨true, 0, none, none, false⟩ }

theorem command_atomic_repeatingFF : ∃ reply w',
    command cmdRequestState [] 3000 31 repeatingFF = (.ok reply, w') ∧
      w'.io = (repeatingFF.io.call 0 cmdRequestState [] 3000).2 ∧
      Answers 0 cmdRequestState [0, 0, 0, 0, 0] repeatingFF.io.car w'.io.car reply
        ((repeatingFF.io.seeded 3000).car.handle cmdRequestState [0, 0, 0, 0, 0]).1 := by
  have hlinked : Linked repeatingFF [0x01, 0, 0xFF, 0xCC, 0, 0, 0, 0] :=
    ⟨rfl, rfl, ⟨rfl, rfl, rfl, by decide⟩⟩
  have hstatus : Sendable cmdRequestState [] := ⟨by decide, nofun, by decide⟩
  exact (command_atomic hlinked (by decide) hstatus (by decide)).1 31 (by decide)

end StakkaWeb
