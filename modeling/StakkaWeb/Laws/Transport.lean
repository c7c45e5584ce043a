import StakkaWeb.Laws.Bench
import StakkaWeb.Laws.Command

/-!
# The simulated transport as a transport

What `protocol.py` relies on: a call succeeds or raises `OSError`, a read brings a packet of eight
bytes, and nothing is read or written unless the unit is there and was opened. The one call that
breaks it is a read of a unit that was plugged in again while its transport was open: there is no
packet to repeat then until the unit is opened again or answers a command.
-/

set_option autoImplicit false

namespace StakkaWeb

open Lib

namespace Carousel

variable {c : Carousel}

/-! ## Replies are bytes -/

abbrev AreBytes (xs : List Nat) : Prop := ∀ b ∈ xs, b < 256

theorem areBytes_append {xs ys : List Nat} (hx : AreBytes xs) (hy : AreBytes ys) :
    AreBytes (xs ++ ys) := by
  intro b hb
  rcases List.mem_append.mp hb with hb | hb
  · exact hx b hb
  · exact hy b hb

/-- The carousel is at a slot that a byte can name, and on its way to such slots. -/
structure Near (c : Carousel) : Prop where
  position : c.position < 256
  targets : ∀ x ∈ c.events, ∀ target presenting, x.2 = .arrived target presenting → target < 256

theorem Near.mono {c d : Carousel} (h : c.Near) (hpos : d.position = c.position)
    (hevents : ∀ x ∈ d.events, x ∈ c.events) : d.Near :=
  ⟨hpos ▸ h.position, fun x hx => h.targets x (hevents x hx)⟩

/-- What is pushed goes nowhere that a byte cannot name. -/
theorem Near.push {c d : Carousel} (h : c.Near) {t : Nat} {e : CarouselEvent}
    (hpos : d.position = c.position) (hevents : d.events = c.events.push t e)
    (he : ∀ target presenting, e = .arrived target presenting → target < 256) : d.Near := by
  refine ⟨hpos ▸ h.position, fun x hx => ?_⟩
  rw [hevents] at hx
  rcases Agenda.mem_push.mp hx with rfl | hx
  · exact he
  · exact h.targets x hx

theorem Near.fire (h : c.Near) {e : CarouselEvent}
    (he : ∀ target presenting, e = .arrived target presenting → target < 256) : (c.fire e).Near := by
  have hsame : ∀ {d : Carousel}, d.position = c.position → d.events = c.events → d.Near :=
    fun hpos hevents => h.mono hpos fun _ hx => hevents ▸ hx
  cases e with
  | discArrives => exact h.push (e := .discDrawnOff) rfl rfl nofun
  | discDrawnOff => exact h.push (e := .ackExpired) rfl rfl nofun
  | ackExpired =>
    simp only [Carousel.fire]
    split <;> exact hsame rfl rfl
  | arrived target presenting =>
    simp only [Carousel.fire]
    split <;> exact ⟨he _ _ rfl, h.targets⟩
  | backInSlot =>
    simp only [Carousel.fire]
    split
    · exact h.push (e := .settled) rfl rfl nofun
    · exact h
  | taken => exact hsame rfl rfl
  | settled => exact hsame rfl rfl
  | stored slot => exact hsame rfl rfl

theorem Near.runDue (h : c.Near) : c.runDue.Near := by
  refine runDue_inv Near (fun d t e hd hhead _ => ?_) h
  have hmem : (t, e) ∈ d.events := List.mem_of_mem_head? hhead
  refine Near.fire (c := { d with events := d.events.pop })
    (hd.mono rfl fun _ hx => Agenda.mem_of_mem_pop hx) (hd.targets _ hmem)

theorem areBytes_statusReply (h : c.Near) : AreBytes c.statusReply := by
  intro b hb
  have hlow : ∀ n : Nat, n &&& 0xFF < 256 := fun n => Nat.lt_succ_of_le Nat.and_le_right
  simp only [statusReply, List.mem_cons, List.not_mem_nil, or_false] at hb
  rcases hb with rfl | rfl | rfl | rfl
  · exact h.position
  · exact hlow _
  · exact hlow _
  · decide

/-- A reply to a command of bytes is bytes, and the carousel goes where a byte can name. -/
theorem Near.dispatch (h : c.Near) (cmd : Nat) {args : List Nat} (hargs : AreBytes args) :
    AreBytes (c.dispatch cmd args).1 ∧ (c.dispatch cmd args).2.Near := by
  have hlow : ∀ n : Nat, n &&& 0xFF < 256 := fun n => Nat.lt_succ_of_le Nat.and_le_right
  have hsame : ∀ {d : Carousel}, d.position = c.position → d.events = c.events → d.Near :=
    fun hpos hevents => h.mono hpos fun _ hx => hevents ▸ hx
  have htarget : args.getD 0 0 < 256 := by
    cases args with
    | nil => decide
    | cons a args => exact hargs a List.mem_cons_self
  have hzeros : AreBytes [0, 0, 0, 0] := by decide
  unfold Carousel.dispatch
  split_ifs
  · exact ⟨areBytes_statusReply h, hsame rfl rfl⟩
  · exact ⟨hzeros, hsame rfl rfl⟩
  · have hmoved : (c.cmd04 args).2.Near := by
      refine h.push (e := .arrived (args.getD 0 0) _) rfl rfl fun _ _ he => ?_
      cases he
      exact htarget
    exact ⟨areBytes_statusReply hmoved, hmoved⟩
  · exact ⟨hzeros, h.push (e := .backInSlot) rfl rfl nofun⟩
  · exact ⟨areBytes_statusReply (hsame rfl rfl), hsame rfl rfl⟩
  · exact ⟨(by decide : AreBytes [0x01, 0x04, 0x23, 0x17]), h⟩
  · exact ⟨(by decide : AreBytes [0x00, 0x02, 0x00, 0x79]), h⟩
  · refine ⟨fun b hb => ?_, h⟩
    simp only [cmd1c, List.mem_cons, List.not_mem_nil, or_false] at hb
    rcases hb with rfl | rfl | rfl | rfl <;> exact hlow _
  · unfold cmd1d
    split
    · exact ⟨areBytes_statusReply h, h⟩
    · have hstored := h.push (d := Carousel.after Firmware.ingestMs (.stored c.position)
        ({ c with newDiscAck := false, ingested := c.position :: c.ingested }.workFor
          Firmware.ingestMs true)) (e := .stored c.position) rfl rfl nofun
      exact ⟨areBytes_statusReply hstored, hstored⟩
  · exact ⟨areBytes_statusReply h, h⟩

theorem Near.handle (h : c.Near) (cmd : Nat) {args : List Nat} (hargs : AreBytes args) :
    (∀ reply ∈ (c.handle cmd args).1, AreBytes reply) ∧ (c.handle cmd args).2.Near := by
  have hsame : ∀ {d : Carousel}, d.position = c.runDue.position → d.events = c.runDue.events →
      d.Near := fun hpos hevents => h.runDue.mono hpos fun _ hx => hevents ▸ hx
  refine handle_rule (P := fun r => (∀ reply ∈ r.1, AreBytes reply) ∧ r.2.Near)
    (fun _ _ => ⟨nofun, hsame rfl rfl⟩) (fun _ _ _ _ => ⟨nofun, hsame rfl rfl⟩) fun d hd => ?_
  have hd' : d.position = c.runDue.position ∧ d.events = c.runDue.events := by
    cases hd <;> exact ⟨rfl, rfl⟩
  refine hear_rule (P := fun r => (∀ reply ∈ r.1, AreBytes reply) ∧ r.2.Near)
    (fun _ _ _ => ⟨nofun, hsame hd'.1 hd'.2⟩) fun _ => ?_
  obtain ⟨hreply, hnear⟩ := Near.dispatch (c := { d with log := d.log ++ [(cmd, args)] })
    (hsame hd'.1 hd'.2) cmd hargs
  refine ⟨fun reply hr => ?_, hnear⟩
  cases hr
  exact hreply

theorem handle_length (cmd : Nat) (args : List Nat) (c : Carousel) :
    ∀ reply ∈ (c.handle cmd args).1, reply.length = 4 := by
  intro reply hr
  have hhandled := handle_handled cmd args c
  rw [Option.mem_def.mp hr] at hhandled
  cases hhandled with
  | heard hlen _ _ => exact hlen

end Carousel

namespace Sim

open Carousel (AreBytes)

/-! ## The interface -/

/-- A packet of eight bytes, for a unit whose address is a byte. -/
def IsPacket (unit : Nat) (raw : List Nat) : Prop :=
  raw.length = 8 ∧ (unit < 256 → AreBytes raw)

/-- What a call may come back with. -/
def Allowed (unit : Nat) : Use → Except Exc Answer → Prop
  | _, .error e => e.isOsError = true
  | .read _, .ok (.packet raw) => IsPacket unit raw
  | .write _, .ok (.count n) => 0 ≤ n
  | .present, .ok (.present _) => True
  | .read _, .ok _ | .write _, .ok _ | .present, .ok _ => False
  | _, .ok answer => answer = .done

/-- A read or a write. -/
def Use.transfers : Use → Bool
  | .read _ | .write _ => true
  | _ => false

/-- The transport with what its callers know of it. -/
structure Line where
  sim : Sim
  /-- An open succeeded since the last close and the last unplugging. -/
  up : Bool
  /-- The unit is plugged in. -/
  here : Bool

namespace Line

def use (u : Use) (x : Line) : Line where
  sim := (Sim.use u x.sim).2
  up := match u with
    | .opens => x.up || (Sim.use u x.sim).1.toBool
    | .closes | .unplug => false
    | _ => x.up
  here := match u with
    | .unplug => false
    | .replug => true
    | _ => x.here

/-- A call succeeds or raises `OSError`, and a read or a write succeeds only on a line that is up,
to a unit that is there. -/
def Honours (x : Line) (u : Use) : Prop :=
  Allowed x.sim.car.unit u (Sim.use u x.sim).1 ∧
    (u.transfers = true → (Sim.use u x.sim).1.toBool = true → x.up = true ∧ x.here = true)

/-- The unit was plugged in again under an open transport, and has said nothing since. -/
def Blank (x : Line) : Prop := x.sim.opened = true ∧ x.sim.latched = none

/-- What the callers know is so, and what is latched is a packet. -/
structure Sound (x : Line) : Prop where
  up : x.sim.opened = x.up
  here : x.sim.present = x.here
  open_present : x.sim.opened = true → x.sim.present = true
  latched : ∀ raw ∈ x.sim.latched, IsPacket x.sim.car.unit raw
  msgid : x.sim.msgid < 256
  near : x.sim.car.Near

end Line

/-! ## What each call can do -/

/-- An open fails, or the unit announces itself. -/
theorem opens_rule {P : Except Exc Unit × Sim → Prop} {s : Sim}
    (hfail : ∀ msg n, P (.error (.osError msg), { s with failOpens := n }))
    (hok : s.present = true → P (.ok (), { s with
      opened := true, latched := some (s.packet s.msgid 0xCC [0, 0, 0, 0]) })) : P s.opens := by
  unfold opens
  split_ifs with hf hp
  · exact hfail _ _
  · exact hfail _ s.failOpens
  · exact hok (by simpa using hp)

/-- A read of a line that is not open fails at once; any other lets time pass. -/
theorem read_rule {P : Except Exc (List Nat) × Sim → Prop} {timeoutMs : Nat} {s : Sim}
    (hclosed : s.opened = false → P (.error (.osError "device is not open"), s.stir))
    (hgone : s.opened = true → s.present = false → ∀ ms,
      P (.error (.osError "unit vanished from the bus"), s.stir.tick ms))
    (hblank : s.opened = true → s.latched = none → ∀ msg ms,
      P (.error (.typeError msg), s.stir.tick ms))
    (hok : s.opened = true → s.present = true → ∀ raw, s.latched = some raw → ∀ ms,
      P (.ok raw, s.stir.tick ms)) : P (s.read timeoutMs) := by
  unfold read
  dsimp only
  split
  next ho => exact hclosed (by simpa [stir] using ho)
  next ho =>
    have hopened : s.opened = true := by simpa [stir] using ho
    split
    next hp => exact hgone hopened (by simpa [stir, tick] using hp) _
    next hp =>
      split
      next hnone => exact hblank hopened hnone _ _
      next raw hraw => exact hok hopened (by simpa [stir, tick] using hp) raw hraw _

/-! ## What every call keeps -/

theorem isPacket_packet (s : Sim) {msgid cmd : Nat} {payload : List Nat} (hmsgid : msgid < 256)
    (hcmd : cmd < 256) (hlen : payload.length = 4) (hbytes : AreBytes payload) :
    IsPacket s.car.unit (s.packet msgid cmd payload) := by
  refine ⟨by simp [packet, hlen], fun hunit => Carousel.areBytes_append ?_ hbytes⟩
  intro b hb
  simp only [List.mem_cons, List.not_mem_nil, or_false] at hb
  rcases hb with rfl | rfl | rfl | rfl
  · decide
  · exact hunit
  · exact hmsgid
  · exact hcmd

theorem Report.length_xs (r : Report) : (List.ofFn fun i => (r.xs i : Nat)).length ≤ 5 := by
  rw [List.length_ofFn]

theorem Report.areBytes (r : Report) : AreBytes (padded (List.ofFn fun i => (r.xs i : Nat))) := by
  refine Carousel.areBytes_append (fun b hb => ?_) fun b hb => ?_
  · obtain ⟨i, rfl⟩ := List.mem_ofFn.mp hb
    exact (r.xs i).isLt
  · rw [List.eq_of_mem_replicate hb]
    decide

theorem near_feed (acts : List (Nat × Hand)) {c : Carousel} (h : c.Near) : (feed acts c).Near := by
  induction acts generalizing c with
  | nil => exact h
  | cons a acts ih =>
    refine ih (h.push (e := a.2.event) rfl rfl ?_)
    cases a.2 <;> exact nofun

namespace Line

variable {x : Line}

/-- Only the carousel's own state has changed. -/
theorem Sound.turned (h : x.Sound) {s : Sim} (hsame : (s.opened, s.present, s.latched, s.msgid) =
      (x.sim.opened, x.sim.present, x.sim.latched, x.sim.msgid))
    (hunit : s.car.unit = x.sim.car.unit) (hnear : s.car.Near) :
    Sound { x with sim := s } := by
  simp only [Prod.mk.injEq] at hsame
  obtain ⟨hopened, hpresent, hlatched, hmsgid⟩ := hsame
  exact ⟨hopened.trans h.up, hpresent.trans h.here, by rw [hopened, hpresent]; exact h.open_present,
    by rw [hlatched, hunit]; exact h.latched, hmsgid ▸ h.msgid, hnear⟩

theorem Sound.stir (h : x.Sound) : Sound { x with sim := x.sim.stir } :=
  h.turned rfl (stir_sameSetup x.sim).unit (near_feed _ h.near)

theorem Sound.tick (h : x.Sound) (ms : Nat) : Sound { x with sim := x.sim.tick ms } := by
  refine h.turned rfl (tick_sameSetup ms x.sim).unit ?_
  exact Carousel.Near.runDue (c := { x.sim.car with now := x.sim.car.now + ms })
    ⟨h.near.position, h.near.targets⟩

theorem Sound.deliver (h : x.Sound) {msgid cmd : Nat} {args : List Nat} (hmsgid : msgid < 256)
    (hcmd : cmd < 256) (hargs : AreBytes args) :
    Sound { x with sim := x.sim.deliver msgid cmd args } := by
  have hhandle := h.near.handle cmd hargs
  have hlength := Carousel.handle_length cmd args x.sim.car
  have hunit := Carousel.handle_unit cmd args x.sim.car
  unfold Sim.deliver
  generalize x.sim.car.handle cmd args = r at hhandle hlength hunit
  obtain ⟨reply | reply, car⟩ := r
  · exact h.turned rfl hunit hhandle.2
  · refine ⟨h.up, h.here, h.open_present, fun raw hraw => ?_, hmsgid, hhandle.2⟩
    cases hraw
    exact isPacket_packet _ hmsgid hcmd (hlength reply rfl) (hhandle.1 reply rfl)

/-- What every use keeps. -/
theorem Sound.use (h : x.Sound) (u : Use) : (Line.use u x).Sound := by
  cases u with
  | opens =>
    show Sound ⟨x.sim.opens.2, x.up || (x.sim.opens.1.map fun _ => Answer.done).toBool, x.here⟩
    refine opens_rule (P := fun r => Sound ⟨r.2, x.up || (r.1.map fun _ => Answer.done).toBool, x.here⟩)
      (fun _ _ => ?_) fun hpresent => ?_
    · exact ⟨h.up.trans (Bool.or_false _).symm, h.here, h.open_present, h.latched, h.msgid, h.near⟩
    · refine ⟨(Bool.or_true _).symm, h.here, fun _ => hpresent, fun raw hraw => ?_, h.msgid, h.near⟩
      cases hraw
      exact isPacket_packet x.sim h.msgid (by decide) rfl (by decide)
  | closes => exact ⟨rfl, h.here, nofun, h.latched, h.msgid, h.near⟩
  | present => exact h
  | read timeoutMs =>
    exact read_rule (P := fun r => Sound { x with sim := r.2 }) (fun _ => h.stir)
      (fun _ _ ms => h.stir.tick ms) (fun _ _ _ ms => h.stir.tick ms) fun _ _ _ _ ms => h.stir.tick ms
  | write report =>
    exact write_rule (P := fun r => Sound { x with sim := r.2 }) report.length_xs (fun _ _ => h.stir)
      (fun _ _ _ => h.stir) fun _ _ _ => h.stir.deliver report.msgid.isLt report.cmd.isLt report.areBytes
  | unplug => exact ⟨rfl, rfl, nofun, h.latched, h.msgid, h.near⟩
  | replug => exact ⟨h.up, rfl, fun _ => rfl, nofun, h.msgid, h.near⟩
  | failOpens n => exact ⟨h.up, h.here, h.open_present, h.latched, h.msgid, h.near⟩
  | wait ms => exact h.turned rfl rfl ⟨h.near.position, h.near.targets⟩

/-- The one call that is not as it should be is a read of a blank line. -/
theorem Sound.honours (h : x.Sound) (u : Use) :
    x.Honours u ↔ ((∃ timeoutMs, u = .read timeoutMs) → ¬ x.Blank) := by
  cases u with
  | read timeoutMs =>
    constructor
    · rintro ⟨hallowed, -⟩ - ⟨hopened, hnone⟩
      revert hallowed
      refine read_rule (P := fun r => ¬ Allowed x.sim.car.unit (.read timeoutMs) (r.1.map .packet))
        (fun hclosed => ?_) (fun _ hgone => ?_) (fun _ _ _ _ => nofun) fun _ _ raw hraw => ?_
      · rw [hopened] at hclosed
        cases hclosed
      · rw [h.open_present hopened] at hgone
        cases hgone
      · rw [hnone] at hraw
        cases hraw
    · intro hblank
      exact read_rule (P := fun r => Allowed x.sim.car.unit (.read timeoutMs) (r.1.map .packet) ∧
          (Use.transfers (.read timeoutMs) = true → (r.1.map Answer.packet).toBool = true →
            x.up = true ∧ x.here = true)) (fun _ => ⟨rfl, nofun⟩) (fun _ _ _ => ⟨rfl, nofun⟩)
        (fun ho hnone => absurd ⟨ho, hnone⟩ (hblank ⟨_, rfl⟩))
        fun ho hp raw hraw _ => ⟨h.latched raw hraw, fun _ _ => ⟨h.up ▸ ho, h.here ▸ hp⟩⟩
  | opens =>
    refine iff_of_true ⟨?_, nofun⟩ nofun
    exact opens_rule (P := fun r => Allowed x.sim.car.unit .opens (r.1.map fun _ => .done))
      (fun _ _ => rfl) fun _ => rfl
  | write report =>
    refine iff_of_true ?_ nofun
    have hten : (0 : Int) ≤ 10 := by decide
    exact write_rule (P := fun r => Allowed x.sim.car.unit (.write report) (r.1.map .count) ∧
        (Use.transfers (.write report) = true → (r.1.map Answer.count).toBool = true →
          x.up = true ∧ x.here = true)) report.length_xs (fun _ _ => ⟨rfl, nofun⟩)
      (fun ho hp _ => ⟨hten, fun _ _ => ⟨h.up ▸ ho, h.here ▸ hp⟩⟩)
      fun ho hp _ => ⟨hten, fun _ _ => ⟨h.up ▸ ho, h.here ▸ hp⟩⟩
  | present => exact iff_of_true ⟨trivial, nofun⟩ nofun
  | _ => exact iff_of_true ⟨rfl, nofun⟩ nofun

end Line

section Runs

variable (now : Nat) (occupied : Finset Nat) (serial unit : Nat) (blips : Bool)
  (rolls : Nat → Nat → Bool) (present : Bool) (hands : Hands) (uses : List Use)

/-- The uses of a new transport, each with the line before it. -/
def history : List (Line × Use) :=
  Runs.trail Line.use uses
    ⟨Sim.new (.powered now occupied serial unit blips rolls) present hands, false, present⟩

/-- **The simulated transport honours the interface in a run if and only if no line is blank when it
is read**: none was plugged in again while it was open and has said nothing since. -/
theorem honours_iff :
    (∀ x ∈ history now occupied serial unit blips rolls present hands uses, x.1.Honours x.2) ↔
      ∀ x ∈ history now occupied serial unit blips rolls present hands uses,
        (∃ timeoutMs, x.2 = .read timeoutMs) → ¬ x.1.Blank := by
  have hnew : Line.Sound
      ⟨Sim.new (.powered now occupied serial unit blips rolls) present hands, false, present⟩ :=
    ⟨rfl, rfl, nofun, nofun, Nat.succ_pos 255, Nat.succ_pos 255, fun x hx =>
      absurd hx (Agenda.not_mem_empty x)⟩
  have hsound : ∀ x ∈ history now occupied serial unit blips rolls present hands uses, x.1.Sound :=
    Runs.trail_inv (I := Line.Sound) (G := fun _ _ => True) (fun _ u hx _ => hx.use u) hnew
      fun _ _ => trivial
  exact forall₂_congr fun x hx => (hsound x hx).honours x.2

end Runs

/-- A unit that is opened, plugged in though it was never unplugged, and read. -/
theorem not_honours : ¬ ∀ (now : Nat) (occupied : Finset Nat) (serial unit : Nat) (blips : Bool)
    (rolls : Nat → Nat → Bool) (present : Bool) (hands : Hands) (uses : List Use),
    ∀ x ∈ history now occupied serial unit blips rolls present hands uses, x.1.Honours x.2 := by
  intro h
  have hread := h 0 ∅ 0 0 false (fun _ _ => false) true .none [.opens, .replug, .read 143] _
    (List.mem_cons_of_mem _ (List.mem_cons_of_mem _ List.mem_cons_self))
  exact absurd hread.1 nofun

end Sim

end StakkaWeb
