import StakkaWeb.Channels
import StakkaWeb.Laws.Kept

/-!
# Who a reply is credited to

`command` takes the id one above that of the last packet it read. If nothing in flight carries
that id when the command is written, then whatever carries it from then on stems from that
write, and the packet returned is the reply to it. After a timeout the id can be one that is
still in flight, and then the reply of the earlier command is taken for that of the later one.
-/

set_option autoImplicit false

namespace StakkaWeb

open Lib Lib.Prog

/-- The packet is the unit's reply to the write of that very call. -/
def Credit.Right (k : Credit) : Prop :=
  ∃ r, k.report = some r ∧ k.packet = Packet.ofRaw r.raw ∧ r.origin = some k.write ∧
    k.packet.cmd = k.cmd

namespace Channels

/-- What carries the id `msgid` stems from the write `write` of the opcode `cmd`. -/
structure Faithful (msgid write cmd : Nat) (c : Channels) : Prop where
  sent : ∀ s ∈ c.toUnit, s.msgid = msgid → s.origin = write ∧ s.cmd = cmd
  reports : ∀ r ∈ c.toHost, r.msgid = msgid → r.origin = some write ∧ r.cmd = cmd
  repeats : c.repeats.msgid = msgid → c.repeats.origin = some write ∧ c.repeats.cmd = cmd

/-- What the unit's steps leave alone. -/
structure SameHost (c c' : Channels) : Prop where
  writes : c'.writes = c.writes
  reused : c'.reused = c.reused
  credits : c'.credits = c.credits

theorem unitStep_sameHost (c : Channels) (step : UnitStep) : SameHost c (c.unitStep step) := by
  cases step with
  | emit => exact ⟨rfl, rfl, rfl⟩
  | handle payload =>
    unfold unitStep
    dsimp only
    split <;> exact ⟨rfl, rfl, rfl⟩

theorem unitStep_faithful {msgid write cmd : Nat} {c : Channels} (h : c.Faithful msgid write cmd)
    (step : UnitStep) : (c.unitStep step).Faithful msgid write cmd := by
  cases step with
  | emit =>
    refine ⟨h.sent, fun r hr => ?_, h.repeats⟩
    rcases List.mem_append.mp hr with hr | hr
    · exact h.reports r hr
    · obtain rfl := List.mem_singleton.mp hr
      exact h.repeats
  | handle payload =>
    unfold unitStep
    dsimp only
    split
    next => exact h
    next s rest hs =>
      exact ⟨fun s' hs' => h.sent s' (hs ▸ List.mem_cons_of_mem s hs'), h.reports, h.repeats⟩
    next s rest bytes hs =>
      have hhead := h.sent s (hs ▸ List.mem_cons_self)
      refine ⟨fun s' hs' => h.sent s' (hs ▸ List.mem_cons_of_mem s hs'), h.reports, fun hid => ?_⟩
      obtain ⟨horigin, hcmd⟩ := hhead hid
      exact ⟨congrArg some horigin, hcmd⟩

theorem steps_sameHost (steps : List UnitStep) (c : Channels) :
    SameHost c (steps.foldl unitStep c) := by
  induction steps generalizing c with
  | nil => exact ⟨rfl, rfl, rfl⟩
  | cons step steps ih =>
    have hone := unitStep_sameHost c step
    have hrest := ih (c.unitStep step)
    exact ⟨hrest.writes.trans hone.writes, hrest.reused.trans hone.reused,
      hrest.credits.trans hone.credits⟩

theorem turn_sameHost (c : Channels) : SameHost c c.turn :=
  have h := steps_sameHost (c.script.steps c.calls) { c with calls := c.calls + 1 }
  ⟨h.writes, h.reused, h.credits⟩

theorem turn_faithful {msgid write cmd : Nat} {c : Channels} (h : c.Faithful msgid write cmd) :
    c.turn.Faithful msgid write cmd := by
  have key : ∀ (steps : List UnitStep) (d : Channels), d.Faithful msgid write cmd →
      (steps.foldl unitStep d).Faithful msgid write cmd := by
    intro steps
    induction steps with
    | nil => exact fun d hd => hd
    | cons step steps ih => exact fun d hd => ih _ (unitStep_faithful hd step)
  exact key _ _ ⟨h.sent, h.reports, h.repeats⟩

/-- A write under an id that nothing in flight carries. -/
theorem write_faithful {c : Channels} {unit msgid cmd : Nat} {args : List Nat}
    (h : (c.write (reportBytes unit msgid cmd args)).2.reused = false) :
    (c.write (reportBytes unit msgid cmd args)).2.Faithful msgid c.writes cmd := by
  have hfree : c.turn.inFlight msgid = false := (Bool.or_eq_false_iff.mp h).2
  simp only [inFlight, Bool.or_eq_false_iff, List.any_eq_false, decide_eq_true_eq,
    decide_eq_false_iff_not] at hfree
  obtain ⟨⟨hsent, hreports⟩, hrepeats⟩ := hfree
  refine ⟨fun s hs hid => ?_, fun r hr hid => absurd hid (hreports r hr), fun hid => absurd hid hrepeats⟩
  rcases List.mem_append.mp hs with hs | hs
  · exact absurd hid (hsent s hs)
  · obtain rfl := List.mem_singleton.mp hs
    exact ⟨(turn_sameHost c).writes, rfl⟩

/-- Every credit is right, unless an id was reused. -/
def Sound (c : Channels) : Prop := c.reused = false → ∀ k ∈ c.credits, k.Right

theorem SameHost.sound {c c' : Channels} (h : SameHost c c') (hc : c.Sound) : c'.Sound := by
  intro hr
  rw [h.credits]
  exact hc (h.reused ▸ hr)

theorem read_sameHost (c : Channels) : SameHost c c.read.2 := by
  have h := turn_sameHost c
  unfold read
  dsimp only
  split <;> exact ⟨h.writes, h.reused, h.credits⟩

/-- What a read returns is the report it took off the channel. -/
theorem read_takes {c c' : Channels} {raw : List Nat} (h : c.read = (.ok raw, c')) (hne : raw ≠ []) :
    ∃ r ∈ c.turn.toHost, raw = r.raw ∧ c'.lastRead = some r := by
  unfold read at h
  dsimp only at h
  split at h
  next r rest _ hr =>
    cases h
    exact ⟨r, hr ▸ List.mem_cons_self, rfl, rfl⟩
  next =>
    cases h
    exact absurd rfl hne

theorem read_faithful {msgid write cmd : Nat} {c : Channels} (h : c.Faithful msgid write cmd) :
    c.read.2.Faithful msgid write cmd := by
  have hturn := turn_faithful h
  unfold read
  dsimp only
  split
  next r rest _ hr =>
    exact ⟨hturn.sent, fun r' hr' => hturn.reports r' (hr ▸ List.mem_cons_of_mem r hr'), hturn.repeats⟩
  next => exact hturn

end Channels

/-! ## The client -/

section Client

variable {msgid write cmd : Nat}

/-- A read of the client, for a property that reads keep. -/
theorem triple_read_channels {K : Channels → Prop} {S : Report → Channels → Prop}
    (hkeep : ∀ c, K c → K c.read.2)
    (htake : ∀ c r, K c → r ∈ c.turn.toHost → S r c.read.2) (timeoutMs : Nat) :
    Triple (fun w : World Channels => K w.io) (read timeoutMs)
      (fun reply w => K w.io ∧ ∀ p, reply = some p →
        ∃ r, w.io.lastRead = some r ∧ p = Packet.ofRaw r.raw ∧ S r w.io)
      (fun _ w => K w.io) := by
  refine Triple.bind (M := fun _ w => K w.io) (Triple.gets fun w hw => hw) fun isOpen => ?_
  refine Triple.bind (M := fun _ w => K w.io)
    (Triple.raiseIf (fun w hw _ => hw) fun w hw _ => hw) fun _ => ?_
  refine Triple.bind (M := fun raw w => K w.io ∧ (raw ≠ [] →
    ∃ r, w.io.lastRead = some r ∧ raw = r.raw ∧ S r w.io)) ?_ fun raw => ?_
  · refine triple_orNotConnected (fun _ hs => hs)
      (triple_onOutside (fun w raw c hw hr => ?_) fun w e c hw hr => ?_) _
    · have hc : c = w.io.read.2 := (Prod.ext_iff.mp hr).2.symm
      refine ⟨hc ▸ hkeep w.io hw, fun hne => ?_⟩
      obtain ⟨r, hr', hraw, hlast⟩ := Channels.read_takes hr hne
      exact ⟨r, hlast, hraw, hc ▸ htake w.io r hw hr'⟩
    · have hc : c = w.io.read.2 := (Prod.ext_iff.mp hr).2.symm
      exact hc ▸ hkeep w.io hw
  · refine Triple.ite (fun _ => Triple.pure fun w hw => ⟨hw.1, nofun⟩) fun hempty => ?_
    refine Triple.ite (fun _ => Triple.raise fun w hw => hw.1) fun _ => Triple.pure fun w hw => ?_
    refine ⟨hw.1, fun p hp => ?_⟩
    cases hp
    obtain ⟨r, hlast, hraw, hs⟩ := hw.2 fun he => hempty (by rw [he]; rfl)
    exact ⟨r, hlast, hraw ▸ rfl, hs⟩

/-- Before the write: the credits so far are sound, and so many writes have been made. -/
def Written (write : Nat) (c : Channels) : Prop := c.Sound ∧ c.writes = write

/-- After the write: what carries the id stems from it, unless the id was reused. -/
def Awaited (msgid write cmd : Nat) (c : Channels) : Prop :=
  c.Sound ∧ (c.reused = false → c.Faithful msgid write cmd)

theorem awaited_read {c : Channels} (h : Awaited msgid write cmd c) :
    Awaited msgid write cmd c.read.2 := by
  have hsame := c.read_sameHost
  exact ⟨hsame.sound h.1, fun hr => Channels.read_faithful (h.2 (hsame.reused ▸ hr))⟩

theorem awaited_clock {c : Channels} (h : Awaited msgid write cmd c) :
    Awaited msgid write cmd (Outside.clock c).2 :=
  ⟨h.1, fun hr => ⟨(h.2 hr).sent, (h.2 hr).reports, (h.2 hr).repeats⟩⟩

/-- The report that a reply was read from answers the write, unless an id was reused. -/
def Answering (write cmd : Nat) (p : Packet) (c : Channels) : Prop :=
  c.reused = false → ∃ r, c.lastRead = some r ∧ p = Packet.ofRaw r.raw ∧ r.origin = some write ∧
    p.cmd = cmd

theorem awaitReply_credit (deadline : Nat) :
    Triple (fun w => Awaited msgid write cmd w.io) (awaitReply cmd msgid deadline)
      (fun turned w => w.io.Sound ∧ match turned with
        | some (some p) => Answering write cmd p w.io
        | some none => True
        | none => Awaited msgid write cmd w.io)
      (fun _ w => w.io.Sound) := by
  refine Triple.bind (M := fun _ w => Awaited msgid write cmd w.io)
    (triple_clock fun w hw => awaited_clock hw) fun now => ?_
  refine Triple.ite (fun _ => ?_) fun _ => Triple.pure fun w hw => ⟨hw.1, trivial⟩
  have hread := triple_read_channels (K := Awaited msgid write cmd)
    (S := fun r c => c.reused = false → r.msgid = msgid → r.origin = some write ∧ r.cmd = cmd)
    (fun c h => awaited_read h) (fun c r h hr hfree hid => by
      have hsame := c.read_sameHost
      exact (Channels.turn_faithful (h.2 (hsame.reused ▸ hfree))).reports r hr hid) pollMs
  refine (hread.conseq (fun _ => id) (fun _ _ => id) fun _ w hw => hw.1).bind fun reply => ?_
  cases reply with
  | none => exact Triple.pure fun w hw => ⟨hw.1.1, hw.1⟩
  | some p =>
    refine Triple.ite (fun hid => ?_) fun _ => Triple.pure fun w hw => ⟨hw.1.1, hw.1⟩
    refine Triple.bind (M := fun _ w => w.io.Sound ∧ Answering write cmd p w.io)
      (triple_observe fun w hw => ⟨hw.1.1, fun hfree => ?_⟩) fun _ => Triple.pure fun w hw => hw
    obtain ⟨r, hlast, hp, hs⟩ := hw.2 p rfl
    subst hp
    obtain ⟨horigin, hcmd⟩ := hs hfree hid
    exact ⟨r, hlast, rfl, horigin, hcmd⟩

theorem write_credit (args : List Nat) :
    Triple (fun w => Written write w.io) (StakkaWeb.write msgid cmd args)
      (fun _ w => Awaited msgid write cmd w.io) (fun _ w => w.io.Sound) := by
  refine Triple.bind (M := fun _ w => Written write w.io) (Triple.gets fun w hw => hw) fun ds => ?_
  refine Triple.bind (M := fun _ w => Written write w.io)
    (Triple.raiseIf (fun w hw _ => hw.1) fun w hw _ => hw) fun _ => ?_
  refine Triple.bind (M := fun _ w => Written write w.io)
    (Triple.raiseIf (fun w hw _ => hw.1) fun w hw _ => hw) fun _ => ?_
  have hwrite : Triple (fun w : World Channels => Written write w.io)
      (onOutside (Outside.write (reportBytes ds.unit msgid cmd args)))
      (fun _ w => Awaited msgid write cmd w.io) (fun _ w => w.io.Sound) := by
    refine triple_onOutside (fun w count c hw hr => ?_) fun w e c hw hr => nomatch hr
    have hc : c = (w.io.write (reportBytes ds.unit msgid cmd args)).2 := (Prod.ext_iff.mp hr).2.symm
    subst hc
    have hturn := w.io.turn_sameHost
    refine ⟨fun hfree k hk => ?_, fun hfree => hw.2 ▸ Channels.write_faithful hfree⟩
    have hbefore : w.io.turn.reused = false := (Bool.or_eq_false_iff.mp hfree).1
    exact hturn.sound hw.1 hbefore k hk
  refine (triple_orNotConnected (J := Channels.Sound) (fun _ hs => hs) hwrite _).bind fun count => ?_
  exact Triple.raiseIf (fun w hw _ => hw.1) fun w hw _ => hw

/-- A command writes once, and what it returns answers that write unless an id was reused. -/
theorem command_credit (cmd : Nat) (args : List Nat) (timeoutMs write : Nat) :
    Triple (fun w => Written write w.io) (command cmd args timeoutMs)
      (fun reply w => w.io.Sound ∧ ∀ p, reply = some p → Answering write cmd p w.io)
      (fun _ w => w.io.Sound) := by
  have hseed := triple_read_channels (K := Written write) (S := fun _ _ => True)
    (fun c h => ⟨c.read_sameHost.sound h.1, c.read_sameHost.writes.trans h.2⟩)
    (fun _ _ _ _ => trivial) timeoutMs
  refine (hseed.conseq (fun _ => id) (fun _ _ => id) fun _ w hw => hw.1).bind fun seed => ?_
  cases seed with
  | none => exact Triple.raise fun w hw => hw.1.1
  | some seed =>
    refine Triple.bind (M := fun _ w => Awaited ((seed.msgid + 1) % 256) write cmd w.io)
      ((write_credit args).pre fun w hw => hw.1) fun _ => ?_
    refine Triple.bind (M := fun _ w => Awaited ((seed.msgid + 1) % 256) write cmd w.io)
      (triple_clock fun w hw => awaited_clock hw) fun now => ?_
    refine Triple.loop (fun w => Awaited ((seed.msgid + 1) % 256) write cmd w.io)
      (fun w hw => hw) ((awaitReply_credit _).post fun turned w hw => ?_) fun w hw => hw.1
    rcases turned with _ | _ | p
    · exact hw.2
    · exact ⟨hw.1, nofun⟩
    · refine ⟨hw.1, fun p' hp => ?_⟩
      cases hp
      exact hw.2

theorem credited_sound (req : Request) :
    Keeps (fun w => w.io.Sound) (credited req) := by
  refine Triple.of_each fun w₀ h₀ => ?_
  refine Triple.bind (M := fun write w => Written write w.io)
    (Triple.gets ?_) fun write => ?_
  · rintro w rfl
    exact ⟨h₀, rfl⟩
  refine (command_credit req.cmd req.args req.timeoutMs write).bind fun reply => ?_
  cases reply with
  | none => exact Triple.pure fun w hw => hw.1
  | some p =>
    refine Triple.modify fun w hw hfree k hk => ?_
    rcases List.mem_append.mp hk with hk | hk
    · exact hw.1 hfree k hk
    · obtain rfl := List.mem_singleton.mp hk
      exact hw.2 p rfl hfree

theorem session_sound (reqs : List Request) :
    Keeps (fun w => w.io.Sound) (session reqs) := by
  induction reqs with
  | nil => exact Keeps.pure ()
  | cons req reqs ih =>
    exact ((credited_sound req).attempt fun _ => Keeps.pure ()).bind fun _ => ih

/-- **When every reply is credited to its own command**: over any interleaving of the unit, the
channels and the timeouts, and any calls of the client, if each command was written under an id
that nothing in flight carried, then every packet returned is the unit's reply to the write of
that very call, and has its opcode. -/
theorem session_credits (w : World Channels) (hstart : w.io.credits = []) (reqs : List Request)
    (n : Nat) (hfresh : (session reqs n w).2.io.reused = false) :
    ∀ k ∈ (session reqs n w).2.io.credits, k.Right := by
  refine (session_sound reqs).run n (s := w) ?_ hfresh
  intro _ k hk
  rw [hstart] at hk
  cases hk

/-- A client with the unit open, in front of idle channels. -/
def channelled (script : Script) : World Channels :=
  { World.boot ⟨[], [], ⟨none, 0, 0, 0xCC, [0, 0, 0, 0]⟩, script, 0, 0, none, false, []⟩ [] with
    ds := ⟨true, 0, none, none, false⟩ }

/-- A status request and, once that is through, a request for the serial number. -/
def statusThenSerial : List Request := [⟨cmdRequestState, [], 3000⟩, ⟨cmdGetSerial, [], 3000⟩]

/-- The unit takes long over the first command: its reply comes after the client has given up and
sent the second. -/
def slowScript : Script where
  steps := fun k => match k with
    | 0 | 4 | 6 => [.emit]
    | 10 => [.handle (some [0, 0, 0, 1]), .emit]
    | _ => []
  late := fun _ => false
  clock := fun k => 1500 * k

/-- The request for the serial number is answered with the reply to the status request: both went
out under the id 1. -/
theorem slowScript_miscredits :
    ¬ ∀ k ∈ (session statusThenSerial 20 (channelled slowScript)).2.io.credits, k.Right := by
  intro h
  have hwrong : ∃ k ∈ (session statusThenSerial 20 (channelled slowScript)).2.io.credits,
      k.packet.cmd ≠ k.cmd := by decide +kernel
  obtain ⟨k, hk, hne⟩ := hwrong
  obtain ⟨_, _, _, _, hcmd⟩ := h k hk
  exact hne hcmd

/-- The unit answers at once. -/
def promptScript : Script where
  steps := fun k => match k with
    | 0 | 5 => [.emit]
    | 4 | 9 => [.handle (some [0, 0, 0, 1]), .emit]
    | _ => []
  late := fun _ => false
  clock := fun k => 100 * k

theorem session_credits_promptScript :
    (session statusThenSerial 20 (channelled promptScript)).2.io.credits.length = 2 ∧
      ∀ k ∈ (session statusThenSerial 20 (channelled promptScript)).2.io.credits, k.Right :=
  ⟨by decide +kernel, session_credits _ rfl _ _ (by decide +kernel)⟩

end Client

end StakkaWeb
