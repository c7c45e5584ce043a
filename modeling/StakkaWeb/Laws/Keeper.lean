import StakkaWeb.Keeper
import StakkaWeb.Laws.Greeting
import StakkaWeb.Laws.Termination

/-!
# The keeper finds the unit again

What is needed of a handle is that one the transport has open repeats a packet and belongs to a unit
the client has identified. Every pass and every key keeps it so. A pass over a unit that is on the
bus then holds it, or uses up three of the failures to open that stand in its way and records one
error: the failures left are a rank that no pass can raise.
-/

set_option autoImplicit false

open Lib Lib.Prog

namespace StakkaWeb

section Keeper

variable {serial unit : Nat} {tracing present : Bool} {k : Nat}

/-- The unit `unit` of this serial is held: opened, identified, and sending. -/
abbrev Holds (serial unit : Nat) (tracing : Bool) (w : World Sim) : Prop :=
  Knows serial ⟨true, unit, some serial, some "02.17.0079", tracing⟩ w

/-- The unit is not held, because the client has closed its handle or the transport has. It is on
the bus or not, and `k` opens are to fail. -/
structure Away (serial unit : Nat) (tracing present : Bool) (k : Nat) (w : World Sim) : Prop where
  serial : w.io.car.serial = serial
  unit : w.io.car.unit = unit
  tracing : w.ds.tracing = tracing
  lost : w.ds.isOpen = false ∨ w.io.opened = false
  present : w.io.present = present
  failOpens : w.io.failOpens = k

/-- What the keeper works on: a unit that is held, or away. -/
def Minded (serial unit : Nat) (tracing present : Bool) (w : World Sim) : Prop :=
  (present = true ∧ Holds serial unit tracing w) ∨ ∃ k, Away serial unit tracing present k w

theorem Knows.opened {ds : DiscStakka} {w : World Sim} (h : Knows serial ds w) :
    w.io.opened = true ∧ w.io.present = true := by
  obtain ⟨raw, hlinked⟩ := h.online.linked
  exact ⟨hlinked.streams.opened, hlinked.streams.present⟩

/-- Only the handle, the packet it repeats and the names of the unit matter to a client that knows
the unit. -/
theorem Knows.outside {ds : DiscStakka} {w : World Sim} (h : Knows serial ds w) {s : Sim}
    (hopened : s.opened = w.io.opened) (hpresent : s.present = w.io.present)
    (hlatched : s.latched = w.io.latched) (hserial : s.car.serial = w.io.car.serial)
    (hunit : s.car.unit = w.io.car.unit) : Knows serial ds { w with io := s } := by
  obtain ⟨raw, hlinked⟩ := h.online.linked
  have hstreams := hlinked.streams
  refine ⟨⟨⟨raw, hlinked.isOpen, hlinked.unit.trans hunit.symm, ?_⟩, h.online.address⟩,
    hserial.trans h.serial, h.ds⟩
  exact ⟨hopened.trans hstreams.opened, hpresent.trans hstreams.present,
    hlatched.trans hstreams.latched, hstreams.long⟩

theorem Away.outside {w : World Sim} (h : Away serial unit tracing present k w) {s : Sim}
    (hopened : s.opened = w.io.opened) (hserial : s.car.serial = w.io.car.serial)
    (hunit : s.car.unit = w.io.car.unit) :
    Away serial unit tracing s.present s.failOpens { w with io := s } :=
  ⟨hserial.trans h.serial, hunit.trans h.unit, h.tracing, h.lost.imp id hopened.trans, rfl, rfl⟩

/-! ## One pass -/

/-- A unit that is held answers. -/
theorem reached_held : Triple (Holds serial unit tracing) reached
    (fun b w => b = true ∧ Holds serial unit tracing w) NoRaise := by
  intro n w hw
  obtain ⟨raw, hlinked⟩ := hw.online.linked
  have halive : alive n w =
      (.ok true, { w with io := w.io.stir.tick (min 0 Firmware.repeatMs) }) := by
    simp only [alive, attempt, bind_run, read_streams hlinked.isOpen hlinked.streams 0 n, pure_run]
  have hrun : reached n w = alive n w := by
    simp only [reached, bind_run, gets_run, hlinked.isOpen, if_true]
  rw [hrun, halive]
  refine ⟨rfl, hw.outside rfl rfl rfl ?_ ?_⟩
  · exact (Sim.tick_sameSetup _ _).serial.trans w.io.stir_sameSetup.serial
  · exact (Sim.tick_sameSetup _ _).unit.trans w.io.stir_sameSetup.unit

/-- One that is away does not, and its handle is closed. -/
theorem reached_away : Triple (Away serial unit tracing present k) reached
    (fun b w => b = false ∧ w.ds.isOpen = false ∧ Away serial unit tracing present k w) NoRaise := by
  intro n w hw
  by_cases hopen : w.ds.isOpen = true
  · have hopened : w.io.opened = false := hw.lost.resolve_left (by rw [hopen]; decide)
    have hread : Outside.read 64 0 w.io = (.error (.osError "device is not open"), w.io.stir) := by
      show Sim.read 0 w.io = _
      simp only [Sim.read, show w.io.stir.opened = false from hopened, Bool.not_false, if_true]
    have hraised : orNotConnected "read failed: " (onOutside (Outside.read 64 0)) n w =
        (.raise (.notConnected ("read failed: " ++ "device is not open")),
          { w with ds := w.ds.shut, io := w.io.stir.closes }) := by
      simp only [orNotConnected, attempt, onOutside, call, hread]
      rfl
    have hgets : (gets fun w : World Sim => w.ds.isOpen : Py Sim Bool) n w = (.ok true, w) := by
      rw [gets_run, hopen]
    have hfailed : read 0 n w = (.raise (.notConnected ("read failed: " ++ "device is not open")),
        { w with ds := w.ds.shut, io := w.io.stir.closes }) := by
      unfold read
      rw [bind_of_ok hgets, bind_of_ok (m := raiseIf (!true) _) (by rfl)]
      exact bind_of_raise hraised
    have hrun : reached n w =
        (.ok false, { w with ds := w.ds.shut, io := w.io.stir.closes }) := by
      have halive : alive n w =
          (.ok false, { w with ds := w.ds.shut, io := w.io.stir.closes }) := by
        unfold alive attempt
        rw [bind_of_raise hfailed]
        rfl
      unfold reached
      rw [bind_of_ok hgets]
      exact halive
    rw [hrun]
    exact ⟨rfl, rfl, w.io.stir_sameSetup.serial.trans hw.serial,
      w.io.stir_sameSetup.unit.trans hw.unit, hw.tracing, .inl rfl, hw.present, hw.failOpens⟩
  · have hclosed : w.ds.isOpen = false := Bool.eq_false_iff.mpr hopen
    have hrun : reached n w = (.ok false, w) := by
      simp only [reached, bind_run, gets_run, hclosed]
      rfl
    rw [hrun]
    exact ⟨rfl, hclosed, hw⟩

/-! ### Opening it -/

/-- What `open` says once all its attempts have failed. -/
def openFailure : Exc :=
  .notConnected ("cannot open Disc Stakka (0718:d000): " ++ "simulated open failure")

theorem Away.sleep {w : World Sim} (h : Away serial unit tracing present k w) (ms : Nat) :
    Away serial unit tracing present k { w with io := Outside.sleep ms w.io } :=
  ⟨h.serial, h.unit, h.tracing, h.lost, h.present, h.failOpens⟩

/-- An attempt that fails leaves everything but the number of failures. -/
theorem Away.opens_fails {w : World Sim} (h : Away serial unit tracing present (k + 1) w) :
    Outside.opens w.io = (.error (.osError "simulated open failure"),
        { w.io with failOpens := w.io.failOpens - 1 }) ∧
      Away serial unit tracing present k
        { w with io := { w.io with failOpens := w.io.failOpens - 1 } } := by
  have hfail : 0 < w.io.failOpens := by
    rw [h.failOpens]
    exact k.succ_pos
  refine ⟨Sim.opens_fails hfail, h.serial, h.unit, h.tracing, h.lost, h.present, ?_⟩
  show w.io.failOpens - 1 = k
  rw [h.failOpens, Nat.add_sub_cancel]

/-- With fewer failures than attempts to come, the unit is opened and identified. -/
theorem openUnit_finds (hserial : serial < 2 ^ 32) (hunit : unit ≤ 255) (hk : k < 3) :
    Triple (fun w => w.ds.isOpen = false ∧ Away serial unit tracing true k w) openUnit
      (fun _ => Holds serial unit tracing) NoRaise := by
  have hfrom : Triple (Away serial unit tracing true k) (openFrom (σ := Sim) "None" 3)
      (fun _ => Holds serial unit tracing) NoRaise := by
    apply openFrom_rule
      (B := fun w => (∃ raw, Met serial unit raw w) ∧ w.ds.tracing = tracing) _ _ _ 3 k hk
    · intro j w hw
      exact ⟨_, _, hw.opens_fails.1, hw.opens_fails.2.sleep 400⟩
    · intro w hw
      refine ⟨_, Sim.opens_ok hw.failOpens hw.present, ⟨_, rfl, ⟨rfl, hw.present, rfl, ?_⟩, ?_,
        hw.serial, hw.unit⟩, hw.tracing⟩
      · exact Nat.le_refl 8
      · rw [← hw.unit]
        exact .announced _
    · apply Triple.pre (A := fun w => ∃ raw, Met serial unit raw w ∧ w.ds.tracing = tracing)
      · exact Triple.of_exists fun raw => handshake_identifies hserial hunit
      · rintro w ⟨⟨raw, hmet⟩, htracing⟩
        exact ⟨raw, hmet, htracing⟩
  apply Triple.bind (M := fun isOpen w => isOpen = false ∧ Away serial unit tracing true k w)
  · exact Triple.gets fun w hw => hw
  · intro isOpen
    apply Triple.of_fact
    rintro rfl
    exact hfrom

/-- With as many failures as attempts, each attempt uses one up and nothing else is left of them. -/
theorem openFrom_fails (left : Nat) (last : String) :
    Triple (fun w => w.ds.isOpen = false ∧ Away serial unit tracing present (left + k) w)
      (openFrom last left) (fun _ _ => False)
      fun e w => e = some (if left = 0 then .notConnected ("cannot open Disc Stakka (" ++ hex 4 vid ++
          ":" ++ hex 4 pid ++ "): " ++ last) else openFailure) ∧
        w.ds.isOpen = false ∧ Away serial unit tracing present k w := by
  induction left generalizing last with
  | zero =>
    apply Triple.raise
    intro w hw
    rw [Nat.zero_add] at hw
    exact ⟨rfl, hw⟩
  | succ left ih =>
    refine Triple.of_each fun w hw => ?_
    obtain ⟨hfails, haway⟩ := Away.opens_fails (k := left + k) (by
      have h := hw.2
      rwa [show left + 1 + k = left + k + 1 by omega] at h)
    have hfailed : ∀ n, openOnce n w = (.ok (some (.osError "simulated open failure")),
        { w with io := { w.io with failOpens := w.io.failOpens - 1 } }) := by
      intro n
      have hcall : onOutside Outside.opens n w = (.raise (.osError "simulated open failure"),
          { w with io := { w.io with failOpens := w.io.failOpens - 1 } }) := by
        simp only [onOutside, call, hfails]
      unfold openOnce attempt
      rw [bind_of_raise hcall]
      rfl
    apply Triple.after hfailed
    apply Triple.bind (M := fun _ w => w.ds.isOpen = false ∧
      Away serial unit tracing present (left + k) w)
    · apply Triple.when
      · intro _
        apply triple_ofOutside
        rintro v rfl
        exact ⟨hw.1, haway.sleep 400⟩
      · rintro v rfl _
        exact ⟨hw.1, haway⟩
    · intro _
      apply (ih _).conseq (fun _ => id) (fun _ _ => id)
      rintro e v ⟨he, hv⟩
      rw [if_neg left.succ_ne_zero]
      refine ⟨he.trans ?_, hv⟩
      split
      · rfl
      · rfl

theorem openUnit_fails :
    Triple (fun w => w.ds.isOpen = false ∧ Away serial unit tracing present (3 + k) w) openUnit
      (fun _ _ => False) fun e w =>
        e = some openFailure ∧ w.ds.isOpen = false ∧ Away serial unit tracing present k w := by
  apply Triple.bind (M := fun isOpen w => isOpen = false ∧ w.ds.isOpen = false ∧
    Away serial unit tracing present (3 + k) w)
  · exact Triple.gets fun w hw => ⟨hw.1, hw⟩
  · intro isOpen
    apply Triple.of_fact
    rintro rfl
    exact openFrom_fails 3 "None"

/-! ### The pass -/

/-- A pass over a unit that is held leaves it held. -/
theorem tend_held (openError : Option Exc) : Triple (Holds serial unit tracing) (tend openError)
    (fun r w => r = none ∧ Holds serial unit tracing w) NoRaise := by
  apply Triple.attempt (E := NoRaise)
  · apply reached_held.bind
    intro reached
    apply Triple.of_fact
    rintro rfl
    exact Triple.pure fun w hw => ⟨rfl, hw⟩
  · intro exc n w hw
    cases hw
  · exact fun _ => id

/-- A pass over one that is away opens it where that is possible, and closes the handle where it is
not. -/
theorem tend_away {Q : Option Exc → World Sim → Prop} {E : Option Exc → World Sim → Prop}
    (openError : Option Exc)
    (hopen : present = true → Triple (fun w => w.ds.isOpen = false ∧
      Away serial unit tracing true k w) openUnit (fun _ => Q none) E)
    (habsent : present = false → ∀ w, w.ds.isOpen = false → Away serial unit tracing false k w →
      Q none w)
    (hfails : ∀ exc w, E (some exc) w → exc.isDeviceError = true ∧ Q (some exc) w) :
    Triple (Away serial unit tracing present k) (tend openError) Q NoRaise := by
  apply Triple.attempt (E := fun e w => e = none ∨ E e w)
  · apply (reached_away.conseq (fun _ => id) (fun _ _ => id) fun _ _ => .inl).bind
    intro reached
    apply Triple.of_fact
    rintro rfl
    apply Triple.bind (M := fun here w => here = present ∧ w.ds.isOpen = false ∧
      Away serial unit tracing present k w)
    · apply triple_ofOutside
      intro w hw
      exact ⟨hw.2.present, hw⟩
    intro here
    apply Triple.of_fact
    rintro rfl
    apply Triple.bind (M := fun _ => Q none)
    · apply Triple.when
      · rintro rfl
        exact (hopen rfl).conseq (fun _ => id) (fun _ _ => id) fun _ _ => .inr
      · rintro w hw rfl
        exact habsent rfl w hw.1 hw.2
    · exact fun _ => Triple.pure fun _ => id
  · intro exc
    apply Triple.pre (A := fun w => exc.isDeviceError = true ∧ Q (some exc) w)
    · apply Triple.of_fact
      intro hdevice
      rw [if_pos hdevice]
      exact Triple.pure fun _ => id
    · intro w hw
      exact hfails exc w (hw.resolve_left nofun)
  · exact fun _ _ => rfl

theorem tend_finds (hserial : serial < 2 ^ 32) (hunit : unit ≤ 255) (hk : k < 3)
    (openError : Option Exc) : Triple (Away serial unit tracing true k) (tend openError)
      (fun r w => r = none ∧ Holds serial unit tracing w) NoRaise := by
  apply tend_away (E := NoRaise)
  · intro _
    exact (openUnit_finds hserial hunit hk).post fun _ _ hw => ⟨rfl, hw⟩
  · intro h
    cases h
  · intro exc w hw
    cases hw

theorem tend_absent (openError : Option Exc) :
    Triple (Away serial unit tracing false k) (tend openError)
      (fun r w => r = none ∧ w.ds.isOpen = false ∧ Away serial unit tracing false k w) NoRaise := by
  apply tend_away (E := NoRaise)
  · intro h
    cases h
  · exact fun _ w hclosed hw => ⟨rfl, hclosed, hw⟩
  · intro exc w hw
    cases hw

theorem tend_fails (openError : Option Exc) :
    Triple (Away serial unit tracing true (3 + k)) (tend openError)
      (fun r w => r = some openFailure ∧ w.ds.isOpen = false ∧ Away serial unit tracing true k w)
      NoRaise := by
  apply tend_away
  · intro _
    exact openUnit_fails.post fun _ _ => False.elim
  · intro h
    cases h
  · rintro exc w ⟨hexc, hw⟩
    cases hexc
    exact ⟨rfl, rfl, hw⟩

/-! ## Many passes -/

theorem Knows.sleep {ds : DiscStakka} {w : World Sim} (h : Knows serial ds w) (ms : Nat) :
    Knows serial ds { w with io := Outside.sleep ms w.io } :=
  h.outside rfl rfl rfl rfl rfl

/-- The rule of the keeper's loop: what each pass makes of what the passes before it left, which half
a second does not change. -/
theorem keepOpen_rule {I : Nat → Option Exc → World Sim → Prop}
    (hpass : ∀ i openError, Triple (I i openError) (tend openError) (fun r => I (i + 1) r) NoRaise)
    (hsleep : ∀ i openError w, I i openError w →
      I i openError { w with io := Outside.sleep 500 w.io }) (passes i : Nat)
    (openError : Option Exc) :
    Triple (I i openError) (keepOpen passes openError) (fun r => I (i + passes) r) NoRaise := by
  induction passes generalizing i openError with
  | zero => exact Triple.pure fun _ => id
  | succ passes ih =>
    apply (hpass i openError).bind
    intro r
    apply Triple.bind (M := fun _ => I (i + 1) r)
    · exact triple_ofOutside fun w hw => hsleep _ _ w hw
    · intro _
      apply (ih (i + 1) r).post
      intro r' w hw
      rwa [show i + (passes + 1) = i + 1 + passes by omega]

theorem keepOpen_held (passes : Nat) (openError : Option Exc) :
    Triple (Holds serial unit tracing) (keepOpen passes openError)
      (fun r w => (0 < passes → r = none) ∧ Holds serial unit tracing w) NoRaise := by
  apply (keepOpen_rule (I := fun i r w => (0 < i → r = none) ∧ Holds serial unit tracing w)
    _ _ passes 0 openError).conseq
  · exact fun w hw => ⟨nofun, hw⟩
  · intro r w hw
    rwa [Nat.zero_add] at hw
  · exact fun _ _ => id
  · intro i openError
    exact (tend_held openError).conseq (fun w hw => hw.2) (fun r w hw => ⟨fun _ => hw.1, hw.2⟩)
      fun _ _ => id
  · exact fun i openError w hw => ⟨hw.1, hw.2.sleep 500⟩

theorem keepOpen_absent (passes : Nat) (openError : Option Exc) :
    Triple (Away serial unit tracing false k) (keepOpen passes openError)
      (fun r w => (0 < passes → r = none ∧ w.ds.isOpen = false) ∧
        Away serial unit tracing false k w) NoRaise := by
  apply (keepOpen_rule (I := fun i r w => (0 < i → r = none ∧ w.ds.isOpen = false) ∧
    Away serial unit tracing false k w) _ _ passes 0 openError).conseq
  · exact fun w hw => ⟨nofun, hw⟩
  · intro r w hw
    rwa [Nat.zero_add] at hw
  · exact fun _ _ => id
  · intro i openError
    exact (tend_absent openError).conseq (fun w hw => hw.2)
      (fun r w hw => ⟨fun _ => ⟨hw.1, hw.2.1⟩, hw.2.2⟩) fun _ _ => id
  · exact fun i openError w hw => ⟨hw.1, hw.2.sleep 500⟩

/-- What `i` passes have made of a unit on the bus with `k` failures before it. -/
def Sought (serial unit : Nat) (tracing : Bool) (k i : Nat) (r : Option Exc) (w : World Sim) : Prop :=
  if k / 3 < i then r = none ∧ Holds serial unit tracing w
  else (0 < i → r = some openFailure ∧ w.ds.isOpen = false) ∧
    Away serial unit tracing true (k - 3 * i) w

theorem keepOpen_sought (hserial : serial < 2 ^ 32) (hunit : unit ≤ 255) (passes : Nat)
    (openError : Option Exc) : Triple (Away serial unit tracing true k) (keepOpen passes openError)
      (Sought serial unit tracing k passes) NoRaise := by
  apply (keepOpen_rule (I := Sought serial unit tracing k) _ _ passes 0 openError).conseq
  · intro w hw
    unfold Sought
    rw [if_neg (Nat.not_lt_zero _)]
    exact ⟨nofun, hw⟩
  · intro r w hw
    rwa [Nat.zero_add] at hw
  · exact fun _ _ => id
  · intro i openError
    unfold Sought
    by_cases hheld : k / 3 < i
    · simp only [if_pos hheld, if_pos (Nat.lt_succ_of_lt hheld)]
      exact (tend_held openError).pre fun w hw => hw.2
    by_cases hlast : k / 3 < i + 1
    · simp only [if_neg hheld, if_pos hlast]
      exact (tend_finds hserial hunit (by omega) openError).pre fun w hw => hw.2
    · simp only [if_neg hheld, if_neg hlast]
      apply (tend_fails (k := k - 3 * (i + 1)) openError).conseq
      · intro w hw
        rw [show 3 + (k - 3 * (i + 1)) = k - 3 * i by omega]
        exact hw.2
      · exact fun r w hw => ⟨fun _ => ⟨hw.1, hw.2.1⟩, hw.2.2⟩
      · exact fun _ _ => id
  · intro i openError w hw
    unfold Sought at hw ⊢
    split at hw <;> rename_i hlt
    · rw [if_pos hlt]
      exact ⟨hw.1, hw.2.sleep 500⟩
    · rw [if_neg hlt]
      exact ⟨hw.1, hw.2.sleep 500⟩

/-! ## Passes between keys -/

theorem Minded.pass (hserial : serial < 2 ^ 32) (hunit : unit ≤ 255) (openError : Option Exc) :
    Triple (Minded serial unit tracing present) (keepOpen 1 openError)
      (fun _ => Minded serial unit tracing present) NoRaise := by
  apply Triple.of_or
  · apply Triple.of_fact
    rintro rfl
    exact (keepOpen_held 1 openError).post fun _ w hw => .inl ⟨rfl, hw.2⟩
  apply Triple.of_exists
  intro k
  cases present with
  | false => exact (keepOpen_absent 1 openError).post fun _ w hw => .inr ⟨k, hw.2⟩
  | true =>
    apply (keepOpen_sought hserial hunit 1 openError).post
    intro r w hw
    unfold Sought at hw
    split at hw
    · exact .inl ⟨rfl, hw.2⟩
    · exact .inr ⟨_, hw.2⟩

/-- Whether the unit is on the bus once the key is pressed. -/
def Key.presence : Key → Bool → Bool
  | unplug, _ => false
  | replug, _ => true
  | _, present => present

/-- A key keeps the unit held or away, unless it plugs in one that was not unplugged. -/
theorem Minded.press {w : World Sim} (h : Minded serial unit tracing present w) (key : Key)
    (hreplug : key = .replug → present = false) :
    Minded serial unit tracing (key.presence present) { w with io := key.press w.io } := by
  rcases h with ⟨rfl, h⟩ | ⟨k, h⟩
  · cases key with
    | insert | take | blips | failOpens => exact .inl ⟨rfl, h.outside rfl rfl rfl rfl rfl⟩
    | unplug =>
      obtain ⟨raw, hlinked⟩ := h.online.linked
      have hds : w.ds.unit = unit := congrArg DiscStakka.unit h.ds
      have htracing : w.ds.tracing = tracing := congrArg DiscStakka.tracing h.ds
      exact .inr ⟨w.io.failOpens, h.serial, hlinked.unit.symm.trans hds, htracing, .inr rfl, rfl, rfl⟩
    | replug => cases hreplug rfl
  · cases key with
    | insert | take | blips => exact .inr ⟨k, h.serial, h.unit, h.tracing, h.lost, h.present, h.failOpens⟩
    | failOpens n => exact .inr ⟨n.toNat, h.serial, h.unit, h.tracing, h.lost, h.present, rfl⟩
    | unplug => exact .inr ⟨k, h.serial, h.unit, h.tracing, .inr rfl, rfl, h.failOpens⟩
    | replug => exact .inr ⟨k, h.serial, h.unit, h.tracing, h.lost, rfl, h.failOpens⟩

/-- Every session of keys and passes ends with a unit that is held or away. -/
theorem attend_minded (hserial : serial < 2 ^ 32) (hunit : unit ≤ 255) (keys : List (Option Key))
    (openError : Option Exc) (horderly : Orderly present keys) :
    Triple (Minded serial unit tracing present) (attend keys openError)
      (fun _ w => ∃ present, Minded serial unit tracing present w) NoRaise := by
  induction keys generalizing present openError with
  | nil => exact Triple.pure fun w hw => ⟨present, hw⟩
  | cons key rest ih =>
    cases key with
    | none => exact (Minded.pass hserial hunit openError).bind fun r => ih r horderly
    | some key =>
      have hnext : (key = .replug → present = false) ∧ Orderly (key.presence present) rest := by
        cases key with
        | replug => exact ⟨fun _ => horderly.1, horderly.2⟩
        | _ => exact ⟨nofun, horderly⟩
      apply Triple.bind (M := fun _ => Minded serial unit tracing (key.presence present))
      · exact triple_ofOutside fun w hw => hw.press key hnext.1
      · exact fun _ => ih openError hnext.2

/-! ## Every session ends -/

theorem settles_tend (openError : Option Exc) (w : World Sim) : Settles (tend openError) w := by
  apply Settles.attempt
  · apply Settles.bind
    · apply (settles_gets _ w).bind
      intro _ _ w' _
      exact (settles_alive w').ite (settles_pure _ w')
    intro _ reached w' _
    apply (settles_pure _ w').ite
    apply (settles_ofOutside w' _).bind
    intro _ here w' _
    exact (settles_openUnit w').when.bind fun _ _ w' _ => settles_pure _ w'
  · intro _ exc w' _
    exact (settles_pure _ w').ite (settles_pure _ w')

theorem settles_keepOpen (passes : Nat) (openError : Option Exc) (w : World Sim) :
    Settles (keepOpen passes openError) w := by
  induction passes generalizing openError w with
  | zero => exact settles_pure _ w
  | succ passes ih =>
    apply (settles_tend openError w).bind
    intro _ r w' _
    exact (settles_ofOutside w' _).bind fun _ _ w' _ => ih r w'

theorem settles_attend (keys : List (Option Key)) (openError : Option Exc) (w : World Sim) :
    Settles (attend keys openError) w := by
  induction keys generalizing openError w with
  | nil => exact settles_pure _ w
  | cons key rest ih =>
    cases key with
    | none => exact (settles_keepOpen 1 openError w).bind fun _ r w' _ => ih r w'
    | some key => exact (settles_ofOutside w _).bind fun _ _ w' _ => ih openError w'

/-! ## What the keeper is for -/

theorem Minded.missing {w : World Sim} (h : Minded serial unit tracing present w) :
    w.io.present = present ∧ ((missing w = 0 ∧ Holds serial unit tracing w) ∨
      ∃ k, missing w = k / 3 ∧ Away serial unit tracing present k w) := by
  rcases h with ⟨rfl, h⟩ | ⟨k, h⟩
  · have hopen : w.ds.isOpen = true := congrArg DiscStakka.isOpen h.ds
    refine ⟨h.opened.2, .inl ⟨?_, h⟩⟩
    rw [StakkaWeb.missing, hopen, h.opened.1]
    rfl
  · refine ⟨h.present, .inr ⟨k, ?_, h⟩⟩
    have hlost : (w.ds.isOpen && w.io.opened) = false := by
      rcases h.lost with hlost | hlost
      · rw [hlost, Bool.false_and]
      · rw [hlost, Bool.and_false]
    rw [StakkaWeb.missing, hlost, h.failOpens]
    rfl

/-- **The keeper gets the unit back.** However the unit was plugged in and out and its opens made to
fail while the keeper worked, once that is over each pass uses up three of the failures left and
records them, and the first one after them leaves the unit opened and identified, with no error; and
while no unit is on the bus, no handle stays open. -/
theorem keeper_recovers (hserial : serial < 2 ^ 32) (hunit : unit ≤ 255) (keys : List (Option Key))
    (openError : Option Exc) (w : World Sim) (hw : Minded serial unit tracing present w)
    (horderly : Orderly present keys) :
    ∃ N openError' w', (∀ n, N ≤ n → attend keys openError n w = (.ok openError', w')) ∧
      ∀ passes, 0 < passes → ∃ M result w'',
        (∀ n, M ≤ n → keepOpen passes openError' n w' = (.ok result, w'')) ∧
        (w'.io.present = false → result = none ∧ w''.ds.isOpen = false) ∧
        (w'.io.present = true → missing w' < passes →
          result = none ∧ Holds serial unit tracing w'') ∧
        (w'.io.present = true → passes ≤ missing w' →
          result = some openFailure ∧ w''.ds.isOpen = false) := by
  obtain ⟨N, openError', w', hrun, present', hminded⟩ := (settles_attend keys openError w).answers
    (attend_minded hserial hunit keys openError horderly) hw
  refine ⟨N, openError', w', hrun, fun passes hpasses => ?_⟩
  have hsettles := settles_keepOpen passes openError' w'
  obtain ⟨rfl, hhere⟩ := hminded.missing
  rcases hhere with ⟨hzero, hheld⟩ | ⟨k, hmissing, haway⟩
  · obtain ⟨M, result, w'', hM, hnone, hheld''⟩ :=
      hsettles.answers (keepOpen_held passes openError') hheld
    refine ⟨M, result, w'', hM, ?_, fun _ _ => ⟨hnone hpasses, hheld''⟩, ?_⟩
    · intro habsent
      rw [hheld.opened.2] at habsent
      cases habsent
    · intro _ hle
      omega
  cases hpresent : w'.io.present with
  | false =>
    rw [hpresent] at haway
    obtain ⟨M, result, w'', hM, hdone, -⟩ :=
      hsettles.answers (keepOpen_absent passes openError') haway
    exact ⟨M, result, w'', hM, fun _ => hdone hpasses, fun h => absurd h (by decide),
      fun h => absurd h (by decide)⟩
  | true =>
    rw [hpresent] at haway
    obtain ⟨M, result, w'', hM, hsought⟩ :=
      hsettles.answers (keepOpen_sought hserial hunit passes openError') haway
    unfold Sought at hsought
    refine ⟨M, result, w'', hM, fun h => absurd h (by decide), fun _ hlt => ?_, fun _ hle => ?_⟩
    · rwa [if_pos (hmissing ▸ hlt)] at hsought
    · rw [if_neg (by omega)] at hsought
      exact hsought.1 hpasses

end Keeper

/-- A unit that is there and closed, as the application finds it. -/
def found : World Sim := World.boot (.new (.new 0 {3, 40} 0x0DECAF01 5) true .none) []

/-- The unit is held, pulled out while its disc is being taken, and put back with its next seven
opens to fail. -/
def pulledOut : List (Option Key) :=
  [none, some .take, some .unplug, none, some .replug, some (.failOpens 7), none]

theorem keeper_recovers_pulledOut :
    ∃ N openError' w', (∀ n, N ≤ n → attend pulledOut none n found = (.ok openError', w')) ∧
      ∀ passes, 0 < passes → ∃ M result w'',
        (∀ n, M ≤ n → keepOpen passes openError' n w' = (.ok result, w'')) ∧
        (w'.io.present = false → result = none ∧ w''.ds.isOpen = false) ∧
        (w'.io.present = true → missing w' < passes →
          result = none ∧ Holds 0x0DECAF01 5 false w'') ∧
        (w'.io.present = true → passes ≤ missing w' →
          result = some openFailure ∧ w''.ds.isOpen = false) :=
  keeper_recovers (by decide) (by decide) pulledOut none found
    (.inr ⟨0, rfl, rfl, rfl, .inl rfl, rfl, rfl⟩) ⟨rfl, trivial⟩

end StakkaWeb
