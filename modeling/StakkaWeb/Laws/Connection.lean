import StakkaWeb.Laws.Handle

/-!
# The connection state

`Consistent`: the client is connected, to a handle that was opened and not closed since, and knows
the serial; or it is not connected, the handle is closed, and nothing is kept of the unit. In
between stands the handshake, in which the handle is open and the serial may not be known. Every
way out of it that is not the serial passes a `close`.
-/

set_option autoImplicit false

namespace StakkaWeb

open Lib Lib.Prog

variable {σ : Type} [Outside σ]

/-- The handle is open, as the client believes and by the tape. -/
def Opened (w : World (Taped σ)) : Prop := w.ds.isOpen = true ∧ held w.io.tape = true

def Connected (w : World (Taped σ)) : Prop := Opened w ∧ w.ds.serial ≠ none

def Disconnected (w : World (Taped σ)) : Prop :=
  w.ds.isOpen = false ∧ held w.io.tape = false ∧ w.ds.serial = none ∧ w.ds.firmware = none

def Consistent (w : World (Taped σ)) : Prop := Connected w ∨ Disconnected w

/-- A property of the instance and of whether the handle is held. -/
def OfHandle (I : World (Taped σ) → Prop) : Prop :=
  ∀ w w' : World (Taped σ), w'.ds = w.ds → held w'.io.tape = held w.io.tape → I w → I w'

theorem ofHandle_opened : OfHandle (Opened (σ := σ)) :=
  fun _ _ hds hheld hw => ⟨hds ▸ hw.1, hheld ▸ hw.2⟩

theorem ofHandle_connected : OfHandle (Connected (σ := σ)) :=
  fun w w' hds hheld hw => ⟨ofHandle_opened w w' hds hheld hw.1, hds ▸ hw.2⟩

theorem ofHandle_disconnected : OfHandle (Disconnected (σ := σ)) :=
  fun _ _ hds hheld hw => ⟨hds ▸ hw.1, hheld ▸ hw.2.1, hds ▸ hw.2.2⟩

theorem ofHandle_consistent : OfHandle (Consistent (σ := σ)) := fun w w' hds hheld hw =>
  hw.imp (ofHandle_connected w w' hds hheld) (ofHandle_disconnected w w' hds hheld)

/-- `close` leaves nothing, whatever there was. -/
theorem close_disconnects {P : World (Taped σ) → Prop} {R : Option Exc → World (Taped σ) → Prop} :
    Triple P close (fun _ => Disconnected) R := by
  refine Triple.bind (M := fun _ w => w.ds.isOpen = false ∧ w.ds.serial = none ∧
    w.ds.firmware = none) (triple_modifyDs fun w _ => ⟨rfl, rfl, rfl⟩) fun _ => ?_
  exact triple_ofOutside fun w hw => ⟨hw.1, rfl, hw.2⟩

section Link

variable {I : World (Taped σ) → Prop} {R : Option Exc → World (Taped σ) → Prop}

/-- What a transfer does to the handle: nothing, or it is closed. -/
theorem ofHandle_link (hI : OfHandle I) (hraise : ∀ e w, I w → R e w)
    (hshut : ∀ e w, Disconnected w → R e w) : LinkRule (fun _ _ => True) I R := by
  have hread : ∀ t w, I w → I { w with io := (Outside.read 64 t w.io).2 } := fun t w =>
    hI w _ rfl (held_cons nofun nofun)
  have hwrite : ∀ buf w, I w → I { w with io := (Outside.write buf w.io).2 } := fun buf w =>
    hI w _ rfl (held_cons nofun nofun)
  have hclose : ∀ e, Triple (fun _ : World (Taped σ) => True) close (fun _ => R e) R := fun e =>
    close_disconnects.post fun _ w hw => hshut e w hw
  refine ⟨fun t => ?_, fun msgid cmd args _ _ => ?_, ?_, fun p _ => ?_, hraise none, fun _ => hraise _⟩
  · refine read_rule (fun _ w hw _ => hraise _ w hw) (fun _ w hw => hraise _ w hw)
      (transfer_rule (E := fun _ => True) ?_ ?_ ?_ fun _ => hclose _)
    · exact fun w raw hw _ => hread t w hw.1
    · exact fun w e hw _ _ => trivial
    · exact fun w e hw _ _ => hraise _ _ (hread t w hw.1)
  · refine write_rule (fun _ w hw _ => hraise _ w hw) (fun _ w hw => hraise _ w hw) fun buf =>
      transfer_rule (E := fun _ => True) ?_ ?_ ?_ fun _ => hclose _
    · intro w count hw _
      split
      · exact hraise _ _ (hwrite buf w hw.1)
      · exact hwrite buf w hw.1
    · exact fun w e hw _ _ => trivial
    · exact fun w e hw _ _ => hraise _ _ (hwrite buf w hw.1)
  · exact triple_clock fun w => hI w _ rfl (held_cons nofun nofun)
  · exact triple_observe fun w hw => hI w _ rfl rfl hw

end Link

/-! ## The handshake -/

/-- The handshake comes to an end with the serial known. -/
theorem handshake_connects : Triple (Opened (σ := σ)) handshake (fun _ => Connected) fun _ _ => True := by
  have hlink : ∀ {I : World (Taped σ) → Prop}, OfHandle I →
      LinkRule (fun _ _ => True) I fun _ _ => True := fun hI =>
    ofHandle_link hI (fun _ _ _ => trivial) fun _ _ _ => trivial
  have hopened := hlink (ofHandle_opened (σ := σ))
  have hserial : ∀ serial, Triple (Opened (σ := σ))
      (modifyDs fun ds => { ds with serial := some serial }) (fun _ => Connected)
      fun _ _ => True := fun serial => triple_modifyDs fun w hw => ⟨hw, nofun⟩
  refine Triple.bind hopened.clock fun now => ?_
  refine Triple.bind (M := fun _ => Connected) ?_ fun _ => ?_
  · refine Triple.loop Opened (fun _ => id) ?_ fun _ _ => trivial
    refine Triple.bind hopened.clock fun now =>
      Triple.ite (fun _ => ?_) fun _ => Triple.raise fun _ _ => trivial
    refine Triple.bind (hopened.read pollMs) fun pkt => ?_
    cases pkt with
    | none => exact Triple.pure fun _ => id
    | some pkt =>
      refine Triple.bind (M := fun _ => Opened) (triple_modifyDs fun _ => id) fun _ => ?_
      refine Triple.ite (fun _ => ?_) fun _ => Triple.ite (fun _ => ?_) fun _ => ?_
      · exact Triple.bind (hopened.write _ trivial (by omega)) fun _ => Triple.pure fun _ => id
      · exact (hserial _).bind fun _ => Triple.pure fun _ => id
      · refine Triple.bind (hopened.command trivial ackMs) fun reply => ?_
        cases reply with
        | none => exact Triple.raise fun _ _ => trivial
        | some reply => exact (hserial _).bind fun _ => Triple.pure fun _ => id
  · refine Triple.bind (M := fun _ => Connected) ?_ fun firmware => triple_modifyDs fun _ => id
    exact (hlink ofHandle_connected).readFirmware fun _ _ => trivial

/-! ## Opening -/

/-- What an open raises leaves the handle closed. -/
def OpenFailed (e : Option Exc) (w : World (Taped σ)) : Prop := e = none ∨ Disconnected w

theorem openOnce_connects : Triple (Disconnected (σ := σ)) openOnce
    (fun failed w => if failed = none then Connected w else Disconnected w) OpenFailed := by
  refine Triple.attempt (E := OpenFailed) ?_ (fun e => ?_) fun w _ => .inl rfl
  · refine Triple.bind (M := fun _ w => held w.io.tape = true) (triple_onOutside ?_ ?_) fun _ => ?_
    · intro w a s hw hr
      have hs : s = w.io.note .opens (Outside.opens w.io.inner).2 := (Prod.ext_iff.mp hr).2.symm
      have hok : (Outside.opens w.io.inner).1 = .ok a := (Prod.ext_iff.mp hr).1
      subst hs
      simp only [Taped.note_tape, held, hok]
    · intro w e s hw hr
      have hs : s = w.io.note .opens (Outside.opens w.io.inner).2 := (Prod.ext_iff.mp hr).2.symm
      have herr : (Outside.opens w.io.inner).1 = .error e := (Prod.ext_iff.mp hr).1
      subst hs
      refine .inr (ofHandle_disconnected w _ rfl ?_ hw)
      simp only [Taped.note_tape, held, herr]
    refine Triple.bind (M := fun _ => Opened) (triple_modifyDs fun w hw => ⟨rfl, hw⟩) fun _ => ?_
    refine Triple.attempt (E := fun _ _ => True) ?_ (fun exc => ?_) fun w _ => .inl rfl
    · refine handshake_connects.bind fun _ => Triple.pure fun w hw => ?_
      rwa [if_pos rfl]
    · refine close_disconnects.bind fun _ => Triple.pure fun w hw => ?_
      rwa [if_neg (Option.some_ne_none exc)]
  · refine Triple.ite (fun _ => Triple.pure fun w hw => ?_) fun _ => Triple.raise fun w => id
    rw [if_neg (Option.some_ne_none e)]
    exact hw.resolve_left (Option.some_ne_none e)

/-- **`open` returns only when connected**, and leaves the handle closed when it raises. -/
theorem openUnit_connects : Triple (Consistent (σ := σ)) openUnit (fun _ => Connected) OpenFailed := by
  have hfrom : ∀ left last, Triple (Disconnected (σ := σ)) (openFrom last left) (fun _ => Connected)
      OpenFailed := by
    intro left
    induction left with
    | zero => exact fun last => Triple.raise fun w hw => .inr hw
    | succ left ih =>
      intro last
      refine openOnce_connects.bind fun failed => ?_
      cases failed with
      | none => exact Triple.pure fun w hw => by rwa [if_pos rfl] at hw
      | some exc =>
        refine Triple.pre (A := Disconnected) ?_ fun w hw => by rwa [if_neg nofun] at hw
        refine Triple.bind (M := fun _ => Disconnected) (Triple.when (fun _ => ?_) fun w hw _ => hw)
          fun _ => ih _
        exact triple_ofOutside fun w => ofHandle_disconnected w _ rfl (held_cons nofun nofun)
  refine Triple.bind (M := fun b w => b = w.ds.isOpen ∧ Consistent w)
    (Triple.gets fun w hw => ⟨rfl, hw⟩) fun b => Triple.ite (fun hb => ?_) fun hb => ?_
  · refine Triple.pure fun w hw => hw.2.resolve_right fun hshut => ?_
    exact absurd (hw.1.symm.trans hb) (by rw [hshut.1]; decide)
  · refine (hfrom 3 _).pre fun w hw => hw.2.resolve_left fun hconn => ?_
    exact hb (hw.1.trans hconn.1.1)

/-! ## The other calls -/

/-- A call may end any way but in a state that is not consistent. -/
def EndsConsistent (e : Option Exc) (w : World (Taped σ)) : Prop := e = none ∨ Consistent w

theorem consistent_moves : MethodRule (fun _ _ => True) (Consistent (σ := σ)) EndsConsistent := by
  refine .of_link ?_ trivial ?_ ?_
  · exact ofHandle_link ofHandle_consistent (fun _ _ => .inr) fun _ _ hw => .inr (.inr hw)
  · exact fun w w' hio hds => ofHandle_consistent w w' hds (by rw [hio])
  · exact fun e w hw _ => hw.resolve_left nofun

theorem openUnit_consistent : Goes (Consistent (σ := σ)) EndsConsistent openUnit :=
  openUnit_connects.conseq (fun _ => id) (fun _ _ => .inl) fun _ _ hw => hw.imp id .inr

theorem reached_consistent : Goes (Consistent (σ := σ)) EndsConsistent reached :=
  Goes.bind (Triple.gets fun _ => id) fun _ => Goes.ite consistent_moves.alive (Goes.pure _)

theorem tend_consistent (openError : Option Exc) :
    Goes (Consistent (σ := σ)) EndsConsistent (tend openError) := by
  refine Triple.attempt (E := EndsConsistent) ?_ (fun exc => ?_) fun _ => id
  · refine Goes.bind reached_consistent fun reached => Goes.ite (Goes.pure _) ?_
    refine Goes.bind (triple_ofOutside fun w => ofHandle_consistent w _ rfl (held_cons nofun nofun))
      fun present => (Goes.when openUnit_consistent).bind fun _ => Goes.pure _
  · refine Triple.pre (A := Consistent) ?_ fun w hw => hw.resolve_left nofun
    exact Goes.ite (Goes.pure _) (Goes.pure _)

theorem DeviceCall.run_consistent (call : DeviceCall) : Goes (Consistent (σ := σ)) EndsConsistent call.run := by
  have hclose : Goes (Consistent (σ := σ)) EndsConsistent close := close_disconnects.post fun _ _ => .inr
  cases call with
  | tend openError => exact Goes.ignoring (tend_consistent openError)
  | method op =>
    refine consistent_moves.operation (fun _ _ => .inr) hclose op fun hopen => ?_
    cases op with
    | open_ => exact openUnit_consistent
    | reconnect => exact hclose.bind fun _ => openUnit_consistent
    | _ => cases hopen

theorem perform_consistent (calls : List DeviceCall) : Goes (Consistent (σ := σ)) NoRaise (perform calls) := by
  induction calls with
  | nil => exact Goes.pure ()
  | cons call rest ih =>
    refine Goes.bind (Triple.attempt call.run_consistent (fun e => ?_) fun _ _ => rfl) fun _ => ih
    exact Triple.pure fun w hw => hw.resolve_left nofun

/-! ## What a pass of the keeper records -/

/-- What opening and reading raise is an `OSError`. -/
class OnlyOsErrors (σ : Type) [Outside σ] : Prop where
  opens : ∀ (s : σ) (e : Exc), (Outside.opens s).1 = .error e → e.isOsError = true
  read : ∀ size timeout_ms (s : σ) (e : Exc),
    (Outside.read size timeout_ms s).1 = .error e → e.isOsError = true

/-- The last call since `start` asked whether a unit is there, and none was. -/
def FoundNone (start : List (OutsideCall × σ)) : List (OutsideCall × σ) → Prop
  | (.isPresent, s) :: before => start <:+ before ∧ (Outside.isPresent s).1 = false
  | _ => False

/-- What a pass may raise: a `DeviceError`, which it records. -/
def KeeperRecords (e : Option Exc) (_ : World (Taped σ)) : Prop :=
  ∀ exc, e = some exc → exc.isDeviceError = true

section Keeper

variable [OnlyOsErrors σ]

/-- The handle was alive, or it is closed. -/
theorem alive_connected : Triple (Connected (σ := σ)) alive
    (fun b w => b = true → Connected w) KeeperRecords := by
  have hread : Goes (Connected (σ := σ)) KeeperRecords (read 0) := by
    have hheld : ∀ s : Taped σ, held (Outside.read 64 0 s).2.tape = held s.tape := fun s =>
      held_cons nofun nofun
    have hsame : ∀ w, Connected w → Connected { w with io := (Outside.read 64 0 w.io).2 } := fun w =>
      ofHandle_connected w _ rfl (hheld w.io)
    refine read_rule (fun msg _ _ _ exc he => Option.some.inj he ▸ rfl)
      (fun msg _ _ exc he => Option.some.inj he ▸ rfl)
      (transfer_rule (E := fun _ => True) (fun w raw hw _ => hsame w hw.1) (fun _ _ _ _ _ => trivial)
        (fun w e hw hr hno => ?_) fun msg => ?_)
    · exact absurd (OnlyOsErrors.read 64 0 w.io.inner e hr) (Bool.eq_false_iff.mp hno)
    · exact close_disconnects.post fun _ _ _ exc he => Option.some.inj he ▸ rfl
  refine Triple.attempt (E := KeeperRecords) ?_ (fun exc => ?_) fun _ => id
  · exact Triple.bind hread fun _ => Triple.pure fun w hw _ => hw
  · cases exc with
    | notConnected msg => exact Triple.pure fun _ _ => nofun
    | _ => exact Triple.raise fun _ => id

theorem reached_connected : Triple (Consistent (σ := σ)) reached
    (fun b w => b = true → Connected w) KeeperRecords := by
  refine Triple.bind (M := fun b w => b = w.ds.isOpen ∧ Consistent w)
    (Triple.gets fun w hw => ⟨rfl, hw⟩) fun b => Triple.ite (fun hb => ?_) fun _ => ?_
  · refine alive_connected.pre fun w hw => hw.2.resolve_right fun hshut => ?_
    exact absurd (hw.1.symm.trans hb) (by rw [hshut.1]; decide)
  · exact Triple.pure fun _ _ => nofun

/-- `open` raises nothing that the keeper does not record. -/
theorem openUnit_recorded :
    Triple (fun _ : World (Taped σ) => True) openUnit (fun _ _ => True) KeeperRecords := by
  have honce : Triple (fun _ : World (Taped σ) => True) openOnce (fun _ _ => True) KeeperRecords := by
    refine Triple.attempt (E := fun e _ => ∀ exc, e = some exc → exc.isOsError = true) ?_
      (fun exc => ?_) fun _ _ => nofun
    · refine Triple.bind (M := fun _ _ => True) (triple_onOutside (fun _ _ _ _ _ => trivial) ?_)
        fun _ => ?_
      · intro w e s _ hr exc he
        cases he
        exact OnlyOsErrors.opens w.io.inner e (congrArg Prod.fst hr)
      refine Triple.bind (M := fun _ _ => True) (triple_modifyDs fun _ => id) fun _ => ?_
      refine Triple.attempt Triple.any (fun exc => ?_) fun _ _ => nofun
      exact close_disconnects.bind fun _ => Triple.pure fun _ _ => trivial
    · refine Triple.ite (fun _ => Triple.pure fun _ _ => trivial) fun hno => Triple.raise fun _ hw => ?_
      exact absurd (hw exc rfl) hno
  have hfrom : ∀ left last, Triple (fun _ : World (Taped σ) => True) (openFrom last left)
      (fun _ _ => True) KeeperRecords := by
    intro left
    induction left with
    | zero => exact fun last => Triple.raise fun _ _ exc he => Option.some.inj he ▸ rfl
    | succ left ih =>
      intro last
      refine honce.bind fun failed => ?_
      cases failed with
      | none => exact Triple.pure fun _ _ => trivial
      | some exc =>
        exact Goes.bind (Goes.when (triple_ofOutside fun _ _ => trivial)) fun _ => ih _
  refine Goes.bind (Triple.gets fun _ => id) fun isOpen => Goes.ite (Goes.pure _) (hfrom 3 _)

omit [OnlyOsErrors σ] in
/-- The tape only grows. -/
theorem suffix_stable (start : List (OutsideCall × σ)) :
    Stable (fun _ _ => True) (fun s : Taped σ => start <:+ s.tape) := by
  have hnote : ∀ (call : OutsideCall) (inner : σ) (s : Taped σ), start <:+ s.tape →
      start <:+ (s.note call inner).tape := fun call inner s h => h.trans (List.suffix_cons _ _)
  exact
    { opens := fun s => hnote _ _ s
      closes := fun s => hnote _ _ s
      read := fun _ s => hnote _ _ s
      write := fun _ _ _ _ s _ => hnote _ _ s
      clock := fun s => hnote _ _ s
      sleep := fun _ s => hnote _ _ s }

/-- **A pass that records no error leaves the handle connected**, or found no unit. -/
theorem tend_connects (start : List (OutsideCall × σ)) (openError : Option Exc) :
    Triple (fun w => Consistent w ∧ start <:+ w.io.tape) (tend openError)
      (fun result w => result = none → Connected w ∨ FoundNone start w.io.tape) fun _ _ => True := by
  refine Triple.attempt (E := KeeperRecords) ?_ (fun exc => ?_) fun _ _ => trivial
  · have hgrows : Keeps (fun w : World (Taped σ) => start <:+ w.io.tape) reached :=
      Goes.bind (Triple.gets fun _ => id) fun _ =>
        Goes.ite ((suffix_stable start).kept.methods trivial).alive (Goes.pure _)
    have hreached : Triple (fun w => Consistent w ∧ start <:+ w.io.tape) (reached (σ := Taped σ))
        (fun b w => (b = true → Connected w) ∧ Consistent w ∧ start <:+ w.io.tape) KeeperRecords :=
      ((reached_connected.and reached_consistent).and hgrows).conseq
        (fun _ hw => ⟨⟨hw.1, hw.1⟩, hw.2⟩) (fun _ _ hw => ⟨hw.1.1, hw.1.2, hw.2⟩) fun _ _ hw => hw.1.1
    have hopen : Triple Consistent (openUnit (σ := Taped σ)) (fun _ => Connected) KeeperRecords :=
      (openUnit_connects.and openUnit_recorded).conseq (fun _ hw => ⟨hw, trivial⟩)
        (fun _ _ hw => hw.1) fun _ _ hw => hw.2
    refine hreached.bind fun b => Triple.ite (fun hb => ?_) fun _ => ?_
    · exact Triple.pure fun w hw _ => .inl (hw.1 hb)
    refine Triple.bind
      (M := fun present w => Consistent w ∧ (present = false → FoundNone start w.io.tape))
      (triple_ofOutside fun w hw => ⟨?_, fun hno => ⟨hw.2.2, hno⟩⟩) fun present => ?_
    · exact ofHandle_consistent w _ rfl (held_cons nofun nofun) hw.2.1
    refine Triple.bind (M := fun _ w => Connected w ∨ FoundNone start w.io.tape)
      (Triple.when (fun _ => ?_) fun w hw hno => .inr (hw.2 hno)) fun _ => ?_
    · exact hopen.conseq (fun _ hw => hw.1) (fun _ _ => .inl) fun _ _ => id
    · exact Triple.pure fun w hw _ => hw
  · refine Triple.ite (fun _ => Triple.pure fun _ _ => nofun) fun hno => Triple.pure fun _ hw => ?_
    exact absurd (hw exc rfl) hno

/-- **The connection state is consistent after every call**: whatever was called before, and however
the last call ended. From there `open` returns only when connected, and a pass of the keeper
that records no error leaves the handle connected, or found no unit. -/
theorem connection_consistent (calls : List DeviceCall) (n : Nat) (w w' : World (Taped σ))
    (hw : Consistent w) (hr : perform calls n w = (.ok (), w')) :
    Consistent w' ∧
      (∀ k w'', openUnit k w' = (.ok (), w'') → Connected w'') ∧
      ∀ openError k w'', tend openError k w' = (.ok none, w'') →
        Connected w'' ∨ FoundNone w'.io.tape w''.io.tape := by
  have hw' : Consistent w' := (perform_consistent calls).of_ok hw hr
  refine ⟨hw', fun k w'' hopen => ?_, fun openError k w'' htend => ?_⟩
  · exact openUnit_connects.of_ok hw' hopen
  · exact (tend_connects w'.io.tape openError).of_ok ⟨hw', List.suffix_refl _⟩ htend rfl

end Keeper

/-- A unit that is on the bus or not, and takes five seconds over the one packet it sends. -/
structure Repeater where
  present : Bool
  packet : List Nat
  now : Nat

instance : Outside Repeater where
  opens r := (if r.present then .ok () else .error (.osError "no Disc Stakka on the bus"), r)
  closes := id
  isPresent r := (r.present, r)
  read _ _ r := (if r.present then .ok r.packet else .error (.osError "unit vanished"),
    { r with now := r.now + 5000 })
  write buf r := (if r.present then .ok buf.length else .error (.osError "unit vanished"), r)
  clock r := (r.now, r)
  sleep ms r := { r with now := r.now + ms }
  cue _ := id

instance : OnlyOsErrors Repeater where
  opens r e h := by
    cases hp : r.present <;> simp only [Outside.opens, hp] at h <;> cases h
    rfl
  read _ _ r e h := by
    cases hp : r.present <;> simp only [Outside.read, hp] at h <;> cases h
    rfl

/-- Nothing has been called on it. -/
def Repeater.boot (present : Bool) : World (Taped Repeater) :=
  World.boot (.blank ⟨present, [0x01, 0, 0, cmdGetSerial, 0, 0, 0, 1], 0⟩) []

/-- A pass of the keeper, a reading, and the handle closed. -/
def aPass : List DeviceCall := [.tend none, .method .status, .method .close]

theorem connection_consistent_boot : Consistent (perform aPass 5 (Repeater.boot true)).2 := by
  have hok : (perform aPass 5 (Repeater.boot true)).1 = .ok () := by decide +kernel
  have hrun : ∀ o : Outcome Exc Unit × World (Taped Repeater), o.1 = .ok () → o = (.ok (), o.2) :=
    fun _ h => Prod.ext h rfl
  exact (connection_consistent aPass 5 (Repeater.boot true) _ (.inr ⟨rfl, rfl, rfl, rfl⟩)
    (hrun _ hok)).1

end StakkaWeb
