import StakkaWeb.Laws.Kept

/-!
# What escapes

A transport raises `OSError`, which `_read` and `_write` turn into `NotConnected`. Over such a
transport a method of the protocol raises nothing that is not a `DeviceError`, so a flow that
swallows `DeviceError`s is not left through that method at all: neither `park` nor the watch
after a load can raise.
-/

set_option autoImplicit false

namespace StakkaWeb

open Lib Lib.Prog

variable {σ : Type} [Outside σ]

/-- From the states of `J` the world raises nothing but `OSError`, and stays in `J`. -/
structure RaisesOsError (J : σ → Prop) : Prop extends Stable (fun _ _ => True) J where
  phase : ∀ p (s : σ), J s → J (Outside.cue p s)
  read_error : ∀ timeout_ms (s s' : σ) (e : Exc), J s →
    Outside.read 64 timeout_ms s = (.error e, s') → e.isOsError = true
  write_error : ∀ buf (s s' : σ) (e : Exc), J s →
    Outside.write buf s = (.error e, s') → e.isOsError = true

/-- The world is in `J` and the unit's address is a byte. -/
def Tame (J : σ → Prop) (w : World σ) : Prop := J w.io ∧ w.ds.unit ≤ 255

/-- The postcondition of a raise that some `except DeviceError` will catch. -/
def OnlyDeviceErrors (I : World σ → Prop) (e : Option Exc) (w : World σ) : Prop :=
  I w ∧ ∀ exc, e = some exc → exc.isDeviceError = true

variable {J : σ → Prop}

theorem RaisesOsError.kept_tame (h : RaisesOsError J) : Kept (fun _ _ => True) (Tame J) where
  opens w hw := ⟨h.opens w.io hw.1, hw.2⟩
  closes w hw := ⟨h.closes w.io hw.1, hw.2⟩
  read timeout_ms w hw := ⟨h.read timeout_ms w.io hw.1, hw.2⟩
  write unit msgid cmd args w hc hw := ⟨h.write unit msgid cmd args w.io hc hw.1, hw.2⟩
  clock w hw := ⟨h.clock w.io hw.1, hw.2⟩
  sleep ms w hw := ⟨h.sleep ms w.io hw.1, hw.2⟩
  shut _ hw := hw
  note _ _ hw := hw
  trace _ _ hw := hw
  answered _ _ _ _ _ hw := hw
  word _ _ hw := hw

/-- A kept invariant of tame worlds. -/
structure Civil (W : Nat → List Nat → Prop) (J : σ → Prop) (I : World σ → Prop) : Prop
    extends Kept W I where
  tame : ∀ w, I w → Tame J w
  errors : RaisesOsError J
  request : W cmdRequestState []

omit [Outside σ] in
theorem total_report (progress : Progress) (message : String) (n : Nat) (w : World σ) :
    ∃ a w', report progress message n w = (.ok a, w') := by
  cases progress <;> exact ⟨_, _, rfl⟩

omit [Outside σ] in
theorem total_matchState (mask want : Nat) (reply : Option Packet) (n : Nat) (w : World σ) :
    ∃ a w', matchState mask want reply n w = (.ok a, w') := by
  cases reply with
  | none => exact ⟨_, _, rfl⟩
  | some p =>
    unfold matchState
    dsimp only
    split <;> exact ⟨_, _, rfl⟩

namespace Civil

variable {W : Nat → List Nat → Prop} {I : World σ → Prop} (h : Civil W J I)
include h

omit [Outside σ] h in
/-- A `DeviceError` raised on the spot. -/
theorem raise {α : Type} {e : Exc} (he : e.isDeviceError = true) :
    Triple I (Prog.raise e : Py σ α) (fun _ => I) (OnlyDeviceErrors I) :=
  Triple.raise fun _ hw => ⟨hw, fun _ hx => Option.some.inj hx ▸ he⟩

omit [Outside σ] h in
theorem raiseIf {c : Bool} {e : Exc} (he : e.isDeviceError = true) :
    Triple I (Prog.raiseIf c e : Py σ Unit) (fun _ => I) (OnlyDeviceErrors I) :=
  Triple.raiseIf (fun _ hw _ => ⟨hw, fun _ hx => Option.some.inj hx ▸ he⟩) fun _ hw _ => hw

/-- What the transport raises becomes a `NotConnected`. -/
theorem orNotConnected {α : Type} {what : String} {m : Py σ α}
    (hm : Triple I m (fun _ => I) fun e w => I w ∧ ∀ exc, e = some exc → exc.isOsError = true) :
    Triple I (orNotConnected what m) (fun _ => I) (OnlyDeviceErrors I) := by
  refine Triple.attempt hm (fun e => Triple.ite (fun _ => ?_) fun hn => ?_)
    fun _ hw => ⟨hw.1, nofun⟩
  · refine Triple.bind (M := fun _ => I) ?_ fun _ => raise rfl
    exact ((h.close.total fun _ _ => ⟨_, _, rfl⟩)).pre fun _ hw => hw.1
  · exact Triple.raise fun _ hw => absurd (hw.2 e rfl) hn

theorem readCivil (timeout_ms : Nat) :
    Triple I (StakkaWeb.read timeout_ms) (fun _ => I) (OnlyDeviceErrors I) := by
  refine Triple.bind (M := fun _ => I) (Triple.gets fun _ => id) fun _ => ?_
  refine (raiseIf rfl).bind fun _ => (h.orNotConnected (triple_onOutside ?_ ?_)).bind fun raw => ?_
  · intro w a s hw hr
    have := h.read timeout_ms w hw
    rwa [hr] at this
  · intro w e s hw hr
    have := h.read timeout_ms w hw
    rw [hr] at this
    refine ⟨this, fun exc hx => ?_⟩
    cases hx
    exact h.errors.read_error timeout_ms w.io s e (h.tame w hw).1 hr
  · refine Triple.ite (fun _ => Triple.pure fun _ => id) fun _ => ?_
    exact Triple.ite (fun _ => raise rfl) fun _ => Triple.pure fun _ => id

/-- Every byte of a report to a tame world's unit is a byte. -/
theorem writeCivil {msgid cmd : Nat} {args : List Nat} (hw : W cmd args) (hm : msgid ≤ 255)
    (hc : cmd ≤ 255) (ha : ∀ b ∈ args, b ≤ 255) :
    Triple I (StakkaWeb.write msgid cmd args) (fun _ => I) (OnlyDeviceErrors I) := by
  refine Triple.bind (M := fun ds w => ds.unit ≤ 255 ∧ I w)
    (Triple.gets fun w hI => ⟨(h.tame w hI).2, hI⟩) fun ds => Triple.of_fact fun hu => ?_
  have hbytes : ((reportBytes ds.unit msgid cmd args).any fun b => decide (255 < b)) = false := by
    rw [List.any_eq_false]
    intro b hb
    rw [decide_eq_true_eq, Nat.not_lt]
    simp only [reportBytes, List.cons_append, List.nil_append, List.mem_cons, List.mem_append,
      List.mem_replicate] at hb
    rcases hb with rfl | rfl | rfl | rfl | rfl | hb | ⟨_, rfl⟩
    all_goals first | omega | exact ha b hb
  refine (raiseIf rfl).bind fun _ => ?_
  refine Triple.bind (M := fun _ => I) ?_ fun _ => ?_
  · rw [hbytes]
    exact Triple.pure fun _ => id
  refine (h.orNotConnected (triple_onOutside ?_ ?_)).bind fun count => raiseIf rfl
  · intro w a s hI hr
    have := h.write ds.unit msgid cmd args w hw hI
    rwa [hr] at this
  · intro w e s hI hr
    have := h.write ds.unit msgid cmd args w hw hI
    rw [hr] at this
    refine ⟨this, fun exc hx => ?_⟩
    cases hx
    exact h.errors.write_error _ w.io s e (h.tame w hI).1 hr

/-- The commands that may be written, made of bytes. -/
abbrev Bytes (W : Nat → List Nat → Prop) (cmd : Nat) (args : List Nat) : Prop :=
  W cmd args ∧ cmd ≤ 255 ∧ ∀ b ∈ args, b ≤ 255

/-- The steps of a move raise `DeviceError`s at most. -/
theorem moves : MethodRule (Bytes W) I (OnlyDeviceErrors I) := by
  have hlink : LinkRule (Bytes W) I (OnlyDeviceErrors I) :=
    { read := h.readCivil
      write := fun _ _ _ hw hm => h.writeCivil hw.1 hm hw.2.1 hw.2.2
      clock := triple_clock fun w hw => h.clock w hw
      answered := fun p hw => triple_observe fun w hI => h.answered _ _ p w hw.1 hI
      hang := fun _ hI => ⟨hI, nofun⟩
      raises := fun _ _ hI => ⟨hI, fun _ hx => Option.some.inj hx ▸ rfl⟩ }
  have hpoll : PollRule (Bytes W) I (OnlyDeviceErrors I) :=
    { toLinkRule := hlink
      request := ⟨h.request, by decide, nofun⟩
      matchState := fun mask want reply =>
        (h.matchState mask want reply).total (total_matchState mask want reply) }
  exact
    { toPollRule := hpoll
      status := hpoll.status_of_word fun _ => triple_observe fun w => h.word _ w
      report := fun progress message =>
        (h.report progress message).total (total_report progress message)
      caught := fun _ _ hI _ => hI.1 }

/-- **`park` does not raise.** -/
theorem parkCivil (hw : W cmdSetPos [home, 0]) (progress : Progress) :
    Triple I (park progress) (fun _ => I) NoRaise := by
  refine Triple.bind (M := fun _ => I) ((h.report _ _).total (total_report _ _)) fun _ => ?_
  have hmove : Goes I (OnlyDeviceErrors I) (moveTo (σ := σ) home false .none) := by
    refine h.moves.moveTo ?_ ?_ ?_ .none
    · exact fun hne => absurd rfl hne
    · exact ⟨hw, by decide, by decide⟩
    · exact fun hlt => absurd hlt (by decide)
  refine Triple.attempt hmove (fun e => Triple.ite (fun _ => ?_) fun hn => ?_) fun _ _ => rfl
  · exact Triple.pure fun _ hI => hI.1
  · exact Triple.raise fun _ hI => absurd (hI.2 e rfl) hn

/-- **The watch does not raise.** -/
theorem watchCivil : Triple I watch (fun _ => I) NoRaise := by
  have hmark : ∀ label, Triple I (mark label) (fun _ => I) (NoRaise (ε := Exc)) := fun label =>
    triple_modifyTrace fun w => h.trace _ w
  have hclock : ∀ {R}, Goes I R (clock (σ := σ)) := fun {R} => triple_clock fun w hw => h.clock w hw
  refine (hmark _).bind fun _ => hclock.bind fun now => ?_
  refine Triple.attempt (E := OnlyDeviceErrors I) ?_ (fun e => Triple.ite (fun _ => ?_) fun hn => ?_)
    fun _ _ => rfl
  · refine Goes.loop (hclock.bind fun now => Goes.ite ?_ (Goes.pure _)) h.moves.hang
    refine h.moves.status.bind fun st => ?_
    exact Goes.bind (triple_modifyTrace fun w => h.trace _ w) fun _ => Goes.pure _
  · exact (hmark _).pre fun _ hI => hI.1
  · exact Triple.raise fun _ hI => absurd (hI.2 e rfl) hn

end Civil

end StakkaWeb
