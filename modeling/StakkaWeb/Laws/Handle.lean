import StakkaWeb.Operations
import StakkaWeb.Puppet
import StakkaWeb.Tape
import StakkaWeb.Laws.Kept

/-!
# The handle and the connection state

What the client believes of its handle against what the tape says of it. `Kempt`: open in both or
closed in both, no transfer was ever made on a handle that had failed, and none has failed on the
one that is open. `Consistent`: open in both and the serial is known, or closed in both and
nothing is kept of the unit. Between them stands the handshake, in which the handle is open and
the serial may not be known; every way out of it passes a `close`.
-/

set_option autoImplicit false

namespace StakkaWeb

open Lib Lib.Prog

variable {σ : Type} [Outside σ]

/-! ## The tape under the calls -/

section Tape

variable {call : OutsideCall} {s : σ} {tape : List (OutsideCall × σ)}

/-- A call that neither opens nor closes leaves the handle held or not. -/
theorem held_cons (ho : call ≠ .opens) (hc : call ≠ .closes) :
    held ((call, s) :: tape) = held tape := by
  cases call with
  | opens => exact absurd rfl ho
  | closes => exact absurd rfl hc
  | _ => rfl

theorem usable_cons (ho : call ≠ .opens) (hc : call ≠ .closes) :
    usable ((call, s) :: tape) = (!fails (call, s) && usable tape) := by
  cases call with
  | opens => exact absurd rfl ho
  | closes => exact absurd rfl hc
  | _ => rfl

end Tape

/-! ## Reads and writes -/

section Transfers

variable {τ : Type} [Outside τ] {I E : World τ → Prop} {R : Option Exc → World τ → Prop}

/-- What the transport raises is an `OSError`, and the handle is closed, or goes on as it is. -/
theorem transfer_rule {α : Type} {P : World τ → Prop} {Q : α → World τ → Prop} {what : String}
    {f : τ → Except Exc α × τ}
    (hok : ∀ w a, P w → (f w.io).1 = .ok a → Q a { w with io := (f w.io).2 })
    (hos : ∀ w e, P w → (f w.io).1 = .error e → e.isOsError = true → E { w with io := (f w.io).2 })
    (hother : ∀ w e, P w → (f w.io).1 = .error e → e.isOsError = false →
      R (some e) { w with io := (f w.io).2 })
    (hclose : ∀ msg, Triple E close (fun _ => R (some (.notConnected msg))) R) :
    Triple P (orNotConnected what (onOutside f)) Q R := by
  refine Triple.attempt (E := fun e w => ∃ exc, e = some exc ∧
    (exc.isOsError = true → E w) ∧ (exc.isOsError = false → R (some exc) w)) ?_ (fun e => ?_) ?_
  · refine triple_onOutside (fun w a s hw hr => ?_) fun w e s hw hr => ⟨e, rfl, ?_, ?_⟩
    · have h := hok w a hw (congrArg Prod.fst hr)
      rwa [hr] at h
    · have h := hos w e hw (congrArg Prod.fst hr)
      rwa [hr] at h
    · have h := hother w e hw (congrArg Prod.fst hr)
      rwa [hr] at h
  · refine Triple.of_exists fun exc => Triple.of_fact fun hexc => ?_
    cases hexc
    refine Triple.ite (fun hyes => ?_) fun hno => Triple.raise fun w hw => ?_
    · exact Triple.bind ((hclose _).pre fun w hw => hw.1 hyes) fun _ => Triple.raise fun _ => id
    · exact hw.2 (Bool.eq_false_iff.mpr hno)
  · rintro w ⟨_, hexc, _⟩
    cases hexc

/-- `_read` looks whether the handle is open, and refuses a short report. -/
theorem read_rule {timeout_ms : Nat} (hclosed : ∀ msg w, I w → w.ds.isOpen = false →
      R (some (.notConnected msg)) w) (hshort : ∀ msg w, I w → R (some (.deviceError msg)) w)
    (hread : Triple (fun w => I w ∧ w.ds.isOpen = true)
      (orNotConnected "read failed: " (onOutside (Outside.read 64 timeout_ms))) (fun _ => I) R) :
    Goes I R (read timeout_ms) := by
  refine Triple.bind (M := fun b w => b = w.ds.isOpen ∧ I w) (Triple.gets fun w hw => ⟨rfl, hw⟩)
    fun isOpen => ?_
  refine Triple.bind (M := fun _ w => I w ∧ w.ds.isOpen = true)
    (Triple.raiseIf (fun w hw hb => ?_) fun w hw hb => ?_) fun _ => ?_
  · exact hclosed _ w hw.2 (hw.1 ▸ by simpa using hb)
  · exact ⟨hw.2, hw.1 ▸ by simpa using hb⟩
  refine hread.bind fun raw => Goes.ite (Goes.pure _) (Goes.ite ?_ (Goes.pure _))
  exact Triple.raise fun w => hshort _ w

/-- `_write` looks whether the handle is open, and refuses a negative count. -/
theorem write_rule {msgid cmd : Nat} {args : List Nat} (hclosed : ∀ msg w, I w →
      w.ds.isOpen = false → R (some (.notConnected msg)) w)
    (hbyte : ∀ msg w, I w → R (some (.valueError msg)) w)
    (hwrite : ∀ buf, Triple (fun w => I w ∧ w.ds.isOpen = true)
      (orNotConnected "write failed: " (onOutside (Outside.write buf)))
      (fun count w => if count < 0 then R (some (.deviceError "write failed")) w else I w) R) :
    Goes I R (write msgid cmd args) := by
  refine Triple.bind (M := fun ds w => ds.isOpen = w.ds.isOpen ∧ I w)
    (Triple.gets fun w hw => ⟨rfl, hw⟩) fun ds => ?_
  refine Triple.bind (M := fun _ w => I w ∧ w.ds.isOpen = true)
    (Triple.raiseIf (fun w hw hb => ?_) fun w hw hb => ?_) fun _ => ?_
  · exact hclosed _ w hw.2 (hw.1 ▸ by simpa using hb)
  · exact ⟨hw.2, hw.1 ▸ by simpa using hb⟩
  refine Triple.bind (M := fun _ w => I w ∧ w.ds.isOpen = true)
    (Triple.raiseIf (fun w hw _ => hbyte _ w hw.1) fun w hw _ => hw) fun _ => ?_
  refine (hwrite _).bind fun count => Triple.raiseIf (fun w hw hb => ?_) fun w hw hb => ?_
  · rwa [if_pos (of_decide_eq_true hb)] at hw
  · rwa [if_neg (of_decide_eq_false hb)] at hw

end Transfers

/-! ## The client against the tape -/

/-- The client believes its handle open when it is. -/
structure Agreed (w : World (Taped σ)) : Prop where
  careful : Careful w.io.tape
  isOpen : w.ds.isOpen = held w.io.tape

/-- And what it believes open has not failed. -/
structure Kempt (w : World (Taped σ)) : Prop extends Agreed w where
  sound : held w.io.tape = true → usable w.io.tape = true

namespace Kempt

variable {w w' : World (Taped σ)} {call : OutsideCall} {inner : σ}

/-- A step that neither opens nor closes, nor fails, nor touches what the client keeps. -/
theorem step (h : Kempt w) (hio : w'.io = w.io.note call inner) (hds : w'.ds = w.ds)
    (ho : call ≠ .opens) (hc : call ≠ .closes)
    (ht : call.transfers = true → w.ds.isOpen = true) (hf : fails (call, w.io.inner) = false) :
    Kempt w' := by
  have hheld : held w'.io.tape = held w.io.tape := by rw [hio]; exact held_cons ho hc
  refine ⟨⟨?_, ?_⟩, fun hopen => ?_⟩
  · rw [hio]
    exact ⟨fun hx => h.sound (h.isOpen ▸ ht hx), fun hx => absurd hx ho, h.careful⟩
  · rw [hds, hheld]
    exact h.isOpen
  · rw [hio]
    show usable ((call, w.io.inner) :: w.io.tape) = true
    rw [usable_cons ho hc, hf, h.sound (hheld ▸ hopen)]
    rfl

/-- After a transfer that may have failed. -/
theorem transfer (h : Kempt w) (hio : w'.io = w.io.note call inner) (hds : w'.ds = w.ds)
    (ho : call ≠ .opens) (hc : call ≠ .closes) (ht : w.ds.isOpen = true) : Agreed w' := by
  refine ⟨?_, ?_⟩
  · rw [hio]
    exact ⟨fun _ => h.sound (h.isOpen ▸ ht), fun hx => absurd hx ho, h.careful⟩
  · rw [hds, hio]
    exact h.isOpen.trans (held_cons ho hc).symm

/-- What the rest of the world holds plays no part. -/
theorem congr (h : Kempt w) (hio : w'.io = w.io) (hds : w'.ds.isOpen = w.ds.isOpen) : Kempt w' :=
  ⟨⟨hio ▸ h.careful, by rw [hds, hio]; exact h.isOpen⟩, by rw [hio]; exact h.sound⟩

end Kempt

/-- **`close` puts everything right.** -/
theorem close_kempt {R : Option Exc → World (Taped σ) → Prop} :
    Triple (Agreed (σ := σ)) close (fun _ w => Kempt w ∧ w.ds.isOpen = false) R := by
  refine Triple.bind (M := fun _ w => Careful w.io.tape ∧ w.ds.isOpen = false)
    (triple_modifyDs fun w hw => ⟨hw.careful, rfl⟩) fun _ => ?_
  exact triple_ofOutside fun w hw => ⟨⟨⟨⟨nofun, nofun, hw.1⟩, hw.2⟩, nofun⟩, hw.2⟩

/-- A read leaves a handle that has not failed, or none. -/
theorem read_kempt (timeout_ms : Nat) :
    Goes (Kempt (σ := σ)) (fun _ => Kempt) (read timeout_ms) := by
  refine read_rule (fun _ _ hw _ => hw) (fun _ _ hw => hw) (transfer_rule (E := Agreed) ?_ ?_ ?_ ?_)
  · intro w raw hw hr
    refine hw.1.step rfl rfl nofun nofun (fun _ => hw.2) ?_
    simp only [fails]
    rw [show (Outside.read 64 timeout_ms w.io.inner).1 = .ok raw from hr]
  · exact fun w e hw _ _ => hw.1.transfer rfl rfl nofun nofun hw.2
  · intro w e hw hr he
    refine hw.1.step rfl rfl nofun nofun (fun _ => hw.2) ?_
    simp only [fails]
    rw [show (Outside.read 64 timeout_ms w.io.inner).1 = .error e from hr]
    exact he
  · exact fun _ => close_kempt.post fun _ w hw => hw.1

/-- Refusals are not forgotten. -/
theorem refusals_stable (k : Nat) :
    Stable (fun _ _ => True) (fun s : Taped σ => k ≤ s.tape.countP refused) := by
  have hnote : ∀ (call : OutsideCall) (inner : σ) (s : Taped σ), k ≤ s.tape.countP refused →
      k ≤ (s.note call inner).tape.countP refused := fun call inner s hk =>
    Nat.le_trans hk (List.countP_cons .. ▸ Nat.le_add_right _ _)
  exact
    { opens := fun s => hnote _ _ s
      closes := fun s => hnote _ _ s
      read := fun _ s => hnote _ _ s
      write := fun _ _ _ _ s _ => hnote _ _ s
      clock := fun s => hnote _ _ s
      sleep := fun _ s => hnote _ _ s }

/-- A write that is not refused, too. -/
theorem write_kempt (msgid cmd : Nat) (args : List Nat) (k : Nat) :
    Goes (fun w : World (Taped σ) => Kempt w ∧ k ≤ w.io.tape.countP refused)
      (fun e w => e ≠ none ∧ Agreed w ∧ (Kempt w ∨ k < w.io.tape.countP refused))
      (write msgid cmd args) := by
  have hcount : ∀ buf (w : World (Taped σ)), k ≤ w.io.tape.countP refused →
      k ≤ (Outside.write buf w.io).2.tape.countP refused := fun buf w hk =>
    Nat.le_trans hk (List.countP_cons .. ▸ Nat.le_add_right _ _)
  have hgood : ∀ w : World (Taped σ), (Kempt w ∧ k ≤ w.io.tape.countP refused) →
      Agreed w ∧ (Kempt w ∨ k < w.io.tape.countP refused) := fun w hw => ⟨hw.1.toAgreed, .inl hw.1⟩
  refine write_rule (fun _ w hw _ => ⟨nofun, hgood w hw⟩) (fun _ w hw => ⟨nofun, hgood w hw⟩) fun buf =>
    transfer_rule (E := Agreed) ?_ ?_ ?_ ?_
  · intro w count hw hr
    have hr' : (Outside.write buf w.io.inner).1 = .ok count := hr
    split
    next hneg =>
      refine ⟨nofun, hw.1.1.transfer rfl rfl nofun nofun hw.2, .inr ?_⟩
      show k < List.countP refused ((.write buf, w.io.inner) :: w.io.tape)
      rw [List.countP_cons_of_pos (by simp only [refused, hr', decide_eq_true_eq, hneg])]
      exact Nat.lt_succ_of_le hw.1.2
    next hpos =>
      refine ⟨hw.1.1.step rfl rfl nofun nofun (fun _ => hw.2) ?_, hcount buf w hw.1.2⟩
      simp only [fails, hr', decide_eq_false_iff_not, hpos, not_false_eq_true]
  · exact fun w e hw _ _ => hw.1.1.transfer rfl rfl nofun nofun hw.2
  · intro w e hw hr he
    have hr' : (Outside.write buf w.io.inner).1 = .error e := hr
    refine ⟨nofun, hgood _ ⟨hw.1.1.step rfl rfl nofun nofun (fun _ => hw.2) ?_, hcount buf w hw.1.2⟩⟩
    simp only [fails, hr', he]
  · exact fun _ => close_kempt.post fun _ w hw => ⟨nofun, hw.1.toAgreed, .inl hw.1⟩

/-- Kept, or a write has been refused since there were `k` refusals. -/
def Watchful (k : Nat) (w : World (Taped σ)) : Prop :=
  Kempt w ∧ k ≤ w.io.tape.countP refused ∨ k < w.io.tape.countP refused

/-- The steps of the methods keep the handle as long as no write is refused. -/
theorem watchful_moves (k : Nat) :
    MethodRule (fun _ _ => True) (Watchful (σ := σ) k) (fun _ => Watchful k) := by
  have hstable : ∀ k, Kept (σ := Taped σ) (fun _ _ => True) fun w => k ≤ w.io.tape.countP refused :=
    fun k => (refusals_stable k).kept
  -- what leads from a kempt handle to a kempt handle, or to a refusal
  have goes : ∀ {α : Type} {m : Py (Taped σ) α},
      Triple (fun w => Kempt w ∧ k ≤ w.io.tape.countP refused) m (fun _ => Watchful k)
        (fun _ => Watchful k) →
      Keeps (fun w : World (Taped σ) => k < w.io.tape.countP refused) m →
      Goes (Watchful k) (fun _ => Watchful k) m := by
    intro α m hm hk n w hw
    rcases hw with hw | hw
    · exact hm n w hw
    · have hk' : Triple (fun w : World (Taped σ) => k < w.io.tape.countP refused) m
          (fun _ => Watchful k) (fun _ => Watchful k) :=
        hk.conseq (fun _ => id) (fun _ _ => .inr) fun _ _ => .inr
      exact hk' n w hw
  refine .of_link ⟨fun t => ?_, fun msgid cmd args _ _ => ?_, ?_, fun p _ => ?_, fun _ => id, fun _ _ => id⟩
    trivial ?_ fun _ _ hw _ => hw
  · refine goes ?_ ((hstable (k + 1)).keepsRead t)
    exact ((read_kempt t).and ((hstable k).keepsRead t)).conseq (fun _ => id) (fun _ _ => .inl)
      fun _ _ => .inl
  · refine goes ?_ ((hstable (k + 1)).keepsWrite msgid trivial)
    refine ((write_kempt msgid cmd args k).and ((hstable k).keepsWrite msgid trivial)).conseq
      (fun w hw => ⟨hw, hw.2⟩) (fun _ _ hw => .inl hw.1) fun _ w hw => ?_
    rcases hw.1.2.2 with hkempt | hlt
    · exact .inl ⟨hkempt, hw.2⟩
    · exact .inr hlt
  · refine goes (triple_clock fun w hw => .inl ⟨?_, ?_⟩) (hstable (k + 1)).keepsClock
    · exact hw.1.step rfl rfl nofun nofun nofun rfl
    · exact (refusals_stable k).clock w.io hw.2
  · exact triple_observe fun w hw => hw.imp (fun hw => ⟨hw.1.congr rfl rfl, hw.2⟩) id
  · intro w w' hio hds hw
    unfold Watchful
    rw [hio]
    exact hw.imp (fun hw => ⟨hw.1.congr hio (by rw [hds]), hw.2⟩) id

/-! ## Opening -/

/-- Where the handshake may break off: the handle is open, and may have failed. -/
def BrokenOff (e : Option Exc) (w : World (Taped σ)) : Prop := Agreed w ∧ (e = none → Kempt w)

theorem handshake_kempt : Goes (Kempt (σ := σ)) BrokenOff handshake := by
  have hds : ∀ f : DiscStakka → DiscStakka, (∀ ds, (f ds).isOpen = ds.isOpen) →
      Goes (Kempt (σ := σ)) BrokenOff (modifyDs f) := fun f hf =>
    triple_modifyDs fun w hw => hw.congr rfl (hf w.ds)
  have hlink : LinkRule (fun _ _ => True) (Kempt (σ := σ)) BrokenOff :=
    { read := fun t => (read_kempt t).conseq (fun _ => id) (fun _ _ => id)
        fun _ _ hw => ⟨hw.toAgreed, fun _ => hw⟩
      write := fun msgid cmd args _ _ =>
        (write_kempt msgid cmd args 0).conseq (fun _ hw => ⟨hw, Nat.zero_le _⟩) (fun _ _ hw => hw.1)
          fun e _ hw => ⟨hw.2.1, fun he => absurd he hw.1⟩
      clock := triple_clock fun w hw => hw.step rfl rfl nofun nofun nofun rfl
      answered := fun _ _ => triple_observe fun w hw => hw.congr rfl rfl
      hang := fun _ hw => ⟨hw.toAgreed, fun _ => hw⟩
      raises := fun _ _ hw => ⟨hw.toAgreed, nofun⟩ }
  exact hlink.handshake (fun _ _ => trivial) (fun _ => hds _ fun _ => rfl)
    (fun _ => hds _ fun _ => rfl) fun _ => hds _ fun _ => rfl

/-- The handle is closed, in the client's belief and by the tape. -/
def Shut (w : World (Taped σ)) : Prop := Kempt w ∧ w.ds.isOpen = false

theorem openOnce_kempt :
    Triple (Shut (σ := σ)) openOnce (fun failed w => Kempt w ∧ (failed ≠ none → Shut w))
      (fun _ => Kempt) := by
  refine Triple.attempt (E := fun e w => Kempt w ∧ (e ≠ none → Shut w)) ?_ (fun e => ?_) fun w hw => hw.1
  · refine Triple.bind (M := fun _ w => Careful w.io.tape ∧ held w.io.tape = true ∧
      usable w.io.tape = true) (triple_onOutside ?_ ?_) fun _ => ?_
    · intro w a s hw hr
      have hs : s = w.io.note .opens (Outside.opens w.io.inner).2 := (Prod.ext_iff.mp hr).2.symm
      have hok : (Outside.opens w.io.inner).1 = .ok a := (Prod.ext_iff.mp hr).1
      subst hs
      refine ⟨⟨nofun, fun _ => hw.1.isOpen ▸ hw.2, hw.1.careful⟩, ?_, ?_⟩
      · simp only [Taped.note_tape, held, hok]
      · simp only [Taped.note_tape, usable, hok]
    · intro w e s hw hr
      have hs : s = w.io.note .opens (Outside.opens w.io.inner).2 := (Prod.ext_iff.mp hr).2.symm
      have herr : (Outside.opens w.io.inner).1 = .error e := (Prod.ext_iff.mp hr).1
      subst hs
      have hheld : held (w.io.note .opens (Outside.opens w.io.inner).2).tape = false := by
        simp only [Taped.note_tape, held, herr]
        exact hw.1.isOpen ▸ hw.2
      have hshut : Shut { w with io := w.io.note .opens (Outside.opens w.io.inner).2 } :=
        ⟨⟨⟨⟨nofun, fun _ => hw.1.isOpen ▸ hw.2, hw.1.careful⟩, hw.2.trans hheld.symm⟩,
          fun hx => by rw [hheld] at hx; cases hx⟩, hw.2⟩
      exact ⟨hshut.1, fun _ => hshut⟩
    · refine Triple.bind (M := fun _ => Kempt)
        (triple_modifyDs fun w hw => ⟨⟨hw.1, hw.2.1.symm⟩, fun _ => hw.2.2⟩) fun _ => ?_
      refine Triple.attempt (E := BrokenOff) ?_ (fun exc => ?_)
        fun w hw => ⟨hw.2 rfl, fun hne => absurd rfl hne⟩
      · refine Triple.bind (M := fun _ => Kempt) handshake_kempt fun _ => ?_
        exact Triple.pure fun w hw => ⟨hw, fun hne => absurd rfl hne⟩
      · refine Triple.bind (close_kempt.pre fun w hw => hw.1) fun _ => Triple.pure fun w hw => ?_
        exact ⟨hw.1, fun _ => hw⟩
  · refine Triple.ite (fun _ => Triple.pure fun w hw => ?_) fun _ => Triple.raise fun w hw => hw.1
    exact ⟨hw.1, fun _ => hw.2 nofun⟩

theorem openUnit_kempt : Goes (Kempt (σ := σ)) (fun _ => Kempt) openUnit := by
  have hfrom : ∀ left last, Triple (Shut (σ := σ)) (openFrom last left) (fun _ => Kempt)
      (fun _ => Kempt) := by
    intro left
    induction left with
    | zero => exact fun last => Triple.raise fun w hw => hw.1
    | succ left ih =>
      intro last
      refine openOnce_kempt.bind fun failed => ?_
      cases failed with
      | none => exact Triple.pure fun w hw => hw.1
      | some exc =>
        refine Triple.pre (A := Shut) ?_ fun w hw => hw.2 nofun
        refine Triple.bind (M := fun _ => Shut) (Triple.when (fun _ => ?_) fun w hw _ => hw) fun _ => ih _
        exact triple_ofOutside fun w hw => ⟨hw.1.step rfl rfl nofun nofun nofun rfl, hw.2⟩
  refine Triple.bind (M := fun b w => b = w.ds.isOpen ∧ Kempt w) (Triple.gets fun w hw => ⟨rfl, hw⟩)
    fun b => Triple.ite (fun _ => Triple.pure fun w hw => hw.2) fun hb => ?_
  refine (hfrom 3 _).pre fun w hw => ⟨hw.2, hw.1 ▸ Bool.eq_false_iff.mpr hb⟩

/-! ## Whole sequences of calls -/

theorem DeviceCall.opens_kempt {call : DeviceCall} (h : call.opens = true) :
    Goes (Kempt (σ := σ)) (fun _ => Kempt) call.run := by
  have halive : Goes (Kempt (σ := σ)) (fun _ => Kempt) alive := by
    refine Triple.attempt (E := fun _ => Kempt) ((read_kempt 0).bind fun _ => Goes.pure _)
      (fun exc => ?_) fun _ => id
    cases exc with
    | notConnected _ => exact Triple.pure fun _ => id
    | _ => exact Triple.raise fun _ => id
  cases call with
  | tend openError =>
    refine Goes.bind (Triple.attempt (E := fun _ => Kempt) ?_ (fun exc => ?_) fun _ => id) fun _ =>
      Goes.pure _
    · refine Goes.bind (Goes.bind (Triple.gets fun _ => id) fun _ => Goes.ite halive (Goes.pure _))
        fun reached => ?_
      refine Goes.ite (Goes.pure _) ?_
      refine Goes.bind (triple_ofOutside fun w hw => ?_) fun present =>
        (Goes.when openUnit_kempt).bind fun _ => Goes.pure _
      exact hw.step rfl rfl nofun nofun nofun rfl
    · exact Goes.ite (Goes.pure _) (Goes.pure _)
  | method op =>
    cases op with
    | open_ => exact openUnit_kempt
    | reconnect =>
      refine Goes.bind (close_kempt.conseq (fun _ hw => hw.toAgreed) (fun _ _ hw => hw.1)
        (E := fun _ => Kempt) fun _ _ => id) fun _ => openUnit_kempt
    | _ => cases h

/-- Every other call keeps the handle as long as no write of it is refused. -/
theorem DeviceCall.watchful (call : DeviceCall) (k : Nat) (h : call.opens = false) :
    Keeps (Watchful (σ := σ) k) call.run := by
  cases call with
  | tend openError => cases h
  | method op =>
    refine (watchful_moves k).operation (fun _ _ => id) (Keeps.of_run fun n w hw => ?_) op
      fun hopen => absurd hopen (Bool.eq_false_iff.mp h)
    rcases hw with hw | hw
    · refine .inl ⟨(close_kempt (R := fun _ _ => True) n w hw.1.toAgreed).1, ?_⟩
      exact (refusals_stable k).closes w.io hw.2
    · exact .inr ((refusals_stable (k + 1)).closes w.io hw)

/-- In the run of these calls no write comes back with a negative count, but in the handshake of
an open. -/
def Unrefused (n : Nat) : List DeviceCall → World (Taped σ) → Prop
  | [], _ => True
  | call :: rest, w =>
    (call.opens = true ∨
      (call.run n w).2.io.tape.countP refused = w.io.tape.countP refused) ∧
    Unrefused n rest (call.run n w).2

instance Unrefused.decidable (n : Nat) :
    (calls : List DeviceCall) → (w : World (Taped σ)) → Decidable (Unrefused n calls w)
  | [], _ => .isTrue trivial
  | call :: rest, w =>
    have : Decidable (Unrefused n rest (call.run n w).2) := decidable n rest _
    inferInstanceAs (Decidable ((call.opens = true ∨
      (call.run n w).2.io.tape.countP refused = w.io.tape.countP refused) ∧
      Unrefused n rest (call.run n w).2))

theorem DeviceCall.run_kempt {call : DeviceCall} {n : Nat} {w : World (Taped σ)} (hw : Kempt w)
    (h : call.opens = true ∨
      (call.run n w).2.io.tape.countP refused = w.io.tape.countP refused) :
    Kempt (call.run n w).2 := by
  by_cases hopens : call.opens = true
  · exact Keeps.run (DeviceCall.opens_kempt hopens) n hw
  · have hcount := h.resolve_left hopens
    have hkept := (call.watchful (w.io.tape.countP refused) (Bool.eq_false_iff.mpr hopens)).run n
      (.inl ⟨hw, Nat.le_refl _⟩)
    rcases hkept with hkept | hlt
    · exact hkept.1
    · omega

/-- Unless a call hangs, the next ones go on from where it ended. -/
theorem perform_cons (call : DeviceCall) (rest : List DeviceCall) (n : Nat) (w : World σ) :
    (perform (call :: rest) n w).2 =
      if (call.run n w).1 = .hang then (call.run n w).2 else (perform rest n (call.run n w).2).2 := by
  have hrun : perform (call :: rest) n w =
      (Prog.attempt call.run (fun _ => pure ()) >>= fun _ => perform rest) n w := rfl
  rw [hrun, bind_run]
  unfold Prog.attempt
  rcases call.run n w with ⟨_ | e | _, w'⟩
  · rfl
  · rfl
  · rfl

theorem perform_kempt (calls : List DeviceCall) (n : Nat) (w : World (Taped σ)) (hw : Kempt w)
    (h : Unrefused n calls w) : Kempt (perform calls n w).2 := by
  induction calls generalizing w with
  | nil => exact hw
  | cons call rest ih =>
    have hcall : Kempt (call.run n w).2 := DeviceCall.run_kempt hw h.1
    rw [perform_cons]
    split
    · exact hcall
    · exact ih _ hcall h.2

/-- **A handle that failed is never used again**, over any sequence of calls on a new instance,
as long as no write outside the handshake of an open comes back with a negative count. -/
theorem failed_handle_dropped (calls : List DeviceCall) (n : Nat) (w : World (Taped σ))
    (hclosed : w.ds.isOpen = false) (htape : w.io.tape = []) (h : Unrefused n calls w) :
    Kempt (perform calls n w).2 := by
  refine perform_kempt calls n w ⟨⟨?_, ?_⟩, ?_⟩ h
  · rw [htape]; trivial
  · rw [htape]; exact hclosed
  · rw [htape]; nofun

/-- A unit whose writes come back with `count` after the two of the first handshake. -/
def Puppet.counting (count : Int) : World (Taped Puppet) :=
  World.boot (.blank { Puppet.reading (fun _ => .ok [0x01, 0, 0, cmdGetSerial, 0, 0, 0, 1]) 5000 with
    writes := fun k => .ok (if k < 2 then 10 else count) }) []

/-- Three calls that each write to it. -/
def threeCalls : List DeviceCall :=
  [.method .open_, .method (.command cmdRequestState [] ackMs), .method .status]

/-- A unit whose read after the handshake raises. -/
def Puppet.dropping : World (Taped Puppet) :=
  World.boot (.blank (.reading (fun k =>
    if k = 6 then .error (.osError "read error") else .ok [0x01, 0, 0, cmdGetSerial, 0, 0, 0, 1]) 5000)) []

/-- A call on the handle that fails, one without a handle, and one on the handle of another open. -/
def fiveCalls : List DeviceCall :=
  [.method .open_, .method .status, .method .status, .method .open_, .method .status]

/-- Nothing fails in the one run; in the other a transfer fails, and the unit is opened again after
that. -/
theorem failed_handle_dropped_counting :
    Kempt (perform threeCalls 2 (Puppet.counting 10)).2 ∧
      Kempt (perform fiveCalls 4 Puppet.dropping).2 ∧
      (perform fiveCalls 4 Puppet.dropping).2.io.tape.any fails = true ∧
      ((perform fiveCalls 4 Puppet.dropping).2.io.tape.takeWhile (!fails ·)).any
        (fun x => decide (x.1 = .opens)) = true := by
  refine ⟨?_, ?_, by decide +kernel⟩
  · exact failed_handle_dropped threeCalls 2 (Puppet.counting 10) rfl rfl (by decide +kernel)
  · exact failed_handle_dropped fiveCalls 4 Puppet.dropping rfl rfl (by decide +kernel)

/-- A write that comes back with a negative count leaves the handle marked open, and the next
call reads from it. -/
theorem refused_handle_reused :
    let w := (perform threeCalls 2 (Puppet.counting (-1))).2
    w.ds.isOpen = true ∧ held w.io.tape = true ∧ usable w.io.tape = false ∧ ¬ Careful w.io.tape := by
  decide +kernel

end StakkaWeb
