import StakkaWeb.Laws.Settles
import StakkaWeb.Laws.Undecoded

/-!
# Methods on tape

A method runs on a tape as it runs without one, so what is known of its runs holds of the runs on
tape, and the tape adds which calls it made and in which states.
-/

set_option autoImplicit false

namespace StakkaWeb

open Lib Lib.Prog

variable {σ : Type} [Outside σ]

/-- A world with a blank tape. -/
def World.taping (w : World σ) : World (Taped σ) :=
  ⟨.blank w.io, w.ds, w.job, w.trace, w.conn, w.obs⟩

/-- The taped world does what the world on it does. -/
theorem taped_twins : Twins fun (s : σ) (t : Taped σ) => s = t.inner where
  opens _ _ h := h ▸ ⟨rfl, rfl⟩
  closes _ _ h := h ▸ rfl
  isPresent _ _ h := h ▸ ⟨rfl, rfl⟩
  read size timeout_ms s t h := by
    subst h
    refine ⟨?_, rfl⟩
    show Paired.Results AlikeReports (Outside.read size timeout_ms t.inner).1
      (Outside.read size timeout_ms t.inner).1
    cases (Outside.read size timeout_ms t.inner).1 with
    | ok raw => exact .inl rfl
    | error e => exact rfl
  write _ _ _ h := h ▸ ⟨rfl, rfl⟩
  clock _ _ h := h ▸ ⟨rfl, rfl⟩
  sleep _ _ _ h := h ▸ rfl
  cue _ _ _ h := h ▸ rfl

/-- A world without a tape, and the same world on tape. -/
abbrev OnTapeOf (w : World σ) (w' : World (Taped σ)) : Prop :=
  Matched (fun s t => s = t.inner) w w'

omit [Outside σ] in
theorem onTapeOf_taping (w : World σ) : OnTapeOf w w.taping := ⟨rfl, rfl, rfl, rfl, rfl⟩

/-- `P`, of the world without the tape. -/
def Untaped (P : World σ → Prop) (w' : World (Taped σ)) : Prop := ∃ w, OnTapeOf w w' ∧ P w

omit [Outside σ] in
/-- **A triple is one on tape.** -/
theorem triple_taped {α : Type} {m : Py σ α} {m' : Py (Taped σ) α} {P : World σ → Prop}
    {Q : α → World σ → Prop} {R : Option Exc → World σ → Prop}
    (hm : Paired OnTapeOf Eq m m') (h : Triple P m Q R) :
    Triple (Untaped P) m' (fun a => Untaped (Q a)) (fun e => Untaped (R e)) :=
  (hm.triple h).post fun _ _ ⟨_, w, ha, hw⟩ => ⟨w, hw.1, ha ▸ hw.2⟩

omit [Outside σ] in
/-- What is said of the outside world alone. -/
theorem untaped_io {J : σ → Prop} {w' : World (Taped σ)} (h : Untaped (fun w => J w.io) w') :
    J w'.io.inner := by
  obtain ⟨w, hw, hJ⟩ := h
  exact hw.outside ▸ hJ

/-- Time passes on tape as it passes without. -/
instance [Paced σ] : Paced (Taped σ) where
  slack s := Paced.slack s.inner
  opens s := Paced.opens s.inner
  closes s := Paced.closes s.inner
  read size timeout_ms s := Paced.read size timeout_ms s.inner
  read_later size timeout_ms s s' raw ht hr := by
    refine Paced.read_later size timeout_ms s.inner s'.inner raw ht ?_
    obtain ⟨hraw, rfl⟩ := Prod.ext_iff.mp hr
    exact Prod.ext hraw rfl
  write buf s := Paced.write buf s.inner
  clock s := Paced.clock s.inner
  sleep ms s := Paced.sleep ms s.inner
  cue p s := Paced.cue p s.inner

/-! ## The run under the tape -/

section Bare

/-- The world without its tape. -/
def World.bare (w : World (Taped σ)) : World σ := ⟨w.io.inner, w.ds, w.job, w.trace, w.conn, w.obs⟩

/-- The second world is the first, on tape. -/
def Under (w : World σ) (w' : World (Taped σ)) : Prop := w = w'.bare

omit [Outside σ] in
theorem under_modify {f : World σ → World σ} {f' : World (Taped σ) → World (Taped σ)}
    (h : ∀ w', f w'.bare = (f' w').bare) :
    Paired Under Eq (Prog.modify f : Py σ Unit) (Prog.modify f') := by
  refine Paired.modify fun w w' hw => ?_
  subst hw
  exact h w'

omit [Outside σ] in
theorem under_onOutside {α : Type} {f : σ → Except Exc α × σ}
    {f' : Taped σ → Except Exc α × Taped σ}
    (h : ∀ s, (f' s).1 = (f s.inner).1 ∧ (f' s).2.inner = (f s.inner).2) :
    Paired Under Eq (onOutside f) (onOutside f') := by
  refine Paired.call fun w w' hw => ?_
  subst hw
  obtain ⟨hres, hinner⟩ := h w'.io
  constructor
  · show Paired.Results Eq (f w'.io.inner).1 (f' w'.io).1
    rw [hres]
    cases (f w'.io.inner).1 <;> exact rfl
  · show ({ w'.bare with io := (f w'.io.inner).2 } : World σ) =
      ⟨(f' w'.io).2.inner, w'.ds, w'.job, w'.trace, w'.conn, w'.obs⟩
    rw [hinner]
    rfl

theorem under_close : Paired Under Eq (close (σ := σ)) close := by
  refine (under_modify fun _ => rfl).seq fun _ => Paired.call fun w w' hw => ?_
  subst hw
  exact ⟨rfl, rfl⟩

theorem under_orNotConnected {α : Type} {m : Py σ α} {m' : Py (Taped σ) α}
    (hm : Paired Under Eq m m') (what : String) :
    Paired Under Eq (orNotConnected what m) (orNotConnected what m') :=
  hm.attempt fun _ => Paired.ite (under_close.seq fun _ => Paired.raise _) (Paired.raise _)

theorem under_write (msgid cmd : Nat) (args : List Nat) :
    Paired Under Eq (write (σ := σ) msgid cmd args) (write msgid cmd args) := by
  refine Paired.seq (Paired.gets fun w w' hw => congrArg World.ds hw) fun ds => ?_
  refine (Paired.raiseIf _ _).seq fun _ => (Paired.raiseIf _ _).seq fun _ => ?_
  exact (under_orNotConnected (under_onOutside fun _ => ⟨rfl, rfl⟩) _).seq fun _ =>
    Paired.raiseIf _ _

theorem under_read (timeout_ms : Nat) :
    Paired Under Eq (read (σ := σ) timeout_ms) (read timeout_ms) := by
  refine Paired.seq (Paired.gets fun w w' hw => congrArg (fun w => w.ds.isOpen) hw) fun _ =>
    (Paired.raiseIf _ _).seq fun _ => ?_
  refine (under_orNotConnected (under_onOutside fun _ => ⟨rfl, rfl⟩) _).seq fun raw => ?_
  exact Paired.ite (Paired.pure rfl) (Paired.ite (Paired.raise _) (Paired.pure rfl))

/-- **A command runs as it does without the tape.** -/
theorem under_link : LinkTwin (σ := σ) Eq Under where
  msgid _ _ h := congrArg Packet.msgid h
  read timeout_ms := (under_read timeout_ms).conseq fun a b h => by
    subst h
    cases a with
    | none => exact .none
    | some p => exact .some rfl
  write := under_write
  clock := Paired.call fun w w' hw => by
    subst hw
    exact ⟨rfl, rfl⟩
  answered cmd p q h := by
    subst h
    exact under_modify fun _ => rfl

theorem under_openUnit : Paired Under Eq (openUnit (σ := σ)) openUnit := by
  have hds (f : DiscStakka → DiscStakka) : Paired Under Eq (modifyDs (σ := σ) f) (modifyDs f) :=
    under_modify fun _ => rfl
  have hshake := under_link.handshake hds
  have hattempt : Paired Under Eq (openOnce (σ := σ)) openOnce := by
    refine Paired.attempt ?_ fun e => Paired.ite (Paired.pure rfl) (Paired.raise _)
    refine (under_onOutside fun _ => ⟨rfl, rfl⟩).seq fun _ => (hds _).seq fun _ => ?_
    refine Paired.attempt (hshake.seq fun _ => Paired.pure rfl) fun e => ?_
    exact under_close.seq fun _ => Paired.pure rfl
  have hfrom (left : Nat) : ∀ last,
      Paired Under Eq (openFrom (σ := σ) last left) (openFrom last left) := by
    induction left with
    | zero => exact fun _ => Paired.raise _
    | succ left ih =>
      intro last
      refine hattempt.seq fun failed => ?_
      cases failed with
      | none => exact Paired.pure rfl
      | some exc =>
        refine Paired.seq (Paired.when ?_) fun _ => ih exc.text
        refine Paired.call fun w w' hw => ?_
        subst hw
        exact ⟨rfl, rfl⟩
  refine Paired.seq (Paired.gets fun w w' hw => congrArg (fun w => w.ds.isOpen) hw) fun isOpen => ?_
  exact Paired.ite (Paired.pure rfl) (hfrom 3 _)

end Bare

/-! ## What is not on the tape -/

/-- No call on the tape is as `B` says. -/
def Clear (B : OutsideCall × σ → Prop) (s : Taped σ) : Prop := ∀ x ∈ s.tape, ¬ B x

variable {B : OutsideCall × σ → Prop}

omit [Outside σ] in
theorem Clear.note {s : Taped σ} (h : Clear B s) {call : OutsideCall} (hcall : ¬ B (call, s.inner))
    (inner : σ) : Clear B (s.note call inner) := by
  intro x hx
  rcases List.mem_cons.mp hx with rfl | hx
  · exact hcall
  · exact h x hx

/-- When `B` is about writes, the tape stays clear but for these. -/
theorem clear_kept {W : Nat → List Nat → Prop} (hB : ∀ x, B x → ∃ buf, x.1 = .write buf)
    (hW : ∀ {cmd args}, W cmd args → ∀ unit msgid s,
      ¬ B (.write (reportBytes unit msgid cmd args), s)) :
    Kept W fun w : World (Taped σ) => Clear B w.io := by
  have hnote : ∀ (s : Taped σ) (call : OutsideCall), (∀ buf, call ≠ .write buf) → Clear B s →
      ∀ inner, Clear B (s.note call inner) := fun s call hcall h inner =>
    h.note (fun hb => (hB _ hb).elim hcall) inner
  exact Stable.kept {
    opens := fun s h => hnote s .opens nofun h _
    closes := fun s h => hnote s .closes nofun h _
    read := fun timeout_ms s h => hnote s (.read 64 timeout_ms) nofun h _
    write := fun unit msgid cmd args s hw h => h.note (hW hw unit msgid s.inner) _
    clock := fun s h => hnote s .clock nofun h _
    sleep := fun ms s h => hnote s (.sleep ms) nofun h _ }

end StakkaWeb
