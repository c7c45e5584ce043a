import StakkaWeb.Laws.Clockwork
import StakkaWeb.Lib.Twin

/-!
# What is not due is not seen

A hand that will take a disc is an entry on the agenda of the carousel, and until it is due nothing
the client does comes out otherwise for it: the two runs, with the entry and without, go together
until the clock reaches it. What the timed laws say of a unit with nothing pending they so say of one
that a hand is on its way to.
-/

set_option autoImplicit false

namespace StakkaWeb

open Lib Lib.Prog

/-! ## The carousel -/

namespace Carousel

variable {x : Nat × CarouselEvent} {c d : Carousel}

/-- `d` is `c` with one entry more on its agenda. -/
def Adds (x : Nat × CarouselEvent) (c d : Carousel) : Prop :=
  ∃ a, c.events.Adds x a ∧ d = { c with events := a }

theorem adds_fire (e : CarouselEvent) (h : Adds x c d) : Adds x (c.fire e) (d.fire e) := by
  obtain ⟨a, ha, rfl⟩ := h
  cases e with
  | discArrives => exact ⟨_, ha.push _ .discDrawnOff, rfl⟩
  | discDrawnOff => exact ⟨_, ha.push _ .ackExpired, rfl⟩
  | ackExpired =>
    simp only [fire]
    split_ifs
    · exact ⟨a, ha, rfl⟩
    · exact ⟨a, ha, rfl⟩
  | arrived target presenting => cases presenting <;> exact ⟨a, ha, rfl⟩
  | backInSlot =>
    simp only [fire]
    split_ifs
    · exact ⟨_, ha.push _ .settled, rfl⟩
    · exact ⟨a, ha, rfl⟩
  | taken => exact ⟨a, ha, rfl⟩
  | settled => exact ⟨a, ha, rfl⟩
  | stored slot => exact ⟨a, ha, rfl⟩

theorem adds_runDue (h : Adds x c d) (hlate : c.now < x.1) : Adds x c.runDue d.runDue := by
  apply Driven.runDue_adds (Adds x) _ _ h hlate
  · rintro c _ ⟨a, ha, rfl⟩
    exact ⟨rfl, ha⟩
  · rintro c _ e ⟨a, _, rfl⟩ hpops
    exact adds_fire e ⟨a.pop, hpops, rfl⟩

theorem adds_wait (h : Adds x c d) {ms : Nat} (hlate : c.now + ms < x.1) :
    Adds x (c.wait ms) (d.wait ms) := by
  obtain ⟨a, ha, rfl⟩ := h
  exact adds_runDue (c := { c with now := c.now + ms }) ⟨a, ha, rfl⟩ hlate

theorem adds_dispatch (cmd : Nat) (args : List Nat) (h : Adds x c d) :
    (c.dispatch cmd args).1 = (d.dispatch cmd args).1 ∧
      Adds x (c.dispatch cmd args).2 (d.dispatch cmd args).2 := by
  obtain ⟨a, ha, rfl⟩ := h
  unfold dispatch
  split_ifs
  · exact ⟨rfl, a, ha, rfl⟩
  · exact ⟨rfl, a, ha, rfl⟩
  · exact ⟨rfl, _, ha.push _ (.arrived _ _), rfl⟩
  · exact ⟨rfl, _, ha.push _ .backInSlot, rfl⟩
  · exact ⟨rfl, a, ha, rfl⟩
  · exact ⟨rfl, a, ha, rfl⟩
  · exact ⟨rfl, a, ha, rfl⟩
  · exact ⟨rfl, a, ha, rfl⟩
  · unfold cmd1d
    dsimp only
    split_ifs
    · exact ⟨rfl, a, ha, rfl⟩
    · exact ⟨rfl, _, ha.push _ (.stored _), rfl⟩
  · exact ⟨rfl, a, ha, rfl⟩

theorem adds_hear (cmd : Nat) (args : List Nat) (h : Adds x c d) :
    (c.hear cmd args).1 = (d.hear cmd args).1 ∧ Adds x (c.hear cmd args).2 (d.hear cmd args).2 := by
  obtain ⟨a, ha, rfl⟩ := h
  unfold hear
  dsimp only
  split_ifs
  · exact ⟨rfl, a, ha, rfl⟩
  · obtain ⟨hreply, hadds⟩ := adds_dispatch cmd args (c := { c with log := c.log ++ [(cmd, args)] })
      ⟨a, ha, rfl⟩
    exact ⟨congrArg some hreply, hadds⟩

theorem adds_handle (cmd : Nat) (args : List Nat) (h : Adds x c d) (hlate : c.now < x.1) :
    (c.handle cmd args).1 = (d.handle cmd args).1 ∧
      Adds x (c.handle cmd args).2 (d.handle cmd args).2 := by
  have hdue := adds_runDue h hlate
  unfold handle serve
  generalize c.runDue = c', d.runDue = d' at hdue
  obtain ⟨a, ha, rfl⟩ := hdue
  have hbusy : ({ c' with events := a } : Carousel).busy = c'.busy := rfl
  dsimp only
  rw [hbusy]
  split_ifs
  · exact ⟨rfl, a, ha, rfl⟩
  · exact ⟨rfl, a, ha, rfl⟩
  · exact adds_hear cmd args ⟨a, ha, rfl⟩
  · exact adds_hear cmd args ⟨a, ha, rfl⟩

end Carousel

/-! ## The transport -/

namespace Sim

variable {x : Nat × CarouselEvent} {s t : Sim}

/-- `t` is `s` with one entry more on the agenda, and no hand acts between the calls. -/
def Adds (x : Nat × CarouselEvent) (s t : Sim) : Prop :=
  s.Unstirred ∧ ∃ a, s.car.events.Adds x a ∧ t = { s with car := { s.car with events := a } }

theorem Unstirred.stir_eq (h : s.Unstirred) : s.stir = { s with calls := s.calls + 1 } := by
  unfold stir
  rw [h s.calls]
  rfl

theorem Adds.stir (h : Adds x s t) : Adds x s.stir t.stir := by
  obtain ⟨hunstirred, a, ha, rfl⟩ := h
  have hagain : Unstirred { s with car := { s.car with events := a } } := hunstirred
  rw [hunstirred.stir_eq, hagain.stir_eq]
  exact ⟨hunstirred, a, ha, rfl⟩

theorem Adds.tick (h : Adds x s t) {ms : Nat} (hlate : (t.tick ms).car.now < x.1) :
    Adds x (s.tick ms) (t.tick ms) := by
  obtain ⟨hunstirred, a, ha, rfl⟩ := h
  rw [tick_now] at hlate
  obtain ⟨b, hb, hcar⟩ := Carousel.adds_wait (c := s.car) ⟨a, ha, rfl⟩ hlate
  refine ⟨hunstirred, b, hb, ?_⟩
  show { s with car := Carousel.wait ms _ } = _
  rw [hcar]
  rfl

theorem Adds.read (h : Adds x s t) {timeoutMs : Nat} (hlate : (t.read timeoutMs).2.car.now < x.1) :
    (s.read timeoutMs).1 = (t.read timeoutMs).1 ∧ Adds x (s.read timeoutMs).2 (t.read timeoutMs).2 := by
  have hstir := h.stir
  unfold Sim.read at hlate ⊢
  generalize s.stir = s', t.stir = t' at hstir hlate
  have hopened : t'.opened = s'.opened := by
    obtain ⟨_, a, _, rfl⟩ := hstir
    rfl
  dsimp only at hlate ⊢
  rw [hopened] at hlate ⊢
  by_cases hopen : (!s'.opened) = true
  · rw [if_pos hopen, if_pos hopen]
    exact ⟨rfl, hstir⟩
  · rw [if_neg hopen] at hlate
    rw [if_neg hopen, if_neg hopen]
    have hadds : Adds x (s'.tick (min timeoutMs Firmware.repeatMs))
        (t'.tick (min timeoutMs Firmware.repeatMs)) := by
      refine hstir.tick ?_
      revert hlate
      repeat' split
      all_goals exact id
    generalize s'.tick (min timeoutMs Firmware.repeatMs) = s₁,
      t'.tick (min timeoutMs Firmware.repeatMs) = t₁ at hadds
    obtain ⟨hunstirred, a, ha, rfl⟩ := hadds
    obtain ⟨car, present, opened, failOpens, latched, msgid, hands, calls, prompts⟩ := s₁
    dsimp only
    split_ifs
    · exact ⟨rfl, hunstirred, a, ha, rfl⟩
    · cases latched <;> exact ⟨rfl, hunstirred, a, ha, rfl⟩

theorem Adds.deliver (h : Adds x s t) (hlate : s.car.now < x.1) (msgid cmd : Nat) (args : List Nat) :
    Adds x (s.deliver msgid cmd args) (t.deliver msgid cmd args) := by
  obtain ⟨hunstirred, a, ha, rfl⟩ := h
  obtain ⟨hreply, b, hb, hcar⟩ := Carousel.adds_handle cmd args (c := s.car) ⟨a, ha, rfl⟩ hlate
  unfold Sim.deliver
  rcases hs : s.car.handle cmd args with ⟨_ | reply, c⟩ <;>
    rcases ht : ({ s.car with events := a } : Carousel).handle cmd args with ⟨_ | reply', d⟩ <;>
    rw [hs, ht] at hreply hcar <;> cases hreply <;> rw [hs] at hb <;> obtain rfl := hcar
  · exact ⟨hunstirred, b, hb, rfl⟩
  · exact ⟨hunstirred, b, hb, rfl⟩

theorem Adds.write (h : Adds x s t) (buf : List Nat) (hlate : s.car.now < x.1) :
    (s.write buf).1 = (t.write buf).1 ∧ Adds x (s.write buf).2 (t.write buf).2 := by
  have hstir := h.stir
  rw [← stir_now] at hlate
  unfold Sim.write
  generalize s.stir = s', t.stir = t' at hstir hlate
  have hdeliver := hstir.deliver hlate (buf.getD 3 0) (buf.getD 4 0) ((buf.drop 5).take 5)
  obtain ⟨hunstirred, a, ha, rfl⟩ := hstir
  dsimp only at hdeliver ⊢
  split_ifs
  · exact ⟨rfl, hunstirred, a, ha, rfl⟩
  · exact ⟨rfl, hunstirred, a, ha, rfl⟩
  · exact ⟨rfl, hunstirred, a, ha, rfl⟩
  · exact ⟨rfl, hdeliver⟩

end Sim

/-! ## The methods -/

/-- `v` is `w` with one entry more on the agenda. -/
def Adds (x : Nat × CarouselEvent) (w v : World Sim) : Prop :=
  ∃ io, w.io.Adds x io ∧ v = { w with io := io }

/-- The clock has come to `t`. -/
def Past (t : Nat) (w : World Sim) : Prop := t ≤ w.io.car.now

section Methods

variable {x : Nat × CarouselEvent}

/-- The two runs of `m` go together until the entry is due. -/
abbrev Unseen (x : Nat × CarouselEvent) {α : Type} (m : Py Sim α) : Prop := Follows (Adds x) (Past x.1) m

theorem unseen_modify {f : World Sim → World Sim} (hf : ∀ w, (f w).io = w.io)
    (hio : ∀ w io, f { w with io := io } = { f w with io := io }) : Unseen x (Prog.modify f) := by
  apply Follows.modify
  · intro w hw
    show x.1 ≤ (f w).io.car.now
    rw [hf]
    exact hw
  · rintro w _ ⟨io, hadds, rfl⟩
    exact ⟨io, (hf w).symm ▸ hadds, hio w io⟩

theorem unseen_outside {α : Type} {f : Sim → Except Exc α × Sim}
    (hlater : ∀ s, s.car.now ≤ (f s).2.car.now)
    (hf : ∀ s t, s.Adds x t → (f t).2.car.now < x.1 → (f s).1 = (f t).1 ∧ (f s).2.Adds x (f t).2) :
    Unseen x (onOutside f) := by
  apply Follows.call
  · exact fun w hw => Nat.le_trans hw (hlater w.io)
  · rintro w _ ⟨io, hadds, rfl⟩ hlate
    obtain ⟨hanswer, hadds'⟩ := hf w.io io hadds (Nat.lt_of_not_le hlate)
    exact ⟨hanswer, _, hadds', rfl⟩

theorem unseen_quiet {α : Type} {f : Sim → α × Sim} (hnow : ∀ s, (f s).2.car.now = s.car.now)
    (hf : ∀ s t, s.Adds x t → (f s).1 = (f t).1 ∧ (f s).2.Adds x (f t).2) : Unseen x (ofOutside f) := by
  apply Follows.call
  · intro w hw
    exact Nat.le_trans hw (Nat.le_of_eq (hnow w.io).symm)
  · rintro w _ ⟨io, hadds, rfl⟩ _
    obtain ⟨hanswer, hadds'⟩ := hf w.io io hadds
    exact ⟨congrArg Except.ok hanswer, _, hadds', rfl⟩

theorem unseen_clock : Unseen x (clock (σ := Sim)) := by
  apply unseen_quiet
  · exact fun _ => rfl
  · rintro s _ ⟨hunstirred, a, ha, rfl⟩
    exact ⟨rfl, hunstirred, a, ha, rfl⟩

theorem unseen_close : Unseen x (close (σ := Sim)) := by
  apply Follows.bind
  · exact unseen_modify (fun _ => rfl) fun _ _ => rfl
  · intro _
    apply unseen_quiet
    · exact fun _ => rfl
    · rintro s _ ⟨hunstirred, a, ha, rfl⟩
      exact ⟨rfl, hunstirred, a, ha, rfl⟩

theorem unseen_orNotConnected {α : Type} (what : String) {m : Py Sim α} (hm : Unseen x m) :
    Unseen x (orNotConnected what m) :=
  hm.attempt fun e => Follows.ite (unseen_close.bind fun _ => Follows.raise _) (Follows.raise e)

theorem unseen_ds {α : Type} (f : DiscStakka → α) : Unseen x (Prog.gets fun w => f w.ds) := by
  apply Follows.gets
  rintro w _ ⟨_, _, rfl⟩
  rfl

theorem unseen_read (timeoutMs : Nat) : Unseen x (read (σ := Sim) timeoutMs) := by
  refine (unseen_ds _).bind fun _ => (Follows.raiseIf _ _).bind fun _ => ?_
  refine (unseen_orNotConnected _ ?_).bind fun raw => ?_
  · exact unseen_outside (Sim.read_now timeoutMs) fun _ _ hadds hlate => hadds.read hlate
  · exact Follows.ite (Follows.pure _) (Follows.ite (Follows.raise _) (Follows.pure _))

theorem unseen_write (msgid cmd : Nat) (args : List Nat) : Unseen x (write (σ := Sim) msgid cmd args) := by
  refine (unseen_ds id).bind fun ds => (Follows.raiseIf _ _).bind fun _ => ?_
  refine (Follows.raiseIf _ _).bind fun _ => (unseen_orNotConnected _ ?_).bind fun _ => Follows.raiseIf _ _
  apply unseen_outside
  · exact fun s => Nat.le_of_eq (Sim.write_now _ s).symm
  · intro s t hadds hlate
    have hnow : (Outside.write (reportBytes ds.unit msgid cmd args) t).2.car.now = s.car.now := by
      obtain ⟨_, _, _, rfl⟩ := hadds
      exact Sim.write_now _ _
    exact hadds.write _ (hnow ▸ hlate)

theorem unseen_observe (o : Obs) : Unseen x (observe (σ := Sim) o) :=
  unseen_modify (fun _ => rfl) fun _ _ => rfl

theorem unseen_report (progress : Progress) (message : String) :
    Unseen x (report (σ := Sim) progress message) := by
  cases progress with
  | none => exact Follows.pure ()
  | note => exact unseen_modify (fun _ => rfl) fun _ _ => rfl

theorem unseen_command (cmd : Nat) (args : List Nat) (timeoutMs : Nat) :
    Unseen x (command (σ := Sim) cmd args timeoutMs) := by
  refine (unseen_read _).bind fun seed => ?_
  cases seed with
  | none => exact Follows.raise _
  | some seed =>
    refine (unseen_write _ _ _).bind fun _ => unseen_clock.bind fun now => Follows.loop ?_
    refine unseen_clock.bind fun now => Follows.ite ?_ (Follows.pure _)
    refine (unseen_read _).bind fun reply => ?_
    cases reply with
    | none => exact Follows.pure _
    | some p => exact Follows.ite ((unseen_observe _).bind fun _ => Follows.pure _) (Follows.pure _)

theorem unseen_matchState (mask want : Nat) (reply : Option Packet) :
    Unseen x (matchState (σ := Sim) mask want reply) := by
  cases reply with
  | none => exact Follows.pure _
  | some p =>
    refine Follows.ite ((unseen_observe _).bind fun _ => ?_) (Follows.pure _)
    refine Follows.bind ?_ fun _ => Follows.pure _
    apply unseen_modify
    · intro w
      split <;> rfl
    · intro w io
      dsimp only
      split <;> rfl

theorem unseen_waitState (mask want timeoutMs : Nat) :
    Unseen x (waitState (σ := Sim) mask want timeoutMs) := by
  refine unseen_clock.bind fun now => Follows.loop ?_
  refine (unseen_command _ _ _).bind fun reply => (unseen_matchState _ _ _).bind fun matched => ?_
  exact Follows.ite (Follows.pure _) (unseen_clock.bind fun now => Follows.pure _)

theorem unseen_requireFrom (cmd : Nat) (args : List Nat) (tries left : Nat) :
    Unseen x (requireFrom (σ := Sim) cmd args tries left) := by
  induction left with
  | zero => exact Follows.raise _
  | succ left ih =>
    refine (unseen_command _ _ _).bind fun reply => ?_
    cases reply with
    | some p => exact Follows.pure p
    | none =>
      refine Follows.bind (Follows.when ?_) fun _ => ih
      exact (unseen_waitState _ _ _).bind fun _ => Follows.pure _

theorem unseen_require (cmd : Nat) (args : List Nat) : Unseen x (require (σ := Sim) cmd args) :=
  unseen_requireFrom cmd args 3 3

theorem unseen_status : Unseen x (status (σ := Sim)) :=
  (unseen_require _ _).bind fun _ => (unseen_observe _).bind fun _ => Follows.pure _

theorem unseen_idleOr (msg : String) : Unseen x (idleOr (σ := Sim) msg) :=
  (unseen_waitState _ _ _).bind fun _ => Follows.raiseIf _ _

theorem unseen_refuse : Unseen x (refuseWithADiscOut (σ := Sim)) := by
  refine Follows.bind (unseen_status.bind fun _ => Follows.pure _) fun inBay => ?_
  exact Follows.raiseIf _ _

theorem unseen_ensureHomed (progress : Progress) : Unseen x (ensureHomed (σ := Sim) progress) := by
  refine unseen_status.bind fun st => Follows.ite (Follows.pure _) ?_
  refine (unseen_idleOr _).bind fun _ => (unseen_report _ _).bind fun _ => ?_
  refine (unseen_require _ _).bind fun _ => (unseen_idleOr _).bind fun _ => ?_
  exact unseen_status.bind fun _ => Follows.raiseIf _ _

/-- **A move does not see what is not due.** -/
theorem unseen_moveTo (slot : Nat) (eject : Bool) (progress : Progress) :
    Unseen x (moveTo (σ := Sim) slot eject progress) := by
  refine (Follows.raiseIf _ _).bind fun _ => (unseen_idleOr _).bind fun _ => ?_
  refine unseen_refuse.bind fun _ => (Follows.when (unseen_ensureHomed _)).bind fun _ => ?_
  exact (unseen_require _ _).bind fun _ => unseen_idleOr _

end Methods

end StakkaWeb
