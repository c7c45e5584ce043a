import StakkaWeb.Laws.Landing

/-!
# Prompts on the clock

What the flows do besides moving and loading: a phase is shown and a hand acts on it, a disc is
waited for and taken, put back when nobody takes it, and a load is watched for ten seconds.
-/

set_option autoImplicit false

namespace StakkaWeb

open Lib Lib.Prog

/-! ## Phases that are shown -/

section Rules

variable {g : Bool} {h : Hands} {K : Nat → Prop} {since : Nat} {s : Stage}

/-- The hands act on a phase that is shown. -/
theorem on_show {P Q : Carousel → Prop} (p : Phase)
    (hQ : ∀ c : Carousel, P c → Q (Sim.feed ((h.shown p).map fun a => (c.now + a.1, a.2)) c))
    {R : Option Exc → World Sim → Prop} :
    Triple (On g h P) (cue p) (fun _ => On g h Q) R := by
  refine triple_cue fun w hw => ?_
  obtain ⟨⟨⟨⟨raw, hlinked⟩, haddress⟩, rfl, hunstirred, htolerable⟩, hcar⟩ := hw
  have hsame := Sim.feed_sameSetup ((w.io.hands.shown p).map fun a => (w.io.car.now + a.1, a.2)) w.io.car
  refine ⟨⟨⟨⟨raw, ?_⟩, haddress⟩, rfl, hunstirred, fun hg => (htolerable hg).congr hsame.blips hsame.rolls⟩,
    hQ _ hcar⟩
  exact ⟨hlinked.isOpen, hlinked.unit.trans hsame.unit.symm, hlinked.streams.opened,
    hlinked.streams.present, hlinked.streams.latched, hlinked.streams.long⟩

theorem on_setPhase {P Q : Carousel → Prop} (p : Phase) (message : String) (window_s : Option Nat)
    (hQ : ∀ c : Carousel, P c → Q (Sim.feed ((h.shown p).map fun a => (c.now + a.1, a.2)) c))
    {R : Option Exc → World Sim → Prop} :
    Triple (On g h P) (setPhase p message window_s) (fun _ => On g h Q) R := by
  refine Triple.bind (M := fun _ => On g h P) ?_ fun deadline =>
    Triple.bind (on_modifyJob _) fun _ => on_show p hQ
  cases window_s with
  | none => exact Triple.pure fun _ => id
  | some window => exact on_clock.bind fun now => Triple.pure fun w hw => hw.imp fun c hc => hc.1

/-- Nobody acts on the phase. -/
theorem on_setPhase_unheeded {P : Carousel → Prop} {p : Phase} (hp : h.shown p = []) (message : String)
    (window_s : Option Nat) {R : Option Exc → World Sim → Prop} :
    Triple (On g h P) (setPhase p message window_s) (fun _ => On g h P) R :=
  on_setPhase p message window_s fun c hc => by
    rw [hp]
    exact hc

/-- A hand that will act at `t`. -/
theorem Carousel.Fits.at_ {c : Carousel} (hc : c.Fits K since s) (hpending : s.pending = []) (t : Nat)
    (a : Hand) : (c.at_ t a.event).Fits K since { s with pending := [(t, a.event)] } := by
  obtain ⟨rfl, hlapses, hsince⟩ := hc
  have hlively : c.lively a.event = true := by cases a <;> rfl
  have hne : a.event ≠ .ackExpired := by cases a <;> nofun
  refine ⟨Stage.ext rfl rfl rfl rfl rfl rfl rfl rfl rfl ?_, hlapses.push t hne, hsince⟩
  refine (pending_push t a.event c).trans ?_
  rw [if_pos hlively, hpending]
  rfl

/-- A hand acts on the prompt: `δ` later, with the unit at rest until then. -/
theorem on_prompt (hpending : s.pending = []) {p : Phase} {δ : Nat} {a : Hand} (hp : h.shown p = [(δ, a)])
    (message : String) (window_s : Option Nat) {R : Option Exc → World Sim → Prop} :
    Triple (On g h (s.Rests K since)) (setPhase p message window_s)
      (fun _ => On g h fun c => ∃ b ≤ c.now,
        c.Fits K since { s with busyUntil := b, pending := [(c.now + δ, a.event)] }) R := by
  refine on_setPhase p message window_s fun c ⟨b, hb, hc⟩ => ?_
  rw [hp]
  exact ⟨b, hb, hc.at_ hpending _ a⟩

/-! ## Waits in which nothing happens -/

/-- A wait at rest, whatever comes of it. -/
theorem waitState_traced {b : Bool} {I : Trace → Prop} (hpending : s.pending = []) (hI : s.Leads b I I)
    (mask want timeoutMs : Nat) :
    Triple (Traced b g h I (s.Rests K since)) (waitState mask want timeoutMs)
      (fun matched => Traced b g h I fun c => s.Rests K since c ∧
        (matched = true → ∃ d, s.Rests K since d ∧ d.status &&& mask = want)) NoRaise := by
  have hpoll : ∀ t c, I t ∧ s.Rests K since c → s.Rests K since (c.wait Firmware.repeatMs) ∧
      I (t.given b (c.wait Firmware.repeatMs).status) ∧ s.Rests K since c.polled := by
    rintro t c ⟨ht, u, hu, hc⟩
    have hread := hc.still hpending Firmware.repeatMs
    refine ⟨⟨u, ?_, hread⟩, hI t _ u hread.stage ht, u, ?_, hc.polled hpending⟩
    · rw [Carousel.wait_now]
      omega
    · rw [Carousel.polled_now]
      omega
  refine traced_starting fun start => Triple.pre (A := Shown b g h fun t c =>
    (I t ∧ s.Rests K since c) ∧ c.now = start) ?_ fun w hw => Shown.imp hw fun t c hc =>
      ⟨⟨hc.1, hc.2.1⟩, hc.2.2⟩
  refine waitState_shown start (fun t c hc hm => ?_) (fun t c hc _ _ => ?_) fun t c hc _ _ => ?_
  · obtain ⟨hread, ht, hpolled⟩ := hpoll t c hc
    exact ⟨ht, hpolled, fun _ => ⟨_, hread, hm⟩⟩
  · obtain ⟨_, ht, hpolled⟩ := hpoll t c hc
    exact ⟨ht, hpolled, nofun⟩
  · exact (hpoll t c hc).2

theorem waitState_rests (hpending : s.pending = []) (mask want timeoutMs : Nat) :
    Triple (On g h (s.Rests K since)) (waitState mask want timeoutMs)
      (fun matched => On g h fun c => s.Rests K since c ∧
        (matched = true → ∃ d, s.Rests K since d ∧ d.status &&& mask = want)) NoRaise :=
  on_of_traced fun b => waitState_traced hpending (s.leads_true b) mask want timeoutMs

theorem waitForInsert_rests (hpending : s.pending = []) (hwaiting : s.waiting = false) (timeoutMs : Nat) :
    Triple (On g h (s.Rests K since)) (waitForInsert timeoutMs)
      (fun seen => On g h fun c => seen = false ∧ s.Rests K since c) NoRaise := by
  refine (waitState_rests hpending _ _ _).post fun seen w hw => hw.imp fun c hc => ⟨?_, hc.1⟩
  refine Bool.eq_false_iff.mpr fun hseen => ?_
  obtain ⟨d, ⟨b, _, hd⟩, hm⟩ := hc.2 hseen
  have hwaits := (congrArg Stage.waiting hd.stage).symm.trans ((Carousel.status_waiting d).mp hm)
  exact absurd (hwaiting.symm.trans hwaits) Bool.noConfusion

theorem waitForTake_rests_traced {b : Bool} {I : Trace → Prop} (hpending : s.pending = [])
    (hbay : s.bay = true) (hI : s.Leads b I I) (timeoutMs : Nat) :
    Triple (Traced b g h I (s.Rests K since)) (waitForTake timeoutMs)
      (fun taken => Traced b g h I fun c => taken = false ∧ s.Rests K since c) NoRaise := by
  refine (waitState_traced hpending hI _ _ _).post fun taken w hw => hw.imp fun c hc => ⟨?_, hc.1⟩
  refine Bool.eq_false_iff.mpr fun htaken => ?_
  obtain ⟨d, ⟨u, _, hd⟩, hm⟩ := hc.2 htaken
  have hempty := (congrArg Stage.bay hd.stage).symm.trans ((Carousel.status_bay d).mp hm)
  exact absurd (hbay.symm.trans hempty) Bool.noConfusion

theorem waitForTake_rests (hpending : s.pending = []) (hbay : s.bay = true) (timeoutMs : Nat) :
    Triple (On g h (s.Rests K since)) (waitForTake timeoutMs)
      (fun taken => On g h fun c => taken = false ∧ s.Rests K since c) NoRaise :=
  on_of_traced fun b => waitForTake_rests_traced hpending hbay (s.leads_true b) timeoutMs

/-! ## A take -/

/-- The disc is out of the bay. -/
def Stage.taken (f : Nat) (s : Stage) : Stage := s.calm.fire f .taken

/-- A wait while a hand is on its way. -/
theorem Carousel.Fits.takes {c : Carousel} {T : Nat} (hc : c.Fits K since s)
    (hpending : s.pending = [(T, .taken)]) (ms : Nat) :
    ((c.wait ms).Fits K since s ∧ c.now + ms < T) ∨
      (T ≤ c.now + ms ∧ (c.wait ms).Fits K since (s.taken (c.now + ms))) := by
  by_cases hdue : T ≤ c.now + ms
  · exact .inr ⟨hdue, hc.fires hpending hdue nofun nofun⟩
  · exact .inl ⟨hc.later hpending (Nat.lt_of_not_le hdue), Nat.lt_of_not_le hdue⟩

/-- The hand has not acted at the turn that starts `k` polls after `P`, or has taken the disc. -/
def Expects (K : Nat → Prop) (since : Nat) (s : Stage) (P T : Nat) (c : Carousel) : Prop :=
  ∃ k, c.now = P + 243 * k ∧
    (c.Fits K since s ∧ c.now ≤ T ∨ ∃ f, T ≤ f ∧ f ≤ c.now ∧ c.Fits K since (s.taken f))

/-- **The wait sees the disc taken**, when it is taken before the last poll. -/
theorem waitForTake_expects {b : Bool} {I J : Trace → Prop} {P T timeoutMs : Nat}
    (hpending : s.pending = [(T, .taken)]) (hbay : s.bay = true)
    (hto : ∀ k, timeoutMs ≤ 243 * (k + 1) → T ≤ P + 243 * k + 143) (hI : s.Leads b I I)
    (hJ : ∀ f, (s.taken f).Leads b I J) :
    Triple (Traced b g h I fun c => Expects K since s P T c ∧ c.now = P) (waitForTake timeoutMs)
      (fun taken => Traced b g h J fun c => taken = true ∧
        ∃ f, T ≤ f ∧ f ≤ c.now ∧ c.Fits K since (s.taken f)) NoRaise := by
  have hrepeat : Firmware.repeatMs = 143 := rfl
  have hpoll : pollMs = 100 := rfl
  have hstill : ∀ f (c : Carousel) ms, c.Fits K since (s.taken f) → (c.wait ms).Fits K since (s.taken f) :=
    fun f c ms hc => hc.still rfl ms
  -- a reading either finds the bay empty, or comes before the take
  have hread : ∀ c, Expects K since s P T c →
      (((c.wait Firmware.repeatMs).Fits K since s ∧ c.now + Firmware.repeatMs < T) ∧
        (c.wait Firmware.repeatMs).discInBay = true) ∨
      ((∃ f, T ≤ f ∧ f ≤ c.now + Firmware.repeatMs ∧
        (c.wait Firmware.repeatMs).Fits K since (s.taken f)) ∧
        (c.wait Firmware.repeatMs).discInBay = false) := by
    rintro c ⟨k, hk, ⟨hc, hnow⟩ | ⟨f, hT, hf, hc⟩⟩
    · rcases hc.takes hpending Firmware.repeatMs with ⟨hc', hlt⟩ | ⟨hle, hc'⟩
      · exact .inl ⟨⟨hc', hlt⟩, (congrArg Stage.bay hc'.stage).trans hbay⟩
      · exact .inr ⟨⟨_, hle, Nat.le_refl _, hc'⟩, congrArg Stage.bay hc'.stage⟩
    · exact .inr ⟨⟨f, hT, Nat.le_add_right_of_le hf, hstill f c _ hc⟩,
        congrArg Stage.bay (hstill f c _ hc).stage⟩
  have hnot : ∀ {c}, Expects K since s P T c → (c.wait Firmware.repeatMs).status &&& stDiscInBay ≠ 0 →
      (c.wait Firmware.repeatMs).Fits K since s ∧ c.now + Firmware.repeatMs < T := fun hc hne =>
    ((hread _ hc).resolve_right fun hr => hne ((Carousel.status_bay _).mpr hr.2)).1
  refine (waitState_shown (S := fun t c => I t ∧ Expects K since s P T c) (Q := fun taken t c => J t ∧
    taken = true ∧ ∃ f, T ≤ f ∧ f ≤ c.now ∧ c.Fits K since (s.taken f)) P (fun t c hc hm => ?_)
    (fun t c hc hne hend => ?_) fun t c hc hne hgo => ?_).pre ?_
  · rcases hread c hc.2 with ⟨_, hyes⟩ | ⟨⟨f, hT, hf, hc'⟩, _⟩
    · rw [Carousel.status_bay, hyes] at hm
      cases hm
    · refine ⟨hJ f t _ _ hc'.stage hc.1, rfl, f, hT, ?_, hstill f _ pollMs hc'.asked⟩
      rw [Carousel.polled_now]
      omega
  · obtain ⟨_, hlt⟩ := hnot hc.2 hne
    obtain ⟨_, k, hk, _⟩ := hc
    rw [Carousel.polled_now] at hend
    have := hto k (by omega)
    omega
  · obtain ⟨hc', hlt⟩ := hnot hc.2 hne
    obtain ⟨ht, k, hk, _⟩ := hc
    have hnow : (c.wait Firmware.repeatMs).asked.now = c.now + Firmware.repeatMs := c.wait_now _
    refine ⟨hI t _ _ hc'.stage ht, k + 1, ?_, ?_⟩
    · rw [Carousel.polled_now]
      omega
    · rw [Carousel.polled_now]
      rcases hc'.asked.takes hpending pollMs with ⟨hc', hlt⟩ | ⟨hle, hc'⟩
      · exact .inl ⟨hc', by omega⟩
      · exact .inr ⟨_, hle, by omega, hc'⟩
  · rintro w ⟨hTidy, htracing, ht, hexpects, hnow⟩
    exact ⟨hTidy, htracing, ⟨ht, hexpects⟩, hnow⟩

theorem waitForTake_traced {b : Bool} {I J : Trace → Prop} {P T timeoutMs : Nat}
    (hpending : s.pending = [(T, .taken)]) (hbay : s.bay = true) (hfrom : P ≤ T)
    (hto : ∀ k, timeoutMs ≤ 243 * (k + 1) → T ≤ P + 243 * k + 143) (hI : s.Leads b I I)
    (hJ : ∀ f, (s.taken f).Leads b I J) :
    Triple (Traced b g h I fun c => c.Fits K since s ∧ c.now = P) (waitForTake timeoutMs)
      (fun taken => Traced b g h J fun c => taken = true ∧
        ∃ f, T ≤ f ∧ f ≤ c.now ∧ c.Fits K since (s.taken f)) NoRaise := by
  refine (waitForTake_expects hpending hbay hto hI hJ).pre fun w hw => hw.imp fun c hc => ?_
  exact ⟨⟨0, by omega, .inl ⟨hc.1, by omega⟩⟩, hc.2⟩

theorem waitForTake_on {P T timeoutMs : Nat} (hpending : s.pending = [(T, .taken)]) (hbay : s.bay = true)
    (hfrom : P ≤ T) (hto : ∀ k, timeoutMs ≤ 243 * (k + 1) → T ≤ P + 243 * k + 143) :
    Triple (On g h fun c => c.Fits K since s ∧ c.now = P) (waitForTake timeoutMs)
      (fun taken => On g h fun c => taken = true ∧ ∃ f, T ≤ f ∧ f ≤ c.now ∧ c.Fits K since (s.taken f))
      NoRaise :=
  on_of_traced fun b => waitForTake_traced hpending hbay hfrom hto (s.leads_true b) fun f =>
    (s.taken f).leads_true b

/-! ## A retract -/

/-- The stage that an accepted `0x05` leaves. -/
def Stage.retracting (now : Nat) (s : Stage) : Stage :=
  (s.workFor now Firmware.retractMs).push (now + Firmware.retractBayMs) .backInSlot

/-- The disc is back in its slot. -/
def Stage.retracted (s : Stage) : Stage :=
  { s with bay := false, occupied := insert s.position s.occupied }

theorem Carousel.Fits.retracting {c : Carousel} (hc : c.Fits K since s) (args : List Nat)
    (rolls : Nat → Nat → Bool) :
    (c.acted cmdRetract args rolls).Fits K since (s.retracting c.now) := by
  obtain ⟨rfl, hlapses, hsince⟩ := hc
  exact ⟨Stage.ext rfl rfl rfl rfl rfl rfl rfl rfl rfl (pending_push _ .backInSlot c),
    hlapses.push _ nofun, hsince⟩

theorem Stage.retracting_ends (hpending : s.pending = []) (hbay : s.bay = true) (now : Nat) :
    (s.retracting now).Ends (now + Firmware.retractBayMs) .backInSlot
      { s.retracted with busyUntil := (s.retracting now).busyUntil } where
  pending := by
    show Agenda.insertLast _ _ s.pending = _
    rw [hpending]
    rfl
  fires _ := by
    simp only [Stage.fire]
    rw [if_pos (show (s.retracting now).calm.bay = true from hbay)]
    exact Stage.ext rfl rfl rfl rfl rfl rfl rfl rfl rfl hpending.symm
  calm := hpending
  alone := nofun
  inTime := by
    show _ ≤ max s.busyUntil (now + 3600)
    have hback : Firmware.retractBayMs = 1800 := rfl
    omega
  busyUntil := rfl

/-- The carousel has accepted `0x05`. -/
def Stage.Retracting (K : Nat → Prop) (since : Nat) (s : Stage) (c : Carousel) : Prop :=
  ∃ b a, b ≤ a ∧ a ≤ c.now ∧ c.Fits K since ({ s with busyUntil := b }.retracting a)

/-- What the attempts of a retract are asked of. -/
theorem retract_attempts (hpending : s.pending = []) (t₀ : Nat) :
    Attempts (fun c => ∃ u, c.Fits K since { s with busyUntil := u }) (s.Retracting K since) cmdRetract []
      t₀ (t₀ + 7015) where
  sendable := sendable_bare (by decide)
  dropped := by decide
  horizon := Nat.le_refl _
  wait := by
    rintro c ms ⟨u, hc⟩ _ _
    have hc' := hc.still hpending ms
    exact ⟨⟨u, hc'⟩, hc'.busyUntil.trans hc.busyUntil.symm⟩
  asked := fun c ⟨u, hc⟩ => ⟨u, hc.asked⟩
  blipped := fun c ⟨u, hc⟩ => ⟨_, hc.blipped _ _⟩
  homed := fun _ _ hcmd => absurd hcmd (by decide)
  acted := by
    rintro c rolls ⟨u, hc⟩ _ hidle _ _
    rw [hc.busyUntil] at hidle
    have hsent := hc.retracting (Sim.padded []) rolls
    have hnow : (c.acted cmdRetract (Sim.padded []) rolls).now = c.now :=
      (Carousel.dispatch_sameClock _ _ _).1
    have hpending' : ({ s with busyUntil := u }.retracting c.now).pending =
        [(c.now + 1800, .backInSlot)] := by
      show Agenda.insertLast _ _ s.pending = _
      rw [hpending]
      rfl
    have hpoll : pollMs = 100 := rfl
    refine ⟨u, c.now, hidle, ?_, hsent.later hpending' ?_⟩ <;>
      (try rw [Carousel.wait_now]) <;> rw [hnow] <;> omega

theorem idleOr_retracting {b : Bool} {I J : Trace → Prop} (hpending : s.pending = [])
    (hbay : s.bay = true) (hI : ∀ a, (s.retracting a).Leads b I I) (hJ : s.retracted.Leads b I J)
    (hJ' : s.retracted.Leads b J J) (msg : String) :
    Triple (Traced b g h I (s.Retracting K since)) (idleOr msg)
      (fun _ => Traced b g h J (s.retracted.Rests K since)) NoRaise := by
  refine Triple.pre (A := fun w => ∃ u a, u ≤ a ∧ Traced b g h I (fun c => a ≤ c.now ∧
    c.Fits K since ({ s with busyUntil := u }.retracting a)) w) ?_ ?_
  · refine Triple.of_exists fun u => Triple.of_exists fun a => Triple.of_fact fun hu => ?_
    have hends := Stage.retracting_ends (s := { s with busyUntil := u }) hpending hbay a
    refine (idleOr_ends_traced K since hends ((hI a).at_ _) (hJ.at_ _) (hJ'.at_ _) msg).conseq
      (fun w hw => hw.imp fun c hc => ?_) (fun _ w hw => hw.imp fun c hc => ⟨_, hc.2, hc.1⟩)
      fun _ _ => id
    refine ⟨.inl hc.2, ?_⟩
    show max u (a + 3600) ≤ _
    omega
  · rintro w ⟨hTidy, htracing, ht, u, a, hu, ha, hc⟩
    exact ⟨u, a, hu, hTidy, htracing, ht, ha, hc⟩

/-- **A retract returns** from rest with a disc in the bay, acknowledged, and the disc is back. -/
theorem retract_traced {b : Bool} {I J : Trace → Prop} (hpending : s.pending = []) (hbay : s.bay = true)
    (hI : s.Leads b I I) (hI' : ∀ a, (s.retracting a).Leads b I I) (hJ : s.retracted.Leads b I J)
    (hJ' : s.retracted.Leads b J J) (progress : Progress) :
    Triple (Traced b true h I (s.Rests K since)) (retract progress)
      (fun acked => Traced b true h J fun c => acked = true ∧ s.retracted.Rests K since c) NoRaise := by
  refine Triple.bind (traced_report progress _) fun _ => ?_
  refine Triple.bind ((waitState_traced hpending hI stBusy 0 nowMs).post fun _ w hw =>
    hw.imp fun c hc => hc.1) fun _ => ?_
  refine Triple.bind (M := fun acked w => acked = true ∧ Traced b true h I (s.Retracting K since) w) ?_
    fun acked => Triple.of_fact fun hacked => ?_
  · refine Triple.attempt ((require_rests (retract_attempts hpending) (by decide) hI).bind fun _ =>
      Triple.pure fun w hw => ⟨rfl, hw⟩)
      (fun e => Triple.pre (A := fun _ => False) (fun _ _ hf => hf.elim) fun _ he => ?_) fun _ _ => rfl
    cases he
  · refine (idleOr_retracting hpending hbay hI' hJ hJ' _).bind fun _ => ?_
    refine (discInBay_traced (s := s.retracted) hpending).bind fun inBay => Triple.pre (A := fun w =>
      inBay = false ∧ Traced b true h J (s.retracted.Rests K since) w) (Triple.of_fact fun hin => ?_)
      fun w hw => ⟨hw.on.2.1, hw.imp fun c hc => hc.2⟩
    subst hin
    refine Triple.bind (M := fun _ => Traced b true h J (s.retracted.Rests K since)) (Triple.pure fun _ => id)
      fun _ => Triple.pure fun w hw => hw.imp fun c hc => ⟨hacked, hc⟩

theorem retract_rests (hpending : s.pending = []) (hbay : s.bay = true) (progress : Progress) :
    Triple (On true h (s.Rests K since)) (retract progress)
      (fun acked => On true h fun c => acked = true ∧ s.retracted.Rests K since c) NoRaise :=
  on_of_traced fun b => retract_traced hpending hbay (s.leads_true b) (fun a => (s.retracting a).leads_true b)
    (s.retracted.leads_true b) (s.retracted.leads_true b) progress

/-! ## The watch -/

/-- **The watch takes its ten seconds**, and nothing that was due is left. It hands its words to the
trace itself. -/
theorem watch_traced {b : Bool} {I : Trace → Prop} (hpending : s.pending = []) (hI : s.Leads true I I)
    (hmark : ∀ t label, I t → I (t.mark label)) :
    Triple (Traced b g h I (s.Rests K since)) watch
      (fun _ => Traced b g h I fun c => s.Rests K since c ∧ since + 10000 ≤ c.now ∧ c.Undue) NoRaise := by
  refine (traced_mark hmark _).bind fun _ => traced_clock.bind fun now => ?_
  refine Triple.pre (A := fun w => since ≤ now ∧
    Traced b g h I (fun c => s.Rests K since c ∧ c.now = now) w) (Triple.of_fact fun hsince => ?_)
    fun w hw => ?_
  · refine Triple.attempt (E := NoRaise) ?_ (fun e => Triple.ite (fun _ => ?_) fun _ =>
      Triple.raise fun w hw => hw) fun _ _ => rfl
    · refine Triple.loop (Traced b g h I fun c => s.Rests K since c ∧ (c.Undue ∨ c.now < now + 10000))
        (fun w hw => hw.imp fun c hc => ⟨hc.1, .inr (by omega)⟩) ?_ fun _ _ => rfl
      refine traced_clock.bind fun t => Triple.ite (fun hlt => ?_) fun hge => Triple.pure fun w hw =>
        hw.imp fun c hc => ?_
      · -- a reading leaves nothing that is due
        refine (status_traced (S := s.Rests K since)).bind (fun st => ?_) |>.pre fun w hw =>
          hw.imp fun c hc => hc.1.1
        refine Triple.bind (M := fun _ => Traced b g h I fun c => s.Rests K since c ∧ c.Undue)
          (triple_modifyTrace fun w hw => ?_) fun _ => Triple.pure fun w hw =>
            hw.imp fun c hc => ⟨hc.1, .inl hc.2⟩
        obtain ⟨c, ⟨u, hu, hc⟩, hst, hTidy, htracing, ht, hcar⟩ := hw
        have htidy : On g h (fun _ => True) { w with trace := w.trace.status st } :=
          On.congr (w := w) ⟨hTidy, trivial⟩ rfl rfl
        refine ⟨htidy.1, htracing, ?_, ?_⟩
        · rw [hst]
          exact hI _ _ u (hc.still hpending Firmware.repeatMs).stage ht
        · show s.Rests K since w.io.car ∧ w.io.car.Undue
          rw [hcar]
          refine ⟨⟨u, ?_, hc.polled hpending⟩, Carousel.wait_undue _ _⟩
          rw [Carousel.polled_now]
          omega
      · obtain ⟨⟨hrests, hlast⟩, ht⟩ := hc
        refine ⟨hrests, by omega, hlast.resolve_right ?_⟩
        omega
    · exact Triple.pre (A := fun _ => False) (fun _ _ hf => hf.elim) fun _ he => nomatch he
  · obtain ⟨⟨u, hu, hc⟩, hnow⟩ := hw.on.2
    exact ⟨hnow ▸ hc.since, hw⟩

theorem watch_rests (hpending : s.pending = []) :
    Triple (On g h (s.Rests K since)) watch
      (fun _ => On g h fun c => s.Rests K since c ∧ since + 10000 ≤ c.now ∧ c.Undue) NoRaise :=
  on_of_traced fun _ => watch_traced hpending (s.leads_true true) fun _ _ _ => trivial

end Rules

end StakkaWeb
