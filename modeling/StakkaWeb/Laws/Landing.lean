import StakkaWeb.Laws.Moves

/-!
# The load handshake on the clock

From the moment at which a disc is fed in, the firmware goes through its own stages: it shows
`DISC_WAITING` for a second and a half, draws the disc off, and offers `NEW_DISC_ACK` for ten
seconds after it has settled. The laws below place the polls and sends of `wait_for_insert` and
`ingest` among these stages, for every alignment and every pattern of drops that spares one send in
three.
-/

set_option autoImplicit false

namespace StakkaWeb

open Lib Lib.Prog

/-! ## The stages of a load -/

namespace Stage

/-- The disc is at the aperture, from `f` on. -/
def inserted (f : Nat) (s : Stage) : Stage := s.calm.fire f .discArrives

/-- It is drawn off at `u`. -/
def drawn (f u : Nat) (s : Stage) : Stage := (s.inserted f).calm.fire u .discDrawnOff

/-- It is accepted at `now`. -/
def tookIn (now : Nat) (s : Stage) : Stage :=
  ({ s with
      ack := false
      ingested := s.position :: s.ingested
      pending := s.pending.filter fun x => decide (x.2 ≠ CarouselEvent.ackExpired) }.workFor now
    Firmware.ingestMs).push (now + Firmware.ingestMs) (.stored s.position)

/-- It is stored. -/
def landed (s : Stage) : Stage :=
  { s with
    waiting := false
    ack := false
    occupied := insert s.position s.occupied
    ingested := s.position :: s.ingested
    pending := [] }

theorem inserted_busyUntil (f : Nat) (s : Stage) :
    (s.inserted f).busyUntil = max s.busyUntil (f + 1500) := rfl

theorem drawn_busyUntil (f u : Nat) (s : Stage) :
    (s.drawn f u).busyUntil = max (max s.busyUntil (f + 1500)) (u + 1800) := rfl

theorem inserted_pending (f : Nat) (s : Stage) :
    (s.inserted f).pending = [(f + 1500, .discDrawnOff)] := rfl

theorem drawn_pending (f u : Nat) (s : Stage) :
    (s.drawn f u).pending = [(u + 1800 + 10000, .ackExpired)] := rfl

end Stage

namespace Carousel

variable {c : Carousel} {K : Nat → Prop} {since ms : Nat} {s : Stage}

/-- No `_ack_expired` is on the agenda. -/
abbrev Never (_ : Nat) : Prop := False

theorem Fits.later (h : c.Fits K since s) {t : Nat} {e : CarouselEvent}
    (hpending : s.pending = [(t, e)]) (hlater : c.now + ms < t) : (c.wait ms).Fits K since s := by
  refine h.calm fun x hx => ?_
  rw [hpending] at hx
  obtain rfl := List.mem_singleton.mp hx
  exact hlater

theorem Fits.tookIn (h : c.Fits K since s) (hack : s.ack = true) (args : List Nat)
    (rolls : Nat → Nat → Bool) :
    (c.acted cmdAcceptDisc args rolls).Fits K since (s.tookIn c.now) := by
  obtain ⟨rfl, hlapses, hsince⟩ := h
  have hoffered : c.newDiscAck = true := hack
  have hacted : c.acted cmdAcceptDisc args rolls =
      ({ c with rolls := rolls, log := c.log ++ [(cmdAcceptDisc, args)], newDiscAck := false,
                ingested := c.position :: c.ingested }.workFor Firmware.ingestMs true).after
        Firmware.ingestMs (.stored c.position) := by
    show (cmd1d { c with rolls := rolls, log := c.log ++ [(cmdAcceptDisc, args)] }).2 = _
    unfold cmd1d
    rw [if_neg (by rw [show ({ c with rolls := rolls, log := c.log ++ [(cmdAcceptDisc, args)] } :
      Carousel).newDiscAck = true from hoffered]; decide)]
    rfl
  rw [hacted]
  refine ⟨Stage.ext rfl rfl rfl rfl rfl rfl rfl rfl rfl ?_, hlapses.push _ nofun, hsince⟩
  have hpush := pending_push (c.now + Firmware.ingestMs) (.stored c.position)
    { c with newDiscAck := false }
  have hpending : ({ c with newDiscAck := false } : Carousel).stage.pending =
      c.stage.pending.filter fun x => decide (x.2 ≠ CarouselEvent.ackExpired) := by
    show c.events.entries.filter _ = (c.events.entries.filter _).filter _
    rw [List.filter_filter]
    refine List.filter_congr fun x _ => ?_
    cases hx : x.2 <;> simp [lively, hoffered]
  rw [hpending] at hpush
  exact hpush

theorem Spares.wait {cmd left : Nat} (h : c.Spares cmd left) (ms : Nat) :
    (c.wait ms).Spares cmd left := by
  intro hb
  rw [(c.wait_sameSetup ms).rolls]
  exact h ((c.wait_sameSetup ms).blips ▸ hb)

end Carousel

section Handshake

open Carousel

variable {g : Bool} {h : Hands} {s : Stage} {T f u : Nat}

/-! ## Waiting for the disc -/

/-- Before it is fed in at `T`, or up to 100 ms after. -/
def Expecting (s : Stage) (T : Nat) (c : Carousel) : Prop :=
  (c.Fits Never 0 s ∧ c.now ≤ T) ∨
    ∃ f, T ≤ f ∧ c.Fits Never 0 (s.inserted f) ∧ f ≤ c.now ∧ c.now ≤ f + 100

/-- **The `DISC_WAITING` pulse never falls between two polls.** -/
theorem waitForInsert_traced {b : Bool} {I J : Trace → Prop} {P timeout : Nat}
    (hpending : s.pending = [(T, .discArrives)]) (hwaiting : s.waiting = false) (hfrom : P ≤ T)
    (hto : T + 243 ≤ P + timeout) (hI : s.Leads b I I) (hJ : ∀ f, (s.inserted f).Leads b I J) :
    Triple (Traced b g h I fun c => c.Fits Never 0 s ∧ c.now = P) (waitForInsert timeout)
      (fun seen => Traced b g h J fun c => seen = true ∧
        ∃ f, T ≤ f ∧ c.Fits Never 0 (s.inserted f) ∧ f ≤ c.now ∧ c.now ≤ f + 343) NoRaise := by
  have hrepeat : Firmware.repeatMs = 143 := rfl
  have hpoll : pollMs = 100 := rfl
  -- what 143 or 100 ms make of a carousel before the disc is fed in
  have hfeed : ∀ (c : Carousel) ms, c.Fits Never 0 s → c.now ≤ T → ms ≤ Firmware.repeatMs →
      ((c.wait ms).Fits Never 0 s ∧ c.now + ms < T) ∨
        (T ≤ c.now + ms ∧ (c.wait ms).Fits Never 0 (s.inserted (c.now + ms))) := by
    intro c ms hc _ _
    by_cases hdue : T ≤ c.now + ms
    · exact .inr ⟨hdue, hc.fires hpending hdue nofun nofun⟩
    · exact .inl ⟨hc.later hpending (Nat.lt_of_not_le hdue), Nat.lt_of_not_le hdue⟩
  have hkeep : ∀ f (c : Carousel) ms, c.Fits Never 0 (s.inserted f) → c.now + ms < f + 1500 →
      (c.wait ms).Fits Never 0 (s.inserted f) := fun f c ms hc hlt =>
    hc.later (s.inserted_pending f) hlt
  -- a reading either shows the disc, or comes before it
  have hread : ∀ c, Expecting s T c →
      (((c.wait Firmware.repeatMs).Fits Never 0 s ∧ c.now + Firmware.repeatMs < T) ∧
        (c.wait Firmware.repeatMs).discWaiting = false) ∨
      ((∃ f, T ≤ f ∧ (c.wait Firmware.repeatMs).Fits Never 0 (s.inserted f) ∧
        f ≤ c.now + Firmware.repeatMs ∧ c.now + Firmware.repeatMs ≤ f + 243) ∧
        (c.wait Firmware.repeatMs).discWaiting = true) := by
    rintro c (⟨hc, hnow⟩ | ⟨f, hf, hc, hfrom, hto⟩)
    · rcases hfeed c _ hc hnow (Nat.le_refl _) with ⟨hc', hlt⟩ | ⟨hle, hc'⟩
      · exact .inl ⟨⟨hc', hlt⟩, (congrArg Stage.waiting hc'.stage).trans hwaiting⟩
      · exact .inr ⟨⟨_, hle, hc', Nat.le_refl _, Nat.le_add_right _ _⟩, congrArg Stage.waiting hc'.stage⟩
    · have hc' := hkeep f c Firmware.repeatMs hc (by omega)
      exact .inr ⟨⟨f, hf, hc', by omega, by omega⟩, congrArg Stage.waiting hc'.stage⟩
  refine (waitState_shown (S := fun t c => I t ∧ Expecting s T c) (Q := fun seen t c => J t ∧
    seen = true ∧ ∃ f, T ≤ f ∧ c.Fits Never 0 (s.inserted f) ∧ f ≤ c.now ∧ c.now ≤ f + 343) P
    ?_ ?_ ?_).pre ?_
  · rintro t c ⟨ht, hc⟩ hmatched
    rcases hread c hc with ⟨_, hnone⟩ | ⟨⟨f, hf, hc', hfrom, hto⟩, _⟩
    · rw [Carousel.status_waiting, hnone] at hmatched
      cases hmatched
    · have hnow : (c.wait Firmware.repeatMs).asked.now = c.now + Firmware.repeatMs := c.wait_now _
      refine ⟨hJ f t _ _ hc'.stage ht, rfl, f, hf, hkeep f _ pollMs hc'.asked (by omega), ?_, ?_⟩ <;>
        rw [Carousel.polled_now] <;> omega
  · rintro t c ⟨_, hc⟩ hnot hend
    rcases hread c hc with ⟨⟨_, hlt⟩, _⟩ | ⟨_, hyes⟩
    · rw [Carousel.polled_now] at hend
      omega
    · exact absurd ((Carousel.status_waiting _).mpr hyes) hnot
  · rintro t c ⟨ht, hc⟩ hnot _
    rcases hread c hc with ⟨⟨hc', hlt⟩, _⟩ | ⟨_, hyes⟩
    · refine ⟨hI t _ _ hc'.stage ht, ?_⟩
      have hnow : (c.wait Firmware.repeatMs).asked.now = c.now + Firmware.repeatMs := c.wait_now _
      rcases hfeed _ pollMs hc'.asked (by omega) (by decide) with ⟨hc', hlt⟩ | ⟨hle, hc'⟩
      · refine .inl ⟨hc', ?_⟩
        rw [Carousel.polled_now]
        omega
      · refine .inr ⟨_, hle, hc', ?_, ?_⟩ <;> rw [Carousel.polled_now] <;> omega
    · exact absurd ((Carousel.status_waiting _).mpr hyes) hnot
  · rintro w ⟨hTidy, htracing, ht, hfits, rfl⟩
    exact ⟨hTidy, htracing, ⟨ht, .inl ⟨hfits, hfrom⟩⟩, rfl⟩

theorem waitForInsert_on {P timeout : Nat} (hpending : s.pending = [(T, .discArrives)])
    (hwaiting : s.waiting = false) (hfrom : P ≤ T) (hto : T + 243 ≤ P + timeout) :
    Triple (On g h fun c => c.Fits Never 0 s ∧ c.now = P) (waitForInsert timeout)
      (fun seen => On g h fun c => seen = true ∧
        ∃ f, T ≤ f ∧ c.Fits Never 0 (s.inserted f) ∧ f ≤ c.now ∧ c.now ≤ f + 343) NoRaise :=
  on_of_traced fun b => waitForInsert_traced hpending hwaiting hfrom hto (s.leads_true b) fun f =>
    (s.inserted f).leads_true b

/-! ## Taking the disc in -/

/-- The disc is at the aperture until it is drawn off. -/
def Drawing (s : Stage) (f : Nat) (c : Carousel) : Prop :=
  (c.Fits Never 0 (s.inserted f) ∧ c.now < f + 1500) ∨
    ∃ u, f + 1500 ≤ u ∧ u ≤ f + 1643 ∧ c.Fits (· = u + 11800) u (s.drawn f u)

/-- The unit is idle and offers the disc. -/
structure Offered (s : Stage) (f u : Nat) (c : Carousel) : Prop where
  fits : c.Fits (· = u + 11800) (u + 1800) (s.drawn f u)
  after : f + 1500 ≤ u
  idle : (s.drawn f u).busyUntil ≤ c.now
  soon : c.now ≤ f + 3786

theorem Drawing.wait {c : Carousel} (hc : Drawing s f c) {ms : Nat} (hms : ms ≤ Firmware.repeatMs)
    (hH : c.now + ms ≤ f + 13299) : Drawing s f (c.wait ms) := by
  have hrepeat : Firmware.repeatMs = 143 := rfl
  rcases hc with ⟨hc, hnow⟩ | ⟨u, hfrom, hto, hc⟩
  · by_cases hdue : f + 1500 ≤ c.now + ms
    · have hweak : c.Fits (· = c.now + ms + 11800) 0 (s.inserted f) :=
        hc.mono (fun _ => False.elim) (Nat.zero_le 0)
      have hdrawn := hweak.fires (s.inserted_pending f) hdue (fun _ => hc.lapses) fun _ =>
        Nat.add_assoc _ _ _
      exact .inr ⟨c.now + ms, hdue, by omega,
        ⟨hdrawn.stage, hdrawn.lapses, Nat.le_of_eq (c.wait_now ms).symm⟩⟩
    · exact .inl ⟨hc.later (s.inserted_pending f) (Nat.lt_of_not_le hdue), by
        rw [wait_now]; exact Nat.lt_of_not_le hdue⟩
  · exact .inr ⟨u, hfrom, hto, hc.later (s.drawn_pending f u) (by omega)⟩

/-- **The settled disc is on offer** when the unit is seen idle. -/
theorem settle_traced {b : Bool} {I J : Trace → Prop} (hbusy : s.busyUntil ≤ f)
    (hI : (s.inserted f).Leads b I I) (hJ : ∀ u, (s.drawn f u).Leads b I J)
    (hJ' : ∀ u, (s.drawn f u).Leads b J J) (msg : String) :
    Triple (Traced b g h I fun c => c.Fits Never 0 (s.inserted f) ∧ f ≤ c.now ∧ c.now ≤ f + 343 ∧
        c.Spares cmdAcceptDisc 3)
      (idleOr msg)
      (fun _ => Traced b g h J fun c => (∃ u, Offered s f u c) ∧ c.Spares cmdAcceptDisc 3) NoRaise := by
  have hrepeat : Firmware.repeatMs = 143 := rfl
  have hpoll : pollMs = 100 := rfl
  -- until it is drawn off the trace is as it was
  let S : Trace → Carousel → Prop := fun t c => ((I t ∧ c.Fits Never 0 (s.inserted f) ∧ c.now < f + 1500) ∨
    ((I t ∨ J t) ∧ ∃ u, f + 1500 ≤ u ∧ u ≤ f + 1643 ∧ c.Fits (· = u + 11800) u (s.drawn f u))) ∧
      c.Spares cmdAcceptDisc 3
  have hwait : ∀ t (c : Carousel) ms, S t c → ms ≤ Firmware.repeatMs → c.now + ms ≤ f + 13299 →
      S t (c.wait ms) := by
    intro t c ms hc hms hH
    refine ⟨?_, hc.2.wait ms⟩
    rcases hc.1 with ⟨ht, hc⟩ | ⟨ht, hc⟩
    · exact (Drawing.wait (Or.inl hc) hms hH).imp (fun hc => ⟨ht, hc⟩) fun hc => ⟨.inl ht, hc⟩
    · obtain ⟨u, hfrom, hto, hc⟩ := hc
      exact .inr ⟨ht, u, hfrom, hto, hc.later (s.drawn_pending f u) (by omega)⟩
  have hbusyUntil : ∀ t c, S t c → c.busyUntil ≤ f + 3443 := by
    rintro t c ⟨⟨_, hc, _⟩ | ⟨_, u, _, _, hc⟩, _⟩
    · rw [hc.busyUntil, Stage.inserted_busyUntil]
      omega
    · rw [hc.busyUntil, Stage.drawn_busyUntil]
      omega
  have hafter : ∀ {t u} {c : Carousel}, (I t ∨ J t) → c.Fits (· = u + 11800) u (s.drawn f u) →
      J (t.given b c.status) := fun ht hc => ht.elim (hJ _ _ _ _ hc.stage) (hJ' _ _ _ _ hc.stage)
  refine traced_starting fun start => ?_
  refine Triple.pre (A := fun w => (f ≤ start ∧ start ≤ f + 343) ∧
    Shown b g h (fun t c => S t c ∧ c.now = start) w) (Triple.of_fact fun ⟨hfrom, hto⟩ => ?_) ?_
  · refine (idleOr_shown start (f + 13299) hwait (fun t c hc => ⟨?_, hc.2⟩) hbusyUntil
      (fun t c hc _ => ⟨?_, hc.2⟩) (by omega) (by omega) msg).post ?_
    · exact hc.1.imp (fun hc => ⟨hc.1, hc.2.1.asked, hc.2.2⟩)
        fun ⟨ht, u, hfrom, hto, hc⟩ => ⟨ht, u, hfrom, hto, hc.asked⟩
    · exact hc.1.imp (fun hc => ⟨hI t c _ hc.2.1.stage hc.1, hc.2⟩)
        fun ⟨ht, u, hfrom, hto, hc⟩ => ⟨.inr (hafter ht hc), u, hfrom, hto, hc⟩
    · rintro _ w ⟨hTidy, htracing, t, d, hd, hidle, htrace, hcar, htime⟩
      have hnow : (d.wait Firmware.repeatMs).now = d.now + Firmware.repeatMs := d.wait_now _
      have hrest := Nat.not_lt.mp (of_decide_eq_false hidle)
      have hasked : (d.wait Firmware.repeatMs).asked.Spares cmdAcceptDisc 3 := hd.2.wait _
      have hspares : d.polled.Spares cmdAcceptDisc 3 := hasked.wait pollMs
      rcases (hwait t d _ hd (Nat.le_refl _) (by omega)).1 with ⟨_, hc, hlt⟩ | ⟨ht, u, hfrom', _, hc⟩
      · -- until it is drawn off the unit is busy
        rw [hc.busyUntil, Stage.inserted_busyUntil] at hrest
        omega
      · rw [hc.busyUntil] at hrest
        have hsettled := hrest
        rw [Stage.drawn_busyUntil] at hsettled
        have hpolled : d.polled.Fits (· = u + 11800) u (s.drawn f u) :=
          hc.asked.later (s.drawn_pending f u) (by
            show (d.wait Firmware.repeatMs).now + pollMs < _
            omega)
        have hpolled_now := d.polled_now
        refine ⟨hTidy, htracing, htrace ▸ hafter ht hc,
          ⟨u, hcar ▸ ⟨⟨hpolled.stage, hpolled.lapses, ?_⟩, hfrom', ?_, ?_⟩⟩, hcar ▸ hspares⟩ <;> omega
  · rintro w ⟨hTidy, htracing, ht, ⟨hc, hfrom, hto, hspares⟩, rfl⟩
    exact ⟨⟨hfrom, hto⟩, hTidy, htracing, ⟨.inl ⟨ht, hc, by omega⟩, hspares⟩, rfl⟩

theorem settle_on (hbusy : s.busyUntil ≤ f) (msg : String) :
    Triple (On g h fun c => c.Fits Never 0 (s.inserted f) ∧ f ≤ c.now ∧ c.now ≤ f + 343 ∧
        c.Spares cmdAcceptDisc 3)
      (idleOr msg)
      (fun _ => On g h fun c => (∃ u, Offered s f u c) ∧ c.Spares cmdAcceptDisc 3) NoRaise :=
  on_of_traced fun b => settle_traced hbusy ((s.inserted f).leads_true b)
    (fun u => (s.drawn f u).leads_true b) (fun u => (s.drawn f u).leads_true b) msg

/-- At the stage at which the disc is offered, whenever the unit was busy last. -/
def Offering (s : Stage) (f u : Nat) (c : Carousel) : Prop :=
  ∃ b, c.Fits (· = u + 11800) (u + 1800) { s.drawn f u with busyUntil := b }

/-- The carousel has taken the disc in. -/
def Storing (s : Stage) (f u : Nat) (c : Carousel) : Prop :=
  ∃ b a, b ≤ a ∧ a ≤ c.now ∧
    c.Fits (· = u + 11800) (u + 1800) (({ s.drawn f u with busyUntil := b }).tookIn a)

/-- What the attempts of `0x1D` are asked of. -/
theorem accept_attempts {t₀ : Nat} (hafter : f + 1500 ≤ u) (ht₀ : t₀ ≤ f + 3786) :
    Attempts (Offering s f u) (Storing s f u) cmdAcceptDisc [] t₀ (u + 11799) where
  sendable := sendable_bare (by decide)
  dropped := by decide
  horizon := by omega
  wait := by
    rintro c ms ⟨b, hc⟩ _ _
    have hc' : (c.wait ms).Fits (· = u + 11800) (u + 1800) { s.drawn f u with busyUntil := b } :=
      hc.later (s.drawn_pending f u) (by omega)
    exact ⟨⟨b, hc'⟩, hc'.busyUntil.trans hc.busyUntil.symm⟩
  asked := fun c ⟨b, hc⟩ => ⟨b, hc.asked⟩
  blipped := fun c ⟨b, hc⟩ => ⟨_, hc.blipped _ _⟩
  homed := fun _ _ hcmd => absurd hcmd (by decide)
  acted := by
    rintro c rolls ⟨b, hc⟩ _ hidle _ _
    rw [hc.busyUntil] at hidle
    have hnow : (c.acted cmdAcceptDisc (Sim.padded []) rolls).now = c.now :=
      (Carousel.dispatch_sameClock _ _ _).1
    have htook := hc.tookIn rfl (Sim.padded []) rolls
    have hpoll : pollMs = 100 := rfl
    refine ⟨b, c.now, hidle, ?_, htook.later (t := c.now + Firmware.ingestMs)
      (e := .stored (s.drawn f u).position) rfl ?_⟩
    · rw [Carousel.wait_now, hnow]
      omega
    · rw [hnow]
      show c.now + pollMs < c.now + 1800
      omega

/-- The disc is stored. -/
theorem Stage.tookIn_ends {t : Nat} (hpending : s.pending = [(t, .ackExpired)]) (now : Nat) :
    (s.tookIn now).Ends (now + Firmware.ingestMs) (.stored s.position)
      { s with
        ack := false
        occupied := insert s.position s.occupied
        ingested := s.position :: s.ingested
        busyUntil := max s.busyUntil (now + Firmware.ingestMs)
        pending := [] } where
  pending := by
    show Agenda.insertLast _ _ (s.pending.filter _) = _
    rw [hpending]
    rfl
  fires _ := rfl
  calm := rfl
  alone := nofun
  inTime := Nat.le_max_right _ _
  busyUntil := rfl

theorem land_traced {b : Bool} {I J : Trace → Prop}
    (hI : ∀ a, ((s.drawn f u).tookIn a).Leads b I I) (hJ : s.landed.Leads b I J)
    (hJ' : s.landed.Leads b J J) (msg : String) :
    Triple (Traced b g h I (Storing s f u)) (idleOr msg)
      (fun _ => Traced b g h J (s.landed.Rests (· = u + 11800) (u + 1800))) NoRaise := by
  refine Triple.pre (A := fun w => ∃ v a, v ≤ a ∧ Traced b g h I (fun c => a ≤ c.now ∧
    c.Fits (· = u + 11800) (u + 1800) (({ s.drawn f u with busyUntil := v }).tookIn a)) w) ?_ ?_
  · refine Triple.of_exists fun v => Triple.of_exists fun a => Triple.of_fact fun hv => ?_
    have hends := Stage.tookIn_ends (s := { s.drawn f u with busyUntil := v }) (s.drawn_pending f u) a
    refine (idleOr_ends_traced _ _ hends ((hI a).at_ _) (hJ.at_ _) (hJ'.at_ _) msg).conseq
      (fun w hw => hw.imp fun c hc => ?_) (fun _ w hw => hw.imp fun c hc => ⟨_, hc.2, hc.1⟩)
      fun _ _ => id
    refine ⟨.inl hc.2, ?_⟩
    show max v (a + 1800) ≤ _
    omega
  · rintro w ⟨hTidy, htracing, ht, v, a, hv, ha, hc⟩
    exact ⟨v, a, hv, hTidy, htracing, ht, ha, hc⟩

/-- `ingest` sends `0x1D` early enough for all of its tries. -/
theorem Offered.trying {c : Carousel} (hc : Offered s f u c) (hspares : c.Spares cmdAcceptDisc 3) :
    Trying true (Offering s f u) cmdAcceptDisc c.now 3 c where
  state := ⟨_, hc.fits⟩
  begun := Nat.le_refl _
  spent := by omega
  idle := by
    rw [hc.fits.busyUntil]
    exact Nat.le_add_right_of_le hc.idle
  spared _ := hspares

/-- **`ingest` lands**: from a disc that was fed in, with one of the next three sends of `0x1D`
spared, to the disc stored. -/
theorem ingest_traced {b : Bool} {I J L : Trace → Prop} (hbusy : s.busyUntil ≤ f)
    (hI : (s.inserted f).Leads b I I) (hJ : ∀ u, (s.drawn f u).Leads b I J)
    (hJ' : ∀ u, (s.drawn f u).Leads b J J)
    (hL : ∀ u a, ((s.drawn f u).tookIn a).Leads b (fun t => J t ∨ L t) fun t => J t ∨ L t)
    (hL' : s.landed.Leads b (fun t => J t ∨ L t) L) (progress : Progress) :
    Triple (Traced b g h I fun c => c.Fits Never 0 (s.inserted f) ∧ f ≤ c.now ∧ c.now ≤ f + 343 ∧
        c.Spares cmdAcceptDisc 3)
      (ingest progress)
      (fun _ => Traced b g h L fun c => ∃ u, s.landed.Rests (· = u + 11800) (u + 1800) c) NoRaise := by
  refine Triple.bind (traced_report progress _) fun _ => (settle_traced hbusy hI hJ hJ' _).bind fun _ => ?_
  refine Triple.bind (traced_report progress _) fun _ => ?_
  refine Triple.pre (A := fun w => ∃ u t₀, (f + 1500 ≤ u ∧ t₀ ≤ f + 3786) ∧
    Traced b g h J (Trying true (Offering s f u) cmdAcceptDisc t₀ 3) w) ?_ ?_
  · refine Triple.of_exists fun u => Triple.of_exists fun t₀ => Triple.of_fact fun ⟨hafter, ht₀⟩ => ?_
    have hwords : ∀ t c, J t → Offering s f u c → J (t.given b c.status) :=
      fun t c ht ⟨_, hc⟩ => hJ' u t c _ hc.stage ht
    refine (((requireFrom_traced (accept_attempts hafter ht₀) hwords 2).post fun _ w hw =>
      hw.weaken fun _ => .inl).bind fun _ => (land_traced (hL u) hL' (fun t c v hc ht =>
        hL' t c v hc (.inr ht)) _).conseq (fun _ => id) (fun _ _ hw => hw) fun _ _ he => .inl he).conseq
      (fun _ => id) ?_ ?_
    · exact fun _ w hw => hw.imp fun c hc => ⟨u, hc⟩
    · exact fun _ _ he => he.resolve_right nofun
  · rintro w ⟨hTidy, htracing, ht, ⟨u, hu⟩, hspares⟩
    exact ⟨u, _, ⟨hu.after, hu.soon⟩, hTidy, htracing, ht, hu.trying hspares⟩

theorem ingest_on (hbusy : s.busyUntil ≤ f) (progress : Progress) :
    Triple (On g h fun c => c.Fits Never 0 (s.inserted f) ∧ f ≤ c.now ∧ c.now ≤ f + 343 ∧
        c.Spares cmdAcceptDisc 3)
      (ingest progress)
      (fun _ => On g h fun c => ∃ u, s.landed.Rests (· = u + 11800) (u + 1800) c) NoRaise :=
  on_of_traced fun b => ingest_traced (J := fun _ => True) hbusy ((s.inserted f).leads_true b)
    (fun u => (s.drawn f u).leads_true b) (fun u => (s.drawn f u).leads_true b)
    (fun _ _ _ _ _ _ _ => .inl trivial) (fun _ _ _ _ _ => trivial) progress

end Handshake

/-! ## On tape -/

section Tape

variable {g : Bool} {h : Hands} {B : OutsideCall × Sim → Prop} {P : World Sim → Prop} {cmd : Nat}
  {args : List Nat}

/-- A write is noted with the state it meets. -/
theorem write_clear (hB : ∀ x, B x → ∃ buf, x.1 = .write buf) (msgid : Nat) :
    Triple (fun w : World (Taped Sim) => Clear B w.io ∧
        ∀ unit, ¬ B (.write (reportBytes unit msgid cmd args), w.io.inner))
      (write msgid cmd args) (fun _ w => Clear B w.io) (fun _ w => Clear B w.io) := by
  let Good : DiscStakka → World (Taped Sim) → Prop := fun ds w =>
    Clear B w.io ∧ ¬ B (.write (reportBytes ds.unit msgid cmd args), w.io.inner)
  refine Triple.bind (M := Good) (Triple.gets fun w hw => ⟨hw.1, hw.2 _⟩) fun ds => ?_
  refine Triple.bind (M := fun _ => Good ds)
    (Triple.raiseIf (fun w hw _ => hw.1) fun w hw _ => hw) fun _ => ?_
  refine Triple.bind (M := fun _ => Good ds)
    (Triple.raiseIf (fun w hw _ => hw.1) fun w hw _ => hw) fun _ => ?_
  refine Triple.bind (M := fun _ w => Clear B w.io) ?_ fun _ =>
    Triple.raiseIf (fun w hw _ => hw) fun w hw _ => hw
  have hcloses : ∀ s : Taped Sim, Clear B s → Clear B (Outside.closes s) := fun s hs =>
    hs.note (fun hb => by obtain ⟨buf, h⟩ := hB _ hb; cases h) _
  have hnote : ∀ w : World (Taped Sim), Good ds w →
      Clear B (Outside.write (reportBytes ds.unit msgid cmd args) w.io).2 := fun w hw =>
    hw.1.note hw.2 _
  refine triple_orNotConnected hcloses (triple_onOutside (fun w a s hw hr => ?_)
    fun w e s hw hr => ?_) _
  · have := hnote w hw
    rwa [hr] at this
  · have := hnote w hw
    rwa [hr] at this

variable (cmd args) in
/-- One command: the tape stays clear when the write meets a state as it should be. -/
theorem command_clear (hB : ∀ x, B x → ∃ buf, x.1 = .write buf) (hP : ∀ w, P w → Online w)
    (hgood : ∀ w, P w → ∀ unit msgid, ¬ B (.write (reportBytes unit msgid cmd args),
      w.io.stir.tick (min ackMs Firmware.repeatMs))) :
    Triple (fun w : World (Taped Sim) => Untaped P w ∧ Clear B w.io) (command cmd args ackMs)
      (fun _ w => Clear B w.io) (fun _ w => Clear B w.io) := by
  have hk : Kept (fun _ _ => False) fun w : World (Taped Sim) => Clear B w.io :=
    clear_kept hB fun hw => hw.elim
  have hread : Triple P (read ackMs) (fun _ w => ∀ unit msgid,
      ¬ B (.write (reportBytes unit msgid cmd args), w.io)) (fun _ _ => True) := by
    intro n w hw
    obtain ⟨raw, hlinked⟩ := (hP w hw).linked
    rw [hlinked.read_run]
    exact hgood w hw
  refine Triple.bind (M := fun _ w => Clear B w.io ∧ ∀ unit msgid,
    ¬ B (.write (reportBytes unit msgid cmd args), w.io.inner)) ?_ fun seed => ?_
  · refine (((matched_read taped_twins ackMs).triple hread).and (hk.keepsRead ackMs)).conseq
      (fun _ => id) (fun _ w hw => ?_) fun _ _ hw => hw.2
    obtain ⟨⟨_, w₀, _, hw₀, hgood⟩, hclear⟩ := hw
    exact ⟨hclear, fun unit msgid => hw₀.outside ▸ hgood unit msgid⟩
  · cases seed with
    | none => exact Triple.raise fun w hw => hw.1
    | some seed =>
      refine ((write_clear hB _).pre fun w hw => ⟨hw.1, fun unit => hw.2 unit _⟩).bind fun _ =>
        hk.keepsClock.bind fun now => Keeps.loop ?_
      refine hk.keepsClock.bind fun now => Keeps.ite ?_ (Keeps.pure _)
      refine (hk.keepsRead pollMs).bind fun reply => ?_
      cases reply with
      | none => exact Keeps.pure _
      | some p =>
        exact Keeps.ite ((keeps_observe fun _ => id).bind fun _ => Keeps.pure _) (Keeps.pure _)

/-- An attempt of `require` on tape. -/
theorem require_clear {S Q : Carousel → Prop} {t₀ H : Nat} (hA : Attempts S Q cmd args t₀ H)
    (hB : ∀ x, B x → ∃ buf, x.1 = .write buf)
    (hpolls : ∀ unit msgid s, ¬ B (.write (reportBytes unit msgid cmdRequestState []), s))
    (hgood : ∀ s : Sim, s.Unstirred → S s.car → s.car.Undue → s.car.busyUntil ≤ s.car.now →
      ∀ unit msgid, ¬ B (.write (reportBytes unit msgid cmd args), s)) :
    Triple (fun w : World (Taped Sim) => Untaped (On g h (Trying true S cmd t₀ 3)) w ∧ Clear B w.io)
      (require cmd args) (fun _ w => Untaped (On g h Q) w ∧ Clear B w.io) NoRaise := by
  have hpoll := matched_polls taped_twins (σ := Sim)
  have hkept : Kept (fun cmd args => cmd = cmdRequestState ∧ args = [])
      fun w : World (Taped Sim) => Clear B w.io :=
    clear_kept hB fun ⟨hcmd, hargs⟩ unit msgid s => hcmd ▸ hargs ▸ hpolls unit msgid s
  refine requireFrom_rule
    (A := fun left w => Untaped (On g h (Trying true S cmd t₀ left)) w ∧ Clear B w.io)
    (B := fun left w => Untaped (On g h (Unheard true S cmd t₀ left)) w ∧ Clear B w.io) (fun left => ?_)
    (fun left hleft => ?_) (fun msg w hw => ?_) 2
  · have hsent := command_clear (P := On g h (Trying true S cmd t₀ (left + 1))) cmd args hB
      (fun w hw => hw.1.toOnline) fun w hw unit msgid => ?_
    · refine (((hpoll.command cmd args ackMs).triple (attempt_on hA left)).and hsent).conseq
        (fun w hw => ⟨hw.1, hw⟩) (fun reply w hw => ?_) fun e w hw => ?_
      · obtain ⟨⟨reply', w₀, hrel, hw₀, hpost⟩, hclear⟩ := hw
        cases hrel with
        | none => exact ⟨⟨w₀, hw₀, hpost⟩, hclear⟩
        | some _ => exact ⟨⟨w₀, hw₀, hpost⟩, hclear⟩
      · obtain ⟨⟨w₀, _, hnone⟩, _⟩ := hw
        exact hnone
    · obtain ⟨hS, hrest, _⟩ := hw.2.reading hA
      have hcar : (w.io.stir.tick (min ackMs Firmware.repeatMs)).car =
          w.io.car.wait Firmware.repeatMs := by
        show ({ w.io.stir.car with now := w.io.stir.car.now + _ } : Carousel).runDue = _
        rw [hw.1.unstirred.stir_car]
        rfl
      refine hgood (w.io.stir.tick (min ackMs Firmware.repeatMs)) hw.1.unstirred ?_ ?_ ?_ unit msgid <;>
        rw [hcar]
      · exact hS
      · exact w.io.car.wait_undue _
      · exact hrest
  · have hretry := retry_on (k := true) (g := g) (h := h) hA hleft
    have hwait := ((hpoll.waitState hpoll.busy 2000).triple hretry).and
      (hkept.waitState ⟨rfl, rfl⟩ stBusy 0 2000)
    refine hwait.conseq (fun w hw => ⟨?_, hw.2⟩) (fun _ w hw => ?_) fun _ w hw => ?_
    · obtain ⟨⟨w₀, hw₀, hTidy, htried⟩, _⟩ := hw
      exact ⟨w₀, hw₀, hTidy, by rwa [Unheard, if_neg (Nat.ne_of_gt hleft)] at htried⟩
    · obtain ⟨⟨_, w₀, _, hw₀, hpost⟩, hclear⟩ := hw
      exact ⟨⟨w₀, hw₀, hpost⟩, hclear⟩
    · obtain ⟨⟨w₀, _, hnone⟩, _⟩ := hw
      exact hnone
  · obtain ⟨⟨w₀, _, _, hno⟩, _⟩ := hw
    exact absurd hno Bool.noConfusion

end Tape

/-! ## The sends of `0x1D` -/

/-- The unit is idle and offers a disc, and `_ack_expired` is still to come. -/
def Carousel.Offers (c : Carousel) : Prop :=
  c.busy = false ∧ c.newDiscAck = true ∧ ∃ t, c.now < t ∧ (t, CarouselEvent.ackExpired) ∈ c.events

/-- A write of `0x1D` that reaches the carousel when it does not offer a disc. -/
def Unwelcome : OutsideCall × Sim → Prop
  | (.write buf, s) => buf.getD 4 0 = 0x1D ∧ ¬ s.stir.car.runDue.Offers
  | _ => False

theorem unwelcome_writes (x : OutsideCall × Sim) (hx : Unwelcome x) : ∃ buf, x.1 = .write buf := by
  rcases x with ⟨call, s⟩
  cases call with
  | write buf => exact ⟨buf, rfl⟩
  | _ => exact hx.elim

/-- Every write of another command leaves the tape clear. -/
theorem welcome_kept :
    Kept (fun cmd _ => cmd ≠ cmdAcceptDisc) fun w : World (Taped Sim) => Clear Unwelcome w.io :=
  clear_kept unwelcome_writes fun hw _ _ _ hx => hw hx.1

section Sends

variable {g : Bool} {h : Hands} {s : Stage} {f u : Nat}

/-- At the stage at which the disc is offered, an idle unit offers it. -/
theorem Offering.offers {c : Carousel} (hc : Offering s f u c) (hundue : c.Undue)
    (hidle : c.busyUntil ≤ c.now) : c.Offers := by
  obtain ⟨b, hc⟩ := hc
  have hpending : (u + 1800 + 10000, CarouselEvent.ackExpired) ∈ c.stage.pending := by
    rw [hc.stage]
    exact List.mem_singleton_self _
  exact ⟨decide_eq_false (Nat.not_lt.mpr hidle), congrArg Stage.ack hc.stage,
    _, hundue.pending _ hpending, List.mem_of_mem_filter hpending⟩

/-- **`ingest` sends `0x1D` to a unit that offers the disc**, in every try. -/
theorem ingest_welcome (hbusy : s.busyUntil ≤ f) (progress : Progress) :
    Triple (fun w : World (Taped Sim) => Untaped (On g h fun c =>
        c.Fits Carousel.Never 0 (s.inserted f) ∧ f ≤ c.now ∧ c.now ≤ f + 343 ∧
          c.Spares cmdAcceptDisc 3) w ∧ Clear Unwelcome w.io)
      (ingest progress) (fun _ w => Clear Unwelcome w.io) (fun _ _ => True) := by
  have hs : cmdRequestState ≠ cmdAcceptDisc := by decide
  have hpoll := matched_polls taped_twins (σ := Sim)
  have hreport : ∀ (P : Carousel → Prop) message,
      Triple (fun w : World (Taped Sim) => Untaped (On g h P) w ∧ Clear Unwelcome w.io)
        (report progress message) (fun _ w => Untaped (On g h P) w ∧ Clear Unwelcome w.io)
        (fun _ _ => True) := fun P message =>
    taped_and (matched_report progress message) (on_report progress message)
      (welcome_kept.report progress message)
  refine (hreport _ _).bind fun _ => ?_
  refine (taped_and (hpoll.idleOr _) (unsaid (settle_on hbusy _)) (welcome_kept.idleOr hs _)).bind
    fun _ => (hreport _ _).bind fun _ => ?_
  refine Triple.bind (M := fun _ w => Clear Unwelcome w.io) ?_ fun _ => ?_
  · refine Triple.pre (A := fun w => ∃ u t₀, (f + 1500 ≤ u ∧ t₀ ≤ f + 3786) ∧
      Untaped (On g h (Trying true (Offering s f u) cmdAcceptDisc t₀ 3)) w ∧ Clear Unwelcome w.io) ?_ ?_
    · refine Triple.of_exists fun u => Triple.of_exists fun t₀ => Triple.of_fact fun ⟨hafter, ht₀⟩ => ?_
      refine (require_clear (accept_attempts hafter ht₀) unwelcome_writes (fun _ _ _ hx => ?_)
        fun v hunstirred hS hundue hidle _ _ hx => hx.2 ?_).conseq (fun _ => id) (fun _ _ hw => hw.2)
        fun _ _ _ => trivial
      · exact absurd hx.1 (show cmdRequestState ≠ 0x1D by decide)
      · rw [hunstirred.stir_car, Carousel.runDue_of_undue hundue]
        exact hS.offers hundue hidle
    · rintro w ⟨⟨w₀, hw₀, hTidy, ⟨u, hu⟩, hspares⟩, hclear⟩
      exact ⟨u, _, ⟨hu.after, hu.soon⟩, ⟨w₀, hw₀, hTidy, hu.trying hspares⟩, hclear⟩
  · exact (welcome_kept.idleOr hs _).conseq (fun _ => id) (fun _ _ => id) fun _ _ _ => trivial

theorem ingest_taped (hbusy : s.busyUntil ≤ f) (progress : Progress) :
    Triple (fun w : World (Taped Sim) => Untaped (On g h fun c =>
        c.Fits Carousel.Never 0 (s.inserted f) ∧ f ≤ c.now ∧ c.now ≤ f + 343 ∧
          c.Spares cmdAcceptDisc 3) w ∧ Clear Unwelcome w.io)
      (ingest progress)
      (fun _ w => Untaped (On g h fun c => ∃ u, s.landed.Rests (· = u + 11800) (u + 1800) c) w ∧
        Clear Unwelcome w.io) NoRaise :=
  ((triple_taped (matched_ingest taped_twins progress) (ingest_on hbusy progress)).and
    (ingest_welcome hbusy progress)).conseq (fun _ hw => ⟨hw.1, hw⟩) (fun _ _ => id)
    fun _ _ ⟨⟨_, _, hnone⟩, _⟩ => hnone

end Sends

/-! ## The handshake -/

theorem spares_drifts (cmd left : Nat) : Drifts (Carousel.Spares cmd left) where
  hand _ _ _ h := h
  later _ _ h := h
  fire c t e h _ _ := by
    have hsame := Carousel.fire_sameSetup e { c with events := c.events.pop }
    intro hb
    rw [hsame.rolls]
    exact h (hsame.blips ▸ hb)

/-- Status requests are answered without a roll. -/
theorem spares_reports (cmd left : Nat) :
    Reports (Carousel.Spares cmd left) fun _ => Carousel.Spares cmd left where
  before := spares_drifts cmd left
  after _ := spares_drifts cmd left
  weaken _ _ h := h
  report _ h _ := h

/-- The client has the unit open, the unit is idle with nothing at its aperture and an empty bay,
and all that will happen is that a disc is fed in at `T`. -/
structure Feeding (w : World Sim) (T : Nat) : Prop extends Online w where
  unstirred : w.io.Unstirred
  events : w.io.car.events.entries = [(T, .discArrives)]
  waiting : w.io.car.discWaiting = false
  ack : w.io.car.newDiscAck = false
  bay : w.io.car.discInBay = false
  idle : w.io.car.busyUntil ≤ w.io.car.now

theorem Feeding.on {w : World Sim} {T : Nat} (hw : Feeding w T) :
    w.io.car.stage.pending = [(T, .discArrives)] ∧
      On false w.io.hands (fun c => c.Fits Carousel.Never 0 w.io.car.stage ∧
        c.now = w.io.car.now) w := by
  refine ⟨?_, ⟨hw.toOnline, rfl, hw.unstirred, nofun⟩, ⟨rfl, fun x hx he => ?_, Nat.zero_le _⟩, rfl⟩
  · show w.io.car.events.entries.filter _ = _
    rw [hw.events]
    rfl
  · rw [Agenda.mem_def, hw.events] at hx
    obtain rfl := List.mem_singleton.mp hx
    cases he

/-- The disc is seen, and on tape nothing was sent but status requests. -/
theorem waitForInsert_taped {w : World Sim} {T timeout : Nat} (hw : Feeding w T)
    (hfrom : w.io.car.now ≤ T) (hto : T + 243 ≤ w.io.car.now + timeout)
    (hspares : w.io.car.Spares cmdAcceptDisc 3) :
    Triple (fun w' => w' = w.taping) (waitForInsert timeout)
      (fun seen w' => seen = true ∧ ∃ f, T ≤ f ∧ Untaped (On false w.io.hands fun c =>
        c.Fits Carousel.Never 0 (w.io.car.stage.inserted f) ∧ f ≤ c.now ∧ c.now ≤ f + 343 ∧
          c.Spares cmdAcceptDisc 3) w' ∧ Clear Unwelcome w'.io) NoRaise := by
  obtain ⟨hpending, hon⟩ := hw.on
  have hwaits := (waitForInsert_on (g := false) (h := w.io.hands) hpending hw.waiting hfrom hto).and
    ((spares_reports cmdAcceptDisc 3).waitState stDiscWaiting stDiscWaiting timeout)
  have htaped := (triple_taped (matched_waitForInsert taped_twins timeout) hwaits).and
    (welcome_kept.waitState (show cmdRequestState ≠ cmdAcceptDisc by decide)
      stDiscWaiting stDiscWaiting timeout)
  refine htaped.conseq ?_ (fun seen w' hw' => ?_) fun e w' ⟨⟨_, _, hnone, _⟩, _⟩ => hnone
  · rintro w' rfl
    exact ⟨⟨w, onTapeOf_taping w, hon, hspares⟩, fun _ hx => absurd hx List.not_mem_nil⟩
  · obtain ⟨⟨w₀, hw₀, ⟨hTidy, hseen, f, hf, hfits, hfrom, hto⟩, hspares', _⟩, hclear⟩ := hw'
    exact ⟨hseen, f, hf, ⟨w₀, hw₀, hTidy, hfits, hfrom, hto, hspares'⟩, hclear⟩

/-- **The load handshake lands in its window.** However the polls fall on the moment at which a
disc is fed in, from the start of `wait_for_insert` until 243 ms before its deadline, and with one
of the next three sends of `0x1D` spared by the blips: the wait sees the disc, `ingest` returns with
it stored in the slot at the aperture and nothing in the bay, it was taken in once, and every
write of `0x1D` found the unit idle, offering the disc, and `_ack_expired` still to come. -/
theorem load_handshake_lands (w : World Sim) (T timeout : Nat) (hw : Feeding w T)
    (hfrom : w.io.car.now ≤ T) (hto : T + 243 ≤ w.io.car.now + timeout)
    (hspares : w.io.car.Spares cmdAcceptDisc 3) (progress : Progress) :
    ∃ N, ∀ n, N ≤ n → ∃ w₁ w₂, waitForInsert timeout n w.taping = (.ok true, w₁) ∧
      ingest progress n w₁ = (.ok (), w₂) ∧
      w₂.io.inner.car.occupied = insert w.io.car.position w.io.car.occupied ∧
      w₂.io.inner.car.position = w.io.car.position ∧
      w₂.io.inner.car.discInBay = false ∧ w₂.io.inner.car.ackTimeout = w.io.car.ackTimeout ∧
      w₂.io.inner.car.ingested = w.io.car.position :: w.io.car.ingested ∧
      ∀ x ∈ w₂.io.tape, ¬ Unwelcome x := by
  obtain ⟨N₁, seen, w₁, ⟨rfl, f, hf, hon, hclear⟩, hwait⟩ := returns (m := waitForInsert timeout)
    (settles_waitState w.taping stDiscWaiting stDiscWaiting timeout)
    (waitForInsert_taped hw hfrom hto hspares) rfl
  have hbusy : w.io.car.stage.busyUntil ≤ f := Nat.le_trans hw.idle (Nat.le_trans hfrom hf)
  obtain ⟨N₂, _, w₂, ⟨hlanded, hclear'⟩, hingest⟩ := returns (settles_ingest w₁ progress)
    (ingest_taped hbusy progress) ⟨hon, hclear⟩
  obtain ⟨w', htape, _, u, b, _, hfits⟩ := hlanded
  have hstage := hfits.stage
  rw [htape.outside] at hstage
  refine ⟨max N₁ N₂, fun n hn => ⟨w₁, w₂, hwait n (by omega), hingest n (by omega), ?_⟩⟩
  exact ⟨congrArg Stage.occupied hstage, congrArg Stage.position hstage,
    (congrArg Stage.bay hstage).trans hw.bay, congrArg Stage.ackTimeout hstage,
    congrArg Stage.ingested hstage, hclear'⟩

/-- A homed carousel at slot 7 with the first two sends of `0x1D` to be dropped, and a disc that
is fed in after four seconds. -/
def feeding : World Sim :=
  { World.boot { Sim.new { Carousel.new 0 {3} 0x0DECAF01 0 with
        position := 7, homed := true, blips := true
        rolls := fun cmd i => decide (cmd = cmdAcceptDisc ∧ i < 2)
        events := Agenda.empty.push 4000 .discArrives } true .none with
      opened := true, latched := some [0x01, 0, 0, 0xCC, 0, 0, 0, 0] } [] with
    ds := ⟨true, 0, none, none, false⟩ }

theorem load_handshake_lands_feeding :
    ∃ N, ∀ n, N ≤ n → ∃ w₁ w₂, waitForInsert 60000 n feeding.taping = (.ok true, w₁) ∧
      ingest .none n w₁ = (.ok (), w₂) ∧ w₂.io.inner.car.occupied = {7, 3} := by
  have hfeeding : Feeding feeding 4000 :=
    ⟨⟨⟨[0x01, 0, 0, 0xCC, 0, 0, 0, 0], rfl, rfl, ⟨rfl, rfl, rfl, by decide⟩⟩, by decide⟩,
      fun _ => rfl, rfl, rfl, rfl, rfl, by decide⟩
  obtain ⟨N, hN⟩ := load_handshake_lands feeding 4000 60000 hfeeding (by decide) (by decide)
    (fun _ => ⟨2, by decide, rfl⟩) .none
  refine ⟨N, fun n hn => ?_⟩
  obtain ⟨w₁, w₂, hwait, hingest, hoccupied, _⟩ := hN n hn
  exact ⟨w₁, w₂, hwait, hingest, hoccupied⟩

end StakkaWeb
