import StakkaWeb.Laws.Interlock
import StakkaWeb.Laws.Taping

/-!
# A move that returns

The client learns of a move from status words alone: the unit is idle before it, and idle after it.
What it may conclude rests on one fact about the firmware, that a carousel on its way is busy until
it arrives. Four properties of the carousel carry the argument: `Timely` at any time, `Landed` once
the unit has been seen idle, `Headed` from an accepted `0x04` on, `Docked` when it has been seen
idle again.
-/

set_option autoImplicit false

namespace StakkaWeb

open Lib Lib.Prog

namespace Carousel

/-! ## Reachable carousels -/

/-- What a carousel can come to, whatever hands, time and commands do. -/
inductive Reachable : Carousel → Prop
  | made (now : Nat) (occupied : Finset Nat) (serial unit : Nat) (unknownBit blips : Bool)
    (rolls : Nat → Nat → Bool) :
    Reachable { Carousel.made now occupied serial unit blips rolls with unknownBit := unknownBit }
  | hand (t : Nat) (a : Hand) {c : Carousel} (h : Reachable c) : Reachable (c.at_ t a.event)
  | later (ms : Nat) {c : Carousel} (h : Reachable c) : Reachable { c with now := c.now + ms }
  | runDue {c : Carousel} (h : Reachable c) : Reachable c.runDue
  | handle (cmd : Nat) (args : List Nat) (hbytes : ∀ b ∈ args, b ≤ 255) {c : Carousel}
    (h : Reachable c) : Reachable (c.handle cmd args).2

/-- The moves that the carousel has accepted. -/
def moves (c : Carousel) : List (Nat × List Nat) := c.log.filter fun entry => decide (entry.1 = 0x04)

/-! ## Between two readings -/

/-- A carousel on its way is busy until it arrives; it has accepted `moved`. -/
structure Timely (moved : List (Nat × List Nat)) (c : Carousel) : Prop where
  due : ∀ x ∈ c.events, Arrives x.2 → x.1 ≤ c.busyUntil
  moves : c.moves = moved

/-- It is on no way, and homed if `known`. -/
structure Landed (moved : List (Nat × List Nat)) (known : Bool) (c : Carousel) : Prop where
  still : ∀ x ∈ c.events, ¬ Arrives x.2
  moves : c.moves = moved
  homed : known = true → c.homed = true

/-- It is on its way to `slot`, or there. -/
structure Headed (moved : List (Nat × List Nat)) (slot : Nat) (c : Carousel) : Prop
    extends Timely moved c where
  bound : ∀ x ∈ c.events, Arrives x.2 → ∃ presenting, x.2 = .arrived slot presenting
  pending : (∃ x ∈ c.events, Arrives x.2) ∨ c.position = slot ∧ c.homed = true

/-- It is at `slot`. -/
structure Docked (moved : List (Nat × List Nat)) (slot : Nat) (c : Carousel) : Prop
    extends Landed moved true c where
  position : c.position = slot

/-- What has to arrive has arrived when the unit is idle. -/
theorem Timely.still {moved : List (Nat × List Nat)} {c : Carousel} (h : c.Timely moved)
    (hidle : c.busy = false) (hlater : ∀ x ∈ c.events, c.now < x.1) :
    ∀ x ∈ c.events, ¬ Arrives x.2 := by
  intro x hx ha
  have hdue := h.due x hx ha
  have hlate := hlater x hx
  simp only [busy, decide_eq_false_iff_not, Nat.not_lt] at hidle
  omega

/-! ## What the firmware's own events do -/

/-- Only arriving moves the carousel. -/
theorem fire_position {e : CarouselEvent} (he : ¬ Arrives e) (c : Carousel) :
    (c.fire e).position = c.position ∧ (c.fire e).homed = c.homed := by
  cases e with
  | arrived target presenting => exact absurd ⟨target, presenting, rfl⟩ he
  | ackExpired => simp only [fire]; split <;> exact ⟨rfl, rfl⟩
  | backInSlot => simp only [fire]; split <;> exact ⟨rfl, rfl⟩
  | _ => exact ⟨rfl, rfl⟩

theorem fire_arrived (target : Nat) (presenting : Bool) (c : Carousel) :
    (c.fire (.arrived target presenting)).position = target ∧
      (c.fire (.arrived target presenting)).homed = true := by
  cases presenting <;> exact ⟨rfl, rfl⟩

/-- Nothing ends homing. -/
theorem fire_homed (e : CarouselEvent) {c : Carousel} (h : c.homed = true) :
    (c.fire e).homed = true := by
  by_cases he : Arrives e
  · obtain ⟨target, presenting, rfl⟩ := he
    exact (fire_arrived target presenting c).2
  · exact (fire_position he c).2.trans h

/-- What is pending stays pending until it is due. -/
theorem fire_pending (e : CarouselEvent) {c : Carousel} {x : Nat × CarouselEvent}
    (hx : x ∈ c.events) : x ∈ (c.fire e).events := by
  cases e with
  | discArrives => exact Agenda.mem_push.mpr (.inr hx)
  | discDrawnOff => exact Agenda.mem_push.mpr (.inr hx)
  | ackExpired => simp only [fire]; split <;> exact hx
  | arrived target presenting => simp only [fire]; split <;> exact hx
  | backInSlot =>
    simp only [fire]
    split
    · exact Agenda.mem_push.mpr (.inr hx)
    · exact hx
  | _ => exact hx

theorem fire_moves (e : CarouselEvent) (c : Carousel) : (c.fire e).moves = c.moves := by
  unfold moves
  rw [(fire_sameSetup e c).log]

section Drifting

variable {moved : List (Nat × List Nat)} {known : Bool} {slot : Nat}

theorem Timely.drifts : Drifts (Timely moved) where
  hand _ _ _ h := ⟨fun x hx ha => h.due x (mem_at_hand hx ha) ha, h.moves⟩
  later _ _ h := ⟨h.due, h.moves⟩
  fire c t e h _ _ := by
    obtain ⟨hmem, hbusy⟩ := fire_arrives e { c with events := c.events.pop }
    refine ⟨fun x hx ha => Nat.le_trans ?_ hbusy, (fire_moves e _).trans h.moves⟩
    exact h.due x (Agenda.mem_of_mem_pop (hmem x hx ha)) ha

theorem Landed.drifts : Drifts (Landed moved known) where
  hand _ _ _ h := ⟨fun x hx ha => h.still x (mem_at_hand hx ha) ha, h.moves, h.homed⟩
  later _ _ h := ⟨h.still, h.moves, h.homed⟩
  fire c t e h _ _ := by
    have hmem := (fire_arrives e { c with events := c.events.pop }).1
    refine ⟨fun x hx ha => ?_, (fire_moves e _).trans h.moves, fun hk => fire_homed e (h.homed hk)⟩
    exact h.still x (Agenda.mem_of_mem_pop (hmem x hx ha)) ha

/-- The event that fires moves nothing when nothing on the agenda does. -/
theorem Landed.head {c : Carousel} (h : c.Landed moved known) {t : Nat} {e : CarouselEvent}
    (hhead : c.events.entries.head? = some (t, e)) : ¬ Arrives e :=
  h.still (t, e) (List.mem_of_head? hhead)

theorem Docked.drifts : Drifts (Docked moved slot) where
  hand t a c h := ⟨Landed.drifts.hand t a c h.toLanded, h.position⟩
  later ms c h := ⟨Landed.drifts.later ms c h.toLanded, h.position⟩
  fire c t e h hhead hdue :=
    ⟨Landed.drifts.fire c t e h.toLanded hhead hdue,
      (fire_position (h.toLanded.head hhead) _).1.trans h.position⟩

theorem Headed.drifts : Drifts (Headed moved slot) where
  hand t a c h := by
    refine ⟨Timely.drifts.hand t a c h.toTimely, fun x hx ha => h.bound x (mem_at_hand hx ha) ha,
      h.pending.imp_left ?_⟩
    rintro ⟨x, hx, ha⟩
    exact ⟨x, Agenda.mem_push.mpr (.inr hx), ha⟩
  later ms c h := ⟨Timely.drifts.later ms c h.toTimely, h.bound, h.pending⟩
  fire c t e h hhead hdue := by
    have hmem := (fire_arrives e { c with events := c.events.pop }).1
    refine ⟨Timely.drifts.fire c t e h.toTimely hhead hdue, fun x hx ha => ?_, ?_⟩
    · exact h.bound x (Agenda.mem_of_mem_pop (hmem x hx ha)) ha
    by_cases he : Arrives e
    · obtain ⟨presenting, rfl⟩ := h.bound (t, e) (List.mem_of_head? hhead) he
      exact .inr (fire_arrived slot presenting _)
    · obtain ⟨hposition, hhomed⟩ := fire_position he { c with events := c.events.pop }
      refine h.pending.imp ?_ fun ⟨hp, hh⟩ => ⟨hposition.trans hp, hhomed.trans hh⟩
      rintro ⟨x, hx, ha⟩
      refine ⟨x, fire_pending e ?_, ha⟩
      obtain ⟨rest, hentries⟩ := List.head?_eq_some_iff.mp hhead
      rw [Agenda.mem_def, hentries] at hx
      show x ∈ c.events.entries.tail
      rw [hentries]
      rcases List.mem_cons.mp hx with rfl | hx
      · exact absurd ha he
      · exact hx

end Drifting

/-! ## What commands do -/

/-- What a command that is no move, or is dropped, leaves alone; `sent` is what it adds to the
accepted moves. -/
structure Unmoved (sent : List (Nat × List Nat)) (c d : Carousel) : Prop where
  arrives : ∀ x ∈ d.events, Arrives x.2 → x ∈ c.events
  busyUntil : c.busyUntil ≤ d.busyUntil
  position : d.position = c.position
  homed : d.homed = c.homed
  moves : d.moves = c.moves ++ sent

theorem Unmoved.refl (c : Carousel) : Unmoved [] c c :=
  ⟨fun _ hx _ => hx, Nat.le_refl _, rfl, rfl, (List.append_nil _).symm⟩

theorem Unmoved.trans {sent : List (Nat × List Nat)} {a b c : Carousel} (h : Unmoved [] a b)
    (h' : Unmoved sent b c) : Unmoved sent a c :=
  ⟨fun x hx ha => h.arrives x (h'.arrives x hx ha) ha, Nat.le_trans h.busyUntil h'.busyUntil,
    h'.position.trans h.position, h'.homed.trans h.homed,
    h'.moves.trans (by rw [h.moves, List.append_nil])⟩

theorem Unmoved.timely {moved sent : List (Nat × List Nat)} {c d : Carousel} (h : Unmoved sent c d)
    (hc : c.Timely moved) : d.Timely (moved ++ sent) :=
  ⟨fun x hx ha => Nat.le_trans (hc.due x (h.arrives x hx ha) ha) h.busyUntil, by rw [h.moves, hc.moves]⟩

theorem Unmoved.landed {moved sent : List (Nat × List Nat)} {known : Bool} {c d : Carousel}
    (h : Unmoved sent c d) (hc : c.Landed moved known) : d.Landed (moved ++ sent) known :=
  ⟨fun x hx ha => hc.still x (h.arrives x hx ha) ha, by rw [h.moves, hc.moves],
    fun hk => h.homed.trans (hc.homed hk)⟩

/-- The log with a command on it. -/
theorem unmoved_logged (cmd : Nat) (args : List Nat) (c : Carousel) :
    Unmoved (if cmd = 0x04 then [(cmd, args)] else []) c { c with log := c.log ++ [(cmd, args)] } := by
  refine ⟨fun _ hx _ => hx, Nat.le_refl _, rfl, rfl, ?_⟩
  show (c.log ++ [(cmd, args)]).filter _ = c.moves ++ _
  rw [List.filter_append]
  congr 1
  split
  next h => exact List.filter_eq_self.mpr fun x hx => by rw [List.mem_singleton.mp hx, h]; rfl
  next h =>
    refine List.filter_eq_nil_iff.mpr fun x hx => ?_
    rw [List.mem_singleton.mp hx, decide_eq_true_eq]
    exact h

theorem dispatch_unmoved {cmd : Nat} (hcmd : cmd ≠ 0x04) (args : List Nat) (c : Carousel) :
    Unmoved [] c (c.dispatch cmd args).2 := by
  have hsame : ∀ d : Carousel, d.events = c.events → d.busyUntil = c.busyUntil →
      d.position = c.position → d.homed = c.homed → d.log = c.log → Unmoved [] c d := by
    intro d he hb hp hh hl
    refine ⟨fun x hx _ => he ▸ hx, hb ▸ Nat.le_refl _, hp, hh, ?_⟩
    unfold Carousel.moves
    rw [hl, List.append_nil]
  have hpush : ∀ (e' : CarouselEvent) (t ms : Nat), ¬ Arrives e' → ∀ d : Carousel,
      d.events = c.events.push t e' → d.busyUntil = max c.busyUntil ms → d.position = c.position →
      d.homed = c.homed → d.log = c.log → Unmoved [] c d := by
    intro e' t ms he' d he hb hp hh hl
    refine ⟨fun x hx ha => ?_, hb ▸ Nat.le_max_left _ _, hp, hh, ?_⟩
    · rw [he] at hx
      rcases Agenda.mem_push.mp hx with rfl | hx
      · exact absurd ha he'
      · exact hx
    · unfold Carousel.moves
      rw [hl, List.append_nil]
  refine dispatch_rule (P := fun r => Unmoved [] c r.2) (fun _ => ?_) (fun _ => ?_)
    (fun h => absurd h hcmd) (fun _ => ?_) (fun _ => ?_) (fun _ => ?_) fun _ _ => .refl c
  · exact hsame _ rfl rfl rfl rfl rfl
  · exact hsame _ rfl rfl rfl rfl rfl
  · exact hpush .backInSlot _ _ nofun _ rfl rfl rfl rfl rfl
  · exact hsame _ rfl rfl rfl rfl rfl
  · unfold cmd1d
    split
    · exact .refl c
    · exact hpush (.stored c.position) _ _ nofun _ rfl rfl rfl rfl rfl

/-- What `handle` made of a command, by whether it was an accepted `0x04`. -/
inductive Steered (cmd : Nat) (args : List Nat) (c : Carousel) :
    Option (List Nat) → Carousel → Prop
  | unmoved {r : Option (List Nat)} {d : Carousel} (h : Unmoved [] c.runDue d)
    (hcmd : r = none ∨ cmd ≠ 0x04) : Steered cmd args c r d
  | turned {d : Carousel} (h : Unmoved [(cmd, args)] c.runDue d) (hcmd : cmd = 0x04) :
    Steered cmd args c (some (cmd04 args d).1) (cmd04 args d).2

theorem handle_steered (cmd : Nat) (args : List Nat) (c : Carousel) :
    Steered cmd args c (c.handle cmd args).1 (c.handle cmd args).2 := by
  have hkept : ∀ b d : Carousel, d.events = b.events → b.busyUntil ≤ d.busyUntil →
      d.position = b.position → d.homed = b.homed → d.log = b.log → Unmoved [] b d := by
    intro b d he hb hp hh hl
    refine ⟨fun x hx _ => he ▸ hx, hb, hp, hh, ?_⟩
    unfold Carousel.moves
    rw [hl, List.append_nil]
  refine handle_rule (P := fun r => Steered cmd args c r.1 r.2) (fun _ _ => ?_) (fun _ _ _ _ => ?_)
    fun d hd => ?_
  · exact .unmoved (hkept _ _ rfl (Nat.le_refl _) rfl rfl rfl) (.inl rfl)
  · exact .unmoved (hkept _ _ rfl (Nat.le_max_left _ _) rfl rfl rfl) (.inl rfl)
  have hheard : Unmoved [] c.runDue d := by
    cases hd <;> exact hkept _ _ rfl (Nat.le_refl _) rfl rfl rfl
  refine hear_rule (P := fun r => Steered cmd args c r.1 r.2) (fun _ _ _ => ?_) fun _ => ?_
  · exact .unmoved (hheard.trans (hkept _ _ rfl (Nat.le_refl _) rfl rfl rfl)) (.inl rfl)
  have hlogged := hheard.trans (unmoved_logged cmd args d)
  by_cases hcmd : cmd = 0x04
  · rw [if_pos hcmd] at hlogged
    subst hcmd
    exact .turned hlogged rfl
  · rw [if_neg hcmd] at hlogged
    exact .unmoved (hlogged.trans (dispatch_unmoved hcmd args _)) (.inr hcmd)

/-- An accepted move heads for its target. -/
theorem cmd04_headed {moved : List (Nat × List Nat)} {known : Bool} {c : Carousel}
    (h : c.Landed moved known) (args : List Nat) :
    (cmd04 args c).2.Headed moved (args.getD 0 0) := by
  refine ⟨⟨fun x hx ha => ?_, h.moves⟩, fun x hx ha => ?_, .inl ?_⟩
  · rcases Agenda.mem_push.mp hx with rfl | hx
    · show c.now + _ ≤ max c.busyUntil (c.now + _)
      omega
    · exact absurd ha (h.still x hx)
  · rcases Agenda.mem_push.mp hx with rfl | hx
    · exact ⟨_, rfl⟩
    · exact absurd ha (h.still x hx)
  · exact ⟨_, Agenda.mem_push.mpr (.inl rfl), _, _, rfl⟩

theorem cmd04_timely {moved : List (Nat × List Nat)} {c : Carousel} (h : c.Timely moved)
    (args : List Nat) : (cmd04 args c).2.Timely moved := by
  refine ⟨fun x hx ha => ?_, h.moves⟩
  rcases Agenda.mem_push.mp hx with rfl | hx
  · show c.now + _ ≤ max c.busyUntil (c.now + _)
    omega
  · exact Nat.le_trans (h.due x hx ha) (Nat.le_max_left _ _)

theorem handle_landed {moved : List (Nat × List Nat)} {known : Bool} {cmd : Nat}
    (hcmd : cmd ≠ 0x04) (args : List Nat) {c : Carousel} (h : c.Landed moved known) :
    (c.handle cmd args).2.Landed moved known := by
  have hmade := handle_steered cmd args c
  cases hr : c.handle cmd args with
  | _ r d =>
  rw [hr] at hmade
  cases hmade with
  | unmoved hkept => exact List.append_nil moved ▸ hkept.landed (Landed.drifts.runDue h)
  | turned _ hmove => exact absurd hmove hcmd

theorem handle_timely {moved : List (Nat × List Nat)} {cmd : Nat} (hcmd : cmd ≠ 0x04)
    (args : List Nat) {c : Carousel} (h : c.Timely moved) : (c.handle cmd args).2.Timely moved := by
  have hmade := handle_steered cmd args c
  cases hr : c.handle cmd args with
  | _ r d =>
  rw [hr] at hmade
  cases hmade with
  | unmoved hkept => exact List.append_nil moved ▸ hkept.timely (Timely.drifts.runDue h)
  | turned _ hmove => exact absurd hmove hcmd

/-- A move that is dropped leaves the carousel where it is, and one that is accepted heads for its
target. -/
theorem handle_move {moved : List (Nat × List Nat)} {known : Bool} (args : List Nat) {c : Carousel}
    (h : c.Landed moved known) :
    Reacts (Landed moved known) (fun _ => Headed (moved ++ [(0x04, args)]) (args.getD 0 0))
      (c.handle 0x04 args).1 (c.handle 0x04 args).2 := by
  have hdue := Landed.drifts.runDue h
  have hmade := handle_steered 0x04 args c
  cases hr : c.handle 0x04 args with
  | _ r d =>
  rw [hr] at hmade
  cases hmade with
  | unmoved hkept hcmd =>
    rcases hcmd with rfl | hcmd
    · exact List.append_nil moved ▸ hkept.landed hdue
    · exact absurd rfl hcmd
  | turned hkept => exact cmd04_headed (hkept.landed hdue) args

/-- Every reachable carousel is busy while it is on its way, and stands at a byte's position. -/
structure Bounded (c : Carousel) : Prop where
  due : ∀ x ∈ c.events, Arrives x.2 → x.1 ≤ c.busyUntil
  targets : ∀ x ∈ c.events, ∀ target presenting, x.2 = .arrived target presenting → target ≤ 255
  position : c.position ≤ 255

theorem Bounded.drifts : Drifts Bounded where
  hand t a c h := by
    refine ⟨fun x hx ha => h.due x (mem_at_hand hx ha) ha, fun x hx target presenting he => ?_, h.position⟩
    exact h.targets x (mem_at_hand hx ⟨target, presenting, he⟩) target presenting he
  later _ _ h := ⟨h.due, h.targets, h.position⟩
  fire c t e h hhead hdue := by
    have hmem := (fire_arrives e { c with events := c.events.pop }).1
    refine ⟨(Timely.drifts.fire c t e ⟨h.due, rfl⟩ hhead hdue).due, fun x hx target presenting he => ?_, ?_⟩
    · exact h.targets x (Agenda.mem_of_mem_pop (hmem x hx ⟨target, presenting, he⟩)) target presenting he
    by_cases ha : Arrives e
    · obtain ⟨target, presenting, rfl⟩ := ha
      rw [(fire_arrived target presenting _).1]
      exact h.targets _ (List.mem_of_head? hhead) target presenting rfl
    · rw [(fire_position ha _).1]
      exact h.position

theorem Bounded.handle {c : Carousel} (h : c.Bounded) (cmd : Nat) {args : List Nat}
    (hbytes : ∀ b ∈ args, b ≤ 255) : (c.handle cmd args).2.Bounded := by
  have hdue := Bounded.drifts.runDue h
  have hmade := handle_steered cmd args c
  cases hr : c.handle cmd args with
  | _ r d =>
  rw [hr] at hmade
  have hkept : ∀ {sent d}, Unmoved sent c.runDue d → d.Bounded := fun hd =>
    ⟨(hd.timely ⟨hdue.due, rfl⟩).due, fun x hx target presenting he =>
      hdue.targets x (hd.arrives x hx ⟨target, presenting, he⟩) target presenting he,
      hd.position ▸ hdue.position⟩
  cases hmade with
  | unmoved hd => exact hkept hd
  | @turned d hd =>
    have hd := hkept hd
    refine ⟨(cmd04_timely ⟨hd.due, rfl⟩ args).due, fun x hx target presenting he => ?_, hd.position⟩
    rcases Agenda.mem_push.mp hx with rfl | hx
    · cases he
      rcases args with _ | ⟨b, _⟩
      · exact Nat.zero_le _
      · exact hbytes b List.mem_cons_self
    · exact hd.targets x hx target presenting he

theorem Reachable.bounded {c : Carousel} (h : c.Reachable) : c.Bounded := by
  induction h with
  | made =>
    exact ⟨fun _ hx => absurd hx (Agenda.not_mem_empty _),
      fun _ hx => absurd hx (Agenda.not_mem_empty _), Nat.zero_le _⟩
  | hand t a _ ih => exact Bounded.drifts.hand t a _ ih
  | later ms _ ih => exact Bounded.drifts.later ms _ ih
  | runDue _ ih => exact Bounded.drifts.runDue ih
  | handle cmd args hbytes _ ih => exact ih.handle cmd hbytes

theorem Reachable.timely {c : Carousel} (h : c.Reachable) : c.Timely c.moves := ⟨h.bounded.due, rfl⟩

end Carousel

/-! ## Waiting and moving -/

section Client

open Carousel

variable {moved : List (Nat × List Nat)} {known : Bool} {slot : Nat}

/-- A status request is no move. -/
theorem asked_moves (c : Carousel) : c.asked.moves = c.moves := by
  show List.filter _ (c.log ++ _) = List.filter _ c.log
  rw [List.filter_append]
  exact List.append_nil _

theorem timely_reports :
    Reports (Timely moved) fun st c => c.Timely moved ∧ (st &&& stBusy = 0 → c.Landed moved false) where
  before := Timely.drifts
  after _ := Timely.drifts.and_imp Landed.drifts _
  weaken _ _ h := h.1
  report c h hlater := by
    refine ⟨⟨h.due, (asked_moves c).trans h.moves⟩, fun hst => ?_⟩
    exact ⟨h.still (c.status_busy.mp hst) hlater, (asked_moves c).trans h.moves, nofun⟩

theorem homed_reports :
    Reports (Landed moved known) fun st c =>
      c.Landed moved known ∧ (st &&& stHomed ≠ 0 → c.Landed moved true) where
  before := Landed.drifts
  after _ := Landed.drifts.and_imp Landed.drifts _
  weaken _ _ h := h.1
  report c h _ := by
    refine ⟨⟨h.still, (asked_moves c).trans h.moves, h.homed⟩, fun hst => ?_⟩
    refine ⟨h.still, (asked_moves c).trans h.moves, fun _ => ?_⟩
    exact Bool.of_not_eq_false fun hn => hst (c.status_homed.mpr hn)

theorem headed_reports :
    Reports (Headed moved slot) fun st c =>
      c.Headed moved slot ∧ (st &&& stBusy = 0 → c.Docked moved slot) where
  before := Headed.drifts
  after _ := Headed.drifts.and_imp Docked.drifts _
  weaken _ _ h := h.1
  report c h hlater := by
    refine ⟨⟨⟨h.due, (asked_moves c).trans h.moves⟩, h.bound, h.pending⟩, fun hst => ?_⟩
    have hstill := h.toTimely.still (c.status_busy.mp hst) hlater
    obtain ⟨hposition, hhomed⟩ := h.pending.resolve_left fun ⟨x, hx, ha⟩ => hstill x hx ha
    exact ⟨⟨hstill, (asked_moves c).trans h.moves, fun _ => hhomed⟩, hposition⟩

variable (moved known) in
theorem landed_kept : Kept (fun cmd args => args.length ≤ 5 ∧ cmd ≠ 0x04)
    fun w : World Sim => w.io.car.Landed moved known :=
  (Landed.drifts.stable (fun _ _ _ hW h => handle_landed hW.2 _ h) fun _ _ hW => hW.1).kept

/-- Of an end by an exception nothing is said. -/
abbrev Unsaid (_ : Option Exc) (_ : World Sim) : Prop := True

theorem unsaid {α : Type} {P : World Sim → Prop} {m : Py Sim α} {Q : α → World Sim → Prop}
    {R : Option Exc → World Sim → Prop} (h : Triple P m Q R) : Triple P m Q Unsaid :=
  h.unsaid

/-- Sending a move until it is heard. -/
theorem requireFrom_headed {args : List Nat} (hargs : args.length ≤ 5) (tries left : Nat) :
    Triple (fun w : World Sim => w.io.car.Landed moved known) (requireFrom cmdSetPos args tries left)
      (fun _ w => w.io.car.Headed (moved ++ [(0x04, Sim.padded args)]) ((Sim.padded args).getD 0 0))
      Unsaid := by
  let heard := Headed (moved ++ [(0x04, Sim.padded args)]) ((Sim.padded args).getD 0 0)
  have hH : ∀ r, Drifts (Reacts (Landed moved known) (fun _ => heard) r) :=
    drifts_reacts Landed.drifts fun _ => Headed.drifts
  have hcommand := unsaid (triple_command_drift Landed.drifts hH hargs
    (fun c hc => handle_move (Sim.padded args) hc) (show 0 < ackMs by decide))
  induction left with
  | zero => exact Triple.raise fun w _ => trivial
  | succ left ih =>
    refine hcommand.bind fun reply => ?_
    cases reply with
    | some p => exact Triple.pure fun w hw => hw.2
    | none =>
      have hwait := (landed_kept moved known).waitState ⟨by decide, by decide⟩ stBusy 0 2000
      refine Triple.bind (M := fun _ w => w.io.car.Landed moved known) (Triple.when (fun _ => ?_)
        fun w hw _ => hw.elim id id) fun _ => ih
      refine Triple.bind (unsaid (hwait.pre fun w hw => hw.elim id id)) fun _ => ?_
      exact Triple.pure fun w hw => hw

/-- A move home, in the log. -/
def homeward : Nat × List Nat := (0x04, [0, 0, 0, 0, 0])

theorem status_homed_told :
    Triple (fun w : World Sim => w.io.car.Landed moved known) status
      (fun st w => w.io.car.Landed moved known ∧ (st &&& stHomed ≠ 0 → w.io.car.Landed moved true))
      Unsaid :=
  (unsaid homed_reports.status).post fun _ _ hw => hw.2

/-- **After `ensure_homed` the carousel is homed**, and has moved to home or not at all. -/
theorem ensureHomed_homed (progress : Progress) :
    Triple (fun w : World Sim => w.io.car.Landed moved known) (ensureHomed progress)
      (fun _ w => ∃ homes, (∀ move ∈ homes, move = homeward) ∧ w.io.car.Landed (moved ++ homes) true)
      Unsaid := by
  refine status_homed_told.bind fun st => Triple.ite (fun hst => ?_) fun _ => ?_
  · refine Triple.pure fun w hw => ⟨[], nofun, ?_⟩
    rw [List.append_nil]
    exact hw.2 hst
  have hhomed : ∀ w : World Sim, w.io.car.Landed (moved ++ [homeward]) true →
      ∃ homes, (∀ move ∈ homes, move = homeward) ∧ w.io.car.Landed (moved ++ homes) true :=
    fun w hw => ⟨[homeward], fun _ hm => List.mem_singleton.mp hm, hw⟩
  have hidle := unsaid ((landed_kept moved known).idleOr
    ⟨by decide, by decide⟩ "unit is busy; cannot home it")
  refine Triple.bind (hidle.pre fun w hw => hw.1) fun _ => ?_
  refine Triple.bind (unsaid ((landed_kept moved known).report progress _)) fun _ => ?_
  refine Triple.bind (requireFrom_headed (by decide) 3 3) fun _ => ?_
  refine Triple.bind (unsaid (headed_reports.idleOr _)) fun _ => ?_
  refine Triple.bind (status_homed_told.pre fun w hw => hw.toLanded) fun st => ?_
  exact Triple.raiseIf (fun _ _ _ => trivial) fun w hw _ => hhomed w hw.1

theorem refuse_landed :
    Triple (fun w : World Sim => w.io.car.Landed moved known) refuseWithADiscOut
      (fun _ w => w.io.car.Landed moved known) Unsaid :=
  unsaid ((landed_kept moved known).refuseWithADiscOut ⟨by decide, by decide⟩)

/-- **A move that returns really happened**; on the way home nothing is homed first. -/
theorem moveTo_docked (moved : List (Nat × List Nat)) (slot : Nat) (eject : Bool)
    (progress : Progress) :
    Triple (fun w : World Sim => w.io.car.Timely moved) (moveTo slot eject progress)
      (fun _ w => ∃ homes, ((∀ move ∈ homes, move = homeward) ∧ (slot = home → homes = [])) ∧
        w.io.car.Docked (moved ++ homes ++ [(0x04, Sim.padded [slot, if eject then 1 else 0])]) slot)
      Unsaid := by
  refine Triple.bind (M := fun _ w => w.io.car.Timely moved) (Triple.raiseIf
    (fun _ _ _ => trivial) fun w hw _ => hw) fun _ => ?_
  refine Triple.bind (unsaid (timely_reports.idleOr _)) fun _ => refuse_landed.bind fun _ => ?_
  refine Triple.bind (M := fun _ w => ∃ homes, ((∀ move ∈ homes, move = homeward) ∧
    (slot = home → homes = [])) ∧ w.io.car.Landed (moved ++ homes) false) ?_ fun _ =>
      Triple.of_exists fun homes => Triple.of_fact fun hhomes => ?_
  · refine Triple.when (fun haway => (ensureHomed_homed progress).post ?_) fun w hw _ => ?_
    · rintro _ w ⟨homes, hhomes, hw⟩
      exact ⟨homes, ⟨hhomes, fun hhome => absurd hhome (of_decide_eq_true haway)⟩, hw.still, hw.moves, nofun⟩
    · exact ⟨[], ⟨nofun, fun _ => rfl⟩, by rwa [List.append_nil]⟩
  refine Triple.bind (requireFrom_headed (by simp) 3 3) fun _ => ?_
  exact (unsaid (headed_reports.idleOr _)).post fun _ w hw => ⟨homes, hhomes, hw⟩

/-- **A reset that returns leaves the carousel at home.** -/
theorem reset_docked (moved : List (Nat × List Nat)) (progress : Progress) :
    Triple (fun w : World Sim => w.io.car.Timely moved) (reset progress)
      (fun _ w => w.io.car.Docked (moved ++ [homeward]) home) Unsaid := by
  have hkept : Kept (fun cmd args => args.length ≤ 5 ∧ cmd ≠ 0x04)
      fun w : World Sim => w.io.car.Timely moved :=
    (Timely.drifts.stable (fun _ _ _ hW h => handle_timely hW.2 _ h) fun _ _ hW => hW.1).kept
  refine Triple.bind (unsaid (hkept.report _ _)) fun _ => ?_
  refine Triple.bind (unsaid (hkept.command ⟨by decide, by decide⟩ ackMs)) fun _ => ?_
  refine Triple.bind (unsaid (hkept.command ⟨by decide, by decide⟩ ackMs)) fun _ => ?_
  refine Triple.bind (unsaid (hkept.command ⟨by decide, by decide⟩ ackMs)) fun _ => ?_
  refine Triple.bind (unsaid (timely_reports.idleOr _)) fun _ => refuse_landed.bind fun _ => ?_
  have hlanded := landed_kept moved false
  refine Triple.bind (unsaid (hlanded.command ⟨by decide, by decide⟩ ackMs)) fun _ => ?_
  refine Triple.bind (unsaid (hlanded.report _ _)) fun _ => ?_
  refine Triple.bind (requireFrom_headed (by decide) 3 3) fun _ => ?_
  exact unsaid (headed_reports.idleOr _)

/-! ## No move meets an unhomed carousel -/

/-- A `0x04` for a slot that reaches the carousel while it is not homed. -/
def Unhomed : OutsideCall × Sim → Prop
  | (.write buf, s) => buf.getD 4 0 = 0x04 ∧ buf.getD 5 0 ≠ 0 ∧ s.stir.car.runDue.homed = false
  | _ => False

/-- There is none on the tape. -/
def Obeyed (s : Taped Sim) : Prop := ∀ x ∈ s.tape, ¬ Unhomed x

theorem Obeyed.note {s : Taped Sim} (h : Obeyed s) {call : OutsideCall}
    (hcall : ¬ Unhomed (call, s.inner)) (inner : Sim) : Obeyed (s.note call inner) :=
  Clear.note h hcall inner

theorem unhomed_writes (x : OutsideCall × Sim) (hx : Unhomed x) : ∃ buf, x.1 = .write buf := by
  rcases x with ⟨call, s⟩
  cases call with
  | write buf => exact ⟨buf, rfl⟩
  | _ => exact hx.elim

theorem obeyed_kept :
    Kept (fun cmd args => cmd = 0x04 → (Sim.padded args).getD 0 0 = 0)
      fun w : World (Taped Sim) => Obeyed w.io :=
  clear_kept unhomed_writes fun hw _ _ _ hx => hx.2.1 (hw hx.1)

theorem homed_drifts : Drifts fun c => c.homed = true where
  hand _ _ _ h := h
  later _ _ h := h
  fire _ _ e h _ _ := fire_homed e h

theorem handle_homed (cmd : Nat) (args : List Nat) {c : Carousel} (h : c.homed = true) :
    (c.handle cmd args).2.homed = true := by
  have hdue := homed_drifts.runDue h
  have hmade := handle_steered cmd args c
  cases hr : c.handle cmd args with
  | _ r d =>
  rw [hr] at hmade
  cases hmade with
  | unmoved hkept => exact hkept.homed.trans hdue
  | turned hkept => exact hkept.homed.trans hdue

/-- The carousel is homed, and no move met it when it was not. -/
def HomedObeyed (s : Taped Sim) : Prop := s.inner.car.homed = true ∧ Obeyed s

/-- Once the carousel is homed, every move may be sent. -/
theorem homedObeyed_kept :
    Kept (fun _ args => args.length ≤ 5) fun w : World (Taped Sim) => HomedObeyed w.io :=
  have hstable := homed_drifts.stable (W := fun _ args => args.length ≤ 5)
    (fun cmd args c _ h => handle_homed cmd (Sim.padded args) h) fun _ _ hW => hW
  Stable.kept (J := HomedObeyed) {
    opens := fun s h => ⟨hstable.opens s.inner h.1, h.2.note id _⟩
    closes := fun s h => ⟨hstable.closes s.inner h.1, h.2.note id _⟩
    read := fun ms s h => ⟨hstable.read ms s.inner h.1, h.2.note id _⟩
    write := fun unit msgid cmd args s hW h => by
      have hcall : ¬ Unhomed (.write (reportBytes unit msgid cmd args), s.inner) := by
        rintro ⟨_, _, hnot⟩
        rw [homed_drifts.runDue (homed_drifts.stir h.1)] at hnot
        cases hnot
      exact ⟨hstable.write unit msgid cmd args s.inner hW h.1, h.2.note hcall _⟩
    clock := fun s h => ⟨hstable.clock s.inner h.1, h.2.note id _⟩
    sleep := fun ms s h => ⟨hstable.sleep ms s.inner h.1, h.2.note id _⟩ }

/-- What holds without the tape, and what is kept of it. -/
theorem taped_and {α : Type} {m : Py Sim α} {m' : Py (Taped Sim) α} {P : World Sim → Prop}
    {Q : α → World Sim → Prop} {J : Taped Sim → Prop} (hm : Paired OnTapeOf Eq m m')
    (h : Triple P m Q Unsaid) (hk : Keeps (fun w => J w.io) m') :
    Triple (fun w => Untaped P w ∧ J w.io) m' (fun a w => Untaped (Q a) w ∧ J w.io)
      (fun _ _ => True) :=
  ((triple_taped hm h).and hk).conseq (fun _ => id) (fun _ _ => id) fun _ _ _ => trivial

/-- **A move to a slot is not sent to a carousel that is not homed.** -/
theorem moveTo_obeyed (moved : List (Nat × List Nat)) (slot : Nat) (eject : Bool)
    (progress : Progress) :
    Triple (fun w : World (Taped Sim) => Untaped (fun w => w.io.car.Timely moved) w ∧ Obeyed w.io)
      (moveTo slot eject progress) (fun _ w => Obeyed w.io) (fun _ _ => True) := by
  have hs : cmdRequestState = 0x04 → (Sim.padded []).getD 0 0 = 0 := fun _ => rfl
  have hpoll := matched_polls taped_twins (σ := Sim)
  refine Triple.bind (M := fun _ w => Untaped (fun w => w.io.car.Timely moved) w ∧ Obeyed w.io)
    (Triple.raiseIf (fun _ _ _ => trivial) fun w hw _ => hw) fun _ => ?_
  refine Triple.bind (taped_and (hpoll.idleOr _) (unsaid (timely_reports.idleOr _))
    (obeyed_kept.idleOr hs _)) fun _ => ?_
  refine Triple.bind (taped_and (matched_refuse taped_twins) refuse_landed
    (obeyed_kept.refuseWithADiscOut hs)) fun _ => ?_
  by_cases hslot : slot = home
  · subst hslot
    have hrest := (obeyed_kept.require hs (fun _ => rfl :
      cmdSetPos = 0x04 → (Sim.padded [home, if eject then 1 else 0]).getD 0 0 = 0)).bind fun _ =>
        obeyed_kept.idleOr hs ("timed out moving to slot " ++ toString home)
    exact hrest.conseq (fun w hw => hw.2) (fun _ _ => id) fun _ _ _ => trivial
  · refine Triple.bind (M := fun _ w => HomedObeyed w.io) ?_ fun _ => ?_
    · refine Triple.when (fun _ => ?_) fun w _ hno => absurd hslot (of_decide_eq_false hno)
      refine (taped_and (matched_ensureHomed taped_twins progress) (ensureHomed_homed progress)
        (obeyed_kept.ensureHomed hs (fun _ => rfl) progress)).post ?_
      rintro _ w ⟨⟨w₀, hw₀, homes, _, hlanded⟩, hobeyed⟩
      exact ⟨hw₀.outside ▸ hlanded.homed rfl, hobeyed⟩
    · have hsend : Keeps (fun w : World (Taped Sim) => HomedObeyed w.io)
          (require cmdSetPos [slot, if eject then 1 else 0]) :=
        homedObeyed_kept.require (by decide) (by simp)
      have hrest := hsend.bind fun _ =>
        homedObeyed_kept.idleOr (by decide) ("timed out moving to slot " ++ toString slot)
      exact hrest.conseq (fun _ => id) (fun _ w hw => hw.2) fun _ _ _ => trivial

end Client

end StakkaWeb
