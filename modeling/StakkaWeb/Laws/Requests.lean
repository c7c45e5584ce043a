import StakkaWeb.Requests
import StakkaWeb.Laws.Catalog

/-!
# What a running job may rely on

A request checks the catalogue, and whether a job uses what it is about, before it submits a job
or writes. `Premise` is what the flow of a job needs of the catalogue until its own write; it holds
of every running job (of an eject once that has read its row) as long as no request acts on a check
that no longer holds (`Timely`).
-/

set_option autoImplicit false

namespace StakkaWeb

open Lib

namespace Task

/-- What a job needs of the catalogue until its own write. -/
def Premise (c : Catalog) : Task → Prop
  | reset => True
  | add slot => c.getBySlot slot.val = none
  | return_ discId _ => ∃ disc, c.getDisc discId = some disc ∧ disc.status = .out
  | eject discId _ => c.getDisc discId ≠ none

/-- What it needs when it is let in: an eject has yet to read its row. -/
def Startable (c : Catalog) : Task → Prop
  | eject _ _ => True
  | job => job.Premise c

/-- The row that a job is about is there. -/
def Kept (c : Catalog) (job : Task) : Prop := ∀ d, job.discId = some d → c.getDisc d ≠ none

theorem Premise.kept {c : Catalog} {job : Task} (h : job.Premise c) : job.Kept c := by
  rintro d hd hnone
  cases job with
  | reset | add => cases hd
  | return_ discId slot =>
    obtain ⟨disc, hdisc, _⟩ := h
    cases hd
    rw [hnone] at hdisc
    cases hdisc
  | eject discId slot =>
    cases hd
    exact h hnone

/-- A write from `c` to `c'` that leaves alone what the job is about. -/
structure Spared (job : Task) (c c' : Catalog) : Prop where
  disc : ∀ d, job.discId = some d → ∀ disc, c.getDisc d = some disc → c'.getDisc d = some disc
  slot : ∀ n, job.slot = some n → c.getBySlot n = none → c'.getBySlot n = none

namespace Spared

variable {job : Task} {c c' : Catalog}

theorem premise (h : job.Spared c c') (hp : job.Premise c) : job.Premise c' := by
  cases job with
  | reset => trivial
  | add slot => exact h.slot slot.val rfl hp
  | return_ discId slot =>
    obtain ⟨disc, hdisc, hout⟩ := hp
    exact ⟨disc, h.disc discId rfl disc hdisc, hout⟩
  | eject discId slot =>
    obtain ⟨disc, hdisc⟩ := Option.ne_none_iff_exists'.mp hp
    exact Option.ne_none_iff_exists'.mpr ⟨disc, h.disc discId rfl disc hdisc⟩

theorem startable (h : job.Spared c c') (hp : job.Startable c) : job.Startable c' := by
  cases job with
  | reset | eject => trivial
  | add | return_ => exact h.premise hp

theorem setStatus {target : Nat} {f : Disc → Disc} {kind : EventKind} {detail : Option String}
    {now : Stamp} (h : c.setStatus target f kind detail now = .ok c')
    (hid : ∀ d, (f d).id = d.id) (hslot : ∀ d, (f d).slot = d.slot)
    (hne : job.discId ≠ some target) : job.Spared c c' where
  disc d hd disc hdisc := by
    rw [Catalog.getDisc_congr (Catalog.setStatus_discs h), Catalog.getDisc_updateWhere_of_ne hid]
    · exact hdisc
    · rintro rfl
      exact hne hd
  slot n _ hfree := by
    rw [Catalog.getBySlot_congr (Catalog.setStatus_discs h), Catalog.getBySlot_updateWhere hslot,
      hfree]
    rfl

theorem deleteDisc {target : Nat} {row : Option Disc} {now : Stamp}
    (h : c.deleteDisc target row now = .ok c') (hne : job.discId ≠ some target) :
    job.Spared c c' where
  disc d hd disc hdisc := by
    rw [Catalog.getDisc_congr (Catalog.deleteDisc_discs h), Catalog.getDisc_deleteWhere_of_ne]
    · exact hdisc
    · rintro rfl
      exact hne hd
  slot n _ hfree := by
    rw [Catalog.getBySlot_congr (Catalog.deleteDisc_discs h)]
    exact Catalog.getBySlot_deleteWhere hfree

theorem createDisc {target id : Nat} {title : String} {kind : EventKind} {now : Stamp}
    (h : c.createDisc target title kind now = .ok (id, c')) (hne : job.slot ≠ some target) :
    job.Spared c c' := by
  obtain ⟨row, hrow, _, hslot, _⟩ := Catalog.createDisc_row h
  refine ⟨fun d _ disc hdisc => Catalog.getDisc_append hrow hdisc, fun n hn hfree => ?_⟩
  refine Catalog.getBySlot_append hrow ?_ hfree
  rintro rfl
  exact hne (hslot ▸ hn)

end Spared

end Task

/-- The slot a flow works on, where its catalogue write depends on it. -/
def Task.WorksOn (slot : Nat) : Task → Prop
  | .add s => slot = s.val
  | _ => True

/-- The write that a flow ends with goes through as long as its premise holds. -/
theorem Ends.ok {c : Catalog} {now : Stamp} {job : Task} {slot : Nat} {r : Except Exc Catalog}
    (h : Ends c now job slot r) (hp : job.Premise c) (hw : job.WorksOn slot) :
    ∃ c', r = .ok c' := by
  have hlog : ∀ {kind : EventKind} {s : Option Nat} {detail : Option String},
      ∃ c', c.log kind job.discId s detail now = .ok c' := Catalog.log_ok hp.kept
  cases h with
  | reset | nothingOut | notRetracted | retracted | timedOut => exact hlog
  | taken => exact Catalog.setStatus_ok (fun _ => rfl) hp
  | @created s slot =>
    obtain rfl : slot = s.val := hw
    have hcreate : ∀ title, ∃ id c', c.createDisc s.val title .added now = .ok (id, c') :=
      fun _ => Catalog.createDisc_ok hp s.low s.high
    obtain ⟨id, c', hc⟩ := hcreate _
    rw [hc]
    exact ⟨c', rfl⟩
  | @stored d s slot => exact Catalog.setStatus_ok (fun _ => rfl) (hp.kept d rfl)

namespace Site

/-- What `job_using` has not found to be used, the live job is not about. -/
theorem jobUsing_none {s : Site} {discId slot : Option Nat} (h : s.jobUsing discId slot = none)
    {job : Task} (hjob : s.current = some job) :
    (∀ d, discId = some d → job.discId ≠ some d) ∧ (∀ n, slot = some n → job.slot ≠ some n) := by
  unfold jobUsing at h
  rw [hjob] at h
  dsimp only at h
  split at h
  · cases h
  next hd =>
    split at h
    · cases h
    next hs =>
      refine ⟨fun d he hj => hd ?_, fun n he hj => hs ?_⟩
      · exact ⟨he ▸ rfl, he ▸ hj⟩
      · exact ⟨he ▸ rfl, he ▸ hj⟩

/-- The thread acts while what it has checked still holds: a job is let in while the catalogue is
as its flow needs it from its start, and a write is made while `job_using` would find no job. -/
def Timely (s : Site) : Point → Prop
  | .submit job => s.current = none → job.Startable s.catalog
  | .correctWrite disc _ | .deleteWrite disc _ =>
    s.jobUsing (some disc.id) (some disc.slot) = none
  | .manualWrite slot _ => s.jobUsing none (some slot.val) = none
  | _ => True

/-- A run whose requests all act in time. -/
abbrev RunTimely (c c' : Threads Site Point) : Prop :=
  Threads.Steps (fun _ s p s' p' => Moves s p s' p' ∧ s.Timely p) c c'

/-- The point is one of a job. -/
def Point.works : Point → Bool
  | .starts _ | .acts _ _ | .wrote _ | .handler _ | .ends _ => true
  | _ => false

/-- What a thread may rely on at a point. -/
def At (s : Site) : Point → Prop
  | .starts job => s.current = some job ∧ job.Startable s.catalog
  | .acts job slot => s.current = some job ∧ job.Premise s.catalog ∧ job.WorksOn slot
  | .wrote job | .handler job | .ends job => s.current = some job
  | _ => True

/-- One thread works on a job. -/
def Apart (p q : Point) : Prop := p.works = true → q.works = true → False

theorem At.current {s : Site} {p : Point} (h : s.At p) (hw : p.works = true) :
    s.current ≠ none := by
  cases p with
  | starts | acts => rw [h.1]; exact nofun
  | wrote | handler | ends => rw [show s.current = some _ from h]; exact nofun
  | _ => cases hw

/-- What another thread's move does to the job that is running. -/
theorem moves_effect {s s' : Site} {p p' : Point} (hm : Moves s p s' p') (ht : s.Timely p) :
    p.works = true ∨ s.current = none ∨
      s'.current = s.current ∧ ∀ job, s.current = some job → job.Spared s.catalog s'.catalog := by
  cases hm with
  | submitted h => exact .inr (.inl h)
  | markedOut h =>
    exact .inr (.inr ⟨rfl, fun job hj =>
      .setStatus h (fun _ => rfl) (fun _ => rfl) ((jobUsing_none ht hj).1 _ rfl)⟩)
  | markedStored h =>
    exact .inr (.inr ⟨rfl, fun job hj =>
      .setStatus h (fun _ => rfl) (fun _ => rfl) ((jobUsing_none ht hj).1 _ rfl)⟩)
  | deleted h =>
    exact .inr (.inr ⟨rfl, fun job hj => .deleteDisc h ((jobUsing_none ht hj).1 _ rfl)⟩)
  | manualMade h =>
    exact .inr (.inr ⟨rfl, fun job hj => .createDisc h ((jobUsing_none ht hj).2 _ rfl)⟩)
  | resets | adds | returns | ejects | ejectsNothing | startRaises | actRaises | writes | refused
  | finishes | watchRaises | logs | logRaises | reports => exact .inl rfl
  | _ => exact .inr (.inr ⟨rfl, fun _ _ => ⟨fun _ _ _ => id, fun _ _ => id⟩⟩)

/-- No move of one thread disturbs what another relies on. -/
theorem At.undisturbed {s s' : Site} {p p' q : Point} (hm : Moves s p s' p') (ht : s.Timely p)
    (hq : s.At q) (hapart : Apart p q) : s'.At q := by
  by_cases hw : q.works = true
  · rcases moves_effect hm ht with hp | hnone | ⟨hcurrent, hspared⟩
    · exact (hapart hp hw).elim
    · exact absurd hnone (hq.current hw)
    · cases q with
      | starts job =>
        exact ⟨hcurrent.trans hq.1, (hspared job hq.1).startable hq.2⟩
      | acts job slot =>
        exact ⟨hcurrent.trans hq.1, (hspared job hq.1).premise hq.2.1, hq.2.2⟩
      | wrote job | handler job | ends job => exact hcurrent.trans hq
      | _ => cases hw
  · cases q with
    | starts | acts | wrote | handler | ends => exact absurd rfl hw
    | _ => trivial

/-- A thread works on a job when it did so before, or when it has just been let in. -/
theorem moves_works {s s' : Site} {p p' : Point} (hm : Moves s p s' p') (hw : p'.works = true) :
    p.works = true ∨ s.current = none := by
  cases hm with
  | submitted h => exact .inr h
  | _ => first | exact .inl rfl | cases hw

/-- **A thread's own move** leads from what it relies on to what it relies on next. -/
theorem moves_own {s s' : Site} {p p' : Point} (hm : Moves s p s' p') (ht : s.Timely p)
    (ha : s.At p) : s'.At p' := by
  cases hm with
  | submitted h => exact ⟨rfl, ht h⟩
  | resets => exact ⟨ha.1, ha.2, trivial⟩
  | adds => exact ⟨ha.1, ha.2, rfl⟩
  | returns => exact ⟨ha.1, ha.2, trivial⟩
  | ejects h => exact ⟨ha.1, Option.ne_none_iff_exists'.mpr ⟨_, h⟩, trivial⟩
  | ejectsNothing | startRaises | actRaises | writes | refused => exact ha.1
  | finishes | watchRaises | logs | logRaises => exact ha
  | _ => trivial

theorem outline : Threads.Outline (fun _ s p s' p' => Moves s p s' p' ∧ Timely s p)
    (fun _ => True) (fun _ => At) Apart where
  symm _ _ h hq hp := h hp hq
  own hm _ hA := ⟨trivial, moves_own hm.1 hm.2 hA⟩
  undisturbed _ hm _ _ hq hapart := hq.undisturbed hm.1 hm.2 hapart
  apart _ hm _ _ hq hapart := by
    intro hw hwq
    rcases moves_works hm.1 hw with hp | hnone
    · exact hapart hp hwq
    · exact hq.current hwq hnone

theorem outlined {catalog : Catalog} {c : Threads Site Point} (h : RunTimely (new catalog) c) :
    Threads.Holds (fun _ => True) (fun _ => At) Apart c :=
  outline.reachable h ⟨trivial, fun _ => trivial, fun _ _ _ => nofun⟩

/-- What every running job finds in the catalogue. -/
structure Premised (c : Threads Site Point) : Prop where
  /-- From its beginning to its write, a `run_add` that adds has no row in its slot. -/
  add : ∀ t slot, (c.at_ t = .starts (.add slot) ∨ ∃ n, c.at_ t = .acts (.add slot) n) →
    c.shared.catalog.getBySlot slot.val = none
  /-- From its beginning to its write, a `run_add` that returns has its disc's row, and out. -/
  return_ : ∀ t d slot,
    (c.at_ t = .starts (.return_ d slot) ∨ ∃ n, c.at_ t = .acts (.return_ d slot) n) →
    ∃ disc, c.shared.catalog.getDisc d = some disc ∧ disc.status = .out
  /-- From its reading to its write, a `run_eject` has its disc's row. -/
  eject : ∀ t d slot n, c.at_ t = .acts (.eject d slot) n → c.shared.catalog.getDisc d ≠ none
  /-- The write that the flow ends with goes through. -/
  writes : ∀ t job slot now r, c.at_ t = .acts job slot → Ends c.shared.catalog now job slot r →
    ∃ catalog, r = .ok catalog

/-- **The premises of a running job hold until its own write**, in every run whose requests act
while what they have checked still holds. -/
theorem run_premised {catalog : Catalog} {c : Threads Site Point}
    (h : RunTimely (new catalog) c) : Premised c := by
  have hat : ∀ {t p}, c.at_ t = p → c.shared.At p := fun {t p} hp => hp ▸ (outlined h).thread t
  constructor
  case add =>
    rintro t slot (hp | ⟨n, hp⟩)
    · exact (hat hp).2
    · exact (hat hp).2.1
  case return_ =>
    rintro t d slot (hp | ⟨n, hp⟩)
    · exact (hat hp).2
    · exact (hat hp).2.1
  case eject =>
    intro t d slot n hp
    exact (hat hp).2.1
  case writes =>
    intro t job slot now r hp hends
    exact hends.ok (hat hp).2.1 (hat hp).2.2

/-- Slot 5 is recorded by hand between the checks of that request and its write, while a job that
loads slot 5 is let in and begins. The job's own write is then refused. -/
theorem lateManual_breaks_premise : ∃ c, Run (new ⟨[], []⟩) c ∧ ¬ Premised c ∧
    c.at_ 1 = .acts (.add ⟨5, by decide, by decide⟩) 5 ∧
    c.shared.catalog.getBySlot 5 ≠ none ∧
    Ends c.shared.catalog 0 (.add ⟨5, by decide, by decide⟩) 5
      (.error (.integrityError "UNIQUE constraint failed: disc.slot")) := by
  have hrun := (Relation.ReflTransGen.refl : Run (new ⟨[], []⟩) (new ⟨[], []⟩))
    |>.tail (.from_ (t := 0) rfl (.manual ⟨5, by decide, by decide⟩ "Tape"))
    |>.tail (.from_ (t := 0) rfl (.manualEmpty rfl))
    |>.tail (.from_ (t := 0) rfl (.manualFree rfl))
    |>.tail (.from_ (t := 1) rfl (.add ⟨5, by decide, by decide⟩))
    |>.tail (.from_ (t := 1) rfl (.addMade rfl))
    |>.tail (.from_ (t := 1) rfl (.submitted rfl))
    |>.tail (.from_ (t := 1) rfl .adds)
    |>.tail (.from_ (t := 0) rfl (.manualMade (show Catalog.createDisc _ _ _ _ 0 = _ from rfl)))
  refine ⟨_, hrun, fun h => ?_, rfl, nofun, ?_⟩
  · exact absurd (h.add 1 _ (.inr ⟨5, rfl⟩)) nofun
  · exact .created

/-- The same request when the job is let in before it asks `job_using`. -/
theorem run_premised_manualUsed : ∃ c, RunTimely (new ⟨[], []⟩) c ∧
    c.at_ 1 = .acts (.add ⟨5, by decide, by decide⟩) 5 ∧ Premised c := by
  have hrun := (Relation.ReflTransGen.refl : RunTimely (new ⟨[], []⟩) (new ⟨[], []⟩))
    |>.tail (.from_ (t := 0) rfl ⟨.manual ⟨5, by decide, by decide⟩ "Tape", trivial⟩)
    |>.tail (.from_ (t := 0) rfl ⟨.manualEmpty rfl, trivial⟩)
    |>.tail (.from_ (t := 1) rfl ⟨.add ⟨5, by decide, by decide⟩, trivial⟩)
    |>.tail (.from_ (t := 1) rfl ⟨.addMade rfl, trivial⟩)
    |>.tail (.from_ (t := 1) rfl ⟨.submitted rfl, fun _ => rfl⟩)
    |>.tail (.from_ (t := 0) rfl ⟨.manualUsed nofun, trivial⟩)
    |>.tail (.from_ (t := 1) rfl ⟨.adds, trivial⟩)
  exact ⟨_, hrun, rfl, run_premised hrun⟩

end Site

end StakkaWeb
