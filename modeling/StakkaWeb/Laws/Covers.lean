import StakkaWeb.Covers
import StakkaWeb.Laws.Writes

/-!
# What an edit leaves of a cover

`ingest` takes the files of the old cover away before `update_disc` has committed the name of the
new one. Until then, and for good when the update fails, the row names files that are gone.
-/

set_option autoImplicit false

namespace StakkaWeb

open Lib Lib.Prog

namespace Edit

variable (e : Edit)

/-- The covers are as they were but for the files of the new stem, and nothing has been removed. -/
structure Quiet (io : ArtDir) : Prop where
  files : ∀ stem, stem ≠ e.supply.fresh → ∀ suffix, io.files stem suffix = e.files stem suffix
  removed : io.removed = []
  points : io.points = []

/-- A file of this cover is there and can be removed. -/
def Loses (old : Option String) : Prop :=
  ∃ stem ∈ given old, ∃ suffix, (e.files stem suffix).isSome = true ∧ e.supply.unlinks suffix = true

/-- The new cover is there and the old one has been removed as far as it can be. -/
structure Swapped (old : Option String) (io : ArtDir) : Prop where
  fresh : ∀ suffix, (io.files e.supply.fresh suffix).isSome = true
  files : ∀ stem, stem ≠ e.supply.fresh → ∀ suffix, io.files stem suffix =
    if some stem = given old ∧ e.supply.unlinks suffix = true then none else e.files stem suffix
  quiet : ¬ e.Loses old → io.removed = [] ∧ io.points = []
  loud : e.Loses old → ∃ point ∈ io.points, point.2 = e.catalog ∧
    ∃ stem ∈ given old, ∃ suffix, (stem, suffix) ∈ point.1

/-- The steps of `store` all succeed. -/
def Draws : Prop :=
  e.supply.decodes = true ∧ e.supply.flatten = .ok () ∧ e.supply.makedirs = .ok () ∧
    ∀ suffix, ∃ jpeg, e.supply.save suffix = .ok jpeg

/-- The connection has run `n` statements and changed nothing. -/
def Reading (n : Nat) (w : World ArtDir) : Prop :=
  w.conn.At e.faults e.now n e.catalog e.catalog

variable {e} {n : Nat}

/-! ## Storing -/

/-- The catalogue and the old covers have not been touched. -/
def Calm (e : Edit) (n : Nat) (w : World ArtDir) : Prop := e.Reading n w ∧ e.Quiet w.io

theorem setFile_calm (suffix : Suffix) (content : Option Bytes) {R : Option Exc → World ArtDir → Prop} :
    Triple (e.Calm n) (setFile e.supply.fresh suffix content)
      (fun _ w => e.Calm n w ∧ w.io.files e.supply.fresh suffix = content) R := by
  refine Triple.modify fun w h => ⟨⟨h.1, ?_, h.2.removed, h.2.points⟩, ?_⟩
  · intro stem hne suffix'
    exact (if_neg fun hs => hne hs.1).trans (h.2.files stem hne suffix')
  · exact if_pos ⟨rfl, rfl⟩

theorem ofExcept_calm {α : Type} {x : Except Exc α} :
    Triple (e.Calm n) (ofExcept x) (fun a w => x = .ok a ∧ e.Calm n w)
      (fun _ w => (∃ exc, x = .error exc) ∧ e.Calm n w) := by
  cases x with
  | ok a => exact Triple.pure fun w h => ⟨rfl, h⟩
  | error exc => exact Triple.raise fun w h => ⟨⟨exc, rfl⟩, h⟩

theorem saveJpeg_calm (suffix : Suffix) :
    Triple (e.Calm n) (saveJpeg e.supply e.supply.fresh suffix)
      (fun _ w => (∃ jpeg, e.supply.save suffix = .ok jpeg) ∧ e.Calm n w ∧
        (w.io.files e.supply.fresh suffix).isSome = true)
      (fun _ w => (¬ ∃ jpeg, e.supply.save suffix = .ok jpeg) ∧ e.Calm n w) := by
  unfold saveJpeg
  cases hs : e.supply.save suffix with
  | ok jpeg =>
    refine (setFile_calm suffix (some jpeg)).post fun _ w h => ⟨⟨jpeg, rfl⟩, h.1, ?_⟩
    rw [h.2]
    rfl
  | fails exc left =>
    exact (setFile_calm suffix left).bind fun _ => Triple.raise fun w h => ⟨nofun, h.1⟩

/-- A second file leaves the first one there. -/
theorem saveJpeg_full :
    Triple (fun w => e.Calm n w ∧ (w.io.files e.supply.fresh .thumb).isSome = true)
      (saveJpeg e.supply e.supply.fresh .full)
      (fun _ w => (w.io.files e.supply.fresh .thumb).isSome = true) (fun _ _ => True) := by
  have keep (content : Option Bytes) :
      Triple (fun w => e.Calm n w ∧ (w.io.files e.supply.fresh .thumb).isSome = true)
        (setFile e.supply.fresh .full content)
        (fun _ w => (w.io.files e.supply.fresh .thumb).isSome = true) (fun _ _ => True) := by
    refine Triple.modify fun w h => ?_
    rw [← h.2]
    exact congrArg Option.isSome (if_neg nofun)
  unfold saveJpeg
  cases e.supply.save .full with
  | ok jpeg => exact keep _
  | fails exc left => exact (keep left).bind fun _ => Triple.raise fun _ _ => trivial

theorem storeArt_calm :
    Triple (e.Calm n) (storeArt e.supply)
      (fun r w => e.Calm n w ∧ match r with
        | .ok stem => stem = e.supply.fresh ∧ e.Draws ∧
            ∀ suffix, (w.io.files e.supply.fresh suffix).isSome = true
        | .error _ => ¬ e.Draws)
      (fun _ w => e.Calm n w ∧ ¬ e.Draws) := by
  unfold storeArt
  refine Triple.ite (fun hd => Triple.pure fun w h => ⟨h, fun hdraws => ?_⟩) fun hd => ?_
  · rw [hdraws.1] at hd
    cases hd
  · refine Triple.bind (M := fun _ w => e.supply.flatten = .ok () ∧ e.Calm n w)
      (ofExcept_calm.conseq (fun _ h => h) (fun _ _ h => h) ?_) fun _ => Triple.of_fact fun hflat => ?_
    · rintro _ w ⟨⟨exc, hexc⟩, h⟩
      refine ⟨h, fun hdraws => ?_⟩
      rw [hdraws.2.1] at hexc
      cases hexc
    refine Triple.bind (M := fun _ w => e.supply.makedirs = .ok () ∧ e.Calm n w)
      (ofExcept_calm.conseq (fun _ h => h) (fun _ _ h => h) ?_) fun _ => Triple.of_fact fun hdirs => ?_
    · rintro _ w ⟨⟨exc, hexc⟩, h⟩
      refine ⟨h, fun hdraws => ?_⟩
      rw [hdraws.2.2.1] at hexc
      cases hexc
    refine Triple.bind ((saveJpeg_calm .thumb).conseq (fun _ h => h) (fun _ _ h => h)
      fun _ w h => ⟨h.2, fun hdraws => h.1 (hdraws.2.2.2 .thumb)⟩) fun _ =>
        Triple.of_fact fun hthumb => ?_
    refine Triple.bind (((saveJpeg_calm .full).and saveJpeg_full).conseq
      (fun _ h => ⟨h.1, h⟩) (fun _ _ h => h)
      fun _ w h => ⟨h.1.2, fun hdraws => h.1.1 (hdraws.2.2.2 .full)⟩) fun _ => Triple.pure ?_
    rintro w ⟨⟨hfull, hcalm, hthere⟩, hfirst⟩
    refine ⟨hcalm, rfl, ⟨by simpa using hd, hflat, hdirs, fun suffix => ?_⟩, fun suffix => ?_⟩
    · cases suffix with
      | thumb => exact hthumb
      | full => exact hfull
    · cases suffix with
      | thumb => exact hfirst
      | full => exact hthere

/-! ## Removing -/

/-- A file of the old cover is there and can be removed. -/
def Lost (e : Edit) (old : String) (suffix : Suffix) : Prop :=
  (e.files old suffix).isSome = true ∧ e.supply.unlinks suffix = true

/-- The new cover is there, and of the old one the files of `done` have been removed as far as they
can be. -/
structure Removing (e : Edit) (n : Nat) (old : String) (done : List Suffix) (w : World ArtDir) :
    Prop where
  reading : e.Reading n w
  fresh : ∀ suffix, (w.io.files e.supply.fresh suffix).isSome = true
  files : ∀ stem, stem ≠ e.supply.fresh → ∀ suffix, w.io.files stem suffix =
    if stem = old ∧ suffix ∈ done ∧ e.supply.unlinks suffix = true then none else e.files stem suffix
  quiet : (∀ suffix ∈ done, ¬ e.Lost old suffix) → w.io.removed = [] ∧ w.io.points = []
  loud : ∀ suffix ∈ done, e.Lost old suffix → ∃ point ∈ w.io.points, point.2 = e.catalog ∧
    (old, suffix) ∈ point.1

theorem removeFile_removing {old : String} (hold : old ≠ e.supply.fresh) {done : List Suffix}
    {suffix : Suffix} (hnew : suffix ∉ done) {R : Option Exc → World ArtDir → Prop} :
    Triple (e.Removing n old done) (removeFile e.supply old suffix)
      (fun _ => e.Removing n old (suffix :: done)) R := by
  refine Triple.bind (M := fun there w => there = (e.files old suffix).isSome ∧
    e.Removing n old done w) (Triple.gets fun w h => ⟨?_, h⟩) fun there => Triple.of_fact ?_
  · rw [h.files old hold, if_neg fun hf => hnew hf.2.1]
  rintro rfl
  refine Triple.when (fun hc => ?_) fun w h hc => ?_
  · -- the file is there and goes
    obtain ⟨hthere, hlinks⟩ := Bool.and_eq_true_iff.mp hc
    refine Triple.bind (M := fun _ w => e.Reading n w ∧
      (∀ suffix, (w.io.files e.supply.fresh suffix).isSome = true) ∧
      (∀ stem, stem ≠ e.supply.fresh → ∀ suffix', w.io.files stem suffix' =
        if stem = old ∧ suffix' ∈ suffix :: done ∧ e.supply.unlinks suffix' = true then none
        else e.files stem suffix') ∧
      ∀ suffix ∈ done, e.Lost old suffix → ∃ point ∈ w.io.points, point.2 = e.catalog ∧
        (old, suffix) ∈ point.1) (Triple.modify fun w h => ?_) fun _ => Triple.modify ?_
    · refine ⟨h.reading, fun s => ?_, fun stem hstem s => ?_, h.loud⟩
      · exact (congrArg Option.isSome (if_neg fun hs => hold hs.1.symm)).trans (h.fresh s)
      · by_cases hs : stem = old ∧ s = suffix
        · obtain ⟨rfl, rfl⟩ := hs
          dsimp only
          rw [if_pos ⟨rfl, rfl⟩, if_pos ⟨rfl, List.mem_cons_self, hlinks⟩]
        · dsimp only
          rw [if_neg hs, h.files stem hstem]
          by_cases hstem' : stem = old
          · have hne : s ≠ suffix := fun he => hs ⟨hstem', he⟩
            simp [hstem', hne]
          · simp [hstem']
    · rintro w ⟨hreading, hfresh, hfiles, hloud⟩
      refine ⟨hreading, hfresh, hfiles, fun hquiet => ?_, fun s hs hlost => ?_⟩
      · exact absurd ⟨hthere, hlinks⟩ (hquiet suffix List.mem_cons_self)
      · rcases List.mem_cons.mp hs with rfl | hs
        · exact ⟨_, List.mem_cons_self, hreading.saved, List.mem_cons_self⟩
        · obtain ⟨point, hpoint, h⟩ := hloud s hs hlost
          exact ⟨point, List.mem_cons_of_mem _ hpoint, h⟩
  · have hnot : ¬ e.Lost old suffix := fun hlost => by
      rw [hlost.1, hlost.2] at hc
      cases hc
    refine ⟨h.reading, h.fresh, fun stem hstem s => ?_, fun hquiet => ?_, fun s hs hlost => ?_⟩
    · rw [h.files stem hstem]
      by_cases hs : stem = old ∧ s = suffix
      · -- a file that is not there may as well have been removed
        obtain ⟨rfl, rfl⟩ := hs
        rw [if_neg fun hf => hnew hf.2.1]
        split
        next hlinks =>
          rw [hlinks.2.2, Bool.and_true, Option.isSome_eq_false_iff, Option.isNone_iff_eq_none] at hc
          exact hc
        next => rfl
      · by_cases hstem' : stem = old
        · have hne : s ≠ suffix := fun he => hs ⟨hstem', he⟩
          simp [hstem', hne]
        · simp [hstem']
    · exact h.quiet fun s hs => hquiet s (List.mem_cons_of_mem _ hs)
    · rcases List.mem_cons.mp hs with rfl | hs
      · exact absurd hlost hnot
      · exact h.loud s hs hlost

theorem removeArt_swapped {old : Option String} (hold : old ≠ some e.supply.fresh)
    {R : Option Exc → World ArtDir → Prop} :
    Triple (fun w => e.Calm n w ∧ ∀ suffix, (w.io.files e.supply.fresh suffix).isSome = true)
      (removeArt e.supply old) (fun _ w => e.Reading n w ∧ e.Swapped old w.io) R := by
  unfold removeArt
  cases hg : given old with
  | none =>
    refine Triple.pure fun w h => ⟨h.1.1, h.2, fun stem hstem suffix => ?_, fun _ => ?_, ?_⟩
    · rw [hg, if_neg nofun]
      exact h.1.2.files stem hstem suffix
    · exact ⟨h.1.2.removed, h.1.2.points⟩
    · rintro ⟨stem, hstem, -⟩
      rw [hg] at hstem
      cases hstem
  | some stem =>
    have hne : stem ≠ e.supply.fresh := by
      rintro rfl
      exact hold (Option.eq_some_of_filter_eq_some hg)
    refine Triple.bind (M := fun _ => e.Removing n stem [.thumb])
      ((removeFile_removing hne (List.not_mem_nil)).pre fun w h => ?_) fun _ =>
        (removeFile_removing hne (by decide)).post fun _ w h => ?_
    · refine ⟨h.1.1, h.2, fun stem' hstem' suffix => ?_, fun _ => ⟨h.1.2.removed, h.1.2.points⟩,
        nofun⟩
      rw [if_neg fun hf => by cases hf.2.1]
      exact h.1.2.files stem' hstem' suffix
    · have hall : ∀ suffix : Suffix, suffix ∈ [Suffix.full, Suffix.thumb] := by
        intro suffix
        cases suffix <;> decide
      refine ⟨h.reading, h.fresh, fun stem' hstem' suffix => ?_, fun hquiet => ?_, ?_⟩
      · rw [h.files stem' hstem' suffix, hg]
        simp [hall suffix]
      · exact h.quiet fun suffix _ hlost => hquiet ⟨stem, by rw [hg]; rfl, suffix, hlost⟩
      · rintro ⟨stem', hstem', suffix, hlost⟩
        rw [hg] at hstem'
        cases hstem'
        obtain ⟨point, hpoint, hcat, hmem⟩ := h.loud suffix (hall suffix) hlost
        exact ⟨point, hpoint, hcat, stem, by rw [hg]; rfl, suffix, hmem⟩

/-! ## The request -/

/-- The source brings some bytes and `store` succeeds on them. -/
def Ingests (e : Edit) : Prop := (∃ b bs, e.supply.data = .ok (.ok (b :: bs))) ∧ e.Draws

theorem ingestArt_leaves {old : Option String} (hold : old ≠ some e.supply.fresh) :
    Triple (e.Calm n) (ingestArt e.supply old)
      (fun r w => (e.Calm n w ∧ ¬ e.Ingests ∧ ∀ stem, r ≠ .ok (some stem)) ∨
        (r = .ok (some e.supply.fresh) ∧ e.Ingests ∧ e.Reading n w ∧ e.Swapped old w.io))
      (fun _ w => e.Calm n w ∧ ¬ e.Ingests) := by
  unfold ingestArt
  refine Triple.bind (M := fun data w => e.supply.data = .ok data ∧ e.Calm n w)
    (ofExcept_calm.conseq (fun _ h => h) (fun _ _ h => h) ?_) fun data => Triple.of_fact fun hdata => ?_
  · rintro _ w ⟨⟨exc, hexc⟩, h⟩
    refine ⟨h, fun ⟨⟨b, bs, hb⟩, _⟩ => ?_⟩
    rw [hexc] at hb
    cases hb
  have unfed (h : ∀ b bs, data ≠ .ok (b :: bs)) : ¬ e.Ingests := by
    rintro ⟨⟨b, bs, hb⟩, -⟩
    rw [hdata] at hb
    exact h b bs (Except.ok.inj hb)
  rcases data with msg | _ | ⟨b, bs⟩
  · exact Triple.pure fun w h => .inl ⟨h, unfed nofun, nofun⟩
  · exact Triple.pure fun w h => .inl ⟨h, unfed nofun, nofun⟩
  · refine Triple.bind (storeArt_calm.conseq (fun _ h => h) (fun _ _ h => h)
      fun _ w h => ⟨h.1, fun hi => h.2 hi.2⟩) fun r => ?_
    rcases r with msg | stem
    · exact Triple.pure fun w h => .inl ⟨h.1, fun hi => h.2 hi.2, nofun⟩
    · refine Triple.bind (M := fun _ w => (stem = e.supply.fresh ∧ e.Draws) ∧
        e.Reading n w ∧ e.Swapped old w.io) ?_ fun _ => Triple.pure ?_
      · refine Triple.pre (A := fun w => (stem = e.supply.fresh ∧ e.Draws) ∧ e.Calm n w ∧
          ∀ suffix, (w.io.files e.supply.fresh suffix).isSome = true) ?_
          fun w h => ⟨⟨h.2.1, h.2.2.1⟩, h.1, h.2.2.2⟩
        exact Triple.of_fact fun hf => (removeArt_swapped hold).post fun _ w h => ⟨hf, h⟩
      · rintro w ⟨⟨rfl, hdraws⟩, h⟩
        exact .inr ⟨rfl, ⟨⟨b, bs, hdata⟩, hdraws⟩, h⟩

/-- `update_disc` writes the columns of the form, or the file is what it was. The covers are left
alone. -/
theorem updateDisc_leaves {fields : Fields} (hne : fields ≠ {}) (hslot : fields.slot = none)
    (io : ArtDir) :
    Triple (fun w => e.Reading 1 w ∧ w.io = io) (updateDisc e.discId fields)
      (fun _ w => (e.faults 1 = false ∧ e.faults 2 = false) ∧ w.io = io ∧
        w.conn.committed = e.catalog.updateWhere e.discId (fields.set e.now))
      (fun _ w => ¬ (e.faults 1 = false ∧ e.faults 2 = false) ∧ w.io = io ∧
        w.conn.committed = e.catalog) := by
  have hset : e.catalog.updateDisc e.discId fields e.now =
      .ok ((), e.catalog.updateWhere e.discId (fields.set e.now)) := by
    unfold Catalog.updateDisc
    rw [hslot]
    cases e.catalog.getDisc e.discId <;> rfl
  have hdb : Triple (e.Reading 1) (updateDisc (σ := ArtDir) e.discId fields)
      (fun _ w => (e.faults 1 = false ∧ e.faults 2 = false) ∧
        w.conn.committed = e.catalog.updateWhere e.discId (fields.set e.now))
      (fun _ w => ¬ (e.faults 1 = false ∧ e.faults 2 = false) ∧ w.conn.committed = e.catalog) := by
    unfold updateDisc
    rw [if_neg hne]
    refine now_bind ((transaction_at (¬ (e.faults 1 = false ∧ e.faults 2 = false))
      (M := fun _ m c' => m = 2 ∧ e.faults 1 = false ∧
        c' = e.catalog.updateWhere e.discId (fields.set e.now)) ?_ ?_).post ?_)
    · refine (execute_at _).conseq (fun _ h => h) ?_ ?_
      · rintro _ w ⟨h1, c', hr, h⟩
        rw [hset] at hr
        cases hr
        exact ⟨2, _, ⟨rfl, h1, rfl⟩, h⟩
      · rintro _ w ⟨h1 | ⟨exc, hr⟩, h⟩
        · refine ⟨fun hf => ?_, h⟩
          rw [hf.1] at h1
          cases h1
        · rw [hset] at hr
          cases hr
    · rintro _ m c' ⟨rfl, -⟩ h2 hf
      rw [hf.2] at h2
      cases h2
    · rintro _ w ⟨m, c', ⟨rfl, h1, rfl⟩, h2, h⟩
      exact ⟨⟨h1, h2⟩, h⟩
  have hio : Triple (fun w : World ArtDir => w.io = io) (updateDisc e.discId fields)
      (fun _ w => w.io = io) (fun _ w => w.io = io) := by
    have untouched {α : Type} (f : World ArtDir → Except Exc α × World ArtDir)
        (hf : ∀ w, (f w).2.io = w.io) : Keeps (fun w : World ArtDir => w.io = io) (Prog.call f) :=
      Keeps.call fun w h => (hf w).trans h
    unfold updateDisc transaction execute commit rollback
    refine Keeps.ite (Keeps.pure _) ((Keeps.gets _).bind fun _ => Keeps.attempt
      ((untouched _ fun w => ?_).bind fun _ => (untouched _ fun w => ?_).bind fun _ => Keeps.pure _)
      fun _ => (untouched _ fun w => ?_).bind fun _ => Keeps.raise _)
    · dsimp only
      split
      · rfl
      · split <;> rfl
    · dsimp only
      split <;> rfl
    · dsimp only
      split <;> rfl
  exact (hdb.and hio).conseq (fun _ h => h) (fun _ _ h => ⟨h.1.1, h.2, h.1.2⟩)
    fun _ _ h => ⟨h.1.1, h.2, h.1.2⟩

/-- How the request has ended. -/
inductive Ended (e : Edit) (disc : Disc) : Outcome Exc Answer → World ArtDir → Prop
  /-- No art was stored and the row was not written. -/
  | unsaved {r : Outcome Exc Answer} {w : World ArtDir} (hr : r ≠ .ok .redirect)
    (hquiet : e.Quiet w.io) (hrow : w.conn.committed = e.catalog)
    (hnot : ¬ (e.faults 0 = false ∧ e.Stores)) : Ended e disc r w
  /-- The row was written without art. -/
  | texts {w : World ArtDir} {fields : Fields} (hart : fields.artPath = none)
    (hquiet : e.Quiet w.io)
    (hrow : w.conn.committed = e.catalog.updateWhere e.discId (fields.set e.now))
    (hnot : ¬ e.Stores) : Ended e disc (.ok .redirect) w
  /-- Art was stored, and the row written. -/
  | swapped {w : World ArtDir} {fields : Fields} (hart : fields.artPath = some (some e.supply.fresh))
    (hswapped : e.Swapped disc.artPath w.io)
    (hrow : w.conn.committed = e.catalog.updateWhere e.discId (fields.set e.now))
    (hclean : e.faults 0 = false ∧ e.faults 1 = false ∧ e.faults 2 = false)
    (hstores : e.Stores) : Ended e disc (.ok .redirect) w
  /-- Art was stored, and the row was not written. -/
  | stranded {r : Outcome Exc Answer} {w : World ArtDir} (hr : r ≠ .ok .redirect)
    (hswapped : e.Swapped disc.artPath w.io) (hrow : w.conn.committed = e.catalog)
    (hfault : e.faults 0 = false ∧ ¬ (e.faults 1 = false ∧ e.faults 2 = false))
    (hstores : e.Stores) : Ended e disc r w

theorem getDisc_calm : Triple (e.Calm 0) (getDisc e.discId)
    (fun a w => (e.faults 0 = false ∧ a = e.catalog.getDisc e.discId) ∧ e.Calm 1 w)
    (fun _ w => e.faults 0 = true ∧ w.conn.committed = e.catalog ∧ e.Quiet w.io) := by
  have hio : Triple (fun w : World ArtDir => e.Quiet w.io) (getDisc e.discId)
      (fun _ w => e.Quiet w.io) (fun _ w => e.Quiet w.io) := by
    unfold getDisc execute
    refine Keeps.call fun w h => ?_
    dsimp only
    split
    · exact h
    · exact h
  exact ((execute_ok_at fun c => (c.getDisc e.discId, c)).and hio).conseq (fun _ h => h)
    (fun _ _ h => ⟨⟨h.1.1, h.1.2.1⟩, h.1.2.2, h.2⟩) fun _ _ h => ⟨h.1.1, h.1.2, h.2⟩

/-- The columns that the form writes. -/
theorem form_fields {texts : EditTexts} (htitle : formText texts.title ≠ none)
    (stem : Option String) : ∃ fields, (texts.form (.ok stem)).fields = some fields ∧
      fields ≠ {} ∧ fields.slot = none ∧ fields.artPath = (given stem).map some := by
  obtain ⟨title, ht⟩ := Option.ne_none_iff_exists'.mp htitle
  unfold EditForm.fields EditTexts.form
  dsimp only
  rw [ht]
  refine ⟨_, rfl, fun h => ?_, rfl, ?_⟩
  · cases congrArg Fields.title h
  · cases stem with
    | none => rfl
    | some stem =>
      unfold given
      by_cases hs : stem = ""
      · simp [hs]
      · simp [hs]

theorem form_error {texts : EditTexts} {msg : String} : (texts.form (.error msg)).fields = none := by
  unfold EditForm.fields EditTexts.form
  dsimp only
  split <;> rfl

theorem discEditPost_ended {disc : Disc} (hget : e.catalog.getDisc e.discId = some disc)
    (hfresh : disc.artPath ≠ some e.supply.fresh) :
    Triple (e.Calm 0) (discEditPost e.supply e.discId e.texts) (fun a w => Ended e disc (.ok a) w)
      (fun _ w => ∀ r : Outcome Exc Answer, r ≠ .ok .redirect → Ended e disc r w) := by
  unfold discEditPost
  refine Triple.bind (getDisc_calm.conseq (fun _ h => h) (fun _ _ h => h) ?_) fun found =>
    Triple.of_fact ?_
  · rintro _ w ⟨h0, hrow, hquiet⟩ r hr
    exact .unsaved hr hquiet hrow fun h => by rw [h.1] at h0; cases h0
  rintro ⟨h0, rfl⟩
  rw [hget]
  dsimp only
  cases htitle : formText e.texts.title with
  | none =>
    refine Triple.pure fun w h => .unsaved nofun h.2 h.1.saved fun hs => ?_
    exact hs.2.1 htitle
  | some title =>
    have htitled : formText e.texts.title ≠ none := by rw [htitle]; exact nofun
    refine Triple.bind ((ingestArt_leaves hfresh).conseq (fun _ h => h) (fun _ _ h => h) ?_)
      fun art => ?_
    · exact fun _ w h r hr => .unsaved hr h.1.2 h.1.1.saved fun hs => h.2 hs.2.2
    refine Triple.of_each fun w₀ hw₀ => ?_
    rcases hw₀ with ⟨hcalm, hnot, hstem⟩ | ⟨rfl, hingests, hreading, hswapped⟩
    · rcases art with msg | _ | stem
      · rw [form_error]
        rintro n w rfl
        exact .unsaved nofun hcalm.2 hcalm.1.saved fun hs => hnot hs.2.2
      · obtain ⟨fields, hfields, hne, hslot, hart⟩ := form_fields htitled none
        rw [hfields]
        refine Triple.bind ((updateDisc_leaves hne hslot w₀.io).conseq (fun w h => ?_)
          (fun _ _ h => h) ?_) fun _ => Triple.pure ?_
        · rw [h]
          exact ⟨hcalm.1, rfl⟩
        · exact fun _ w h r hr => .unsaved hr (h.2.1 ▸ hcalm.2) h.2.2 fun hs => hnot hs.2.2
        · exact fun w h => .texts hart (h.2.1 ▸ hcalm.2) h.2.2 fun hs => hnot hs.2
      · exact absurd rfl (hstem stem)
    · have hnonempty : given (some e.supply.fresh) = some e.supply.fresh := by
        have hdigits := e.supply.digits
        have : e.supply.fresh ≠ "" := fun he => by rw [he] at hdigits; cases hdigits
        simp [given, this]
      obtain ⟨fields, hfields, hne, hslot, hart⟩ := form_fields htitled (some e.supply.fresh)
      rw [hnonempty] at hart
      rw [hfields]
      refine Triple.bind ((updateDisc_leaves hne hslot w₀.io).conseq (fun w h => ?_)
        (fun _ _ h => h) ?_) fun _ => Triple.pure ?_
      · rw [h]
        exact ⟨hreading, rfl⟩
      · exact fun _ w h r hr =>
          .stranded hr (h.2.1 ▸ hswapped) h.2.2 ⟨h0, h.1⟩ ⟨htitled, hingests⟩
      · exact fun w h =>
          .swapped hart (h.2.1 ▸ hswapped) h.2.2 ⟨h0, h.1.1, h.1.2⟩ ⟨htitled, hingests⟩

theorem run_ended {disc : Disc} (hget : e.catalog.getDisc e.discId = some disc)
    (hfresh : disc.artPath ≠ some e.supply.fresh) : Ended e disc e.run.1 e.run.2 := by
  have hrun := discEditPost_ended hget hfresh 0 e.start
    ⟨⟨rfl, rfl, rfl, rfl, rfl⟩, ⟨fun _ _ _ => rfl, rfl, rfl⟩⟩
  unfold run
  split at hrun <;> rename_i hr <;> rw [hr]
  · exact hrun
  · exact hrun _ nofun
  · exact hrun _ nofun

/-! ## The cover -/

section Kept

variable {disc : Disc}

/-- A point before which nothing was removed. -/
theorem named_nil (c : Catalog) : e.Named ([], c) := nofun

/-- The row after an update of the form's columns. -/
theorem row_set (hget : e.catalog.getDisc e.discId = some disc) {fields : Fields}
    (hrow : e.run.2.conn.committed = e.catalog.updateWhere e.discId (fields.set e.now)) :
    e.row = some (fields.set e.now disc) := by
  have hid : ∀ d, (fields.set e.now d).id = d.id := fun _ => rfl
  unfold row
  rw [hrow, Catalog.getDisc_updateWhere hid, hget, Option.map_some,
    if_pos (Catalog.getDisc_id hget)]

/-- Once a file has gone that the file still names, the cover has not been kept. -/
theorem not_kept_of_loses (hget : e.catalog.getDisc e.discId = some disc)
    (hswapped : e.Swapped disc.artPath e.run.2.io) (hloses : e.Loses disc.artPath) :
    ¬ e.KeepsCover disc := by
  intro h
  obtain ⟨point, hpoint, hcat, stem, hstem, suffix, hmem⟩ := hswapped.loud hloses
  exact h.always point (List.mem_cons_of_mem _ hpoint) disc stem (hcat ▸ hget)
    (Option.eq_some_of_filter_eq_some hstem) suffix hmem

/-- Where nothing of the old cover could be removed, nothing the file names has been. -/
theorem always_of_not_loses (hswapped : e.Swapped disc.artPath e.run.2.io)
    (hloses : ¬ e.Loses disc.artPath) :
    ∀ point ∈ (e.run.2.io.removed, e.run.2.conn.committed) :: e.run.2.io.points,
      e.Named point := by
  obtain ⟨hremoved, hpoints⟩ := hswapped.quiet hloses
  rw [hremoved, hpoints]
  intro point hpoint
  cases List.mem_singleton.mp hpoint
  exact named_nil _

end Kept

end Edit

/-- **Saving an edit leaves the disc its cover exactly when it does not put new art in the place of
a cover that is there**: the old files go before the row names the new ones. (When none of them can
be removed, it depends on the update.) -/
theorem edit_keeps_cover {e : Edit} {disc : Disc} (hget : e.catalog.getDisc e.discId = some disc)
    (hfresh : disc.artPath ≠ some e.supply.fresh) : e.KeepsCover disc ↔ ¬ e.Replaces disc := by
  have hended := Edit.run_ended hget hfresh
  have hstem : ∀ stem, disc.artPath = some stem → stem ≠ e.supply.fresh := by
    rintro stem hstem rfl
    exact hfresh hstem
  generalize hr : e.run.1 = r at hended
  generalize hw : e.run.2 = w at hended
  cases hended with
  | unsaved hne hquiet hrow hnot =>
    refine iff_of_true ⟨fun _ => ⟨?_, fun stem hs suffix => ?_⟩, fun hs => ?_, ?_⟩
      fun h => hnot ⟨h.1, h.2.1⟩
    · unfold Edit.row
      rw [hw, hrow, hget]
    · rw [hw]
      exact hquiet.files stem (hstem stem hs) suffix
    · exact absurd (hr.symm.trans hs) hne
    · rw [hw, hquiet.removed, hquiet.points]
      intro point hpoint
      cases List.mem_singleton.mp hpoint
      exact Edit.named_nil _
  | @texts _ fields hart hquiet hrow hnot =>
    refine iff_of_true ⟨fun hs => absurd hr hs, fun _ => ?_, ?_⟩ fun h => hnot h.2.1
    · refine ⟨_, Edit.row_set hget (hw ▸ hrow), .inl ⟨?_, fun stem hs suffix => ?_⟩⟩
      · unfold Fields.set
        rw [hart]
        rfl
      · rw [hw]
        exact hquiet.files stem (hstem stem hs) suffix
    · rw [hw, hquiet.removed, hquiet.points]
      intro point hpoint
      cases List.mem_singleton.mp hpoint
      exact Edit.named_nil _
  | @swapped _ fields hart hswapped hrow hclean hstores =>
    have hart' : (fields.set e.now disc).artPath = some e.supply.fresh := by
      unfold Fields.set
      rw [hart]
      rfl
    rw [← hw] at hswapped
    by_cases hloses : e.Loses disc.artPath
    · refine iff_of_false (Edit.not_kept_of_loses hget hswapped hloses) fun hnot => hnot ?_
      obtain ⟨stem, hs, suffix, hthere, hlinks⟩ := hloses
      exact ⟨hclean.1, hstores, stem, hs, suffix, hthere, .inl hlinks⟩
    · constructor
      · rintro h ⟨-, -, stem, hs, suffix, hthere, -⟩
        have hart := Option.eq_some_of_filter_eq_some hs
        obtain ⟨row', hrow', hkept⟩ := h.saved hr
        cases hrow'.symm.trans (Edit.row_set hget (hw ▸ hrow))
        rcases hkept with ⟨hsame, -⟩ | ⟨-, -, hgone⟩
        · exact hfresh (hsame.symm.trans hart')
        · have hlost := hgone stem hs suffix
          rw [hswapped.files stem (hstem stem hart), if_neg fun hl => hloses
            ⟨stem, hs, suffix, hthere, hl.2⟩] at hlost
          rw [hlost] at hthere
          cases hthere
      · intro hnot
        refine ⟨fun hs => absurd hr hs, fun _ => ⟨_, Edit.row_set hget (hw ▸ hrow), .inr ⟨hart',
          hswapped.fresh, fun stem hs suffix => ?_⟩⟩, Edit.always_of_not_loses hswapped hloses⟩
        rw [hswapped.files stem (hstem stem (Option.eq_some_of_filter_eq_some hs))]
        split
        · rfl
        · refine Option.not_isSome_iff_eq_none.mp fun hthere => ?_
          exact hnot ⟨hclean.1, hstores, stem, hs, suffix, hthere, .inr hclean.2⟩
  | stranded hne hswapped hrow hfault hstores =>
    rw [← hw] at hswapped
    by_cases hloses : e.Loses disc.artPath
    · refine iff_of_false (Edit.not_kept_of_loses hget hswapped hloses) fun hnot => hnot ?_
      obtain ⟨stem, hs, suffix, hthere, hlinks⟩ := hloses
      exact ⟨hfault.1, hstores, stem, hs, suffix, hthere, .inl hlinks⟩
    · refine iff_of_true ⟨fun _ => ⟨?_, fun stem hs suffix => ?_⟩, fun hs => ?_,
        Edit.always_of_not_loses hswapped hloses⟩ ?_
      · unfold Edit.row
        rw [hw, hrow, hget]
      · rw [hswapped.files stem (hstem stem hs)]
        split
        next hlinks =>
          refine (Option.not_isSome_iff_eq_none.mp fun hthere => ?_).symm
          exact hloses ⟨stem, hlinks.1.symm, suffix, hthere, hlinks.2⟩
        next => rfl
      · exact absurd (hr.symm.trans hs) hne
      · rintro ⟨-, -, stem, hs, suffix, hthere, hlinks | hclean⟩
        · exact hloses ⟨stem, hs, suffix, hthere, hlinks⟩
        · exact hfault.2 hclean

/-- A disc with a cover. -/
def covered : Disc :=
  ⟨1, 7, "Myst", none, none, none, none, some "0123456789ab", .stored, none, 0, 0⟩

/-- New art is uploaded for it while the database is locked: `UPDATE` fails. -/
def lockedEdit : Edit where
  discId := 1
  texts := ⟨some "Myst", none, none, none, none⟩
  supply :=
    { upload := some ("myst.png", [0])
      url := none
      fetch := fun _ => .ok (.error "")
      decodes := true
      flatten := .ok ()
      makedirs := .ok ()
      fresh := "ba9876543210"
      digits := by decide
      save := fun _ => .ok [1]
      unlinks := fun _ => true }
  catalog := ⟨[covered], []⟩
  files := fun stem _ => if stem = "0123456789ab" then some [2] else none
  faults := fun k => k == 1
  now := 1

/-- The row names the old cover, whose files are gone. -/
theorem edit_keeps_cover_locked : ¬ lockedEdit.KeepsCover covered := by
  intro h
  have hraised : lockedEdit.run.1 ≠ .ok .redirect := by decide
  have hthumb := (h.unsaved hraised).2 "0123456789ab" rfl .thumb
  revert hthumb
  decide

/-- The same edit without an upload. -/
def textsEdit : Edit := { lockedEdit with supply := { lockedEdit.supply with upload := none } }

/-- A disc without a cover. -/
def uncovered : Disc := { covered with artPath := none }

/-- The art is uploaded for it while the database works. -/
def firstCover : Edit := { lockedEdit with catalog := ⟨[uncovered], []⟩, faults := fun _ => false }

/-- Without new art the old cover is kept, locked as the database is, and a first cover is stored. -/
theorem edit_keeps_cover_first :
    textsEdit.KeepsCover covered ∧ firstCover.KeepsCover uncovered ∧
      firstCover.run.1 = .ok .redirect ∧ firstCover.row.bind (·.artPath) = some "ba9876543210" ∧
      firstCover.run.2.io.files "ba9876543210" .thumb = some [1] := by
  refine ⟨(edit_keeps_cover (e := textsEdit) rfl (by decide)).mpr ?_,
    (edit_keeps_cover (e := firstCover) rfl (by decide)).mpr ?_, by decide, by decide, by decide⟩
  · rintro ⟨-, ⟨-, ⟨b, bs, hdata⟩, -⟩, -⟩
    cases hdata
  · rintro ⟨-, -, stem, hstem, -⟩
    cases hstem

end StakkaWeb
