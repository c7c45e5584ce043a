import StakkaWeb.Gallery
import StakkaWeb.Laws.Covers
import StakkaWeb.Laws.Requests

/-!
# Whose cover is taken away

A stem is new when a cover is stored under it, and only rows with the id of the disc that it was
stored for ever name it; SQLite may have given that id to another disc since. So a removal finds a
cover that no row of another id has, however the requests interleave: an edit takes away the cover of
the id that it edits, and a deletion one that no row names any more.
-/

set_option autoImplicit false

namespace StakkaWeb

open Lib

theorem given_stem {stem : String} (h : stem.length = 12) : given (some stem) = some stem := by
  have hne : stem ≠ "" := fun he => by rw [he] at h; cases h
  simp [given, hne]

/-- What the form writes: the cover only when new art was stored. -/
theorem form_update {c c' : Catalog} {discId : Nat} {texts : EditTexts} {stem : Option String}
    {fields : Fields} {now : Stamp} (hfields : (texts.form (.ok stem)).fields = some fields)
    (h : c.updateDisc discId fields now = .ok ((), c')) :
    fields.artPath = (given stem).map some ∧ c' = c.updateWhere discId (fields.set now) := by
  unfold EditForm.fields EditTexts.form at hfields
  dsimp only at hfields
  split at hfields
  · cases hfields
  · cases hfields
    refine ⟨?_, ?_⟩
    · cases stem with
      | none => rfl
      | some stem =>
        unfold given
        by_cases hs : stem = ""
        · simp [hs]
        · simp [hs]
    · unfold Catalog.updateDisc at h
      split at h
      next hslot => cases hslot
      next => cases h; rfl

/-! ## What the rows name -/

/-- Every cover that a row of `c'` names, a row of `c` with that id names. -/
def Catalog.CoversOf (c c' : Catalog) : Prop :=
  ∀ row' ∈ c'.discs, ∀ stem ∈ given row'.artPath,
    ∃ row ∈ c.discs, row.id = row'.id ∧ stem ∈ given row.artPath

namespace Catalog.CoversOf

variable {c c' : Catalog}

theorem of_discs (h : c'.discs = c.discs) : c.CoversOf c' :=
  fun row' hrow' _ hstem => ⟨row', h ▸ hrow', rfl, hstem⟩

theorem refl (c : Catalog) : c.CoversOf c := of_discs rfl

theorem updateWhere (c : Catalog) {discId : Nat} {f : Disc → Disc} (hid : ∀ d, (f d).id = d.id)
    (hart : ∀ d, (f d).artPath = d.artPath) : c.CoversOf (c.updateWhere discId f) := by
  intro row' hrow' stem hstem
  obtain ⟨row, hrow, rfl⟩ := List.mem_map.mp hrow'
  refine ⟨row, hrow, ?_⟩
  split at hstem
  next h => exact ⟨by rw [if_pos h, hid], by rwa [hart] at hstem⟩
  next h => exact ⟨by rw [if_neg h], hstem⟩

theorem setStatus {discId : Nat} {f : Disc → Disc} {kind : EventKind} {detail : Option String}
    {now : Stamp} (h : c.setStatus discId f kind detail now = .ok c') (hid : ∀ d, (f d).id = d.id)
    (hart : ∀ d, (f d).artPath = d.artPath) : c.CoversOf c' := by
  intro row' hrow'
  rw [Catalog.setStatus_discs h] at hrow'
  exact updateWhere c hid hart row' hrow'

theorem deleteDisc {discId : Nat} {row : Option Disc} {now : Stamp}
    (h : c.deleteDisc discId row now = .ok c') : c.CoversOf c' := by
  intro row' hrow' stem hstem
  rw [Catalog.deleteDisc_discs h] at hrow'
  exact ⟨row', (List.mem_filter.mp hrow').1, rfl, hstem⟩

/-- A new row names no cover. -/
theorem createDisc {slot id : Nat} {title : String} {kind : EventKind} {now : Stamp}
    (h : c.createDisc slot title kind now = .ok (id, c')) : c.CoversOf c' := by
  obtain ⟨c₁, hinsert, hlog⟩ := Catalog.createDisc_steps h
  intro row' hrow' stem hstem
  rw [Catalog.log_discs hlog] at hrow'
  unfold Catalog.insertDisc at hinsert
  split at hinsert
  · cases hinsert
  · split at hinsert <;> cases hinsert
    rcases List.mem_append.mp hrow' with hrow' | hrow'
    · exact ⟨row', hrow', rfl, hstem⟩
    · obtain rfl := List.mem_singleton.mp hrow'
      cases hstem

theorem ends {now : Stamp} {job : Task} {slot : Nat} (h : Ends c now job slot (.ok c')) :
    c.CoversOf c' := by
  generalize hr : (Except.ok c' : Except Exc Catalog) = r at h
  cases h with
  | reset | nothingOut | notRetracted | retracted | timedOut =>
    exact of_discs (Catalog.log_discs hr.symm)
  | taken | stored => exact setStatus hr.symm (fun _ => rfl) fun _ => rfl
  | @created s slot =>
    generalize hcreate : c.createDisc slot _ _ now = created at hr
    cases created with
    | error => cases hr
    | ok created =>
      cases hr
      exact createDisc hcreate

theorem moves {s s' : Site} {p p' : Site.Point} (h : Site.Moves s p s' p') :
    s.catalog.CoversOf s'.catalog := by
  cases h with
  | markedOut h | markedStored h => exact setStatus h (fun _ => rfl) fun _ => rfl
  | deleted h => exact deleteDisc h
  | manualMade h => exact createDisc h
  | writes h => exact ends h
  | logs h => exact of_discs (Catalog.log_discs h)
  | _ => exact refl _

/-- The form without art leaves every cover alone. -/
theorem updateDisc {discId : Nat} {texts : EditTexts} {fields : Fields} {now : Stamp}
    (hfields : (texts.form (.ok none)).fields = some fields)
    (h : c.updateDisc discId fields now = .ok ((), c')) : c.CoversOf c' := by
  obtain ⟨hart, rfl⟩ := form_update hfields h
  refine updateWhere c (fun _ => rfl) fun d => ?_
  unfold Fields.set
  rw [hart]
  rfl

end Catalog.CoversOf

/-- With new art, the row of the disc names it, and the other rows are as they were. -/
theorem named_after_hang {c c' : Catalog} {discId : Nat} {texts : EditTexts} {new : String}
    {fields : Fields} {now : Stamp} (hfields : (texts.form (.ok (some new))).fields = some fields)
    (h : c.updateDisc discId fields now = .ok ((), c')) (hdigits : new.length = 12) {row' : Disc}
    (hrow' : row' ∈ c'.discs) {stem : String} (hstem : stem ∈ given row'.artPath) :
    (row'.id = discId ∧ stem = new) ∨ (row' ∈ c.discs ∧ row'.id ≠ discId) := by
  obtain ⟨hart, rfl⟩ := form_update hfields h
  obtain ⟨row, hrow, rfl⟩ := List.mem_map.mp hrow'
  by_cases hid : row.id = discId
  · rw [if_pos hid] at hstem ⊢
    have hnew : (fields.set now row).artPath = some new := by
      unfold Fields.set
      rw [hart, given_stem hdigits]
      rfl
    rw [hnew, given_stem hdigits] at hstem
    exact .inl ⟨hid, (Option.some.inj hstem).symm⟩
  · rw [if_neg hid]
    exact .inr ⟨hrow, hid⟩

/-! ## What a move does -/

namespace Gallery

variable {t : Nat} {g g' : Gallery} {p p' : Point}

/-- Every cover that the rows name was stored for a disc of their id. -/
def Hung (g : Gallery) : Prop :=
  ∀ row ∈ g.catalog.discs, ∀ stem ∈ given row.artPath, g.history stem = .hung row.id

/-- So was the cover of a row as it was read. -/
def Seen (g : Gallery) (disc : Disc) : Prop :=
  ∀ stem ∈ given disc.artPath, g.history stem = .hung disc.id

/-- The thread has stored this cover for a disc of this id. -/
def Drawn (g : Gallery) (t : Nat) (disc : Disc) (stem : String) : Prop :=
  g.history stem = .drawn t disc.id ∧ stem.length = 12

/-- What a thread may rely on at a point. -/
def At (t : Nat) (g : Gallery) : Point → Prop
  | .site (.deleteUsing disc) | .site (.deleteRead disc) | .site (.deleteWrite disc _) => g.Seen disc
  | .ingest disc _ => g.Seen disc
  | .full disc _ stem =>
    g.Seen disc ∧ g.Drawn t disc stem ∧ (g.files stem .thumb).isSome = true
  | .replace disc _ stem left =>
    g.Seen disc ∧ g.Drawn t disc stem ∧ g.Whole stem ∧ ∀ x ∈ left, x.1 ∈ given disc.artPath
  | .update disc _ (some stem) => g.Seen disc ∧ g.Drawn t disc stem ∧ g.Whole stem
  | .discard left => ∀ x ∈ left, (∃ discId, g.history x.1 = .hung discId) ∧
      ∀ row ∈ g.catalog.discs, x.1 ∉ given row.artPath
  | _ => True

/-- The cover that an edit is putting another in the place of. -/
def Point.replaces : Point → Option String
  | .replace disc _ _ _ | .update disc _ (some _) => given disc.artPath
  | _ => none

theorem mem_removals {stem : Option String} {x : String × Suffix} (h : x ∈ removals stem) :
    x.1 ∈ given stem := by
  unfold removals at h
  split at h
  · cases h
  next stem hstem =>
    rw [hstem]
    rcases List.mem_cons.mp h with rfl | h
    · rfl
    · obtain rfl := List.mem_singleton.mp h
      rfl

/-- A stem goes from unused to drawn to hung, and one that is drawn only by its own thread. -/
theorem moves_history (hm : Moves t g p g' p') (ha : At t g p) (stem : String) :
    g'.history stem = g.history stem ∨
      (g.history stem = .unused ∧ ∃ discId, g'.history stem = .drawn t discId) ∨
      ∃ discId, g.history stem = .drawn t discId ∧ g'.history stem = .hung discId := by
  have hset : ∀ (g : Gallery) new h, (g.setHistory new h).history stem =
      if stem = new then h else g.history stem := fun g new h => Function.update_apply ..
  cases hm with
  | savesThumb hfresh _ | thumbRaises hfresh _ =>
    rw [hset]
    split
    next h => exact .inr (.inl ⟨h ▸ hfresh, _, rfl⟩)
    next => exact .inl rfl
  | hangs _ _ =>
    rw [hset]
    split
    next h => exact .inr (.inr ⟨_, h ▸ ha.2.1.1, rfl⟩)
    next => exact .inl rfl
  | _ => exact .inl rfl

/-- A file is written only under a stem that no row has named, and removed only with the cover that
an edit replaces, or that no row names any more. -/
theorem moves_files (hm : Moves t g p g' p') (ha : At t g p) (stem : String) :
    g'.files stem = g.files stem ∨
      g.history stem = .unused ∨ (∃ discId, g.history stem = .drawn t discId) ∨
      (∃ discId, g.history stem = .hung discId) ∧ ((stem ∈ p.replaces ∧ stem ∈ p'.replaces) ∨
        ∀ row ∈ g.catalog.discs, stem ∉ given row.artPath) := by
  have hset : ∀ {new suffix content}, stem ≠ new →
      (g.setFile new suffix content).files stem = g.files stem := by
    intro new suffix content hne
    funext suffix'
    exact if_neg fun h => hne h.1
  cases hm with
  | @savesThumb _ _ new _ hfresh _ | @thumbRaises _ _ new _ hfresh _ =>
    by_cases hnew : stem = new
    · exact .inr (.inl (hnew ▸ hfresh))
    · exact .inl (hset hnew)
  | @savesFull _ _ new | @fullRaises _ _ new =>
    by_cases hnew : stem = new
    · exact .inr (.inr (.inl ⟨_, hnew ▸ ha.2.1.1⟩))
    · exact .inl (hset hnew)
  | @removes disc _ _ old =>
    by_cases hold : stem = old
    · have hreplaced : stem ∈ given disc.artPath := hold ▸ ha.2.2.2 _ List.mem_cons_self
      exact .inr (.inr (.inr ⟨⟨_, ha.1 stem hreplaced⟩, .inl ⟨hreplaced, hreplaced⟩⟩))
    · exact .inl (hset hold)
  | @discards old =>
    by_cases hold : stem = old
    · obtain ⟨hhung, hunnamed⟩ := ha _ List.mem_cons_self
      subst hold
      exact .inr (.inr (.inr ⟨hhung, .inr hunnamed⟩))
    · exact .inl (hset hold)
  | _ => exact .inl rfl

/-- A row comes to name a cover only when the edit that has stored it is recorded. -/
theorem moves_rows (hm : Moves t g p g' p') (ha : At t g p) {row' : Disc}
    (hrow' : row' ∈ g'.catalog.discs) {stem : String} (hstem : stem ∈ given row'.artPath) :
    (∃ row ∈ g.catalog.discs, row.id = row'.id ∧ stem ∈ given row.artPath) ∨
      ∃ disc texts, p = .update disc texts (some stem) ∧ row'.id = disc.id ∧
        g'.history stem = .hung disc.id ∧ g'.files = g.files := by
  cases hm with
  | site h _ => exact .inl (Catalog.CoversOf.moves h row' hrow' stem hstem)
  | deleted h => exact .inl (Catalog.CoversOf.deleteDisc h row' hrow' stem hstem)
  | updates hfields h => exact .inl (Catalog.CoversOf.updateDisc hfields h row' hrow' stem hstem)
  | @hangs disc texts new fields now _ hfields h =>
    rcases named_after_hang hfields h ha.2.1.2 hrow' hstem with ⟨hid, rfl⟩ | ⟨hrow, -⟩
    · exact .inr ⟨disc, texts, rfl, hid, Function.update_self .., rfl⟩
    · exact .inl ⟨row', hrow, rfl, hstem⟩
  | _ => exact .inl ⟨row', hrow', rfl, hstem⟩

/-- What is hung stays so. -/
theorem moves_hung (hm : Moves t g p g' p') (ha : At t g p) {stem : String} {discId : Nat}
    (h : g.history stem = .hung discId) : g'.history stem = .hung discId := by
  rcases moves_history hm ha stem with hsame | ⟨hunused, -⟩ | ⟨_, hdrawn, -⟩
  · rw [hsame, h]
  · rw [h] at hunused
    cases hunused
  · rw [h] at hdrawn
    cases hdrawn

theorem Seen.moves {disc : Disc} (h : g.Seen disc) (hm : Moves t g p g' p') (ha : At t g p) :
    g'.Seen disc :=
  fun stem hstem => moves_hung hm ha (h stem hstem)

/-- A cover that another thread has drawn is left alone. -/
theorem Drawn.moves {u : Nat} (hut : u ≠ t) {disc : Disc} {stem : String} (h : g.Drawn u disc stem)
    (hm : Moves t g p g' p') (ha : At t g p) :
    g'.Drawn u disc stem ∧ g'.files stem = g.files stem := by
  have hnot : ∀ discId, g.history stem ≠ .drawn t discId := by
    intro discId hd
    rw [h.1] at hd
    cases hd
    exact hut rfl
  have hused : g.history stem ≠ .unused := by
    rw [h.1]
    exact nofun
  refine ⟨⟨?_, h.2⟩, ?_⟩
  · rcases moves_history hm ha stem with hsame | ⟨hunused, -⟩ | ⟨discId, hd, -⟩
    · rw [hsame, h.1]
    · exact absurd hunused hused
    · exact absurd hd (hnot discId)
  · rcases moves_files hm ha stem with hsame | hunused | ⟨discId, hd⟩ | ⟨⟨discId, hhung⟩, -⟩
    · exact hsame
    · exact absurd hunused hused
    · exact absurd hd (hnot discId)
    · rw [h.1] at hhung
      cases hhung

/-- What one thread relies on, no move of another one disturbs. -/
theorem At.undisturbed {u : Nat} {q : Point} (hut : u ≠ t) (hm : Moves t g p g' p') (ha : At t g p)
    (hq : At u g q) : At u g' q := by
  cases q with
  | site q =>
    cases q with
    | deleteUsing | deleteRead | deleteWrite => exact Seen.moves hq hm ha
    | _ => trivial
  | ingest disc texts => exact Seen.moves hq hm ha
  | full disc texts stem =>
    obtain ⟨hseen, hdrawn, hthumb⟩ := hq
    obtain ⟨hdrawn', hfiles⟩ := hdrawn.moves hut hm ha
    exact ⟨hseen.moves hm ha, hdrawn', by rw [hfiles]; exact hthumb⟩
  | replace disc texts stem left =>
    obtain ⟨hseen, hdrawn, hwhole, hleft⟩ := hq
    obtain ⟨hdrawn', hfiles⟩ := hdrawn.moves hut hm ha
    exact ⟨hseen.moves hm ha, hdrawn', fun suffix => by rw [hfiles]; exact hwhole suffix, hleft⟩
  | update disc texts stem =>
    cases stem with
    | none => trivial
    | some stem =>
      obtain ⟨hseen, hdrawn, hwhole⟩ := hq
      obtain ⟨hdrawn', hfiles⟩ := hdrawn.moves hut hm ha
      exact ⟨hseen.moves hm ha, hdrawn', fun suffix => by rw [hfiles]; exact hwhole suffix⟩
  | discard left =>
    intro x hx
    obtain ⟨⟨discId, hhung⟩, hunnamed⟩ := hq x hx
    have hhung' := moves_hung hm ha hhung
    refine ⟨⟨discId, hhung'⟩, fun row' hrow' hstem => ?_⟩
    rcases moves_rows hm ha hrow' hstem with ⟨row, hrow, -, hnamed⟩ | ⟨disc, texts, rfl, -⟩
    · exact hunnamed row hrow hnamed
    · rw [ha.2.1.1] at hhung
      cases hhung
  | edit => trivial

/-- **A thread's own move.** -/
theorem moves_own (hm : Moves t g p g' p') (hg : g.Hung) (ha : At t g p) : g'.Hung ∧ At t g' p' := by
  refine ⟨fun row' hrow' stem hstem => ?_, ?_⟩
  · rcases moves_rows hm ha hrow' hstem with ⟨row, hrow, hid, hnamed⟩ | ⟨disc, _, _, hid, hhung, _⟩
    · rw [← hid]
      exact moves_hung hm ha (hg row hrow stem hnamed)
    · rw [hid]
      exact hhung
  have hread : ∀ {discId disc}, g.catalog.getDisc discId = some disc → g.Seen disc := fun h =>
    hg _ (List.mem_of_find?_eq_some h)
  have hkept : ∀ {disc}, g.Seen disc → g'.Seen disc := fun h => h.moves hm ha
  cases hm with
  | site h hp =>
    cases h with
    | deleteFound h => exact hread h
    | deleteFree | deleteRead => exact ha
    | _ => trivial
  | deleted h =>
    intro x hx
    have hstem := mem_removals hx
    refine ⟨⟨_, ha _ hstem⟩, fun row hrow hnamed => ?_⟩
    rw [show (g.setCatalog _).catalog.discs = _ from Catalog.deleteDisc_discs h] at hrow
    obtain ⟨hrow, hne⟩ := List.mem_filter.mp hrow
    have hsame := (hg row hrow x.1 hnamed).symm.trans (ha x.1 hstem)
    exact of_decide_eq_true hne (Stem.hung.inj hsame)
  | discards | discardFails => exact fun x hx => ha x (List.mem_cons_of_mem _ hx)
  | editTitled h _ => exact hread h
  | savesThumb hfresh hdigits =>
    exact ⟨hkept ha, ⟨Function.update_self .., hdigits⟩, congrArg Option.isSome (if_pos ⟨rfl, rfl⟩)⟩
  | savesFull =>
    refine ⟨hkept ha.1, ha.2.1, fun suffix => ?_, fun x hx => mem_removals hx⟩
    cases suffix with
    | thumb => exact (congrArg Option.isSome (if_neg fun h => by cases h.2)).trans ha.2.2
    | full => exact congrArg Option.isSome (if_pos ⟨rfl, rfl⟩)
  | @removes disc texts stem old suffix left =>
    have hne : stem ≠ old := by
      rintro rfl
      have hhung := ha.1 stem (ha.2.2.2 _ List.mem_cons_self)
      rw [ha.2.1.1] at hhung
      cases hhung
    refine ⟨hkept ha.1, ha.2.1, fun suffix' => ?_, fun x hx => ?_⟩
    · exact (congrArg Option.isSome (if_neg fun h => hne h.1)).trans (ha.2.2.1 suffix')
    · exact ha.2.2.2 x (List.mem_cons_of_mem _ hx)
  | removeFails => exact ⟨ha.1, ha.2.1, ha.2.2.1, fun x hx => ha.2.2.2 x (List.mem_cons_of_mem _ hx)⟩
  | replaced => exact ⟨ha.1, ha.2.1, ha.2.2.1⟩
  | _ => trivial

theorem outline : Threads.Outline Moves Hung At fun _ _ => True where
  symm _ _ _ := trivial
  own hm hg ha := moves_own hm hg ha
  undisturbed hut hm _ ha hq _ := At.undisturbed hut hm ha hq
  apart _ _ _ _ _ _ := trivial

/-! ## The covers of the rows -/

/-- A cover is whole, or its removal was never recorded, or an edit is replacing it. -/
def Accounted (c : Threads Gallery Point) (stem : String) : Prop :=
  c.shared.Whole stem ∨ stem ∈ c.shared.stranded ∨ ∃ t, stem ∈ (c.at_ t).replaces

/-- An edit goes on replacing a cover until no row names it, unless it fails to record that. -/
theorem moves_replaces (hm : Moves t g p g' p') (hg : g.Hung) (ha : At t g p) {stem : String}
    (h : stem ∈ p.replaces) : stem ∈ p'.replaces ∨ stem ∈ g'.stranded ∨
      ∀ row' ∈ g'.catalog.discs, stem ∉ given row'.artPath := by
  cases hm with
  | removes | removeFails | replaced => exact .inl h
  | strands => exact .inr (.inl (List.mem_append_left _ (Option.mem_toList.mpr h)))
  | hangs hfields hset =>
    refine .inr (.inr fun row' hrow' hstem => ?_)
    have hhung := ha.1 stem h
    rcases named_after_hang hfields hset ha.2.1.2 hrow' hstem with ⟨-, rfl⟩ | ⟨hrow, hne⟩
    · rw [ha.2.1.1] at hhung
      cases hhung
    · exact hne (Stem.hung.inj ((hg row' hrow stem hstem).symm.trans hhung))
  | _ => cases h

theorem moves_stranded (hm : Moves t g p g' p') {stem : String} (h : stem ∈ g.stranded) :
    stem ∈ g'.stranded := by
  cases hm with
  | strands => exact List.mem_append_right _ h
  | _ => exact h

/-- **One move**: what a row names stays accounted for. -/
theorem step_accounted {c c' : Threads Gallery Point} (hs : Threads.Step Moves c c')
    (hc : Threads.Holds Hung At (fun _ _ => True) c)
    (hacc : ∀ row ∈ c.shared.catalog.discs, ∀ stem ∈ given row.artPath, Accounted c stem) :
    ∀ row ∈ c'.shared.catalog.discs, ∀ stem ∈ given row.artPath, Accounted c' stem := by
  obtain @⟨t, g', p', hm⟩ := hs
  have ha := hc.thread t
  intro row' hrow' stem hstem
  rcases moves_rows hm ha hrow' hstem with ⟨row, hrow, -, hnamed⟩ | ⟨disc, texts, hp, -, -, hfiles⟩
  · have hhung := hc.shared row hrow stem hnamed
    rcases hacc row hrow stem hnamed with hwhole | hstranded | ⟨u, hu⟩
    · rcases moves_files hm ha stem with hsame | hunused | ⟨_, hdrawn⟩ | ⟨-, ⟨-, hreplaced⟩ | hnone⟩
      · exact .inl fun suffix => by rw [Threads.put_shared, hsame]; exact hwhole suffix
      · rw [hhung] at hunused
        cases hunused
      · rw [hhung] at hdrawn
        cases hdrawn
      · exact .inr (.inr ⟨t, by rw [Threads.put_at]; exact hreplaced⟩)
      · exact absurd hnamed (hnone row hrow)
    · exact .inr (.inl (moves_stranded hm hstranded))
    · by_cases hut : u = t
      · subst hut
        rcases moves_replaces hm hc.shared ha hu with hreplaced | hstranded | hnone
        · exact .inr (.inr ⟨u, by rw [Threads.put_at]; exact hreplaced⟩)
        · exact .inr (.inl hstranded)
        · exact absurd hstem (hnone row' hrow')
      · exact .inr (.inr ⟨u, by rw [Threads.put_other c hut]; exact hu⟩)
  · rw [hp] at ha
    exact .inl fun suffix => by rw [Threads.put_shared, hfiles]; exact ha.2.2 suffix

/-- An edit of this id stands between storing new art and recording it, with this cover to replace. -/
def Replacing (c : Threads Gallery Point) (discId : Nat) (stem : String) : Prop :=
  ∃ t disc texts new, ((∃ left, c.at_ t = .replace disc texts new left) ∨
    c.at_ t = .update disc texts (some new)) ∧ disc.id = discId ∧ stem ∈ given disc.artPath

/-- **A cover that a row names was stored for a disc of that id, and only an edit of that id ever takes
it away**: whatever edits, deletions, corrections and jobs run at once and wherever they fail, both its
files are there unless such an edit is putting new art in its place, or has done so and failed to
record it. -/
theorem run_accounted {g : Gallery} (hg : g.Hangs) {c : Threads Gallery Point} (h : Run (new g) c) :
    ∀ row ∈ c.shared.catalog.discs, ∀ stem ∈ given row.artPath,
      c.shared.history stem = .hung row.id ∧
        (c.shared.Whole stem ∨ stem ∈ c.shared.stranded ∨ Replacing c row.id stem) := by
  have hnew : Threads.Holds Hung At (fun _ _ => True) (new g) :=
    ⟨hg.hung, fun _ => trivial, fun _ _ _ => trivial⟩
  have hacc : ∀ row ∈ c.shared.catalog.discs, ∀ stem ∈ given row.artPath, Accounted c stem := by
    induction h with
    | refl => exact fun row hrow stem hstem => .inl (hg.whole row hrow stem hstem)
    | tail hs hstep ih => exact step_accounted hstep (outline.reachable hs hnew) ih
  have hc := outline.reachable h hnew
  intro row hrow stem hstem
  have hhung := hc.shared row hrow stem hstem
  refine ⟨hhung, ?_⟩
  rcases hacc row hrow stem hstem with hwhole | hstranded | ⟨t, ht⟩
  · exact .inl hwhole
  · exact .inr (.inl hstranded)
  · have ha := hc.thread t
    refine .inr (.inr ⟨t, ?_⟩)
    generalize c.at_ t = p at ht ha
    cases p with
    | replace disc texts new left =>
      exact ⟨disc, texts, new, .inl ⟨left, rfl⟩, Stem.hung.inj ((ha.1 stem ht).symm.trans hhung), ht⟩
    | update disc texts new =>
      cases new with
      | none => cases ht
      | some new =>
        exact ⟨disc, texts, new, .inr rfl, Stem.hung.inj ((ha.1 stem ht).symm.trans hhung), ht⟩
    | _ => cases ht

/-- One disc with its cover. -/
def shelf : Gallery where
  site := ⟨⟨[covered], []⟩, none⟩
  files stem _ := if stem = "0123456789ab" then some [2] else none
  history stem := if stem = "0123456789ab" then .hung 1 else .unused
  stranded := []

theorem shelf_hangs : shelf.Hangs := by
  constructor
  · intro row hrow stem hstem
    obtain rfl := List.mem_singleton.mp hrow
    obtain rfl : "0123456789ab" = stem := Option.some.inj hstem
    rfl
  · intro row hrow stem hstem suffix
    obtain rfl := List.mem_singleton.mp hrow
    obtain rfl : "0123456789ab" = stem := Option.some.inj hstem
    rfl

/-- Halfway through putting a new cover in the place of that one. -/
theorem run_accounted_replacing : ∃ c, Run (new shelf) c ∧ c.shared.catalog.discs = [covered] ∧
    ¬ c.shared.Whole "0123456789ab" ∧ ∀ row ∈ c.shared.catalog.discs, ∀ stem ∈ given row.artPath,
      c.shared.history stem = .hung row.id ∧
        (c.shared.Whole stem ∨ stem ∈ c.shared.stranded ∨ Replacing c row.id stem) := by
  have hrun := (Relation.ReflTransGen.refl : Run (new shelf) (new shelf))
    |>.tail (.from_ (t := 0) rfl (.edit 1 ⟨some "Myst", none, none, none, none⟩))
    |>.tail (.from_ (t := 0) rfl
      (.editTitled (show Catalog.getDisc _ _ = some covered from rfl) (by decide)))
    |>.tail (.from_ (t := 0) rfl (@Moves.savesThumb 0 _ _ _ "ba9876543210" [1] rfl (by decide)))
    |>.tail (.from_ (t := 0) rfl (@Moves.savesFull 0 _ _ _ _ [1]))
    |>.tail (.from_ (t := 0) rfl .removes)
  exact ⟨_, hrun, rfl, fun h => absurd (h .thumb) (by decide), run_accounted shelf_hangs hrun⟩

/-! ## One edit alone

A thread of the gallery can do whatever the request of `Edit` does, between its first statement and
its answer: the two describe the same code, one as a program and one as the steps it is made of.
-/

section Alone

open Prog

variable (e : Edit) (g₀ : Gallery) (t : Nat)

/-- The edit has not stored anything yet. -/
def Point.early : Point → Bool
  | .edit _ _ | .ingest _ _ => true
  | _ => false

/-- The steps of thread `t` from its first read, none of them past the end of the request. -/
abbrev Edits (g : Gallery) (p : Point) : Prop :=
  Threads.Solo Moves t (· ≠ .idle) (g₀, .edit e.discId e.texts) (g, p)

/-- The request and thread `t` are at the same point. -/
structure Follows (p : Point) (w : World ArtDir) : Prop where
  reading : e.Reading 1 w
  steps : ∃ g, Edits e g₀ t g p ∧ g.catalog = e.catalog ∧ g.files = w.io.files ∧
    (p.early = true → g.history e.supply.fresh = .unused)

/-- The request is over, and so are the thread's steps. -/
def Done (w : World ArtDir) : Prop :=
  ∃ g, Edits e g₀ t g .idle ∧ g.catalog = w.conn.committed ∧ g.files = w.io.files

variable {e g₀ t} {p p' : Point} {w w' : World ArtDir}

theorem Follows.done (h : Follows e g₀ t .idle w) : Done e g₀ t w := by
  obtain ⟨g, hsteps, hcatalog, hfiles, -⟩ := h.steps
  exact ⟨g, hsteps, hcatalog.trans h.reading.saved.symm, hfiles⟩

/-- The thread takes a step. -/
theorem Follows.move (h : Follows e g₀ t p w) (hp : p ≠ .idle) (hreading : e.Reading 1 w')
    (hlate : p'.early = false)
    (hm : ∀ g : Gallery, g.catalog = e.catalog → g.files = w.io.files →
      (p.early = true → g.history e.supply.fresh = .unused) →
      ∃ g', Moves t g p g' p' ∧ g'.catalog = e.catalog ∧ g'.files = w'.io.files) :
    Follows e g₀ t p' w' := by
  obtain ⟨g, hsteps, hcatalog, hfiles, hfresh⟩ := h.steps
  obtain ⟨g', hmove, hcatalog', hfiles'⟩ := hm g hcatalog hfiles hfresh
  refine ⟨hreading, g', hsteps.tail ⟨hp, hmove⟩, hcatalog', hfiles', fun hearly => ?_⟩
  rw [hlate] at hearly
  cases hearly

/-- A step that changes nothing. -/
theorem Follows.skip (h : Follows e g₀ t p w) (hp : p ≠ .idle) (hlate : p'.early = false)
    (hm : ∀ g : Gallery, g.catalog = e.catalog → Moves t g p g p') : Follows e g₀ t p' w :=
  h.move hp h.reading hlate fun g hcatalog hfiles _ => ⟨g, hm g hcatalog, hcatalog, hfiles⟩

variable {disc : Disc} {texts : EditTexts}

/-- A file written or removed by both. -/
theorem Follows.setFile (p' : Point) {stem : String} {suffix : Suffix} {content : Option Bytes}
    {R : Option Exc → World ArtDir → Prop} (hp : p ≠ .idle) (hlate : p'.early = false)
    (hm : ∀ g : Gallery, (p.early = true → g.history e.supply.fresh = .unused) →
      ∃ g', Moves t g p g' p' ∧ g'.catalog = g.catalog ∧
        g'.files = (g.setFile stem suffix content).files) :
    Triple (Follows e g₀ t p) (StakkaWeb.setFile stem suffix content)
      (fun _ => Follows e g₀ t p') R := by
  refine Triple.modify fun w h => h.move hp h.reading hlate fun g hcatalog hfiles hfresh => ?_
  obtain ⟨g', hmove, hcatalog', hfiles'⟩ := hm g hfresh
  refine ⟨g', hmove, hcatalog'.trans hcatalog, hfiles'.trans ?_⟩
  unfold Gallery.setFile
  dsimp only
  rw [hfiles]

theorem saveThumb_follows : Triple (Follows e g₀ t (.ingest disc texts))
    (saveJpeg e.supply e.supply.fresh .thumb)
    (fun _ => Follows e g₀ t (.full disc texts e.supply.fresh)) (fun _ => Follows e g₀ t .idle) := by
  unfold saveJpeg
  cases e.supply.save .thumb with
  | ok jpeg =>
    exact Follows.setFile _ nofun rfl fun g hfresh =>
      ⟨_, .savesThumb (hfresh rfl) e.supply.digits, rfl, rfl⟩
  | fails exc left =>
    exact (Follows.setFile (p := .ingest disc texts) .idle nofun rfl fun g hfresh =>
      ⟨_, .thumbRaises (hfresh rfl) e.supply.digits, rfl, rfl⟩).bind fun _ => Triple.raise fun _ h => h

theorem saveFull_follows : Triple (Follows e g₀ t (.full disc texts e.supply.fresh))
    (saveJpeg e.supply e.supply.fresh .full)
    (fun _ => Follows e g₀ t (.replace disc texts e.supply.fresh (removals disc.artPath)))
    (fun _ => Follows e g₀ t .idle) := by
  unfold saveJpeg
  cases e.supply.save .full with
  | ok jpeg => exact Follows.setFile _ nofun rfl fun g _ => ⟨_, .savesFull, rfl, rfl⟩
  | fails exc left =>
    exact (Follows.setFile (p := .full disc texts _) .idle nofun rfl fun g _ =>
      ⟨_, .fullRaises, rfl, rfl⟩).bind fun _ => Triple.raise fun _ h => h

theorem removeFile_follows (left : List (String × Suffix)) {new old : String} {suffix : Suffix}
    {R : Option Exc → World ArtDir → Prop} :
    Triple (Follows e g₀ t (.replace disc texts new ((old, suffix) :: left)))
      (removeFile e.supply old suffix) (fun _ => Follows e g₀ t (.replace disc texts new left)) R := by
  refine Triple.bind (M := fun _ => Follows e g₀ t (.replace disc texts new ((old, suffix) :: left)))
    (Triple.gets fun _ h => h) fun there => Triple.when (fun _ => ?_) fun w h _ => ?_
  · exact (Follows.setFile (p := .replace disc texts new (_ :: left)) (.replace disc texts new left) nofun rfl
      fun g _ => ⟨_, .removes, rfl, rfl⟩).bind fun _ => Triple.modify fun _ h => ⟨h.reading, h.steps⟩
  · exact h.skip nofun rfl fun g _ => .removeFails

theorem removeArt_follows {new : String} {R : Option Exc → World ArtDir → Prop} :
    Triple (Follows e g₀ t (.replace disc texts new (removals disc.artPath)))
      (removeArt e.supply disc.artPath) (fun _ => Follows e g₀ t (.update disc texts (some new))) R := by
  have hdone : ∀ {w}, Follows e g₀ t (.replace disc texts new []) w →
      Follows e g₀ t (.update disc texts (some new)) w := fun h => h.skip nofun rfl fun g _ => .replaced
  unfold removeArt removals
  cases given disc.artPath with
  | none => exact Triple.pure fun _ h => hdone h
  | some old =>
    exact (removeFile_follows [(old, .full)]).bind fun _ =>
      (removeFile_follows []).post fun _ _ h => hdone h

/-- What raises before a file is written. -/
theorem ofExcept_follows {α : Type} {x : Except Exc α} :
    Triple (Follows e g₀ t (.ingest disc texts)) (ofExcept x)
      (fun _ => Follows e g₀ t (.ingest disc texts)) (fun _ => Follows e g₀ t .idle) := by
  cases x with
  | ok a => exact Triple.pure fun _ h => h
  | error exc => exact Triple.raise fun _ h => h.skip nofun rfl fun _ _ => .artRaises

theorem storeArt_follows :
    Triple (Follows e g₀ t (.ingest disc texts)) (storeArt e.supply)
      (fun r w => match r with
        | .ok stem => stem = e.supply.fresh ∧
            Follows e g₀ t (.replace disc texts stem (removals disc.artPath)) w
        | .error _ => Follows e g₀ t .idle w)
      (fun _ => Follows e g₀ t .idle) := by
  refine Triple.ite (fun _ => Triple.pure fun _ h => h.skip nofun rfl fun _ _ => .artRaises) fun _ => ?_
  refine ofExcept_follows.bind fun _ => ofExcept_follows.bind fun _ => ?_
  exact saveThumb_follows.bind fun _ => saveFull_follows.bind fun _ => Triple.pure fun _ h => ⟨rfl, h⟩

theorem ingestArt_follows :
    Triple (Follows e g₀ t (.ingest disc texts)) (ingestArt e.supply disc.artPath)
      (fun r w => match r with
        | .ok stem => stem.all (· = e.supply.fresh) = true ∧ Follows e g₀ t (.update disc texts stem) w
        | .error _ => Follows e g₀ t .idle w)
      (fun _ => Follows e g₀ t .idle) := by
  refine ofExcept_follows.bind fun data => ?_
  rcases data with msg | _ | ⟨b, bs⟩
  · exact Triple.pure fun _ h => h.skip nofun rfl fun _ _ => .artRaises
  · exact Triple.pure fun _ h => ⟨rfl, h.skip nofun rfl fun _ _ => .artless⟩
  · refine storeArt_follows.bind fun r => ?_
    rcases r with msg | stem
    · exact Triple.pure fun _ h => h
    · refine Triple.of_fact fun hstem => removeArt_follows.bind fun _ => Triple.pure fun _ h => ⟨?_, h⟩
      exact decide_eq_true hstem

/-- The statement that records the edit. -/
theorem updateDisc_follows {stem : Option String} (hdisc : disc.id = e.discId) {fields : Fields}
    (hfields : (texts.form (.ok stem)).fields = some fields) (hne : fields ≠ {})
    (hslot : fields.slot = none) :
    Triple (Follows e g₀ t (.update disc texts stem)) (updateDisc e.discId fields)
      (fun _ => Done e g₀ t) (fun _ => Done e g₀ t) := by
  refine Triple.of_each fun w₀ h₀ => ?_
  obtain ⟨g, hsteps, hcatalog, hfiles, -⟩ := h₀.steps
  refine (Edit.updateDisc_leaves hne hslot w₀.io).conseq (fun w h => ⟨h ▸ h₀.reading, by rw [h]⟩)
    (fun _ w h => ?_) fun _ w h => ?_
  · have hset : g.catalog.updateDisc disc.id fields e.now = .ok ((), w.conn.committed) := by
      unfold Catalog.updateDisc
      rw [hslot, hdisc, hcatalog, h.2.2]
      cases e.catalog.getDisc e.discId <;> rfl
    cases stem with
    | none =>
      exact ⟨_, hsteps.tail ⟨nofun, .updates hfields hset⟩, rfl, hfiles.trans (by rw [h.2.1])⟩
    | some stem =>
      exact ⟨_, hsteps.tail ⟨nofun, .hangs hfields hset⟩, rfl, hfiles.trans (by rw [h.2.1])⟩
  · have hleft : g.catalog = w.conn.committed ∧ g.files = w.io.files :=
      ⟨hcatalog.trans h.2.2.symm, hfiles.trans (by rw [h.2.1])⟩
    cases stem with
    | none => exact ⟨_, hsteps.tail ⟨nofun, .updateRaises⟩, hleft⟩
    | some stem => exact ⟨_, hsteps.tail ⟨nofun, .strands⟩, hleft⟩

theorem getDisc_start :
    Triple (fun w => w = e.start) (getDisc e.discId)
      (fun found w => found = e.catalog.getDisc e.discId ∧ e.Reading 1 w ∧ w.io.files = e.files)
      (fun _ w => w.conn.committed = e.catalog ∧ w.io.files = e.files) := by
  have hio : Keeps (fun w : World ArtDir => w.io.files = e.files) (getDisc e.discId) := by
    unfold getDisc execute
    refine Keeps.call fun w h => ?_
    dsimp only
    split
    · exact h
    · exact h
  refine ((execute_ok_at fun c => (c.getDisc e.discId, c)).and hio).conseq ?_
    (fun _ _ h => ⟨h.1.2.1, h.1.2.2, h.2⟩) fun _ _ h => ⟨h.1.2, h.2⟩
  rintro w rfl
  exact ⟨⟨rfl, rfl, rfl, rfl, rfl⟩, rfl⟩

/-- The request takes the thread's steps, from its first read to its answer. -/
theorem edit_done (hcatalog : g₀.catalog = e.catalog) (hfiles : g₀.files = e.files)
    (hfresh : g₀.history e.supply.fresh = .unused) : Done e g₀ t e.run.2 := by
  have hpost : Triple (fun w => w = e.start) (discEditPost e.supply e.discId e.texts)
      (fun _ => Done e g₀ t) (fun _ => Done e g₀ t) := by
    refine Triple.bind (getDisc_start.conseq (fun _ h => h) (fun _ _ h => h) ?_) fun found =>
      Triple.of_fact ?_
    · rintro _ w ⟨hrow, hsame⟩
      exact ⟨_, .single ⟨nofun, .editRaises⟩, hcatalog.trans hrow.symm, hfiles.trans hsame.symm⟩
    intro hfound
    have hstart : ∀ w, e.Reading 1 w ∧ w.io.files = e.files →
        Follows e g₀ t (.edit e.discId e.texts) w := fun w h =>
      ⟨h.1, g₀, .refl, hcatalog, hfiles.trans h.2.symm, fun _ => hfresh⟩
    cases found with
    | none =>
      refine Triple.pure fun w h => ((hstart w h).skip nofun rfl fun g hg => ?_).done
      exact .editMissing (by rw [hg, ← hfound])
    | some disc =>
      have hread : ∀ g : Gallery, g.catalog = e.catalog → g.catalog.getDisc e.discId = some disc :=
        fun g hg => by rw [hg, ← hfound]
      dsimp only
      cases htitle : formText e.texts.title with
      | none =>
        exact Triple.pure fun w h => ((hstart w h).skip nofun rfl fun g hg =>
          .editUntitled (hread g hg) htitle).done
      | some title =>
        have htitled : formText e.texts.title ≠ none := by rw [htitle]; exact nofun
        have hdisc := Catalog.getDisc_id hfound.symm
        refine (@ingestArt_follows e g₀ t disc e.texts).conseq ?_
          (fun _ _ h => h) (fun _ _ h => h.done) |>.bind fun art => ?_
        · intro w h
          have hstep : Edits e g₀ t g₀ (.ingest disc e.texts) :=
            .single ⟨nofun, .editTitled (hread _ hcatalog) htitled⟩
          exact ⟨h.1, _, hstep, hcatalog, hfiles.trans h.2.symm, fun _ => hfresh⟩
        · cases art with
          | error msg =>
            rw [Edit.form_error]
            exact Triple.pure fun w h => h.done
          | ok stem =>
            obtain ⟨fields, hfields, hne, hslot, -⟩ := Edit.form_fields htitled stem
            rw [hfields]
            refine Triple.of_fact fun _ => ?_
            exact (updateDisc_follows hdisc hfields hne hslot).bind fun _ => Triple.pure fun _ h => h
  have hrun := hpost 0 e.start rfl
  unfold Edit.run
  split at hrun <;> rename_i hr <;> rw [hr] <;> exact hrun

/-- **The request, as a program, is one request of a thread of the gallery**: posted, it takes that
thread's own steps from the first read to the answer, with the others standing still, and leaves the
file and the covers as they do. -/
theorem edit_follows (c₀ : Threads Gallery Point) (hcatalog : c₀.shared.catalog = e.catalog)
    (hfiles : c₀.shared.files = e.files) (hfresh : c₀.shared.history e.supply.fresh = .unused)
    (hidle : c₀.at_ t = .idle) :
    ∃ g, Threads.Solo Moves t (· ≠ .idle) (c₀.shared, .edit e.discId e.texts) (g, .idle) ∧
      Run c₀ (c₀.put t g .idle) ∧ g.catalog = e.run.2.conn.committed ∧ g.files = e.run.2.io.files := by
  obtain ⟨g, hsteps, hleft⟩ := edit_done (t := t) hcatalog hfiles hfresh
  refine ⟨g, hsteps, ?_, hleft⟩
  have hposted : Run c₀ (c₀.put t c₀.shared (.edit e.discId e.texts)) :=
    .single (.from_ hidle (.edit e.discId e.texts))
  have hrun := hposted.trans (hsteps.steps rfl (Threads.put_at ..))
  rwa [Threads.put_put] at hrun

theorem edit_follows_locked : ∃ g, Threads.Solo Moves 0 (· ≠ .idle)
      ((new shelf).shared, .edit lockedEdit.discId lockedEdit.texts) (g, .idle) ∧
    Run (new shelf) ((new shelf).put 0 g .idle) ∧ g.catalog = lockedEdit.run.2.conn.committed ∧
    g.files = lockedEdit.run.2.io.files := edit_follows (new shelf) rfl rfl rfl rfl

end Alone

end Gallery

end StakkaWeb
