import Mathlib.Data.List.MinMax
import Mathlib.Data.List.Nodup
import StakkaWeb.Laws.Catalog
import StakkaWeb.Laws.Kept
import StakkaWeb.Upkeep

/-!
# The row invariants

`Catalog.Sound` is what every row and event of the catalogue satisfies. Every single statement of
every operation keeps it, so it does not matter which of them fail; and no operation changes the
slot of a row, as long as the row is there.
-/

set_option autoImplicit false

namespace StakkaWeb

open Lib Lib.Prog

/-! ## What a row is -/

/-- The status of a row is one of two by its type. -/
structure Disc.Sound (d : Disc) : Prop where
  slot : slotMin ≤ d.slot ∧ d.slot ≤ slotMax
  checkedOut : d.checkedOutAt.isSome = true ↔ d.status = .out
  category : ∀ k, d.category = some k → k ∈ Taxonomy.categories
  platform : ∀ p, d.platform = some p → d.category = some Taxonomy.games ∧ p ∈ Taxonomy.platforms
  title : d.title ≠ ""

structure Catalog.Sound (c : Catalog) : Prop where
  ids : (c.discs.map Disc.id).Nodup
  slots : (c.discs.map Disc.slot).Nodup
  rows : ∀ d ∈ c.discs, d.Sound
  refs : ∀ e ∈ c.events, ∀ discId, e.discId = some discId → discId ∈ c.discs.map Disc.id

/-! ## What the forms let through -/

namespace Taxonomy

theorem match_mem {value : Option String} {known : List String} {k : String}
    (h : match_ value known = some k) : k ∈ known :=
  List.mem_of_find?_eq_some h

theorem platform_games {categoryValue value : Option String} {p : String}
    (h : platform categoryValue value = some p) : categoryValue = some games ∧ p ∈ platforms := by
  unfold platform at h
  split at h
  next hgames => exact ⟨hgames, match_mem h⟩
  next => cases h

end Taxonomy

theorem formText_ne {value : Option String} {text : String} (h : formText value = some text) :
    text ≠ "" := by
  unfold formText at h
  dsimp only at h
  split at h
  next => cases h
  next hne => exact Option.some.inj h ▸ hne

/-- A change of a row that an operation makes: it keeps the row's keys, and what a row is. -/
structure Edits (f : Disc → Disc) : Prop where
  id : ∀ d, (f d).id = d.id
  slot : ∀ d, (f d).slot = d.slot
  sound : ∀ d, d.Sound → (f d).Sound

theorem markOut_edits (now : Stamp) : Edits fun d =>
    { d with status := .out, checkedOutAt := some now, updatedAt := now } where
  id _ := rfl
  slot _ := rfl
  sound _ hd := ⟨hd.slot, ⟨fun _ => rfl, fun _ => rfl⟩, hd.category, hd.platform, hd.title⟩

theorem markStored_edits (now : Stamp) : Edits fun d =>
    { d with status := .stored, checkedOutAt := none, updatedAt := now } where
  id _ := rfl
  slot _ := rfl
  sound _ hd := ⟨hd.slot, ⟨nofun, nofun⟩, hd.category, hd.platform, hd.title⟩

/-- The form sets the category and the platform together, and never the slot. -/
theorem EditForm.fields_edits {form : EditForm} {fields : Fields} (h : form.fields = some fields)
    (now : Stamp) : fields.slot = none ∧ Edits (fields.set now) := by
  unfold EditForm.fields at h
  cases htitle : formText form.title with
  | none => rw [htitle] at h; cases h
  | some title =>
    cases hart : form.art with
    | error _ => rw [htitle, hart] at h; cases h
    | ok stem =>
      rw [htitle, hart] at h
      cases h
      refine ⟨rfl, fun _ => rfl, fun _ => rfl, fun d hd => ⟨hd.slot, hd.checkedOut, ?_, ?_, ?_⟩⟩
      · exact fun k hk => Taxonomy.match_mem hk
      · exact fun p hp => Taxonomy.platform_games hp
      · exact formText_ne htitle

/-! ## Statements -/

namespace Catalog

variable {c c' : Catalog}

/-- A new id is one no row has. -/
theorem nextId_fresh (ids : List Nat) : nextId ids ∉ ids := fun h => by
  have : nextId ids ≤ ids.foldr max 0 := List.le_max_of_le' 0 h (Nat.le_refl _)
  unfold nextId at this
  omega

/-- What an `INSERT` has done that went through. -/
theorem insertDisc_inserts {slot id : Nat} {title : String} {now : Stamp}
    (h : c.insertDisc slot title none none none none none now = .ok (id, c')) :
    c.getBySlot slot = none ∧ (slotMin ≤ slot ∧ slot ≤ slotMax) ∧
      c' = { c with discs := c.discs ++ [⟨nextId (c.discs.map Disc.id), slot, title, none, none, none,
        none, none, .stored, none, now, now⟩] } := by
  unfold insertDisc at h
  split at h
  · cases h
  next hslot =>
    split at h
    · cases h
    next hrange =>
      cases h
      refine ⟨by simpa using hslot, ?_, rfl⟩
      omega

theorem insertEvent_inserts {discId slot : Option Nat} {kind : EventKind} {detail : Option String}
    {now : Stamp} (h : c.insertEvent discId slot kind detail now = .ok ((), c')) :
    (∀ d, discId = some d → d ∈ c.discs.map Disc.id) ∧ c'.discs = c.discs ∧
      ∃ e : Event, e.discId = discId ∧ c'.events = c.events ++ [e] := by
  unfold insertEvent at h
  split at h
  · cases h
  next hrow =>
    cases h
    refine ⟨?_, rfl, _, rfl, rfl⟩
    rintro d rfl
    rw [Option.any_some, Option.isNone_iff_eq_none] at hrow
    obtain ⟨row, hfind⟩ := Option.ne_none_iff_exists'.mp hrow
    have hid : row.id = d := beq_iff_eq.mp (List.find?_some (p := fun d' : Disc => d'.id == d) hfind)
    exact List.mem_map.mpr ⟨row, List.mem_of_find?_eq_some hfind, hid⟩

theorem updateWhere_map {α : Type} (discId : Nat) {f : Disc → Disc} {g : Disc → α}
    (hf : ∀ d, g (f d) = g d) : (c.updateWhere discId f).discs.map g = c.discs.map g := by
  unfold updateWhere
  rw [List.map_map]
  refine List.map_congr_left fun d _ => ?_
  rw [Function.comp_apply]
  split
  · exact hf d
  · rfl

namespace Keyed

theorem of_discs (h : c.Keyed) (hdiscs : c'.discs = c.discs) : c'.Keyed :=
  ⟨hdiscs ▸ h.ids, hdiscs ▸ h.slots, hdiscs ▸ h.range⟩

theorem insertDisc (h : c.Keyed) {slot id : Nat} {title : String} {now : Stamp}
    (hinsert : c.insertDisc slot title none none none none none now = .ok (id, c')) : c'.Keyed := by
  obtain ⟨hfree, hrange, rfl⟩ := insertDisc_inserts hinsert
  refine ⟨?_, ?_, fun d hd => ?_⟩
  · rw [List.map_append]
    exact h.ids.append (List.nodup_singleton _) fun _ hmem hnew =>
      nextId_fresh _ (List.mem_singleton.mp hnew ▸ hmem)
  · rw [List.map_append]
    refine h.slots.append (List.nodup_singleton _) fun _ hmem hnew => ?_
    obtain ⟨d, hd, hslot⟩ := List.mem_map.mp hmem
    refine absurd (beq_iff_eq.mpr ?_) (List.find?_eq_none.mp hfree d hd)
    exact hslot.trans (List.mem_singleton.mp hnew)
  · rcases List.mem_append.mp hd with hold | hnew
    · exact h.range d hold
    · cases List.mem_singleton.mp hnew
      exact hrange

theorem updateWhere (h : c.Keyed) (discId : Nat) {f : Disc → Disc} (hf : Edits f) :
    (c.updateWhere discId f).Keyed := by
  refine ⟨?_, ?_, fun d hd => ?_⟩
  · rw [updateWhere_map discId hf.id]
    exact h.ids
  · rw [updateWhere_map discId hf.slot]
    exact h.slots
  · obtain ⟨row, hrow, rfl⟩ := List.mem_map.mp hd
    split
    · rw [hf.slot]
      exact h.range row hrow
    · exact h.range row hrow

end Keyed

namespace Sound

theorem keyed (h : c.Sound) : c.Keyed := ⟨h.ids, h.slots, fun d hd => (h.rows d hd).slot⟩

theorem insertDisc (h : c.Sound) {slot id : Nat} {title : String} {now : Stamp} (htitle : title ≠ "")
    (hinsert : c.insertDisc slot title none none none none none now = .ok (id, c')) : c'.Sound := by
  have hkeyed := h.keyed.insertDisc hinsert
  obtain ⟨_, hrange, rfl⟩ := insertDisc_inserts hinsert
  refine ⟨hkeyed.ids, hkeyed.slots, fun d hd => ?_, fun e he d hd => ?_⟩
  · rcases List.mem_append.mp hd with hold | hnew
    · exact h.rows d hold
    · cases List.mem_singleton.mp hnew
      exact ⟨hrange, ⟨nofun, nofun⟩, nofun, nofun, htitle⟩
  · rw [List.map_append]
    exact List.mem_append_left _ (h.refs e he d hd)

theorem insertEvent (h : c.Sound) {discId slot : Option Nat} {kind : EventKind}
    {detail : Option String} {now : Stamp}
    (hinsert : c.insertEvent discId slot kind detail now = .ok ((), c')) : c'.Sound := by
  obtain ⟨hrow, hdiscs, event, hevent, hevents⟩ := insertEvent_inserts hinsert
  refine ⟨hdiscs ▸ h.ids, hdiscs ▸ h.slots, hdiscs ▸ h.rows, fun e he d hd => ?_⟩
  rw [hdiscs]
  rw [hevents] at he
  rcases List.mem_append.mp he with hold | hnew
  · exact h.refs e hold d hd
  · cases List.mem_singleton.mp hnew
    exact hrow d (hevent ▸ hd)

theorem updateWhere (h : c.Sound) (discId : Nat) {f : Disc → Disc} (hf : Edits f) :
    (c.updateWhere discId f).Sound := by
  have hkeyed := h.keyed.updateWhere discId hf
  refine ⟨hkeyed.ids, hkeyed.slots, fun d hd => ?_, fun e he d hd => ?_⟩
  · obtain ⟨row, hrow, rfl⟩ := List.mem_map.mp hd
    split
    · exact hf.sound row (h.rows row hrow)
    · exact h.rows row hrow
  · rw [updateWhere_map discId hf.id]
    exact h.refs e he d hd

/-- The row goes, and the events that named it name none. -/
theorem deleteWhere (h : c.Sound) (discId : Nat) : (c.deleteWhere discId).Sound := by
  refine ⟨?_, ?_, fun d hd => h.rows d (List.mem_of_mem_filter hd), fun e he d hd => ?_⟩
  · exact h.ids.sublist (List.filter_sublist.map _)
  · exact h.slots.sublist (List.filter_sublist.map _)
  · obtain ⟨event, hevent, rfl⟩ := List.mem_map.mp he
    split at hd
    next => cases hd
    next hother =>
      obtain ⟨row, hrow, rfl⟩ := List.mem_map.mp (h.refs event hevent d hd)
      refine List.mem_map.mpr ⟨row, List.mem_filter.mpr ⟨hrow, ?_⟩, rfl⟩
      rw [decide_eq_true_eq]
      rintro rfl
      exact hother hd

end Sound

end Catalog

/-! ## Whatever fails -/

section Held

variable {σ : Type} {φ : Catalog → Prop}

/-- `φ` of what a connection sees, and of the file. -/
def Held (φ : Catalog → Prop) (w : World σ) : Prop := φ w.conn.view ∧ φ w.conn.committed

theorem held_execute {α : Type} {f : Catalog → Except Exc (α × Catalog)}
    (hf : ∀ c a c', f c = .ok (a, c') → φ c → φ c') : Keeps (Held (σ := σ) φ) (execute f) := by
  refine Keeps.call fun w hw => ?_
  dsimp only
  split
  · exact hw
  · rcases hr : f w.conn.view with e | ⟨a, c'⟩
    · exact hw
    · exact ⟨hf _ a c' hr hw.1, hw.2⟩

theorem held_commit : Keeps (Held (σ := σ) φ) commit := by
  refine Keeps.call fun w hw => ?_
  dsimp only
  split
  · exact hw
  · exact ⟨hw.1, hw.1⟩

theorem held_rollback : Keeps (Held (σ := σ) φ) rollback := by
  refine Keeps.call fun w hw => ?_
  dsimp only
  split
  · exact ⟨hw.2, hw.2⟩
  · exact ⟨hw.2, hw.2⟩

theorem held_transaction {α : Type} {block : Py σ α} (h : Keeps (Held φ) block) :
    Keeps (Held φ) (transaction block) :=
  Keeps.attempt (h.bind fun a => held_commit.bind fun _ => Keeps.pure a) fun e =>
    held_rollback.bind fun _ => Keeps.raise e

/-- What single statements keep that set no key. -/
structure StatementRule (φ : Catalog → Prop) : Prop where
  log : ∀ {c c' discId slot kind detail now},
    Catalog.insertEvent c discId slot kind detail now = .ok ((), c') → φ c → φ c'
  edit : ∀ {c} discId {f}, Edits f → φ c → φ (c.updateWhere discId f)

namespace StatementRule

variable (h : StatementRule φ)
include h

theorem logEvent (kind : EventKind) (discId slot : Option Nat) (detail : Option String) :
    Keeps (Held (σ := σ) φ) (logEvent kind discId slot detail) :=
  (Keeps.gets _).bind fun _ => held_execute fun _ _ _ hr hc => h.log hr hc

theorem markOut (discId : Nat) (kind : EventKind) (detail : Option String) :
    Keeps (Held (σ := σ) φ) (markOut discId kind detail) := by
  refine (Keeps.gets _).bind fun now => held_transaction ((held_execute fun c _ c' hr hc => ?_).bind
    fun _ => (held_execute fun c _ c' hr hc => ?_).bind fun _ => h.logEvent _ _ _ _)
  · cases hr
    exact h.edit discId (markOut_edits now) hc
  · cases hr
    exact hc

theorem markStored (discId : Nat) (kind : EventKind) (detail : Option String) :
    Keeps (Held (σ := σ) φ) (markStored discId kind detail) := by
  refine (Keeps.gets _).bind fun now => held_transaction ((held_execute fun c _ c' hr hc => ?_).bind
    fun _ => (held_execute fun c _ c' hr hc => ?_).bind fun _ => h.logEvent _ _ _ _)
  · cases hr
    exact h.edit discId (markStored_edits now) hc
  · cases hr
    exact hc

theorem discEdit (discId : Nat) (form : EditForm) :
    Keeps (Held (σ := σ) φ) (discEdit discId form) := by
  unfold StakkaWeb.discEdit
  split
  · exact Keeps.pure _
  next fields hfields =>
    refine Keeps.ite (Keeps.pure _) ((Keeps.gets _).bind fun now => held_transaction (held_execute ?_))
    intro c _ c' hr hc
    obtain ⟨hslot, hedits⟩ := EditForm.fields_edits hfields now
    have hset : c.updateDisc discId fields now = .ok ((), c.updateWhere discId (fields.set now)) := by
      unfold Catalog.updateDisc
      rw [hslot]
      cases c.getDisc discId <;> rfl
    cases hset.symm.trans hr
    exact h.edit discId hedits hc

theorem createDisc {title : String} (hinsert : ∀ {c id c' slot now},
      Catalog.insertDisc c slot title none none none none none now = .ok (id, c') → φ c → φ c')
    (slot : Nat) (kind : EventKind) : Keeps (Held (σ := σ) φ) (createDisc slot title kind) :=
  (Keeps.gets _).bind fun _ => held_transaction <|
    (held_execute fun _ _ _ hr hc => hinsert hr hc).bind fun _ =>
      (h.logEvent _ _ _ _).bind fun _ => Keeps.pure _

theorem deleteRow (hdelete : ∀ {c} discId, φ c → φ (c.deleteWhere discId)) (discId : Nat)
    (row : Option Disc) : Keeps (Held (σ := σ) φ) (deleteRow discId row) := by
  refine held_transaction ((held_execute fun c _ c' hr hc => ?_).bind fun _ => h.logEvent _ _ _ _)
  cases hr
  exact hdelete discId hc

end StatementRule

/-- Whether the operation removes a row; if not, it may insert one. -/
def Upkeep.removes : Upkeep → Bool
  | delete _ _ => true
  | _ => false

/-- **An operation keeps what its statements keep**, whichever of them fail. -/
theorem Upkeep.run_held (h : StatementRule φ) (op : Upkeep)
    (hinsert : op.removes = false → ∀ {c id c' slot title now}, title ≠ "" →
      Catalog.insertDisc c slot title none none none none none now = .ok (id, c') → φ c → φ c')
    (hdelete : op.removes = true → ∀ {c} discId, φ c → φ (c.deleteWhere discId)) :
    Keeps (Held (σ := σ) φ) op.run := by
  cases op with
  | load slot =>
    have htitle : "Untitled disc (slot " ++ toString slot.val ++ ")" ≠ "" := by
      rw [Ne, String.append_eq_empty_iff]
      exact fun hempty => absurd hempty.2 (by decide)
    exact (h.createDisc (hinsert rfl htitle) _ _).bind fun _ => Keeps.pure _
  | manual slot title =>
    show Keeps _ (reconcileManual slot title)
    unfold reconcileManual
    split
    · exact Keeps.pure _
    next htext => exact (h.createDisc (hinsert rfl (formText_ne htext)) _ _).bind fun _ => Keeps.pure _
  | edit discId form => exact h.discEdit discId form
  | markOut discId kind detail => exact h.markOut discId kind detail
  | markStored discId kind detail => exact h.markStored discId kind detail
  | delete discId row => exact h.deleteRow (hdelete rfl) discId row
  | log kind discId slot detail => exact (h.logEvent _ _ _ _).bind fun _ => held_commit
  | init => exact Keeps.modify fun _ hw => hw

end Held

/-! ## The two invariants -/

theorem closed_keyed : StatementRule Catalog.Keyed where
  log hr hc := hc.of_discs (Catalog.insertEvent_inserts hr).2.1
  edit discId _ hf hc := hc.updateWhere discId hf

theorem closed_sound : StatementRule Catalog.Sound where
  log hr hc := hc.insertEvent hr
  edit discId _ hf hc := hc.updateWhere discId hf

/-- A row that both have is in the same slot in both. -/
def SameSlots (c v : Catalog) : Prop :=
  ∀ d ∈ c.discs, ∀ d' ∈ v.discs, d'.id = d.id → d'.slot = d.slot

/-- And every row is still there. -/
def Grown (c v : Catalog) : Prop :=
  SameSlots c v ∧ ∀ d ∈ c.discs, d.id ∈ v.discs.map Disc.id

section Slots

variable {c v : Catalog}

theorem sameSlots_self (h : c.Sound) : SameSlots c c := fun _ hd _ hd' hid =>
  congrArg Disc.slot (List.inj_on_of_nodup_map h.ids hd' hd hid)

theorem SameSlots.updateWhere (h : SameSlots c v) (discId : Nat) {f : Disc → Disc} (hf : Edits f) :
    SameSlots c (v.updateWhere discId f) := by
  intro d hd d' hd' hid
  obtain ⟨row, hrow, rfl⟩ := List.mem_map.mp hd'
  split at hid
  next heq =>
    rw [if_pos heq, hf.slot]
    exact h d hd row hrow (hf.id row ▸ hid)
  next hne =>
    rw [if_neg hne]
    exact h d hd row hrow hid

theorem closed_sameSlots : StatementRule (SameSlots c) where
  log hr hv := by
    obtain ⟨_, hdiscs, _⟩ := Catalog.insertEvent_inserts hr
    unfold SameSlots
    rw [hdiscs]
    exact hv
  edit discId _ hf hv := hv.updateWhere discId hf

theorem closed_grown : StatementRule (Grown c) where
  log hr hv := by
    obtain ⟨_, hdiscs, _⟩ := Catalog.insertEvent_inserts hr
    unfold Grown SameSlots
    rw [hdiscs]
    exact hv
  edit discId _ hf hv := by
    refine ⟨hv.1.updateWhere discId hf, fun d hd => ?_⟩
    rw [Catalog.updateWhere_map discId hf.id]
    exact hv.2 d hd

/-- A new row has an id that none had. -/
theorem Grown.insertDisc (h : Grown c v) {slot id : Nat} {title : String} {now : Stamp} {v' : Catalog}
    (hinsert : v.insertDisc slot title none none none none none now = .ok (id, v')) : Grown c v' := by
  obtain ⟨_, _, rfl⟩ := Catalog.insertDisc_inserts hinsert
  refine ⟨fun d hd d' hd' hid => ?_, fun d hd => ?_⟩
  · rcases List.mem_append.mp hd' with hold | hnew
    · exact h.1 d hd d' hold hid
    · cases List.mem_singleton.mp hnew
      exact absurd (hid ▸ h.2 d hd) (Catalog.nextId_fresh _)
  · rw [List.map_append]
    exact List.mem_append_left _ (h.2 d hd)

end Slots

/-! ## Histories -/

namespace Entry

variable {c : Catalog}

theorem apply_sound (h : c.Sound) (e : Entry) : (e.apply c).Sound :=
  ((e.op.run_held (σ := Unit) closed_sound (fun _ _ _ _ _ _ _ htitle hr hc => hc.insertDisc htitle hr)
    fun _ _ discId hc => hc.deleteWhere discId).run 0 ⟨h, h⟩).2

theorem apply_sameSlots (h : c.Sound) (e : Entry) : SameSlots c (e.apply c) := by
  have hself := sameSlots_self h
  cases hremoves : e.op.removes with
  | true =>
    refine ((e.op.run_held (σ := Unit) (φ := SameSlots c) closed_sameSlots ?_ ?_).run 0
      ⟨hself, hself⟩).2
    · exact fun hne => nomatch hne.symm.trans hremoves
    · exact fun _ _ _ hv d hd d' hd' => hv d hd d' (List.mem_of_mem_filter hd')
  | false =>
    have hgrown : Grown c c := ⟨hself, fun d hd => List.mem_map_of_mem hd⟩
    refine ((e.op.run_held (σ := Unit) (φ := Grown c) closed_grown ?_ ?_).run 0
      ⟨hgrown, hgrown⟩).2.1
    · exact fun _ _ _ _ _ _ _ _ hr hv => hv.insertDisc hr
    · exact fun hne => nomatch hne.symm.trans hremoves

end Entry

/-- The row `discId` is there before each entry and at the end. -/
def Stays (discId : Nat) : Catalog → List Entry → Prop
  | c, [] => c.getDisc discId ≠ none
  | c, e :: entries => c.getDisc discId ≠ none ∧ Stays discId (e.apply c) entries

section History

variable {c : Catalog}

theorem history_sound (h : c.Sound) (entries : List Entry) : (history c entries).Sound := by
  induction entries generalizing c with
  | nil => exact h
  | cons e entries ih => exact ih (e.apply_sound h)

theorem slot_of_sameSlots {c' : Catalog} (h : SameSlots c c') {discId : Nat}
    (hc : c.getDisc discId ≠ none) (hc' : c'.getDisc discId ≠ none) :
    (c'.getDisc discId).map Disc.slot = (c.getDisc discId).map Disc.slot := by
  obtain ⟨d, hd⟩ := Option.ne_none_iff_exists'.mp hc
  obtain ⟨d', hd'⟩ := Option.ne_none_iff_exists'.mp hc'
  rw [hd, hd', Option.map_some, Option.map_some]
  refine congrArg some (h d (List.mem_of_find?_eq_some hd) d' (List.mem_of_find?_eq_some hd') ?_)
  rw [Catalog.getDisc_id hd, Catalog.getDisc_id hd']

theorem Stays.head {discId : Nat} {entries : List Entry} (h : Stays discId c entries) :
    c.getDisc discId ≠ none := by
  cases entries with
  | nil => exact h
  | cons e entries => exact h.1

/-- A row that stays stays where it is. -/
theorem history_slot (h : c.Sound) {discId : Nat} {entries : List Entry}
    (hstays : Stays discId c entries) :
    ((history c entries).getDisc discId).map Disc.slot = (c.getDisc discId).map Disc.slot := by
  induction entries generalizing c with
  | nil => rfl
  | cons e entries ih =>
    calc ((history (e.apply c) entries).getDisc discId).map Disc.slot
        = ((e.apply c).getDisc discId).map Disc.slot := ih (e.apply_sound h) hstays.2
      _ = (c.getDisc discId).map Disc.slot :=
          slot_of_sameSlots (e.apply_sameSlots h) hstays.1 hstays.2.head

end History

/-! ## The law -/

/-- The parts of the invariants that are about the slot, the status and the check-out. -/
structure Legacy.Tidy (old : Legacy) : Prop where
  slots : (old.discs.map LegacyDisc.slot).Nodup
  range : ∀ d ∈ old.discs, slotMin ≤ d.slot ∧ d.slot ≤ slotMax
  checkedOut : ∀ d ∈ old.discs, d.checkedOutAt.isSome = true ↔ d.status = .out

/-- A file whose rows, if it is older, are tidy and have titles. -/
def Database.Usable : Database → Prop
  | fresh => True
  | legacy old => old.Tidy ∧ ∀ d ∈ old.discs, d.title ≠ ""
  | current c => c.Sound

theorem Database.init_sound {db : Database} (h : db.Usable) : db.init.Sound := by
  cases db with
  | fresh => exact ⟨List.nodup_nil, List.nodup_nil, nofun, nofun⟩
  | current c => exact h
  | legacy old =>
    obtain ⟨htidy, htitles⟩ := h
    have hids : (old.discs.map LegacyDisc.migrate).map Disc.id = old.discs.map LegacyDisc.id := by
      rw [List.map_map]
      rfl
    refine ⟨hids ▸ old.ids, ?_, fun d hd => ?_, fun e he d hd => hids ▸ old.refs e he d hd⟩
    · show ((old.discs.map LegacyDisc.migrate).map Disc.slot).Nodup
      rw [List.map_map]
      exact htidy.slots
    · obtain ⟨row, hrow, rfl⟩ := List.mem_map.mp hd
      refine ⟨htidy.range row hrow, htidy.checkedOut row hrow, fun k hk => ?_, nofun, htitles row hrow⟩
      dsimp only [LegacyDisc.migrate] at hk
      split at hk <;> cases hk
      decide

/-- **The row invariants survive every history**: from a usable file on, whatever is done, in any
order and with any statements failing, every row and event is as it should be, and a row that
stays stays in its slot. -/
theorem row_invariants {db : Database} (h : db.Usable) (before after : List Entry) :
    (history db.init before).Sound ∧ ∀ discId, Stays discId (history db.init before) after →
      ((history (history db.init before) after).getDisc discId).map Disc.slot =
        ((history db.init before).getDisc discId).map Disc.slot := by
  have hsound := history_sound (Database.init_sound h) before
  exact ⟨hsound, fun _ hstays => history_slot hsound hstays⟩

/-- A disc of an older file that has no title. -/
def untitled : LegacyDisc := ⟨1, 7, "", none, some "Data", none, none, .stored, none, 0, 0⟩

/-- The same disc with one. -/
def titled : LegacyDisc := { untitled with title := "Myst" }

def Legacy.single (d : LegacyDisc) : Legacy := ⟨[d], [], List.nodup_singleton _, nofun⟩

theorem Legacy.single_tidy {d : LegacyDisc} (hrange : slotMin ≤ d.slot ∧ d.slot ≤ slotMax)
    (hcheckedOut : d.checkedOutAt.isSome = true ↔ d.status = .out) : (Legacy.single d).Tidy := by
  refine ⟨List.nodup_singleton _, fun d' hd' => ?_, fun d' hd' => ?_⟩
  · cases List.mem_singleton.mp hd'
    exact hrange
  · cases List.mem_singleton.mp hd'
    exact hcheckedOut

/-- The disc is marked as taken out. -/
def markedOut : Entry := ⟨.markOut 1 .manual (some "marked as taken out"), 5, fun _ => false⟩

/-- It is given to a console, in a spelling of the visitor's, and the statement fails the first time. -/
def edited (faults : Nat → Bool) : Entry :=
  ⟨.edit 1 ⟨some " Myst ", none, some "video GAMES", some " ps1", none, .ok none⟩, 6, faults⟩

theorem row_invariants_titled :
    (history (Database.legacy (.single titled)).init [markedOut]).Sound ∧
      ((history (history (Database.legacy (.single titled)).init [markedOut])
        [edited fun _ => true, edited fun _ => false]).getDisc 1).map Disc.slot = some 7 := by
  have htitles : ∀ d ∈ (Legacy.single titled).discs, d.title ≠ "" := fun d hd => by
    cases List.mem_singleton.mp hd
    decide
  have husable : Database.Usable (.legacy (.single titled)) :=
    ⟨Legacy.single_tidy (by decide) ⟨nofun, nofun⟩, htitles⟩
  obtain ⟨hsound, hslots⟩ :=
    row_invariants husable [markedOut] [edited fun _ => true, edited fun _ => false]
  refine ⟨hsound, (hslots 1 ⟨?_, ?_, show Catalog.getDisc _ _ ≠ none from ?_⟩).trans ?_⟩
  all_goals decide

/-- **Tidy rows alone are not enough**: a migration keeps a title that is missing. -/
theorem missing_title_survives :
    ¬ ∀ old : Legacy, old.Tidy → ∀ entries, (history (Database.legacy old).init entries).Sound := by
  intro hall
  have hsound := hall (.single untitled) (Legacy.single_tidy (by decide) ⟨nofun, nofun⟩) []
  exact (hsound.rows untitled.migrate List.mem_cons_self).title rfl

end StakkaWeb
