import StakkaWeb.Catalog

/-!
# What a transaction does to the rows

How the two reads answer after each statement, and when a transaction goes through. An event can
be refused for its `disc_id` alone, and a row for its slot.
-/

set_option autoImplicit false

namespace StakkaWeb

namespace Catalog

variable {c c' : Catalog}

theorem getDisc_id {discId : Nat} {disc : Disc} (h : c.getDisc discId = some disc) :
    disc.id = discId :=
  beq_iff_eq.mp (List.find?_some (p := fun d : Disc => d.id == discId) h)

/-- The reads look at the rows alone. -/
theorem getDisc_congr (h : c'.discs = c.discs) (discId : Nat) :
    c'.getDisc discId = c.getDisc discId := by
  unfold getDisc
  rw [h]

theorem getBySlot_congr (h : c'.discs = c.discs) (slot : Nat) :
    c'.getBySlot slot = c.getBySlot slot := by
  unfold getBySlot
  rw [h]

/-! ## Statements -/

theorem getDisc_updateWhere {f : Disc → Disc} (hf : ∀ d, (f d).id = d.id) (target discId : Nat) :
    (c.updateWhere target f).getDisc discId =
      (c.getDisc discId).map fun d => if d.id = target then f d else d := by
  unfold getDisc updateWhere
  rw [List.find?_map]
  congr 2
  funext d
  simp only [Function.comp_apply]
  split
  · rw [hf]
  · rfl

theorem getBySlot_updateWhere {f : Disc → Disc} (hf : ∀ d, (f d).slot = d.slot)
    (target slot : Nat) :
    (c.updateWhere target f).getBySlot slot =
      (c.getBySlot slot).map fun d => if d.id = target then f d else d := by
  unfold getBySlot updateWhere
  rw [List.find?_map]
  congr 2
  funext d
  simp only [Function.comp_apply]
  split
  · rw [hf]
  · rfl

/-- An update leaves the other rows alone. -/
theorem getDisc_updateWhere_of_ne {f : Disc → Disc} (hf : ∀ d, (f d).id = d.id)
    {target discId : Nat} (hne : discId ≠ target) :
    (c.updateWhere target f).getDisc discId = c.getDisc discId := by
  rw [getDisc_updateWhere hf]
  cases h : c.getDisc discId with
  | none => rfl
  | some disc =>
    rw [Option.map_some, if_neg]
    rw [getDisc_id h]
    exact hne

/-- A deletion leaves the other rows alone. -/
theorem getDisc_deleteWhere_of_ne {target discId : Nat} (hne : discId ≠ target) :
    (c.deleteWhere target).getDisc discId = c.getDisc discId := by
  unfold getDisc deleteWhere
  rw [List.find?_filter]
  congr 1
  funext d
  by_cases h : d.id = discId
  · simp [h, hne]
  · simp [h]

theorem getBySlot_deleteWhere {target slot : Nat} (h : c.getBySlot slot = none) :
    (c.deleteWhere target).getBySlot slot = none := by
  unfold getBySlot at h ⊢
  rw [List.find?_eq_none] at h ⊢
  intro d hd
  exact h d (List.mem_filter.mp hd).1

section InsertDisc

variable {slot id : Nat} {title : String} {subtitle category platform notes artPath : Option String}
  {now : Stamp}

/-- A free slot of the carousel can be filled. -/
theorem insertDisc_ok (hfree : c.getBySlot slot = none) (hlow : slotMin ≤ slot)
    (hhigh : slot ≤ slotMax) :
    ∃ id c', c.insertDisc slot title subtitle category platform notes artPath now = .ok (id, c') := by
  unfold insertDisc
  rw [hfree, if_neg nofun, if_neg (by omega)]
  exact ⟨_, _, rfl⟩

/-- The new row is there, in its slot. -/
theorem insertDisc_row
    (h : c.insertDisc slot title subtitle category platform notes artPath now = .ok (id, c')) :
    ∃ row : Disc, c'.discs = c.discs ++ [row] ∧ row.id = id ∧ row.slot = slot ∧
      row.status = .stored := by
  unfold insertDisc at h
  split at h
  · cases h
  · split at h <;> cases h
    exact ⟨_, rfl, rfl, rfl, rfl⟩

theorem insertDisc_events
    (h : c.insertDisc slot title subtitle category platform notes artPath now = .ok (id, c')) :
    c'.events = c.events := by
  unfold insertDisc at h
  split at h
  · cases h
  · split at h <;> cases h
    rfl

end InsertDisc

theorem getDisc_append {row : Disc} (h : c'.discs = c.discs ++ [row]) {discId : Nat} {disc : Disc}
    (hd : c.getDisc discId = some disc) : c'.getDisc discId = some disc := by
  unfold getDisc at hd ⊢
  rw [h, List.find?_append, hd]
  rfl

theorem getDisc_append_self {row : Disc} (h : c'.discs = c.discs ++ [row]) :
    c'.getDisc row.id ≠ none := by
  unfold getDisc
  rw [h]
  intro hnone
  exact List.find?_eq_none.mp hnone row (List.mem_append_right _ List.mem_cons_self)
    (beq_self_eq_true _)

theorem getBySlot_append {row : Disc} (h : c'.discs = c.discs ++ [row]) {slot : Nat}
    (hslot : row.slot ≠ slot) (hfree : c.getBySlot slot = none) : c'.getBySlot slot = none := by
  unfold getBySlot at hfree ⊢
  rw [h, List.find?_append, hfree, Option.none_or, List.find?_singleton, if_neg]
  exact fun he => hslot (beq_iff_eq.mp he)

/-! ## Transactions -/

section Log

variable {kind : EventKind} {discId slot : Option Nat} {detail : Option String} {now : Stamp}

theorem log_discs (h : c.log kind discId slot detail now = .ok c') : c'.discs = c.discs := by
  unfold log insertEvent at h
  split at h <;> cases h
  rfl

/-- The log grows by one event of this kind. -/
theorem log_event (h : c.log kind discId slot detail now = .ok c') :
    ∃ e : Event, e.kind = kind ∧ c'.events = c.events ++ [e] := by
  unfold log insertEvent at h
  split at h <;> cases h
  exact ⟨_, rfl, rfl⟩

/-- The log takes an event of no disc, or of a disc that is there. -/
theorem log_ok (h : ∀ d, discId = some d → c.getDisc d ≠ none) :
    ∃ c', c.log kind discId slot detail now = .ok c' := by
  unfold log insertEvent
  rw [if_neg]
  · exact ⟨_, rfl⟩
  · cases discId with
    | none => exact nofun
    | some d => simpa using h d rfl

end Log

section Transactions

variable {discId slot id : Nat} {f : Disc → Disc} {title : String} {kind : EventKind}
  {detail : Option String} {row : Option Disc} {now : Stamp}

theorem setStatus_discs (h : c.setStatus discId f kind detail now = .ok c') :
    c'.discs = (c.updateWhere discId f).discs :=
  log_discs h

theorem setStatus_event (h : c.setStatus discId f kind detail now = .ok c') :
    ∃ e : Event, e.kind = kind ∧ c'.events = c.events ++ [e] :=
  log_event (c := c.updateWhere discId f) h

theorem setStatus_ok (hf : ∀ d, (f d).id = d.id) (h : c.getDisc discId ≠ none) :
    ∃ c', c.setStatus discId f kind detail now = .ok c' := by
  refine log_ok fun d hd => ?_
  cases hd
  rw [getDisc_updateWhere hf]
  intro hnone
  exact h (Option.map_eq_none_iff.mp hnone)

theorem deleteDisc_discs (h : c.deleteDisc discId row now = .ok c') :
    c'.discs = (c.deleteWhere discId).discs :=
  log_discs h

/-- A disc that was created is an insertion and an event that names it. -/
theorem createDisc_steps (h : c.createDisc slot title kind now = .ok (id, c')) :
    ∃ c₁, c.insertDisc slot title none none none none none now = .ok (id, c₁) ∧
      c₁.log kind (some id) (some slot) (some title) now = .ok c' := by
  unfold createDisc at h
  split at h
  · cases h
  next i c₁ hi =>
    cases hl : c₁.log kind (some i) (some slot) (some title) now with
    | error e => rw [hl] at h; cases h
    | ok c₂ =>
      rw [hl] at h
      cases h
      exact ⟨c₁, hi, hl⟩

theorem createDisc_row (h : c.createDisc slot title kind now = .ok (id, c')) :
    ∃ row : Disc, c'.discs = c.discs ++ [row] ∧ row.id = id ∧ row.slot = slot ∧
      row.status = .stored := by
  obtain ⟨c₁, hi, hl⟩ := createDisc_steps h
  rw [log_discs hl]
  exact insertDisc_row hi

theorem createDisc_event (h : c.createDisc slot title kind now = .ok (id, c')) :
    ∃ e : Event, e.kind = kind ∧ c'.events = c.events ++ [e] := by
  obtain ⟨c₁, hi, hl⟩ := createDisc_steps h
  rw [← insertDisc_events hi]
  exact log_event hl

/-- A free slot of the carousel can be catalogued. -/
theorem createDisc_ok (hfree : c.getBySlot slot = none) (hlow : slotMin ≤ slot)
    (hhigh : slot ≤ slotMax) : ∃ id c', c.createDisc slot title kind now = .ok (id, c') := by
  have hinsert : ∃ id c₁, c.insertDisc slot title none none none none none now = .ok (id, c₁) :=
    insertDisc_ok hfree hlow hhigh
  obtain ⟨id, c₁, hi⟩ := hinsert
  obtain ⟨row, hrow, rfl, _⟩ := insertDisc_row hi
  have hlog : ∃ c₂, c₁.log kind (some row.id) (some slot) (some title) now = .ok c₂ :=
    log_ok fun d hd => Option.some.inj hd ▸ getDisc_append_self hrow
  obtain ⟨c₂, hl⟩ := hlog
  refine ⟨row.id, c₂, ?_⟩
  unfold createDisc
  rw [hi]
  dsimp only
  rw [hl]
  rfl

end Transactions

end Catalog

end StakkaWeb
