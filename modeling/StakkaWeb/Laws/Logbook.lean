import StakkaWeb.Laws.Occupancy
import StakkaWeb.Laws.Writes
import StakkaWeb.Logbook

/-!
# What the log of the catalogue tells

An operation is its transaction or nothing, whichever of its statements fail, and every transaction
that changes what stands in a slot adds one entry to the log that tells of it.
-/

set_option autoImplicit false

namespace StakkaWeb

open Lib Lib.Prog

/-! ## An operation is its transaction -/

/-- What an operation makes of the file when it goes through. -/
def Upkeep.Goes (now : Stamp) (c c' : Catalog) : Upkeep → Prop
  | load slot => ∃ title id, c.createDisc slot.val title .added now = .ok (id, c')
  | manual slot _ => ∃ title id, c.createDisc slot.val title .manual now = .ok (id, c')
  | edit discId form => ∃ fields, form.fields = some fields ∧
      c' = c.updateWhere discId (fields.set now)
  | markOut discId kind detail => c.markOut discId kind detail now = .ok c'
  | markStored discId kind detail => c.markStored discId kind detail now = .ok c'
  | delete discId row => c.deleteDisc discId row now = .ok c'
  | log kind discId slot detail => c.log kind discId slot detail now = .ok c'
  | init => False

section Operations

variable {σ : Type} {φ : Nat → Bool} {now : Stamp} {n : Nat} {c v : Catalog}

/-- The file holds what it held, or what `Q` says. -/
def KeptOr (c : Catalog) (Q : Catalog → Prop) (w : World σ) : Prop :=
  w.conn.committed = c ∨ Q w.conn.committed

theorem KeptOr.of_transaction {α : Type} {m : Py σ α} {P : World σ → Prop} {Q : Catalog → Prop}
    (h : Triple P m (fun _ w => Q w.conn.committed) (fun _ w => w.conn.committed = c)) :
    Triple P m (fun _ => KeptOr c Q) (fun _ => KeptOr c Q) :=
  h.conseq (fun _ h => h) (fun _ _ h => .inr h) fun _ _ h => .inl h

theorem logEvent_goes (kind : EventKind) (discId slot : Option Nat) (detail : Option String) :
    Triple (fun w : World σ => w.conn.At φ now n v c) (logEvent kind discId slot detail)
      (fun _ w => ∃ v', v.log kind discId slot detail now = .ok v' ∧ w.conn.At φ now (n + 1) v' c)
      (fun _ w => True ∧ w.conn.committed = c) := by
  apply (logEvent_at kind discId slot detail).conseq (fun _ h => h)
  · intro _ w h
    obtain ⟨-, v', hevent, hw⟩ := h
    refine ⟨v', ?_, hw⟩
    unfold Catalog.log
    rw [hevent]
    rfl
  · intro _ w h
    exact ⟨trivial, h.2⟩

/-- A statement that is never refused, in a block that may raise. -/
theorem execute_goes {α : Type} (f : Catalog → α × Catalog) :
    Triple (fun w : World σ => w.conn.At φ now n v c) (execute fun c => .ok (f c))
      (fun a w => a = (f v).1 ∧ w.conn.At φ now (n + 1) (f v).2 c)
      (fun _ w => True ∧ w.conn.committed = c) := by
  apply (execute_ok_at f).conseq (fun _ h => h)
  · intro _ w h
    exact h.2
  · intro _ w h
    exact ⟨trivial, h.2⟩

/-- A transaction has done what its block does; one that raises has done nothing. -/
theorem transaction_goes {α : Type} {block : Py σ α} {Q : Catalog → Prop}
    (hb : Triple (fun w : World σ => w.conn.At φ now n c c) block
      (fun _ w => ∃ m c', Q c' ∧ w.conn.At φ now m c' c) (fun _ w => True ∧ w.conn.committed = c)) :
    Triple (fun w : World σ => w.conn.At φ now n c c) (transaction block)
      (fun _ w => Q w.conn.committed) (fun _ w => w.conn.committed = c) := by
  apply (transaction_at True (M := fun _ _ c' => Q c') hb fun _ _ _ _ _ => trivial).conseq
    (fun _ h => h)
  · intro _ w h
    obtain ⟨_, c', hQ, -, hsaved⟩ := h
    exact hsaved ▸ hQ
  · exact fun _ _ h => h.2

theorem createDisc_goes (slot : Nat) (title : String) (kind : EventKind) :
    Triple (fun w : World σ => w.conn.At φ now n c c) (createDisc slot title kind)
      (fun _ w => ∃ id, c.createDisc slot title kind now = .ok (id, w.conn.committed))
      (fun _ w => w.conn.committed = c) := by
  apply now_bind
  apply transaction_goes (Q := fun c' => ∃ id, c.createDisc slot title kind now = .ok (id, c'))
  apply ((execute_at _).conseq (fun _ h => h) (fun _ _ h => h.2) fun _ _ h => ⟨trivial, h.2⟩).bind
  intro id
  apply Triple.of_exists
  intro c₁
  apply Triple.of_fact
  intro hinsert
  apply (logEvent_goes kind (some id) (some slot) (some title)).bind
  intro _
  apply Triple.of_exists
  intro c₂
  apply Triple.of_fact
  intro hlog
  apply Triple.pure
  intro w hw
  refine ⟨_, c₂, ⟨id, ?_⟩, hw⟩
  unfold Catalog.createDisc
  rw [hinsert]
  dsimp only
  rw [hlog]
  rfl

theorem setStatus_goes (discId : Nat) (f : Stamp → Disc → Disc) (kind : EventKind)
    (detail : Option String) :
    Triple (fun w : World σ => w.conn.At φ now n c c)
      (Prog.gets (fun w => w.conn.now) >>= fun now => transaction do
        execute fun c => .ok ((), c.updateWhere discId (f now))
        let row ← getDisc discId
        logEvent kind (some discId) (row.map Disc.slot) detail)
      (fun _ w => c.setStatus discId (f now) kind detail now = .ok w.conn.committed)
      (fun _ w => w.conn.committed = c) := by
  apply now_bind
  apply transaction_goes (Q := fun c' => c.setStatus discId (f now) kind detail now = .ok c')
  apply ((execute_goes fun c => ((), c.updateWhere discId (f now))).conseq (fun _ h => h)
    (fun _ _ h => h.2) fun _ _ h => h).bind
  intro _
  apply (execute_goes fun c => (c.getDisc discId, c)).bind
  intro row
  apply Triple.of_fact
  intro hrow
  apply (logEvent_goes kind (some discId) (row.map Disc.slot) detail).conseq (fun _ h => h)
  · intro _ w h
    obtain ⟨c', hlog, hw⟩ := h
    rw [hrow] at hlog
    exact ⟨_, c', hlog, hw⟩
  · exact fun _ _ h => h

theorem deleteRow_goes (discId : Nat) (row : Option Disc) :
    Triple (fun w : World σ => w.conn.At φ now n c c) (deleteRow discId row)
      (fun _ w => c.deleteDisc discId row now = .ok w.conn.committed)
      (fun _ w => w.conn.committed = c) := by
  apply transaction_goes (Q := fun c' => c.deleteDisc discId row now = .ok c')
  apply ((execute_goes fun c => ((), c.deleteWhere discId)).conseq (fun _ h => h)
    (fun _ _ h => h.2) fun _ _ h => h).bind
  intro _
  apply (logEvent_goes .removed none (row.map Disc.slot) (row.map Disc.title)).conseq (fun _ h => h)
  · intro _ w h
    obtain ⟨c', hlog, hw⟩ := h
    exact ⟨_, c', hlog, hw⟩
  · exact fun _ _ h => h

theorem discEdit_goes (discId : Nat) (form : EditForm) :
    Triple (fun w : World σ => w.conn.At φ now 0 c c) (discEdit discId form)
      (fun _ => KeptOr c fun c' => ∃ fields, form.fields = some fields ∧
        c' = c.updateWhere discId (fields.set now))
      (fun _ => KeptOr c fun c' => ∃ fields, form.fields = some fields ∧
        c' = c.updateWhere discId (fields.set now)) := by
  unfold discEdit
  split
  · apply Triple.pure
    intro w hw
    exact .inl hw.saved
  next fields hfields =>
    unfold updateDisc
    split
    · apply Triple.pure
      intro w hw
      exact .inl hw.saved
    · apply now_bind
      apply KeptOr.of_transaction
      apply transaction_goes (Q := fun c' => ∃ fields, form.fields = some fields ∧
        c' = c.updateWhere discId (fields.set now))
      have hset : ∀ c : Catalog, c.updateDisc discId fields now =
          .ok ((), c.updateWhere discId (fields.set now)) := by
        intro c
        unfold Catalog.updateDisc
        rw [(EditForm.fields_edits hfields now).1]
        cases c.getDisc discId <;> rfl
      rw [funext hset]
      apply (execute_goes fun c => ((), c.updateWhere discId (fields.set now))).conseq (fun _ h => h)
      · intro _ w h
        exact ⟨_, _, ⟨fields, hfields, rfl⟩, h.2⟩
      · exact fun _ _ h => h

/-- **An operation is its transaction or nothing**, whichever of its statements fail. -/
theorem Upkeep.run_goes (op : Upkeep) :
    Triple (fun w : World σ => w.conn.At φ now 0 c c) op.run
      (fun _ => KeptOr c fun c' => op.Goes now c c')
      (fun _ => KeptOr c fun c' => op.Goes now c c') := by
  have hcreate : ∀ slot title kind, Triple (fun w : World σ => w.conn.At φ now 0 c c)
      (createDisc slot title kind)
      (fun _ => KeptOr c fun c' => ∃ title id, c.createDisc slot title kind now = .ok (id, c'))
      (fun _ => KeptOr c fun c' => ∃ title id, c.createDisc slot title kind now = .ok (id, c')) :=
    fun slot title kind => KeptOr.of_transaction ((createDisc_goes slot title kind).post
      fun _ _ h => ⟨title, h⟩)
  cases op with
  | load slot => exact (hcreate _ _ _).bind fun _ => Triple.pure fun _ h => h
  | manual slot title =>
    show Triple _ (reconcileManual slot title) _ _
    unfold reconcileManual
    split
    · exact Triple.pure fun w hw => .inl hw.saved
    · exact (hcreate _ _ _).bind fun _ => Triple.pure fun _ h => h
  | edit discId form => exact discEdit_goes discId form
  | markOut discId kind detail => exact KeptOr.of_transaction (setStatus_goes discId _ kind detail)
  | markStored discId kind detail => exact KeptOr.of_transaction (setStatus_goes discId _ kind detail)
  | delete discId row => exact KeptOr.of_transaction (deleteRow_goes discId row)
  | log kind discId slot detail =>
    apply ((logEvent_goes kind discId slot detail).conseq (fun _ h => h) (fun _ _ h => h)
      fun _ _ h => .inl h.2).bind
    intro _
    apply Triple.of_exists
    intro c'
    apply Triple.of_fact
    intro hlog
    apply commit_at.conseq (fun _ h => h)
    · intro _ w h
      exact .inr (h.2 ▸ hlog)
    · intro _ w h
      exact .inl h.2
  | init => exact Triple.modify fun w hw => .inl hw.saved

end Operations

theorem Entry.apply_cases (c : Catalog) (e : Entry) :
    e.apply c = c ∨ e.op.Goes e.now c (e.apply c) := by
  have hgoes : Triple (fun w : World Unit => w.conn.At e.faults e.now 0 c c) e.op.run
      (fun _ => KeptOr c fun c' => e.op.Goes e.now c c')
      (fun _ => KeptOr c fun c' => e.op.Goes e.now c c') := e.op.run_goes
  have hrun := hgoes 0 { World.boot () [] with conn := e.conn c } ⟨rfl, rfl, rfl, rfl, rfl⟩
  unfold apply
  split at hrun
  next hr => rw [hr]; exact hrun
  next hr => rw [hr]; exact hrun
  next hr => rw [hr]; exact hrun

/-! ## What a transaction tells -/

namespace Catalog

variable {c c' : Catalog} {discId : Nat} {disc : Disc} {f : Disc → Disc}

/-- The entry that the log has taken. -/
theorem log_new {discId slot : Option Nat} {kind : EventKind} {detail : Option String} {now : Stamp}
    (h : c.log kind discId slot detail now = .ok c') :
    (∀ d, discId = some d → c.getDisc d ≠ none) ∧ c' = ⟨c.discs, c.events ++
      [⟨nextId (c.events.map Event.id), discId, slot, kind, detail, now⟩]⟩ := by
  unfold log insertEvent at h
  split at h
  · cases h
  next hrow =>
    cases h
    refine ⟨?_, rfl⟩
    intro d hd hnone
    rw [hd, Option.any_some, hnone] at hrow
    exact hrow rfl

theorem shelf_congr (h : c'.discs = c.discs) : c'.shelf = c.shelf :=
  funext fun slot => congrArg (Option.map Disc.status) (getBySlot_congr h slot)

theorem shelf_insertDisc {slot id : Nat} {title : String} {now : Stamp}
    (h : c.insertDisc slot title none none none none none now = .ok (id, c')) :
    c.shelf slot = none ∧ c'.shelf = Function.update c.shelf slot (some .stored) := by
  obtain ⟨hfree, -, rfl⟩ := insertDisc_inserts h
  refine ⟨congrArg (Option.map Disc.status) hfree, ?_⟩
  funext s
  unfold shelf getBySlot at *
  rw [List.find?_append, List.find?_singleton]
  by_cases hs : s = slot
  · rw [hs, hfree, Function.update_self, Option.none_or, if_pos (beq_self_eq_true slot)]
    rfl
  · rw [Function.update_of_ne hs, if_neg, Option.or_none]
    exact fun he => hs (beq_iff_eq.mp he).symm

/-- The new id names the new row. -/
theorem getDisc_insertDisc {slot id : Nat} {title : String} {now : Stamp}
    (h : c.insertDisc slot title none none none none none now = .ok (id, c')) (disc : Disc)
    (hdisc : c'.getDisc id = some disc) : disc.slot = slot := by
  obtain ⟨row, rfl, hrow, hid, hslot, -⟩ := insertDisc_new h
  rcases List.mem_append.mp (List.mem_of_find?_eq_some hdisc) with hold | hnew
  · refine absurd ?_ (nextId_fresh (c.discs.map Disc.id))
    rw [← hid, ← getDisc_id hdisc]
    exact List.mem_map_of_mem hold
  · rw [List.mem_singleton.mp hnew, hslot]

/-- A change of a row that keeps its slot and its status. -/
theorem shelf_updateWhere (hslot : ∀ d, (f d).slot = d.slot) (hstatus : ∀ d, (f d).status = d.status) :
    (c.updateWhere discId f).shelf = c.shelf := by
  funext s
  unfold shelf
  rw [getBySlot_updateWhere hslot]
  cases c.getBySlot s with
  | none => rfl
  | some d =>
    rw [Option.map_some, Option.map_some, Option.map_some]
    split
    · rw [hstatus]
    · rfl

section Found

variable (h : c.Keyed) (hget : c.getDisc discId = some disc)
include h hget

/-- The disc that is found is the one that stands in its slot, and stands in no other. -/
theorem Keyed.found {s : Nat} {d : Disc} (hd : c.getBySlot s = some d) :
    d.id = discId ↔ s = disc.slot := by
  obtain ⟨hmem, hs⟩ := h.getBySlot_eq_some.mp hd
  have hdisc := List.mem_of_find?_eq_some hget
  constructor
  · intro hid
    rw [← hs, List.inj_on_of_nodup_map h.ids hmem hdisc (hid.trans (getDisc_id hget).symm)]
  · intro hslot
    rw [List.inj_on_of_nodup_map h.slots hmem hdisc (hs.trans hslot)]
    exact getDisc_id hget

theorem Keyed.shelf_found : c.shelf disc.slot = some disc.status := by
  unfold shelf
  rw [h.getBySlot_eq_some.mpr ⟨List.mem_of_find?_eq_some hget, rfl⟩]
  rfl

/-- A change of the disc that gives it a status. -/
theorem Keyed.shelf_set {status : Status} (hslot : ∀ d, (f d).slot = d.slot)
    (hstatus : ∀ d, (f d).status = status) :
    (c.updateWhere discId f).shelf = Function.update c.shelf disc.slot (some status) := by
  funext s
  unfold shelf
  rw [getBySlot_updateWhere hslot]
  by_cases hs : s = disc.slot
  · rw [hs, Function.update_self, h.getBySlot_eq_some.mpr ⟨List.mem_of_find?_eq_some hget, rfl⟩,
      Option.map_some, Option.map_some, if_pos (getDisc_id hget), hstatus]
  · rw [Function.update_of_ne hs]
    cases hd : c.getBySlot s with
    | none => rfl
    | some d =>
      rw [Option.map_some, Option.map_some, if_neg fun hid => hs ((h.found hget hd).mp hid)]
      rfl

theorem Keyed.shelf_deleteWhere :
    (c.deleteWhere discId).shelf = Function.update c.shelf disc.slot none := by
  have hkeyed : (c.deleteWhere discId).Keyed :=
    ⟨h.ids.sublist (List.filter_sublist.map _), h.slots.sublist (List.filter_sublist.map _),
      fun d hd => h.range d (List.mem_of_mem_filter hd)⟩
  funext s
  unfold shelf
  cases hd : c.getBySlot s with
  | none =>
    rw [getBySlot_deleteWhere hd]
    by_cases hs : s = disc.slot
    · rw [hs, Function.update_self]
      rfl
    · rw [Function.update_of_ne hs, hd]
  | some d =>
    obtain ⟨hmem, hslot⟩ := h.getBySlot_eq_some.mp hd
    by_cases hs : s = disc.slot
    · have hnone : (c.deleteWhere discId).getBySlot s = none := by
        unfold getBySlot
        rw [List.find?_eq_none]
        intro d' hd' hslot'
        obtain ⟨hmem', hne⟩ := List.mem_filter.mp hd'
        have hd'' := h.getBySlot_eq_some.mpr ⟨hmem', beq_iff_eq.mp hslot'⟩
        exact of_decide_eq_true hne ((h.found hget hd'').mpr hs)
      rw [hnone, hs, Function.update_self]
      rfl
    · have hkept : (c.deleteWhere discId).getBySlot s = some d :=
        hkeyed.getBySlot_eq_some.mpr ⟨List.mem_filter.mpr
          ⟨hmem, decide_eq_true fun hid => hs ((h.found hget hd).mp hid)⟩, hslot⟩
      rw [hkept, Function.update_of_ne hs, hd]

end Found

theorem discs_deleteWhere (hnone : c.getDisc discId = none) :
    (c.deleteWhere discId).discs = c.discs := by
  apply List.filter_eq_self.mpr
  intro d hd
  apply decide_eq_true
  rintro rfl
  exact getDisc_eq_none.mp hnone (List.mem_map_of_mem hd)

/-- A deletion leaves the text of the log alone. -/
theorem lines_deleteWhere (discId : Nat) :
    (c.deleteWhere discId).events.map Event.line = c.events.map Event.line := by
  unfold deleteWhere
  rw [List.map_map]
  apply List.map_congr_left
  intro e _
  rw [Function.comp_apply]
  split
  · rfl
  · rfl

end Catalog

/-! ## One who hears the log can follow the shelf -/

/-- The catalogue `c'` has come of `c`, and the log tells how. -/
def Accounts (c c' : Catalog) : Prop :=
  ∃ told, c'.events.map Event.line = c.events.map Event.line ++ told ∧
    c'.shelf = told.foldl Shelf.hear c.shelf

section Accounts

variable {c c' : Catalog} {now : Stamp}

theorem Accounts.refl (c : Catalog) : Accounts c c := ⟨[], (List.append_nil _).symm, rfl⟩

/-- A transaction adds one entry, and that entry tells of it. -/
theorem Accounts.log {v : Catalog} {kind : EventKind} {discId slot : Option Nat}
    {detail : Option String}
    (hlog : v.log kind discId slot detail now = .ok c')
    (htold : v.events.map Event.line = c.events.map Event.line)
    (hshelf : v.shelf = c.shelf.hear ⟨kind, slot, detail⟩) : Accounts c c' := by
  obtain ⟨-, rfl⟩ := Catalog.log_new hlog
  refine ⟨[⟨kind, slot, detail⟩], ?_, ?_⟩
  · rw [List.map_append, htold]
    rfl
  · exact (Catalog.shelf_congr rfl).trans hshelf

theorem createDisc_accounts {slot id : Nat} {title : String} {kind : EventKind}
    (hkind : kind = .added ∨ kind = .manual)
    (h : c.createDisc slot title kind now = .ok (id, c')) : Accounts c c' := by
  obtain ⟨v, hinsert, hlog⟩ := Catalog.createDisc_steps h
  obtain ⟨hfree, hshelf⟩ := Catalog.shelf_insertDisc hinsert
  apply Accounts.log hlog
  · rw [Catalog.insertDisc_events hinsert]
  · rw [hshelf]
    cases hkind with
    | inl hadded => rw [hadded]; rfl
    | inr hmanual =>
      rw [hmanual]
      exact (if_neg fun hboth => hboth.1 hfree).symm

/-- A status that was set, with the entry that tells of it. -/
theorem setStatus_accounts (hc : c.Keyed) {discId : Nat} {f : Disc → Disc} {status : Status}
    {kind : EventKind} {detail : Option String} (h : c.setStatus discId f kind detail now = .ok c')
    (hid : ∀ d, (f d).id = d.id) (hslot : ∀ d, (f d).slot = d.slot)
    (hstatus : ∀ d, (f d).status = status)
    (hhear : ∀ slot, c.shelf slot ≠ none →
      c.shelf.hear ⟨kind, some slot, detail⟩ = Function.update c.shelf slot (some status)) :
    Accounts c c' := by
  have hlog : (c.updateWhere discId f).log kind (some discId)
    (((c.updateWhere discId f).getDisc discId).map Disc.slot) detail now = .ok c' := h
  have hrow := (Catalog.log_new hlog).1 discId rfl
  rw [Catalog.getDisc_updateWhere hid] at hrow hlog
  cases hget : c.getDisc discId with
  | none => exact absurd (congrArg _ hget) hrow
  | some disc =>
    rw [hget, Option.map_some, Option.map_some, if_pos (Catalog.getDisc_id hget), hslot] at hlog
    apply Accounts.log hlog
    · rfl
    · rw [hc.shelf_set hget hslot hstatus, hhear]
      rw [hc.shelf_found hget]
      exact nofun

theorem deleteDisc_accounts (hc : c.Keyed) {discId : Nat} {row : Option Disc}
    (hcalled : (Upkeep.delete discId row).Called c) (h : c.deleteDisc discId row now = .ok c') :
    Accounts c c' := by
  apply Accounts.log h (Catalog.lines_deleteWhere discId)
  cases hget : c.getDisc discId with
  | some disc =>
    rw [hc.shelf_deleteWhere hget, hcalled.1 disc hget]
    rfl
  | none =>
    rw [Catalog.shelf_congr (Catalog.discs_deleteWhere hget)]
    cases row with
    | none => rfl
    | some r =>
      have hfree : c.shelf r.slot = none := congrArg (Option.map Disc.status) (hcalled.2 hget r rfl)
      exact (Function.update_eq_self_iff.mpr hfree.symm).symm

/-- Entries that tell of no change. -/
theorem hear_unmoved {kind : EventKind} (hkind : kind = .reset ∨ kind = .retracted ∨ kind = .failed)
    (s : Shelf) (slot : Option Nat) (detail : Option String) : s.hear ⟨kind, slot, detail⟩ = s := by
  cases slot with
  | none => rfl
  | some slot => rcases hkind with rfl | rfl | rfl <;> rfl

theorem Upkeep.goes_accounts (hc : c.Keyed) {op : Upkeep} (hcalled : op.Called c)
    (hgoes : op.Goes now c c') : Accounts c c' := by
  cases op with
  | load slot =>
    obtain ⟨title, id, h⟩ := hgoes
    exact createDisc_accounts (.inl rfl) h
  | manual slot title =>
    obtain ⟨title, id, h⟩ := hgoes
    exact createDisc_accounts (.inr rfl) h
  | edit discId form =>
    obtain ⟨fields, hfields, rfl⟩ := hgoes
    have hedits := (EditForm.fields_edits hfields now).2
    exact ⟨[], (List.append_nil _).symm, Catalog.shelf_updateWhere hedits.slot fun _ => rfl⟩
  | markOut discId kind detail =>
    have hset : c.setStatus discId _ kind detail now = .ok c' := hgoes
    apply setStatus_accounts hc hset (fun _ => rfl) (fun _ => rfl) (fun _ => rfl)
    intro slot htaken
    rcases hcalled with h | h <;> cases h
    · rfl
    · exact if_pos ⟨htaken, rfl⟩
  | markStored discId kind detail =>
    have hset : c.setStatus discId _ kind detail now = .ok c' := hgoes
    apply setStatus_accounts hc hset (fun _ => rfl) (fun _ => rfl) (fun _ => rfl)
    intro slot _
    have htext : some "marked as in its slot" ≠ some "marked as taken out" := by decide
    rcases hcalled with h | h <;> cases h
    · rfl
    · exact if_neg fun hboth => htext hboth.2
  | delete discId row => exact deleteDisc_accounts hc hcalled hgoes
  | log kind discId slot detail =>
    exact Accounts.log hgoes rfl (hear_unmoved hcalled c.shelf slot detail).symm
  | init => exact hgoes.elim

end Accounts

/-- **The log accounts for the catalogue.** Over every history of the operations that write, each as
the application calls it, whichever of their statements fail: the text of the log only grows, and
who knew what stood in each slot before, and hears what was added since, knows what stands there
now. -/
theorem log_accounts {c : Catalog} (hc : c.Sound) {entries : List Entry} (h : Called c entries) :
    ∃ told, (history c entries).events.map Event.line = c.events.map Event.line ++ told ∧
      (history c entries).shelf = told.foldl Shelf.hear c.shelf := by
  have hstep : ∀ (c : Catalog) (e : Entry), c.Sound → e.op.Called c →
      (e.apply c).Sound ∧ Accounts c (e.apply c) := by
    intro c e hc hcalled
    refine ⟨e.apply_sound hc, ?_⟩
    rcases e.apply_cases c with hsame | hgoes
    · rw [hsame]
      exact Accounts.refl c
    · exact e.op.goes_accounts hc.keyed hcalled hgoes
  exact Runs.run_told (l := fun c : Catalog => c.events.map Event.line) (v := Catalog.shelf)
    (f := Shelf.hear) hstep hc h

/-- A disc that was taken back once, then ejected, and is deleted twice; the next one gets its id. -/
def reissued : List Entry :=
  let row : Disc := ⟨1, 3, "Ico", none, none, none, none, none, .out, none, 1, 1⟩
  [⟨.load ⟨3, by decide, by decide⟩, 1, fun _ => false⟩, ⟨.markOut 1 .ejected none, 2, fun n => n == 2⟩,
    ⟨.log .retracted (some 1) (some 3) none, 2, fun _ => false⟩,
    ⟨.markOut 1 .ejected none, 3, fun _ => false⟩, ⟨.delete 1 (some row), 4, fun _ => false⟩,
    ⟨.delete 1 (some row), 4, fun _ => false⟩,
    ⟨.manual ⟨5, by decide, by decide⟩ (some "Myst"), 6, fun _ => false⟩]

theorem empty_sound : Catalog.Sound ⟨[], []⟩ := ⟨List.nodup_nil, List.nodup_nil, nofun, nofun⟩

theorem log_accounts_reissued :
    ∃ told, (history ⟨[], []⟩ reissued).events.map Event.line = [] ++ told ∧
      (history ⟨[], []⟩ reissued).shelf = told.foldl Shelf.hear (Catalog.shelf ⟨[], []⟩) :=
  log_accounts empty_sound (by decide)

/-- Two deletions have read one row, and a disc has got its slot before the second. -/
def deletedTwice : List Entry :=
  let row : Disc := ⟨1, 3, "Untitled disc (slot 3)", none, none, none, none, none, .stored, none, 1, 1⟩
  [⟨.load ⟨3, by decide, by decide⟩, 1, fun _ => false⟩,
    ⟨.load ⟨4, by decide, by decide⟩, 2, fun _ => false⟩, ⟨.delete 1 (some row), 3, fun _ => false⟩,
    ⟨.load ⟨3, by decide, by decide⟩, 4, fun _ => false⟩, ⟨.delete 1 (some row), 5, fun _ => false⟩]

/-- The application does not exclude them; the log then says that the slot is empty. -/
example : (history ⟨[], []⟩ deletedTwice).shelf 3 = some .stored ∧
    ((history ⟨[], []⟩ deletedTwice).events.map Event.line).foldl Shelf.hear
      (Catalog.shelf ⟨[], []⟩) 3 = none := by
  decide

/-! ## The entries keep their disc -/

/-- What becomes of the log: its rows stay, and one that names a disc has named it all along. -/
structure Records (c c' : Catalog) : Prop where
  ids : c.events.map Event.id ⊆ c'.events.map Event.id
  named : ∀ e ∈ c'.events, e.discId ≠ none → e.id ∈ c.events.map Event.id → e ∈ c.events

section Records

variable {c c' v : Catalog} {now : Stamp}

theorem Records.of_events (h : c'.events = c.events) : Records c c' := by
  refine ⟨?_, ?_⟩
  · rw [h]
    exact fun _ hid => hid
  · intro e he _ _
    exact h ▸ he

theorem records_deleteWhere (discId : Nat) : Records c (c.deleteWhere discId) := by
  refine ⟨?_, ?_⟩
  · intro id hid
    obtain ⟨e, he, rfl⟩ := List.mem_map.mp hid
    refine List.mem_map.mpr ⟨_, List.mem_map_of_mem he, ?_⟩
    split
    · rfl
    · rfl
  · intro e' he' hdisc _
    obtain ⟨e, he, rfl⟩ := List.mem_map.mp he'
    split at hdisc
    next => exact absurd rfl hdisc
    next hother => rw [if_neg hother]; exact he

/-- A new entry has a row number that none had. -/
theorem Records.log {kind : EventKind} {discId slot : Option Nat} {detail : Option String}
    (hlog : v.log kind discId slot detail now = .ok c') (h : Records c v) : Records c c' := by
  obtain ⟨-, rfl⟩ := Catalog.log_new hlog
  refine ⟨?_, ?_⟩
  · rw [List.map_append]
    exact fun _ hid => List.mem_append_left _ (h.ids hid)
  · intro e he hdisc hid
    rcases List.mem_append.mp he with hold | hnew
    · exact h.named e hold hdisc hid
    · rw [List.mem_singleton.mp hnew] at hid
      exact absurd (h.ids hid) (Catalog.nextId_fresh _)

theorem Upkeep.goes_records {op : Upkeep} (hgoes : op.Goes now c c') : Records c c' := by
  cases op with
  | load slot | manual slot _ =>
    obtain ⟨_, _, h⟩ := hgoes
    obtain ⟨v, hinsert, hlog⟩ := Catalog.createDisc_steps h
    exact Records.log hlog (.of_events (Catalog.insertDisc_events hinsert))
  | edit discId form =>
    obtain ⟨_, -, rfl⟩ := hgoes
    exact .of_events rfl
  | markOut discId kind detail | markStored discId kind detail =>
    exact Records.log hgoes (.of_events rfl)
  | delete discId row => exact Records.log hgoes (records_deleteWhere discId)
  | log kind discId slot detail => exact Records.log hgoes (.of_events rfl)
  | init => exact hgoes.elim

theorem Entry.apply_records (c : Catalog) (e : Entry) : Records c (e.apply c) := by
  rcases e.apply_cases c with hsame | hgoes
  · exact .of_events (by rw [hsame])
  · exact e.op.goes_records hgoes

/-- An entry that was there, and names a disc after a history, named it before. -/
theorem history_named {entries : List Entry} {e : Event} (he : e ∈ (history c entries).events)
    (hdisc : e.discId ≠ none) (hid : e.id ∈ c.events.map Event.id) : e ∈ c.events := by
  induction entries generalizing c with
  | nil => exact he
  | cons first rest ih =>
    have hrecords := first.apply_records c
    exact hrecords.named e (ih he (hrecords.ids hid)) hdisc hid

/-- And the disc has been there all the time. -/
theorem history_stays (hc : c.Sound) {entries : List Entry} {e : Event}
    (he : e ∈ (history c entries).events) {discId : Nat} (hdisc : e.discId = some discId)
    (hid : e.id ∈ c.events.map Event.id) : Stays discId c entries := by
  have hthere : ∀ {c : Catalog}, c.Sound → e ∈ c.events → c.getDisc discId ≠ none := by
    intro c hc he hnone
    exact Catalog.getDisc_eq_none.mp hnone (hc.refs e he discId hdisc)
  have hsome : e.discId ≠ none := by
    rw [hdisc]
    exact nofun
  induction entries generalizing c with
  | nil => exact hthere hc he
  | cons first rest ih =>
    refine ⟨hthere hc (history_named he hsome hid), ?_⟩
    exact ih (first.apply_sound hc) he ((first.apply_records c).ids hid)

end Records

/-! ## The order of the log -/

namespace Catalog.Logged

variable {c c' : Catalog} {now : Stamp}

theorem of_rows (h : c.Logged) (hevents : c'.events = c.events)
    (hrows : ∀ d disc', c'.getDisc d = some disc' → d ∈ c.discs.map Disc.id →
      ∃ disc, c.getDisc d = some disc ∧ disc.slot = disc'.slot) (hc : c.Sound) : c'.Logged := by
  refine ⟨hevents ▸ h.ids, hevents ▸ h.times, ?_⟩
  intro e he d hd disc' hdisc'
  rw [hevents] at he
  obtain ⟨disc, hdisc, hslot⟩ := hrows d disc' hdisc' (hc.refs e he d hd)
  rw [← hslot]
  exact h.slots e he d hd disc hdisc

theorem insertDisc (h : c.Logged) (hc : c.Sound) {slot id : Nat} {title : String}
    (hinsert : c.insertDisc slot title none none none none none now = .ok (id, c')) : c'.Logged := by
  obtain ⟨row, hdiscs, -⟩ := insertDisc_row hinsert
  apply h.of_rows (insertDisc_events hinsert) _ hc
  intro d disc' hdisc' hmem
  cases hget : c.getDisc d with
  | none => exact absurd hmem (getDisc_eq_none.mp hget)
  | some disc =>
    rw [getDisc_append hdiscs hget] at hdisc'
    exact ⟨disc, rfl, congrArg Disc.slot (Option.some.inj hdisc')⟩

theorem updateWhere (h : c.Logged) (hc : c.Sound) (discId : Nat) {f : Disc → Disc} (hf : Edits f) :
    (c.updateWhere discId f).Logged := by
  have hevents : (c.updateWhere discId f).events = c.events := rfl
  apply h.of_rows hevents _ hc
  intro d disc' hdisc' _
  rw [getDisc_updateWhere hf.id] at hdisc'
  obtain ⟨disc, hdisc, rfl⟩ := Option.map_eq_some_iff.mp hdisc'
  refine ⟨disc, hdisc, ?_⟩
  split
  · exact (hf.slot disc).symm
  · rfl

theorem deleteWhere (h : c.Logged) (discId : Nat) : (c.deleteWhere discId).Logged := by
  refine ⟨?_, ?_, ?_⟩
  · apply List.pairwise_map.mpr
    apply h.ids.imp
    intro e e' hlt
    split <;> split <;> exact hlt
  · apply List.pairwise_map.mpr
    apply h.times.imp
    intro e e' hle
    split <;> split <;> exact hle
  · intro e' he' d hd disc hdisc
    obtain ⟨e, he, rfl⟩ := List.mem_map.mp he'
    split at hd
    next => cases hd
    next hother =>
      rw [if_neg hother]
      have hne : d ≠ discId := by
        rintro rfl
        exact hother hd
      rw [getDisc_deleteWhere_of_ne hne] at hdisc
      exact h.slots e he d hd disc hdisc

theorem log (h : c.Logged) (htimes : ∀ e ∈ c.events, e.at_ ≤ now) {kind : EventKind}
    {discId slot : Option Nat} {detail : Option String}
    (hslot : ∀ d ∈ discId, ∀ disc ∈ c.getDisc d, slot = some disc.slot)
    (hlog : c.log kind discId slot detail now = .ok c') : c'.Logged := by
  obtain ⟨-, rfl⟩ := log_new hlog
  refine ⟨?_, ?_, ?_⟩
  · apply List.pairwise_append.mpr
    refine ⟨h.ids, List.pairwise_singleton _ _, ?_⟩
    intro e he e' he'
    rw [List.mem_singleton.mp he']
    exact lt_nextId (List.mem_map_of_mem he)
  · apply List.pairwise_append.mpr
    refine ⟨h.times, List.pairwise_singleton _ _, ?_⟩
    intro e he e' he'
    rw [List.mem_singleton.mp he']
    exact htimes e he
  · intro e he d hd disc hdisc
    rcases List.mem_append.mp he with hold | hnew
    · exact h.slots e hold d hd disc hdisc
    · rw [List.mem_singleton.mp hnew] at hd ⊢
      exact hslot d hd disc hdisc

end Catalog.Logged

section Order

variable {c c' : Catalog} {now : Stamp}

/-- `mark_out` and `mark_stored` name the slot of the row that they have changed. -/
theorem setStatus_logged (h : c.Logged) (hc : c.Sound) (htimes : ∀ e ∈ c.events, e.at_ ≤ now)
    {discId : Nat} {f : Disc → Disc} {kind : EventKind} {detail : Option String}
    (hset : c.setStatus discId f kind detail now = .ok c') (hf : Edits f) : c'.Logged := by
  apply (h.updateWhere hc discId hf).log htimes _ hset
  intro d hd disc hdisc
  cases hd
  rw [hdisc]
  rfl

theorem Upkeep.goes_logged (h : c.Logged) (hc : c.Sound) (htimes : ∀ e ∈ c.events, e.at_ ≤ now)
    {op : Upkeep} (hplaced : op.Placed c) (hgoes : op.Goes now c c') : c'.Logged := by
  cases op with
  | load slot | manual slot _ =>
    obtain ⟨_, id, h'⟩ := hgoes
    obtain ⟨v, hinsert, hlog⟩ := Catalog.createDisc_steps h'
    apply (h.insertDisc hc hinsert).log _ _ hlog
    · rw [Catalog.insertDisc_events hinsert]
      exact htimes
    · intro d hd disc hdisc
      cases hd
      rw [Catalog.getDisc_insertDisc hinsert disc hdisc]
  | edit discId form =>
    obtain ⟨fields, hfields, rfl⟩ := hgoes
    exact h.updateWhere hc discId (EditForm.fields_edits hfields now).2
  | markOut discId kind detail => exact setStatus_logged h hc htimes hgoes (markOut_edits now)
  | markStored discId kind detail => exact setStatus_logged h hc htimes hgoes (markStored_edits now)
  | delete discId row =>
    apply (h.deleteWhere discId).log _ _ hgoes
    · intro e' he'
      obtain ⟨e, he, rfl⟩ := List.mem_map.mp he'
      split
      · exact htimes e he
      · exact htimes e he
    · exact nofun
  | log kind discId slot detail => exact h.log htimes hplaced hgoes
  | init => exact hgoes.elim

/-- Every entry of a history keeps the rows and the log in order. -/
theorem history_logged (hc : c.Sound) (h : c.Logged) {entries : List Entry} (hplaced : Placed c entries)
    (hforward : Forward c entries) : (history c entries).Logged := by
  have hstep : ∀ (c : Catalog) (e : Entry), c.Sound ∧ c.Logged →
      (e.op.Placed c ∧ ∀ event ∈ c.events, event.at_ ≤ e.now) →
        (e.apply c).Sound ∧ (e.apply c).Logged := by
    intro c e hI hG
    refine ⟨e.apply_sound hI.1, ?_⟩
    rcases e.apply_cases c with hsame | hgoes
    · rw [hsame]
      exact hI.2
    · exact e.op.goes_logged hI.2 hI.1 hG.2 hG.1 hgoes
  have hkept := Runs.run_inv (I := fun c : Catalog => c.Sound ∧ c.Logged)
    (G := fun c e => e.op.Placed c ∧ ∀ event ∈ c.events, event.at_ ≤ e.now) hstep ⟨hc, h⟩
    fun x hx => ⟨hplaced x hx, hforward x hx⟩
  exact hkept.2

theorem Event.newer_iff {e f : Event} :
    e.newer f = true ↔ @LT.lt Nat _ f.at_ e.at_ ∨ @Eq Nat f.at_ e.at_ ∧ f.id ≤ e.id := by
  unfold newer
  rw [Bool.or_eq_true, Bool.and_eq_true, decide_eq_true_eq, decide_eq_true_eq, decide_eq_true_eq]

/-- A log that is in order is sorted by the page when it is read backwards. -/
theorem Catalog.Logged.newest (h : c.Logged) : c.events.mergeSort Event.newer = c.events.reverse := by
  have hsorted : (c.events.mergeSort Event.newer).Pairwise fun e f => e.newer f = true := by
    apply List.pairwise_mergeSort
    · intro e f g hef hfg
      rw [Event.newer_iff] at hef hfg ⊢
      omega
    · intro e f
      rw [Bool.or_eq_true, Event.newer_iff, Event.newer_iff]
      omega
  have hreverse : c.events.reverse.Pairwise fun e f => e.newer f = true := by
    apply List.pairwise_reverse.mpr
    apply (h.ids.and h.times).imp
    intro e f hboth
    have htime : @LE.le Nat _ e.at_ f.at_ := hboth.2
    rw [Event.newer_iff]
    omega
  have hids : (c.events.map Event.id).Nodup :=
    List.pairwise_map.mpr (h.ids.imp fun hlt => Nat.ne_of_lt hlt)
  have hperm : (c.events.mergeSort Event.newer).Perm c.events := List.mergeSort_perm _ _
  apply List.Perm.eq_of_pairwise _ hsorted hreverse (hperm.trans (List.reverse_perm _).symm)
  intro e f he hf hef hfe
  apply List.inj_on_of_nodup_map hids (hperm.mem_iff.mp he) (List.mem_reverse.mp hf)
  rw [Event.newer_iff] at hef hfe
  omega

end Order

/-! ## The page -/

/-- What the device page may be read as, after a history: the last entries of the log, the newest
first. A title is the title of a disc that stands in the slot the entry names, and that has not left
the catalogue since the entry was made; an entry without one names no disc. -/
structure Recounts (c : Catalog) (entries : List Entry) (limit : Nat) : Prop where
  newest : ((history c entries).recentEvents limit).map Prod.fst =
    (history c entries).events.reverse.take limit
  titled : ∀ e title, (e, some title) ∈ (history c entries).recentEvents limit →
    ∃ disc ∈ (history c entries).discs, e.discId = some disc.id ∧ disc.title = title ∧
      e.slot = some disc.slot ∧ ∀ before after, entries = before ++ after →
        e.id ∈ (history c before).events.map Event.id → Stays disc.id (history c before) after
  untitled : ∀ e, (e, none) ∈ (history c entries).recentEvents limit → e.discId = none

theorem history_append (c : Catalog) (before after : List Entry) :
    history c (before ++ after) = history (history c before) after := List.foldl_append

/-- **The device page shows each entry under the right disc.** Over every history of the operations
that write, with a clock that does not run back and no `log_event` that names a disc and a slot that
is not the disc's: the page shows the last entries in the order in which they were made, and no id that
was given out again brings an entry under the title of another disc. -/
theorem recent_events_recount {c : Catalog} (hc : c.Sound) (h : c.Logged) {entries : List Entry}
    (hplaced : Placed c entries) (hforward : Forward c entries) (limit : Nat) :
    Recounts c entries limit := by
  have hsound := history_sound hc entries
  have hlogged := history_logged hc h hplaced hforward
  have hmem : ∀ {x}, x ∈ (history c entries).recentEvents limit → x.1 ∈ (history c entries).events ∧
      x.2 = (x.1.discId.bind (history c entries).getDisc).map Disc.title := by
    intro x hx
    obtain ⟨e, he, rfl⟩ := List.mem_map.mp hx
    exact ⟨(List.mergeSort_perm _ _).mem_iff.mp (List.mem_of_mem_take he), rfl⟩
  refine ⟨?_, ?_, ?_⟩
  · unfold Catalog.recentEvents
    rw [List.map_map, hlogged.newest]
    exact List.map_id _
  · intro e title hx
    obtain ⟨he, htitle⟩ := hmem hx
    obtain ⟨disc, hbind, rfl⟩ := Option.map_eq_some_iff.mp htitle.symm
    obtain ⟨discId, hdisc, hget⟩ := Option.bind_eq_some_iff.mp hbind
    have hid := Catalog.getDisc_id hget
    refine ⟨disc, List.mem_of_find?_eq_some hget, hid ▸ hdisc, rfl,
      hlogged.slots e he discId hdisc disc hget, ?_⟩
    rintro before after rfl hbefore
    rw [history_append] at he
    rw [hid]
    exact history_stays (history_sound hc before) he hdisc hbefore
  · intro e hx
    obtain ⟨he, htitle⟩ := hmem hx
    cases hdisc : e.discId with
    | none => rfl
    | some discId =>
      rw [hdisc] at htitle
      have hnone := Option.map_eq_none_iff.mp htitle.symm
      exact absurd (hsound.refs e he discId hdisc) (Catalog.getDisc_eq_none.mp hnone)

theorem recent_events_recount_reissued : Recounts ⟨[], []⟩ reissued 25 :=
  recent_events_recount empty_sound ⟨.nil, .nil, nofun⟩ (by decide) (by decide) 25

/-- A failure is logged of the disc that was in slot 3, whose id has gone to a disc in slot 5. -/
def loggedLate : List Entry :=
  let row : Disc := ⟨1, 3, "Untitled disc (slot 3)", none, none, none, none, none, .stored, none, 1, 1⟩
  [⟨.load ⟨3, by decide, by decide⟩, 1, fun _ => false⟩, ⟨.delete 1 (some row), 2, fun _ => false⟩,
    ⟨.manual ⟨5, by decide, by decide⟩ (some "Myst"), 3, fun _ => false⟩,
    ⟨.log .failed (some 1) (some 3) (some "eject found no disc"), 4, fun _ => false⟩]

/-- The page then joins an entry of slot 3 with the title of the disc in slot 5. -/
example : (history ⟨[], []⟩ loggedLate).events.getLast?.map (fun e => (e.slot, e.discId.bind fun d =>
    ((history ⟨[], []⟩ loggedLate).getDisc d).map fun row => (row.title, row.slot))) =
      some (some 3, some ("Myst", 5)) := by
  decide

end StakkaWeb
