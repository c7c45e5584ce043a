import StakkaWeb.Laws.Kept

/-!
# What the statements of a job leave in the catalogue

`DbAt φ ran rows saved conn`: the connection has run `ran` statements and none has failed, it sees the
rows `rows` of `disc`, and `saved` are committed. An operation raises where one of its statements
fails (`Failed`), or is refused by SQLite, which each lemma says when.
-/

set_option autoImplicit false

namespace StakkaWeb

open Lib Lib.Prog

structure DbAt (φ : Nat → Bool) (ran : Nat) (rows saved : List Disc) (conn : Conn) : Prop where
  faults : conn.faults = φ
  executed : conn.executed = ran
  rows : conn.view.discs = rows
  saved : conn.committed.discs = saved
  clean : ∀ k < ran, φ k = false

/-- One of the first `m` statements fails. -/
def Failed (φ : Nat → Bool) (m : Nat) : Prop := ∃ k < m, φ k = true

theorem Failed.le {φ : Nat → Bool} {m m' : Nat} (h : Failed φ m) (hle : m ≤ m') : Failed φ m' := by
  obtain ⟨k, hk, hfails⟩ := h
  exact ⟨k, Nat.lt_of_lt_of_le hk hle, hfails⟩

theorem not_failed {m : Nat} : ¬ Failed (fun _ => false) m := fun ⟨_, _, hf⟩ => nomatch hf

/-- A database of which no statement fails. -/
def Works (rows saved : List Disc) (conn : Conn) : Prop := ∃ ran, DbAt (fun _ => false) ran rows saved conn

/-- The row with this id, as `get_disc` finds it. -/
def findDisc (rows : List Disc) (discId : Nat) : Option Disc := rows.find? (·.id == discId)

/-- An update of one row. -/
def updateRow (discId : Nat) (f : Disc → Disc) (rows : List Disc) : List Disc :=
  rows.map fun d => if d.id = discId then f d else d

/-- An update that keeps ids finds the same rows. -/
theorem findDisc_updateRow {discId : Nat} {f : Disc → Disc} (hf : ∀ d, (f d).id = d.id)
    (rows : List Disc) (id : Nat) :
    (findDisc (updateRow discId f rows) id).isSome = (findDisc rows id).isSome := by
  unfold findDisc updateRow
  rw [List.find?_map, Option.isSome_map]
  congr 1
  apply congrArg (fun p => rows.find? p)
  funext d
  simp only [Function.comp_apply]
  split
  · rw [hf]
  · rfl

variable {σ : Type} {φ : Nat → Bool} {ran : Nat} {rows saved : List Disc}

/-- One more statement has run. -/
theorem DbAt.next {w : World σ} (h : DbAt φ ran rows saved w.conn)
    (hf : ¬ w.conn.faults w.conn.executed = true) : ∀ k < ran + 1, φ k = false := by
  intro k hk
  rcases Nat.lt_succ_iff_lt_or_eq.mp hk with hk | rfl
  · exact h.clean k hk
  · rw [h.faults, h.executed] at hf
    exact Bool.eq_false_iff.mpr hf

theorem DbAt.failed {w : World σ} (h : DbAt φ ran rows saved w.conn)
    (hf : w.conn.faults w.conn.executed = true) : Failed φ (ran + 1) := by
  rw [h.faults, h.executed] at hf
  exact ⟨ran, Nat.lt_succ_self ran, hf⟩

theorem execute_db {α : Type} {f : Catalog → Except Exc (α × Catalog)} {M : α → List Disc → Prop}
    (refused : Prop)
    (hok : ∀ c a c', c.discs = rows → f c = .ok (a, c') → M a c'.discs)
    (herr : ∀ c e, c.discs = rows → f c = .error e → refused) :
    Triple (fun w : World σ => DbAt φ ran rows saved w.conn) (execute f)
      (fun a w => ∃ rows', M a rows' ∧ DbAt φ (ran + 1) rows' saved w.conn)
      (fun _ _ => Failed φ (ran + 1) ∨ refused) := by
  intro n w h
  unfold execute Prog.call
  by_cases hf : w.conn.faults w.conn.executed = true
  · simp only [hf, if_true]
    exact .inl (h.failed hf)
  · simp only [hf]
    rcases hr : f w.conn.view with e | ⟨a, view⟩
    · exact .inr (herr _ e h.rows hr)
    · have hexecuted := congrArg (· + 1) h.executed
      exact ⟨_, hok _ a view h.rows hr, h.faults, hexecuted, rfl, h.saved, h.next hf⟩

theorem commit_db :
    Triple (fun w : World σ => DbAt φ ran rows saved w.conn) commit
      (fun _ w => DbAt φ (ran + 1) rows rows w.conn) (fun _ _ => Failed φ (ran + 1)) := by
  intro n w h
  unfold commit Prog.call
  by_cases hf : w.conn.faults w.conn.executed = true
  · simp only [hf, if_true]
    exact h.failed hf
  · simp only [hf]
    exact ⟨h.faults, congrArg (· + 1) h.executed, h.rows, h.rows, h.next hf⟩

/-- A transaction whose block goes through has its rows committed. What it raises is what its block
or the commit raised, whatever becomes of the rollback. -/
theorem transaction_db {α : Type} {block : Py σ α} {ran' : Nat} {M : α → List Disc → Prop}
    {refused : Prop} (hb : Triple (fun w : World σ => DbAt φ ran rows saved w.conn) block
      (fun a w => ∃ rows', M a rows' ∧ DbAt φ ran' rows' saved w.conn)
      (fun _ _ => Failed φ ran' ∨ refused)) :
    Triple (fun w : World σ => DbAt φ ran rows saved w.conn) (transaction block)
      (fun a w => ∃ rows', M a rows' ∧ DbAt φ (ran' + 1) rows' rows' w.conn)
      (fun _ _ => Failed φ (ran' + 1) ∨ refused) := by
  refine Triple.attempt (E := fun _ _ => Failed φ (ran' + 1) ∨ refused) ?_ (fun e => ?_) fun _ => id
  · refine Triple.bind (hb.conseq (fun _ => id) (fun _ _ => id) fun _ _ h => ?_) fun a =>
      Triple.of_exists fun rows' => Triple.of_fact fun hM => ?_
    · exact h.imp_left (Failed.le · ran'.le_succ)
    · exact (commit_db.conseq (fun _ => id) (fun _ _ => id) fun _ _ => .inl).bind fun _ =>
        Triple.pure fun w h => ⟨rows', hM, h⟩
  · refine Triple.bind (M := fun _ _ => Failed φ (ran' + 1) ∨ refused) ?_ fun _ =>
      Triple.raise fun _ => id
    intro n w h
    split <;> exact h

/-! ## The operations -/

/-- The log takes an event of no disc, or of a disc that is there. -/
theorem logEvent_db (kind : EventKind) (discId slot : Option Nat) (detail : Option String) :
    Triple (fun w : World σ => DbAt φ ran rows saved w.conn) (logEvent kind discId slot detail)
      (fun _ w => (∀ id, discId = some id → findDisc rows id ≠ none) ∧
        DbAt φ (ran + 1) rows saved w.conn)
      (fun _ _ => Failed φ (ran + 1) ∨ ∃ id, discId = some id ∧ findDisc rows id = none) := by
  refine Triple.bind (M := fun _ w => DbAt φ ran rows saved w.conn) (Triple.gets fun _ => id)
    fun now => ?_
  refine (execute_db (M := fun _ rows' =>
    (∀ id, discId = some id → findDisc rows id ≠ none) ∧ rows' = rows) _ ?_ ?_).post ?_
  · intro c a c' hc hr
    unfold Catalog.insertEvent at hr
    split at hr <;> cases hr
    refine ⟨?_, hc⟩
    rintro id rfl hnone
    rename_i hn
    exact hn (by simpa only [Option.any_some, Option.isNone_iff_eq_none, Catalog.getDisc, hc,
      findDisc] using hnone)
  · intro c e hc hr
    unfold Catalog.insertEvent at hr
    split at hr <;> cases hr
    rename_i hn
    cases discId with
    | none => cases hn
    | some id =>
      refine ⟨id, rfl, ?_⟩
      simpa only [Option.any_some, Option.isNone_iff_eq_none, Catalog.getDisc, hc, findDisc] using hn
  · rintro _ w ⟨_, ⟨hd, rfl⟩, h⟩
    exact ⟨hd, h⟩

theorem getDisc_db (discId : Nat) :
    Triple (fun w : World σ => DbAt φ ran rows saved w.conn) (getDisc discId)
      (fun a w => a = findDisc rows discId ∧ DbAt φ (ran + 1) rows saved w.conn)
      (fun _ _ => Failed φ (ran + 1)) := by
  refine (execute_db (M := fun a rows' => a = findDisc rows discId ∧ rows' = rows)
    False ?_ ?_).conseq (fun _ => id) ?_ ?_
  · intro c a c' hc hr
    cases hr
    exact ⟨by rw [← hc]; rfl, hc⟩
  · intro c e _ hr
    cases hr
  · rintro a w ⟨_, ⟨rfl, rfl⟩, h⟩
    exact ⟨rfl, h⟩
  · rintro _ w (h | h)
    · exact h
    · exact h.elim

/-- What `create_disc` appends. -/
structure Appended (slot : Nat) (id : Nat) (row : Disc) : Prop where
  id : row.id = id
  slot : row.slot = slot
  stored : row.status = .stored

/-- A slot that an `INSERT` may fill. -/
def Fits (rows : List Disc) (slot : Nat) : Prop :=
  slotMin ≤ slot ∧ slot ≤ slotMax ∧ ∀ d ∈ rows, d.slot ≠ slot

theorem createDisc_db (slot : Nat) (title : String) (kind : EventKind) :
    Triple (fun w : World σ => DbAt φ ran rows saved w.conn) (createDisc slot title kind)
      (fun id w => ∃ rows', (Fits rows slot ∧ ∃ row, Appended slot id row ∧
        rows' = rows ++ [row]) ∧ DbAt φ (ran + 3) rows' rows' w.conn)
      (fun _ _ => Failed φ (ran + 3) ∨ ¬ Fits rows slot) := by
  refine Triple.bind (M := fun _ w => DbAt φ ran rows saved w.conn) (Triple.gets fun _ => id)
    fun now => transaction_db ?_
  refine Triple.bind ((execute_db (M := fun id rows' => Fits rows slot ∧
    ∃ row, Appended slot id row ∧ rows' = rows ++ [row]) (¬ Fits rows slot) ?_ ?_).conseq (fun _ => id)
      (fun _ _ => id) fun _ _ h => h.imp_left (Failed.le · (Nat.le_add_right _ 1)))
    fun id => Triple.of_exists fun rows' => Triple.of_fact ?_
  · intro c a c' hc hr
    unfold Catalog.insertDisc at hr
    split at hr
    · cases hr
    next hfree =>
      split at hr <;> cases hr
      rename_i hrange
      rw [← hc]
      refine ⟨⟨by omega, by omega, fun d hd hslot => hfree ?_⟩, _, ⟨rfl, rfl, rfl⟩, rfl⟩
      rw [Catalog.getBySlot, List.find?_isSome]
      exact ⟨d, hd, beq_iff_eq.mpr hslot⟩
  · intro c e hc hr hfits
    unfold Catalog.insertDisc at hr
    split at hr
    next htaken =>
      rw [Catalog.getBySlot, hc, List.find?_isSome] at htaken
      obtain ⟨d, hd, hslot⟩ := htaken
      exact hfits.2.2 d hd (beq_iff_eq.mp hslot)
    next =>
      split at hr
      next hrange =>
        have := hfits.1
        have := hfits.2.1
        omega
      next => cases hr
  · rintro ⟨hfits, row, hrow, rfl⟩
    refine Triple.bind ((logEvent_db _ _ _ _).conseq (fun _ h => h) (fun _ _ h => h.2) ?_) fun _ =>
      Triple.pure fun w h => ⟨_, ⟨hfits, row, hrow, rfl⟩, h⟩
    rintro e w (h | ⟨id', hid, hnone⟩)
    · exact .inl h
    · cases hid
      have hne := List.find?_eq_none.mp hnone row (List.mem_append_right _ List.mem_cons_self)
      exact absurd (beq_iff_eq.mpr hrow.id) hne

/-- `mark_out` and `mark_stored` are one update of a row, the log entry with it. -/
theorem setStatus_db (discId : Nat) {f : Disc → Disc} (hf : ∀ d, (f d).id = d.id)
    (kind : EventKind) (detail : Option String) :
    Triple (fun w : World σ => DbAt φ ran rows saved w.conn)
      (transaction do
        execute fun c => .ok ((), c.updateWhere discId f)
        let row ← getDisc discId
        logEvent kind (some discId) (row.map Disc.slot) detail)
      (fun _ w => findDisc rows discId ≠ none ∧
        DbAt φ (ran + 4) (updateRow discId f rows) (updateRow discId f rows) w.conn)
      (fun _ _ => Failed φ (ran + 4) ∨ findDisc rows discId = none) := by
  -- the update finds the same rows, so the log takes the event exactly when the row is there
  have hsame : findDisc (updateRow discId f rows) discId = none ↔ findDisc rows discId = none := by
    rw [← Option.isNone_iff_eq_none, ← Option.isNone_iff_eq_none, ← Option.not_isSome,
      ← Option.not_isSome, findDisc_updateRow hf]
  refine (transaction_db (M := fun _ rows' => findDisc rows discId ≠ none ∧
    rows' = updateRow discId f rows) ?_).post fun _ w ⟨_, ⟨hd, h⟩, hw⟩ => ⟨hd, h ▸ hw⟩
  refine Triple.bind ((execute_db (M := fun _ rows' => rows' = updateRow discId f rows)
    (findDisc rows discId = none) ?_ ?_).conseq (fun _ => id) (fun _ _ => id) fun _ _ h =>
      h.imp_left (Failed.le · (Nat.le_add_right _ 2))) fun _ => Triple.of_exists fun rows' =>
        Triple.of_fact ?_
  · intro c a c' hc hr
    cases hr
    rw [← hc]
    rfl
  · intro c e _ hr
    cases hr
  · rintro rfl
    refine Triple.bind ((getDisc_db discId).conseq (fun _ => id) (fun _ _ => id) fun _ _ h =>
      .inl (h.le (Nat.le_add_right _ 1)))
      fun row => Triple.of_fact fun _ => ?_
    refine (logEvent_db _ _ _ _).conseq (fun _ => id)
      (fun _ w h => ⟨_, ⟨fun hn => h.1 _ rfl (hsame.mpr hn), rfl⟩, h.2⟩) ?_
    rintro e w (h | ⟨id, hid, hnone⟩)
    · exact .inl h
    · cases hid
      exact .inr (hsame.mp hnone)

theorem connect_db :
    Triple (fun w : World σ => DbAt φ ran rows saved w.conn) connect
      (fun _ w => DbAt φ (ran + 2) rows saved w.conn) (fun _ _ => Failed φ (ran + 2)) := by
  have pragma : ∀ ran, Triple (fun w : World σ => DbAt φ ran rows saved w.conn)
      (execute fun c => .ok ((), c)) (fun _ w => DbAt φ (ran + 1) rows saved w.conn)
      (fun _ _ => Failed φ (ran + 1)) := by
    intro ran
    refine (execute_db (M := fun _ rows' => rows' = rows) False ?_ ?_).conseq
      (fun _ => id) ?_ ?_
    · intro c a c' hc hr
      cases hr
      exact hc
    · intro c e _ hr
      cases hr
    · rintro _ w ⟨_, rfl, h⟩
      exact h
    · rintro _ w (h | h)
      · exact h
      · exact h.elim
  refine ((pragma ran).conseq (fun _ => id) (fun _ _ => id) fun _ _ h => h.le (Nat.le_succ _)).bind
    fun _ => (pragma (ran + 1)).bind fun _ => Triple.modify fun w h => ?_
  exact ⟨h.faults, h.executed, h.rows, h.saved, h.clean⟩

/-- The connection sees the committed rows. -/
def Unwritten (saved : List Disc) (w : World σ) : Prop :=
  w.conn.view.discs = saved ∧ w.conn.committed.discs = saved

theorem logEvent_unwritten (kind : EventKind) (discId slot : Option Nat)
    (detail : Option String) :
    Keeps (Unwritten (σ := σ) saved) (logEvent kind discId slot detail) := by
  refine (Keeps.gets _).bind fun now => Keeps.call fun w h => ?_
  dsimp only
  split
  · exact h
  · unfold Catalog.insertEvent
    split
    next a view he => split at he <;> cases he; exact h
    next e he => exact h

theorem commit_unwritten : Keeps (Unwritten (σ := σ) saved) commit := by
  refine Keeps.call fun w h => ?_
  dsimp only
  split
  · exact h
  · exact ⟨h.1, h.1⟩

/-- `_log_failure` changes no row. -/
theorem logFailure_saved (exc : Exc) :
    Keeps (fun w : World σ => w.conn.committed.discs = saved) (logFailure exc) := by
  refine (Keeps.gets _).bind fun w => Keeps.when (Keeps.attempt ?_ fun e =>
    Keeps.ite (Keeps.pure _) (Keeps.raise _))
  -- from the rollback on the rows seen are the committed ones, so a commit changes none
  refine Triple.bind (M := fun _ => Unwritten saved) (Triple.call ?_ ?_) fun _ =>
    ((logEvent_unwritten _ _ _ _).bind fun _ => commit_unwritten).conseq (fun _ => id)
      (fun _ _ h => h.2) fun _ _ h => h.2
  · intro w a w' h hr
    dsimp only at hr
    split at hr <;> cases hr
    exact ⟨h, h⟩
  · intro w e w' h hr
    dsimp only at hr
    split at hr <;> cases hr
    exact h

end StakkaWeb
