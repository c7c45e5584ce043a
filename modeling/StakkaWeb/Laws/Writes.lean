import Mathlib.Tactic.IntervalCases
import StakkaWeb.Laws.Upkeep
import StakkaWeb.Writes

/-!
# One write, one unit

What each of the four writes leaves behind, statement by statement: either all of them went through
and the file has the row's change and the event, or the file is what it was. From this follow which
ids a history gives out.
-/

set_option autoImplicit false

namespace StakkaWeb

open Lib Lib.Prog

/-! ## Statement by statement -/

/-- The connection at its `n`-th statement: what it sees and what is committed. -/
structure Conn.At (φ : Nat → Bool) (now : Stamp) (n : Nat) (c saved : Catalog) (conn : Conn) :
    Prop where
  faults : conn.faults = φ
  now : conn.now = now
  executed : conn.executed = n
  view : conn.view = c
  saved : conn.committed = saved

section Statements

variable {σ : Type} {φ : Nat → Bool} {now : Stamp} {n : Nat} {c saved : Catalog}

/-- A statement that answers has not been made to fail. -/
theorem execute_at {α : Type} (f : Catalog → Except Exc (α × Catalog)) :
    Triple (fun w : World σ => w.conn.At φ now n c saved) (execute f)
      (fun a w => φ n = false ∧ ∃ c', f c = .ok (a, c') ∧ w.conn.At φ now (n + 1) c' saved)
      (fun _ w => (φ n = true ∨ ∃ e, f c = .error e) ∧ w.conn.committed = saved) := by
  intro m w h
  have hfault : w.conn.faults w.conn.executed = φ n := by rw [h.faults, h.executed]
  unfold execute Prog.call
  dsimp only
  rw [hfault, h.view]
  cases hφ : φ n with
  | true => exact ⟨.inl rfl, h.saved⟩
  | false =>
    cases hr : f c with
    | error e => exact ⟨.inr ⟨e, rfl⟩, h.saved⟩
    | ok r => exact ⟨rfl, r.2, rfl, h.faults, h.now, congrArg (· + 1) h.executed, rfl, h.saved⟩

/-- A statement that SQLite never refuses. -/
theorem execute_ok_at {α : Type} (f : Catalog → α × Catalog) :
    Triple (fun w : World σ => w.conn.At φ now n c saved) (execute fun c => .ok (f c))
      (fun a w => φ n = false ∧ a = (f c).1 ∧ w.conn.At φ now (n + 1) (f c).2 saved)
      (fun _ w => φ n = true ∧ w.conn.committed = saved) := by
  refine (execute_at _).conseq (fun _ h => h) ?_ ?_
  · rintro a w ⟨hn, c', hr, h⟩
    rw [Except.ok.inj hr]
    exact ⟨hn, rfl, h⟩
  · rintro _ w ⟨hn | ⟨e, he⟩, h⟩
    · exact ⟨hn, h⟩
    · cases he

theorem commit_at :
    Triple (fun w : World σ => w.conn.At φ now n c saved) commit
      (fun _ w => φ n = false ∧ w.conn.committed = c)
      (fun _ w => φ n = true ∧ w.conn.committed = saved) := by
  intro m w h
  have hfault : w.conn.faults w.conn.executed = φ n := by rw [h.faults, h.executed]
  unfold commit Prog.call
  dsimp only
  rw [hfault]
  cases hφ : φ n with
  | true => exact ⟨rfl, h.saved⟩
  | false => exact ⟨rfl, h.view⟩

theorem rollback_saved :
    Keeps (fun w : World σ => w.conn.committed = saved) rollback := by
  refine Keeps.call fun w h => ?_
  dsimp only
  split <;> exact h

/-- The time is read before the first statement. -/
theorem now_bind {α : Type} {f : Stamp → Py σ α} {Q : α → World σ → Prop}
    {R : Option Exc → World σ → Prop}
    (h : Triple (fun w : World σ => w.conn.At φ now n c saved) (f now) Q R) :
    Triple (fun w : World σ => w.conn.At φ now n c saved)
      (Prog.gets (fun w => w.conn.now) >>= f) Q R := by
  intro m w hw
  have := h m w hw
  rw [← hw.now] at this
  exact this

theorem logEvent_at (kind : EventKind) (discId slot : Option Nat) (detail : Option String) :
    Triple (fun w : World σ => w.conn.At φ now n c saved) (logEvent kind discId slot detail)
      (fun _ w => φ n = false ∧ ∃ c', c.insertEvent discId slot kind detail now = .ok ((), c') ∧
        w.conn.At φ now (n + 1) c' saved)
      (fun _ w => (φ n = true ∨ ∃ e, c.insertEvent discId slot kind detail now = .error e) ∧
        w.conn.committed = saved) :=
  now_bind (execute_at _)

/-- A transaction commits what its block has made of the tables, or leaves them alone. `why` is
what is known when the block raises. -/
theorem transaction_at {α : Type} (why : Prop) {block : Py σ α} {M : α → Nat → Catalog → Prop}
    (hb : Triple (fun w : World σ => w.conn.At φ now n c saved) block
      (fun a w => ∃ m c', M a m c' ∧ w.conn.At φ now m c' saved)
      (fun _ w => why ∧ w.conn.committed = saved))
    (hcommit : ∀ a m c', M a m c' → φ m = true → why) :
    Triple (fun w : World σ => w.conn.At φ now n c saved) (transaction block)
      (fun a w => ∃ m c', M a m c' ∧ φ m = false ∧ w.conn.committed = c')
      (fun _ w => why ∧ w.conn.committed = saved) := by
  refine Triple.attempt (E := fun _ w => why ∧ w.conn.committed = saved) ?_ (fun e => ?_)
    fun _ => id
  · refine hb.bind fun a => Triple.of_exists fun m => Triple.of_exists fun c' =>
      Triple.of_fact fun hM => ?_
    refine (commit_at.conseq (fun _ h => h) (fun _ _ h => h) ?_).bind fun _ => Triple.pure ?_
    · exact fun _ w h => ⟨hcommit a m c' hM h.1, h.2⟩
    · exact fun w h => ⟨m, c', hM, h.1, h.2⟩
  · refine Triple.of_fact fun hwhy => Triple.bind (M := fun _ w => w.conn.committed = saved)
      (rollback_saved.conseq (fun _ h => h) (fun _ _ h => h) fun _ _ h => ⟨hwhy, h⟩) fun _ =>
        Triple.raise fun _ h => ⟨hwhy, h⟩

end Statements

/-! ## The four writes -/

namespace Catalog

variable {c c' : Catalog}

/-- The row that an `INSERT` has made. -/
theorem insertDisc_new {slot id : Nat} {title : String}
    {subtitle category platform notes artPath : Option String} {now : Stamp}
    (h : c.insertDisc slot title subtitle category platform notes artPath now = .ok (id, c')) :
    ∃ row : Disc, c' = ⟨c.discs ++ [row], c.events⟩ ∧ row.id = id ∧
      id = nextId (c.discs.map Disc.id) ∧ row.slot = slot ∧ row.title = title ∧
      row.status = .stored := by
  unfold insertDisc at h
  split at h
  · cases h
  · split at h <;> cases h
    exact ⟨_, rfl, rfl, rfl, rfl, rfl, rfl⟩

/-- When an `INSERT` is refused. -/
theorem insertDisc_refused {slot : Nat} {title : String}
    {subtitle category platform notes artPath : Option String} {now : Stamp} :
    (∃ e, c.insertDisc slot title subtitle category platform notes artPath now = .error e) ↔
      ¬ (c.getBySlot slot = none ∧ slotMin ≤ slot ∧ slot ≤ slotMax) := by
  unfold insertDisc
  by_cases hslot : (c.getBySlot slot).isSome
  · rw [if_pos hslot]
    refine iff_of_true ⟨_, rfl⟩ fun h => ?_
    rw [h.1] at hslot
    cases hslot
  · rw [if_neg hslot]
    rw [Bool.not_eq_true, Option.isSome_eq_false_iff, Option.isNone_iff_eq_none] at hslot
    split
    next hrange => exact iff_of_true ⟨_, rfl⟩ fun h => by omega
    next hrange =>
      refine iff_of_false nofun fun h => h ⟨hslot, by omega, by omega⟩

/-- The event that the log has taken. -/
theorem insertEvent_new {discId slot : Option Nat} {kind : EventKind} {detail : Option String}
    {now : Stamp} (h : c.insertEvent discId slot kind detail now = .ok ((), c')) :
    (∀ d, discId = some d → c.getDisc d ≠ none) ∧
      ∃ e : Event, e.slot = slot ∧ c' = ⟨c.discs, c.events ++ [e]⟩ := by
  unfold insertEvent at h
  split at h
  · cases h
  next hrow =>
    cases h
    refine ⟨?_, _, rfl, rfl⟩
    rintro d rfl hnone
    rw [Option.any_some, hnone] at hrow
    exact hrow rfl

/-- An event of a disc that is there, or of none, is not refused. -/
theorem insertEvent_taken {discId slot : Option Nat} {kind : EventKind} {detail : Option String}
    {now : Stamp} (h : ∀ d, discId = some d → c.getDisc d ≠ none) (e : Exc) :
    c.insertEvent discId slot kind detail now ≠ .error e := by
  intro he
  have hlog : ∃ c', c.log kind discId slot detail now = .ok c' := log_ok h
  obtain ⟨c', hc'⟩ := hlog
  unfold log at hc'
  rw [he] at hc'
  cases hc'

end Catalog

section Writes

variable {σ : Type} {φ : Nat → Bool} {now : Stamp} {c : Catalog}

/-- `create_disc` makes the row and its event, or nothing; and it makes them when the slot can be
filled and nothing fails. -/
theorem createDiscOf_at (slot : Nat) (title : String) (details : Details) (kind : EventKind) :
    Triple (fun w : World σ => w.conn.At φ now 0 c c) (createDiscOf slot title details kind)
      (fun id w => (∀ k < 3, φ k = false) ∧ ∃ row : Disc, ∃ event : Event, row.id = id ∧
        id = Catalog.nextId (c.discs.map Disc.id) ∧ row.slot = slot ∧ row.title = title ∧
        row.status = .stored ∧ event.slot = some slot ∧
        (c.getBySlot slot = none ∧ slotMin ≤ slot ∧ slot ≤ slotMax) ∧
        w.conn.committed = ⟨c.discs ++ [row], c.events ++ [event]⟩)
      (fun _ w => ((∃ k < 3, φ k = true) ∨
        ¬ (c.getBySlot slot = none ∧ slotMin ≤ slot ∧ slot ≤ slotMax)) ∧
        w.conn.committed = c) := by
  refine now_bind ((transaction_at ((∃ k < 3, φ k = true) ∨
      ¬ (c.getBySlot slot = none ∧ slotMin ≤ slot ∧ slot ≤ slotMax))
    (M := fun id m c' => m = 2 ∧ φ 0 = false ∧ φ 1 = false ∧
    ∃ c₁, c.insertDisc slot title details.subtitle details.category details.platform details.notes
        details.artPath now = .ok (id, c₁) ∧
      c₁.insertEvent (some id) (some slot) kind (some title) now = .ok ((), c')) ?_ ?_).post ?_)
  · refine ((execute_at _).conseq (fun _ h => h) (fun _ _ h => h) ?_).bind fun id =>
      Triple.of_fact fun h0 => Triple.of_exists fun c₁ => Triple.of_fact fun hinsert => ?_
    · rintro _ w ⟨hwhy, hsaved⟩
      refine ⟨?_, hsaved⟩
      rcases hwhy with h0 | hrefused
      · exact .inl ⟨0, by decide, h0⟩
      · exact .inr (Catalog.insertDisc_refused.mp hrefused)
    · refine ((logEvent_at _ _ _ _).conseq (fun _ h => h) (fun _ _ h => h) ?_).bind fun _ =>
        Triple.of_fact fun h1 => Triple.of_exists fun c₂ => Triple.of_fact fun hevent =>
          Triple.pure fun w h => ⟨2, c₂, ⟨rfl, h0, h1, c₁, hinsert, hevent⟩, h⟩
      rintro _ w ⟨hwhy, hsaved⟩
      refine ⟨.inl ?_, hsaved⟩
      rcases hwhy with h1 | ⟨e, hrefused⟩
      · exact ⟨1, by decide, h1⟩
      · obtain ⟨row, hnew, hid, -⟩ := Catalog.insertDisc_new hinsert
        refine absurd hrefused (Catalog.insertEvent_taken (fun d hd => ?_) e)
        rw [← Option.some.inj hd, ← hid]
        exact Catalog.getDisc_append_self (congrArg Catalog.discs hnew)
  · rintro id m c' ⟨rfl, -⟩ h2
    exact .inl ⟨2, by decide, h2⟩
  · rintro id w ⟨_, c', ⟨rfl, h0, h1, c₁, hinsert, hevent⟩, h2, hsaved⟩
    obtain ⟨row, hnew, hid, hnext, hslot, htitle, hstored⟩ := Catalog.insertDisc_new hinsert
    obtain ⟨-, event, heslot, hlogged⟩ := Catalog.insertEvent_new hevent
    have hfits : c.getBySlot slot = none ∧ slotMin ≤ slot ∧ slot ≤ slotMax := by
      by_contra hno
      obtain ⟨e, he⟩ := Catalog.insertDisc_refused.mpr hno
      rw [he] at hinsert
      cases hinsert
    refine ⟨fun k hk => ?_, row, event, hid, hnext, hslot, htitle, hstored, heslot, hfits, ?_⟩
    · interval_cases k <;> assumption
    · rw [hsaved, hlogged, hnew]

/-- `mark_out` and `mark_stored` make their update and its event, or nothing; a row that is not
there is refused by the event's foreign key. -/
theorem setStatus_at (discId : Nat) {f : Disc → Disc} (hid : ∀ d, (f d).id = d.id)
    (hslot : ∀ d, (f d).slot = d.slot) (kind : EventKind) (detail : Option String) :
    Triple (fun w : World σ => w.conn.At φ now 0 c c)
      (transaction do
        execute fun c => .ok ((), c.updateWhere discId f)
        let row ← getDisc discId
        logEvent kind (some discId) (row.map Disc.slot) detail)
      (fun _ w => ∃ row : Disc, ∃ event : Event, c.getDisc discId = some row ∧
        event.slot = some row.slot ∧
        w.conn.committed = ⟨(c.updateWhere discId f).discs, c.events ++ [event]⟩)
      (fun _ w => w.conn.committed = c) := by
  refine (transaction_at True (M := fun _ _ c' =>
    (c.updateWhere discId f).insertEvent (some discId)
      (((c.updateWhere discId f).getDisc discId).map Disc.slot) kind detail now = .ok ((), c'))
    ?_ fun _ _ _ _ _ => trivial).conseq (fun _ h => h) ?_ fun _ _ h => h.2
  · refine ((execute_ok_at fun c => ((), c.updateWhere discId f)).conseq (fun _ h => h)
      (fun _ _ h => h.2.2) fun _ _ h => ⟨trivial, h.2⟩).bind fun _ => ?_
    refine ((execute_ok_at fun c => (c.getDisc discId, c)).conseq (fun _ h => h)
      (fun _ _ h => h.2) fun _ _ h => ⟨trivial, h.2⟩).bind fun row => Triple.of_fact ?_
    rintro rfl
    refine (logEvent_at _ _ _ _).conseq (fun _ h => h) ?_ fun _ _ h => ⟨trivial, h.2⟩
    rintro _ w ⟨-, c₃, hevent, h⟩
    exact ⟨_, c₃, hevent, h⟩
  · rintro _ w ⟨_, c', hevent, -, hsaved⟩
    obtain ⟨hrow, event, heslot, hlogged⟩ := Catalog.insertEvent_new hevent
    have hfound := hrow discId rfl
    rw [Catalog.getDisc_updateWhere hid] at hfound heslot
    cases hget : c.getDisc discId with
    | none => rw [hget] at hfound; exact absurd rfl hfound
    | some row =>
      refine ⟨row, event, rfl, ?_, hsaved.trans hlogged⟩
      rw [heslot, hget, Option.map_some, Option.map_some, if_pos (Catalog.getDisc_id hget), hslot]

/-- `delete_disc` makes its deletion and its event, or nothing. It makes them when nothing fails,
whether the row is there or not. -/
theorem deleteDisc_at (discId : Nat) :
    Triple (fun w : World σ => w.conn.At φ now 0 c c) (deleteDisc discId)
      (fun _ w => (∀ k < 4, φ k = false) ∧ ∃ event : Event,
        event.slot = (c.getDisc discId).map Disc.slot ∧
        w.conn.committed = ⟨(c.deleteWhere discId).discs, (c.deleteWhere discId).events ++ [event]⟩)
      (fun _ w => (∃ k < 4, φ k = true) ∧ w.conn.committed = c) := by
  refine ((execute_ok_at fun c => (c.getDisc discId, c)).conseq (fun _ h => h) (fun _ _ h => h)
    fun _ _ h => ⟨⟨0, by decide, h.1⟩, h.2⟩).bind fun row => Triple.of_fact fun h0 =>
      Triple.of_fact ?_
  rintro rfl
  refine (transaction_at (∃ k < 4, φ k = true) (M := fun _ m c' => m = 3 ∧ φ 1 = false ∧ φ 2 = false ∧
    (c.deleteWhere discId).insertEvent none ((c.getDisc discId).map Disc.slot) .removed
      ((c.getDisc discId).map Disc.title) now = .ok ((), c')) ?_ ?_).post ?_
  · refine ((execute_ok_at fun c => ((), c.deleteWhere discId)).conseq (fun _ h => h)
      (fun _ _ h => ⟨h.1, h.2.2⟩) fun _ _ h => ⟨⟨1, by decide, h.1⟩, h.2⟩).bind fun _ =>
        Triple.of_fact fun h1 => ?_
    have hnone : ∀ d, (none : Option Nat) = some d → (c.deleteWhere discId).getDisc d ≠ none := nofun
    refine (logEvent_at _ _ _ _).conseq (fun _ h => h) ?_
      fun _ _ h => ⟨⟨2, by decide, h.1.resolve_right fun ⟨e, he⟩ =>
        Catalog.insertEvent_taken hnone e he⟩, h.2⟩
    rintro _ w ⟨h2, c₃, hevent, h⟩
    exact ⟨3, c₃, ⟨rfl, h1, h2, hevent⟩, h⟩
  · rintro _ m c' ⟨rfl, -⟩ h3
    exact ⟨3, by decide, h3⟩
  · rintro _ w ⟨_, c', ⟨rfl, h1, h2, hevent⟩, h3, hsaved⟩
    obtain ⟨-, event, heslot, hlogged⟩ := Catalog.insertEvent_new hevent
    refine ⟨fun k hk => ?_, event, heslot, hsaved.trans hlogged⟩
    interval_cases k <;> assumption

end Writes

/-! ## One call -/

namespace WriteCall

variable (call : WriteCall) (c : Catalog)

/-- A call has answered, or it has raised and answered nothing. -/
theorem outcome_cases {Q : Option Nat → Catalog → Prop} {R : Catalog → Prop}
    (h : Triple (fun w : World Unit => w.conn.At call.faults call.now 0 c c) call.write.run
      (fun a w => Q a w.conn.committed) (fun _ w => R w.conn.committed)) :
    Q (call.made c) (call.apply c) ∨ call.made c = none ∧ R (call.apply c) := by
  have hrun := h 0 { World.boot () [] with conn := call.conn c } ⟨rfl, rfl, rfl, rfl, rfl⟩
  unfold made apply outcome
  split at hrun <;> rename_i hr <;> rw [hr]
  · exact .inl hrun
  · exact .inr ⟨rfl, hrun⟩
  · exact .inr ⟨rfl, hrun⟩

variable {call c}

/-- What a call of `create_disc` comes to. -/
theorem create_cases {slot : Nat} {title : String} {details : Details} {kind : EventKind}
    (hw : call.write = .create slot title details kind) :
    (call.Makes c ∧ ∃ row : Disc, ∃ event : Event, call.made c = some row.id ∧
      row.id = Catalog.nextId (c.discs.map Disc.id) ∧ row.slot = slot ∧ row.title = title ∧
      row.status = .stored ∧ event.slot = some slot ∧
      call.apply c = ⟨c.discs ++ [row], c.events ++ [event]⟩) ∨
    ¬ call.Makes c ∧ call.made c = none ∧ call.apply c = c := by
  have hmakes : call.Makes c ↔ (c.getBySlot slot = none ∧ slotMin ≤ slot ∧ slot ≤ slotMax) ∧
      ∀ k < 3, call.faults k = false := by
    constructor
    · rintro ⟨_, _, _, _, hw', hfree, hlow, hhigh, hclean⟩
      rw [hw] at hw'
      cases hw'
      exact ⟨⟨hfree, hlow, hhigh⟩, hclean⟩
    · rintro ⟨⟨hfree, hlow, hhigh⟩, hclean⟩
      exact ⟨_, _, _, _, hw, hfree, hlow, hhigh, hclean⟩
  have hcases := call.outcome_cases c (Q := fun a c' => call.Makes c ∧ ∃ row : Disc,
      ∃ event : Event, a = some row.id ∧ row.id = Catalog.nextId (c.discs.map Disc.id) ∧
        row.slot = slot ∧ row.title = title ∧ row.status = .stored ∧ event.slot = some slot ∧
        c' = ⟨c.discs ++ [row], c.events ++ [event]⟩) (R := fun c' => ¬ call.Makes c ∧ c' = c) ?_
  · rcases hcases with h | ⟨hmade, hnot, happly⟩
    · exact .inl h
    · exact .inr ⟨hnot, hmade, happly⟩
  · rw [hw]
    refine ((createDiscOf_at slot title details kind).conseq (fun _ h => h) (fun _ _ h => h) ?_).bind
      fun id => Triple.pure ?_
    · rintro _ w ⟨hwhy, hsaved⟩
      refine ⟨fun hm => ?_, hsaved⟩
      obtain ⟨hfits, hclean⟩ := hmakes.mp hm
      rcases hwhy with ⟨k, hk, hfault⟩ | hno
      · rw [hclean k hk] at hfault
        cases hfault
      · exact hno hfits
    · rintro w ⟨hclean, row, event, rfl, hnext, hslot, htitle, hstored, heslot, hfits, hsaved⟩
      exact ⟨hmakes.mpr ⟨hfits, hclean⟩, row, event, rfl, hnext, hslot, htitle, hstored, heslot,
        hsaved⟩

/-- What a call of `mark_out` or `mark_stored` comes to. -/
theorem setStatus_cases (discId : Nat) (kind : EventKind) (detail : Option String)
    {f : Stamp → Disc → Disc} (hid : ∀ t d, (f t d).id = d.id) (hslot : ∀ t d, (f t d).slot = d.slot)
    (hw : call.write.run (σ := Unit) = do
      (Prog.gets fun w => w.conn.now) >>= fun now => transaction do
        execute fun c => .ok ((), c.updateWhere discId (f now))
        let row ← getDisc discId
        logEvent kind (some discId) (row.map Disc.slot) detail
      pure none) :
    call.made c = none ∧ ((∃ row : Disc, ∃ event : Event, c.getDisc discId = some row ∧
      event.slot = some row.slot ∧ call.apply c =
        ⟨(c.updateWhere discId (f call.now)).discs, c.events ++ [event]⟩) ∨ call.apply c = c) := by
  have hcases := call.outcome_cases c (Q := fun a c' => a = none ∧ ∃ row : Disc, ∃ event : Event,
      c.getDisc discId = some row ∧ event.slot = some row.slot ∧
      c' = ⟨(c.updateWhere discId (f call.now)).discs, c.events ++ [event]⟩)
    (R := fun c' => c' = c) ?_
  · rcases hcases with ⟨hmade, h⟩ | ⟨hmade, h⟩
    · exact ⟨hmade, .inl h⟩
    · exact ⟨hmade, .inr h⟩
  · rw [hw]
    refine Triple.bind (now_bind (setStatus_at discId (hid call.now) (hslot call.now) kind detail))
      fun _ => Triple.pure fun w h => ⟨rfl, h⟩

/-- What a call of `delete_disc` comes to. -/
theorem delete_cases {discId : Nat} (hw : call.write = .delete discId) :
    call.made c = none ∧ (((∀ k < 4, call.faults k = false) ∧ ∃ event : Event,
        event.slot = (c.getDisc discId).map Disc.slot ∧ call.apply c =
          ⟨(c.deleteWhere discId).discs, (c.deleteWhere discId).events ++ [event]⟩) ∨
      (∃ k < 4, call.faults k = true) ∧ call.apply c = c) := by
  have hcases := call.outcome_cases c (Q := fun a c' => a = none ∧
      (∀ k < 4, call.faults k = false) ∧ ∃ event : Event,
        event.slot = (c.getDisc discId).map Disc.slot ∧
        c' = ⟨(c.deleteWhere discId).discs, (c.deleteWhere discId).events ++ [event]⟩)
    (R := fun c' => (∃ k < 4, call.faults k = true) ∧ c' = c) ?_
  · rcases hcases with ⟨hmade, h⟩ | ⟨hmade, h⟩
    · exact ⟨hmade, .inl h⟩
    · exact ⟨hmade, .inr h⟩
  · rw [hw]
    exact (deleteDisc_at discId).bind fun _ => Triple.pure fun w h => ⟨rfl, h⟩

end WriteCall

/-! ## The row that changes -/

namespace Catalog

variable {c : Catalog} {discId : Nat} {row : Disc}

/-- The row that is found is the only one of its id. -/
theorem Keyed.split (h : c.Keyed) (hget : c.getDisc discId = some row) :
    ∃ front rest, c.discs = front ++ row :: rest ∧ row.id = discId ∧
      (∀ d ∈ front, d.id ≠ discId) ∧ ∀ d ∈ rest, d.id ≠ discId := by
  obtain ⟨hrow, front, rest, hsplit, hfront⟩ := List.find?_eq_some_iff_append.mp hget
  have hid : row.id = discId := beq_iff_eq.mp hrow
  have hids := h.ids
  rw [hsplit, List.map_append, List.map_cons, List.nodup_append] at hids
  refine ⟨front, rest, hsplit, hid, fun d hd => ?_, fun d hd hsame => ?_⟩
  · simpa using hfront d hd
  · refine (List.nodup_cons.mp hids.2.1).1 ?_
    rw [hid, ← hsame]
    exact List.mem_map_of_mem hd

/-- An update changes that row alone. -/
theorem Keyed.replaced_updateWhere (h : c.Keyed) (hget : c.getDisc discId = some row)
    (f : Disc → Disc) : Replaced c.discs (c.updateWhere discId f).discs row (some (f row)) := by
  obtain ⟨front, rest, hsplit, hid, hfront, hrest⟩ := h.split hget
  refine ⟨front, rest, hsplit, ?_⟩
  have same : ∀ l : List Disc, (∀ d ∈ l, d.id ≠ discId) →
      l.map (fun d => if d.id = discId then f d else d) = l := fun l hl =>
    (List.map_congr_left fun d hd => if_neg (hl d hd)).trans (List.map_id l)
  unfold Catalog.updateWhere
  rw [hsplit, List.map_append, List.map_cons, same front hfront, same rest hrest, if_pos hid]
  simp

/-- A deletion removes that row alone. -/
theorem Keyed.replaced_deleteWhere (h : c.Keyed) (hget : c.getDisc discId = some row) :
    Replaced c.discs (c.deleteWhere discId).discs row none := by
  obtain ⟨front, rest, hsplit, hid, hfront, hrest⟩ := h.split hget
  refine ⟨front, rest, hsplit, ?_⟩
  have same : ∀ l : List Disc, (∀ d ∈ l, d.id ≠ discId) →
      l.filter (fun d => decide (d.id ≠ discId)) = l := fun l hl =>
    List.filter_eq_self.mpr fun d hd => decide_eq_true (hl d hd)
  unfold deleteWhere
  rw [hsplit, List.filter_append, same front hfront, List.filter_cons_of_neg (by simp [hid]),
    same rest hrest]
  simp

end Catalog

/-- **A write and its event are one unit**, whichever of its statements fails, exactly when a
deletion finds its row or one of its statements fails: `delete_disc` of a row that is not there
commits an event of its own. -/
theorem write_one_unit {c : Catalog} (hc : c.Keyed) (call : WriteCall) :
    (call.write.Committed c (call.apply c) ∨ call.apply c = c) ↔ call.FindsRow c := by
  unfold WriteCall.FindsRow
  rcases hw : call.write with ⟨slot, title, details, kind⟩ | ⟨discId, kind, detail⟩ |
    ⟨discId, kind, detail⟩ | discId
  · refine iff_of_true ?_ nofun
    rcases WriteCall.create_cases hw with
      ⟨-, row, event, -, hnext, hslot, -, hstored, heslot, happly⟩ | ⟨-, -, happly⟩
    · refine .inl ⟨row, event, hslot, hstored, ?_, hslot.symm ▸ heslot, happly⟩
      rw [hnext]
      exact Catalog.nextId_fresh _
    · exact .inr happly
  · refine iff_of_true ?_ nofun
    rcases (WriteCall.setStatus_cases discId kind detail
      (f := fun now d => { d with status := .out, checkedOutAt := some now, updatedAt := now })
      (fun _ _ => rfl) (fun _ _ => rfl) (by rw [hw]; rfl)).2 with
      ⟨row, event, hget, heslot, happly⟩ | happly
    · rw [happly]
      exact .inl ⟨row, event, call.now, Catalog.getDisc_id hget, heslot,
        hc.replaced_updateWhere hget _, rfl⟩
    · exact .inr happly
  · refine iff_of_true ?_ nofun
    rcases (WriteCall.setStatus_cases discId kind detail
      (f := fun now d => { d with status := .stored, checkedOutAt := none, updatedAt := now })
      (fun _ _ => rfl) (fun _ _ => rfl) (by rw [hw]; rfl)).2 with
      ⟨row, event, hget, heslot, happly⟩ | happly
    · rw [happly]
      exact .inl ⟨row, event, call.now, Catalog.getDisc_id hget, heslot,
        hc.replaced_updateWhere hget _, rfl⟩
    · exact .inr happly
  · rcases (WriteCall.delete_cases hw).2 with ⟨hclean, event, heslot, happly⟩ | ⟨hfault, happly⟩
    · rw [happly]
      cases hget : c.getDisc discId with
      | some row =>
        rw [hget] at heslot
        refine iff_of_true (.inl ⟨row, event, Catalog.getDisc_id hget, heslot,
          hc.replaced_deleteWhere hget, rfl⟩) ?_
        rintro _ ⟨⟩
        exact .inl (by rw [hget]; exact nofun)
      | none =>
        refine iff_of_false ?_ ?_
        · rintro (⟨row, -, hid, -, ⟨front, rest, hsplit, -⟩, -⟩ | hsame)
          · refine List.find?_eq_none.mp hget row ?_ (beq_iff_eq.mpr hid)
            rw [hsplit]
            exact List.mem_append_right _ List.mem_cons_self
          · have hlen := congrArg (fun c => c.events.length) hsame
            simp [Catalog.deleteWhere] at hlen
        · intro h
          rcases h discId rfl with hfound | ⟨k, hk, hfault⟩
          · exact hfound hget
          · rw [hclean k hk] at hfault
            cases hfault
    · refine iff_of_true (.inr happly) ?_
      rintro _ ⟨⟩
      exact .inr hfault

/-- A deletion that finds nothing, as a request makes it whose disc another has deleted. -/
def deleteGone : WriteCall where
  write := .delete 1
  now := 0
  faults := fun _ => false

/-- It leaves the rows alone and logs that a disc was removed. -/
theorem write_one_unit_gone : (⟨[], []⟩ : Catalog).Keyed ∧
    ¬ (deleteGone.write.Committed ⟨[], []⟩ (deleteGone.apply ⟨[], []⟩) ∨
      deleteGone.apply ⟨[], []⟩ = ⟨[], []⟩) := by
  refine ⟨by decide, ?_⟩
  rintro (⟨row, -, -, -, ⟨front, rest, hsplit, -⟩, -⟩ | hsame)
  · exact absurd hsplit.symm (List.append_ne_nil_of_right_ne_nil _ (List.cons_ne_nil _ _))
  · revert hsame
    decide

/-- Two discs, of which the second is with the user, and an event of the first. -/
def twoRows : Catalog :=
  ⟨[⟨1, 7, "Myst", none, none, none, none, none, .stored, none, 0, 0⟩,
    ⟨2, 8, "Riven", none, none, none, none, none, .out, some 4, 0, 4⟩],
    [⟨1, some 1, some 7, .added, none, 0⟩]⟩

/-- The first is marked as taken. -/
def markFirst : WriteCall := ⟨.markOut 1 .ejected none, 9, fun _ => false⟩

/-- It is deleted. -/
def deleteFirst : WriteCall := ⟨.delete 1, 9, fun _ => false⟩

theorem write_one_unit_rows : markFirst.write.Committed twoRows (markFirst.apply twoRows) ∧
    deleteFirst.write.Committed twoRows (deleteFirst.apply twoRows) := by
  have hkeyed : twoRows.Keyed := by decide
  constructor
  · exact ((write_one_unit hkeyed markFirst).mpr nofun).resolve_right (by decide)
  · refine ((write_one_unit hkeyed deleteFirst).mpr ?_).resolve_right (by decide)
    rintro discId ⟨⟩
    exact .inl (by decide)

/-! ## The ids of a history -/

namespace Catalog

theorem nextId_le {ids : List Nat} {n : Nat} (h : ∀ id ∈ ids, id ≤ n) : nextId ids ≤ n + 1 := by
  unfold nextId
  induction ids with
  | nil => exact Nat.le_add_left 1 n
  | cons id ids ih =>
    have hrest := ih fun x hx => h x (List.mem_cons_of_mem _ hx)
    have hfirst := h id List.mem_cons_self
    rw [List.foldr_cons]
    omega

theorem lt_nextId {ids : List Nat} {n : Nat} (h : n ∈ ids) : n < nextId ids :=
  Nat.lt_succ_of_le (List.le_max_of_le' 0 h (Nat.le_refl n))

theorem nextId_pos (ids : List Nat) : 0 < nextId ids := Nat.succ_pos _

/-- The ids of the rows are among the first `n`. -/
def Numbered (c : Catalog) (n : Nat) : Prop := ∀ id ∈ c.discs.map Disc.id, 1 ≤ id ∧ id ≤ n

/-- The next id of a catalogue in which the last of `n` ids is still there. -/
theorem Numbered.nextId_eq {c : Catalog} {n : Nat} (h : c.Numbered n)
    (hlast : n ≠ 0 → n ∈ c.discs.map Disc.id) : nextId (c.discs.map Disc.id) = n + 1 := by
  have hle := nextId_le fun id hid => (h id hid).2
  rcases Nat.eq_zero_or_pos n with rfl | hpos
  · have := nextId_pos (c.discs.map Disc.id)
    omega
  · have := lt_nextId (hlast (Nat.ne_of_gt hpos))
    omega

/-- The next id of a catalogue in which it is not is one of the `n`. -/
theorem Numbered.nextId_used {c : Catalog} {n : Nat} (h : c.Numbered n) (hpos : n ≠ 0)
    (hgone : n ∉ c.discs.map Disc.id) : nextId (c.discs.map Disc.id) ≤ n := by
  have hle : nextId (c.discs.map Disc.id) ≤ n - 1 + 1 := by
    refine nextId_le fun id hid => ?_
    have hne : id ≠ n := fun he => hgone (he ▸ hid)
    have := (h id hid).2
    omega
  omega

theorem getDisc_eq_none {c : Catalog} {discId : Nat} :
    c.getDisc discId = none ↔ discId ∉ c.discs.map Disc.id := by
  unfold getDisc
  rw [List.find?_eq_none, List.mem_map]
  constructor
  · rintro h ⟨d, hd, hid⟩
    exact h d hd (beq_iff_eq.mpr hid)
  · intro h d hd hid
    exact h ⟨d, hd, beq_iff_eq.mp hid⟩

end Catalog

namespace WriteCall

variable {call : WriteCall} {c : Catalog}

/-- A call that makes no disc answers no id and brings in no row: those that stay keep their id,
slot and title. -/
theorem unmade (h : ¬ call.Makes c) : call.made c = none ∧
    ∀ row ∈ (call.apply c).discs, ∃ old ∈ c.discs,
      old.id = row.id ∧ old.slot = row.slot ∧ old.title = row.title := by
  have unchanged : ∀ {c'}, c' = c → ∀ row ∈ c'.discs, ∃ old ∈ c.discs,
      old.id = row.id ∧ old.slot = row.slot ∧ old.title = row.title := by
    rintro _ rfl row hrow
    exact ⟨row, hrow, rfl, rfl, rfl⟩
  have updated : ∀ {discId : Nat} {f : Disc → Disc}, (∀ d, (f d).id = d.id) →
      (∀ d, (f d).slot = d.slot) → (∀ d, (f d).title = d.title) →
      ∀ row ∈ (c.updateWhere discId f).discs, ∃ old ∈ c.discs,
        old.id = row.id ∧ old.slot = row.slot ∧ old.title = row.title := by
    intro discId f hid hslot htitle row hrow
    obtain ⟨old, hold, rfl⟩ := List.mem_map.mp hrow
    refine ⟨old, hold, ?_⟩
    split
    · exact ⟨(hid old).symm, (hslot old).symm, (htitle old).symm⟩
    · exact ⟨rfl, rfl, rfl⟩
  rcases hw : call.write with ⟨slot, title, details, kind⟩ | ⟨discId, kind, detail⟩ |
    ⟨discId, kind, detail⟩ | discId
  · rcases create_cases hw with ⟨hmakes, -⟩ | ⟨-, hmade, happly⟩
    · exact absurd hmakes h
    · exact ⟨hmade, unchanged happly⟩
  · obtain ⟨hmade, ⟨row, event, -, -, happly⟩ | happly⟩ := setStatus_cases (c := c) discId kind detail
      (f := fun now d => { d with status := .out, checkedOutAt := some now, updatedAt := now })
      (fun _ _ => rfl) (fun _ _ => rfl) (by rw [hw]; rfl)
    · rw [happly]
      exact ⟨hmade, updated (fun _ => rfl) (fun _ => rfl) fun _ => rfl⟩
    · exact ⟨hmade, unchanged happly⟩
  · obtain ⟨hmade, ⟨row, event, -, -, happly⟩ | happly⟩ := setStatus_cases (c := c) discId kind detail
      (f := fun now d => { d with status := .stored, checkedOutAt := none, updatedAt := now })
      (fun _ _ => rfl) (fun _ _ => rfl) (by rw [hw]; rfl)
    · rw [happly]
      exact ⟨hmade, updated (fun _ => rfl) (fun _ => rfl) fun _ => rfl⟩
    · exact ⟨hmade, unchanged happly⟩
  · obtain ⟨hmade, ⟨-, event, -, happly⟩ | ⟨-, happly⟩⟩ := delete_cases (c := c) hw
    · rw [happly]
      exact ⟨hmade, fun row hrow => ⟨row, List.mem_of_mem_filter hrow, rfl, rfl, rfl⟩⟩
    · exact ⟨hmade, unchanged happly⟩

/-- A call that makes a disc appends it under the next id. -/
theorem made_row (h : call.Makes c) : ∃ row : Disc, ∃ slot title details kind,
    call.write = .create slot title details kind ∧ call.made c = some row.id ∧
    row.id = Catalog.nextId (c.discs.map Disc.id) ∧ row.slot = slot ∧ row.title = title ∧
    (call.apply c).discs = c.discs ++ [row] := by
  have hmakes := h
  obtain ⟨slot, title, details, kind, hw, -⟩ := h
  rcases create_cases hw with ⟨-, row, event, hmade, hnext, hslot, htitle, -, -, happly⟩ |
    ⟨hnot, -⟩
  · exact ⟨row, slot, title, details, kind, hw, hmade, hnext, hslot, htitle, by rw [happly]⟩
  · exact absurd hmakes hnot

theorem unmade_numbered (h : ¬ call.Makes c) {n : Nat} (hn : c.Numbered n) :
    (call.apply c).Numbered n := by
  intro id hid
  obtain ⟨row, hrow, rfl⟩ := List.mem_map.mp hid
  obtain ⟨old, hold, hid, -⟩ := (unmade h).2 row hrow
  exact hid ▸ hn old.id (List.mem_map_of_mem hold)

end WriteCall

section Issued

variable {call : WriteCall} {calls : List WriteCall} {c : Catalog}

theorem issued_made {row : Disc} {slot : Nat} {title : String} {details : Details}
    {kind : EventKind} (hw : call.write = .create slot title details kind)
    (hmade : call.made c = some row.id) :
    issued c (call :: calls) = (row.id, slot, title) :: issued (call.apply c) calls := by
  rw [issued, hw, hmade]
  rfl

theorem issued_unmade (h : call.made c = none) :
    issued c (call :: calls) = issued (call.apply c) calls := by
  rw [issued, h]
  split <;> simp_all

/-- The ids that are out are the first `n`, so they stay different as long as the last of them is
there whenever another is given. -/
theorem issued_nodup {n : Nat} (hn : c.Numbered n) :
    (List.range' 1 n ++ (issued c calls).map Prod.fst).Nodup ↔
      LastStays c (if n = 0 then none else some n) calls := by
  induction calls generalizing c n with
  | nil => simpa [issued, LastStays] using List.nodup_range'
  | cons call calls ih =>
    by_cases hmakes : call.Makes c
    · obtain ⟨row, slot, title, details, kind, hw, hmade, hnext, -, -, happly⟩ :=
        WriteCall.made_row hmakes
      rw [issued_made hw hmade, List.map_cons, LastStays, hmade, imp_iff_right hmakes]
      by_cases hlast : n ≠ 0 → n ∈ c.discs.map Disc.id
      · have hid : row.id = n + 1 := hnext.trans (hn.nextId_eq hlast)
        have hstays : ∀ id ∈ (if n = 0 then none else some n), c.getDisc id ≠ none := by
          intro id hmem
          split at hmem
          · cases hmem
          next hpos =>
            rw [Option.mem_some] at hmem
            rw [← hmem, Ne, Catalog.getDisc_eq_none, not_not]
            exact hlast hpos
        have hnumbered : (call.apply c).Numbered (n + 1) := by
          intro id hmem
          rw [happly, List.map_append] at hmem
          rcases List.mem_append.mp hmem with hold | hnew
          · have := hn id hold
            omega
          · have := List.mem_singleton.mp hnew
            omega
        have := ih hnumbered
        rw [List.range'_1_concat, List.append_assoc, List.singleton_append,
          if_neg (Nat.succ_ne_zero n), Nat.add_comm 1 n] at this
        rw [hid, this]
        exact ⟨fun h => ⟨hstays, h⟩, fun h => h.2⟩
      · rw [Classical.not_imp] at hlast
        obtain ⟨hpos, hgone⟩ := hlast
        refine iff_of_false (fun hnodup => ?_) fun h => ?_
        · have hused := hn.nextId_used hpos hgone
          have := Catalog.nextId_pos (c.discs.map Disc.id)
          refine List.disjoint_of_nodup_append hnodup (List.mem_range'_1.mpr ?_) List.mem_cons_self
          omega
        · exact h.1 n (by rw [if_neg hpos]; rfl) (Catalog.getDisc_eq_none.mpr hgone)
    · have hmade := (WriteCall.unmade hmakes).1
      rw [issued_unmade hmade, LastStays, hmade, ih (WriteCall.unmade_numbered hmakes hn)]
      exact ⟨fun h => ⟨fun hm => absurd hm hmakes, h⟩, fun h => h.2⟩

/-- Every row was made by one of the calls, with the slot and the title it has. -/
theorem rows_issued {known : List (Nat × Nat × String)}
    (h : ∀ row ∈ c.discs, (row.id, row.slot, row.title) ∈ known) :
    ∀ row ∈ (after c calls).discs, (row.id, row.slot, row.title) ∈ known ++ issued c calls := by
  induction calls generalizing c known with
  | nil => simpa [after, issued] using h
  | cons call calls ih =>
    intro row hrow
    by_cases hmakes : call.Makes c
    · obtain ⟨new, slot, title, details, kind, hw, hmade, -, hslot, htitle, happly⟩ :=
        WriteCall.made_row hmakes
      rw [issued_made hw hmade, List.append_cons]
      refine ih (fun row hrow => ?_) row hrow
      rw [happly] at hrow
      rcases List.mem_append.mp hrow with hold | hnew
      · exact List.mem_append_left _ (h row hold)
      · cases List.mem_singleton.mp hnew
        rw [hslot, htitle]
        exact List.mem_append_right _ List.mem_cons_self
    · obtain ⟨hmade, hrows⟩ := WriteCall.unmade hmakes
      rw [issued_unmade hmade]
      refine ih (fun row hrow => ?_) row hrow
      obtain ⟨old, hold, hid, hslot, htitle⟩ := hrows row hrow
      rw [← hid, ← hslot, ← htitle]
      exact h old hold

theorem issued_append (earlier later : List WriteCall) :
    issued c (earlier ++ later) = issued c earlier ++ issued (after c earlier) later := by
  induction earlier generalizing c with
  | nil => rfl
  | cons call earlier ih =>
    rw [List.cons_append, issued, issued, ih, List.append_assoc]
    rfl

end Issued

/-- **An id never comes to mean another disc, exactly when no disc is made while the disc made last
is gone**: SQLite gives the id of that one again. -/
theorem ids_unmistaken (calls : List WriteCall) :
    Unmistaken calls ↔ LastStays ⟨[], []⟩ none calls := by
  have hempty : (⟨[], []⟩ : Catalog).Numbered 0 := nofun
  have honce : (List.range' 1 0 ++ (issued ⟨[], []⟩ calls).map Prod.fst).Nodup ↔
      LastStays ⟨[], []⟩ none calls := issued_nodup hempty
  refine ⟨fun h => honce.mp h.once, fun h => ⟨honce.mpr h, ?_⟩⟩
  rintro earlier later rfl kept hkept row hget
  have hnodup : ((issued ⟨[], []⟩ earlier).map Prod.fst).Nodup := by
    have hall := honce.mpr h
    rw [issued_append, List.map_append] at hall
    exact (List.nodup_append.mp (List.nodup_append.mp hall).2.1).1
  have hrows : ∀ row ∈ (after ⟨[], []⟩ earlier).discs,
      (row.id, row.slot, row.title) ∈ [] ++ issued ⟨[], []⟩ earlier := rows_issued nofun
  have hrow := hrows row (List.mem_of_find?_eq_some hget)
  have hsame : kept = (row.id, row.slot, row.title) :=
    List.inj_on_of_nodup_map hnodup hkept hrow (Catalog.getDisc_id hget).symm
  rw [hsame]

/-- The last disc is deleted and another is loaded. -/
def reloaded : List WriteCall :=
  [⟨.create 1 "Myst" {} .manual, 0, fun _ => false⟩, ⟨.delete 1, 1, fun _ => false⟩,
    ⟨.create 2 "Riven" {} .manual, 2, fun _ => false⟩]

/-- Both discs have had the id 1. -/
theorem ids_unmistaken_reloaded : ¬ Unmistaken reloaded := by
  intro h
  have := h.once
  revert this
  decide

end StakkaWeb
