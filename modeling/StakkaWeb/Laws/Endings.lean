import StakkaWeb.Laws.Kept
import StakkaWeb.Requests

/-!
# A flow writes once

On a database that works, the operations of `catalog/db.py` are the transactions of `Catalog`, and
a whole flow leaves the catalogue as it was or makes one of the writes of `Ends`, however the unit
behaves and however the flow ends. So the grain at which `Site` takes a job is that of the flows.
-/

set_option autoImplicit false

namespace StakkaWeb

open Lib Lib.Prog

/-- A connection that works: it sees `view`, and `committed` is in the file. -/
structure Sees (view committed : Catalog) (now : Stamp) (conn : Conn) : Prop where
  faults : ∀ n, conn.faults n = false
  view : conn.view = view
  committed : conn.committed = committed
  now : conn.now = now

/-- Nothing has been written since the last commit. -/
abbrev Rests (c : Catalog) (now : Stamp) (conn : Conn) : Prop := Sees c c now conn

variable {σ : Type} {c v : Catalog} {now : Stamp}

/-- The outcome of a statement or of a transaction, `r`: its answer and the new tables, or the
error and the old ones. -/
theorem execute_sees {α : Type} (f : Catalog → Except Exc (α × Catalog)) :
    Triple (fun w : World σ => Sees v c now w.conn) (execute f)
      (fun a w => ∃ v', f v = .ok (a, v') ∧ Sees v' c now w.conn)
      (fun e w => ∃ exc, e = some exc ∧ f v = .error exc ∧ Sees v c now w.conn) := by
  intro n w h
  unfold execute Prog.call
  dsimp only
  rw [h.faults, h.view, if_neg nofun]
  rcases f v with e | ⟨a, v'⟩
  · exact ⟨e, rfl, rfl, h.faults, rfl, h.committed, h.now⟩
  · exact ⟨v', rfl, h.faults, rfl, h.committed, h.now⟩

theorem commit_sees : Triple (fun w : World σ => Sees v c now w.conn) commit
    (fun _ w => Rests v now w.conn) (fun _ _ => False) := by
  intro n w h
  unfold commit Prog.call
  dsimp only
  rw [h.faults, if_neg nofun]
  exact ⟨h.faults, h.view, h.view, h.now⟩

theorem rollback_sees : Triple (fun w : World σ => Sees v c now w.conn) rollback
    (fun _ w => Rests c now w.conn) (fun _ _ => False) := by
  intro n w h
  unfold rollback Prog.call
  dsimp only
  rw [h.faults, if_neg nofun]
  exact ⟨h.faults, h.committed, h.committed, h.now⟩

/-- A transaction commits what its block has written, or nothing. -/
theorem transaction_rests {α : Type} {block : Py σ α} {r : Except Exc (α × Catalog)}
    (hb : Triple (fun w : World σ => Rests c now w.conn) block
      (fun a w => ∃ v, r = .ok (a, v) ∧ Sees v c now w.conn)
      (fun e w => ∃ exc v, e = some exc ∧ r = .error exc ∧ Sees v c now w.conn)) :
    Triple (fun w : World σ => Rests c now w.conn) (transaction block)
      (fun a w => ∃ c', r = .ok (a, c') ∧ Rests c' now w.conn)
      (fun e w => ∃ exc, e = some exc ∧ r = .error exc ∧ Rests c now w.conn) := by
  refine Triple.attempt (E := fun e w => ∃ exc v, e = some exc ∧ r = .error exc ∧
    Sees v c now w.conn) ?_ (fun e => ?_) ?_
  · refine hb.bind fun a => Triple.of_exists fun v => Triple.of_fact fun hr => ?_
    refine Triple.bind (commit_sees.conseq (fun _ => id) (fun _ _ => id) fun _ _ => False.elim)
      fun _ => Triple.pure fun w h => ⟨v, hr, h⟩
  · refine Triple.of_exists fun exc => Triple.of_exists fun v => Triple.of_fact fun he => ?_
    refine Triple.of_fact fun hr => ?_
    refine Triple.bind (rollback_sees.conseq (fun _ => id) (fun _ _ => id) fun _ _ => False.elim)
      fun _ => Triple.raise fun w h => ⟨exc, he, hr, h⟩
  · rintro w ⟨exc, v, he, _⟩
    cases he

/-- One entry of the log inside a transaction. -/
theorem logEvent_sees (kind : EventKind) (discId slot : Option Nat) (detail : Option String) :
    Triple (fun w : World σ => Sees v c now w.conn) (logEvent kind discId slot detail)
      (fun _ w => ∃ v', v.log kind discId slot detail now = .ok v' ∧ Sees v' c now w.conn)
      (fun e w => ∃ exc, e = some exc ∧ v.log kind discId slot detail now = .error exc ∧
        Sees v c now w.conn) := by
  refine Triple.bind (M := fun t w => t = now ∧ Sees v c now w.conn)
    (Triple.gets fun w h => ⟨h.now, h⟩) fun t => Triple.of_fact ?_
  rintro rfl
  refine (execute_sees _).conseq (fun _ => id) ?_ ?_
  · rintro _ w ⟨v', hr, h⟩
    refine ⟨v', ?_, h⟩
    unfold Catalog.log
    rw [hr]
    rfl
  · rintro _ w ⟨exc, rfl, hr, h⟩
    refine ⟨exc, rfl, ?_, h⟩
    unfold Catalog.log
    rw [hr]
    rfl

/-- **`create_disc` is its transaction.** -/
theorem createDisc_rests (slot : Nat) (title : String) (kind : EventKind) :
    Triple (fun w : World σ => Rests c now w.conn) (createDisc slot title kind)
      (fun id w => ∃ c', c.createDisc slot title kind now = .ok (id, c') ∧ Rests c' now w.conn)
      (fun e w => ∃ exc, e = some exc ∧ c.createDisc slot title kind now = .error exc ∧
        Rests c now w.conn) := by
  refine Triple.bind (M := fun t w => t = now ∧ Rests c now w.conn)
    (Triple.gets fun w h => ⟨h.now, h⟩) fun t => Triple.of_fact ?_
  rintro rfl
  refine transaction_rests (Triple.bind ((execute_sees _).conseq (fun _ => id) (fun _ _ => id) ?_)
    fun row => Triple.of_exists fun v => Triple.of_fact fun hi => ?_)
  · rintro _ w ⟨exc, rfl, hi, h⟩
    refine ⟨exc, c, rfl, ?_, h⟩
    unfold Catalog.createDisc
    rw [hi]
  · refine Triple.bind ((logEvent_sees _ _ _ _).conseq (fun _ => id) (fun _ _ => id) ?_) fun _ =>
      Triple.of_exists fun v' => Triple.of_fact fun hl => Triple.pure fun w h => ⟨v', ?_, h⟩
    · rintro _ w ⟨exc, rfl, hl, h⟩
      refine ⟨exc, v, rfl, ?_, h⟩
      unfold Catalog.createDisc
      rw [hi]
      dsimp only
      rw [hl]
      rfl
    · unfold Catalog.createDisc
      rw [hi]
      dsimp only
      rw [hl]
      rfl

/-- **`mark_out` and `mark_stored` are their transaction.** -/
theorem setStatus_rests (discId : Nat) (f : Disc → Disc) (kind : EventKind)
    (detail : Option String) :
    Triple (fun w : World σ => Rests c now w.conn)
      (transaction do
        execute fun c => .ok ((), c.updateWhere discId f)
        let row ← getDisc discId
        logEvent kind (some discId) (row.map Disc.slot) detail)
      (fun _ w => ∃ c', c.setStatus discId f kind detail now = .ok c' ∧ Rests c' now w.conn)
      (fun e w => ∃ exc, e = some exc ∧ c.setStatus discId f kind detail now = .error exc ∧
        Rests c now w.conn) := by
  have hb : Triple (fun w : World σ => Rests c now w.conn)
      (do
        execute fun c => .ok ((), c.updateWhere discId f)
        let row ← getDisc discId
        logEvent kind (some discId) (row.map Disc.slot) detail)
      (fun a w => ∃ v, (c.setStatus discId f kind detail now).map (Prod.mk ()) = .ok (a, v) ∧
        Sees v c now w.conn)
      (fun e w => ∃ exc v, e = some exc ∧
        (c.setStatus discId f kind detail now).map (Prod.mk ()) = .error exc ∧
        Sees v c now w.conn) := by
    refine Triple.bind ((execute_sees _).conseq (fun _ => id) (fun _ _ => id) ?_)
      fun _ => Triple.of_exists fun v => Triple.of_fact fun hu => ?_
    · rintro _ w ⟨exc, _, hu, _⟩
      cases hu
    cases hu
    refine Triple.bind ((execute_sees _).conseq (fun _ => id) (fun _ _ => id) ?_)
      fun row => Triple.of_exists fun v => Triple.of_fact fun hg => ?_
    · rintro _ w ⟨exc, _, hg, _⟩
      cases hg
    cases hg
    refine (logEvent_sees _ _ _ _).conseq (fun _ => id) ?_ ?_
    · rintro _ w ⟨v, hl, h⟩
      refine ⟨v, ?_, h⟩
      unfold Catalog.setStatus
      dsimp only
      rw [hl]
      rfl
    · rintro _ w ⟨exc, rfl, hl, h⟩
      refine ⟨exc, _, rfl, ?_, h⟩
      unfold Catalog.setStatus
      dsimp only
      rw [hl]
      rfl
  refine (transaction_rests hb).conseq (fun _ => id) ?_ ?_
  · rintro _ w ⟨c', hr, h⟩
    cases hs : c.setStatus discId f kind detail now with
    | error e => rw [hs] at hr; cases hr
    | ok c₁ =>
      rw [hs] at hr
      cases hr
      exact ⟨c', rfl, h⟩
  · rintro _ w ⟨exc, he, hr, h⟩
    refine ⟨exc, he, ?_, h⟩
    cases hs : c.setStatus discId f kind detail now with
    | ok c₁ => rw [hs] at hr; cases hr
    | error e => rw [hs] at hr; cases hr; rfl

theorem markOut_rests (discId : Nat) (kind : EventKind) (detail : Option String) :
    Triple (fun w : World σ => Rests c now w.conn) (markOut discId kind detail)
      (fun _ w => ∃ c', c.markOut discId kind detail now = .ok c' ∧ Rests c' now w.conn)
      (fun e w => ∃ exc, e = some exc ∧ c.markOut discId kind detail now = .error exc ∧
        Rests c now w.conn) := by
  refine Triple.bind (M := fun t w => t = now ∧ Rests c now w.conn)
    (Triple.gets fun w h => ⟨h.now, h⟩) fun t => Triple.of_fact ?_
  rintro rfl
  exact setStatus_rests _ _ _ _

theorem markStored_rests (discId : Nat) (kind : EventKind) (detail : Option String) :
    Triple (fun w : World σ => Rests c now w.conn) (markStored discId kind detail)
      (fun _ w => ∃ c', c.markStored discId kind detail now = .ok c' ∧ Rests c' now w.conn)
      (fun e w => ∃ exc, e = some exc ∧ c.markStored discId kind detail now = .error exc ∧
        Rests c now w.conn) := by
  refine Triple.bind (M := fun t w => t = now ∧ Rests c now w.conn)
    (Triple.gets fun w h => ⟨h.now, h⟩) fun t => Triple.of_fact ?_
  rintro rfl
  exact setStatus_rests _ _ _ _

/-- A statement that is refused leaves the catalogue as it was. -/
theorem rests_of_refused {α : Type} {m : Py σ α} {Q : α → World σ → Prop} {φ : Exc → Prop}
    (h : Triple (fun w : World σ => Rests c now w.conn) m Q
      (fun e w => ∃ exc, e = some exc ∧ φ exc ∧ Rests c now w.conn)) :
    Triple (fun w : World σ => Rests c now w.conn) m Q (fun _ w => Rests c now w.conn) :=
  h.conseq (fun _ => id) (fun _ _ => id) fun _ _ ⟨_, _, _, hw⟩ => hw

theorem getDisc_rests (discId : Nat) :
    Keeps (fun w : World σ => Rests c now w.conn) (getDisc discId) := by
  refine (execute_sees fun c => .ok (c.getDisc discId, c)).conseq (fun _ => id) ?_ ?_
  · rintro disc w ⟨v, hg, hw⟩
    cases hg
    exact hw
  · rintro _ w ⟨_, _, hg, _⟩
    cases hg

/-! ## Whole flows -/

/-- What a flow leaves: the catalogue as it was, or one of the writes it may end with. -/
def WroteOnce (c : Catalog) (now : Stamp) (job : Task) (conn : Conn) : Prop :=
  ∃ c', (c' = c ∨ ∃ slot, Ends c now job slot (.ok c')) ∧ Rests c' now conn

section Flows

variable {job : Task}

/-- A run of `m` leaves what `job` may leave. -/
abbrev Leaves {α : Type} (c : Catalog) (now : Stamp) (job : Task) (P : Conn → Prop)
    (m : Py σ α) : Prop :=
  Triple (fun w : World σ => P w.conn) m (fun _ w => WroteOnce c now job w.conn)
    (fun _ w => WroteOnce c now job w.conn)

theorem Rests.ended {conn : Conn} (h : Rests c now conn) : WroteOnce c now job conn :=
  ⟨c, .inl rfl, h⟩

/-- Before the write: a part of the flow that does not touch the database. -/
theorem Leaves.after {α β : Type} {m : Py σ α} {k : α → Py σ β}
    (hm : Keeps (fun w : World σ => Rests c now w.conn) m)
    (hk : ∀ a, Leaves c now job (Rests c now) (k a)) : Leaves c now job (Rests c now) (m >>= k) :=
  Triple.bind (hm.conseq (fun _ => id) (fun _ _ => id) fun _ _ => Rests.ended) hk

/-- The write: what comes after it does not touch the database. -/
theorem Leaves.write {α β : Type} {m : Py σ α} {k : α → Py σ β} (slot : Nat)
    {r : α → Catalog → Prop} (hr : ∀ a c', r a c' → Ends c now job slot (.ok c'))
    (hm : Triple (fun w : World σ => Rests c now w.conn) m
      (fun a w => ∃ c', r a c' ∧ Rests c' now w.conn) (fun _ w => Rests c now w.conn))
    (hk : ∀ a, Keeps (fun w : World σ => WroteOnce c now job w.conn) (k a)) :
    Leaves c now job (Rests c now) (m >>= k) :=
  Triple.bind (hm.conseq (fun _ => id)
    (fun a _ ⟨c', h, hc⟩ => ⟨c', .inr ⟨slot, hr a c' h⟩, hc⟩) fun _ _ => Rests.ended) hk

/-- `log_event`, `commit` and what follows. -/
theorem Leaves.log {β : Type} {k : Py σ β} (slot : Nat) {kind : EventKind} {discId s : Option Nat}
    {detail : Option String}
    (hr : ∀ c', c.log kind discId s detail now = .ok c' → Ends c now job slot (.ok c'))
    (hk : Keeps (fun w : World σ => WroteOnce c now job w.conn) k) :
    Leaves c now job (Rests c now)
      (do logEvent kind discId s detail; commit; k) := by
  refine Triple.bind ((logEvent_sees _ _ _ _).conseq (fun _ => id) (fun _ _ => id) ?_) fun _ =>
    Triple.of_exists fun c' => Triple.of_fact fun hl => ?_
  · rintro _ w ⟨exc, _, _, h⟩
    exact Rests.ended h
  · refine Triple.bind (commit_sees.conseq (fun _ => id) (fun _ _ h => ?_) fun _ _ => False.elim)
      fun _ => hk
    exact ⟨c', .inr ⟨slot, hr c' hl⟩, h⟩

variable [Outside σ]

/-- The parts of a flow that do not touch the database, as long as nothing has been written. -/
theorem rests_kept : FlowKept (fun _ _ => True) (fun w : World σ => Rests c now w.conn) :=
  flowKept_conn (Rests c now)

theorem ended_kept : FlowKept (fun _ _ => True) (fun w : World σ => WroteOnce c now job w.conn) :=
  flowKept_conn (WroteOnce c now job)

theorem runReset_leaves : Leaves c now .reset (Rests c now) (runReset (σ := σ)) := by
  have h : FlowKept (fun _ _ => True) (fun w : World σ => Rests c now w.conn) := rests_kept
  refine Leaves.after (h.setPhase _ _ _) fun _ => ?_
  refine Leaves.after (h.reset (fun _ _ _ => trivial) trivial _) fun _ => ?_
  refine Leaves.log home (fun c' hl => ?_) (ended_kept.succeed _ _)
  exact hl ▸ .reset

theorem ejectNotTaken_leaves (discId s slot : Nat) :
    Leaves c now (.eject discId s) (Rests c now) (ejectNotTaken (σ := σ) discId slot) := by
  have h : FlowKept (fun _ _ => True) (fun w : World σ => Rests c now w.conn) := rests_kept
  have he : FlowKept (fun _ _ => True) (fun w : World σ => WroteOnce c now (.eject discId s) w.conn) :=
    ended_kept
  refine Leaves.after (h.setPhase _ _ _) fun _ => Leaves.after (FlowKept.mark h.trace _) fun _ => ?_
  -- only a `retract` that raised has the failure written by its handler
  refine Triple.bind (M := fun acked w =>
    if acked.isSome then Rests c now w.conn else WroteOnce c now (.eject discId s) w.conn) ?_ ?_
  · refine Triple.attempt (E := fun _ w => Rests c now w.conn) ?_ (fun exc => ?_)
      fun _ => Rests.ended
    · exact Triple.bind (h.retract trivial trivial _) fun acked => Triple.pure fun _ => id
    · refine Triple.ite (fun _ => ?_) fun _ => Triple.raise fun _ => Rests.ended
      refine Triple.bind (M := fun _ w => WroteOnce c now (.eject discId s) w.conn) ?_ fun _ =>
        Triple.pure fun _ => id
      refine Leaves.after (FlowKept.mark h.trace _) fun _ => ?_
      refine Leaves.log slot (fun c' hl => ?_) (he.fail _ _)
      exact hl ▸ .notRetracted exc
  · intro acked
    cases acked with
    | none => exact Triple.pure fun _ => id
    | some acked =>
      refine Leaves.after (FlowKept.mark h.trace _) fun _ => ?_
      refine Leaves.after (h.park trivial trivial _) fun _ => ?_
      refine Leaves.log slot (fun c' hl => ?_) (he.fail _ _)
      exact hl ▸ .retracted

theorem runEject_leaves (discId s : Nat) :
    Leaves c now (.eject discId s) (Rests c now) (runEject (σ := σ) discId) := by
  have h : FlowKept (fun _ _ => True) (fun w : World σ => Rests c now w.conn) := rests_kept
  have he : FlowKept (fun _ _ => True) (fun w : World σ => WroteOnce c now (.eject discId s) w.conn) :=
    ended_kept
  have hpark : Keeps (fun w : World σ => Rests c now w.conn) (park (σ := σ) .none) :=
    h.park trivial trivial _
  refine Leaves.after (getDisc_rests _) fun disc => ?_
  cases disc with
  | none => exact (h.fail _ _).conseq (fun _ => id) (fun _ _ => Rests.ended) fun _ _ => Rests.ended
  | some disc =>
    refine Leaves.after (h.setPhase _ _ _) fun _ => Leaves.after (FlowKept.mark h.trace _) fun _ => ?_
    refine Leaves.after (h.moveTo trivial trivial trivial _) fun _ => ?_
    refine Leaves.after (h.discInBay trivial) fun inBay => Triple.ite (fun _ => ?_) fun _ => ?_
    · refine Leaves.after (h.setPhase _ _ _) fun _ => Leaves.after (FlowKept.mark h.trace _) fun _ => ?_
      refine Leaves.after (h.waitState trivial _ _ _) fun taken => Triple.ite (fun _ => ?_) fun _ => ?_
      · refine Leaves.after (h.setPhase _ _ _) fun _ => Leaves.after (FlowKept.mark h.trace _) fun _ => ?_
        refine Leaves.after hpark fun _ => Leaves.write disc.slot (fun _ c' hm => ?_)
          (rests_of_refused (markOut_rests discId _ _)) fun _ => he.succeed _ _
        exact hm ▸ .taken
      · exact ejectNotTaken_leaves discId s disc.slot
    · refine Leaves.after (h.setPhase _ _ _) fun _ => Leaves.after (FlowKept.mark h.trace _) fun _ => ?_
      refine Leaves.after hpark fun _ => Leaves.log disc.slot (fun c' hl => ?_) (he.fail _ _)
      exact hl ▸ .nothingOut

/-- `run_add` when its write is `m`. -/
theorem runAdd_leaves (slot : Nat) (discId : Option Nat)
    (hflow : job.flow = .add slot ∨ ∃ d, job.flow = .return_ slot d) (hid : job.discId = discId)
    (hwrite : Leaves c now job (Rests c now) (writeRow (σ := σ) slot discId))
    (hread : ∀ id, Keeps (fun w : World σ => WroteOnce c now job w.conn) (getDisc id)) :
    Leaves c now job (Rests c now) (runAdd (σ := σ) slot discId) := by
  have h : FlowKept (fun _ _ => True) (fun w : World σ => Rests c now w.conn) := rests_kept
  have he : FlowKept (fun _ _ => True) (fun w : World σ => WroteOnce c now job w.conn) :=
    ended_kept
  have hpark : Keeps (fun w : World σ => Rests c now w.conn) (park (σ := σ) .none) :=
    h.park trivial trivial _
  refine Leaves.after (h.setPhase _ _ _) fun _ => Leaves.after (FlowKept.mark h.trace _) fun _ => ?_
  refine Leaves.after (h.moveTo trivial trivial trivial _) fun _ => ?_
  refine Leaves.after (h.setPhase _ _ _) fun _ => Leaves.after (FlowKept.mark h.trace _) fun _ => ?_
  refine Leaves.after (h.waitState trivial _ _ _) fun inserted => Triple.ite (fun _ => ?_) fun _ => ?_
  · refine Leaves.after ?_ fun _ => ?_
    · refine (h.setPhase _ _ _).bind fun _ => (FlowKept.mark h.trace _).bind fun _ => ?_
      refine (h.ingest trivial trivial _).bind fun _ => (FlowKept.mark h.trace _).bind fun _ => ?_
      exact (h.setPhase _ _ _).bind fun _ => hpark
    · refine Triple.bind (M := fun _ w => WroteOnce c now job w.conn) ?_ fun id => ?_
      · exact Triple.bind hwrite fun id =>
          Keeps.bind (keeps_observe fun w hw => hw) fun _ => Keeps.pure id
      · refine Keeps.bind (he.watch trivial) fun _ => ?_
        cases discId with
        | none => exact he.succeed _ _
        | some _ => exact (hread _).bind fun disc => he.succeed _ _
  · refine Leaves.after (h.setPhase _ _ _) fun _ => Leaves.after hpark fun _ => ?_
    refine Leaves.log slot (fun c' hl => ?_) (he.fail _ _)
    rw [← hl, ← hid]
    exact .timedOut hflow

/-- **A flow writes once**: on a database that works, it leaves the catalogue as it was or has
made one of the writes it may end with, whatever the unit does and however the flow ends. -/
theorem flow_leaves (job : Task) : Leaves c now job (Rests c now) (job.flow.run (σ := σ)) := by
  have hread : ∀ (job : Task) (id : Nat),
      Keeps (fun w : World σ => WroteOnce c now job w.conn) (getDisc id) := by
    intro job discId
    refine Triple.of_exists fun c' => Triple.of_fact fun hc => ?_
    exact (getDisc_rests discId).conseq (fun _ => id) (fun _ _ h => ⟨c', hc, h⟩) fun _ _ h => ⟨c', hc, h⟩
  cases job with
  | reset => exact runReset_leaves
  | eject discId slot => exact runEject_leaves discId slot
  | return_ discId slot =>
    refine runAdd_leaves slot (some discId) (.inr ⟨discId, rfl⟩) rfl ?_ (hread _)
    refine Leaves.write slot (fun _ c' hm => ?_)
      (rests_of_refused (markStored_rests discId _ _)) fun _ => Keeps.pure _
    exact hm ▸ .stored
  | add slot =>
    refine runAdd_leaves slot.val none (.inl rfl) rfl ?_ (hread _)
    refine (createDisc_rests _ _ _).conseq (fun _ => id) ?_ ?_
    · rintro id w ⟨c', hr, h⟩
      refine ⟨c', .inr ⟨slot.val, ?_⟩, h⟩
      have hcreated : Ends c now (.add slot) slot.val _ := .created
      rw [hr] at hcreated
      exact hcreated
    · rintro _ w ⟨exc, _, _, h⟩
      exact Rests.ended h

end Flows

end StakkaWeb
