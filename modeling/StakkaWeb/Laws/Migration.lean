import StakkaWeb.Lib.Triple
import StakkaWeb.Migration

/-!
# What a start that was cut leaves to the next

Whether the migration has run is told by one column, which the first of its statements adds and
commits by itself. So a start that dies right after it leaves a file that no later start can open, and
one that dies before the commit a file whose discs are never classified.
-/

set_option autoImplicit false

namespace StakkaWeb

open Lib Lib.Prog

/-! ## One statement -/

/-- No transaction is open, the file meets `P`, and a process that is not to die has not been told
to. -/
structure Session.Meets (immortal : Prop) (P : File → Prop) (s : Session) : Prop where
  closed : s.pending = none
  file : P s.file
  lives : immortal → s.left = none

section Statement

variable {immortal : Prop} {P P' : File → Prop}

/-- A process that ends early has left the file as it was, and was to die. -/
def Cut (immortal : Prop) (P : File → Prop) (_ : Option Stop) (s : Session) : Prop :=
  s.Meets immortal P ∧ ¬ immortal

theorem Cut.mono (h : ∀ f, P f → P' f) {e : Option Stop} {s : Session} (hs : Cut immortal P e s) :
    Cut immortal P' e s :=
  ⟨⟨hs.1.closed, h _ hs.1.file, hs.1.lives⟩, hs.2⟩

/-- A process that dies where no transaction is open. -/
theorem cut_now {e : Option Stop} {file : File} (hP : P file)
    (hlives : immortal → (some 0 : Option Nat) = none) : Cut immortal P e ⟨file, none, some 0⟩ :=
  ⟨⟨rfl, hP, hlives⟩, fun hi => nomatch hlives hi⟩

/-- A statement that the file does not refuse. -/
theorem statement_meets {α : Type} {f : File → Except Stop (α × File)} {Q : α → File → Prop}
    (h : ∀ file, P file → ∃ a file', f file = .ok (a, file') ∧ Q a file') :
    Triple (Session.Meets immortal P) (statement false f) (fun a => Session.Meets immortal (Q a))
      (Cut immortal P) := by
  rintro n ⟨file, _, left⟩ ⟨rfl, hP, hlives⟩
  obtain ⟨a, file', hf, hQ⟩ := h file hP
  have hgoes {left' : Option Nat} (hl : left' ≠ some 0) :
      statement false f n ⟨file, none, left'⟩ = (.ok a, ⟨file', none, left'.map (· - 1)⟩) := by
    unfold statement Prog.call
    rcases left' with _ | _ | k
    · simp [hf]
    · exact absurd rfl hl
    · simp [hf]
  by_cases hl : left = some 0
  · subst hl
    exact cut_now hP hlives
  · rw [hgoes hl]
    exact ⟨rfl, hQ, fun hi => congrArg (Option.map (· - 1)) (hlives hi)⟩

theorem commitSql_meets :
    Triple (Session.Meets immortal P) commitSql (fun _ => Session.Meets immortal P)
      (Cut immortal P) := by
  rintro n ⟨file, _, left⟩ ⟨rfl, hP, hlives⟩
  rcases left with _ | _ | k
  · exact ⟨rfl, hP, fun _ => rfl⟩
  · exact cut_now hP hlives
  · exact ⟨rfl, hP, fun hi => nomatch hlives hi⟩

theorem rollbackSql_meets :
    Triple (Session.Meets immortal P) rollbackSql (fun _ => Session.Meets immortal P)
      (Cut immortal P) := by
  rintro n ⟨file, _, left⟩ ⟨rfl, hP, hlives⟩
  rcases left with _ | _ | k
  · exact ⟨rfl, hP, fun _ => rfl⟩
  · exact cut_now hP hlives
  · exact ⟨rfl, hP, fun hi => nomatch hlives hi⟩

theorem withConn_meets {block : Sql Unit}
    (h : Triple (Session.Meets immortal P) block (fun _ => Session.Meets immortal P')
      (Cut immortal P)) (hP : ∀ f, P' f → P f) :
    Triple (Session.Meets immortal P) (withConn block) (fun _ => Session.Meets immortal P')
      (Cut immortal P) := by
  refine Triple.attempt (E := Cut immortal P) ?_ (fun e => ?_) fun _ => id
  · exact h.bind fun _ => Triple.bind
      (commitSql_meets.conseq (fun _ h => h) (fun _ _ h => h) fun _ _ => Cut.mono hP) fun _ =>
        Triple.pure fun _ h => h
  · refine Triple.bind (M := fun _ => Cut immortal P (some e)) ?_ fun _ => Triple.raise fun _ h => h
    intro n s hs
    have := rollbackSql_meets n s hs.1
    split at this
    · exact ⟨this, hs.2⟩
    · exact this
    · exact this

theorem pragma_meets : Triple (Session.Meets immortal P) pragma
    (fun _ => Session.Meets immortal P) (Cut immortal P) :=
  statement_meets fun _ h => ⟨_, _, rfl, h⟩

end Statement

/-! ## A file with the new columns -/

/-- The file has this table, with every current column, these events and these indexes. -/
structure File.Ready (t : Table) (events : List Event) (names : List String) (f : File) : Prop where
  disc : f.disc = some t
  columns : ∀ column ∈ currentColumns, column ∈ t.columns
  event : f.event = some events
  indexes : ∀ name ∈ names, name ∈ f.indexes

section Ready

variable {immortal : Prop} {t : Table} {events : List Event} {names : List String}

theorem File.Ready.fewer {f : File} (h : f.Ready t events names) : f.Ready t events [] :=
  ⟨h.disc, h.columns, h.event, nofun⟩

theorem Cut.fewer {e : Option Stop} {s : Session} (h : Cut immortal (File.Ready t events names) e s) :
    Cut immortal (File.Ready t events []) e s :=
  h.mono fun _ => File.Ready.fewer

/-- A file with one more index. -/
theorem File.Ready.index {f : File} (h : f.Ready t events names) (name : String) :
    File.Ready t events (name :: names) { f with indexes := name :: f.indexes } where
  disc := h.disc
  columns := h.columns
  event := h.event
  indexes := by
    intro n hn
    rcases List.mem_cons.mp hn with rfl | hn
    · exact List.mem_cons_self
    · exact List.mem_cons_of_mem _ (h.indexes n hn)

theorem File.Ready.indexed {f : File} (h : f.Ready t events names) {name : String}
    (hname : name ∈ f.indexes) : f.Ready t events (name :: names) :=
  ⟨h.disc, h.columns, h.event, fun _ hn => (List.mem_cons.mp hn).elim (fun he => he ▸ hname)
    (h.indexes _)⟩

theorem createDiscTable_ready :
    Triple (Session.Meets immortal (File.Ready t events names)) createDiscTable
      (fun _ => Session.Meets immortal (File.Ready t events names))
      (Cut immortal (File.Ready t events names)) := by
  refine statement_meets fun f h => ⟨(), f, ?_, h⟩
  rw [h.disc]

theorem createEventTable_ready :
    Triple (Session.Meets immortal (File.Ready t events names)) createEventTable
      (fun _ => Session.Meets immortal (File.Ready t events names))
      (Cut immortal (File.Ready t events names)) := by
  refine statement_meets fun f h => ⟨(), f, ?_, h⟩
  rw [h.event]

theorem createDiscIndex_ready (name : String) {columns : List String}
    (hc : ∀ column ∈ columns, column ∈ currentColumns) :
    Triple (Session.Meets immortal (File.Ready t events names)) (createDiscIndex name columns)
      (fun _ => Session.Meets immortal (File.Ready t events (name :: names)))
      (Cut immortal (File.Ready t events names)) := by
  refine statement_meets fun f h => ?_
  by_cases hname : name ∈ f.indexes
  · exact ⟨(), f, if_pos hname, h.indexed hname⟩
  · refine ⟨(), _, (if_neg hname).trans (if_pos fun column hcol => ?_), h.index name⟩
    rw [h.disc]
    exact h.columns column (hc column hcol)

theorem createEventIndex_ready :
    Triple (Session.Meets immortal (File.Ready t events names)) createEventIndex
      (fun _ => Session.Meets immortal (File.Ready t events ("event_at_idx" :: names)))
      (Cut immortal (File.Ready t events names)) := by
  refine statement_meets fun f h => ?_
  by_cases hname : "event_at_idx" ∈ f.indexes
  · exact ⟨(), f, if_pos hname, h.indexed hname⟩
  · refine ⟨(), _, (if_neg hname).trans (if_pos ?_), h.index "event_at_idx"⟩
    rw [h.event]
    rfl

/-- The names of `schema.sql`, last one first. -/
def indexNames : List String :=
  ["event_at_idx", "disc_kind_idx", "disc_title_idx", "disc_status_idx"]

theorem schema_ready :
    Triple (Session.Meets immortal (File.Ready t events [])) schema
      (fun _ => Session.Meets immortal (File.Ready t events indexNames))
      (Cut immortal (File.Ready t events [])) := by
  refine Triple.bind commitSql_meets fun _ => Triple.bind pragma_meets fun _ =>
    Triple.bind pragma_meets fun _ => Triple.bind createDiscTable_ready fun _ => ?_
  refine Triple.bind (createDiscIndex_ready _ (by decide)) fun _ => ?_
  refine Triple.bind ((createDiscIndex_ready _ (by decide)).conseq (fun _ h => h) (fun _ _ h => h)
    fun _ _ => Cut.fewer) fun _ => ?_
  refine Triple.bind ((createDiscIndex_ready _ (by decide)).conseq (fun _ h => h) (fun _ _ h => h)
    fun _ _ => Cut.fewer) fun _ => ?_
  refine Triple.bind (createEventTable_ready.conseq (fun _ h => h) (fun _ _ h => h)
    fun _ _ => Cut.fewer) fun _ => ?_
  exact createEventIndex_ready.conseq (fun _ h => h) (fun _ _ h => h) fun _ _ => Cut.fewer

/-- Where `category` is there, nothing is migrated. -/
theorem migrate_returns {P : File → Prop} (drops : Bool)
    (h : ∀ f, P f → ∃ t, f.disc = some t ∧ "category" ∈ t.columns) :
    Triple (Session.Meets immortal P) (migrate drops) (fun _ => Session.Meets immortal P)
      (Cut immortal P) := by
  have htable : Triple (Session.Meets immortal P) tableInfo
      (fun columns s => "category" ∈ columns ∧ s.Meets immortal P) (Cut immortal P) := by
    refine (statement_meets (Q := fun columns f => "category" ∈ columns ∧ P f) fun f hf => ?_).post
      fun _ s hs => ⟨hs.file.1, hs.closed, hs.file.2, hs.lives⟩
    obtain ⟨t, ht, hcol⟩ := h f hf
    refine ⟨_, f, rfl, ?_, hf⟩
    rw [ht]
    exact hcol
  refine htable.bind fun columns => Triple.of_fact fun hmem => ?_
  rw [if_pos (.inr hmem)]
  exact Triple.pure fun _ h => h

theorem init_ready (drops : Bool) :
    Triple (Session.Meets immortal (File.Ready t events [])) (init drops)
      (fun _ => Session.Meets immortal (File.Ready t events indexNames))
      (Cut immortal (File.Ready t events [])) := by
  refine Triple.bind pragma_meets fun _ => Triple.bind (migrate_returns drops fun f h =>
    ⟨t, h.disc, h.columns "category" (by decide)⟩) fun _ => ?_
  exact withConn_meets schema_ready fun _ => File.Ready.fewer

/-- A start on such a file keeps the table and the events, and one that is not killed succeeds. -/
theorem Start.run_ready (s : Start) {f : File} (h : f.Ready t events []) :
    (s.run f).2.Ready t events [] ∧
      (s.kill = none → (s.run f).1 = .ok () ∧ (s.run f).2.Ready t events indexNames) := by
  have hready : Session.Meets (s.kill = none) (File.Ready t events []) ⟨f, none, s.kill⟩ :=
    ⟨rfl, h, id⟩
  have hrun := init_ready s.drops 0 ⟨f, none, s.kill⟩ hready
  unfold Start.run
  split at hrun <;> rename_i hr <;> dsimp only <;> rw [hr]
  · exact ⟨hrun.file.fewer, fun _ => ⟨rfl, hrun.file⟩⟩
  · exact ⟨hrun.1.file, fun hi => absurd hi hrun.2⟩
  · exact ⟨hrun.1.file, fun hi => absurd hi hrun.2⟩

theorem File.after_ready {f : File} (h : f.Ready t events []) (starts : List Start) :
    (f.after starts).Ready t events [] := by
  induction starts generalizing f with
  | nil => exact h
  | cons s starts ih => exact ih (s.run_ready h).1

end Ready

/-! ## A further start -/

section Still

variable {f : File}

theorem statement_still {α : Type} {g : File → Except Stop (α × File)} {a : α}
    (h : g f = .ok (a, f)) :
    Triple (Session.Meets True (· = f)) (statement false g)
      (fun b s => b = a ∧ s.Meets True (· = f)) (Cut True (· = f)) := by
  refine (statement_meets (Q := fun b file => b = a ∧ file = f) ?_).post
    fun b s hs => ⟨hs.file.1, hs.closed, hs.file.2, hs.lives⟩
  rintro _ rfl
  exact ⟨a, _, h, rfl, rfl⟩

/-- Where everything is there, `schema.sql` makes nothing. -/
theorem schema_still {t : Table} {events : List Event} (h : f.Ready t events indexNames) :
    Triple (Session.Meets True (· = f)) schema (fun _ => Session.Meets True (· = f))
      (Cut True (· = f)) := by
  have hindex : ∀ name ∈ indexNames, ∀ columns, Triple (Session.Meets True (· = f))
      (createDiscIndex name columns) (fun _ => Session.Meets True (· = f)) (Cut True (· = f)) :=
    fun name hname columns =>
      (statement_still (if_pos (h.indexes name hname))).post fun _ _ hs => hs.2
  refine Triple.bind commitSql_meets fun _ => Triple.bind pragma_meets fun _ =>
    Triple.bind pragma_meets fun _ => ?_
  refine Triple.bind ((statement_still (a := ()) ?_).post fun _ _ hs => hs.2) fun _ => ?_
  · rw [h.disc]
  refine Triple.bind (hindex _ (by decide) _) fun _ => Triple.bind (hindex _ (by decide) _) fun _ =>
    Triple.bind (hindex _ (by decide) _) fun _ => ?_
  refine Triple.bind ((statement_still (a := ()) ?_).post fun _ _ hs => hs.2) fun _ => ?_
  · rw [h.event]
  exact (statement_still (if_pos (h.indexes _ (by decide)))).post fun _ _ hs => hs.2

theorem Start.run_still {t : Table} {events : List Event} (h : f.Ready t events indexNames)
    (drops : Bool) : Start.run ⟨drops, none⟩ f = (.ok (), f) := by
  have hinit : Triple (Session.Meets True (· = f)) (init drops)
      (fun _ => Session.Meets True (· = f)) (Cut True (· = f)) := by
    refine Triple.bind pragma_meets fun _ => Triple.bind (migrate_returns drops ?_) fun _ =>
      withConn_meets (schema_still h) fun _ => id
    rintro _ rfl
    exact ⟨t, h.disc, h.columns "category" (by decide)⟩
  have hrun := hinit 0 ⟨f, none, none⟩ ⟨rfl, rfl, fun _ => rfl⟩
  unfold Start.run
  split at hrun <;> rename_i hr <;> dsimp only <;> rw [hr]
  · exact Prod.ext rfl hrun.file
  · exact absurd trivial hrun.2
  · exact absurd trivial hrun.2

end Still

/-! ## A file with one of the two columns -/

/-- `category` is there and `platform` is not. -/
structure File.Half (f : File) : Prop where
  disc : ∃ t, f.disc = some t ∧ "category" ∈ t.columns ∧ "platform" ∉ t.columns
  index : "disc_kind_idx" ∉ f.indexes

section Half

/-- Between two statements outside a transaction. -/
def HalfWay (s : Session) : Prop := s.pending = none ∧ s.file.Half

theorem statement_half {α : Type} {f : File → Except Stop (α × File)} {Q : α → Session → Prop}
    (h : ∀ file a file', file.Half → f file = .ok (a, file') →
      file'.Half ∧ ∀ left, Q a ⟨file', none, left⟩) :
    Triple HalfWay (statement false f) (fun a s => HalfWay s ∧ Q a s) (fun _ => HalfWay) := by
  rintro n ⟨file, _, left⟩ ⟨rfl, hP⟩
  unfold statement Prog.call
  rcases left with _ | _ | k
  · dsimp only
    rcases hf : f file with e | ⟨a, file'⟩
    · simp only [Option.getD_none, hf]
      exact ⟨rfl, hP⟩
    · simp only [Option.getD_none, hf]
      exact ⟨⟨rfl, (h file a file' hP hf).1⟩, (h file a file' hP hf).2 _⟩
  · exact ⟨rfl, hP⟩
  · dsimp only
    rcases hf : f file with e | ⟨a, file'⟩
    · simp only [Option.getD_none, hf]
      exact ⟨rfl, hP⟩
    · simp only [Option.getD_none, hf]
      exact ⟨⟨rfl, (h file a file' hP hf).1⟩, (h file a file' hP hf).2 _⟩

theorem statement_halfWay {α : Type} {f : File → Except Stop (α × File)}
    (h : ∀ file a file', file.Half → f file = .ok (a, file') → file'.Half) :
    Keeps HalfWay (statement false f) :=
  (statement_half (Q := fun _ _ => True) fun file a file' hP hf =>
    ⟨h file a file' hP hf, fun _ => trivial⟩).post fun _ _ hs => hs.1

theorem commitSql_halfWay : Keeps HalfWay commitSql := by
  refine Keeps.call fun s hs => ?_
  obtain ⟨file, _, left⟩ := s
  obtain ⟨rfl, hP⟩ := hs
  rcases left with _ | _ | k <;> exact ⟨rfl, hP⟩

theorem rollbackSql_halfWay : Keeps HalfWay rollbackSql := by
  refine Keeps.call fun s hs => ?_
  obtain ⟨file, _, left⟩ := s
  obtain ⟨rfl, hP⟩ := hs
  rcases left with _ | _ | k <;> exact ⟨rfl, hP⟩

theorem pragma_halfWay : Keeps HalfWay pragma :=
  statement_halfWay fun _ _ _ hP hf => by cases hf; exact hP

theorem createDiscTable_halfWay : Keeps HalfWay createDiscTable := by
  refine statement_halfWay fun file _ file' hP hf => ?_
  obtain ⟨t, ht, -⟩ := hP.disc
  rw [ht] at hf
  cases hf
  exact hP

theorem createDiscIndex_halfWay {name : String} (hname : name ≠ "disc_kind_idx")
    (columns : List String) : Keeps HalfWay (createDiscIndex name columns) := by
  refine statement_halfWay fun file _ file' hP hf => ?_
  split at hf
  · cases hf
    exact hP
  · split at hf <;> cases hf
    exact ⟨hP.disc, fun hmem => (List.mem_cons.mp hmem).elim (fun he => hname he.symm) hP.index⟩

/-- The index on the missing column cannot be made. -/
theorem createKindIndex_fails :
    Triple HalfWay (createDiscIndex "disc_kind_idx" ["category", "platform"]) (fun _ _ => False)
      (fun _ => HalfWay) := by
  refine (statement_half (Q := fun _ _ => False) fun file _ file' hP hf => ?_).post
    fun _ _ hs => hs.2
  obtain ⟨t, ht, -, hplatform⟩ := hP.disc
  rw [if_neg hP.index, ht, if_neg fun hall => hplatform (hall "platform" (by decide))] at hf
  cases hf

theorem migrate_halfWay (drops : Bool) : Keeps HalfWay (migrate drops) := by
  refine Triple.bind (M := fun columns s => "category" ∈ columns ∧ HalfWay s)
    ((statement_half (Q := fun columns _ => "category" ∈ columns) fun file a file' hP hf => ?_).post
      fun _ _ hs => ⟨hs.2, hs.1⟩) fun columns => Triple.of_fact fun hmem => ?_
  · cases hf
    obtain ⟨t, ht, hcol, -⟩ := hP.disc
    refine ⟨hP, fun _ => ?_⟩
    rw [ht]
    exact hcol
  · rw [if_pos (.inr hmem)]
    exact Keeps.pure _

/-- No start on such a file succeeds, and the file stays such a file. -/
theorem init_fails (drops : Bool) :
    Triple HalfWay (init drops) (fun _ _ => False) (fun _ => HalfWay) := by
  have hschema : Triple HalfWay schema (fun _ _ => False) (fun _ => HalfWay) := by
    refine Triple.bind commitSql_halfWay fun _ => Triple.bind pragma_halfWay fun _ =>
      Triple.bind pragma_halfWay fun _ => Triple.bind createDiscTable_halfWay fun _ => ?_
    refine Triple.bind (createDiscIndex_halfWay (by decide) _) fun _ => ?_
    refine Triple.bind (createDiscIndex_halfWay (by decide) _) fun _ => ?_
    exact Triple.bind createKindIndex_fails fun _ _ _ h => h.elim
  refine Triple.bind pragma_halfWay fun _ => Triple.bind (migrate_halfWay drops) fun _ =>
    Triple.attempt (E := fun _ => HalfWay) (Triple.bind hschema fun _ _ _ h => h.elim) (fun e => ?_)
      fun _ h => h
  exact Triple.bind rollbackSql_halfWay fun _ => Triple.raise fun _ h => h

theorem Start.run_half (s : Start) {f : File} (h : f.Half) :
    (s.run f).1 ≠ .ok () ∧ (s.run f).2.Half := by
  have hrun := init_fails s.drops 0 ⟨f, none, s.kill⟩ ⟨rfl, h⟩
  unfold Start.run
  split at hrun <;> rename_i hr <;> dsimp only <;> rw [hr]
  · exact hrun.elim
  · exact ⟨nofun, hrun.2⟩
  · exact ⟨nofun, hrun.2⟩

theorem File.after_half {f : File} (h : f.Half) (starts : List Start) : (f.after starts).Half := by
  induction starts generalizing f with
  | nil => exact h
  | cons s starts ih => exact ih (s.run_half h).2

end Half

/-! ## An older file -/

section Older

variable (old : Older) (drops : Bool)

/-- The older table with these columns added. -/
def File.widened (columns : List String) : File :=
  { File.older old with
    disc := some ⟨olderColumns ++ columns, old.discs.map fun d => ⟨d, none, none⟩⟩ }

def migratedColumns : Bool → List String
  | true => (olderColumns ++ ["category", "platform"]).filter (· ≠ "media_type")
  | false => olderColumns ++ ["category", "platform"]

/-- The table that the migration makes. -/
def migratedTable : Bool → Table
  | true => ⟨migratedColumns true,
      ((old.discs.map fun d => ⟨d, none, none⟩).map Cells.classify).map Cells.dropMediaType⟩
  | false => ⟨migratedColumns false, (old.discs.map fun d => ⟨d, none, none⟩).map Cells.classify⟩

def File.migrated : File := { File.older old with disc := some (migratedTable old drops) }

/-- Before the first `ALTER TABLE` nothing has been written. -/
theorem run_before {k : Nat} (hk : k ≤ 2) :
    (Start.run ⟨drops, some k⟩ (File.older old)).2 = File.older old := by
  rcases k with _ | _ | _ | k
  · rfl
  · rfl
  · rfl
  · omega

theorem run_between : (Start.run ⟨drops, some 3⟩ (File.older old)).2 =
    File.widened old ["category"] := rfl

/-- The transaction that the `UPDATE` has opened is lost. -/
theorem run_uncommitted {k : Nat} (hlow : 4 ≤ k) (hhigh : k ≤ 6) :
    (Start.run ⟨drops, some k⟩ (File.older old)).2 =
      File.widened old ["category", "platform"] := by
  obtain rfl | rfl | rfl : k = 4 ∨ k = 5 ∨ k = 6 := by omega
  · rfl
  · rfl
  · cases drops <;> rfl

/-- A process that does not die before the commit has migrated the file. -/
theorem migrate_committed (n : Nat) {left left' : Option Nat}
    (h : left = none ∧ left' = none ∨ ∃ m, left = some (m + 7) ∧ left' = some m) :
    (pragma >>= fun _ => migrate drops) n ⟨File.older old, none, left⟩ =
      (.ok (), ⟨File.migrated old drops, none, left'⟩) := by
  obtain ⟨rfl, rfl⟩ | ⟨m, rfl, rfl⟩ := h
  · cases drops <;> rfl
  · cases drops <;> rfl

/-- The rows that the migration makes are those of the current schema. -/
theorem migratedTable_rows :
    (migratedTable old drops).rows.map Cells.disc = old.discs.map LegacyDisc.migrate := by
  cases drops with
  | true =>
    unfold migratedTable
    rw [List.map_map, List.map_map, List.map_map]
    refine List.map_congr_left fun d _ => ?_
    unfold Function.comp Cells.classify LegacyDisc.migrate
    split <;> rfl
  | false =>
    unfold migratedTable
    rw [List.map_map, List.map_map]
    refine List.map_congr_left fun d _ => ?_
    unfold Function.comp Cells.classify LegacyDisc.migrate
    split <;> rfl

theorem migratedTable_columns : (∀ column ∈ currentColumns, column ∈ (migratedTable old drops).columns) ∧
    ∀ column ∈ (migratedTable old drops).columns, column ∈ currentColumns ∨ column = "media_type" := by
  have hcolumns : ∀ drops, (∀ column ∈ currentColumns, column ∈ migratedColumns drops) ∧
      ∀ column ∈ migratedColumns drops, column ∈ currentColumns ∨ column = "media_type" := by
    decide
  cases drops
  · exact hcolumns false
  · exact hcolumns true

theorem migrated_ready :
    (File.migrated old drops).Ready (migratedTable old drops) old.events [] :=
  ⟨rfl, (migratedTable_columns old drops).1, rfl, nofun⟩

/-- The unclassified rows are those of the current schema when there was nothing to classify. -/
theorem widened_rows :
    (old.discs.map fun d => (⟨d, none, none⟩ : Cells)).map Cells.disc =
        old.discs.map LegacyDisc.migrate ↔
      ∀ d ∈ old.discs, d.mediaType ≠ some "Data" := by
  rw [List.map_map, List.map_inj_left]
  refine forall₂_congr fun d _ => ?_
  rw [Function.comp_apply]
  constructor
  · intro h hdata
    have := congrArg Disc.category h
    simp [Cells.disc, LegacyDisc.migrate, hdata] at this
  · intro h
    unfold LegacyDisc.migrate
    rw [if_neg h]
    rfl

end Older

/-- A file with the new columns is migrated by any start that is not killed, when its rows are. -/
theorem File.Ready.survives {old : Older} {t : Table} {f : File} (h : f.Ready t old.events [])
    (hcolumns : ∀ column ∈ t.columns, column ∈ currentColumns ∨ column = "media_type")
    (starts : List Start) (drops : Bool) :
    (∃ f', Start.run ⟨drops, none⟩ (f.after starts) = (.ok (), f') ∧ f'.Migrated old) ↔
      t.rows.map Cells.disc = old.discs.map LegacyDisc.migrate := by
  obtain ⟨hok, hready⟩ := (Start.run_ready ⟨drops, none⟩ (f.after_ready h starts)).2 rfl
  constructor
  · rintro ⟨f', hrun, hmigrated⟩
    rw [hrun] at hready
    obtain ⟨t', ht', -, -, hrows⟩ := hmigrated.table
    cases hready.disc.symm.trans ht'
    exact hrows
  · intro hrows
    refine ⟨_, Prod.ext hok rfl, ⟨t, hready.disc, hready.columns, hcolumns, hrows⟩, hready.event, ?_,
      Start.run_still hready⟩
    intro name hname
    refine hready.indexes name ?_
    revert name
    decide

theorem run_migrated (old : Older) (s : Start)
    (h : s.kill = none ∨ ∃ m, s.kill = some (m + 7)) :
    (s.run (File.older old)).2.Ready (migratedTable old s.drops) old.events [] ∧
      (s.kill = none → (s.run (File.older old)).1 = .ok () ∧
        (s.run (File.older old)).2.Ready (migratedTable old s.drops) old.events indexNames) := by
  have hpart : ∃ left, (s.kill = none → left = none) ∧
      (pragma >>= fun _ => migrate s.drops) 0 ⟨File.older old, none, s.kill⟩ =
        (.ok (), ⟨File.migrated old s.drops, none, left⟩) := by
    rcases h with h | ⟨m, h⟩
    · exact ⟨none, fun _ => rfl, migrate_committed old s.drops 0 (.inl ⟨h, rfl⟩)⟩
    · exact ⟨some m, fun hn => (nomatch h.symm.trans hn),
        migrate_committed old s.drops 0 (.inr ⟨m, h, rfl⟩)⟩
  obtain ⟨left, hleft, hmigrate⟩ := hpart
  have hinit : init s.drops 0 ⟨File.older old, none, s.kill⟩ =
      withConn schema 0 ⟨File.migrated old s.drops, none, left⟩ := by
    have hassoc : init s.drops =
        (pragma >>= fun _ => migrate s.drops) >>= fun _ => withConn schema :=
      (bind_assoc _ _ _).symm
    rw [hassoc, bind_of_ok hmigrate]
  have hready : Session.Meets (s.kill = none)
      (File.Ready (migratedTable old s.drops) old.events []) ⟨File.migrated old s.drops, none, left⟩ :=
    ⟨rfl, migrated_ready old s.drops, hleft⟩
  have hrun := withConn_meets schema_ready (fun _ => File.Ready.fewer) 0 _ hready
  unfold Start.run
  dsimp only
  rw [hinit]
  split at hrun <;> rename_i hr <;> rw [hr]
  · exact ⟨hrun.file.fewer, fun _ => ⟨rfl, hrun.file⟩⟩
  · exact ⟨hrun.1.file, fun hi => absurd hi hrun.2⟩
  · exact ⟨hrun.1.file, fun hi => absurd hi hrun.2⟩

/-- **The migration survives its interruptions exactly when none falls into it**: of the starts
that are killed, the first to get past the first `ALTER TABLE` must get past the commit as well, or
past the second `ALTER TABLE` when there is no disc to classify. -/
theorem migration_survives (old : Older) (starts : List Start) (drops : Bool) :
    Survives old starts drops ↔ Spared old starts := by
  unfold Survives
  have finishes {s : Start} (rest : List Start)
      (h : s.kill = none ∨ ∃ m, s.kill = some (m + 7)) :
      ∃ f, Start.run ⟨drops, none⟩ ((s.run (File.older old)).2.after rest) = (.ok (), f) ∧
        f.Migrated old :=
    ((run_migrated old s h).1.survives (migratedTable_columns old s.drops).2 rest drops).mpr
      (migratedTable_rows old s.drops)
  induction starts with
  | nil =>
    obtain ⟨hok, hready⟩ := (run_migrated old ⟨drops, none⟩ (.inl rfl)).2 rfl
    refine iff_of_true ⟨_, Prod.ext hok rfl, ?_⟩ trivial
    have hmigrated := (hready.fewer.survives (migratedTable_columns old drops).2 [] drops).mpr
      (migratedTable_rows old drops)
    obtain ⟨f, hrun, hf⟩ := hmigrated
    cases (Start.run_still hready drops).symm.trans hrun
    exact hf
  | cons s starts ih =>
    rcases s with ⟨cutDrops, _ | k⟩
    · exact iff_of_true (finishes starts (.inl rfl)) trivial
    · unfold Spared
      dsimp only
      by_cases hbefore : k ≤ 2
      · rw [if_pos hbefore]
        unfold File.after at ih ⊢
        rw [List.foldl_cons, run_before old cutDrops hbefore]
        exact ih
      · rw [if_neg hbefore]
        rcases Nat.lt_or_ge k 7 with hlt | hge
        · rcases Nat.lt_or_ge k 4 with hthree | hfour
          · obtain rfl : k = 3 := by omega
            refine iff_of_false ?_ (by omega)
            rintro ⟨f, hrun, -⟩
            -- `category` is there and `platform` is not
            have hcolumns : "category" ∈ olderColumns ++ ["category"] ∧
                "platform" ∉ olderColumns ++ ["category"] := by decide
            have hhalf : (File.widened old ["category"]).Half := ⟨⟨_, rfl, hcolumns⟩, old.kind⟩
            have hfails := (Start.run_half ⟨drops, none⟩ (File.after_half hhalf starts)).1
            unfold File.after at hrun hfails
            rw [List.foldl_cons, run_between] at hrun
            exact hfails (by rw [hrun])
          · have hcolumns : (∀ column ∈ currentColumns,
                  column ∈ olderColumns ++ ["category", "platform"]) ∧
                ∀ column ∈ olderColumns ++ ["category", "platform"],
                  column ∈ currentColumns ∨ column = "media_type" := by decide
            have hready : (File.widened old ["category", "platform"]).Ready
                ⟨olderColumns ++ ["category", "platform"], old.discs.map fun d => ⟨d, none, none⟩⟩
                old.events [] := ⟨rfl, hcolumns.1, rfl, nofun⟩
            have hsurvives := hready.survives hcolumns.2 starts drops
            rw [widened_rows] at hsurvives
            unfold File.after at hsurvives ⊢
            rw [List.foldl_cons, run_uncommitted old cutDrops hfour (by omega), hsurvives]
            exact ⟨fun h => .inr ⟨hfour, h⟩, fun h => h.elim (fun h7 => by omega) And.right⟩
        · obtain ⟨m, rfl⟩ := Nat.exists_eq_add_of_le' hge
          exact iff_of_true (finishes starts (.inr ⟨m, rfl⟩)) (.inl hge)

/-- An older file of one disc of data. -/
def dataDisc : Older where
  discs := [⟨1, 7, "Backup", none, some "Data", none, none, .stored, none, 0, 0⟩]
  events := []
  ids := by decide
  refs := nofun
  indexes := []
  kind := nofun

/-- Killed after the first `ALTER TABLE`, `init` never succeeds again. -/
theorem migration_survives_killed : ¬ Survives dataDisc [⟨true, some 3⟩] true := by
  rintro ⟨f, hrun, -⟩
  have hok : (Start.run ⟨true, none⟩ ((File.older dataDisc).after [⟨true, some 3⟩])).1 = .ok () := by
    rw [hrun]
  revert hok
  decide

end StakkaWeb
