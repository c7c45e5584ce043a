import StakkaWeb.Upkeep

/-!
# The start of the catalogue (`init` and `_migrate` in `catalog/db.py`, `schema.sql`)

`init` statement by statement, on a file that may be older, with the point at which the process dies.
Python's `sqlite3` opens a transaction only before an `INSERT`, `UPDATE`, `DELETE` or `REPLACE`:
outside one an `ALTER TABLE` or a `CREATE` is in the file at once, inside one it is lost with it.
-/

set_option autoImplicit false

namespace StakkaWeb

open Lib

/-! ## The file -/

/-- A row of `disc` in a file of either schema. A column that the table does not have is null. -/
structure Cells where
  legacy : LegacyDisc
  category : Option String
  platform : Option String
  deriving DecidableEq, Repr

/-- The columns of the current schema. -/
def Cells.disc (cells : Cells) : Disc where
  id := cells.legacy.id
  slot := cells.legacy.slot
  title := cells.legacy.title
  subtitle := cells.legacy.subtitle
  category := cells.category
  platform := cells.platform
  notes := cells.legacy.notes
  artPath := cells.legacy.artPath
  status := cells.legacy.status
  checkedOutAt := cells.legacy.checkedOutAt
  createdAt := cells.legacy.createdAt
  updatedAt := cells.legacy.updatedAt

/-- `category = 'Software'` in a row whose `media_type` is `'Data'`. -/
def Cells.classify (r : Cells) : Cells :=
  if r.legacy.mediaType = some "Data" then { r with category := some "Software" } else r

/-- The row without `media_type`. -/
def Cells.dropMediaType (r : Cells) : Cells :=
  { r with legacy := { r.legacy with mediaType := none } }

structure Table where
  columns : List String
  rows : List Cells
  deriving DecidableEq, Repr

/-- What the file holds: the tables that are there, and the names of the indexes. -/
structure File where
  disc : Option Table
  event : Option (List Event)
  indexes : List String
  deriving DecidableEq, Repr

/-- What ends `init` early. -/
inductive Stop where
  | killed
  /-- `sqlite3.OperationalError` -/
  | operationalError (msg : String)
  deriving DecidableEq, Repr

/-- A connection: the open transaction, if there is one, and after how many statements the process
dies, if it does. -/
structure Session where
  file : File
  pending : Option File
  left : Option Nat
  deriving DecidableEq, Repr

abbrev Sql (α : Type) := Prog Stop Session α

/-- One statement. Where it is one that opens a transaction, or one is open, the file is not written
before the commit. -/
def statement {α : Type} (opens : Bool) (f : File → Except Stop (α × File)) : Sql α :=
  Prog.call fun s => match s.left with
    | some 0 => (.error .killed, s)
    | left =>
      let s := { s with left := left.map (· - 1) }
      match f (s.pending.getD s.file) with
      | .error e => (.error e, s)
      | .ok (a, file) =>
        if opens || s.pending.isSome then (.ok a, { s with pending := some file })
        else (.ok a, { s with file })

/-- A statement that changes no table. -/
def pragma : Sql Unit := statement false fun f => .ok ((), f)

def commitSql : Sql Unit :=
  Prog.call fun s => match s.left with
    | some 0 => (.error .killed, s)
    | left => (.ok (), { file := s.pending.getD s.file, pending := none, left := left.map (· - 1) })

def rollbackSql : Sql Unit :=
  Prog.call fun s => match s.left with
    | some 0 => (.error .killed, s)
    | left => (.ok (), { s with pending := none, left := left.map (· - 1) })

/-- `with conn:` -/
def withConn {α : Type} (block : Sql α) : Sql α :=
  Prog.attempt (do let a ← block; commitSql; pure a) fun e => do rollbackSql; Prog.raise e

/-! ## Statements -/

/-- `PRAGMA table_info(disc)`: no columns where there is no table. -/
def tableInfo : Sql (List String) :=
  statement false fun f => .ok ((f.disc.map Table.columns).getD [], f)

/-- `ALTER TABLE disc ADD COLUMN name TEXT` -/
def addColumn (name : String) : Sql Unit :=
  statement false fun f => match f.disc with
    | none => .error (.operationalError "no such table: disc")
    | some t =>
      if name ∈ t.columns then .error (.operationalError ("duplicate column name: " ++ name))
      else .ok ((), { f with disc := some { t with columns := t.columns ++ [name] } })

/-- `UPDATE disc SET category = 'Software' WHERE media_type = 'Data'` -/
def classify : Sql Unit :=
  statement true fun f => match f.disc with
    | none => .error (.operationalError "no such table: disc")
    | some t =>
      if "category" ∈ t.columns ∧ "media_type" ∈ t.columns then
        .ok ((), { f with disc := some { t with rows := t.rows.map Cells.classify } })
      else .error (.operationalError "no such column")

/-- `ALTER TABLE disc DROP COLUMN media_type`, which SQLite may not know or refuse. -/
def dropMediaType (drops : Bool) : Sql Unit :=
  statement false fun f => match f.disc with
    | none => .error (.operationalError "no such table: disc")
    | some t =>
      if drops ∧ "media_type" ∈ t.columns then
        let columns := t.columns.filter (· ≠ "media_type")
        .ok ((), { f with disc := some ⟨columns, t.rows.map Cells.dropMediaType⟩ })
      else .error (.operationalError "near \"DROP\": syntax error")

/-- The columns of `disc` in `schema.sql`. -/
def currentColumns : List String :=
  ["id", "slot", "title", "subtitle", "category", "platform", "notes", "art_path", "status",
    "checked_out_at", "created_at", "updated_at"]

/-- `CREATE TABLE IF NOT EXISTS disc (...)` -/
def createDiscTable : Sql Unit :=
  statement false fun f => .ok ((), match f.disc with
    | none => { f with disc := some ⟨currentColumns, []⟩ }
    | some _ => f)

/-- `CREATE TABLE IF NOT EXISTS event (...)` -/
def createEventTable : Sql Unit :=
  statement false fun f => .ok ((), match f.event with
    | none => { f with event := some [] }
    | some _ => f)

/-- `CREATE INDEX IF NOT EXISTS name ON disc (columns)` -/
def createDiscIndex (name : String) (columns : List String) : Sql Unit :=
  statement false fun f =>
    if name ∈ f.indexes then .ok ((), f)
    else if ∀ column ∈ columns, column ∈ (f.disc.map Table.columns).getD [] then
      .ok ((), { f with indexes := name :: f.indexes })
    else .error (.operationalError "no such column")

/-- `CREATE INDEX IF NOT EXISTS event_at_idx ON event (at DESC)` -/
def createEventIndex : Sql Unit :=
  statement false fun f =>
    if "event_at_idx" ∈ f.indexes then .ok ((), f)
    else if f.event.isSome then .ok ((), { f with indexes := "event_at_idx" :: f.indexes })
    else .error (.operationalError "no such table: event")

/-! ## `init` -/

def migrate (drops : Bool) : Sql Unit := do
  let columns ← tableInfo
  if columns = [] ∨ "category" ∈ columns then pure ()
  else withConn do
    addColumn "category"
    addColumn "platform"
    if "media_type" ∈ columns then do
      classify
      Prog.attempt (dropMediaType drops) fun
        | .operationalError _ => pure ()
        | e => Prog.raise e
    else pure ()

/-- `conn.executescript(ddl)`: what is open is committed, and each statement by itself. -/
def schema : Sql Unit := do
  commitSql
  pragma  -- journal_mode
  pragma  -- foreign_keys
  createDiscTable
  createDiscIndex "disc_status_idx" ["status"]
  createDiscIndex "disc_title_idx" ["title"]
  createDiscIndex "disc_kind_idx" ["category", "platform"]
  createEventTable
  createEventIndex

def init (drops : Bool) : Sql Unit := do
  pragma  -- foreign_keys, in `connect`
  migrate drops
  withConn schema

/-- One start of the program: whether `DROP COLUMN` works there, and after how many statements the
process dies, if it does. -/
structure Start where
  drops : Bool
  kill : Option Nat
  deriving DecidableEq, Repr

/-- How `init` ends, and the file. -/
def Start.run (s : Start) (f : File) : Outcome Stop Unit × File :=
  let r := init s.drops 0 ⟨f, none, s.kill⟩
  (r.1, r.2.file)

/-- The file after these starts. -/
def File.after (f : File) (starts : List Start) : File := starts.foldl (fun f s => (s.run f).2) f

/-! ## An older file -/

/-- The columns of `disc` before the two new ones. -/
def olderColumns : List String :=
  ["id", "slot", "title", "subtitle", "media_type", "notes", "art_path", "status",
    "checked_out_at", "created_at", "updated_at"]

/-- A file of the older schema, whose indexes are on columns it has. -/
structure Older extends Legacy where
  indexes : List String
  kind : "disc_kind_idx" ∉ indexes

def File.older (old : Older) : File where
  disc := some ⟨olderColumns, old.discs.map fun d => ⟨d, none, none⟩⟩
  event := some old.events
  indexes := old.indexes

/-- The file has the current schema, give or take the dead column, with the rows of the older one
and their categories, and a further start changes nothing. -/
structure File.Migrated (old : Older) (f : File) : Prop where
  table : ∃ t, f.disc = some t ∧ (∀ column ∈ currentColumns, column ∈ t.columns) ∧
    (∀ column ∈ t.columns, column ∈ currentColumns ∨ column = "media_type") ∧
    t.rows.map Cells.disc = old.discs.map LegacyDisc.migrate
  event : f.event = some old.events
  indexes : ∀ name ∈ ["disc_status_idx", "disc_title_idx", "disc_kind_idx", "event_at_idx"],
    name ∈ f.indexes
  still : ∀ drops, Start.run ⟨drops, none⟩ f = (.ok (), f)

/-- Starts that are all killed, and then one that is not: it succeeds, and the file is migrated. -/
def Survives (old : Older) (starts : List Start) (drops : Bool) : Prop :=
  ∃ f, Start.run ⟨drops, none⟩ ((File.older old).after starts) = (.ok (), f) ∧ f.Migrated old

/-- The first start to be killed after the first `ALTER TABLE` is killed after the `COMMIT`, or after
the second `ALTER TABLE` with no disc to classify. -/
def Spared (old : Older) : List Start → Prop
  | [] => True
  | s :: starts =>
    match s.kill with
    | none => True
    | some k =>
      if k ≤ 2 then Spared old starts
      else 7 ≤ k ∨ 4 ≤ k ∧ ∀ d ∈ old.discs, d.mediaType ≠ some "Data"

end StakkaWeb
