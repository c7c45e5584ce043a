import StakkaWeb.Requests
import StakkaWeb.Taxonomy

/-!
# The upkeep of the catalogue (`catalog/db.py`, `disc_edit` and `reconcile_manual` in `app.py`)

The database file from `init` on. What `init` makes of an older file, the statements that only the
pages run, and every operation that writes, as one transaction of a connection of its own whose
statements fail as the environment says. So a history is a list of operations, and an interleaving of
several connections' transactions is one.
-/

set_option autoImplicit false

namespace StakkaWeb

open Lib

/-! ## The edit form -/

/-- What `update_disc` is given: a key that is absent is `none`. -/
structure Fields where
  title : Option String := none
  subtitle : Option (Option String) := none
  category : Option (Option String) := none
  platform : Option (Option String) := none
  notes : Option (Option String) := none
  artPath : Option (Option String) := none
  slot : Option Nat := none
  deriving DecidableEq, Repr

namespace Fields

/-- The row after `SET ...`. -/
def set (fields : Fields) (now : Stamp) (d : Disc) : Disc :=
  { d with
    title := fields.title.getD d.title
    subtitle := fields.subtitle.getD d.subtitle
    category := fields.category.getD d.category
    platform := fields.platform.getD d.platform
    notes := fields.notes.getD d.notes
    artPath := fields.artPath.getD d.artPath
    slot := fields.slot.getD d.slot
    updatedAt := now }

end Fields

/-- `(value or "").strip() or None` -/
def formText (value : Option String) : Option String :=
  let text := Taxonomy.strip (value.getD "")
  if text = "" then none else some text

/-- The edit form as it is posted, and what `art.ingest` makes of its file and its URL: an
`ArtError`, or the new stem if there is one. -/
structure EditForm where
  title : Option String
  subtitle : Option String
  category : Option String
  platform : Option String
  notes : Option String
  art : Except String (Option String)

/-- `fields` in `disc_edit`, unless the form is shown again with an error. -/
def EditForm.fields (form : EditForm) : Option Fields :=
  match formText form.title with
  | none => none
  | some title =>
    match form.art with
    | .error _ => none
    | .ok stem =>
      let category := Taxonomy.category form.category
      some
        { title := some title
          subtitle := some (formText form.subtitle)
          category := some category
          platform := some (Taxonomy.platform category form.platform)
          notes := some (formText form.notes)
          artPath := match stem with
            | some stem => if stem = "" then none else some (some stem)
            | none => none }

/-! ## Statements -/

namespace Catalog

/-- `UPDATE disc SET ... WHERE id = ?` with these columns. -/
def updateDisc (c : Catalog) (discId : Nat) (fields : Fields) (now : Stamp) :
    Except Exc (Unit × Catalog) :=
  match c.getDisc discId, fields.slot with
  | some _, some slot =>
    if c.discs.any fun d => d.id ≠ discId && d.slot = slot then
      .error (.integrityError "UNIQUE constraint failed: disc.slot")
    else if slot < slotMin ∨ slotMax < slot then
      .error (.integrityError "CHECK constraint failed: slot BETWEEN 1 AND 100")
    else .ok ((), c.updateWhere discId (fields.set now))
  | _, _ => .ok ((), c.updateWhere discId (fields.set now))

end Catalog

section Operations

variable {σ : Type}

/-- `update_disc(conn, disc_id, **fields)` -/
def updateDisc (discId : Nat) (fields : Fields) : Py σ Unit :=
  if fields = {} then pure ()
  else do
    let now ← Prog.gets fun w => w.conn.now
    transaction (execute fun c => c.updateDisc discId fields now)

/-- The transaction of `delete_disc`, with the row that was read before it. -/
def deleteRow (discId : Nat) (row : Option Disc) : Py σ Unit :=
  transaction do
    execute fun c => .ok ((), c.deleteWhere discId)
    logEvent .removed none (row.map Disc.slot) (row.map Disc.title)

/-- The write of `reconcile_manual`, unless the title is missing. -/
def reconcileManual (slot : FormSlot) (title : Option String) : Py σ Unit :=
  match formText title with
  | none => pure ()
  | some title => do
    let _ ← createDisc slot.val title .manual
    pure ()

/-- The write of `disc_edit`, unless the form is shown again. -/
def discEdit (discId : Nat) (form : EditForm) : Py σ Unit :=
  match form.fields with
  | none => pure ()
  | some fields => updateDisc discId fields

end Operations

/-! ## An older database -/

/-- A row of `disc` before `category` and `platform`. A file without the column `media_type` has
`none` in it. -/
structure LegacyDisc where
  id : Nat
  slot : Nat
  title : String
  subtitle : Option String
  mediaType : Option String
  notes : Option String
  artPath : Option String
  status : Status
  checkedOutAt : Option Stamp
  createdAt : Stamp
  updatedAt : Stamp
  deriving DecidableEq, Repr

/-- The tables of an older file, with the keys SQLite has kept: an id is a primary key, and an event
names a row or none. -/
structure Legacy where
  discs : List LegacyDisc
  events : List Event
  ids : (discs.map LegacyDisc.id).Nodup
  refs : ∀ e ∈ events, ∀ discId, e.discId = some discId → discId ∈ discs.map LegacyDisc.id

/-- The two new columns, with `Software` where the medium was `Data`. -/
def LegacyDisc.migrate (d : LegacyDisc) : Disc where
  id := d.id
  slot := d.slot
  title := d.title
  subtitle := d.subtitle
  category := if d.mediaType = some "Data" then some "Software" else none
  platform := none
  notes := d.notes
  artPath := d.artPath
  status := d.status
  checkedOutAt := d.checkedOutAt
  createdAt := d.createdAt
  updatedAt := d.updatedAt

/-- What `init` may find. -/
inductive Database where
  /-- No table `disc`. -/
  | fresh
  | legacy (old : Legacy)
  /-- The column `category` is there. -/
  | current (c : Catalog)

/-- `init`: `_migrate`, then `schema.sql`, which makes the tables that are not there. -/
def Database.init : Database → Catalog
  | fresh => ⟨[], []⟩
  | legacy old => ⟨old.discs.map LegacyDisc.migrate, old.events⟩
  | current c => c

/-! ## Histories -/

/-- The operations that write, each with what it is called with. -/
inductive Upkeep where
  /-- `create_disc` in `run_add` -/
  | load (slot : FormSlot)
  /-- `create_disc` in `reconcile_manual`, with the title of the form -/
  | manual (slot : FormSlot) (title : Option String)
  /-- `update_disc` in `disc_edit` -/
  | edit (discId : Nat) (form : EditForm)
  | markOut (discId : Nat) (kind : EventKind) (detail : Option String)
  | markStored (discId : Nat) (kind : EventKind) (detail : Option String)
  /-- `delete_disc`, when `row` is what it has read -/
  | delete (discId : Nat) (row : Option Disc)
  /-- `log_event` and `commit` -/
  | log (kind : EventKind) (discId slot : Option Nat) (detail : Option String)
  /-- `init` -/
  | init

/-- The statements of an operation. -/
def Upkeep.run {σ : Type} : Upkeep → Py σ Unit
  | load slot => do
    let _ ← writeRow slot.val none
    pure ()
  | manual slot title => reconcileManual slot title
  | edit discId form => discEdit discId form
  | markOut discId kind detail => StakkaWeb.markOut discId kind detail
  | markStored discId kind detail => StakkaWeb.markStored discId kind detail
  | delete discId row => deleteRow discId row
  | log kind discId slot detail => do
    logEvent kind discId slot detail
    commit
  | init => Prog.modify fun w =>
    { w with conn := { w.conn with committed := (Database.current w.conn.committed).init } }

/-- One operation of a history: when it is done, and which of its statements fail. -/
structure Entry where
  op : Upkeep
  now : Stamp
  faults : Nat → Bool

/-- The connection that does it, on a file that holds `c`. -/
def Entry.conn (e : Entry) (c : Catalog) : Conn where
  isOpen := true
  committed := c
  view := c
  faults := e.faults
  executed := 0
  now := e.now

/-- What the file holds when the connection is closed. -/
def Entry.apply (c : Catalog) (e : Entry) : Catalog :=
  (e.op.run 0 { World.boot () [] with conn := e.conn c }).2.conn.committed

/-- What the file holds after a history. -/
def history (c : Catalog) (entries : List Entry) : Catalog := entries.foldl Entry.apply c

end StakkaWeb
