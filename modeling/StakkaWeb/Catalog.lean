import StakkaWeb.Outside

/-!
# The catalogue

The two tables of `schema.sql` and the statements `catalog/db.py` runs on them. A statement is a
pure function of the tables that answers new tables or the error SQLite raises, so `UNIQUE`,
`CHECK` and the foreign key are the conditions under which `insertDisc` and `insertEvent` fail.
Transactions are `World`'s: a statement here is one `conn.execute`.

An id is chosen as SQLite does for an `INTEGER PRIMARY KEY` without `AUTOINCREMENT`.
-/

set_option autoImplicit false

namespace StakkaWeb

/-- `disc.status`; the schema's `CHECK` admits no other value. -/
inductive Status where
  | stored
  | out
  deriving DecidableEq, Repr

/-- `event.kind`. -/
inductive EventKind where
  | added
  | ejected
  | returned
  | retracted
  | reset
  | manual
  | removed
  | failed
  deriving DecidableEq, Repr

/-- A timestamp as `_now()` makes it; `recent_events` orders by it. -/
abbrev Stamp := Nat

/-- A row of `disc`. -/
structure Disc where
  id : Nat
  slot : Nat
  title : String
  subtitle : Option String
  category : Option String
  platform : Option String
  notes : Option String
  artPath : Option String
  status : Status
  checkedOutAt : Option Stamp
  createdAt : Stamp
  updatedAt : Stamp
  deriving DecidableEq, Repr

/-- A row of `event`. -/
structure Event where
  id : Nat
  discId : Option Nat
  slot : Option Nat
  kind : EventKind
  detail : Option String
  at_ : Stamp
  deriving DecidableEq, Repr

structure Catalog where
  discs : List Disc
  events : List Event
  deriving DecidableEq, Repr

/-- What the keys and the checks of `disc` keep true of its rows. -/
structure Catalog.Keyed (c : Catalog) : Prop where
  ids : (c.discs.map Disc.id).Nodup
  slots : (c.discs.map Disc.slot).Nodup
  range : ∀ d ∈ c.discs, slotMin ≤ d.slot ∧ d.slot ≤ slotMax

instance (c : Catalog) : Decidable c.Keyed :=
  decidable_of_iff ((c.discs.map Disc.id).Nodup ∧ (c.discs.map Disc.slot).Nodup ∧
      ∀ d ∈ c.discs, slotMin ≤ d.slot ∧ d.slot ≤ slotMax)
    ⟨fun ⟨h, h', h''⟩ => ⟨h, h', h''⟩, fun ⟨h, h', h''⟩ => ⟨h, h', h''⟩⟩

namespace Catalog

/-- The id SQLite gives the next row of a table that holds the ids `ids`. -/
def nextId (ids : List Nat) : Nat := ids.foldr max 0 + 1

/-! ## Reads -/

def getDisc (c : Catalog) (discId : Nat) : Option Disc := c.discs.find? (·.id == discId)

def getBySlot (c : Catalog) (slot : Nat) : Option Disc := c.discs.find? (·.slot == slot)

/-! ## Statements -/

/-- `INSERT INTO disc (...)`, with the new row's id. -/
def insertDisc (c : Catalog) (slot : Nat) (title : String)
    (subtitle category platform notes artPath : Option String) (now : Stamp) :
    Except Exc (Nat × Catalog) :=
  if (c.getBySlot slot).isSome then
    .error (.integrityError "UNIQUE constraint failed: disc.slot")
  else if slot < slotMin ∨ slotMax < slot then
    .error (.integrityError "CHECK constraint failed: slot BETWEEN 1 AND 100")
  else
    let id := nextId (c.discs.map Disc.id)
    let row : Disc := { id, slot, title, subtitle, category, platform, notes, artPath,
                        status := .stored, checkedOutAt := none, createdAt := now,
                        updatedAt := now }
    .ok (id, { c with discs := c.discs ++ [row] })

/-- `INSERT INTO event (...)`: `disc_id` is null or names a row. -/
def insertEvent (c : Catalog) (discId slot : Option Nat) (kind : EventKind)
    (detail : Option String) (now : Stamp) : Except Exc (Unit × Catalog) :=
  if discId.any fun d => (c.getDisc d).isNone then
    .error (.integrityError "FOREIGN KEY constraint failed")
  else
    let row : Event := { id := nextId (c.events.map Event.id), discId, slot, kind, detail,
                         at_ := now }
    .ok ((), { c with events := c.events ++ [row] })

/-- The one way in which the log refuses a row. -/
theorem insertEvent_error {c : Catalog} {discId slot : Option Nat} {kind : EventKind}
    {detail : Option String} {now : Stamp} {e : Exc}
    (h : c.insertEvent discId slot kind detail now = .error e) : e.isSqliteError = true := by
  unfold insertEvent at h
  split at h <;> cases h
  rfl

/-- `UPDATE disc SET ... WHERE id = ?`; a missing row is no error. -/
def updateWhere (c : Catalog) (discId : Nat) (f : Disc → Disc) : Catalog :=
  { c with discs := c.discs.map fun d => if d.id = discId then f d else d }

/-- `DELETE FROM disc WHERE id = ?`, with the events' `ON DELETE SET NULL`. -/
def deleteWhere (c : Catalog) (discId : Nat) : Catalog :=
  { discs := c.discs.filter fun d => d.id ≠ discId
    events := c.events.map fun e => if e.discId = some discId then { e with discId := none } else e }

/-! ## Transactions -/

/-- `log_event` in a transaction of its own. -/
def log (c : Catalog) (kind : EventKind) (discId slot : Option Nat) (detail : Option String)
    (now : Stamp) : Except Exc Catalog :=
  (c.insertEvent discId slot kind detail now).map Prod.snd

/-- `create_disc(conn, slot, title, kind=kind)` with the other columns' defaults. -/
def createDisc (c : Catalog) (slot : Nat) (title : String) (kind : EventKind) (now : Stamp) :
    Except Exc (Nat × Catalog) :=
  match c.insertDisc slot title none none none none none now with
  | .error e => .error e
  | .ok (id, c) => (c.log kind (some id) (some slot) (some title) now).map fun c => (id, c)

/-- What `mark_out` and `mark_stored` share. -/
def setStatus (c : Catalog) (discId : Nat) (f : Disc → Disc) (kind : EventKind)
    (detail : Option String) (now : Stamp) : Except Exc Catalog :=
  let c := c.updateWhere discId f
  c.log kind (some discId) ((c.getDisc discId).map Disc.slot) detail now

def markOut (c : Catalog) (discId : Nat) (kind : EventKind) (detail : Option String)
    (now : Stamp) : Except Exc Catalog :=
  c.setStatus discId
    (fun d => { d with status := .out, checkedOutAt := some now, updatedAt := now }) kind detail now

def markStored (c : Catalog) (discId : Nat) (kind : EventKind) (detail : Option String)
    (now : Stamp) : Except Exc Catalog :=
  c.setStatus discId
    (fun d => { d with status := .stored, checkedOutAt := none, updatedAt := now }) kind detail now

/-- The transaction of `delete_disc`, given the row it has read. -/
def deleteDisc (c : Catalog) (discId : Nat) (row : Option Disc) (now : Stamp) : Except Exc Catalog :=
  (c.deleteWhere discId).log .removed none (row.map Disc.slot) (row.map Disc.title) now

end Catalog

end StakkaWeb
