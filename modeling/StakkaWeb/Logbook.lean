import Mathlib.Logic.Function.Basic
import StakkaWeb.Lib.Runs
import StakkaWeb.Upkeep

/-!
# The log of the catalogue (`recent_events` in `catalog/db.py`, `device_page` in `app.py`)

The table `event` is the audit trail: "if the catalogue and the carousel disagree, this is the record
of what was believed to happen". `recentEvents` is the part of it that the device page shows.

A `Shelf` is what it is the record of: the status of what stands in each slot. `hear` is what one
entry, read on its own, makes of a shelf.
-/

set_option autoImplicit false

namespace StakkaWeb

open Lib

/-! ## The page -/

/-- `ORDER BY e.at DESC, e.id DESC` -/
def Event.newer (e f : Event) : Bool :=
  decide (f.at_ < e.at_) || decide (f.at_ = e.at_) && decide (f.id ≤ e.id)

/-- `recent_events(conn, limit)`: rows of the log, each with the title that the join finds. -/
def Catalog.recentEvents (c : Catalog) (limit : Nat) : List (Event × Option String) :=
  ((c.events.mergeSort Event.newer).take limit).map fun e =>
    (e, (e.discId.bind c.getDisc).map Disc.title)

/-! ## What the log is for -/

/-- The status of the disc in each slot, where there is one. -/
abbrev Shelf := Nat → Option Status

def Catalog.shelf (c : Catalog) : Shelf := fun slot => (c.getBySlot slot).map Disc.status

/-- What an entry tells when nothing but its own text is left: a deletion takes its `disc_id`, and the
time is not looked at. -/
structure LogLine where
  kind : EventKind
  slot : Option Nat
  detail : Option String
  deriving DecidableEq, Repr

def Event.line (e : Event) : LogLine := ⟨e.kind, e.slot, e.detail⟩

/-- A correction and a disc that was put in by hand are both `manual`: one is of a slot that was
taken, the other of a slot that was free. -/
def Shelf.hear (s : Shelf) (t : LogLine) : Shelf :=
  match t.slot with
  | none => s
  | some slot =>
    match t.kind with
    | .added | .returned => Function.update s slot (some .stored)
    | .ejected => Function.update s slot (some .out)
    | .removed => Function.update s slot none
    | .manual =>
      if s slot ≠ none ∧ t.detail = some "marked as taken out" then
        Function.update s slot (some .out)
      else Function.update s slot (some .stored)
    | .retracted | .reset | .failed => s

/-! ## The histories it is the record of -/

/-- How the application calls its operations, on a file that holds `c`. A deletion has read the row
that it deletes; where another request has deleted that row before, no other disc has got its id or its
slot since. -/
def Upkeep.Called (c : Catalog) : Upkeep → Prop
  | markOut _ kind detail =>
    (kind, detail) = (.ejected, none) ∨ (kind, detail) = (.manual, some "marked as taken out")
  | markStored _ kind detail =>
    (kind, detail) = (.returned, none) ∨ (kind, detail) = (.manual, some "marked as in its slot")
  | delete discId row =>
    (∀ disc ∈ c.getDisc discId, row.map Disc.slot = some disc.slot) ∧
      (c.getDisc discId = none → ∀ r ∈ row, c.getBySlot r.slot = none)
  | log kind _ _ _ => kind = .reset ∨ kind = .retracted ∨ kind = .failed
  | _ => True

instance (c : Catalog) : (op : Upkeep) → Decidable (op.Called c)
  | .load _ | .manual _ _ | .edit _ _ | .init => .isTrue trivial
  | .markOut _ _ _ | .markStored _ _ _ | .log _ _ _ _ => inferInstanceAs (Decidable (_ ∨ _))
  | .delete _ _ => inferInstanceAs (Decidable (_ ∧ _))

/-- So does every entry of the history. -/
def Called (c : Catalog) (entries : List Entry) : Prop :=
  ∀ x ∈ Runs.trail (fun e c => Entry.apply c e) entries c, x.2.op.Called x.1

instance (c : Catalog) (entries : List Entry) : Decidable (Called c entries) :=
  inferInstanceAs (Decidable (∀ x ∈ Runs.trail (fun e c => Entry.apply c e) entries c,
    x.2.op.Called x.1))

/-! ## The order of the log -/

/-- The log of `c` is in the order of its row numbers, its times never go back, and an entry that
still names a disc names the slot of that disc. -/
structure Catalog.Logged (c : Catalog) : Prop where
  ids : c.events.Pairwise (·.id < ·.id)
  times : c.events.Pairwise (·.at_ ≤ ·.at_)
  slots : ∀ e ∈ c.events, ∀ d ∈ e.discId, ∀ disc ∈ c.getDisc d, e.slot = some disc.slot

/-- `log_event` names the slot of the disc that it names, if the disc is there. -/
def Upkeep.Placed (c : Catalog) : Upkeep → Prop
  | log _ discId slot _ => ∀ d ∈ discId, ∀ disc ∈ c.getDisc d, slot = some disc.slot
  | _ => True

instance (c : Catalog) : (op : Upkeep) → Decidable (op.Placed c)
  | .load _ | .manual _ _ | .edit _ _ | .markOut _ _ _ | .markStored _ _ _ | .delete _ _ | .init =>
    .isTrue trivial
  | .log _ discId slot _ =>
    inferInstanceAs (Decidable (∀ d ∈ discId, ∀ disc ∈ c.getDisc d, slot = some disc.slot))

/-- So it does throughout the history. -/
def Placed (c : Catalog) (entries : List Entry) : Prop :=
  ∀ x ∈ Runs.trail (fun e c => Entry.apply c e) entries c, x.2.op.Placed x.1

instance (c : Catalog) (entries : List Entry) : Decidable (Placed c entries) :=
  inferInstanceAs (Decidable (∀ x ∈ Runs.trail (fun e c => Entry.apply c e) entries c,
    x.2.op.Placed x.1))

/-- The clock of a history is never behind the log. -/
def Forward (c : Catalog) (entries : List Entry) : Prop :=
  ∀ x ∈ Runs.trail (fun e c => Entry.apply c e) entries c, ∀ e ∈ x.1.events, e.at_ ≤ x.2.now

instance (c : Catalog) (entries : List Entry) : Decidable (Forward c entries) :=
  inferInstanceAs (Decidable (∀ x ∈ Runs.trail (fun e c => Entry.apply c e) entries c,
    ∀ e ∈ x.1.events, @LE.le Nat _ e.at_ x.2.now))

end StakkaWeb
