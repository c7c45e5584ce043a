import StakkaWeb.Upkeep

/-!
# The writes of the catalogue as calls (`create_disc`, `mark_out`, `mark_stored`, `delete_disc`)

One call of each on a connection of its own, with the statements that fail among those it runs, what
it answers and what the file holds afterwards. A history is a list of calls, the ids it has given
out are what its calls of `create_disc` have answered.
-/

set_option autoImplicit false

namespace StakkaWeb

open Lib

/-- The arguments of `create_disc` that have defaults. -/
structure Details where
  subtitle : Option String := none
  category : Option String := none
  platform : Option String := none
  notes : Option String := none
  artPath : Option String := none
  deriving DecidableEq, Repr

section Operations

variable {σ : Type}

/-- `create_disc` with every column. -/
def createDiscOf (slot : Nat) (title : String) (details : Details) (kind : EventKind) :
    Py σ Nat := do
  let now ← Prog.gets fun w => w.conn.now
  transaction do
    let id ← execute fun c => c.insertDisc slot title details.subtitle details.category
      details.platform details.notes details.artPath now
    logEvent kind (some id) (some slot) (some title)
    pure id

/-- The calls that give a slot and a title alone. -/
theorem createDiscOf_default (slot : Nat) (title : String) (kind : EventKind) :
    createDiscOf (σ := σ) slot title {} kind = createDisc slot title kind := rfl

/-- `delete_disc(conn, disc_id)`: the row is read before the transaction. -/
def deleteDisc (discId : Nat) : Py σ Unit := do
  let row ← getDisc discId
  deleteRow discId row

end Operations

inductive Write where
  | create (slot : Nat) (title : String) (details : Details) (kind : EventKind)
  | markOut (discId : Nat) (kind : EventKind) (detail : Option String)
  | markStored (discId : Nat) (kind : EventKind) (detail : Option String)
  | delete (discId : Nat)
  deriving DecidableEq, Repr

/-- The statements of a write, with the id that `create_disc` answers. -/
def Write.run {σ : Type} : Write → Py σ (Option Nat)
  | create slot title details kind => do
    let id ← createDiscOf slot title details kind
    pure (some id)
  | markOut discId kind detail => do
    StakkaWeb.markOut discId kind detail
    pure none
  | markStored discId kind detail => do
    StakkaWeb.markStored discId kind detail
    pure none
  | delete discId => do
    deleteDisc discId
    pure none

/-- One call: when it is made, and which of its statements fail. -/
structure WriteCall where
  write : Write
  now : Stamp
  faults : Nat → Bool

namespace WriteCall

/-- The connection that runs it, on a file that holds `c`. -/
def conn (call : WriteCall) (c : Catalog) : Conn where
  isOpen := true
  committed := c
  view := c
  faults := call.faults
  executed := 0
  now := call.now

/-- A write has no loop, so it needs no turns. -/
def outcome (call : WriteCall) (c : Catalog) : Outcome Exc (Option Nat) × World Unit :=
  call.write.run 0 { World.boot () [] with conn := call.conn c }

/-- What the file holds afterwards. -/
def apply (call : WriteCall) (c : Catalog) : Catalog := (call.outcome c).2.conn.committed

/-- The id that the call has answered. -/
def made (call : WriteCall) (c : Catalog) : Option Nat :=
  match (call.outcome c).1 with
  | .ok id => id
  | _ => none

end WriteCall

/-! ## One write, one unit -/

/-- The rows with one of them changed to `new`, or without it. -/
def Replaced (old new : List Disc) (row : Disc) (now : Option Disc) : Prop :=
  ∃ before after, old = before ++ row :: after ∧ new = before ++ now.toList ++ after

/-- The write has made its one change of a row, and one event that names the slot of the row. -/
def Write.Committed (c c' : Catalog) : Write → Prop
  | create slot _ _ _ => ∃ row event, row.slot = slot ∧ row.status = .stored ∧
      row.id ∉ c.discs.map Disc.id ∧ event.slot = some row.slot ∧
      c' = ⟨c.discs ++ [row], c.events ++ [event]⟩
  | markOut discId _ _ => ∃ row event, ∃ now : Stamp, row.id = discId ∧ event.slot = some row.slot ∧
      Replaced c.discs c'.discs row
        (some { row with status := .out, checkedOutAt := some now, updatedAt := now }) ∧
      c'.events = c.events ++ [event]
  | markStored discId _ _ => ∃ row event, ∃ now : Stamp, row.id = discId ∧
      event.slot = some row.slot ∧
      Replaced c.discs c'.discs row
        (some { row with status := .stored, checkedOutAt := none, updatedAt := now }) ∧
      c'.events = c.events ++ [event]
  | delete discId => ∃ row event, row.id = discId ∧ event.slot = some row.slot ∧
      Replaced c.discs c'.discs row none ∧
      c'.events = (c.deleteWhere discId).events ++ [event]

/-- A deletion finds its row, or one of its statements fails: the read, the `DELETE`, the `INSERT`
or the commit. -/
def WriteCall.FindsRow (call : WriteCall) (c : Catalog) : Prop :=
  ∀ discId, call.write = .delete discId →
    c.getDisc discId ≠ none ∨ ∃ k < 4, call.faults k = true

/-! ## Histories -/

/-- The file after these calls. -/
def after : Catalog → List WriteCall → Catalog
  | c, [] => c
  | c, call :: calls => after (call.apply c) calls

/-- The ids that the calls have answered, each with the slot and the title it was made for. -/
def issued : Catalog → List WriteCall → List (Nat × Nat × String)
  | _, [] => []
  | c, call :: calls =>
    (match call.write, call.made c with
      | .create slot title _ _, some id => [(id, slot, title)]
      | _, _ => []) ++ issued (call.apply c) calls

/-- The call makes a disc: its slot is a free one of the carousel and no statement fails. -/
def WriteCall.Makes (call : WriteCall) (c : Catalog) : Prop :=
  ∃ slot title details kind, call.write = .create slot title details kind ∧
    c.getBySlot slot = none ∧ slotMin ≤ slot ∧ slot ≤ slotMax ∧ ∀ k < 3, call.faults k = false

/-- Whenever a disc is made, the disc made last is still there. -/
def LastStays : Catalog → Option Nat → List WriteCall → Prop
  | _, _, [] => True
  | c, last, call :: calls =>
    (call.Makes c → ∀ id ∈ last, c.getDisc id ≠ none) ∧
      LastStays (call.apply c) (call.made c <|> last) calls

/-- From an empty catalogue on, no id is answered twice; so an id that was kept names, at any later
time, the disc it was made for or no disc. -/
structure Unmistaken (calls : List WriteCall) : Prop where
  once : ((issued ⟨[], []⟩ calls).map Prod.fst).Nodup
  names : ∀ earlier later, calls = earlier ++ later → ∀ kept ∈ issued ⟨[], []⟩ earlier, ∀ row,
    (after ⟨[], []⟩ earlier).getDisc kept.1 = some row → (row.slot, row.title) = kept.2

end StakkaWeb
