import Mathlib.Algebra.Order.Ring.Int
import StakkaWeb.Listing
import StakkaWeb.Upkeep

/-!
# The integers of a request (`app.py`)

The handlers of the routes that take an integer from the path, the query string or the form, as far
as the statements they run: each statement with the integers it binds, and what the handler ends
with. What the statements answer is given (`Reads`): a row, if there is one, holds what SQLite can
hold. Everything else a statement binds is text.
-/

set_option autoImplicit false

namespace StakkaWeb

/-- An integer that `sqlite3` can bind: any other raises `OverflowError`. -/
def Bindable (n : Int) : Prop := -2 ^ 63 ≤ n ∧ n < 2 ^ 63

instance (n : Int) : Decidable (Bindable n) := inferInstanceAs (Decidable (_ ∧ _))

/-- An integer that SQLite answers. -/
structure SqlInt where
  val : Int
  bindable : Bindable val

inductive OverflowError where
  | tooLarge (n : Int)
  deriving DecidableEq, Repr

/-- How a request ends that is answered. -/
inductive Answer where
  | page
  | redirect
  | notFound
  deriving DecidableEq, Repr

/-- `sqlite3` on the integers among a statement's arguments. -/
def bind : List Int → Except OverflowError Unit
  | [] => pure ()
  | n :: args => if Bindable n then bind args else throw (.tooLarge n)

/-- What a handler reads of a row of `disc`. -/
structure Row where
  slot : SqlInt
  status : Status

/-- What one request finds: the answers of its statements, `job_using` and `submit`, and what
`art.ingest` makes of an upload. -/
structure Reads where
  /-- `db.get_disc` in the handler -/
  disc : Option Row
  /-- `get_disc` in `delete_disc`, `mark_out` and `mark_stored` -/
  again : Option Row
  /-- `db.get_by_slot` finds a row. -/
  taken : Bool
  /-- `job_using` finds a job. -/
  inUse : Bool
  /-- `cur.lastrowid` in `create_disc` -/
  lastrowid : SqlInt

namespace Route

/-- A request to one of the routes: the path's and the form's integers, and what the handler
branches on. -/
inductive Request where
  | index (page : Option Int) (list : Bool)
  | discPage (discId : Nat)
  /-- A `GET` has no form. -/
  | discEdit (discId : Nat) (form : Option EditForm)
  | discDelete (discId : Nat) (confirmed : Bool)
  | discEject (discId : Nat)
  | discReturn (discId : Nat)
  | discMarkOut (discId : Nat)
  | discMarkStored (discId : Nat)
  /-- A `GET` has no form. -/
  | add (slot : Option (Option Int))
  | reconcileManual (slot : Option Int) (title : Option String)

/-! ## The statements -/

section Statements

variable (db : Reads)

def getDisc (discId : Nat) : Except OverflowError (Option Row) := do
  bind [discId]
  pure db.disc

def getBySlot (slot : FormSlot) : Except OverflowError Bool := do
  bind [slot.val]
  pure db.taken

/-- The window of `list_discs`. -/
def listDiscs (page : Int) (perPage : Nat) : Except OverflowError Unit :=
  bind [perPage, (max page 1 - 1) * perPage]

/-- `log_event`; a disc or a slot that is `None` is bound as null. -/
def logEvent (discId slot : Option Int) : Except OverflowError Unit :=
  bind (discId.toList ++ slot.toList)

def createDisc (slot : FormSlot) : Except OverflowError Unit := do
  bind [slot.val]
  logEvent (some db.lastrowid.val) (some slot.val)

def updateDisc (discId : Nat) : Except OverflowError Unit := bind [discId]

/-- What `mark_out` and `mark_stored` share. -/
def setStatus (discId : Nat) : Except OverflowError Unit := do
  bind [discId]
  bind [discId]
  logEvent (some discId) (db.again.map (·.slot.val))

def deleteDisc (discId : Nat) : Except OverflowError Unit := do
  bind [discId]
  bind [discId]
  logEvent none (db.again.map (·.slot.val))

end Statements

/-! ## The handlers -/

/-- `_int_arg(name, default)`: what `int` makes of the argument, or none where it raises or the
argument is absent. -/
def intArg (value : Option Int) (default_ : Int) : Int := value.getD default_

/-- `_form_slot`: what `int` makes of the field, if it does. -/
def formSlot : Option Int → Option FormSlot
  | none => none
  | some n =>
    if h : slotMin ≤ n.toNat ∧ n.toNat ≤ slotMax then some ⟨n.toNat, h.1, h.2⟩ else none

/-- `PER_PAGE_LIST if view == "list" else PER_PAGE` -/
def perPage (list : Bool) : Nat := if list then 25 else 12

section Handlers

variable (db : Reads)

def index (page : Option Int) (list : Bool) : Except OverflowError Answer := do
  let page := max 1 (intArg page 1)
  -- `count_discs` binds text
  listDiscs page (perPage list)
  pure .page

def discPage (discId : Nat) : Except OverflowError Answer := do
  match ← getDisc db discId with
  | none => pure .notFound
  | some _ => pure .page

def discEdit (discId : Nat) (form : Option EditForm) : Except OverflowError Answer := do
  match ← getDisc db discId with
  | none => pure .notFound
  | some _ =>
    match form.map EditForm.fields with
    | none | some none => pure .page
    | some (some _) =>
      updateDisc discId
      pure .redirect

def discDelete (discId : Nat) (confirmed : Bool) : Except OverflowError Answer := do
  match ← getDisc db discId with
  | none => pure .notFound
  | some _ =>
    if db.inUse then pure .redirect
    else if !confirmed then pure .page
    else
      deleteDisc db discId
      pure .redirect

/-- `disc_eject` and `disc_return`: either way the job page or the disc's own. -/
def discMove (discId : Nat) : Except OverflowError Answer := do
  match ← getDisc db discId with
  | none => pure .notFound
  | some _ => pure .redirect

def discEject (discId : Nat) : Except OverflowError Answer := discMove db discId

def discReturn (discId : Nat) : Except OverflowError Answer := discMove db discId

/-- `_correct(disc_id, status)` -/
def correct (discId : Nat) (status : Status) : Except OverflowError Answer := do
  match ← getDisc db discId with
  | none => pure .notFound
  | some disc =>
    if db.inUse then pure .redirect
    else if disc.status = status then pure .redirect
    else
      setStatus db discId
      pure .redirect

def discMarkOut (discId : Nat) : Except OverflowError Answer := correct db discId .out

def discMarkStored (discId : Nat) : Except OverflowError Answer := correct db discId .stored

def add (slot : Option (Option Int)) : Except OverflowError Answer := do
  match slot with
  | none => pure .page
  | some slot =>
    match formSlot slot with
    | none => pure .redirect
    | some slot =>
      let _ ← getBySlot db slot
      pure .redirect

def reconcileManual (slot : Option Int) (title : Option String) :
    Except OverflowError Answer := do
  match formSlot slot with
  | none => pure .redirect
  | some slot =>
    match formText title with
    | none => pure .redirect
    | some _ =>
      if ← getBySlot db slot then pure .redirect
      else if db.inUse then pure .redirect
      else
        createDisc db slot
        pure .redirect

/-- The route's handler. -/
def handle : Request → Except OverflowError Answer
  | .index page list => index page list
  | .discPage discId => discPage db discId
  | .discEdit discId form => discEdit db discId form
  | .discDelete discId confirmed => discDelete db discId confirmed
  | .discEject discId => discEject db discId
  | .discReturn discId => discReturn db discId
  | .discMarkOut discId => discMarkOut db discId
  | .discMarkStored discId => discMarkStored db discId
  | .add slot => add db slot
  | .reconcileManual slot title => reconcileManual db slot title

end Handlers

end Route

end StakkaWeb
