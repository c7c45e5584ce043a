import Mathlib.Data.Finset.Basic
import StakkaWeb.Listing

/-!
# Which slots are taken (`catalog/db.py`, `reconcile` in `app.py`)

The set of the slots that the rows name, what is computed from it, and the two views that do not
ask for it: the counts and the page that walks the carousel slot by slot.
-/

set_option autoImplicit false

namespace StakkaWeb

/-- `range(SLOT_MIN, SLOT_MAX + 1)` -/
def slotRange : List Nat := List.range' slotMin (slotMax + 1 - slotMin)

/-- What `stats` answers. -/
structure Stats where
  total : Nat
  out : Nat
  free : Int
  deriving DecidableEq, Repr

namespace Catalog

def occupiedSlots (c : Catalog) : Finset Nat := (c.discs.map Disc.slot).toFinset

def stats (c : Catalog) : Stats :=
  let total := c.discs.length
  { total, out := c.discs.countP (·.status = .out), free := slotMax - total }

/-! ## The page of `reconcile` -/

end Catalog

end StakkaWeb
