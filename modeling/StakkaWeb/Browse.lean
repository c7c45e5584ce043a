import StakkaWeb.Occupancy
import StakkaWeb.Taxonomy

/-!
# Browsing the catalogue (`index` in `app.py`, `templates/catalog.html`)

The front page as a whole: what it makes of its arguments, the counts it shows, and the links by
which one gets from it to the next page or to a narrower filter. `Walk` is a visitor who follows
`Next` until there is no such link.

`list_discs` may answer more than one list (`ListDiscs`), so `Index` is a relation.
-/

set_option autoImplicit false

namespace StakkaWeb

open Lib

/-- `VIEWS` -/
inductive View where
  | covers
  | list
  deriving DecidableEq, Repr

/-- `request.args.get("view") in VIEWS` -/
def View.ofText : String → Option View
  | "covers" => some .covers
  | "list" => some .list
  | _ => none

/-- `db.PER_PAGE_LIST if view == "list" else db.PER_PAGE` -/
def View.perPage : View → Nat
  | covers => 12
  | list => 25

/-- `request.args`. The page number is what `int` makes of it, if it does. -/
structure IndexArgs where
  page : Option Int := none
  q : Option String := none
  status : Option String := none
  order : Option String := none
  view : Option String := none
  category : Option String := none
  platform : Option String := none
  deriving DecidableEq, Repr

namespace IndexArgs

variable (args : IndexArgs)

/-- `max(1, _int_arg("page", 1))` -/
def number : Nat := (max 1 (args.page.getD 1)).toNat

/-- `(request.args.get("q") or "").strip()` -/
def query : String := Taxonomy.strip (args.q.getD "")

/-- `request.args.get("order") or "slot"` -/
def ordering : String := (given args.order).getD "slot"

/-- `session.get("view")`, once the argument has been looked at. -/
def session (before : Option View) : Option View := (args.view.bind View.ofText) <|> before

def categoryOf : Option String := Taxonomy.category args.category

def platformOf : Option String := Taxonomy.platform args.categoryOf args.platform

/-- What `count_discs` and `list_discs` are given. -/
def filter : Filter where
  query := given (some args.query)
  status := given args.status
  category := args.categoryOf
  platform := args.platformOf

end IndexArgs

namespace Catalog

/-- `category_counts(conn).get(category, 0)` -/
def categoryCounts (c : Catalog) (category : String) : Nat :=
  c.discs.countP fun d => d.category = some category

/-- `platform_counts(conn).get(platform, 0)` -/
def platformCounts (c : Catalog) (platform : String) : Nat :=
  c.discs.countP fun d => d.category = some Taxonomy.games ∧ d.platform = some platform

end Catalog

/-- What `catalog.html` is given. -/
structure IndexPage where
  discs : List Disc
  page : Nat
  pages : Nat
  total : Nat
  query : String
  status : Option String
  order : String
  category : Option String
  platform : Option String
  view : View
  categoryCounts : String → Nat
  platformCounts : String → Nat
  stats : Stats

/-- The page, with what `list_discs` has answered. -/
def indexPage (c : Catalog) (before : Option View) (args : IndexArgs) (discs : List Disc) :
    IndexPage :=
  let view := (args.session before).getD .covers
  let total := c.countDiscs args.filter
  { discs, page := args.number, pages := pageCount total view.perPage, total, query := args.query,
    status := given args.status, order := args.ordering, category := args.categoryOf,
    platform := args.platformOf, view, categoryCounts := c.categoryCounts,
    platformCounts := c.platformCounts, stats := c.stats }

/-- `index`, for a visitor whose session had the view `before`. -/
def Index (c : Catalog) (before : Option View) (args : IndexArgs) (page : IndexPage) : Prop :=
  ∃ discs, c.ListDiscs args.number ((args.session before).getD .covers).perPage args.filter
    args.ordering discs ∧ page = indexPage c before args discs

namespace IndexPage

variable (p : IndexPage)

/-- `url_for('index', q=query, status=status, order=order, ...)` -/
def link (page : Option Int) (category platform : Option String) : IndexArgs :=
  { page, q := some p.query, status := p.status, order := some p.order, category, platform }

/-- `Next`, where the page offers it. -/
def next : Option IndexArgs :=
  if p.discs ≠ [] ∧ 1 < p.pages ∧ p.page < p.pages then
    some (p.link (some (p.page + 1)) p.category p.platform)
  else none

/-- The chip of a category, with `category_counts.get(c, 0)` on it. -/
def categoryChip (category : String) : IndexArgs := p.link none (some category) none

/-- The chip of a console, with its count on it. -/
def platformChip (platform : String) : IndexArgs := p.link none p.category (some platform)

end IndexPage

/-- A visitor follows `Next` to the last page, while nobody changes the catalogue. -/
inductive Walk (c : Catalog) : Option View → IndexArgs → List IndexPage → Prop
  | last {before : Option View} {args : IndexArgs} {p : IndexPage} (h : Index c before args p)
    (hnext : p.next = none) : Walk c before args [p]
  | more {before : Option View} {args args' : IndexArgs} {p : IndexPage} {ps : List IndexPage}
    (h : Index c before args p) (hnext : p.next = some args')
    (hrest : Walk c (args.session before) args' ps) : Walk c before args (p :: ps)

end StakkaWeb
