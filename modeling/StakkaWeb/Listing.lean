import Mathlib.Data.Char
import StakkaWeb.Lib.Like
import StakkaWeb.Lib.Paging
import StakkaWeb.Catalog

/-!
# The pages of the catalogue (`_where`, `count_discs` and `list_discs` in `catalog/db.py`)

The filter that a page and its total share, and what the query of a page may answer. SQLite promises
no order among rows that compare equal, so `ListDiscs` is a relation: two pages are windows of two
answers, and these need not agree on such rows.
-/

set_option autoImplicit false

namespace StakkaWeb

open Lib

/-- What the column `status` holds. -/
def Status.text : Status → String
  | stored => "stored"
  | out => "out"

/-- `if value:` of an argument that is a string or `None`. -/
def given (value : Option String) : Option String := value.filter (· ≠ "")

/-! ## `LIKE` -/

/-- What a character of a pattern stands for. -/
def token (c : Char) : Like.Token Char :=
  if c = '%' then .run else if c = '_' then .one else .lit c

/-- ASCII letters compare alike. -/
def sameLetter (a b : Char) : Bool := a.toLower == b.toLower

/-- `column LIKE pattern`, which holds of no `NULL`. -/
def likeColumn (column : Option String) (pattern : String) : Bool :=
  column.any fun text => Like.like sameLetter (pattern.toList.map token) text.toList

/-! ## The filter -/

/-- The arguments of `_where`. -/
structure Filter where
  query : Option String := none
  status : Option String := none
  category : Option String := none
  platform : Option String := none
  deriving DecidableEq, Repr

namespace Filter

/-- The columns that a query looks through. -/
def columns (d : Disc) : List (Option String) :=
  [some d.title, d.subtitle, d.notes, d.category, d.platform]

/-- `"%%%s%%" % query` -/
def pattern (query : String) : String := "%" ++ query ++ "%"

/-- `_where(query, status, category, platform)`, as a condition on a row. -/
def where_ (f : Filter) (d : Disc) : Bool :=
  ((given f.query).all fun query => (columns d).any fun column => likeColumn column (pattern query)) &&
  ((given f.status).all fun status => d.status.text == status) &&
  ((given f.category).all fun category => d.category == some category) &&
  ((given f.platform).all fun platform => d.platform == some platform)

end Filter

namespace Catalog

/-- `SELECT ... FROM disc WHERE 1=1 ...` -/
def matching (c : Catalog) (f : Filter) : List Disc := c.discs.filter f.where_

def countDiscs (c : Catalog) (f : Filter) : Nat := (c.matching f).length

/-- For the specification: a text without the case of its ASCII letters. -/
def lowered (text : String) : List Char := text.toList.map Char.toLower

/-- For the specification: some column contains the query, letter case aside. -/
def contains (query : String) (d : Disc) : Bool :=
  (Filter.columns d).any fun column => column.any fun text => lowered query <:+: lowered text

/-- A title as `COLLATE NOCASE` compares it. -/
def nocase (d : Disc) : List Char := lowered d.title

/-- What `list_discs(conn, page, per_page, order=order, ...)` may answer. -/
def ListDiscs (c : Catalog) (page perPage : Nat) (f : Filter) (order : String)
    (discs : List Disc) : Prop :=
  if order = "title" then Paging.Page nocase (c.matching f) perPage (max page 1 - 1) discs
  else Paging.Page Disc.slot (c.matching f) perPage (max page 1 - 1) discs

end Catalog

/-- `max(1, int(math.ceil(total / float(per_page))))` -/
def pageCount (total perPage : Nat) : Nat := max 1 ((total + perPage - 1) / perPage)

/-- The pages that the catalogue offers, from the first to the last. -/
def pageNumbers (total perPage : Nat) : List Nat := (List.range (pageCount total perPage)).map (· + 1)

end StakkaWeb
