import StakkaWeb.Covers

/-!
# The covers, under every request at once (`disc_edit`, `disc_delete` in `app.py`, `catalog/art.py`)

`Site` with the two requests that touch a cover: the edit form as it is posted, down to the file that
`store` or `remove` handles next, and the end of a deletion, which takes the cover away. Any number
of threads are at some `Point` of this code; a thread that stops for good is one that was killed.

`history` and `stranded` are kept for the specification alone: what has become of every stem, and the
covers whose removal `update_disc` then failed to record.
-/

set_option autoImplicit false

namespace StakkaWeb

open Lib

/-- What has become of a stem. -/
inductive Stem where
  /-- `uuid4` has not given it yet. -/
  | unused
  /-- This thread stores it for the disc of this id, and no row has named it. -/
  | drawn (thread discId : Nat)
  /-- A row of this id names it, or has named it. -/
  | hung (discId : Nat)
  deriving DecidableEq, Repr

/-- What the threads share: the site, and `ART_DIR`. -/
structure Gallery where
  site : Site
  files : String → Suffix → Option Bytes
  history : String → Stem
  stranded : List String

namespace Gallery

def catalog (g : Gallery) : Catalog := g.site.catalog

/-- The file `<stem>_<suffix>.jpg` is written or removed. -/
def setFile (g : Gallery) (stem : String) (suffix : Suffix) (content : Option Bytes) : Gallery :=
  { g with files := fun stem' suffix' =>
      if stem' = stem ∧ suffix' = suffix then content else g.files stem' suffix' }

def setCatalog (g : Gallery) (c : Catalog) : Gallery := { g with site := { g.site with catalog := c } }

def setHistory (g : Gallery) (stem : String) (h : Stem) : Gallery :=
  { g with history := Function.update g.history stem h }

/-- The files that `remove(stem)` goes through. -/
def removals (stem : Option String) : List (String × Suffix) :=
  match given stem with
  | none => []
  | some stem => [(stem, .thumb), (stem, .full)]

/-- The next statement of a thread. -/
inductive Point where
  | site (p : Site.Point)
  /-- `disc_edit`: `db.get_disc` -/
  | edit (discId : Nat) (texts : EditTexts)
  /-- `disc_edit`: `art.ingest`, down to the first `copy.save` of `store` -/
  | ingest (disc : Disc) (texts : EditTexts)
  /-- `store`: the second `copy.save` -/
  | full (disc : Disc) (texts : EditTexts) (stem : String)
  /-- `ingest`: `remove(replacing)`, with the files that are left to remove -/
  | replace (disc : Disc) (texts : EditTexts) (stem : String) (left : List (String × Suffix))
  /-- `disc_edit`: `db.update_disc` -/
  | update (disc : Disc) (texts : EditTexts) (stem : Option String)
  /-- `disc_delete`: `art.remove`, with the files that are left to remove -/
  | discard (left : List (String × Suffix))

/-- Between two requests. -/
abbrev Point.idle : Point := .site .idle

/-- The atomic steps of thread `t`. -/
inductive Moves (t : Nat) (g : Gallery) : Point → Gallery → Point → Prop
  -- the requests and jobs of `Site`, but for the transaction of a deletion
  | site {p p' : Site.Point} {s : Site} (h : Site.Moves g.site p s p')
    (hp : ∀ disc row, p ≠ .deleteWrite disc row) : Moves t g (.site p) { g with site := s } (.site p')
  -- `disc_delete`
  | deleted {disc : Disc} {row : Option Disc} {now : Stamp} {c : Catalog}
    (h : g.catalog.deleteDisc disc.id row now = .ok c) :
    Moves t g (.site (.deleteWrite disc row)) (g.setCatalog c) (.discard (removals disc.artPath))
  | deleteRaises {disc : Disc} {row : Option Disc} :
    Moves t g (.site (.deleteWrite disc row)) g .idle
  | discards {stem : String} {suffix : Suffix} {left : List (String × Suffix)} :
    Moves t g (.discard ((stem, suffix) :: left)) (g.setFile stem suffix none) (.discard left)
  | discardFails {stem : String} {suffix : Suffix} {left : List (String × Suffix)} :
    Moves t g (.discard ((stem, suffix) :: left)) g (.discard left)
  | discarded : Moves t g (.discard []) g .idle
  -- `disc_edit`
  | edit (discId : Nat) (texts : EditTexts) : Moves t g .idle g (.edit discId texts)
  | editMissing {discId : Nat} {texts : EditTexts} (h : g.catalog.getDisc discId = none) :
    Moves t g (.edit discId texts) g .idle
  | editRaises {discId : Nat} {texts : EditTexts} : Moves t g (.edit discId texts) g .idle
  | editUntitled {discId : Nat} {texts : EditTexts} {disc : Disc}
    (h : g.catalog.getDisc discId = some disc) (htitle : formText texts.title = none) :
    Moves t g (.edit discId texts) g .idle
  | editTitled {discId : Nat} {texts : EditTexts} {disc : Disc}
    (h : g.catalog.getDisc discId = some disc) (htitle : formText texts.title ≠ none) :
    Moves t g (.edit discId texts) g (.ingest disc texts)
  -- the form names no art
  | artless {disc : Disc} {texts : EditTexts} :
    Moves t g (.ingest disc texts) g (.update disc texts none)
  -- an `ArtError`, or any other exception before a file is written
  | artRaises {disc : Disc} {texts : EditTexts} : Moves t g (.ingest disc texts) g .idle
  | savesThumb {disc : Disc} {texts : EditTexts} {stem : String} {jpeg : Bytes}
    (hfresh : g.history stem = .unused) (hdigits : stem.length = 12) :
    Moves t g (.ingest disc texts)
      ((g.setFile stem .thumb (some jpeg)).setHistory stem (.drawn t disc.id)) (.full disc texts stem)
  | thumbRaises {disc : Disc} {texts : EditTexts} {stem : String} {left : Option Bytes}
    (hfresh : g.history stem = .unused) (hdigits : stem.length = 12) :
    Moves t g (.ingest disc texts)
      ((g.setFile stem .thumb left).setHistory stem (.drawn t disc.id)) .idle
  | savesFull {disc : Disc} {texts : EditTexts} {stem : String} {jpeg : Bytes} :
    Moves t g (.full disc texts stem) (g.setFile stem .full (some jpeg))
      (.replace disc texts stem (removals disc.artPath))
  | fullRaises {disc : Disc} {texts : EditTexts} {stem : String} {left : Option Bytes} :
    Moves t g (.full disc texts stem) (g.setFile stem .full left) .idle
  | removes {disc : Disc} {texts : EditTexts} {stem old : String} {suffix : Suffix}
    {left : List (String × Suffix)} :
    Moves t g (.replace disc texts stem ((old, suffix) :: left)) (g.setFile old suffix none)
      (.replace disc texts stem left)
  | removeFails {disc : Disc} {texts : EditTexts} {stem old : String} {suffix : Suffix}
    {left : List (String × Suffix)} :
    Moves t g (.replace disc texts stem ((old, suffix) :: left)) g (.replace disc texts stem left)
  | replaced {disc : Disc} {texts : EditTexts} {stem : String} :
    Moves t g (.replace disc texts stem []) g (.update disc texts (some stem))
  | updates {disc : Disc} {texts : EditTexts} {fields : Fields} {now : Stamp} {c : Catalog}
    (hfields : (texts.form (.ok none)).fields = some fields)
    (h : g.catalog.updateDisc disc.id fields now = .ok ((), c)) :
    Moves t g (.update disc texts none) (g.setCatalog c) .idle
  | hangs {disc : Disc} {texts : EditTexts} {stem : String} {fields : Fields} {now : Stamp}
    {c : Catalog} (hfields : (texts.form (.ok (some stem))).fields = some fields)
    (h : g.catalog.updateDisc disc.id fields now = .ok ((), c)) :
    Moves t g (.update disc texts (some stem))
      ((g.setCatalog c).setHistory stem (.hung disc.id)) .idle
  | updateRaises {disc : Disc} {texts : EditTexts} : Moves t g (.update disc texts none) g .idle
  | strands {disc : Disc} {texts : EditTexts} {stem : String} :
    Moves t g (.update disc texts (some stem))
      { g with stranded := (given disc.artPath).toList ++ g.stranded } .idle

/-- The covers of a gallery, with nothing under way. -/
def new (g : Gallery) : Threads Gallery Point := ⟨g, fun _ => .idle⟩

/-- Any interleaving of any number of requests and of the jobs they start. -/
abbrev Run (c c' : Threads Gallery Point) : Prop := Threads.Steps Moves c c'

/-- Both files of a cover are there. -/
def Whole (g : Gallery) (stem : String) : Prop := ∀ suffix, (g.files stem suffix).isSome = true

/-- Every cover that a row names was stored for a disc of that row's id, and is whole. -/
structure Hangs (g : Gallery) : Prop where
  hung : ∀ row ∈ g.catalog.discs, ∀ stem ∈ given row.artPath, g.history stem = .hung row.id
  whole : ∀ row ∈ g.catalog.discs, ∀ stem ∈ given row.artPath, g.Whole stem

end Gallery

end StakkaWeb
