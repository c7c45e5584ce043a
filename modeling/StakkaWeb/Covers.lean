import StakkaWeb.Upkeep
import StakkaWeb.Routes

/-!
# The covers (`store`, `remove` and `ingest` in `catalog/art.py`, `disc_edit` in `app.py`)

The edit form as it is posted, down to the two files of a cover. What the network, the image library
and the file system make of it is given (`Supply`). An `ArtError` is the answer `Except.error`, since
the form is the one place that catches it; any other exception is raised.

`removed` and `points` are kept for the specification alone: the files that the request has taken
away, and after each of them what the database said at that point.
-/

set_option autoImplicit false

namespace StakkaWeb

open Lib

inductive Suffix where
  | thumb
  | full
  deriving DecidableEq, Repr

abbrev Bytes := List UInt8

/-- `ART_DIR`, with the ghosts of one request. -/
structure ArtDir where
  /-- The file `<stem>_<suffix>.jpg`. -/
  files : String → Suffix → Option Bytes
  removed : List (String × Suffix)
  points : List (List (String × Suffix) × Catalog)

/-- How `copy.save(path, "JPEG", ...)` ends. One that fails may leave anything in the file. -/
inductive Saved where
  | ok (jpeg : Bytes)
  | fails (exc : Exc) (left : Option Bytes)

/-- `MAX_BYTES` -/
def maxBytes : Nat := 8 * 1024 * 1024

/-- What one request brings for the art, and what its steps come to. -/
structure Supply where
  /-- `request.files.get("art_file")`: the name and the content. -/
  upload : Option (String × Bytes)
  url : Option String
  /-- `fetch_url` of the stripped URL: it answers, raises an `ArtError`, or something else. -/
  fetch : String → Except Exc (Except String Bytes)
  /-- `Image.open` and `img.load` -/
  decodes : Bool
  /-- `_flatten` -/
  flatten : Except Exc Unit
  /-- `os.makedirs` -/
  makedirs : Except Exc Unit
  /-- `uuid.uuid4().hex[:12]` -/
  fresh : String
  digits : fresh.length = 12
  save : Suffix → Saved
  /-- Whether `os.remove` can remove a file that is there. -/
  unlinks : Suffix → Bool

/-- The bytes that `ingest` goes on with: none without a source. -/
def Supply.data (s : Supply) : Except Exc (Except String Bytes) :=
  match s.upload.filter (·.1 ≠ ""), given s.url with
  | some (_, content), _ =>
    let data := content.take (maxBytes + 1)
    if maxBytes < data.length then .ok (.error "That file is larger than 8 MB.")
    else .ok (.ok data)
  | none, some url => s.fetch (Taxonomy.strip url)
  | none, none => .ok (.ok [])

section Art

variable (s : Supply)

def setFile (stem : String) (suffix : Suffix) (content : Option Bytes) : Py ArtDir Unit :=
  Prog.modify fun w => { w with io := { w.io with
    files := fun stem' suffix' =>
      if stem' = stem ∧ suffix' = suffix then content else w.io.files stem' suffix' } }

/-- What may raise. -/
def ofExcept {α : Type} : Except Exc α → Py ArtDir α
  | .ok a => pure a
  | .error e => Prog.raise e

def saveJpeg (stem : String) (suffix : Suffix) : Py ArtDir Unit :=
  match s.save suffix with
  | .ok jpeg => setFile stem suffix (some jpeg)
  | .fails exc left => do
    setFile stem suffix left
    Prog.raise exc

/-- `store(data)` -/
def storeArt : Py ArtDir (Except String String) :=
  if !s.decodes then pure (.error "That file is not an image this server can read.")
  else do
    ofExcept s.flatten
    ofExcept s.makedirs
    saveJpeg s s.fresh .thumb
    saveJpeg s s.fresh .full
    pure (.ok s.fresh)

/-- `os.remove(path)`; an `OSError` is passed over. -/
def removeFile (stem : String) (suffix : Suffix) : Py ArtDir Unit := do
  let there ← Prog.gets fun w => (w.io.files stem suffix).isSome
  Prog.when (there && s.unlinks suffix) do
    setFile stem suffix none
    Prog.modify fun w =>
      let removed := (stem, suffix) :: w.io.removed
      { w with io := { w.io with
        removed, points := (removed, w.conn.committed) :: w.io.points } }

/-- `remove(stem)` -/
def removeArt (stem : Option String) : Py ArtDir Unit :=
  match given stem with
  | none => pure ()
  | some stem => do
    removeFile s stem .thumb
    removeFile s stem .full

/-- `ingest(upload, url, replacing)` -/
def ingestArt (replacing : Option String) : Py ArtDir (Except String (Option String)) := do
  match ← ofExcept s.data with
  | .error msg => pure (.error msg)
  | .ok [] => pure (.ok none)
  | .ok _ =>
    match ← storeArt s with
    | .error msg => pure (.error msg)
    | .ok stem => do
      removeArt s replacing
      pure (.ok (some stem))

end Art

/-- The texts of the edit form. -/
structure EditTexts where
  title : Option String
  subtitle : Option String
  category : Option String
  platform : Option String
  notes : Option String

def EditTexts.form (t : EditTexts) (art : Except String (Option String)) : EditForm :=
  { title := t.title, subtitle := t.subtitle, category := t.category, platform := t.platform,
    notes := t.notes, art }

/-- A `POST` to `disc_edit`. -/
def discEditPost (s : Supply) (discId : Nat) (texts : EditTexts) : Py ArtDir Answer := do
  match ← getDisc discId with
  | none => pure .notFound
  | some disc =>
    match formText texts.title with
    | none => pure .page
    | some _ =>
      let art ← ingestArt s disc.artPath
      match (texts.form art).fields with
      | none => pure .page
      | some fields => do
        updateDisc discId fields
        pure .redirect

/-! ## What an edit should leave -/

/-- A request on this file and these covers, with the statements that fail. -/
structure Edit where
  discId : Nat
  texts : EditTexts
  supply : Supply
  catalog : Catalog
  files : String → Suffix → Option Bytes
  faults : Nat → Bool
  now : Stamp

namespace Edit

/-- Where the request starts: its connection is open. -/
def start (e : Edit) : World ArtDir :=
  { World.boot ⟨e.files, [], []⟩ [] with
    conn := ⟨true, e.catalog, e.catalog, e.faults, 0, e.now⟩ }

/-- The request has no loop, so it needs no turns. -/
def run (e : Edit) : Outcome Exc Answer × World ArtDir :=
  discEditPost e.supply e.discId e.texts 0 e.start

/-- The disc's row in the file after the request. -/
def row (e : Edit) : Option Disc := e.run.2.conn.committed.getDisc e.discId

/-- The files of this stem are what they were. -/
def Untouched (e : Edit) (stem : String) : Prop :=
  ∀ suffix, e.run.2.io.files stem suffix = e.files stem suffix

/-- No cover that the file names at this point has lost a file to the request. -/
def Named (e : Edit) (point : List (String × Suffix) × Catalog) : Prop :=
  ∀ row stem, point.2.getDisc e.discId = some row → row.artPath = some stem →
    ∀ suffix, (stem, suffix) ∉ point.1

/-- Saving an edit has not left the disc, whose row was `disc`, without its cover. -/
structure KeepsCover (e : Edit) (disc : Disc) : Prop where
  /-- Without an update, row and cover are as they were. -/
  unsaved : e.run.1 ≠ .ok .redirect → e.row = some disc ∧
    ∀ stem, disc.artPath = some stem → e.Untouched stem
  /-- After an update the row names the cover it named, which is as it was, or the new one, which
  is there, and the old one is gone. -/
  saved : e.run.1 = .ok .redirect → ∃ row', e.row = some row' ∧
    ((row'.artPath = disc.artPath ∧ ∀ stem, disc.artPath = some stem → e.Untouched stem) ∨
      row'.artPath = some e.supply.fresh ∧
        (∀ suffix, (e.run.2.io.files e.supply.fresh suffix).isSome = true) ∧
        ∀ stem ∈ given disc.artPath, ∀ suffix, e.run.2.io.files stem suffix = none)
  /-- At no point does the file name what the request has removed. -/
  always : ∀ point ∈ (e.run.2.io.removed, e.run.2.conn.committed) :: e.run.2.io.points,
    e.Named point

/-- New art is stored: there is a title, a source with some bytes, and every step of `store`
succeeds. -/
def Stores (e : Edit) : Prop :=
  formText e.texts.title ≠ none ∧ (∃ b bs, e.supply.data = .ok (.ok (b :: bs))) ∧
    e.supply.decodes = true ∧ e.supply.flatten = .ok () ∧ e.supply.makedirs = .ok () ∧
    ∀ suffix, ∃ jpeg, e.supply.save suffix = .ok jpeg

/-- The request stores new art over a cover of which a file is there, and either removes it or goes
on to update the row. -/
def Replaces (e : Edit) (disc : Disc) : Prop :=
  e.faults 0 = false ∧ e.Stores ∧ ∃ stem ∈ given disc.artPath, ∃ suffix,
    (e.files stem suffix).isSome = true ∧
      (e.supply.unlinks suffix = true ∨ e.faults 1 = false ∧ e.faults 2 = false)

end Edit

end StakkaWeb
