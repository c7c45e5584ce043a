import StakkaWeb.Lib.Threads
import StakkaWeb.Device

/-!
# The requests and the jobs they start (`app.py`)

The handlers of the `POST`s that read or write the catalogue and may start a job, as the atomic
steps they are made of: each read of the database, each transaction, each `job_using`, each
`submit`. A job is taken to the same grain: what it does to the unit is between two of its steps,
and may take any time or raise. Any number of threads are at some `Point` of this code;
`Site.Moves` is what the next step of one may be.

A request has nothing to do with the catalogue once it has submitted its job, so the job goes on
under the number of the request's thread.
-/

set_option autoImplicit false

namespace StakkaWeb

open Lib

/-- A slot as `_form_slot` lets it through. -/
structure FormSlot where
  val : Nat
  low : slotMin ≤ val
  high : val ≤ slotMax
  deriving DecidableEq, Repr

/-- A job as the handlers make it, with the flow and the arguments they submit with it. -/
inductive Task where
  | reset
  /-- `slot` is that of the row the request has read. -/
  | eject (discId slot : Nat)
  | return_ (discId slot : Nat)
  | add (slot : FormSlot)
  deriving DecidableEq, Repr

namespace Task

/-- `job.disc_id` -/
def discId : Task → Option Nat
  | eject discId _ | return_ discId _ => some discId
  | reset | add _ => none

/-- `job.slot` -/
def slot : Task → Option Nat
  | eject _ slot | return_ _ slot => some slot
  | add slot => some slot.val
  | reset => none

def flow : Task → Flow
  | reset => .reset
  | eject discId _ => .eject discId
  | return_ discId slot => .return_ slot discId
  | add slot => .add slot.val

end Task

/-- The catalogue writes with which a flow may end, and what becomes of each. `slot` is what the
flow works on. -/
inductive Ends (c : Catalog) (now : Stamp) : Task → Nat → Except Exc Catalog → Prop
  | reset {slot : Nat} : Ends c now .reset slot (c.log .reset none none none now)
  -- `run_eject`
  | nothingOut {d s slot : Nat} : Ends c now (.eject d s) slot
    (c.log .failed (some d) (some slot) (some "eject found no disc") now)
  | notRetracted {d s slot : Nat} (exc : Exc) : Ends c now (.eject d s) slot
    (c.log .failed (some d) (some slot) (some ("retract: " ++ exc.text)) now)
  | retracted {d s slot : Nat} :
    Ends c now (.eject d s) slot (c.log .retracted (some d) (some slot) none now)
  | taken {d s slot : Nat} : Ends c now (.eject d s) slot (c.markOut d .ejected none now)
  -- `run_add`
  | timedOut {job : Task} {slot : Nat} (h : job.flow = .add slot ∨ ∃ d, job.flow = .return_ slot d) :
    Ends c now job slot (c.log .failed job.discId (some slot) (some "no disc inserted") now)
  | created {s : FormSlot} {slot : Nat} : Ends c now (.add s) slot
    ((c.createDisc slot ("Untitled disc (slot " ++ toString slot ++ ")") .added now).map Prod.snd)
  | stored {d s slot : Nat} : Ends c now (.return_ d s) slot (c.markStored d .returned none now)

/-- What the threads share: the database, and the job that `controller.current` answers. -/
structure Site where
  catalog : Catalog
  current : Option Task

namespace Site

/-- `job_using(disc_id, slot)` -/
def jobUsing (s : Site) (discId slot : Option Nat) : Option Task :=
  match s.current with
  | none => none
  | some job =>
    if discId.isSome ∧ job.discId = discId then some job
    else if slot.isSome ∧ job.slot = slot then some job
    else none

/-- The next statement of a thread. -/
inductive Point where
  /-- Between two requests. -/
  | idle
  /-- `disc_eject`: `db.get_disc` -/
  | eject (discId : Nat)
  /-- `disc_return`: `db.get_disc` -/
  | return_ (discId : Nat)
  /-- `add`: `db.get_by_slot` -/
  | add (slot : FormSlot)
  /-- `start_job` -/
  | submit (job : Task)
  /-- `_correct`: `db.get_disc` -/
  | correct (discId : Nat) (status : Status)
  /-- `_correct`: `job_using` -/
  | correctUsing (disc : Disc) (status : Status)
  /-- `_correct`: `db.mark_out` or `db.mark_stored` -/
  | correctWrite (disc : Disc) (status : Status)
  /-- `disc_delete`: `db.get_disc` -/
  | delete (discId : Nat)
  /-- `disc_delete`: `job_using` -/
  | deleteUsing (disc : Disc)
  /-- `db.delete_disc`: `get_disc` -/
  | deleteRead (disc : Disc)
  /-- `db.delete_disc`: the transaction -/
  | deleteWrite (disc : Disc) (row : Option Disc)
  /-- `reconcile_manual`: `db.get_by_slot` -/
  | manual (slot : FormSlot) (title : String)
  /-- `reconcile_manual`: `job_using` -/
  | manualUsing (slot : FormSlot) (title : String)
  /-- `reconcile_manual`: `db.create_disc` -/
  | manualWrite (slot : FormSlot) (title : String)
  /-- A job let in: its flow has not begun. -/
  | starts (job : Task)
  /-- The flow, between its first statement and the catalogue write it ends with. -/
  | acts (job : Task) (slot : Nat)
  /-- The flow after that write, or without one. -/
  | wrote (job : Task)
  /-- An exception has reached `_run_owned`: `_log_failure` -/
  | handler (job : Task)
  /-- `job.succeed` or `job.fail` -/
  | ends (job : Task)
  deriving DecidableEq, Repr

/-- The atomic steps of a thread. -/
inductive Moves (s : Site) : Point → Site → Point → Prop
  -- `disc_eject`
  | eject (d : Nat) : Moves s .idle s (.eject d)
  | ejectMissing {d : Nat} (h : s.catalog.getDisc d = none) : Moves s (.eject d) s .idle
  | ejectOut {d : Nat} {disc : Disc} (h : s.catalog.getDisc d = some disc)
    (ho : disc.status = .out) : Moves s (.eject d) s .idle
  | ejectMade {d : Nat} {disc : Disc} (h : s.catalog.getDisc d = some disc)
    (ho : disc.status ≠ .out) : Moves s (.eject d) s (.submit (.eject d disc.slot))
  -- `disc_return`
  | return_ (d : Nat) : Moves s .idle s (.return_ d)
  | returnMissing {d : Nat} (h : s.catalog.getDisc d = none) : Moves s (.return_ d) s .idle
  | returnIn {d : Nat} {disc : Disc} (h : s.catalog.getDisc d = some disc)
    (ho : disc.status ≠ .out) : Moves s (.return_ d) s .idle
  | returnMade {d : Nat} {disc : Disc} (h : s.catalog.getDisc d = some disc)
    (ho : disc.status = .out) : Moves s (.return_ d) s (.submit (.return_ d disc.slot))
  -- `add`
  | add (slot : FormSlot) : Moves s .idle s (.add slot)
  | addTaken {slot : FormSlot} (h : s.catalog.getBySlot slot.val ≠ none) :
    Moves s (.add slot) s .idle
  | addMade {slot : FormSlot} (h : s.catalog.getBySlot slot.val = none) :
    Moves s (.add slot) s (.submit (.add slot))
  -- `device_reset`
  | reset : Moves s .idle s (.submit .reset)
  -- `start_job`
  | submitBusy {job : Task} (h : s.current ≠ none) : Moves s (.submit job) s .idle
  | submitted {job : Task} (h : s.current = none) :
    Moves s (.submit job) { s with current := some job } (.starts job)
  -- `_correct`
  | correct (d : Nat) (status : Status) : Moves s .idle s (.correct d status)
  | correctMissing {d : Nat} {status : Status} (h : s.catalog.getDisc d = none) :
    Moves s (.correct d status) s .idle
  | correctFound {d : Nat} {status : Status} {disc : Disc} (h : s.catalog.getDisc d = some disc) :
    Moves s (.correct d status) s (.correctUsing disc status)
  | correctUsed {disc : Disc} {status : Status}
    (h : s.jobUsing (some disc.id) (some disc.slot) ≠ none) :
    Moves s (.correctUsing disc status) s .idle
  | correctSame {disc : Disc} {status : Status}
    (h : s.jobUsing (some disc.id) (some disc.slot) = none) (hs : disc.status = status) :
    Moves s (.correctUsing disc status) s .idle
  | correctFree {disc : Disc} {status : Status}
    (h : s.jobUsing (some disc.id) (some disc.slot) = none) (hs : disc.status ≠ status) :
    Moves s (.correctUsing disc status) s (.correctWrite disc status)
  | markedOut {disc : Disc} {now : Stamp} {c : Catalog}
    (h : s.catalog.markOut disc.id .manual (some "marked as taken out") now = .ok c) :
    Moves s (.correctWrite disc .out) { s with catalog := c } .idle
  | markedStored {disc : Disc} {now : Stamp} {c : Catalog}
    (h : s.catalog.markStored disc.id .manual (some "marked as in its slot") now = .ok c) :
    Moves s (.correctWrite disc .stored) { s with catalog := c } .idle
  | correctRaises {disc : Disc} {status : Status} : Moves s (.correctWrite disc status) s .idle
  -- `disc_delete`
  | delete (d : Nat) : Moves s .idle s (.delete d)
  | deleteMissing {d : Nat} (h : s.catalog.getDisc d = none) : Moves s (.delete d) s .idle
  | deleteFound {d : Nat} {disc : Disc} (h : s.catalog.getDisc d = some disc) :
    Moves s (.delete d) s (.deleteUsing disc)
  | deleteUsed {disc : Disc} (h : s.jobUsing (some disc.id) (some disc.slot) ≠ none) :
    Moves s (.deleteUsing disc) s .idle
  | deleteUnconfirmed {disc : Disc} (h : s.jobUsing (some disc.id) (some disc.slot) = none) :
    Moves s (.deleteUsing disc) s .idle
  | deleteFree {disc : Disc} (h : s.jobUsing (some disc.id) (some disc.slot) = none) :
    Moves s (.deleteUsing disc) s (.deleteRead disc)
  | deleteRead {disc : Disc} :
    Moves s (.deleteRead disc) s (.deleteWrite disc (s.catalog.getDisc disc.id))
  | deleted {disc : Disc} {row : Option Disc} {now : Stamp} {c : Catalog}
    (h : s.catalog.deleteDisc disc.id row now = .ok c) :
    Moves s (.deleteWrite disc row) { s with catalog := c } .idle
  | deleteRaises {disc : Disc} {row : Option Disc} : Moves s (.deleteWrite disc row) s .idle
  -- `reconcile_manual`
  | manual (slot : FormSlot) (title : String) : Moves s .idle s (.manual slot title)
  | manualTaken {slot : FormSlot} {title : String} (h : s.catalog.getBySlot slot.val ≠ none) :
    Moves s (.manual slot title) s .idle
  | manualEmpty {slot : FormSlot} {title : String} (h : s.catalog.getBySlot slot.val = none) :
    Moves s (.manual slot title) s (.manualUsing slot title)
  | manualUsed {slot : FormSlot} {title : String} (h : s.jobUsing none (some slot.val) ≠ none) :
    Moves s (.manualUsing slot title) s .idle
  | manualFree {slot : FormSlot} {title : String} (h : s.jobUsing none (some slot.val) = none) :
    Moves s (.manualUsing slot title) s (.manualWrite slot title)
  | manualMade {slot : FormSlot} {title : String} {now : Stamp} {id : Nat} {c : Catalog}
    (h : s.catalog.createDisc slot.val title .manual now = .ok (id, c)) :
    Moves s (.manualWrite slot title) { s with catalog := c } .idle
  | manualRaises {slot : FormSlot} {title : String} : Moves s (.manualWrite slot title) s .idle
  -- a job
  | resets : Moves s (.starts .reset) s (.acts .reset home)
  | adds {slot : FormSlot} : Moves s (.starts (.add slot)) s (.acts (.add slot) slot.val)
  | returns {d slot : Nat} : Moves s (.starts (.return_ d slot)) s (.acts (.return_ d slot) slot)
  | ejects {d slot : Nat} {disc : Disc} (h : s.catalog.getDisc d = some disc) :
    Moves s (.starts (.eject d slot)) s (.acts (.eject d slot) disc.slot)
  | ejectsNothing {d slot : Nat} (h : s.catalog.getDisc d = none) :
    Moves s (.starts (.eject d slot)) s (.wrote (.eject d slot))
  | startRaises {job : Task} : Moves s (.starts job) s (.handler job)
  | actRaises {job : Task} {slot : Nat} : Moves s (.acts job slot) s (.handler job)
  | writes {job : Task} {slot : Nat} {now : Stamp} {c : Catalog}
    (h : Ends s.catalog now job slot (.ok c)) :
    Moves s (.acts job slot) { s with catalog := c } (.wrote job)
  | refused {job : Task} {slot : Nat} {now : Stamp} {e : Exc}
    (h : Ends s.catalog now job slot (.error e)) : Moves s (.acts job slot) s (.handler job)
  | finishes {job : Task} : Moves s (.wrote job) s (.ends job)
  | watchRaises {job : Task} : Moves s (.wrote job) s (.handler job)
  | logs {job : Task} {text : String} {now : Stamp} {c : Catalog}
    (h : s.catalog.log .failed job.discId job.slot (some text) now = .ok c) :
    Moves s (.handler job) { s with catalog := c } (.ends job)
  | logRaises {job : Task} : Moves s (.handler job) s (.ends job)
  | reports {job : Task} : Moves s (.ends job) { s with current := none } .idle

/-- A site on which nothing goes on yet. -/
def new (c : Catalog) : Threads Site Point := ⟨⟨c, none⟩, fun _ => .idle⟩

/-- Any interleaving of any number of requests and of the jobs they start. -/
abbrev Run (c c' : Threads Site Point) : Prop :=
  Threads.Steps (fun _ s p s' p' => Moves s p s' p') c c'

end Site

end StakkaWeb
