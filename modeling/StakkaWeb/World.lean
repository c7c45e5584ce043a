import StakkaWeb.Lib.Triple
import StakkaWeb.Catalog

/-!
# The world of one run

`World σ` is everything the code of one run reads and writes: the outside world in a state of
type `σ`, the fields of the `DiscStakka` instance, the job, its trace and its database
connection. `Py σ α` is a piece of that code. The primitives below are the only ways in which
the modelled functions touch a world.

`obs` is kept for the specification alone: what the protocol was told, newest first. No modelled
function reads it.
-/

set_option autoImplicit false

namespace StakkaWeb

open Lib

/-! ## The job (`jobs.py`) -/

/-- `Job._result`, a dictionary with these two keys. -/
structure JobResult where
  discId : Option Nat := none
  needsDetails : Bool := false
  deriving DecidableEq, Repr

/-- `dict.update`: a key that is given replaces what was there. -/
def JobResult.update (old new : JobResult) : JobResult where
  discId := new.discId <|> old.discId
  needsDetails := new.needsDetails || old.needsDetails

structure Job where
  title : String
  discId : Option Nat
  slot : Option Nat
  phase : Phase
  message : String
  deadline : Option Nat
  error : Option String
  result : JobResult
  /-- For the specification: the phase and result after each `set_phase`, `succeed` and `fail`,
  oldest first, with the state `Job.__init__` leaves at the head. -/
  history : List (Phase × JobResult)
  /-- For the specification: every message the job has shown, oldest first. -/
  messages : List String
  deriving DecidableEq, Repr

namespace Job

/-- `Job(kind, title, disc_id, slot)`. -/
def new (title : String) (discId slot : Option Nat) : Job where
  title := title
  discId := discId
  slot := slot
  phase := .moving
  message := "Starting..."
  deadline := none
  error := none
  result := {}
  history := [(.moving, {})]
  messages := ["Starting..."]

def setPhase (phase : Phase) (message : String) (deadline : Option Nat) (j : Job) : Job :=
  { j with phase, message, deadline, history := j.history ++ [(phase, j.result)],
           messages := j.messages ++ [message] }

def note (message : String) (j : Job) : Job := { j with message, messages := j.messages ++ [message] }

def succeed (message : String) (result : JobResult) (j : Job) : Job :=
  { j with phase := .done, message, deadline := none, result := j.result.update result,
           history := j.history ++ [(.done, j.result.update result)],
           messages := j.messages ++ [message] }

def fail (error : String) (result : JobResult) (j : Job) : Job :=
  { j with phase := .failed, message := error, error := some error, deadline := none,
           result := j.result.update result,
           history := j.history ++ [(.failed, j.result.update result)],
           messages := j.messages ++ [error] }

/-- `Job.done`. -/
def done (j : Job) : Bool := j.phase.terminal

end Job

/-! ## The trace (`trace.py`) -/

inductive TraceLine where
  | status (word : Nat)
  | mark (label : String)
  deriving DecidableEq, Repr

/-- `Trace`, or `NullTrace` when `enabled` is false: that one records nothing. -/
structure Trace where
  enabled : Bool
  last : Option Nat
  lines : List TraceLine
  deriving DecidableEq, Repr

namespace Trace

/-- `Trace.status`: a word equal to the last one is not written again. -/
def status (word : Nat) (t : Trace) : Trace :=
  if t.enabled ∧ t.last ≠ some word then
    { t with last := some word, lines := t.lines ++ [.status word] }
  else t

def mark (label : String) (t : Trace) : Trace :=
  if t.enabled then { t with lines := t.lines ++ [.mark label] } else t

end Trace

/-! ## The database connection -/

/-- A connection of `catalog/db.py`: the committed tables, this connection's view of them, and
whether each statement it is going to run fails (the `n`-th when `faults n`). -/
structure Conn where
  isOpen : Bool
  committed : Catalog
  view : Catalog
  faults : Nat → Bool
  executed : Nat
  now : Stamp

/-! ## The protocol object and the world -/

/-- The fields of a `DiscStakka`. `tracing` says that `trace` is the job's `Trace.status`. -/
structure DiscStakka where
  isOpen : Bool
  unit : Nat
  serial : Option Nat
  firmware : Option String
  tracing : Bool
  deriving DecidableEq, Repr

/-- What the protocol was told, for the specification. -/
inductive Obs where
  /-- `command` with opcode `cmd` returned this reply. -/
  | answered (cmd : Nat) (reply : Packet)
  /-- A status word that a wait or a status reading was decided on. -/
  | word (st : Nat)
  /-- The job's own row was created or updated. -/
  | catalogued
  deriving DecidableEq, Repr

structure World (σ : Type) where
  io : σ
  ds : DiscStakka
  job : Job
  trace : Trace
  conn : Conn
  obs : List Obs

/-- A piece of the modelled code. -/
abbrev Py (σ α : Type) := Prog Exc (World σ) α

/-! ## Primitives -/

variable {σ : Type}

/-- A call on the outside world that may raise. -/
def onOutside {α : Type} (f : σ → Except Exc α × σ) : Py σ α :=
  Prog.call fun w => ((f w.io).1, { w with io := (f w.io).2 })

/-- A call on the outside world that does not. -/
def ofOutside {α : Type} (f : σ → α × σ) : Py σ α :=
  Prog.call fun w => (.ok (f w.io).1, { w with io := (f w.io).2 })

def modifyDs (f : DiscStakka → DiscStakka) : Py σ Unit :=
  Prog.modify fun w => { w with ds := f w.ds }

def modifyJob (f : Job → Job) : Py σ Unit :=
  Prog.modify fun w => { w with job := f w.job }

def modifyTrace (f : Trace → Trace) : Py σ Unit :=
  Prog.modify fun w => { w with trace := f w.trace }

def observe (o : Obs) : Py σ Unit :=
  Prog.modify fun w => { w with obs := o :: w.obs }

/-- `trace.mark(label)`. -/
def mark (label : String) : Py σ Unit := modifyTrace (Trace.mark label)

section Clock

variable [Outside σ]

/-- `_now_ms()`. -/
def clock : Py σ Nat := ofOutside Outside.clock

def cue (p : Phase) : Py σ Unit := ofOutside fun s => ((), Outside.cue p s)

/-- `(time.monotonic() + window_s) if window_s else None`. -/
def deadlineIn : Option Nat → Py σ (Option Nat)
  | some window => do
    let now ← clock
    pure (some (now + window * 1000))
  | none => pure none

/-- `job.set_phase(phase, message, window_s)`. -/
def setPhase (phase : Phase) (message : String) (window_s : Option Nat) : Py σ Unit := do
  let deadline ← deadlineIn window_s
  modifyJob (Job.setPhase phase message deadline)
  cue phase

end Clock

/-! ## Statements and transactions (`sqlite3.Connection`) -/

/-- One `conn.execute`: it fails as the environment says, or as SQLite does. -/
def execute {α : Type} (f : Catalog → Except Exc (α × Catalog)) : Py σ α :=
  Prog.call fun w =>
    let conn := { w.conn with executed := w.conn.executed + 1 }
    if w.conn.faults w.conn.executed then
      (.error (.sqliteError "database error"), { w with conn := conn })
    else
      match f w.conn.view with
      | .ok (a, view) => (.ok a, { w with conn := { conn with view } })
      | .error e => (.error e, { w with conn := conn })

/-- `conn.commit()`. -/
def commit : Py σ Unit :=
  Prog.call fun w =>
    let conn := { w.conn with executed := w.conn.executed + 1 }
    if w.conn.faults w.conn.executed then
      (.error (.sqliteError "database error"), { w with conn := conn })
    else (.ok (), { w with conn := { conn with committed := conn.view } })

/-- `conn.rollback()`. -/
def rollback : Py σ Unit :=
  Prog.call fun w =>
    let conn := { w.conn with executed := w.conn.executed + 1, view := w.conn.committed }
    if w.conn.faults w.conn.executed then
      (.error (.sqliteError "database error"), { w with conn := conn })
    else (.ok (), { w with conn := conn })

/-- `with conn:` commits after the block, or rolls back and raises what the block raised. A
commit that fails is rolled back as well. -/
def transaction {α : Type} (block : Py σ α) : Py σ α :=
  Prog.attempt (do let a ← block; commit; pure a) fun e => do rollback; Prog.raise e

/-! ## The operations of `catalog/db.py` that a flow uses -/

/-- `db.connect(path)`: opening and the `PRAGMA` may each fail. -/
def connect : Py σ Unit := do
  execute fun c => .ok ((), c)
  execute fun c => .ok ((), c)
  Prog.modify fun w => { w with conn := { w.conn with isOpen := true } }

/-- `conn.close()`: what was not committed is lost. -/
def closeConn : Py σ Unit :=
  Prog.modify fun w => { w with conn := { w.conn with isOpen := false, view := w.conn.committed } }

def getDisc (discId : Nat) : Py σ (Option Disc) := execute fun c => .ok (c.getDisc discId, c)

def logEvent (kind : EventKind) (discId slot : Option Nat) (detail : Option String) :
    Py σ Unit := do
  let now ← Prog.gets fun w => w.conn.now
  execute fun c => c.insertEvent discId slot kind detail now

/-- `create_disc(conn, slot, title, kind=kind)`; the other columns keep their defaults. -/
def createDisc (slot : Nat) (title : String) (kind : EventKind) : Py σ Nat := do
  let now ← Prog.gets fun w => w.conn.now
  transaction do
    let id ← execute fun c => c.insertDisc slot title none none none none none now
    logEvent kind (some id) (some slot) (some title)
    pure id

def markOut (discId : Nat) (kind : EventKind) (detail : Option String) : Py σ Unit := do
  let now ← Prog.gets fun w => w.conn.now
  transaction do
    execute fun c => .ok ((), c.updateWhere discId fun d =>
      { d with status := .out, checkedOutAt := some now, updatedAt := now })
    let row ← getDisc discId
    logEvent kind (some discId) (row.map Disc.slot) detail

def markStored (discId : Nat) (kind : EventKind) (detail : Option String) : Py σ Unit := do
  let now ← Prog.gets fun w => w.conn.now
  transaction do
    execute fun c => .ok ((), c.updateWhere discId fun d =>
      { d with status := .stored, checkedOutAt := none, updatedAt := now })
    let row ← getDisc discId
    logEvent kind (some discId) (row.map Disc.slot) detail

/-! ## Where runs start -/

/-- A database that works, with these rows of `disc`. -/
def Conn.working (rows : List Disc) : Conn where
  isOpen := false
  committed := ⟨rows, []⟩
  view := ⟨rows, []⟩
  faults := fun _ => false
  executed := 0
  now := 0

/-- A closed `DiscStakka`, no job yet, and this database, in front of the outside world `s`. -/
def World.boot (s : σ) (rows : List Disc) : World σ where
  io := s
  ds := ⟨false, 0, none, none, false⟩
  job := Job.new "" none none
  trace := ⟨false, none, []⟩
  conn := .working rows
  obs := []

/-- The world in which a job starts: the job is new and nothing has been observed. -/
def World.start (w : World σ) (j : Job) : World σ := { w with job := j, obs := [] }

end StakkaWeb
