import StakkaWeb.Flows

/-!
# Running one job (`DeviceController._run_owned`)

What the worker thread does with a job while it holds the unit: open it, attach the trace, open
the database, run the flow, and turn whatever came of it into the job's end. Which thread may do
so, and when, is `Controller`'s.
-/

set_option autoImplicit false

namespace StakkaWeb

open Lib

variable {σ : Type} [Outside σ]

/-- The flows the application ships, with the arguments it submits them with. -/
inductive Flow where
  | reset
  | eject (discId : Nat)
  | add (slot : Nat)
  | return_ (slot discId : Nat)
  deriving DecidableEq, Repr

/-- `runner(ds, conn, job, trace, *args)`. -/
def Flow.run : Flow → Py σ Unit
  | .reset => runReset
  | .eject discId => runEject discId
  | .add slot => runAdd slot none
  | .return_ slot discId => runAdd slot (some discId)

/-- `_log_failure(conn, job, exc)`. -/
def logFailure (exc : Exc) : Py σ Unit := do
  let w ← Prog.gets id
  Prog.when w.conn.isOpen
    (Prog.attempt
      (do
        rollback
        logEvent .failed w.job.discId w.job.slot (some exc.text)
        commit)
      fun e => if e.isSqliteError then pure () else Prog.raise e)

/-- The three `except` clauses of `_run_owned`. -/
def reportFailure (exc : Exc) : Py σ Unit := do
  logFailure exc
  match exc with
  | .notConnected _ => fail ("Lost the Disc Stakka: " ++ exc.text) {}
  | .deviceError _ => fail exc.text {}
  | _ => fail ("Unexpected error: " ++ exc.text) {}

/-- The body of `_run_owned`'s `try`. -/
def ownedBody (runner : Py σ Unit) : Py σ Unit := do
  openUnit
  modifyDs fun ds => { ds with tracing := true }
  connect
  runner

/-- The `finally` of `_run_owned`; closing the trace and the connection does not raise. -/
def ownedFinally : Py σ Unit := do
  modifyDs fun ds => { ds with tracing := false }
  mark "end"
  closeConn
  let done ← Prog.gets fun w => w.job.done
  Prog.when (!done) (fail "Job ended without reporting a result" {})

/-- `_run_owned(job, runner, args)`, for the job in the world. It has no connection yet: the
one it opens counts its statements from zero. `traced` says whether `_trace_for` could make a
trace file. -/
def runOwned (traced : Bool) (runner : Py σ Unit) : Py σ Unit := do
  Prog.modify fun w => { w with
    trace := ⟨traced, none, []⟩
    conn := { w.conn with isOpen := false, view := w.conn.committed, executed := 0 } }
  Prog.ensure (Prog.attempt (ownedBody runner) reportFailure) ownedFinally

end StakkaWeb
