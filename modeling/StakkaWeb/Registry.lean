import StakkaWeb.Controller

/-!
# The registry of jobs (`JobRegistry` in `jobs.py`) and `submit`

The index of the recent jobs and the order in which they were added, and the controller with it:
`submit` adds the job after it has left the `with`, and starts the thread after that. The registry
has a lock of its own, so that an `add` and a `get` are one step each. A job goes by its id.
-/

set_option autoImplicit false

namespace StakkaWeb

open Lib

/-- `JobRegistry`. `added` is for the specification: every id that was ever added. -/
structure Registry where
  jobs : Nat → Option Nat
  order : List Nat
  keep : Nat
  added : List Nat

namespace Registry

def new (keep : Nat) : Registry := ⟨fun _ => none, [], keep, []⟩

/-- `while len(self._order) > self._keep: self._jobs.pop(self._order.pop(0), None)` -/
def trim (keep : Nat) : List Nat → (Nat → Option Nat) → List Nat × (Nat → Option Nat)
  | [], jobs => ([], jobs)
  | id :: order, jobs =>
    if keep < (id :: order).length then trim keep order (Function.update jobs id none)
    else (id :: order, jobs)

def add (job : Nat) (r : Registry) : Registry :=
  let jobs := Function.update r.jobs job (some job)
  let trimmed := trim r.keep (r.order ++ [job]) jobs
  { r with jobs := trimmed.2, order := trimmed.1, added := r.added ++ [job] }

def get (r : Registry) (jobId : Nat) : Option Nat := r.jobs jobId

end Registry

/-- What the threads of the site share. -/
structure Service where
  control : Control
  registry : Registry

namespace Service

/-- The next statement of a thread. At `submitStart` it is `self.registry.add(job)`. -/
inductive Spot where
  | at_ (p : Point)
  /-- `submit`: `thread.start()` -/
  | starting (job : Nat)
  deriving DecidableEq, Repr

/-- The atomic steps of a thread: those of the controller, but `submit` adds its job before it
starts the thread, and anybody may look a job up. -/
inductive Moves (t : Nat) (s : Service) : Spot → Service → Spot → Prop
  | control {p p' : Point} {control : Control} (h : Control.Moves t s.control p control p')
    (hp : ∀ job, p ≠ .submitStart job) : Moves t s (.at_ p) { s with control } (.at_ p')
  | add {job : Nat} : Moves t s (.at_ (.submitStart job))
    { s with registry := s.registry.add job } (.starting job)
  | start {job : Nat} : Moves t s (.starting job)
    { s with control := { s.control with started := job :: s.control.started } } (.at_ .idle)
  | get (jobId : Nat) : Moves t s (.at_ .idle) s (.at_ .idle)

/-- The site with all its threads. -/
abbrev System : Type := Threads Service Spot

/-- Nothing has been called yet. -/
def System.new (keep : Nat) : System := ⟨⟨Control.new, Registry.new keep⟩, fun _ => .at_ .idle⟩

/-- Any interleaving of any number of calls. -/
abbrev System.Run (c c' : System) : Prop :=
  Threads.Steps (fun t s p s' p' => Moves t s p s' p') c c'

end Service

end StakkaWeb
