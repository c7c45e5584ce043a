import StakkaWeb.Lib.Threads
import StakkaWeb.Outside

/-!
# The controller's threads (`device.py`)

`submit`, `_run`, `_run_owned`, `current`, `_claimed` and `tend` as the atomic steps they are made
of: each taking and releasing of `_lock` and `_device`, each reading and writing of `_current` and
of a job's phase, the start and the end of a runner. Any number of threads are at some `Point` of
this code; `Control.Moves` is what the next step of one may be. What a job does to the unit is not
here: `_run_owned` itself is `runOwned`.

A runner may show any phases, report an end, and after that or before return or raise. It shows no
other phase after the report, as no flow does.
-/

set_option autoImplicit false

namespace StakkaWeb

open Lib

/-- Why a thread asks for `current`. -/
inductive Errand where
  /-- `info`: to show it on a page. -/
  | info
  /-- `_claimed`, for `probe`. -/
  | probe
  /-- `_claimed`, for `reconnect`. -/
  | reconnect
  /-- `_claimed` again, when it could not have the unit in time. -/
  | gaveUp
  /-- `tend` -/
  | tend
  deriving DecidableEq, Repr

/-- The next statement of a thread. Jobs are numbered. -/
inductive Point where
  /-- Between two calls; also a worker that has ended or not begun. -/
  | idle
  /-- `submit`: `with self._lock:` -/
  | submit (job : Nat)
  /-- `self._current` is read. -/
  | submitRead (job : Nat)
  /-- `.done` of what was in `_current` is read. -/
  | submitDone (job : Nat) (held : Option Nat)
  /-- `raise Busy` leaves the `with`. -/
  | submitBusy (job : Nat)
  /-- `self._current = job` -/
  | submitWrite (job : Nat)
  /-- The `with` is left. -/
  | submitExit (job : Nat)
  /-- `self.registry.add(job)`, `thread.start()` -/
  | submitStart (job : Nat)
  /-- `_run`: `with self._device:` -/
  | run (job : Nat)
  /-- `_run_owned`: the trace is made, `self._ds.open()` -/
  | opening (job : Nat)
  /-- `self._ds.trace = trace.status` -/
  | tracing (job : Nat)
  /-- `db.connect` -/
  | connecting (job : Nat)
  /-- Inside `runner(...)`. -/
  | runner (job : Nat)
  /-- Inside an `except` clause. -/
  | handler (job : Nat)
  /-- `finally: self._ds.trace = None` -/
  | finally_ (job : Nat)
  /-- The trace and the connection are closed, `job.done` is read. -/
  | closing (job : Nat)
  /-- `job.fail("Job ended without reporting a result")` -/
  | unreported (job : Nat)
  /-- `_run` leaves its `with`. -/
  | runExit
  /-- `current`: `with self._lock:` -/
  | current (errand : Errand)
  /-- `self._current` is read. -/
  | currentRead (errand : Errand)
  /-- The `with` is left. -/
  | currentExit (errand : Errand) (held : Option Nat)
  /-- `job.done` is read. -/
  | currentDone (errand : Errand) (job : Nat)
  /-- `self._device.acquire(...)` -/
  | claim (errand : Errand)
  /-- The unit is used: `open`, `alive`, `reconnect`, `status`, `position`. -/
  | use (errand : Errand)
  deriving DecidableEq, Repr

namespace Point

/-- The job that the thread is about. -/
def job : Point → Option Nat
  | submit j | submitRead j | submitDone j _ | submitBusy j | submitWrite j | submitExit j
  | submitStart j | run j | opening j | tracing j | connecting j | runner j | handler j
  | finally_ j | closing j | unreported j => some j
  | _ => none

/-- Inside a `with self._lock`. -/
def locks : Point → Bool
  | submitRead _ | submitDone _ _ | submitBusy _ | submitWrite _ | submitExit _ | currentRead _
  | currentExit _ _ => true
  | _ => false

/-- Between taking and releasing the unit. -/
def owns : Point → Bool
  | opening _ | tracing _ | connecting _ | runner _ | handler _ | finally_ _ | closing _
  | unreported _ | runExit | use _ => true
  | _ => false

end Point

/-- Where a thread goes on when `current` is `None`. -/
def Errand.onFree : Errand → Point
  | .info | .gaveUp => .idle
  | e => .claim e

/-- What the threads share. `made`, `admitted`, `executed`, `ran` and `verdicts` are for the
specification: the jobs handed to `submit`, those it let in, those with an `_run_owned` call,
those whose runner was called, each in order, and for every call of `submit` whether it raised
`Busy` and whether the job in `_current` was live when `submit` read it. -/
structure Control where
  lock : Option Nat
  device : Option Nat
  current : Option Nat
  phase : Nat → Phase
  /-- Whose `trace.status` is `ds.trace`. -/
  trace : Option Nat
  /-- The jobs of started threads that have not had their first step. -/
  started : List Nat
  made : List Nat
  admitted : List Nat
  executed : List Nat
  ran : List Nat
  verdicts : List (Bool × Bool)

namespace Control

/-- A controller as it is made, all jobs as `Job.__init__` leaves them. -/
def new : Control where
  lock := none
  device := none
  current := none
  phase := fun _ => .moving
  trace := none
  started := []
  made := []
  admitted := []
  executed := []
  ran := []
  verdicts := []

/-- `not job.done` -/
def live (s : Control) (job : Nat) : Bool := !(s.phase job).terminal

/-- The job in `_current` is live. -/
def occupied (s : Control) : Bool :=
  match s.current with
  | some job => s.live job
  | none => false

def setPhase (s : Control) (job : Nat) (p : Phase) : Control :=
  { s with phase := Function.update s.phase job p }

/-- The verdict of a `submit`. -/
def judge (s : Control) (busy : Bool) : Control :=
  { s with verdicts := s.verdicts ++ [(busy, s.occupied)] }

/-- The atomic steps of a thread. -/
inductive Moves (t : Nat) (s : Control) : Point → Control → Point → Prop
  -- calls
  | callSubmit {job : Nat} (h : job ∉ s.made) :
    Moves t s .idle { s with made := job :: s.made } (.submit job)
  | callCurrent (e : Errand) (h : e ≠ .gaveUp) : Moves t s .idle s (.current e)
  -- `submit`
  | submitLock {job : Nat} (h : s.lock = none) :
    Moves t s (.submit job) { s with lock := some t } (.submitRead job)
  | submitRead {job : Nat} : Moves t s (.submitRead job) s (.submitDone job s.current)
  | submitNone {job : Nat} : Moves t s (.submitDone job none) (s.judge false) (.submitWrite job)
  | submitOver {job held : Nat} (h : s.live held = false) :
    Moves t s (.submitDone job (some held)) (s.judge false) (.submitWrite job)
  | submitLive {job held : Nat} (h : s.live held = true) :
    Moves t s (.submitDone job (some held)) (s.judge true) (.submitBusy job)
  | submitBusy {job : Nat} : Moves t s (.submitBusy job) { s with lock := none } .idle
  | submitWrite {job : Nat} : Moves t s (.submitWrite job)
    { s with current := some job, admitted := s.admitted ++ [job] } (.submitExit job)
  | submitExit {job : Nat} :
    Moves t s (.submitExit job) { s with lock := none } (.submitStart job)
  | submitStart {job : Nat} :
    Moves t s (.submitStart job) { s with started := job :: s.started } .idle
  -- `_run` and `_run_owned`
  | begin_ {job : Nat} (h : job ∈ s.started) :
    Moves t s .idle { s with started := s.started.erase job } (.run job)
  | runDevice {job : Nat} (h : s.device = none) : Moves t s (.run job)
    { s with device := some t, executed := s.executed ++ [job] } (.opening job)
  | opened {job : Nat} : Moves t s (.opening job) s (.tracing job)
  | openRaises {job : Nat} : Moves t s (.opening job) s (.handler job)
  | traced {job : Nat} :
    Moves t s (.tracing job) { s with trace := some job } (.connecting job)
  | connected {job : Nat} :
    Moves t s (.connecting job) { s with ran := s.ran ++ [job] } (.runner job)
  | connectRaises {job : Nat} : Moves t s (.connecting job) s (.handler job)
  | shows {job : Nat} (p : Phase) (hp : p.terminal = false) (h : s.live job = true) :
    Moves t s (.runner job) (s.setPhase job p) (.runner job)
  | reports {job : Nat} (p : Phase) (hp : p.terminal = true) :
    Moves t s (.runner job) (s.setPhase job p) (.runner job)
  | returns {job : Nat} : Moves t s (.runner job) s (.finally_ job)
  | raises {job : Nat} : Moves t s (.runner job) s (.handler job)
  | fails {job : Nat} : Moves t s (.handler job) (s.setPhase job .failed) (.finally_ job)
  | handlerRaises {job : Nat} : Moves t s (.handler job) s (.finally_ job)
  | untraced {job : Nat} :
    Moves t s (.finally_ job) { s with trace := none } (.closing job)
  | closeRaises {job : Nat} : Moves t s (.closing job) s .runExit
  | isOver {job : Nat} (h : s.live job = false) : Moves t s (.closing job) s .runExit
  | silent {job : Nat} (h : s.live job = true) : Moves t s (.closing job) s (.unreported job)
  | unreported {job : Nat} : Moves t s (.unreported job) (s.setPhase job .failed) .runExit
  | runExit : Moves t s .runExit { s with device := none } .idle
  -- `current`
  | currentLock {e : Errand} (h : s.lock = none) :
    Moves t s (.current e) { s with lock := some t } (.currentRead e)
  | currentRead {e : Errand} : Moves t s (.currentRead e) s (.currentExit e s.current)
  | currentNone {e : Errand} : Moves t s (.currentExit e none) { s with lock := none } e.onFree
  | currentExit {e : Errand} {held : Nat} :
    Moves t s (.currentExit e (some held)) { s with lock := none } (.currentDone e held)
  | currentOver {e : Errand} {held : Nat} (h : s.live held = false) :
    Moves t s (.currentDone e held) s e.onFree
  | currentLive {e : Errand} {held : Nat} (h : s.live held = true) :
    Moves t s (.currentDone e held) s .idle
  -- `_claimed` and `tend`
  | claimDevice {e : Errand} (h : s.device = none) :
    Moves t s (.claim e) { s with device := some t } (.use e)
  | claimWaits {e : Errand} (h : s.device ≠ none) (he : e ≠ .tend) :
    Moves t s (.claim e) s (.current .gaveUp)
  | tendGivesUp (h : s.device ≠ none) : Moves t s (.claim .tend) s .idle
  | used {e : Errand} : Moves t s (.use e) { s with device := none } .idle

end Control

/-- The controller with all its threads. -/
abbrev Controller : Type := Threads Control Point

/-- Nothing has been called yet. -/
def Controller.new : Controller := ⟨Control.new, fun _ => .idle⟩

/-- Any interleaving of any number of calls. -/
abbrev Controller.Run (c c' : Controller) : Prop :=
  Threads.Steps (fun t s p s' p' => Control.Moves t s p s' p') c c'

end StakkaWeb
