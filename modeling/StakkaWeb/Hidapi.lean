import StakkaWeb.Lib.Threads

/-!
# The hidapi thread (`transport.py`, the class `_HidapiThread`)

`call` and `_run` as the atomic steps they are made of: taking and releasing `_lock`, reading and
writing `_thread`, `put` and `get` of the queue, the call of a function, an entry in a call's
`outcome` and its event. Any number of threads are at some `Point` of this code, and
`Hidapi.Moves` is what the next step of one may be.

Calls are numbered; a number stands for one `(fn, args, outcome, done)`. A function may return any
value or raise any exception.
-/

set_option autoImplicit false

namespace StakkaWeb

open Lib

namespace Hidapi

/-- `outcome`, a dictionary with two keys that may be missing. -/
structure Outcome (ε α : Type) where
  result : Option α := none
  error : Option ε := none

namespace Outcome

variable {ε α : Type}

/-- `outcome["result"] = ...` or `outcome["error"] = exc` -/
def store (what : Except ε α) (o : Outcome ε α) : Outcome ε α :=
  match what with
  | .ok a => { o with result := some a }
  | .error e => { o with error := some e }

/-- `raise outcome["error"]` if there is one, else `return outcome["result"]`; `none` stands for the
`KeyError`. -/
def answer (o : Outcome ε α) : Option (Except ε α) :=
  match o.error with
  | some e => some (.error e)
  | none => o.result.map .ok

end Outcome

/-- The next statement of a thread. -/
inductive Point (ε α : Type) where
  /-- Between two calls; also a worker that has not begun. -/
  | idle
  /-- `call`: `with self._lock:` -/
  | call (n : Nat)
  /-- `if self._thread is None:` -/
  | check (n : Nat)
  /-- `self._thread = threading.Thread(...)` -/
  | make (n : Nat)
  /-- `self._thread.start()` -/
  | start (n : Nat)
  /-- The `with` is left. -/
  | exit (n : Nat)
  /-- `self._calls.put((fn, args, outcome, done))` -/
  | put (n : Nat)
  /-- `done.wait()` -/
  | wait (n : Nat)
  /-- `if "error" in outcome:` and what follows -/
  | answer (n : Nat)
  /-- `_run`: `self._calls.get()` -/
  | get
  /-- Inside `fn(*args)`. -/
  | run (n : Nat)
  /-- `outcome["result"] = ...` or `outcome["error"] = exc` -/
  | store (n : Nat) (what : Except ε α)
  /-- `done.set()` -/
  | set (n : Nat)

namespace Point

variable {ε α : Type}

/-- The call that a thread has made. -/
def own : Point ε α → Option Nat
  | call n | check n | make n | start n | exit n | put n | wait n | answer n => some n
  | _ => none

/-- Inside the `with self._lock`. -/
def locks : Point ε α → Bool
  | check _ | make _ | start _ | exit _ => true
  | _ => false

/-- Inside `_run`. -/
def works : Point ε α → Bool
  | get | run _ | store _ _ | set _ => true
  | _ => false

end Point

end Hidapi

/-- What the threads share. `made`, `puts`, `begun`, `ran`, `answers` and `worker` are for the
specification: the calls made, those queued, those whose function was begun, those whose function
came to its end and how, in order, what calls came back with (`none` for a `KeyError`), and the
thread that runs `_run`. -/
structure Hidapi (ε α : Type) where
  lock : Option Nat
  /-- `self._thread is not None` -/
  thread : Bool
  /-- How many threads were started. -/
  spawned : Nat
  /-- Those of them that have not had their first step. -/
  waking : Nat
  queue : List Nat
  outcome : Nat → Hidapi.Outcome ε α
  done : Nat → Bool
  made : List Nat
  puts : List Nat
  begun : List Nat
  ran : List (Nat × Except ε α)
  answers : List (Nat × Option (Except ε α))
  worker : Option Nat

namespace Hidapi

variable {ε α : Type}

/-- `_HidapiThread()` -/
def new : Hidapi ε α where
  lock := none
  thread := false
  spawned := 0
  waking := 0
  queue := []
  outcome := fun _ => {}
  done := fun _ => false
  made := []
  puts := []
  begun := []
  ran := []
  answers := []
  worker := none

/-- The atomic steps of a thread. -/
inductive Moves (t : Nat) (s : Hidapi ε α) : Point ε α → Hidapi ε α → Point ε α → Prop
  -- `call`
  | call {n : Nat} (h : n ∉ s.made) : Moves t s .idle { s with made := n :: s.made } (.call n)
  | lock {n : Nat} (h : s.lock = none) : Moves t s (.call n) { s with lock := some t } (.check n)
  | there {n : Nat} (h : s.thread = true) : Moves t s (.check n) s (.exit n)
  | missing {n : Nat} (h : s.thread = false) : Moves t s (.check n) s (.make n)
  | make {n : Nat} : Moves t s (.make n) { s with thread := true } (.start n)
  | start {n : Nat} : Moves t s (.start n)
    { s with spawned := s.spawned + 1, waking := s.waking + 1 } (.exit n)
  | exit {n : Nat} : Moves t s (.exit n) { s with lock := none } (.put n)
  | put {n : Nat} : Moves t s (.put n)
    { s with queue := s.queue ++ [n], puts := s.puts ++ [n] } (.wait n)
  | wait {n : Nat} (h : s.done n = true) : Moves t s (.wait n) s (.answer n)
  | answer {n : Nat} : Moves t s (.answer n)
    { s with answers := s.answers ++ [(n, (s.outcome n).answer)] } .idle
  -- `_run`
  | begin_ (h : 0 < s.waking) : Moves t s .idle
    { s with waking := s.waking - 1, worker := some t } .get
  | get {n : Nat} {rest : List Nat} (h : s.queue = n :: rest) : Moves t s .get
    { s with queue := rest, begun := s.begun ++ [n] } (.run n)
  | ends {n : Nat} (what : Except ε α) : Moves t s (.run n) { s with ran := s.ran ++ [(n, what)] }
    (.store n what)
  | store {n : Nat} {what : Except ε α} : Moves t s (.store n what)
    { s with outcome := Function.update s.outcome n ((s.outcome n).store what) } (.set n)
  | set {n : Nat} : Moves t s (.set n) { s with done := Function.update s.done n true } .get

/-- The hidapi thread with all its callers. -/
abbrev System (ε α : Type) : Type := Threads (Hidapi ε α) (Point ε α)

/-- Nothing has been called yet. -/
def System.new : System ε α := ⟨Hidapi.new, fun _ => .idle⟩

/-- Any interleaving of any number of calls. -/
abbrev System.Run (c c' : System ε α) : Prop :=
  Threads.Steps (fun t s p s' p' => Moves t s p s' p') c c'

end Hidapi

end StakkaWeb
