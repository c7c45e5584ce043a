import StakkaWeb.Device

/-!
# Where the status is asked for

The program comes to a status word on two paths: `wait_state` polls for one, and `status` asks for
one. `Asks` says of a piece of code in which states a run of it calls `status`; it follows the
source statement by statement and is for the specification alone. A word that `run_add` hands to
the trace itself, as it does in its watch, is not asked for in this sense.

In the same way `putAwayPolls` says of a load where every status word comes from that it is told
between the acknowledgement of `0x1D` and the catalogue write.
-/

set_option autoImplicit false

namespace StakkaWeb

open Lib

/-- What there is to say, in order, of a run from a state: the states in which it calls `status`, if
nothing else is given. -/
abbrev Asks (σ : Type) (β : Type := World σ) := Nat → World σ → List β

namespace Asks

variable {σ α β : Type}

def never : Asks σ β := fun _ _ => []

/-- At once, and nowhere else. -/
def here : Asks σ := fun _ w => [w]

/-- Where `a` says, in the run of `m`; and once that has answered, where `b` says. -/
def andThen (a : Asks σ β) (m : Py σ α) (b : α → Asks σ β) : Asks σ β := fun n w =>
  a n w ++
    match m n w with
    | (.ok x, w') => b x n w'
    | _ => []

theorem andThen_ok {a : Asks σ β} {m : Py σ α} {b : α → Asks σ β} {n : Nat} {w w' : World σ} {x : α}
    (h : m n w = (.ok x, w')) : a.andThen m b n w = a n w ++ b x n w' := by
  unfold andThen
  rw [h]

theorem andThen_raise {a : Asks σ β} {m : Py σ α} {b : α → Asks σ β} {n : Nat} {w w' : World σ}
    {e : Exc} (h : m n w = (.raise e, w')) : a.andThen m b n w = a n w := by
  unfold andThen
  rw [h]
  exact List.append_nil _

theorem andThen_hang {a : Asks σ β} {m : Py σ α} {b : α → Asks σ β} {n : Nat} {w w' : World σ}
    (h : m n w = (.hang, w')) : a.andThen m b n w = a n w := by
  unfold andThen
  rw [h]
  exact List.append_nil _

/-- After `m`, which does not ask. -/
def after (m : Py σ α) (b : α → Asks σ β) : Asks σ β := never.andThen m b

/-- In each turn of a loop. -/
def turns (a : Asks σ β) (body : Py σ (Option α)) : Nat → Asks σ β
  | 0 => never
  | k + 1 => a.andThen body fun r => if r.isSome then never else turns a body k

def loop (a : Asks σ β) (body : Py σ (Option α)) : Asks σ β := fun n => turns a body n n

end Asks

variable {σ : Type} [Outside σ]

/-- `ensure_homed` asks at once, and to see whether a homing did home it. -/
def ensureHomedAsks (progress : Progress) : Asks σ :=
  Asks.here.andThen status fun st =>
    if st &&& stHomed ≠ 0 then .never
    else
      .after (idleOr "unit is busy; cannot home it") fun _ =>
      .after (report progress "Homing carousel...") fun _ =>
      .after (require cmdSetPos [home]) fun _ =>
      .after (idleOr "timed out homing the carousel") fun _ => .here

/-- `retract` asks whether the disc is gone from the bay. -/
def retractAsks (progress : Progress) : Asks σ :=
  .after (report progress "Retracting disc...") fun _ =>
  .after (waitIdle nowMs) fun _ =>
  .after (Prog.attempt (do let _ ← require cmdRetract []; pure true) fun exc =>
    match exc with
    | .deviceError _ => pure false
    | _ => Prog.raise exc) fun _ =>
  .after (idleOr "timed out taking the disc back") fun _ => .here

/-! ## The moves -/

/-- `move_to`, which asks for the same whether it is to eject or not. -/
def moveToAsks (slot : Nat) (progress : Progress) : Asks σ :=
  .after (Prog.raiseIf (decide (slotMax < slot))
    (.valueError ("slot " ++ toString slot ++ " out of range 0-" ++ toString slotMax))) fun _ =>
  .after (idleOr "unit is busy") fun _ =>
  Asks.here.andThen refuseWithADiscOut fun _ =>
    if slot ≠ home then ensureHomedAsks progress else .never

def parkAsks (progress : Progress) : Asks σ :=
  .after (report progress "Returning to home...") fun _ => moveToAsks home .none

def resetAsks (progress : Progress) : Asks σ :=
  .after (report progress "Clearing errors...") fun _ =>
  .after (command cmdRequestState [] ackMs) fun _ =>
  .after (command cmdClearErr1 [] ackMs) fun _ =>
  .after (command cmdClearErr2 [] ackMs) fun _ =>
  .after (idleOr "unit stayed busy; it may need a power cycle") fun _ => .here

/-! ## The flows -/

def ejectFoundNothingAsks : Asks σ :=
  .after (setPhase .parking "Nothing came out; returning to home..." none) fun _ =>
  .after (mark "nothing in the bay") fun _ => parkAsks .none

def ejectNotTakenAsks (discId slot : Nat) : Asks σ :=
  .after (setPhase .retracting "Not taken - putting it back..." none) fun _ =>
  .after (mark "not taken; retracting") fun _ =>
  (retractAsks .note).andThen
    (exceptDeviceError (do let acked ← retract .note; pure (some acked)) fun exc => do
      ejectNotRetracted discId slot exc
      pure none) fun acked =>
    match acked with
    | some acked =>
      .after (mark ("retract " ++ if acked then "acknowledged" else "not acknowledged")) fun _ =>
      parkAsks .none
    | none => .never

def ejectTakenAsks : Asks σ :=
  .after (setPhase .parking "Returning to home..." none) fun _ =>
  .after (mark "taken; returning to home") fun _ => parkAsks .none

def ejectPresentedAsks (discId slot : Nat) : Asks σ :=
  .after (setPhase .presented "Take the disc from the unit." (some (takeWindowMs / 1000))) fun _ =>
  .after (mark "presented; waiting for it to be taken") fun _ =>
  .after (waitForTake takeWindowMs) fun taken =>
    if taken then ejectTakenAsks else ejectNotTakenAsks discId slot

def runEjectAsks (discId : Nat) : Asks σ :=
  .after (getDisc discId) fun disc =>
    match disc with
    | none => .never
    | some disc =>
      .after (setPhase .moving ("Fetching slot " ++ toString disc.slot ++ "...") none) fun _ =>
      .after (mark ("eject slot " ++ toString disc.slot)) fun _ =>
      (moveToAsks disc.slot .note).andThen (moveTo disc.slot true .note) fun _ =>
      Asks.here.andThen discInBay fun inBay =>
        if inBay then ejectPresentedAsks discId disc.slot else ejectFoundNothingAsks

def addIngestAsks : Asks σ :=
  .after (setPhase .ingesting "Taking the disc in..." none) fun _ =>
  .after (mark "disc seen; settling before 0x1D") fun _ =>
  .after (ingest .note) fun _ =>
  .after (mark "0x1D acknowledged") fun _ =>
  .after (setPhase .parking "Returning to home..." none) fun _ => parkAsks .none

def addTimedOutAsks : Asks σ :=
  .after (setPhase .parking "Timed out; returning to home..." none) fun _ => parkAsks .none

def runAddAsks (slot : Nat) : Asks σ :=
  .after (setPhase .moving ("Moving to slot " ++ toString slot ++ "...") none) fun _ =>
  .after (mark ("move to slot " ++ toString slot)) fun _ =>
  (moveToAsks slot .note).andThen (moveTo slot false .note) fun _ =>
  .after (setPhase .awaitingInsert "Insert the disc now." (some (insertWindowMs / 1000))) fun _ =>
  .after (mark "awaiting insert (watching DISC_WAITING)") fun _ =>
  .after (waitForInsert insertWindowMs) fun inserted =>
    if inserted then addIngestAsks else addTimedOutAsks

def Flow.asks : Flow → Asks σ
  | reset => .after (setPhase .moving "Resetting the unit..." none) fun _ => resetAsks .note
  | eject discId => runEjectAsks discId
  | add slot | return_ slot _ => runAddAsks slot

/-- Once `_run_owned` has opened the unit and the database. -/
def inOwned {β : Type} (traced : Bool) (a : Asks σ β) : Asks σ β :=
  .after (Prog.modify fun w => { w with
    trace := ⟨traced, none, []⟩
    conn := { w.conn with isOpen := false, view := w.conn.committed, executed := 0 } }) fun _ =>
  .after openUnit fun _ =>
  .after (modifyDs fun ds => { ds with tracing := true }) fun _ =>
  .after connect fun _ => a

def ownedAsks (traced : Bool) (flow : Flow) : Asks σ := inOwned traced flow.asks

/-! ## What a load is told -/

/-- A request for the status: by a wait, which is `strict` and reads only replies that carry status,
or by `status`, which reads any. -/
structure Poll (σ : Type) where
  strict : Bool
  world : World σ

/-- The unit answers the request, and the word `st` is read. -/
def Poll.Gets (n : Nat) (poll : Poll σ) (st : Nat) : Prop :=
  ∃ p w', command cmdRequestState [] ackMs n poll.world = (.ok (some p), w') ∧
    (poll.strict = true → p.cmd ∈ carriesStatus) ∧ p.status = st

/-- A request at once. -/
def Asks.poll (strict : Bool) : Asks σ (Poll σ) := fun _ w => [⟨strict, w⟩]

def waitPolls (mask want timeout_ms : Nat) : Asks σ (Poll σ) :=
  .after clock fun now => .loop (.poll true) (pollState mask want (now + timeout_ms))

/-- The attempts of a `require`, each with what it asks itself, and the waits between them. -/
def requirePolls (a : Asks σ (Poll σ)) (cmd : Nat) (args : List Nat) : Nat → Asks σ (Poll σ)
  | 0 => .never
  | left + 1 =>
    a.andThen (command cmd args ackMs) fun reply =>
      if reply.isSome then .never
      else
        (if 0 < left then waitPolls stBusy 0 2000 else .never).andThen
          (Prog.when (decide (0 < left)) do
            let _ ← waitIdle 2000
            pure ()) fun _ => requirePolls a cmd args left

def statusPolls : Asks σ (Poll σ) := requirePolls (.poll false) cmdRequestState [] 3

/-- `move_to(HOME)`, for which nothing needs homing first. -/
def homePolls : Asks σ (Poll σ) :=
  (waitPolls stBusy 0 settleMs).andThen (idleOr "unit is busy") fun _ =>
  statusPolls.andThen refuseWithADiscOut fun _ =>
  (requirePolls .never cmdSetPos [home, 0] 3).andThen (require cmdSetPos [home, 0]) fun _ =>
  waitPolls stBusy 0 settleMs

/-- The settle wait of `ingest`. -/
def settlePolls : Asks σ (Poll σ) := waitPolls stBusy 0 settleMs

/-- From the acknowledgement of `0x1D` to the catalogue write: the settle wait, and the park. -/
def putAwayPolls : Asks σ (Poll σ) :=
  settlePolls.andThen (idleOr "timed out taking the disc in") fun _ =>
  .after (mark "0x1D acknowledged") fun _ =>
  .after (setPhase .parking "Returning to home..." none) fun _ =>
  .after (report .none "Returning to home...") fun _ => homePolls

/-- The functions that decide something on a status word. -/
inductive Reader where
  | status
  | discInBay
  | waitState (mask want timeout_ms : Nat)
  | ensureHomed (progress : Progress)
  | refuseWithADiscOut
  | retract (progress : Progress)
  deriving DecidableEq, Repr

/-- A run of one, for what it reads. -/
def Reader.run : Reader → Py σ Unit
  | status => do let _ ← StakkaWeb.status; pure ()
  | discInBay => do let _ ← StakkaWeb.discInBay; pure ()
  | waitState mask want timeout_ms => do let _ ← StakkaWeb.waitState mask want timeout_ms; pure ()
  | ensureHomed progress => StakkaWeb.ensureHomed progress
  | refuseWithADiscOut => StakkaWeb.refuseWithADiscOut
  | retract progress => do let _ ← StakkaWeb.retract progress; pure ()

def Reader.asks : Reader → Asks σ
  | status | discInBay | refuseWithADiscOut => .here
  | waitState _ _ _ => .never
  | ensureHomed progress => ensureHomedAsks progress
  | retract progress => retractAsks progress

/-- The latest thing noted is a reply that carries the status `st`. -/
def CarriedBy (st : Nat) : List Obs → Prop
  | .answered _ p :: _ => p.status = st ∧ p.cmd ∈ carriesStatus
  | _ => False

/-- Every word noted after `base` was read from a reply that carries status. -/
def FoundedOver (base : List Obs) : List Obs → Prop
  | [] => True
  | .word st :: l => CarriedBy st (l ++ base) ∧ FoundedOver base l
  | .answered _ _ :: l | .catalogued :: l => FoundedOver base l

/-- Between two states nothing was decided on a reply that carries no status. -/
def FoundedSince (w w' : World σ) : Prop := ∃ l, w'.obs = l ++ w.obs ∧ FoundedOver w.obs l

/-- The latest thing noted is a word that says so, of a reply to `0x01` that was noted after `base`
and carries status. -/
def Attested (base obs : List Obs) (shows : Nat → Prop) : Prop :=
  ∃ p earlier, obs = .word p.status :: .answered cmdRequestState p :: (earlier ++ base) ∧
    p.cmd ∈ carriesStatus ∧ shows p.status

/-- What a run from a state reports of the unit is attested: the word it returns, what the bay
holds, the state that was waited for, that the unit is homed, that the bay is empty. `retract` that
returns reports the unit idle, and then the bay empty. -/
def Reader.Attests (n : Nat) (w : World σ) : Reader → Prop
  | status => ∀ st w', StakkaWeb.status n w = (.ok st, w') → Attested w.obs w'.obs (· = st)
  | discInBay => ∀ inBay w', StakkaWeb.discInBay n w = (.ok inBay, w') →
      Attested w.obs w'.obs fun st => inBay = decide (st &&& stDiscInBay ≠ 0)
  | waitState mask want timeout_ms => ∀ w', StakkaWeb.waitState mask want timeout_ms n w = (.ok true, w') →
      Attested w.obs w'.obs (· &&& mask = want)
  | ensureHomed progress => ∀ w', StakkaWeb.ensureHomed progress n w = (.ok (), w') →
      Attested w.obs w'.obs (· &&& stHomed ≠ 0)
  | refuseWithADiscOut => ∀ w', StakkaWeb.refuseWithADiscOut n w = (.ok (), w') →
      Attested w.obs w'.obs (· &&& stDiscInBay = 0)
  | retract progress => ∀ acked w', StakkaWeb.retract progress n w = (.ok acked, w') →
      (∃ obs, obs <:+ w'.obs ∧ Attested w.obs obs (· &&& stBusy = 0)) ∧
        Attested w.obs w'.obs (· &&& stDiscInBay = 0)

/-- If the unit answers a `status` called here, the reply carries status. -/
def CarriesHere (n : Nat) (w : World σ) : Prop :=
  ∀ p w', require cmdRequestState [] n w = (.ok p, w') → p.cmd ∈ carriesStatus

/-! ## What the trace holds -/

/-- The words that were observed, latest first. -/
def words : List Obs → List Nat
  | [] => []
  | .word st :: obs => st :: words obs
  | .answered _ _ :: obs | .catalogued :: obs => words obs

/-- Consecutive repeats collapsed. -/
def collapse : List Nat → List Nat
  | [] => []
  | st :: rest => if rest.head? = some st then collapse rest else st :: collapse rest

/-- The words on the status lines of a trace, in the order of the lines. -/
def Trace.words (t : Trace) : List Nat :=
  t.lines.filterMap fun
    | .status st => some st
    | .mark _ => none

/-- The flags by which runs are compared. -/
def signatureFlags : Nat := stDiscWaiting ||| stNewDiscAck ||| stDiscInBay ||| stAckTimeout ||| stHomed

/-- The signature of a run: the words of its trace, restricted to these flags, repeats collapsed. A
word that the trace leaves out repeats the last and would add nothing. -/
def Trace.signature (t : Trace) : List Nat := collapse (t.words.map (· &&& signatureFlags))

/-- The status lines are what was observed, repeats collapsed. -/
def Faithful (w : World σ) : Prop := w.trace.words.reverse = collapse (words w.obs)

instance (w : World σ) : Decidable (Faithful w) :=
  inferInstanceAs (Decidable (w.trace.words.reverse = collapse (words w.obs)))

/-- If the unit answers a `status` called here, the word is the one that the trace holds last. -/
def repeatsHere (n : Nat) (w : World σ) : Bool :=
  match status n w with
  | (.ok st, w') => w'.trace.last == some st
  | _ => true

end StakkaWeb
