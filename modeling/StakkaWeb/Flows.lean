import StakkaWeb.Protocol

/-!
# The hardware flows (`flows.py`)

`run_reset`, `run_eject` and `run_add` over any outside world, cut where the source has its
`return`s: the branches that end a flow early are definitions of their own. Times that the
source takes in seconds from `time.monotonic` are in milliseconds here.
-/

set_option autoImplicit false

namespace StakkaWeb

open Lib

variable {σ : Type} [Outside σ]

def succeed (message : String) (result : JobResult) : Py σ Unit :=
  modifyJob (Job.succeed message result)

def fail (error : String) (result : JobResult) : Py σ Unit := modifyJob (Job.fail error result)

/-- `except DeviceError as exc: handler(exc)`. -/
def exceptDeviceError {α : Type} (m : Py σ α) (handler : Exc → Py σ α) : Py σ α :=
  Prog.attempt m fun exc => if exc.isDeviceError then handler exc else Prog.raise exc

/-! ## Reset -/

def runReset : Py σ Unit := do
  setPhase .moving "Resetting the unit..." none
  reset .note
  logEvent .reset none none none
  commit
  succeed "Unit reset. Carousel is at home." {}

/-! ## Eject -/

/-- `run_eject` when the bay reads empty after the move. -/
def ejectFoundNothing (discId slot : Nat) : Py σ Unit := do
  setPhase .parking "Nothing came out; returning to home..." none
  mark "nothing in the bay"
  park .none
  logEvent .failed (some discId) (some slot) (some "eject found no disc")
  commit
  fail ("Slot " ++ toString slot ++ " appears to be empty. If the disc is already out, open it " ++
    "and mark it as taken out.") { discId := some discId }

/-- `run_eject` when `retract` raised: the disc is left in the bay. -/
def ejectNotRetracted (discId slot : Nat) (exc : Exc) : Py σ Unit := do
  mark ("retract failed: " ++ exc.text)
  logEvent .failed (some discId) (some slot) (some ("retract: " ++ exc.text))
  commit
  fail ("The disc was not taken in time, and the unit could not put it back: " ++ exc.text ++
    ". Take it from the bay, mark the disc as taken out, then Reset the unit.")
    { discId := some discId }

/-- `run_eject` once the disc is back in its slot. -/
def ejectRetracted (discId slot : Nat) (acked : Bool) : Py σ Unit := do
  mark ("retract " ++ if acked then "acknowledged" else "not acknowledged")
  park .none
  logEvent .retracted (some discId) (some slot) none
  commit
  fail ("The disc was not taken in time, so the unit took it back towards slot " ++
    toString slot ++ ". If you took it as it went in, open the disc and mark it as taken out.")
    { discId := some discId }

/-- `run_eject` when nobody took the disc. -/
def ejectNotTaken (discId slot : Nat) : Py σ Unit := do
  setPhase .retracting "Not taken - putting it back..." none
  mark "not taken; retracting"
  let acked ← exceptDeviceError (do let acked ← retract .note; pure (some acked)) fun exc => do
    ejectNotRetracted discId slot exc
    pure none
  match acked with
  | some acked => ejectRetracted discId slot acked
  | none => pure ()

/-- `run_eject` once the disc has been taken. -/
def ejectTaken (discId slot : Nat) (title : String) : Py σ Unit := do
  setPhase .parking "Returning to home..." none
  mark "taken; returning to home"
  park .none
  markOut discId .ejected none
  succeed ("A disc was taken from slot " ++ toString slot ++ ". The catalogue now lists " ++
    title ++ " as checked out and holds the slot for its return.") { discId := some discId }

/-- `run_eject` once the disc is seen in the bay. -/
def ejectPresented (discId slot : Nat) (title : String) : Py σ Unit := do
  setPhase .presented "Take the disc from the unit." (some (takeWindowMs / 1000))
  mark "presented; waiting for it to be taken"
  let taken ← waitForTake takeWindowMs
  if taken then ejectTaken discId slot title else ejectNotTaken discId slot

def runEject (discId : Nat) : Py σ Unit := do
  let disc ← getDisc discId
  match disc with
  | none => fail "That disc is no longer in the catalogue." {}
  | some disc => do
    let slot := disc.slot
    setPhase .moving ("Fetching slot " ++ toString slot ++ "...") none
    mark ("eject slot " ++ toString slot)
    moveTo slot true .note
    let inBay ← discInBay
    if inBay then ejectPresented discId slot disc.title else ejectFoundNothing discId slot

/-! ## Add and return -/

/-- `run_add` when no disc was fed in. -/
def addTimedOut (slot : Nat) (discId : Option Nat) : Py σ Unit := do
  setPhase .parking "Timed out; returning to home..." none
  park .none
  logEvent .failed discId (some slot) (some "no disc inserted")
  commit
  fail "No disc went in within 30 seconds. Nothing has changed." {}

/-- The catalogue write of `run_add`, with the id of the disc it is about. -/
def writeRow (slot : Nat) : Option Nat → Py σ Nat
  | some id => do
    markStored id .returned none
    pure id
  | none => createDisc slot ("Untitled disc (slot " ++ toString slot ++ ")") .added

/-- `writeRow`, observed. -/
def catalogue (slot : Nat) (discId : Option Nat) : Py σ Nat := do
  let id ← writeRow slot discId
  observe .catalogued
  pure id

/-- One turn of the watch after parking. -/
def watchOnce (deadline : Nat) : Py σ (Option Unit) := do
  let now ← clock
  if now < deadline then do
    let st ← status
    modifyTrace (Trace.status st)
    pure none
  else pure (some ())

/-- The ten seconds in which `run_add` watches whether the disc comes back out. -/
def watch : Py σ Unit := do
  mark "parked; watching for 10s to see if it comes back out"
  let now ← clock
  exceptDeviceError (Prog.loop (watchOnce (now + 10000))) fun exc =>
    mark ("lost the unit while watching: " ++ exc.text)

/-- `run_add` from the moment a disc is seen at the aperture to the park. -/
def addIngest : Py σ Unit := do
  setPhase .ingesting "Taking the disc in..." none
  mark "disc seen; settling before 0x1D"
  ingest .note
  mark "0x1D acknowledged"
  setPhase .parking "Returning to home..." none
  park .none

/-- `run_add` from the catalogue write on. -/
def addFinish (slot : Nat) (discId : Option Nat) : Py σ Unit := do
  let id ← catalogue slot discId
  watch
  match discId with
  | some _ => do
    let disc ← getDisc id
    succeed ((match disc with | some d => d.title | none => "Disc") ++ " is back in slot " ++
      toString slot ++ ".") { discId := some id }
  | none =>
    succeed ("Disc loaded into slot " ++ toString slot ++ ". Now give it a name.")
      { discId := some id, needsDetails := true }

/-- `run_add(ds, conn, job, trace, slot, disc_id)`; `discId` is given for a return. -/
def runAdd (slot : Nat) (discId : Option Nat) : Py σ Unit := do
  setPhase .moving ("Moving to slot " ++ toString slot ++ "...") none
  mark ("move to slot " ++ toString slot)
  moveTo slot false .note
  setPhase .awaitingInsert "Insert the disc now." (some (insertWindowMs / 1000))
  mark "awaiting insert (watching DISC_WAITING)"
  let inserted ← waitForInsert insertWindowMs
  if inserted then do
    addIngest
    addFinish slot discId
  else addTimedOut slot discId

end StakkaWeb
