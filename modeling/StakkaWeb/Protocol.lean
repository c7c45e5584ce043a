import StakkaWeb.World

/-!
# The protocol (`protocol.py`)

`DiscStakka`'s methods over any outside world, function by function. A method that the source
gives optional arguments takes them in order; `*args` is the list of payload bytes and is padded
with zeros as the defaults of `_write` do.

Every reply and status word is noted in `obs`, which is for the specification and changes nothing
else.
-/

set_option autoImplicit false

namespace StakkaWeb

open Lib

/-- `progress`: nothing, or the job's `note`, the one callback the flows pass. -/
inductive Progress where
  | none
  | note
  deriving DecidableEq, Repr

variable {σ : Type} [Outside σ]

/-- `_report(progress, message)`. -/
def report (progress : Progress) (message : String) : Py σ Unit :=
  match progress with
  | .none => pure ()
  | .note => modifyJob (Job.note message)

/-! ## Connection and wire -/

/-- What `close()` leaves of the instance. -/
def DiscStakka.shut (ds : DiscStakka) : DiscStakka :=
  { ds with isOpen := false, serial := none, firmware := none }

def close : Py σ Unit := do
  modifyDs DiscStakka.shut
  ofOutside fun s => ((), Outside.closes s)

/-- `except (IOError, OSError) as exc: self.close(); raise NotConnected(what % exc)`. -/
def orNotConnected {α : Type} (what : String) (m : Py σ α) : Py σ α :=
  Prog.attempt m fun exc =>
    if exc.isOsError then do
      close
      Prog.raise (.notConnected (what ++ exc.text))
    else Prog.raise exc

/-- `_read(timeout_ms)`. -/
def read (timeout_ms : Nat) : Py σ (Option Packet) := do
  let isOpen ← Prog.gets fun w => w.ds.isOpen
  Prog.raiseIf (!isOpen) (.notConnected "device is not open")
  let raw ← orNotConnected "read failed: " (onOutside (Outside.read 64 timeout_ms))
  if raw.isEmpty then pure none
  else if raw.length < 8 then
    Prog.raise (.deviceError ("short packet: " ++ toString raw.length ++ " bytes, need 8"))
  else pure (some (Packet.ofRaw raw))

/-- The ten bytes of `_write`: the report-id slot, the constant payload byte, the address and
the command with its five arguments. -/
def reportBytes (unit msgid cmd : Nat) (args : List Nat) : List Nat :=
  [0x00, 0x01, unit, msgid, cmd] ++ args ++ List.replicate (5 - args.length) 0

/-- `_write(msgid, cmd, *args)`. -/
def write (msgid cmd : Nat) (args : List Nat) : Py σ Unit := do
  let ds ← Prog.gets fun w => w.ds
  Prog.raiseIf (!ds.isOpen) (.notConnected "device is not open")
  let buf := reportBytes ds.unit msgid cmd args
  Prog.raiseIf (buf.any fun b => decide (255 < b)) (.valueError "bytes must be in range(0, 256)")
  let count ← orNotConnected "write failed: " (onOutside (Outside.write buf))
  Prog.raiseIf (decide (count < 0)) (.deviceError "write failed")

/-- One turn of `command`'s wait: `none` to go on. -/
def awaitReply (cmd msgid deadline : Nat) : Py σ (Option (Option Packet)) := do
  let now ← clock
  if now < deadline then do
    let reply ← read pollMs
    match reply with
    | some p =>
      if p.msgid = msgid then do
        observe (.answered cmd p)
        pure (some (some p))
      else pure none
    | none => pure none
  else pure (some none)

/-- `command(cmd, *args, timeout_ms=timeout_ms)`: `none` when the unit never acks. -/
def command (cmd : Nat) (args : List Nat) (timeout_ms : Nat) : Py σ (Option Packet) := do
  let seed ← read timeout_ms
  match seed with
  | none => Prog.raise (.deviceError "unit is silent; it should stream continuously")
  | some seed => do
    let msgid := (seed.msgid + 1) % 256
    write msgid cmd args
    let now ← clock
    Prog.loop (awaitReply cmd msgid (now + timeout_ms))

/-! ## State -/

/-- `if self.trace is not None: self.trace(st)`. -/
def traceStatus (st : Nat) : Py σ Unit :=
  Prog.modify fun w => if w.ds.tracing then { w with trace := w.trace.status st } else w

/-- What `wait_state` makes of one reply. -/
def matchState (mask want : Nat) : Option Packet → Py σ Bool
  | some p =>
    if p.cmd ∈ carriesStatus then do
      observe (.word p.status)
      traceStatus p.status
      pure (decide (p.status &&& mask = want))
    else pure false
  | none => pure false

/-- One turn of `wait_state`. -/
def pollState (mask want deadline : Nat) : Py σ (Option Bool) := do
  let reply ← command cmdRequestState [] ackMs
  let matched ← matchState mask want reply
  if matched then pure (some true)
  else do
    let now ← clock
    pure (if deadline ≤ now then some false else none)

/-- `wait_state(mask, want, timeout_ms)`. -/
def waitState (mask want timeout_ms : Nat) : Py σ Bool := do
  let now ← clock
  Prog.loop (pollState mask want (now + timeout_ms))

def waitIdle (timeout_ms : Nat) : Py σ Bool := waitState stBusy 0 timeout_ms

/-- `require`, with `left` attempts to go of `tries`. -/
def requireFrom (cmd : Nat) (args : List Nat) (tries : Nat) : Nat → Py σ Packet
  | 0 => Prog.raise (.deviceError ("unit did not acknowledge command " ++ hex 2 cmd ++ " (" ++
      toString tries ++ " attempts)"))
  | left + 1 => do
    let reply ← command cmd args ackMs
    match reply with
    | some p => pure p
    | none => do
      Prog.when (decide (0 < left)) do
        let _ ← waitIdle 2000
        pure ()
      requireFrom cmd args tries left

/-- `require(cmd, *args)` with its three tries. -/
def require (cmd : Nat) (args : List Nat) : Py σ Packet := requireFrom cmd args 3 3

def status : Py σ Nat := do
  let reply ← require cmdRequestState []
  observe (.word reply.status)
  pure reply.status

def position : Py σ Nat := do
  let reply ← require cmdClearErr2 []
  pure reply.x1

def waitForInsert (timeout_ms : Nat) : Py σ Bool :=
  waitState stDiscWaiting stDiscWaiting timeout_ms

def waitForTake (timeout_ms : Nat) : Py σ Bool := waitState stDiscInBay 0 timeout_ms

def discInBay : Py σ Bool := do
  let st ← status
  pure (decide (st &&& stDiscInBay ≠ 0))

/-- `if not self.wait_idle(): raise DeviceError(msg)`. -/
def idleOr (msg : String) : Py σ Unit := do
  let idle ← waitIdle settleMs
  Prog.raiseIf (!idle) (.deviceError msg)

def ensureHomed (progress : Progress) : Py σ Unit := do
  let st ← status
  if st &&& stHomed ≠ 0 then pure ()
  else do
    idleOr "unit is busy; cannot home it"
    report progress "Homing carousel..."
    let _ ← require cmdSetPos [home]
    idleOr "timed out homing the carousel"
    let st ← status
    Prog.raiseIf (decide (st &&& stHomed = 0)) (.deviceError "the carousel did not home")

/-! ## Handshake -/

/-- `_read_firmware()`. -/
def readFirmware : Py σ (Option String) := do
  let a ← command cmdVersionA [] ackMs
  let b ← command cmdVersionB [] ackMs
  match a, b with
  | some a, some b =>
    pure (some (hex 2 b.x2 ++ "." ++ hex 2 a.x4 ++ "." ++ hex 2 b.x3 ++ hex 2 b.x4))
  | _, _ => pure none

/-- One turn of the handshake's loop. -/
def greet (deadline : Nat) : Py σ (Option Unit) := do
  let now ← clock
  if now < deadline then do
    let pkt ← read pollMs
    match pkt with
    | none => pure none
    | some pkt => do
      modifyDs fun ds => { ds with unit := pkt.unit }
      if pkt.cmd = cmdNewUnit then do
        write ((pkt.msgid + 1) % 256) cmdGetSerial []
        pure none
      else if pkt.cmd = cmdGetSerial then do
        modifyDs fun ds => { ds with serial := some pkt.u32 }
        pure (some ())
      else do
        let reply ← command cmdGetSerial [] ackMs
        match reply with
        | none => Prog.raise (.deviceError "unit would not report its serial")
        | some reply => do
          modifyDs fun ds => { ds with serial := some reply.u32 }
          pure (some ())
  else Prog.raise (.deviceError "no packets from the unit during handshake")

/-- `_handshake()`. -/
def handshake : Py σ Unit := do
  let now ← clock
  Prog.loop (greet (now + 5000))
  let firmware ← readFirmware
  modifyDs fun ds => { ds with firmware }

/-- One attempt of `open`: `none` when the unit is open, else what went wrong. -/
def openOnce : Py σ (Option Exc) :=
  Prog.attempt
    (do
      onOutside Outside.opens
      modifyDs fun ds => { ds with isOpen := true }
      Prog.attempt (do handshake; pure none) fun exc => do
        close
        pure (some exc))
    fun exc => if exc.isOsError then pure (some exc) else Prog.raise exc

/-- The attempts of `open`, with `left` to go and `last` the text of the latest failure. -/
def openFrom (last : String) : Nat → Py σ Unit
  | 0 => Prog.raise (.notConnected ("cannot open Disc Stakka (" ++ hex 4 vid ++ ":" ++ hex 4 pid ++
      "): " ++ last))
  | left + 1 => do
    let failed ← openOnce
    match failed with
    | none => pure ()
    | some exc => do
      Prog.when (decide (0 < left)) (ofOutside fun s => ((), Outside.sleep 400 s))
      openFrom exc.text left

/-- `open(attempts=3)`. -/
def openUnit : Py σ Unit := do
  let isOpen ← Prog.gets fun w => w.ds.isOpen
  if isOpen then pure () else openFrom "None" 3

/-! ## Operations -/

/-- `_refuse_with_a_disc_out()`. -/
def refuseWithADiscOut : Py σ Unit := do
  let inBay ← discInBay
  Prog.raiseIf inBay (.deviceError "There is a disc in the bay. Take it out first.")

def reset (progress : Progress) : Py σ Unit := do
  report progress "Clearing errors..."
  let _ ← command cmdRequestState [] ackMs
  let _ ← command cmdClearErr1 [] ackMs
  let _ ← command cmdClearErr2 [] ackMs
  idleOr "unit stayed busy; it may need a power cycle"
  refuseWithADiscOut
  let _ ← command cmdSetLed [1, 1] ackMs
  report progress "Homing carousel..."
  let _ ← require cmdSetPos [home]
  idleOr "timed out returning to home"

/-- `move_to(slot, eject, progress)`; a negative slot, which no caller has, is not a `Nat`. -/
def moveTo (slot : Nat) (eject : Bool) (progress : Progress) : Py σ Unit := do
  Prog.raiseIf (decide (slotMax < slot))
    (.valueError ("slot " ++ toString slot ++ " out of range 0-" ++ toString slotMax))
  idleOr "unit is busy"
  refuseWithADiscOut
  Prog.when (decide (slot ≠ home)) (ensureHomed progress)
  let _ ← require cmdSetPos [slot, if eject then 1 else 0]
  idleOr ("timed out moving to slot " ++ toString slot)

def park (progress : Progress) : Py σ Unit := do
  report progress "Returning to home..."
  -- best effort: any `DeviceError` is swallowed
  Prog.attempt (moveTo home false .none) fun exc =>
    if exc.isDeviceError then pure () else Prog.raise exc

def ingest (progress : Progress) : Py σ Unit := do
  report progress "Disc detected, drawing it in..."
  idleOr "the disc never settled at the aperture"
  report progress "Taking disc in..."
  let _ ← require cmdAcceptDisc []
  idleOr "timed out taking the disc in"

/-- `retract(progress)`: whether the unit acknowledged `0x05`. -/
def retract (progress : Progress) : Py σ Bool := do
  report progress "Retracting disc..."
  let _ ← waitIdle nowMs
  let acked ← Prog.attempt (do let _ ← require cmdRetract []; pure true) fun exc =>
    match exc with
    | .deviceError _ => pure false
    | _ => Prog.raise exc
  idleOr "timed out taking the disc back"
  let inBay ← discInBay
  Prog.raiseIf inBay
    (.deviceError "the unit did not take the disc back; it is still in the bay")
  pure acked

/-- `alive()`: the open handle still reaches the unit. -/
def alive : Py σ Bool :=
  Prog.attempt (do let _ ← read 0; pure true) fun exc =>
    match exc with
    | .notConnected _ => pure false
    | _ => Prog.raise exc

/-- `reconnect()`. -/
def reconnect : Py σ Unit := do
  close
  openUnit

end StakkaWeb
