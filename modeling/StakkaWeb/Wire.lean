/-!
# The wire: opcodes, status bits and packets

The constants at the head of `protocol.py`, the geometry of `slots.py`, and `Packet`, the 8-byte
inbound report. Bytes and status words are natural numbers, as they are integers in the source;
nothing here assumes that what a transport returns is below 256.
-/

set_option autoImplicit false

namespace StakkaWeb

/-! ## Carousel geometry -/

def slotMin : Nat := 1
def slotMax : Nat := 100
def home : Nat := 0

/-! ## Command codes -/

def cmdRequestState : Nat := 0x01
def cmdClearErr1 : Nat := 0x03
def cmdSetPos : Nat := 0x04
def cmdRetract : Nat := 0x05
def cmdSetLed : Nat := 0x06
def cmdClearErr2 : Nat := 0x14
def cmdVersionA : Nat := 0x1A
def cmdVersionB : Nat := 0x1B
def cmdGetSerial : Nat := 0x1C
def cmdAcceptDisc : Nat := 0x1D
/-- Device to host only: the unit is unacknowledged. -/
def cmdNewUnit : Nat := 0xCC

/-- Replies whose X2/X3 actually hold status flags. -/
def carriesStatus : List Nat :=
  [cmdRequestState, cmdSetPos, cmdSetLed, cmdClearErr2, cmdAcceptDisc]

/-! ## Status bits of the word `(X2 << 8) | X3` -/

def stBusy : Nat := 0x8080
def stDiscWaiting : Nat := 0x1000
def stNewDiscAck : Nat := 0x0800
def stDiscInBay : Nat := 0x0400
def stAckTimeout : Nat := 0x0200
def stHomed : Nat := 0x0001

/-! ## Timeouts, in milliseconds -/

def settleMs : Nat := 30000
def ackMs : Nat := 3000
def pollMs : Nat := 100
def nowMs : Nat := 500
def insertWindowMs : Nat := 30000
def takeWindowMs : Nat := 5000

def vid : Nat := 0x0718
def pid : Nat := 0xD000

/-! ## Packets -/

/-- An 8-byte inbound report. -/
structure Packet where
  tag : Nat
  unit : Nat
  msgid : Nat
  cmd : Nat
  x1 : Nat
  x2 : Nat
  x3 : Nat
  x4 : Nat
  deriving DecidableEq, Repr

/-- `Packet(raw)`, for a report of at least eight bytes: the rest is not looked at. -/
def Packet.ofRaw (raw : List Nat) : Packet :=
  ⟨raw.getD 0 0, raw.getD 1 0, raw.getD 2 0, raw.getD 3 0,
    raw.getD 4 0, raw.getD 5 0, raw.getD 6 0, raw.getD 7 0⟩

/-- The status word. -/
def Packet.status (p : Packet) : Nat := p.x2 <<< 8 ||| p.x3

/-- `_u32`: the serial in the four payload bytes. -/
def Packet.u32 (p : Packet) : Nat := p.x1 <<< 24 ||| p.x2 <<< 16 ||| p.x3 <<< 8 ||| p.x4

/-- Hexadecimal with at least `width` digits, as `%0*x` writes it. -/
def hex (width n : Nat) : String :=
  let digits := Nat.toDigits 16 n
  String.ofList (List.replicate (width - digits.length) '0' ++ digits)

end StakkaWeb
