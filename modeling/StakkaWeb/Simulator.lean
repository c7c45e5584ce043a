import StakkaWeb.Carousel
import StakkaWeb.Outside

/-!
# The simulated transport (`simulator.py`, the class `SimulatedTransport`)

A carousel wired up as a transport, on a virtual clock that the transport's reads advance, and
the hands in front of it. `Hands` is the schedule of `insert_disc` and `take_disc` calls: those
made between two calls of the transport, and those made as the job page shows a phase.

The lists of writes and the call counters, which only tests read, are left out.
-/

set_option autoImplicit false

namespace StakkaWeb

/-- `insert_disc` or `take_disc`. -/
inductive Hand where
  | insert
  | take
  deriving DecidableEq, Repr

def Hand.event : Hand → CarouselEvent
  | insert => .discArrives
  | take => .taken

/-- When hands act. `between k` are the calls with their `at_ms` made before the `k`-th read or
write of the transport, `shown p` those made when the phase `p` is shown, each so many
milliseconds later. -/
structure Hands where
  between : Nat → List (Nat × Hand)
  shown : Phase → List (Nat × Hand)

/-- Nobody touches the unit. -/
def Hands.none : Hands := ⟨fun _ => [], fun _ => []⟩

/-- `SimulatedTransport`. -/
structure Sim where
  car : Carousel
  present : Bool
  opened : Bool
  failOpens : Nat
  latched : Option (List Nat)
  msgid : Nat
  hands : Hands
  /-- How many reads and writes there were. -/
  calls : Nat
  /-- For the specification: the phases shown so far with their times, latest first. -/
  prompts : List (Phase × Nat)

namespace Sim

/-- `SimulatedTransport(clock, carousel, present)`. -/
def new (car : Carousel) (present : Bool) (hands : Hands) : Sim where
  car := car
  present := present
  opened := false
  failOpens := 0
  latched := none
  msgid := 0
  hands := hands
  calls := 0
  prompts := []

/-- Hand events put on the carousel's queue. -/
def feed (acts : List (Nat × Hand)) (c : Carousel) : Carousel :=
  acts.foldl (fun c a => c.at_ a.1 a.2.event) c

/-- The hands act before the next call of the transport. -/
def stir (s : Sim) : Sim :=
  { s with car := feed (s.hands.between s.calls) s.car, calls := s.calls + 1 }

/-- `_packet(msgid, cmd, payload)`. -/
def packet (s : Sim) (msgid cmd : Nat) (payload : List Nat) : List Nat :=
  [0x01, s.car.unit, msgid, cmd] ++ payload

/-- `self.clock.advance_ms(ms)`, then `self.carousel._run_due()`. -/
def tick (ms : Nat) (s : Sim) : Sim := { s with car := { s.car with now := s.car.now + ms }.runDue }

def opens (s : Sim) : Except Exc Unit × Sim :=
  if 0 < s.failOpens then
    (.error (.osError "simulated open failure"), { s with failOpens := s.failOpens - 1 })
  else if !s.present then (.error (.osError "no Disc Stakka on the bus"), s)
  else (.ok (), { s with opened := true, latched := some (s.packet s.msgid 0xCC [0, 0, 0, 0]) })

def closes (s : Sim) : Sim := { s with opened := false }

def read (timeoutMs : Nat) (s : Sim) : Except Exc (List Nat) × Sim :=
  let s := s.stir
  if !s.opened then (.error (.osError "device is not open"), s)
  else
    let s := s.tick (min timeoutMs Firmware.repeatMs)
    if !s.present then (.error (.osError "unit vanished from the bus"), s)
    else
      match s.latched with
      | none => (.error (.typeError "'NoneType' object is not iterable"), s)
      | some raw => (.ok raw, s)

/-- What `write` does with a report that is for this unit. -/
def deliver (msgid cmd : Nat) (args : List Nat) (s : Sim) : Sim :=
  match s.car.handle cmd args with
  | (none, car) => { s with car }
  | (some reply, car) =>
    { s with car, msgid, latched := some ({ s with car }.packet msgid cmd reply) }

def write (buf : List Nat) (s : Sim) : Except Exc Int × Sim :=
  let s := s.stir
  if !s.opened then (.error (.osError "device is not open"), s)
  else if !s.present then (.error (.osError "unit vanished from the bus"), s)
  else if buf.getD 1 0 ≠ 0x01 ∨ buf.getD 2 0 ≠ s.car.unit then (.ok buf.length, s)
  else (.ok buf.length, s.deliver (buf.getD 3 0) (buf.getD 4 0) ((buf.drop 5).take 5))

/-- A phase is shown: hands may act on it. -/
def show_ (p : Phase) (s : Sim) : Sim :=
  { s with car := feed ((s.hands.shown p).map fun a => (s.car.now + a.1, a.2)) s.car,
           prompts := (p, s.car.now) :: s.prompts }

instance : Outside Sim where
  opens := opens
  closes := closes
  isPresent := fun s => (s.present, s)
  read := fun _ timeoutMs => read timeoutMs
  write := write
  clock := fun s => (s.car.now, s)
  sleep := fun ms s => { s with car := { s.car with now := s.car.now + ms } }
  cue := show_

end Sim

end StakkaWeb
