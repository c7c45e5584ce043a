import StakkaWeb.Outside

/-!
# A transport that follows a script

What each open, read and write comes to is given in advance, by its number, and every read takes
a millisecond and `step` more. With it a law that speaks of every transport is tried on a concrete one.
-/

set_option autoImplicit false

namespace StakkaWeb

structure Puppet where
  opens : Nat → Except Exc Unit
  reads : Nat → Except Exc (List Nat)
  writes : Nat → Except Exc Int
  step : Nat
  now : Nat
  opened : Nat
  hasRead : Nat
  written : Nat

namespace Puppet

/-- A unit whose `n`-th read comes to `reads n`, and that accepts everything written. -/
def reading (reads : Nat → Except Exc (List Nat)) (step : Nat) : Puppet :=
  ⟨fun _ => .ok (), reads, fun _ => .ok 10, step, 0, 0, 0, 0⟩

instance : Outside Puppet where
  opens p := (p.opens p.opened, { p with opened := p.opened + 1 })
  closes := id
  isPresent p := (true, p)
  read _ _ p := (p.reads p.hasRead, { p with hasRead := p.hasRead + 1, now := p.now + 1 + p.step })
  write _ p := (p.writes p.written, { p with written := p.written + 1 })
  clock p := (p.now, p)
  sleep ms p := { p with now := p.now + ms }
  cue _ := id

end Puppet

end StakkaWeb
