import StakkaWeb.Lib.Blocks

/-!
# Which addresses are public (`_check_public` in `catalog/art.py`)

The six predicates that `_check_public` asks of an address, for IPv4 as `ipaddress` computes them
from its tables of networks; for IPv6 what the six answer is given.

`registry` is for the specification: the IPv4 special-purpose address registry, which says of each
of its blocks whether it is globally reachable.
-/

set_option autoImplicit false

namespace StakkaWeb

open Lib

abbrev IPv4Address := BitVec 32

abbrev IPv4Network := Block 32

def quad (a b c d : Nat) : IPv4Address := BitVec.ofNat 32 (((a * 256 + b) * 256 + c) * 256 + d)

/-- `IPv4Network("a.b.c.d/bits")` -/
def network (a b c d bits : Nat) : IPv4Network := ⟨quad a b c d, bits⟩

namespace IPv4Address

def linklocalNetwork : IPv4Network := network 169 254 0 0 16

def loopbackNetwork : IPv4Network := network 127 0 0 0 8

def multicastNetwork : IPv4Network := network 224 0 0 0 4

def reservedNetwork : IPv4Network := network 240 0 0 0 4

def privateNetworks : List IPv4Network := [
  network 0 0 0 0 8,
  network 10 0 0 0 8,
  network 127 0 0 0 8,
  network 169 254 0 0 16,
  network 172 16 0 0 12,
  network 192 0 0 0 24,
  network 192 0 0 170 31,
  network 192 0 2 0 24,
  network 192 168 0 0 16,
  network 198 18 0 0 15,
  network 198 51 100 0 24,
  network 203 0 113 0 24,
  network 240 0 0 0 4,
  network 255 255 255 255 32]

def privateNetworksExceptions : List IPv4Network := [
  network 192 0 0 9 32,
  network 192 0 0 10 32]

def isPrivate (a : IPv4Address) : Bool :=
  privateNetworks.any (·.Contains a) && privateNetworksExceptions.all (¬ ·.Contains a)

def isLoopback (a : IPv4Address) : Bool := loopbackNetwork.Contains a

def isLinkLocal (a : IPv4Address) : Bool := linklocalNetwork.Contains a

def isReserved (a : IPv4Address) : Bool := reservedNetwork.Contains a

def isMulticast (a : IPv4Address) : Bool := multicastNetwork.Contains a

def isUnspecified (a : IPv4Address) : Bool := a == quad 0 0 0 0

/-- `str(addr)` -/
def text (a : IPv4Address) : String :=
  ".".intercalate ([24, 16, 8, 0].map fun shift => toString (a.toNat / 2 ^ shift % 256))

end IPv4Address

/-- An IPv6 address, as far as `_check_public` asks. -/
structure IPv6Address where
  text : String
  isPrivate : Bool
  isLoopback : Bool
  isLinkLocal : Bool
  isReserved : Bool
  isMulticast : Bool
  isUnspecified : Bool
  deriving DecidableEq, Repr

/-- `ipaddress.ip_address(info[4][0])` -/
inductive Address where
  | v4 (a : IPv4Address)
  | v6 (a : IPv6Address)
  deriving DecidableEq, Repr

namespace Address

/-- The test of `_check_public`. -/
def isLocal : Address → Bool
  | v4 a => a.isPrivate || a.isLoopback || a.isLinkLocal || a.isReserved || a.isMulticast ||
      a.isUnspecified
  | v6 a => a.isPrivate || a.isLoopback || a.isLinkLocal || a.isReserved || a.isMulticast ||
      a.isUnspecified

def text : Address → String
  | v4 a => a.text
  | v6 a => a.text

end Address

/-- The addresses of a host, one after another: the first that is not public is refused. -/
def vet : List Address → Except String Unit
  | [] => .ok ()
  | addr :: addrs =>
    if addr.isLocal then
      .error ("That URL points at a private or local address (" ++ addr.text ++ "), which " ++
        "this server will not fetch.")
    else vet addrs

/-! ## The registry -/

/-- A row of the registry. -/
structure Purpose where
  block : IPv4Network
  /-- Where the row does not say, `none`. -/
  globallyReachable : Option Bool
  deriving DecidableEq, Repr

/-- The IPv4 special-purpose address registry. Not every edition lists the relay's anycast address
192.88.99.2. -/
def registry (relay : Bool) : List Purpose := [
  ⟨network 0 0 0 0 8, some false⟩,
  ⟨network 0 0 0 0 32, some false⟩,
  ⟨network 10 0 0 0 8, some false⟩,
  ⟨network 100 64 0 0 10, some false⟩,
  ⟨network 127 0 0 0 8, some false⟩,
  ⟨network 169 254 0 0 16, some false⟩,
  ⟨network 172 16 0 0 12, some false⟩,
  ⟨network 192 0 0 0 24, some false⟩,
  ⟨network 192 0 0 0 29, some false⟩,
  ⟨network 192 0 0 8 32, some false⟩,
  ⟨network 192 0 0 9 32, some true⟩,
  ⟨network 192 0 0 10 32, some true⟩,
  ⟨network 192 0 0 170 32, some false⟩,
  ⟨network 192 0 0 171 32, some false⟩,
  ⟨network 192 0 2 0 24, some false⟩,
  ⟨network 192 31 196 0 24, some true⟩,
  ⟨network 192 52 193 0 24, some true⟩,
  ⟨network 192 88 99 0 24, none⟩,
  ⟨network 192 168 0 0 16, some false⟩,
  ⟨network 192 175 48 0 24, some true⟩,
  ⟨network 198 18 0 0 15, some false⟩,
  ⟨network 198 51 100 0 24, some false⟩,
  ⟨network 203 0 113 0 24, some false⟩,
  ⟨network 240 0 0 0 4, some false⟩,
  ⟨network 255 255 255 255 32, some false⟩] ++
  if relay then [⟨network 192 88 99 2 32, some false⟩] else []

namespace IPv4Address

/-- The address is outside every block that the registry marks as not globally reachable. -/
def OutsideAll (relay : Bool) (a : IPv4Address) : Prop :=
  ∀ row ∈ registry relay, row.globallyReachable = some false → ¬ row.block.Contains a

/-- So it is but for blocks of which a smaller one, around the address, is marked as globally
reachable. -/
def GloballyReachable (relay : Bool) (a : IPv4Address) : Prop :=
  ∀ row ∈ registry relay, row.globallyReachable = some false → row.block.Contains a →
    ∃ row' ∈ registry relay, row'.globallyReachable = some true ∧ row'.block.Contains a ∧
      row.block.bits < row'.block.bits

/-- The blocks that none of the six predicates covers though the registry marks them as not
globally reachable. -/
def gaps (relay : Bool) : List IPv4Network :=
  network 100 64 0 0 10 :: if relay then [network 192 88 99 2 32] else []

end IPv4Address

end StakkaWeb
