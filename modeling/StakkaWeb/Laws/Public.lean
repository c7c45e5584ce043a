import StakkaWeb.Fetch

/-!
# What `_check_public` lets through

The tables of `ipaddress` against the registry. Each block that the registry marks as not globally
reachable lies within a private network, or is one of the gaps; an address in a gap passes all six
predicates.
-/

set_option autoImplicit false

namespace StakkaWeb

open Lib

namespace IPv4Address

/-- The blocks that the registry marks as not globally reachable. -/
def marked (relay : Bool) : List IPv4Network :=
  ((registry relay).filter (·.globallyReachable = some false)).map (·.block)

/-- What the predicates but `is_private` read. -/
def otherNetworks : List IPv4Network :=
  [loopbackNetwork, linklocalNetwork, reservedNetwork, multicastNetwork, network 0 0 0 0 32]

def InGap (relay : Bool) (a : IPv4Address) : Prop := ∃ b ∈ gaps relay, b.Contains a

/-- The address is one of the two that `is_private` leaves out. -/
def IsException (a : IPv4Address) : Prop := ∃ b ∈ privateNetworksExceptions, b.Contains a

instance (relay : Bool) (a : IPv4Address) : Decidable (InGap relay a) :=
  inferInstanceAs (Decidable (∃ _ ∈ _, _))

instance (a : IPv4Address) : Decidable (IsException a) :=
  inferInstanceAs (Decidable (∃ _ ∈ _, _))

/-! ## The tables -/

theorem marked_within (relay : Bool) :
    ∀ b ∈ marked relay, ∃ c ∈ privateNetworks ++ gaps relay, b.Within c := by
  cases relay <;> decide

theorem gaps_marked (relay : Bool) : ∀ b ∈ gaps relay, ∃ c ∈ marked relay, b.Within c := by
  cases relay <;> decide

theorem gaps_apart (relay : Bool) :
    ∀ b ∈ gaps relay, ∀ c ∈ privateNetworks ++ otherNetworks, b.Apart c := by
  cases relay <;> decide

theorem gaps_unmarked (relay : Bool) : ∀ b ∈ gaps relay, ∀ row ∈ registry relay,
    row.globallyReachable = some true → b.Apart row.block := by
  cases relay <;> decide

theorem exceptions_apart : ∀ b ∈ privateNetworksExceptions, ∀ c ∈ otherNetworks, b.Apart c := by
  decide

theorem exceptions_marked (relay : Bool) :
    ∀ b ∈ privateNetworksExceptions, ∃ c ∈ marked relay, b.Within c := by
  cases relay <;> decide

/-- Around an exception, every block that is marked as not globally reachable has one within it that
is. -/
theorem exceptions_reachable (relay : Bool) : ∀ b ∈ privateNetworksExceptions,
    ∀ row ∈ registry relay, row.globallyReachable = some false → b.Apart row.block ∨
      ∃ row' ∈ registry relay, row'.globallyReachable = some true ∧ b.Within row'.block ∧
        row.block.bits < row'.block.bits := by
  cases relay <;> decide

/-! ## One address -/

variable {relay : Bool} {a : IPv4Address}

theorem outsideAll_iff : OutsideAll relay a ↔ ¬ ∃ b ∈ marked relay, b.Contains a := by
  constructor
  · rintro h ⟨b, hb, hba⟩
    obtain ⟨row, hrow, rfl⟩ := List.mem_map.mp hb
    obtain ⟨hmem, hfalse⟩ := List.mem_filter.mp hrow
    exact h row hmem (of_decide_eq_true hfalse) hba
  · intro h row hmem hfalse hba
    exact h ⟨row.block, List.mem_map_of_mem (List.mem_filter.mpr ⟨hmem, decide_eq_true hfalse⟩), hba⟩

theorem isPrivate_iff : a.isPrivate = true ↔
    (∃ b ∈ privateNetworks, b.Contains a) ∧ ¬ a.IsException := by
  unfold isPrivate IsException
  simp

theorem isLocal_v4 : (Address.v4 a).isLocal = (a.isPrivate || a.isLoopback || a.isLinkLocal ||
    a.isReserved || a.isMulticast || a.isUnspecified) := rfl

/-- Neither private nor in any other of the networks, an address passes. -/
theorem isLocal_of_outside (hprivate : a.isPrivate = false)
    (h : ¬ ∃ b ∈ otherNetworks, b.Contains a) : (Address.v4 a).isLocal = false := by
  have away (b : IPv4Network) (hb : b ∈ otherNetworks) : ¬ b.Contains a := fun hba => h ⟨b, hb, hba⟩
  have hunspecified : a.isUnspecified = false := by
    apply Bool.eq_false_iff.mpr
    intro hu
    obtain rfl := eq_of_beq hu
    exact away (network 0 0 0 0 32) (by decide) (by decide)
  have hloopback : a.isLoopback = false := decide_eq_false (away loopbackNetwork (by decide))
  have hlink : a.isLinkLocal = false := decide_eq_false (away linklocalNetwork (by decide))
  have hreserved : a.isReserved = false := decide_eq_false (away reservedNetwork (by decide))
  have hmulticast : a.isMulticast = false := decide_eq_false (away multicastNetwork (by decide))
  rw [isLocal_v4, hprivate, hloopback, hlink, hreserved, hmulticast, hunspecified]
  rfl

/-- **An address in a gap passes.** -/
theorem InGap.isLocal (h : a.InGap relay) : (Address.v4 a).isLocal = false := by
  have away := Block.not_exists_contains (gaps_apart relay) h
  refine isLocal_of_outside (Bool.eq_false_iff.mpr fun hp => ?_) fun ⟨b, hb, hba⟩ => ?_
  · obtain ⟨⟨b, hb, hba⟩, -⟩ := isPrivate_iff.mp hp
    exact away ⟨b, List.mem_append_left _ hb, hba⟩
  · exact away ⟨b, List.mem_append_right _ hb, hba⟩

theorem InGap.not_outsideAll (h : a.InGap relay) : ¬ a.OutsideAll relay := by
  intro ho
  exact outsideAll_iff.mp ho (Block.exists_contains (gaps_marked relay) h)

theorem InGap.not_reachable (h : a.InGap relay) : ¬ a.GloballyReachable relay := by
  intro hr
  obtain ⟨c, hc, hca⟩ := Block.exists_contains (gaps_marked relay) h
  obtain ⟨row, hrow, rfl⟩ := List.mem_map.mp hc
  obtain ⟨hmem, hfalse⟩ := List.mem_filter.mp hrow
  obtain ⟨row', hmem', htrue, hra, -⟩ := hr row hmem (of_decide_eq_true hfalse) hca
  obtain ⟨b, hb, hba⟩ := h
  exact (gaps_unmarked relay b hb row' hmem' htrue).not_contains hba hra

theorem IsException.isLocal (h : a.IsException) : (Address.v4 a).isLocal = false := by
  apply isLocal_of_outside
  · exact Bool.eq_false_iff.mpr fun hp => (isPrivate_iff.mp hp).2 h
  · exact Block.not_exists_contains exceptions_apart h

theorem IsException.not_outsideAll (h : a.IsException) : ¬ a.OutsideAll relay := by
  intro ho
  exact outsideAll_iff.mp ho (Block.exists_contains (exceptions_marked relay) h)

theorem IsException.reachable (h : a.IsException) : a.GloballyReachable relay := by
  intro row hmem hfalse hra
  obtain ⟨b, hb, hba⟩ := h
  rcases exceptions_reachable relay b hb row hmem hfalse with hapart | ⟨row', hmem', htrue, hin, hlt⟩
  · exact absurd hra (hapart.not_contains hba)
  · exact ⟨row', hmem', htrue, hin.contains hba, hlt⟩

/-- An address that passes is outside all marked blocks, in a gap, or an exception. -/
theorem outsideAll_of_passes (h : (Address.v4 a).isLocal = false) (hgap : ¬ a.InGap relay)
    (hexception : ¬ a.IsException) : a.OutsideAll relay := by
  refine outsideAll_iff.mpr fun hmarked => ?_
  obtain ⟨c, hc, hca⟩ := Block.exists_contains (marked_within relay) hmarked
  rcases List.mem_append.mp hc with hc | hc
  · have hprivate := isPrivate_iff.mpr ⟨⟨c, hc, hca⟩, hexception⟩
    rw [isLocal_v4, hprivate] at h
    cases h
  · exact hgap ⟨c, hc, hca⟩

theorem reachable_of_passes (h : (Address.v4 a).isLocal = false) (hgap : ¬ a.InGap relay) :
    a.GloballyReachable relay := by
  by_cases hexception : a.IsException
  · exact hexception.reachable
  · intro row hmem hfalse hra
    exact absurd hra (outsideAll_of_passes h hgap hexception row hmem hfalse)

end IPv4Address

/-! ## The answers for a host -/

theorem vet_ok_iff {addrs : List Address} :
    vet addrs = .ok () ↔ ∀ addr ∈ addrs, addr.isLocal = false := by
  induction addrs with
  | nil => exact ⟨fun _ => nofun, fun _ => rfl⟩
  | cons addr addrs ih =>
    unfold vet
    cases hl : addr.isLocal with
    | true => simp [hl]
    | false => simp [hl, ih]

/-- A lookup has been made. -/
def Net.looked (s : Net) (host : String) (answer : Lookup) : Net :=
  { s with lookups := s.lookups + 1, log := .asked host answer :: s.log }

theorem getaddrinfo_run (web : Web) (host : String) (n : Nat) (s : Net) :
    getaddrinfo web host n s =
      (.ok (web.getaddrinfo s.lookups host), s.looked host (web.getaddrinfo s.lookups host)) := rfl

/-- What `_check_public` makes of the resolver's answer. -/
def Lookup.verdict (host : String) : Lookup → Outcome Failure Unit
  | .gaierror => .raise (.artError ("Could not resolve " ++ host))
  | .raises exc => .raise (.other exc)
  | .found addrs =>
    match vet addrs with
    | .ok () => .ok ()
    | .error msg => .raise (.artError msg)

theorem checkPublic_run (web : Web) (host : String) (n : Nat) (s : Net) :
    checkPublic web host n s = ((web.getaddrinfo s.lookups host).verdict host,
      s.looked host (web.getaddrinfo s.lookups host)) := by
  unfold checkPublic
  rw [Prog.bind_of_ok (getaddrinfo_run web host n s)]
  cases web.getaddrinfo s.lookups host with
  | gaierror | raises => rfl
  | found addrs =>
    unfold Lookup.verdict
    dsimp only
    cases vet addrs <;> rfl

/-- `_check_public` answers when the host has been resolved and every address is public. -/
theorem checkPublic_ok_iff {web : Web} {host : String} {n : Nat} {s : Net} {addrs : List Address}
    (h : web.getaddrinfo s.lookups host = .found addrs) :
    (checkPublic web host n s).1 = .ok () ↔ vet addrs = .ok () := by
  rw [checkPublic_run, h]
  unfold Lookup.verdict
  dsimp only
  cases vet addrs with
  | error msg => exact ⟨nofun, nofun⟩
  | ok => exact ⟨fun _ => rfl, fun _ => rfl⟩

/-- Letting through only what is good comes to refusing a list with anything bad that would pass. -/
theorem passes_only_iff {Good Hole : IPv4Address → Prop}
    (hgood : ∀ a, (Address.v4 a).isLocal = false → ¬ Hole a → Good a)
    (hhole : ∀ a, Hole a → (Address.v4 a).isLocal = false ∧ ¬ Good a) (addrs : List IPv4Address) :
    (vet (addrs.map .v4) = .ok () → ∀ a ∈ addrs, Good a) ↔
      ((∃ a ∈ addrs, (Address.v4 a).isLocal = true) ∨ ∀ a ∈ addrs, ¬ Hole a) := by
  have hvet : vet (addrs.map .v4) = .ok () ↔ ∀ a ∈ addrs, (Address.v4 a).isLocal = false := by
    rw [vet_ok_iff]
    exact List.forall_mem_map
  rw [hvet]
  constructor
  · intro h
    by_cases hall : ∀ a ∈ addrs, (Address.v4 a).isLocal = false
    · exact .inr fun a ha hole => (hhole a hole).2 (h hall a ha)
    · push Not at hall
      obtain ⟨a, ha, hl⟩ := hall
      exact .inl ⟨a, ha, by simpa using hl⟩
  · rintro (⟨a, ha, hl⟩ | hnone) hall a' ha'
    · rw [hall a ha] at hl
      cases hl
    · exact hgood a' (hall a' ha') (hnone a' ha')

/-- **What `_check_public` accepts is public but for the gaps.** The shared address space is one: it
passes all six predicates. Read to the letter, an accepted address is outside every block that is
marked as not globally reachable when it is not one of the two exceptions either, which the registry
itself takes out again. -/
theorem checkPublic_public_iff (web : Web) (host : String) (n : Nat) (s : Net)
    (addrs : List IPv4Address) (relay : Bool)
    (h : web.getaddrinfo s.lookups host = .found (addrs.map .v4)) :
    (((checkPublic web host n s).1 = .ok () → ∀ a ∈ addrs, a.OutsideAll relay) ↔
      ((∃ a ∈ addrs, (Address.v4 a).isLocal = true) ∨
        ∀ a ∈ addrs, ¬ (a.InGap relay ∨ a.IsException))) ∧
    (((checkPublic web host n s).1 = .ok () → ∀ a ∈ addrs, a.GloballyReachable relay) ↔
      ((∃ a ∈ addrs, (Address.v4 a).isLocal = true) ∨ ∀ a ∈ addrs, ¬ a.InGap relay)) := by
  rw [checkPublic_ok_iff h]
  constructor
  · refine passes_only_iff (fun a hl hn => ?_) (fun a hole => ?_) addrs
    · exact IPv4Address.outsideAll_of_passes hl (fun hg => hn (.inl hg)) fun he => hn (.inr he)
    · rcases hole with hg | he
      · exact ⟨hg.isLocal, hg.not_outsideAll⟩
      · exact ⟨he.isLocal, he.not_outsideAll⟩
  · exact passes_only_iff (fun a hl hn => IPv4Address.reachable_of_passes hl hn)
      (fun a hole => ⟨hole.isLocal, hole.not_reachable⟩) addrs

/-- A web of one host, which always has the same addresses and always replies the same. -/
def Web.single (host : String) (addrs : List Address) (reply : Except Exc Response) : Web where
  urlparse _ := .ok ⟨"http", some host⟩
  getaddrinfo _ _ := .found addrs
  get _ _ := reply

/-- A host with two addresses, both of them accepted. -/
def covers : Web :=
  .single "covers.example" [.v4 (quad 93 184 216 34), .v4 (quad 1 1 1 1)] (.error (.osError ""))

theorem checkPublic_public_covers :
    (checkPublic covers "covers.example" 0 (.start "http://covers.example/")).1 = .ok () ∧
      (∀ a ∈ [quad 93 184 216 34, quad 1 1 1 1], a.OutsideAll true) ∧
      ∀ a ∈ [quad 93 184 216 34, quad 1 1 1 1], a.GloballyReachable true := by
  have hok : (checkPublic covers "covers.example" 0 (.start "http://covers.example/")).1 = .ok () := by
    decide
  obtain ⟨hletter, hrow⟩ := checkPublic_public_iff covers "covers.example" 0
    (.start "http://covers.example/") [quad 93 184 216 34, quad 1 1 1 1] true rfl
  have hgaps : ∀ a ∈ [quad 93 184 216 34, quad 1 1 1 1], ¬ (a.InGap true ∨ a.IsException) :=
    List.forall_mem_cons.mpr ⟨by decide, List.forall_mem_singleton.mpr (by decide)⟩
  exact ⟨hok, hletter.mpr (.inr hgaps) hok, hrow.mpr (.inr fun a ha hg => hgaps a ha (.inl hg)) hok⟩

/-- A host in the shared address space, which carriers use behind their own NAT, is accepted. -/
theorem checkPublic_shared :
    (checkPublic (.single "cgnat.example" [.v4 (quad 100 64 0 1)] (.error (.osError "")))
      "cgnat.example" 0 (.start "http://cgnat.example/")).1 = .ok () ∧
    ∀ relay, ¬ (quad 100 64 0 1).OutsideAll relay ∧ ¬ (quad 100 64 0 1).GloballyReachable relay := by
  refine ⟨by decide, fun relay => ?_⟩
  have hgap : (quad 100 64 0 1).InGap relay :=
    ⟨network 100 64 0 0 10, List.mem_cons_self, by decide⟩
  exact ⟨hgap.not_outsideAll, hgap.not_reachable⟩

end StakkaWeb
