import Mathlib.Algebra.Ring.Nat

/-!
# Blocks of addresses

A block of `w`-bit addresses is all those that begin with the same bits. Two blocks are nested or
apart, and which of the two it is can be read off their lengths and their first addresses
(`Within`, `Apart`): a question about every address of a block is settled by computing with one.
-/

set_option autoImplicit false

namespace Lib

/-- The addresses that agree with `base` in their first `bits` bits. -/
structure Block (w : Nat) where
  base : BitVec w
  bits : Nat
  deriving DecidableEq, Repr

namespace Block

variable {w : Nat}

/-- The number that the first `bits` bits of an address spell. -/
def lead (bits : Nat) (a : BitVec w) : Nat := a.toNat / 2 ^ (w - bits)

/-- The address lies in the block. -/
def Contains (b : Block w) (a : BitVec w) : Prop := lead b.bits a = lead b.bits b.base

instance (b : Block w) (a : BitVec w) : Decidable (b.Contains a) :=
  inferInstanceAs (Decidable (_ = _))

/-- Every address of `b` is one of `c`. -/
def Within (b c : Block w) : Prop := c.bits ≤ b.bits ∧ c.Contains b.base

instance (b c : Block w) : Decidable (b.Within c) := inferInstanceAs (Decidable (_ ∧ _))

/-- No address is in both. -/
def Apart (b c : Block w) : Prop :=
  lead (min b.bits c.bits) b.base ≠ lead (min b.bits c.bits) c.base

instance (b c : Block w) : Decidable (b.Apart c) := inferInstanceAs (Decidable (_ ≠ _))

/-- The first bits of the first bits. -/
theorem lead_of_le {bits more : Nat} (h : bits ≤ more) {a a' : BitVec w}
    (ha : lead more a = lead more a') : lead bits a = lead bits a' := by
  have hw : w - bits = (w - more) + ((w - bits) - (w - more)) := by omega
  unfold lead at ha ⊢
  rw [hw, Nat.pow_add, ← Nat.div_div_eq_div_mul, ← Nat.div_div_eq_div_mul, ha]

theorem Within.contains {b c : Block w} (h : b.Within c) {a : BitVec w} (ha : b.Contains a) :
    c.Contains a :=
  (lead_of_le h.1 ha).trans h.2

theorem Apart.not_contains {b c : Block w} (h : b.Apart c) {a : BitVec w} (hb : b.Contains a) :
    ¬ c.Contains a := by
  intro hc
  have hbase := lead_of_le (Nat.min_le_left b.bits c.bits) hb
  have hbase' := lead_of_le (Nat.min_le_right b.bits c.bits) hc
  exact h (hbase.symm.trans hbase')

/-! ## Tables of blocks -/

/-- An address that a table contains is contained by any table that takes in its blocks. -/
theorem exists_contains {bs cs : List (Block w)} (h : ∀ b ∈ bs, ∃ c ∈ cs, b.Within c)
    {a : BitVec w} (ha : ∃ b ∈ bs, b.Contains a) : ∃ c ∈ cs, c.Contains a := by
  obtain ⟨b, hb, hba⟩ := ha
  obtain ⟨c, hc, hbc⟩ := h b hb
  exact ⟨c, hc, hbc.contains hba⟩

/-- Tables that are apart share no address. -/
theorem not_exists_contains {bs cs : List (Block w)} (h : ∀ b ∈ bs, ∀ c ∈ cs, b.Apart c)
    {a : BitVec w} (ha : ∃ b ∈ bs, b.Contains a) : ¬ ∃ c ∈ cs, c.Contains a := by
  rintro ⟨c, hc, hca⟩
  obtain ⟨b, hb, hba⟩ := ha
  exact (h b hb c hc).not_contains hba hca

end Block

end Lib
