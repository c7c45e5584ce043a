import Mathlib.Data.List.Sort
import Mathlib.Data.List.Lex
import Mathlib.Data.List.Nodup
import Mathlib.Data.List.Perm.Basic

/-!
# Pages of an ordered query

A query that is sorted by a key promises the rows in some order that the keys do not contradict;
rows with equal keys may come in any order, another one each time. A page is a window of one such
answer. So what a page holds is determined when its two edges separate different keys, and the
pages tile the rows exactly when every edge does.
-/

set_option autoImplicit false

namespace Lib.Paging

variable {α κ : Type} [LinearOrder κ]

/-- An answer to a query of `rows` sorted by `key`. -/
structure Sorted (key : α → κ) (rows xs : List α) : Prop where
  perm : xs.Perm rows
  sorted : xs.Pairwise fun a b => key a ≤ key b

/-- `LIMIT n OFFSET m` -/
def window (n m : Nat) (xs : List α) : List α := (xs.drop m).take n

/-- The page `p` of `n` rows each, counted from zero. -/
def Page (key : α → κ) (rows : List α) (n p : Nat) (page : List α) : Prop :=
  ∃ xs, Sorted key rows xs ∧ page = window n (p * n) xs

/-- The keys of `rows` in order. -/
def keys (key : α → κ) (rows : List α) : List κ := (rows.map key).insertionSort (· ≤ ·)

/-- The rows before `m` and the rows from `m` on share a key. -/
def Torn (key : α → κ) (rows : List α) (m : Nat) : Prop :=
  0 < m ∧ ∃ k, (keys key rows)[m - 1]? = some k ∧ (keys key rows)[m]? = some k

instance (key : α → κ) (rows : List α) (m : Nat) : Decidable (Torn key rows m) :=
  decidable_of_iff (0 < m ∧ (keys key rows)[m]?.isSome ∧
      (keys key rows)[m - 1]? = (keys key rows)[m]?) (by
    unfold Torn
    cases (keys key rows)[m]? <;> simp)

/-! ## One answer -/

theorem take_window (n m : Nat) (xs : List α) : xs.take (m + n) = xs.take m ++ window n m xs :=
  List.take_add

/-- The windows of one list are the list. -/
theorem flatMap_window (n : Nat) (xs : List α) (k : Nat) :
    (List.range k).flatMap (fun p => window n (p * n) xs) = xs.take (k * n) := by
  induction k with
  | zero => simp
  | succ k ih =>
    rw [List.range_succ, List.flatMap_append, ih, List.flatMap_singleton, Nat.succ_mul, take_window]

/-- The windows from the `k`-th on are the rest of the list. -/
theorem flatMap_window_from (n : Nat) (xs : List α) (k j : Nat) :
    (List.range j).flatMap (fun p => window n ((k + p) * n) xs) = window (j * n) (k * n) xs := by
  induction j with
  | zero => simp [window]
  | succ j ih =>
    rw [List.range_succ, List.flatMap_append, ih, List.flatMap_singleton]
    unfold window
    rw [Nat.succ_mul, List.take_add, List.drop_drop, Nat.add_mul]

variable {key : α → κ} {rows xs ys : List α}

theorem keys_sorted (key : α → κ) (rows : List α) : (keys key rows).Pairwise (· ≤ ·) :=
  List.pairwise_insertionSort _ _

/-- Keys never go back. -/
theorem keys_le {i j : Nat} (hij : i ≤ j) {a b : κ} (ha : (keys key rows)[i]? = some a)
    (hb : (keys key rows)[j]? = some b) : a ≤ b := by
  obtain ⟨hi, rfl⟩ := List.getElem?_eq_some_iff.mp ha
  obtain ⟨hj, rfl⟩ := List.getElem?_eq_some_iff.mp hb
  rcases Nat.lt_or_eq_of_le hij with hlt | rfl
  · exact List.pairwise_iff_getElem.mp (keys_sorted key rows) i j hi hj hlt
  · exact le_refl _

namespace Sorted

/-- Every answer shows the keys in the same order. -/
theorem map_key (h : Sorted key rows xs) : xs.map key = keys key rows := by
  have hp : (xs.map key).Perm (keys key rows) :=
    (h.perm.map key).trans (List.perm_insertionSort _ _).symm
  exact hp.eq_of_pairwise (fun a b _ _ => le_antisymm) (List.pairwise_map.mpr h.sorted)
    (keys_sorted key rows)

theorem getElem?_key (h : Sorted key rows xs) {i : Nat} {x : α} (hx : xs[i]? = some x) :
    (keys key rows)[i]? = some (key x) := by
  rw [← h.map_key, List.getElem?_map, hx]
  rfl

/-- The rows before an edge that tears nothing are the rows up to a key. -/
theorem take_eq (h : Sorted key rows xs) {m : Nat} {s t : κ} (hs : (keys key rows)[m - 1]? = some s)
    (ht : (keys key rows)[m]? = some t) (hst : s ≠ t) :
    xs.take m = xs.filter fun x => decide (key x ≤ s) := by
  have hlt : s < t := lt_of_le_of_ne (keys_le (Nat.sub_le m 1) hs ht) hst
  have hfront : ∀ x ∈ xs.take m, decide (key x ≤ s) = true := by
    intro x hx
    obtain ⟨i, hi, rfl⟩ := List.mem_take_iff_getElem.mp hx
    have hkey := h.getElem?_key (List.getElem?_eq_getElem (Nat.lt_of_lt_of_le hi (Nat.min_le_right _ _)))
    exact decide_eq_true (keys_le (by omega) hkey hs)
  have hback : ∀ x ∈ xs.drop m, ¬ decide (key x ≤ s) = true := by
    intro x hx
    obtain ⟨i, hi, rfl⟩ := List.mem_drop_iff_getElem.mp hx
    have hkey := h.getElem?_key (i := m + i) (List.getElem?_eq_getElem (by omega))
    have := keys_le (Nat.le_add_right m i) ht hkey
    rw [decide_eq_true_eq]
    exact not_le.mpr (lt_of_lt_of_le hlt this)
  conv_rhs => rw [← List.take_append_drop m xs]
  rw [List.filter_append, List.filter_eq_self.mpr hfront, List.filter_eq_nil_iff.mpr hback,
    List.append_nil]

/-- Two answers agree up to an edge that tears nothing. -/
theorem take_perm (hx : Sorted key rows xs) (hy : Sorted key rows ys) {m : Nat}
    (hm : ¬ Torn key rows m) : (xs.take m).Perm (ys.take m) := by
  have hperm : xs.Perm ys := hx.perm.trans hy.perm.symm
  cases ht : (keys key rows)[m]? with
  | none =>
    have hlen : xs.length ≤ m := by
      rw [← List.length_map (f := key), hx.map_key]
      exact List.getElem?_eq_none_iff.mp ht
    rw [List.take_of_length_le hlen, List.take_of_length_le (hperm.length_eq ▸ hlen)]
    exact hperm
  | some t =>
    rcases Nat.eq_zero_or_pos m with rfl | hpos
    · rw [List.take_zero, List.take_zero]
    · obtain ⟨hlt, -⟩ := List.getElem?_eq_some_iff.mp ht
      have hs := List.getElem?_eq_getElem (Nat.lt_of_le_of_lt (Nat.sub_le m 1) hlt)
      have hst : (keys key rows)[m - 1] ≠ t := by
        intro he
        exact hm ⟨hpos, t, he ▸ hs, ht⟩
      rw [hx.take_eq hs ht hst, hy.take_eq hs ht hst]
      exact hperm.filter _

/-- Two answers give the same page when neither of its edges tears anything. -/
theorem window_perm (hx : Sorted key rows xs) (hy : Sorted key rows ys) {n m : Nat}
    (hlow : ¬ Torn key rows m) (hhigh : ¬ Torn key rows (m + n)) :
    (window n m xs).Perm (window n m ys) := by
  have h := hx.take_perm hy hhigh
  rw [take_window, take_window] at h
  have hfront := (hx.take_perm hy hlow).append_right (window n m ys)
  exact (List.perm_append_left_iff _).mp (h.trans hfront.symm)

end Sorted

theorem map_window {β : Type} (f : α → β) (n m : Nat) (xs : List α) :
    (window n m xs).map f = window n m (xs.map f) := by
  unfold window
  rw [List.map_take, List.map_drop]

/-- A page shows the keys of its window, whatever the answer. -/
theorem Page.map_key {n p : Nat} {page : List α} (h : Page key rows n p page) :
    page.map key = window n (p * n) (keys key rows) := by
  obtain ⟨xs, hxs, rfl⟩ := h
  rw [map_window, hxs.map_key]

theorem Page.length_eq {n p : Nat} {page : List α} (h : Page key rows n p page) :
    page.length = min n (rows.length - p * n) := by
  obtain ⟨xs, hxs, rfl⟩ := h
  unfold window
  rw [List.length_take, List.length_drop, hxs.perm.length_eq]

theorem length_keys (key : α → κ) (rows : List α) : (keys key rows).length = rows.length := by
  unfold keys
  rw [List.length_insertionSort, List.length_map]

theorem Page.mem {n p : Nat} {page : List α} (h : Page key rows n p page) {x : α} (hx : x ∈ page) :
    x ∈ rows := by
  obtain ⟨xs, hxs, rfl⟩ := h
  exact hxs.perm.mem_iff.mp (List.mem_of_mem_drop (List.mem_of_mem_take hx))

/-- There is an answer. -/
theorem sorted_insertionSort (key : α → κ) (rows : List α) :
    Sorted key rows (rows.insertionSort fun a b => key a ≤ key b) := by
  have : IsTrans α fun a b => key a ≤ key b := ⟨fun _ _ _ => le_trans⟩
  have : Std.Total fun a b : α => key a ≤ key b := ⟨fun _ _ => le_total _ _⟩
  exact ⟨List.perm_insertionSort _ _, List.pairwise_insertionSort _ _⟩

/-- Two rows that share a key may change places. -/
theorem Sorted.swap {front rest : List α} {a b : α} (h : Sorted key rows (front ++ a :: b :: rest))
    (hab : key a = key b) : Sorted key rows (front ++ b :: a :: rest) where
  perm := ((List.Perm.swap a b rest).append_left front).trans h.perm
  sorted := by
    have hkeys : (front ++ b :: a :: rest).map key = (front ++ a :: b :: rest).map key := by
      simp [hab]
    rw [← List.pairwise_map (f := key) (R := (· ≤ ·)), hkeys]
    exact List.pairwise_map.mpr h.sorted

/-- Where an edge tears rows with one key, two answers put one of them on both sides. -/
theorem Torn.repeats {m : Nat} (h : Torn key rows m) :
    ∃ xs ys, Sorted key rows xs ∧ Sorted key rows ys ∧ ¬ (xs.take m ++ ys.drop m).Nodup := by
  obtain ⟨hpos, k, hs, ht⟩ := h
  have hx := sorted_insertionSort key rows
  generalize rows.insertionSort (fun a b => key a ≤ key b) = xs at hx
  have hlt : m < xs.length := by
    rw [← List.length_map (f := key), hx.map_key]
    exact (List.getElem?_eq_some_iff.mp ht).1
  have hsplit : xs = xs.take (m - 1) ++ xs[m - 1] :: xs[m] :: xs.drop (m + 1) := by
    have hdrop := List.drop_eq_getElem_cons (l := xs) (i := m - 1) (by omega)
    have hnext : m - 1 + 1 = m := by omega
    rw [hnext, List.drop_eq_getElem_cons hlt] at hdrop
    rw [← hdrop, List.take_append_drop]
  have hkey : key xs[m - 1] = key xs[m] := by
    have ha := hx.getElem?_key (List.getElem?_eq_getElem (i := m - 1) (by omega))
    have hb := hx.getElem?_key (List.getElem?_eq_getElem hlt)
    rw [hs] at ha
    rw [ht] at hb
    exact (Option.some.inj ha).symm.trans (Option.some.inj hb)
  have hlen : (xs.take (m - 1)).length = m - 1 := by
    rw [List.length_take]
    omega
  refine ⟨xs, _, hx, (hsplit ▸ hx).swap hkey, ?_⟩
  intro hnodup
  have hmem : xs[m - 1] ∈ xs.take m :=
    List.mem_take_iff_getElem.mpr ⟨m - 1, by omega, rfl⟩
  have hagain : xs[m - 1] ∈ (xs.take (m - 1) ++ xs[m] :: xs[m - 1] :: xs.drop (m + 1)).drop m := by
    rw [List.drop_append, hlen]
    have hone : m - (m - 1) = 1 := by omega
    rw [hone]
    exact List.mem_append_right _ List.mem_cons_self
  exact List.disjoint_of_nodup_append hnodup hmem hagain

/-- **The pages tile the rows exactly when no edge between two pages tears rows with one key.** -/
theorem pages_tile {n count : Nat} (hrows : rows.Nodup) (hcount : rows.length ≤ count * n) :
    (∀ pages : Nat → List α, (∀ p < count, Page key rows n p (pages p)) →
        ((List.range count).flatMap pages).Perm rows) ↔
      ∀ p, ¬ Torn key rows (p * n) := by
  constructor
  · intro h p htorn
    obtain ⟨xs, ys, hx, hy, hdup⟩ := htorn.repeats
    -- the pages before the torn edge are windows of one answer, those from it on of the other
    have hpages := h (fun q => window n (q * n) (if q < p then xs else ys)) fun q _ => by
      by_cases hq : q < p
      · exact ⟨xs, hx, by rw [if_pos hq]⟩
      · exact ⟨ys, hy, by rw [if_neg hq]⟩
    have hp : p < count := by
      obtain ⟨-, k, -, hk⟩ := htorn
      have hlt := (List.getElem?_eq_some_iff.mp hk).1
      rw [← hx.map_key, List.length_map, hx.perm.length_eq] at hlt
      exact Nat.lt_of_mul_lt_mul_right (Nat.lt_of_lt_of_le hlt hcount)
    obtain ⟨j, rfl⟩ := Nat.exists_eq_add_of_le (Nat.le_of_lt hp)
    apply hdup
    have hfront : (List.range p).flatMap
        (fun q => window n (q * n) (if q < p then xs else ys)) = xs.take (p * n) := by
      rw [← flatMap_window]
      refine List.flatMap_congr fun q hq => ?_
      rw [if_pos (List.mem_range.mp hq)]
    have hback : ((List.range j).map (p + ·)).flatMap
        (fun q => window n (q * n) (if q < p then xs else ys)) = ys.drop (p * n) := by
      rw [List.flatMap_map]
      have : ∀ q ∈ List.range j, window n ((p + q) * n) (if p + q < p then xs else ys) =
          window n ((p + q) * n) ys := fun q _ => by
        rw [if_neg (by omega)]
      rw [List.flatMap_congr this, flatMap_window_from, window, List.take_of_length_le]
      rw [List.length_drop, hy.perm.length_eq]
      rw [Nat.add_mul] at hcount
      omega
    rw [List.range_add, List.flatMap_append, hfront, hback] at hpages
    exact hpages.nodup_iff.mpr hrows
  · intro h pages hpages
    have hx := sorted_insertionSort key rows
    generalize rows.insertionSort (fun a b => key a ≤ key b) = xs at hx
    have hsame : ∀ p ∈ List.range count, (pages p).Perm (window n (p * n) xs) := by
      intro p hp
      obtain ⟨ys, hy, hpage⟩ := hpages p (List.mem_range.mp hp)
      rw [hpage]
      exact hy.window_perm hx (h p) (by rw [← Nat.succ_mul]; exact h (p + 1))
    have hall := List.Perm.flatMap_left _ hsame
    rw [flatMap_window, List.take_of_length_le (hx.perm.length_eq ▸ hcount)] at hall
    exact hall.trans hx.perm

/-- A key that no two rows share is never torn. -/
theorem not_torn_of_injective (hkeys : (rows.map key).Nodup) (m : Nat) : ¬ Torn key rows m := by
  rintro ⟨hpos, k, hs, ht⟩
  have hnodup : (keys key rows).Nodup :=
    (List.perm_insertionSort _ _).nodup_iff.mpr hkeys
  have heq : m - 1 = m := by
    obtain ⟨hi, hik⟩ := List.getElem?_eq_some_iff.mp hs
    obtain ⟨hj, hjk⟩ := List.getElem?_eq_some_iff.mp ht
    exact (List.Nodup.getElem_inj_iff hnodup).mp (hik.trans hjk.symm)
  omega

end Lib.Paging
