import Mathlib.Data.List.Basic
import Mathlib.Logic.Function.Iterate

/-!
# Agendas: timed events, soonest first

An `Agenda` is a queue of events with the times at which they are due, kept in order of time;
events due at one time stay in the order in which they were pushed. `Driven` is a machine with a
clock and an agenda, and `runDue` fires everything that is due, soonest first, where firing an
event may push further ones. For a machine that only pushes events later than its clock nothing
due is left behind (`runDue_later`), and a property that firing one due event preserves survives
the whole run (`runDue_inv`).
-/

set_option autoImplicit false

namespace Lib

structure Agenda (β : Type) where
  entries : List (Nat × β)
  sorted : entries.Pairwise fun a b => a.1 ≤ b.1

namespace Agenda

variable {β : Type}

def empty : Agenda β := ⟨[], .nil⟩

/-- Insert behind everything that is due no later. -/
def insertLast (t : Nat) (e : β) : List (Nat × β) → List (Nat × β)
  | [] => [(t, e)]
  | x :: xs => if t < x.1 then (t, e) :: x :: xs else x :: insertLast t e xs

theorem mem_insertLast {t : Nat} {e : β} {x : Nat × β} {xs : List (Nat × β)} :
    x ∈ insertLast t e xs ↔ x = (t, e) ∨ x ∈ xs := by
  induction xs with
  | nil => simp only [insertLast, List.mem_singleton, List.not_mem_nil, or_false]
  | cons y ys ih =>
    unfold insertLast
    split
    · exact List.mem_cons
    · rw [List.mem_cons, ih, List.mem_cons, or_left_comm]

theorem insertLast_sorted (t : Nat) (e : β) {xs : List (Nat × β)}
    (h : xs.Pairwise fun a b => a.1 ≤ b.1) :
    (insertLast t e xs).Pairwise fun a b => a.1 ≤ b.1 := by
  induction xs with
  | nil => exact List.pairwise_singleton _ _
  | cons y ys ih =>
    obtain ⟨hy, hys⟩ := List.pairwise_cons.mp h
    unfold insertLast
    split
    next hlt =>
      refine List.pairwise_cons.mpr ⟨fun x hx => ?_, h⟩
      rcases List.mem_cons.mp hx with rfl | hx
      · exact Nat.le_of_lt hlt
      · exact Nat.le_trans (Nat.le_of_lt hlt) (hy x hx)
    next hge =>
      refine List.pairwise_cons.mpr ⟨fun x hx => ?_, ih hys⟩
      rcases mem_insertLast.mp hx with rfl | hx
      · exact Nat.le_of_not_lt hge
      · exact hy x hx

theorem insertLast_of_lt {t : Nat} {e : β} {xs : List (Nat × β)} (h : ∀ x ∈ xs, t < x.1) :
    insertLast t e xs = (t, e) :: xs := by
  cases xs with
  | nil => rfl
  | cons y ys => exact if_pos (h y List.mem_cons_self)

/-- Inserting and leaving out go together. -/
theorem filter_insertLast (p : Nat × β → Bool) (t : Nat) (e : β) {xs : List (Nat × β)}
    (h : xs.Pairwise fun a b => a.1 ≤ b.1) :
    (insertLast t e xs).filter p =
      if p (t, e) then insertLast t e (xs.filter p) else xs.filter p := by
  induction xs with
  | nil => simp only [insertLast, List.filter_cons, List.filter_nil]
  | cons y ys ih =>
    obtain ⟨hy, hys⟩ := List.pairwise_cons.mp h
    by_cases hlt : t < y.1
    · have hlater : ∀ x ∈ (y :: ys).filter p, t < x.1 := by
        intro x hx
        rcases List.mem_cons.mp (List.mem_of_mem_filter hx) with rfl | hx
        · exact hlt
        · exact Nat.lt_of_lt_of_le hlt (hy x hx)
      rw [show insertLast t e (y :: ys) = (t, e) :: y :: ys from if_pos hlt, insertLast_of_lt hlater,
        List.filter_cons]
    · have hcons : ∀ zs, insertLast t e (y :: zs) = y :: insertLast t e zs := fun zs => if_neg hlt
      rw [hcons, List.filter_cons, List.filter_cons, ih hys]
      cases p y with
      | true => simp only [if_true, hcons]; split <;> rfl
      | false => rfl

def push (t : Nat) (e : β) (a : Agenda β) : Agenda β :=
  ⟨insertLast t e a.entries, insertLast_sorted t e a.sorted⟩

/-- The agenda without its first entry. -/
def pop (a : Agenda β) : Agenda β := ⟨a.entries.tail, a.sorted.tail⟩

@[simp] theorem pop_entries (a : Agenda β) : a.pop.entries = a.entries.tail := rfl

instance : Membership (Nat × β) (Agenda β) := ⟨fun a x => x ∈ a.entries⟩

theorem mem_def {x : Nat × β} {a : Agenda β} : x ∈ a ↔ x ∈ a.entries := Iff.rfl

@[simp] theorem not_mem_empty (x : Nat × β) : x ∉ (empty : Agenda β) := List.not_mem_nil

@[simp] theorem mem_push {t : Nat} {e : β} {x : Nat × β} {a : Agenda β} :
    x ∈ a.push t e ↔ x = (t, e) ∨ x ∈ a :=
  mem_insertLast

/-- Whatever is counted among the entries, a push adds its entry to the count. -/
theorem countP_push (p : Nat × β → Bool) (t : Nat) (e : β) (a : Agenda β) :
    (a.push t e).entries.countP p = a.entries.countP p + (p (t, e)).toNat := by
  have hins : ∀ xs : List (Nat × β),
      (insertLast t e xs).countP p = xs.countP p + (p (t, e)).toNat := by
    intro xs
    induction xs with
    | nil => cases h : p (t, e) <;> simp [insertLast, h]
    | cons y ys ih =>
      unfold insertLast
      split
      · cases h : p (t, e) <;> simp [List.countP_cons, h]
      · rw [List.countP_cons, ih, List.countP_cons]
        omega
  exact hins a.entries

/-- The first entry, which a pop takes out of the count. -/
theorem countP_pop (p : Nat × β → Bool) {x : Nat × β} {a : Agenda β} (h : a.entries.head? = some x) :
    a.entries.countP p = a.pop.entries.countP p + (p x).toNat := by
  obtain ⟨xs, hxs⟩ := List.head?_eq_some_iff.mp h
  rw [pop_entries, hxs, List.countP_cons, List.tail_cons]
  cases p x <;> rfl

theorem mem_of_mem_pop {x : Nat × β} {a : Agenda β} (h : x ∈ a.pop) : x ∈ a :=
  List.mem_of_mem_tail h

/-- How many entries are due at `now`. -/
def dueCount (now : Nat) (a : Agenda β) : Nat := a.entries.countP fun x => decide (x.1 ≤ now)

/-- Inserting something that is not yet due leaves the number of entries that are. -/
theorem countP_insertLast {now t : Nat} (h : now < t) (e : β) (xs : List (Nat × β)) :
    (insertLast t e xs).countP (fun x => decide (x.1 ≤ now)) =
      xs.countP fun x => decide (x.1 ≤ now) := by
  induction xs with
  | nil =>
    simp only [insertLast, List.countP_cons, List.countP_nil, decide_eq_true_eq,
      Nat.not_le.mpr h, if_false]
  | cons y ys ih =>
    unfold insertLast
    split
    · simp only [List.countP_cons, decide_eq_true_eq, Nat.not_le.mpr h, if_false, Nat.add_zero]
    · simp only [List.countP_cons, ih]

theorem dueCount_push {now t : Nat} (h : now < t) (e : β) (a : Agenda β) :
    (a.push t e).dueCount now = a.dueCount now :=
  countP_insertLast h e a.entries

/-- With something due the first entry is. -/
theorem head_of_dueCount {now k : Nat} {a : Agenda β} (h : a.dueCount now = k + 1) :
    ∃ t e rest, a.entries = (t, e) :: rest ∧ t ≤ now ∧ a.pop.dueCount now = k := by
  have hne : a.entries ≠ [] := by
    intro he
    rw [dueCount, he] at h
    cases h
  obtain ⟨⟨t, e⟩, rest, hq⟩ := List.exists_cons_of_ne_nil hne
  have hdue : t ≤ now := by
    by_contra hlate
    have hs := a.sorted
    rw [hq, List.pairwise_cons] at hs
    have : a.dueCount now = 0 := by
      rw [dueCount, hq, List.countP_eq_zero]
      intro y hy
      rw [decide_eq_true_eq, Nat.not_le]
      rcases List.mem_cons.mp hy with rfl | hy
      · exact Nat.lt_of_not_le hlate
      · exact Nat.lt_of_lt_of_le (Nat.lt_of_not_le hlate) (hs.1 y hy)
    omega
  refine ⟨t, e, rest, hq, hdue, ?_⟩
  rw [dueCount, hq, List.countP_cons_of_pos (by simpa using hdue)] at h
  rw [dueCount, pop_entries, hq]
  exact Nat.succ.inj h

/-- With nothing due the whole agenda is later than `now`. -/
theorem later_of_dueCount {now : Nat} {a : Agenda β} (h : a.dueCount now = 0) {x : Nat × β}
    (hx : x ∈ a) : now < x.1 := by
  have := List.countP_eq_zero.mp h x hx
  simpa only [decide_eq_true_eq, Nat.not_le] using this

/-! ## One entry more -/

/-- `b` is `a` with one entry more. -/
def Adds (x : Nat × β) (a b : Agenda β) : Prop :=
  ∃ front back, a.entries = front ++ back ∧ b.entries = front ++ x :: back

theorem adds_push (t : Nat) (e : β) (a : Agenda β) : Adds (t, e) a (a.push t e) := by
  have hins : ∀ xs : List (Nat × β), ∃ front back, xs = front ++ back ∧
      insertLast t e xs = front ++ (t, e) :: back := by
    intro xs
    induction xs with
    | nil => exact ⟨[], [], rfl, rfl⟩
    | cons y ys ih =>
      unfold insertLast
      split
      · exact ⟨[], y :: ys, rfl, rfl⟩
      · obtain ⟨front, back, rfl, hins⟩ := ih
        exact ⟨y :: front, back, rfl, congrArg (y :: ·) hins⟩
  exact hins a.entries

/-- What is pushed later goes on both. -/
theorem Adds.push {x : Nat × β} {a b : Agenda β} (h : Adds x a b) (t : Nat) (e : β) :
    Adds x (a.push t e) (b.push t e) := by
  have hins : ∀ front back : List (Nat × β), (front ++ x :: back).Pairwise (fun y z => y.1 ≤ z.1) →
      ∃ front' back', insertLast t e (front ++ back) = front' ++ back' ∧
        insertLast t e (front ++ x :: back) = front' ++ x :: back' := by
    intro front back
    induction front with
    | nil =>
      intro hsorted
      by_cases hlt : t < x.1
      · have hlater : ∀ y ∈ back, t < y.1 := fun y hy =>
          Nat.lt_of_lt_of_le hlt ((List.pairwise_cons.mp hsorted).1 y hy)
        refine ⟨[(t, e)], back, insertLast_of_lt hlater, if_pos hlt⟩
      · exact ⟨[], insertLast t e back, rfl, if_neg hlt⟩
    | cons y front ih =>
      intro hsorted
      by_cases hlt : t < y.1
      · exact ⟨(t, e) :: y :: front, back, if_pos hlt, if_pos hlt⟩
      · obtain ⟨front', back', hfront, hback⟩ := ih (List.pairwise_cons.mp hsorted).2
        refine ⟨y :: front', back', ?_, ?_⟩
        · exact (if_neg hlt).trans (congrArg (y :: ·) hfront)
        · exact (if_neg hlt).trans (congrArg (y :: ·) hback)
  obtain ⟨front, back, hfront, hback⟩ := h
  obtain ⟨front', back', hfront', hback'⟩ := hins front back (hback ▸ b.sorted)
  refine ⟨front', back', ?_, ?_⟩
  · exact (congrArg (insertLast t e) hfront).trans hfront'
  · exact (congrArg (insertLast t e) hback).trans hback'

/-- An entry that is due goes first from both, when the one more is not. -/
theorem Adds.head {x : Nat × β} {a b : Agenda β} (h : Adds x a b) {now t : Nat} {e : β}
    {rest : List (Nat × β)} (ha : a.entries = (t, e) :: rest) (hdue : t ≤ now) (hlate : now < x.1) :
    (∃ rest', b.entries = (t, e) :: rest') ∧ Adds x a.pop b.pop := by
  obtain ⟨front, back, hfront, hback⟩ := h
  cases front with
  | nil =>
    have hsorted := b.sorted
    rw [hback, ← List.nil_append back, ← hfront, ha] at hsorted
    have := (List.pairwise_cons.mp hsorted).1 (t, e) List.mem_cons_self
    omega
  | cons y front =>
    obtain rfl : y = (t, e) := (List.cons.inj (hfront.symm.trans ha)).1
    refine ⟨⟨front ++ x :: back, hback⟩, front, back, ?_, ?_⟩
    · rw [pop_entries, hfront]
      rfl
    · rw [pop_entries, hback]
      rfl

theorem Adds.mem {x y : Nat × β} {a b : Agenda β} (h : Adds x a b) : y ∈ b ↔ y = x ∨ y ∈ a := by
  obtain ⟨front, back, hfront, hback⟩ := h
  rw [mem_def, mem_def, hfront, hback, List.mem_append, List.mem_append, List.mem_cons]
  tauto

end Agenda

/-- A machine with a clock and an agenda. -/
class Driven (τ : Type) (β : outParam Type) where
  now : τ → Nat
  agenda : τ → Agenda β
  withAgenda : Agenda β → τ → τ
  fire : β → τ → τ

namespace Driven

variable {τ β : Type} [Driven τ β]

/-- Fire at most `k` due events, soonest first. -/
def drain : Nat → τ → τ
  | 0, s => s
  | k + 1, s =>
    match (agenda s).entries with
    | [] => s
    | (t, e) :: _ =>
      if t ≤ now s then drain k (fire e (withAgenda (agenda s).pop s)) else s

/-- Fire everything that is due. -/
def runDue (s : τ) : τ := drain ((agenda s).dueCount (now s)) s

/-- One round of the loop: the first entry fires, if it is due. -/
def turn (s : τ) : τ :=
  match (agenda s).entries with
  | [] => s
  | (t, e) :: _ => if t ≤ now s then fire e (withAgenda (agenda s).pop s) else s

theorem drain_eq_turns (k : Nat) (s : τ) : drain k s = turn^[k] s := by
  induction k generalizing s with
  | zero => rfl
  | succ k ih =>
    -- a round that fires nothing leaves nothing for the rounds after it
    have hstuck : turn s = s → s = turn^[k] (turn s) := by
      intro h
      rw [h, Function.iterate_fixed h]
    rw [Function.iterate_succ_apply]
    unfold drain
    split
    next hq => exact hstuck (by unfold turn; rw [hq])
    next t e _ hq =>
      split
      next hdue =>
        have hturn : turn s = fire e (withAgenda (agenda s).pop s) := by
          unfold turn
          rw [hq]
          exact if_pos hdue
        rw [hturn, ih]
      next hlate =>
        refine hstuck ?_
        unfold turn
        rw [hq]
        exact if_neg hlate

/-- What is due fires round by round. -/
theorem runDue_eq_turns (s : τ) : runDue s = turn^[(agenda s).dueCount (now s)] s :=
  drain_eq_turns _ s

/-- What a machine promises about its parts: the agenda is a field of its own, and firing
neither moves the clock nor makes anything due. -/
class Lawful (τ : Type) {β : outParam Type} [Driven τ β] : Prop where
  agenda_withAgenda : ∀ (a : Agenda β) (s : τ), agenda (withAgenda a s) = a
  now_withAgenda : ∀ (a : Agenda β) (s : τ), now (withAgenda a s) = now s
  now_fire : ∀ (e : β) (s : τ), now (fire e s) = now s
  dueCount_fire : ∀ (e : β) (s : τ),
    (agenda (fire e s)).dueCount (now s) = (agenda s).dueCount (now s)

/-- **An invariant of firing is an invariant of `runDue`.** -/
theorem runDue_inv (I : τ → Prop)
    (step : ∀ s t e, I s → (agenda s).entries.head? = some (t, e) → t ≤ now s →
      I (fire e (withAgenda (agenda s).pop s))) {s : τ} (hs : I s) : I (runDue s) := by
  have key : ∀ k s, I s → I (drain k s) := by
    intro k
    induction k with
    | zero => exact fun s hs => hs
    | succ k ih =>
      intro s hs
      unfold drain
      split
      · exact hs
      next t e _ hq =>
        split
        next hdue => exact ih _ (step s t e hs (by rw [hq]; rfl) hdue)
        next => exact hs
  exact key _ s hs

/-- Two machines with the same agenda stay related when firing keeps them so. -/
theorem runDue_rel (R : τ → τ → Prop)
    (same : ∀ s t, R s t → agenda s = agenda t ∧ now s = now t)
    (step : ∀ s t e, R s t →
      R (fire e (withAgenda (agenda s).pop s)) (fire e (withAgenda (agenda t).pop t))) {s t : τ}
    (h : R s t) : R (runDue s) (runDue t) := by
  have key : ∀ k s t, R s t → R (drain k s) (drain k t) := by
    intro k
    induction k with
    | zero => exact fun s t h => h
    | succ k ih =>
      intro s t h
      obtain ⟨ha, hn⟩ := same s t h
      unfold drain
      rw [ha, hn]
      split
      · exact h
      next t' e _ hq =>
        split
        · have hs := step s t e h
          rw [ha] at hs
          exact ih _ _ hs
        · exact h
  obtain ⟨ha, hn⟩ := same s t h
  unfold runDue
  rw [ha, hn]
  exact key _ s t h

variable [Lawful τ]

theorem now_runDue (s : τ) : now (runDue s) = now s := by
  refine runDue_inv (fun s' => now s' = now s) (fun s' t e h _ _ => ?_) rfl
  rw [Lawful.now_fire, Lawful.now_withAgenda, h]

/-- **Nothing due is left.** -/
theorem runDue_later (s : τ) {x : Nat × β} (hx : x ∈ agenda (runDue s)) : now s < x.1 := by
  have key : ∀ (k : Nat) (s : τ), (agenda s).dueCount (now s) = k →
      (agenda (drain k s)).dueCount (now (drain k s)) = 0 := by
    intro k
    induction k with
    | zero => exact fun s h => h
    | succ k ih =>
      intro s h
      unfold drain
      obtain ⟨t, e, rest, hq, hdue, hpop⟩ := Agenda.head_of_dueCount h
      simp only [hq, if_pos hdue]
      apply ih
      rw [Lawful.now_fire, Lawful.now_withAgenda]
      have := Lawful.dueCount_fire e (withAgenda (agenda s).pop s)
      rw [Lawful.now_withAgenda, Lawful.agenda_withAgenda] at this
      rw [this, hpop]
  have hnow : now (runDue s) = now s := now_runDue s
  have := Agenda.later_of_dueCount (key _ s rfl) hx
  rwa [show now (drain ((agenda s).dueCount (now s)) s) = now s from hnow] at this

omit [Lawful τ] in
/-- With nothing due nothing happens. -/
theorem runDue_eq_self {s : τ} (h : ∀ x ∈ agenda s, now s < x.1) : runDue s = s := by
  have hcount : (agenda s).dueCount (now s) = 0 := by
    rw [Agenda.dueCount, List.countP_eq_zero]
    intro x hx
    rw [decide_eq_true_eq, Nat.not_le]
    exact h x hx
  unfold runDue
  rw [hcount]
  rfl

/-- The first of what is due happens first. -/
theorem runDue_fire {s : τ} {t : Nat} {e : β} {rest : List (Nat × β)}
    (h : (agenda s).entries = (t, e) :: rest) (hdue : t ≤ now s) :
    runDue s = runDue (fire e (withAgenda (agenda s).pop s)) := by
  have hcount : (agenda s).dueCount (now s) =
      (agenda s).pop.dueCount (now s) + 1 := by
    rw [Agenda.dueCount, Agenda.dueCount, Agenda.pop_entries, h]
    exact List.countP_cons_of_pos (by simpa using hdue)
  have hfire := Lawful.dueCount_fire e (withAgenda (agenda s).pop s)
  rw [Lawful.now_withAgenda, Lawful.agenda_withAgenda] at hfire
  unfold runDue
  rw [hcount, drain, h]
  dsimp only
  rw [if_pos hdue, Lawful.now_fire, Lawful.now_withAgenda, hfire]

/-- **What is not due plays no part**: two machines whose agendas differ by one entry that is not
due stay related when firing what is due keeps them so. -/
theorem runDue_adds {x : Nat × β} (R : τ → τ → Prop)
    (same : ∀ s t, R s t → now s = now t ∧ Agenda.Adds x (agenda s) (agenda t))
    (step : ∀ s t e, R s t → Agenda.Adds x (agenda s).pop (agenda t).pop →
      R (fire e (withAgenda (agenda s).pop s)) (fire e (withAgenda (agenda t).pop t))) {s t : τ}
    (h : R s t) (hlate : now s < x.1) : R (runDue s) (runDue t) := by
  have key : ∀ (k : Nat) (s t : τ), R s t → now s < x.1 → (agenda s).dueCount (now s) = k →
      R (runDue s) (runDue t) := by
    intro k
    induction k with
    | zero =>
      intro s t h hlate hcount
      obtain ⟨hnow, hadds⟩ := same s t h
      have hs : ∀ y ∈ agenda s, now s < y.1 := fun y => Agenda.later_of_dueCount hcount
      have ht : ∀ y ∈ agenda t, now t < y.1 := by
        intro y hy
        rw [← hnow]
        rcases hadds.mem.mp hy with rfl | hy
        · exact hlate
        · exact hs y hy
      rw [runDue_eq_self hs, runDue_eq_self ht]
      exact h
    | succ k ih =>
      intro s t h hlate hcount
      obtain ⟨hnow, hadds⟩ := same s t h
      obtain ⟨t₀, e, rest, hq, hdue, hpop⟩ := Agenda.head_of_dueCount hcount
      obtain ⟨⟨rest', hq'⟩, hpops⟩ := hadds.head hq hdue hlate
      rw [runDue_fire hq hdue, runDue_fire hq' (hnow ▸ hdue)]
      apply ih _ _ (step s t e h hpops)
      · rw [Lawful.now_fire, Lawful.now_withAgenda]
        exact hlate
      · have hfire := Lawful.dueCount_fire e (withAgenda (agenda s).pop s)
        rw [Lawful.now_withAgenda, Lawful.agenda_withAgenda] at hfire
        rw [Lawful.now_fire, Lawful.now_withAgenda, hfire, hpop]
  exact key _ s t h hlate rfl

end Driven

end Lib
