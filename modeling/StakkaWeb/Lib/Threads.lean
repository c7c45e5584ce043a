import Mathlib.Logic.Function.Basic
import Mathlib.Logic.Relation

/-!
# Threads over a shared state

Any number of threads, each at some point `π` of its code, over a shared state `σ`. A `Move` says
what the next atomic step of a thread may be; a `Step` of the whole is a move of one thread.

`Outline` is a proof outline for such a system: a condition on the shared state, an assertion for
every point of the code, and a condition on pairs of threads. It asks that a thread's own move
leads from its assertion to the next, and that no move of one thread disturbs the assertion of
another. `Outline.reachable` is what one gets for it: all of it holds in every reachable state,
whatever the interleaving.
-/

set_option autoImplicit false

namespace Lib

structure Threads (σ π : Type) where
  shared : σ
  at_ : Nat → π

/-- `move t s p s' p'`: thread `t` may go from `p` to `p'` and change the shared state. -/
abbrev Move (σ π : Type) : Type := Nat → σ → π → σ → π → Prop

namespace Threads

variable {σ π : Type} {move : Move σ π}

/-- Thread `t` is at `p` now, over the shared state `s`. -/
def put (c : Threads σ π) (t : Nat) (s : σ) (p : π) : Threads σ π :=
  ⟨s, Function.update c.at_ t p⟩

@[simp] theorem put_shared (c : Threads σ π) (t : Nat) (s : σ) (p : π) :
    (c.put t s p).shared = s := rfl

@[simp] theorem put_at (c : Threads σ π) (t : Nat) (s : σ) (p : π) : (c.put t s p).at_ t = p := by
  show Function.update c.at_ t p t = p
  exact Function.update_self ..

theorem put_other (c : Threads σ π) {t u : Nat} (h : u ≠ t) (s : σ) (p : π) :
    (c.put t s p).at_ u = c.at_ u := by
  show Function.update c.at_ t p u = c.at_ u
  exact Function.update_of_ne h ..

theorem put_put (c : Threads σ π) (t : Nat) (s s' : σ) (p p' : π) :
    (c.put t s p).put t s' p' = c.put t s' p' := by
  rw [put, put, Function.update_idem, put]

/-- One atomic step of one thread. -/
inductive Step (move : Move σ π) (c : Threads σ π) : Threads σ π → Prop
  | of {t : Nat} {s : σ} {p : π} (h : move t c.shared (c.at_ t) s p) : Step move c (c.put t s p)

theorem Step.from_ {c : Threads σ π} {t : Nat} {s : σ} {p q : π} (hq : c.at_ t = q)
    (h : move t c.shared q s p) : Step move c (c.put t s p) := by
  subst hq
  exact .of h

/-- Any number of steps, in any order of the threads. -/
abbrev Steps (move : Move σ π) : Threads σ π → Threads σ π → Prop :=
  Relation.ReflTransGen (Step move)

/-- Thread `t` alone takes steps, each of them from a point of `P`. -/
abbrev Solo (move : Move σ π) (t : Nat) (P : π → Prop) : σ × π → σ × π → Prop :=
  Relation.ReflTransGen fun a b => P a.2 ∧ move t a.1 a.2 b.1 b.2

/-- The others stand still meanwhile. -/
theorem Solo.steps {t : Nat} {P : π → Prop} {a b : σ × π} (h : Solo move t P a b) {c : Threads σ π}
    (hs : c.shared = a.1) (hp : c.at_ t = a.2) : Steps move c (c.put t b.1 b.2) := by
  induction h with
  | refl =>
    have hsame : c.put t a.1 a.2 = c := by
      rw [← hs, ← hp, put, Function.update_eq_self]
    rw [hsame]
  | @tail b d _ hmove ih =>
    rw [← put_put c t b.1 d.1 b.2 d.2]
    exact ih.tail (.from_ (put_at ..) hmove.2)

/-- Only finitely many threads have moved. -/
theorem Steps.untouched {c c' : Threads σ π} (h : Steps move c c') :
    ∃ N, ∀ t, N ≤ t → c'.at_ t = c.at_ t := by
  induction h with
  | refl => exact ⟨0, fun _ _ => rfl⟩
  | tail _ hstep ih =>
    obtain ⟨N, hN⟩ := ih
    obtain @⟨t, s, p, -⟩ := hstep
    refine ⟨max N (t + 1), fun u hu => ?_⟩
    have hut : u ≠ t := by
      rintro rfl
      exact absurd (Nat.le_trans (Nat.le_max_right _ _) hu) (Nat.not_succ_le_self u)
    rw [put_other _ hut]
    exact hN u (Nat.le_trans (Nat.le_max_left _ _) hu)

/-- A run, with the threads that take its steps. -/
inductive Path (move : Move σ π) : Threads σ π → List Nat → Threads σ π → Prop
  | nil {c : Threads σ π} : Path move c [] c
  | cons {c c' : Threads σ π} {t : Nat} {s : σ} {p : π} {us : List Nat}
    (h : move t c.shared (c.at_ t) s p) (rest : Path move (c.put t s p) us c') :
    Path move c (t :: us) c'

theorem Path.steps {c c' : Threads σ π} {us : List Nat} (h : Path move c us c') : Steps move c c' := by
  induction h with
  | nil => exact .refl
  | cons hmove _ ih => exact .head (.of hmove) ih

/-- A thread each of whose steps within `P` leaves it fewer of them, there or at an end `Q`, comes to
an end, whatever the other threads do meanwhile. -/
theorem Path.arrives {t : Nat} {P Q : π → Prop} {f : π → Nat}
    (hmove : ∀ {s p s' p'}, move t s p s' p' → P p → f p' < f p ∧ (P p' ∨ Q p'))
    (hpos : ∀ {p}, P p → 0 < f p) {c c' : Threads σ π} {us : List Nat} (h : Path move c us c')
    (hin : P (c.at_ t)) (hcount : f (c.at_ t) ≤ us.count t) :
    ∃ vs ws d, us = vs ++ ws ∧ Path move c vs d ∧ Q (d.at_ t) := by
  induction h with
  | nil => exact absurd (Nat.le_zero.mp hcount) (Nat.ne_of_gt (hpos hin))
  | @cons c c' u s p us h rest ih =>
    by_cases hu : u = t
    · subst hu
      obtain ⟨hless, hnext⟩ := hmove h hin
      rw [List.count_cons_self] at hcount
      rcases hnext with hinside | hends
      · obtain ⟨vs, ws, d, rfl, hpath, hd⟩ := ih (by rwa [put_at]) (by rw [put_at]; omega)
        exact ⟨u :: vs, ws, d, rfl, .cons h hpath, hd⟩
      · exact ⟨[u], us, c.put u s p, rfl, .cons h .nil, by rwa [put_at]⟩
    · have hother : (c.put u s p).at_ t = c.at_ t := put_other c (Ne.symm hu) s p
      rw [List.count_cons_of_ne hu] at hcount
      obtain ⟨vs, ws, d, rfl, hpath, hd⟩ := ih (by rwa [hother]) (by rwa [hother])
      exact ⟨u :: vs, ws, d, rfl, .cons h hpath, hd⟩

/-- A proof outline: `G` of the shared state, `A` of each thread, `B` of every two. -/
structure Outline (move : Move σ π) (G : σ → Prop) (A : Nat → σ → π → Prop)
    (B : π → π → Prop) : Prop where
  symm : ∀ p q, B p q → B q p
  /-- A thread's own move. -/
  own : ∀ {t s p s' p'}, move t s p s' p' → G s → A t s p → G s' ∧ A t s' p'
  /-- No move disturbs another thread's assertion. -/
  undisturbed : ∀ {t s p s' p'} {u : Nat} {q : π}, u ≠ t → move t s p s' p' → G s → A t s p →
    A u s q → B p q → A u s' q
  apart : ∀ {t s p s' p'} {u : Nat} {q : π}, u ≠ t → move t s p s' p' → G s → A t s p →
    A u s q → B p q → B p' q

/-- The outline holds of a state. -/
structure Holds (G : σ → Prop) (A : Nat → σ → π → Prop) (B : π → π → Prop)
    (c : Threads σ π) : Prop where
  shared : G c.shared
  thread : ∀ t, A t c.shared (c.at_ t)
  pairs : ∀ t u, t ≠ u → B (c.at_ t) (c.at_ u)

namespace Outline

variable {G : σ → Prop} {A : Nat → σ → π → Prop} {B : π → π → Prop}
  (h : Outline move G A B)
include h

theorem step {c c' : Threads σ π} (hs : Step move c c') (hc : Holds G A B c) : Holds G A B c' := by
  obtain @⟨t, s, p, hm⟩ := hs
  obtain ⟨hG, hA⟩ := h.own hm hc.shared (hc.thread t)
  refine ⟨hG, fun u => ?_, fun u v huv => ?_⟩
  · by_cases hu : u = t
    · subst hu
      rw [put_at]
      exact hA
    · rw [put_other c hu]
      exact h.undisturbed hu hm hc.shared (hc.thread t) (hc.thread u) (hc.pairs t u (Ne.symm hu))
  · have hmoved : ∀ w, w ≠ t → B p (c.at_ w) := fun w hw =>
      h.apart hw hm hc.shared (hc.thread t) (hc.thread w) (hc.pairs t w (Ne.symm hw))
    by_cases hu : u = t
    · subst hu
      rw [put_at, put_other c (Ne.symm huv)]
      exact hmoved v (Ne.symm huv)
    · rw [put_other c hu]
      by_cases hv : v = t
      · subst hv
        rw [put_at]
        exact h.symm _ _ (hmoved u hu)
      · rw [put_other c hv]
        exact hc.pairs u v huv

/-- **The outline holds in every reachable state.** -/
theorem reachable {c c' : Threads σ π} (hs : Steps move c c') (hc : Holds G A B c) :
    Holds G A B c' := by
  induction hs with
  | refl => exact hc
  | tail _ hstep ih => exact h.step hstep ih

end Outline

end Threads

end Lib
