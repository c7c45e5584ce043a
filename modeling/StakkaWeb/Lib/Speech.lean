import Mathlib
import StakkaWeb.Lib.Triple

/-!
# What a program has said

Where the state keeps a list of what was said so far, `Speaks said l e m s` bounds what a run of `m`
from `s` adds to it: a word of the language `l` when it answers, and a word of `e` when it raises or
hangs. Both are languages in the sense of Mathlib, so what a program says is put together by the
operations of a Kleene algebra: a sequence multiplies, a handler adds.
-/

set_option autoImplicit false

open scoped Computability

namespace Lib.Prog

variable {ε σ α β L : Type} {said : σ → List L}

/-- The words that may be added, from one state to another. -/
def Adds (said : σ → List L) (l : Language L) (s s' : σ) : Prop := ∃ u ∈ l, said s' = said s ++ u

theorem Adds.none (s : σ) : Adds said 1 s s :=
  ⟨[], Language.nil_mem_one, (List.append_nil _).symm⟩

theorem Adds.mono {l l' : Language L} {s s' : σ} (h : Adds said l s s') (hl : l ≤ l') :
    Adds said l' s s' := by
  obtain ⟨u, hu, hs⟩ := h
  exact ⟨u, hl hu, hs⟩

theorem Adds.trans {l l' : Language L} {s t v : σ} (h : Adds said l s t) (h' : Adds said l' t v) :
    Adds said (l * l') s v := by
  obtain ⟨u, hu, ht⟩ := h
  obtain ⟨u', hu', hv⟩ := h'
  refine ⟨u ++ u', Language.append_mem_mul hu hu', ?_⟩
  rw [hv, ht, List.append_assoc]

/-- A run of `m` from `s` adds a word of `l` when it answers, else one of `e`. -/
def Speaks (said : σ → List L) (l e : Language L) (m : Prog ε σ α) (s : σ) : Prop :=
  ∀ n, match m n s with
    | (.ok _, s') => Adds said l s s'
    | (_, s') => Adds said e s s'

/-- It adds nothing. -/
abbrev Mute (said : σ → List L) (m : Prog ε σ α) (s : σ) : Prop := Speaks said 1 1 m s

variable {m : Prog ε σ α} {s : σ} {l l' e e' k : Language L}

namespace Speaks

theorem mono (h : Speaks said l e m s) (hl : l ≤ l') (he : e ≤ e') : Speaks said l' e' m s := by
  intro n
  have := h n
  rcases hr : m n s with ⟨a | exc | _, s'⟩ <;> rw [hr] at this
  · exact this.mono hl
  · exact this.mono he
  · exact this.mono he

/-- However the run ends. -/
theorem adds (h : Speaks said l e m s) (hl : l ≤ k) (he : e ≤ k) (n : Nat) :
    Adds said k s (m n s).2 := by
  have := h n
  rcases hr : m n s with ⟨a | exc | _, s'⟩ <;> rw [hr] at this
  · exact this.mono hl
  · exact this.mono he
  · exact this.mono he

/-- One language for every end. -/
theorem of_adds (h : ∀ n, Adds said l s (m n s).2) : Speaks said l l m s := by
  intro n
  have := h n
  split <;> rename_i hr <;> rw [hr] at this <;> exact this

theorem pure (a : α) : Speaks said 1 e (pure a : Prog ε σ α) s := fun _ => Adds.none s

theorem raise (exc : ε) : Speaks said l 1 (raise exc : Prog ε σ α) s := fun _ => Adds.none s

theorem gets (f : σ → α) : Speaks said 1 e (gets f : Prog ε σ α) s := fun _ => Adds.none s

/-- What an invariant proves: that what was said is a word of `l` after what was said before. -/
theorem of_keeps (hone : 1 ≤ l)
    (h : ∀ base, Keeps (fun s => ∃ u ∈ l, said s = base ++ u) m) : Speaks said l l m s := by
  apply of_adds
  intro n
  exact (h (said s)).run n ⟨[], hone Language.nil_mem_one, (List.append_nil _).symm⟩

/-- A sequence: what the first step says, and then what follows each of its answers. -/
theorem bind {f : α → Prog ε σ β} (hm : Speaks said l e m s)
    (hf : ∀ n a s', m n s = (.ok a, s') → Speaks said l' e' (f a) s') :
    Speaks said (l * l') (e + l * e') (m >>= f) s := by
  intro n
  have h := hm n
  rw [bind_run]
  rcases hr : m n s with ⟨a | exc | _, s'⟩ <;> rw [hr] at h
  · have h' := hf n a s' hr n
    dsimp only
    rcases hr' : f a n s' with ⟨b | exc | _, t⟩ <;> rw [hr'] at h'
    · exact h.trans h'
    · exact (h.trans h').mono le_add_self
    · exact (h.trans h').mono le_add_self
  · exact h.mono le_self_add
  · exact h.mono le_self_add

/-- A sequence, within given bounds. -/
theorem andThen {f : α → Prog ε σ β} {k k' : Language L} (hm : Speaks said l e m s)
    (hf : ∀ n a s', m n s = (.ok a, s') → Speaks said l' e' (f a) s') (hl : l * l' ≤ k)
    (he : e ≤ k') (he' : l * e' ≤ k') : Speaks said k k' (m >>= f) s :=
  (hm.bind hf).mono hl (add_le he he')

/-- A step that adds nothing before the rest. -/
theorem silent_bind {f : α → Prog ε σ β} (hm : Mute said m s) (hone : 1 ≤ e)
    (hf : ∀ n a s', m n s = (.ok a, s') → Speaks said l e (f a) s') :
    Speaks said l e (m >>= f) s :=
  hm.andThen hf (one_mul l).le hone (one_mul e).le

/-- A rest that adds nothing. -/
theorem bind_silent {f : α → Prog ε σ β} (hm : Speaks said l e m s) (hle : l ≤ e)
    (hf : ∀ n a s', m n s = (.ok a, s') → Mute said (f a) s') : Speaks said l e (m >>= f) s :=
  hm.andThen hf (mul_one l).le le_rfl ((mul_one l).le.trans hle)

theorem raiseIf (c : Bool) (exc : ε) : Mute said (raiseIf c exc : Prog ε σ Unit) s := by
  unfold Prog.raiseIf
  split
  · exact raise exc
  · exact pure ()

theorem ite {c : Prop} [Decidable c] {m' : Prog ε σ α} (h : c → Speaks said l e m s)
    (h' : ¬ c → Speaks said l e m' s) : Speaks said l e (if c then m else m') s := by
  split
  · exact h ‹_›
  · exact h' ‹_›

/-- A handler speaks after what the body had said by the time it raised. -/
theorem attempt {h : ε → Prog ε σ α} (hm : Speaks said l e m s)
    (hh : ∀ n exc s', m n s = (.raise exc, s') → Speaks said l' e' (h exc) s') :
    Speaks said (l + e * l') (e + e * e') (attempt m h) s := by
  intro n
  have h₁ := hm n
  unfold Prog.attempt
  rcases hr : m n s with ⟨a | exc | _, s'⟩ <;> rw [hr] at h₁
  · exact h₁.mono le_self_add
  · have h₂ := hh n exc s' hr n
    dsimp only
    rcases hr' : h exc n s' with ⟨b | exc' | _, t⟩ <;> rw [hr'] at h₂
    · exact (h₁.trans h₂).mono le_add_self
    · exact (h₁.trans h₂).mono le_add_self
    · exact (h₁.trans h₂).mono le_add_self
  · exact h₁.mono le_self_add

/-- A handler that adds nothing. -/
theorem attempt_silent {h : ε → Prog ε σ α} (hm : Speaks said l l m s)
    (hh : ∀ n exc s', m n s = (.raise exc, s') → Mute said (h exc) s') :
    Speaks said l l (Prog.attempt m h) s := by
  apply (hm.attempt hh).mono
  · rw [mul_one, add_idem]
  · rw [mul_one, add_idem]

/-- What comes after the end, whatever the end was, adds nothing. -/
theorem ensure {fin : Prog ε σ Unit} (hm : Speaks said l e m s) (hle : l ≤ e)
    (hf : ∀ s', Mute said fin s') : Speaks said l e (ensure m fin) s := by
  intro n
  have h := hm n
  unfold Prog.ensure
  rcases hr : m n s with ⟨a | exc | _, s'⟩ <;> rw [hr] at h
  · have hfin := (hf s').bind_silent (f := fun _ => Pure.pure a) le_rfl (fun _ _ _ _ => pure a) n
    dsimp only
    rcases hr' : (fin >>= fun _ => Pure.pure a) n s' with ⟨b | exc | _, t⟩ <;> rw [hr'] at hfin
    · exact (h.trans hfin).mono (mul_one l).le
    · exact (h.trans hfin).mono ((mul_one l).le.trans hle)
    · exact (h.trans hfin).mono ((mul_one l).le.trans hle)
  · have hraise (s' : σ) : Speaks said 0 1 (Prog.raise exc : Prog ε σ α) s' := raise exc
    have hfin := (hf s').bind (fun _ _ t _ => hraise t) n
    dsimp only
    rcases hr' : (fin >>= fun _ => Prog.raise (α := α) exc) n s' with ⟨b | exc' | _, t⟩ <;>
      rw [hr'] at hfin
    · obtain ⟨u, hu, -⟩ := hfin
      rw [mul_zero] at hu
      exact absurd hu (Language.notMem_zero u)
    · exact (h.trans hfin).mono (by simp)
    · exact (h.trans hfin).mono (by simp)
  · exact h

end Speaks

end Lib.Prog
