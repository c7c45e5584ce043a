import StakkaWeb.Lib.Prog

/-!
# Programs within a time

`Within time b m`: from any moment, `m` is over at most `b` later, however it ends, where `time` reads
a clock off a state. The rules add up what the steps of a program take. A loop is the one thing that
takes longer than its steps: `loop_le` bounds it by the moment up to which it goes on.
-/

set_option autoImplicit false

namespace Lib.Prog

variable {ε σ α β : Type}

def Within (time : σ → Nat) (b : Nat) (m : Prog ε σ α) : Prop :=
  ∀ n s, time (m n s).2 ≤ time s + b

namespace Within

variable {time : σ → Nat} {b c : Nat} {m : Prog ε σ α}

theorem mono (h : Within time b m) (hb : b ≤ c) : Within time c m := by
  intro n s
  have := h n s
  omega

theorem pure (a : α) : Within time b (pure a : Prog ε σ α) := fun _ s => Nat.le_add_right (time s) b

theorem raise (e : ε) : Within time b (raise e : Prog ε σ α) := fun _ s => Nat.le_add_right (time s) b

theorem gets (f : σ → α) : Within time b (gets f : Prog ε σ α) := fun _ s => Nat.le_add_right (time s) b

theorem modify {f : σ → σ} (h : ∀ s, time (f s) ≤ time s + b) :
    Within time b (modify f : Prog ε σ Unit) := fun _ s => h s

theorem call {f : σ → Except ε α × σ} (h : ∀ s, time (f s).2 ≤ time s + b) :
    Within time b (call f) := by
  intro n s
  have hs := h s
  unfold Prog.call
  rcases hf : f s with ⟨_ | _, s'⟩ <;> rw [hf] at hs <;> exact hs

theorem bind {f : α → Prog ε σ β} (hm : Within time b m) (hf : ∀ a, Within time c (f a)) :
    Within time (b + c) (m >>= f) := by
  intro n s
  have hfirst := hm n s
  rw [bind_run]
  rcases hr : m n s with ⟨a | e | _, s'⟩ <;> rw [hr] at hfirst <;> dsimp only at hfirst ⊢
  · have hrest := hf a n s'
    omega
  · omega
  · omega

/-- The first step takes no time. -/
theorem free_bind {f : α → Prog ε σ β} (hm : Within time 0 m) (hf : ∀ a, Within time b (f a)) :
    Within time b (m >>= f) := by
  have h := hm.bind hf
  rwa [Nat.zero_add] at h

/-- What follows takes no time. -/
theorem bind_free {f : α → Prog ε σ β} (hm : Within time b m) (hf : ∀ a, Within time 0 (f a)) :
    Within time b (m >>= f) :=
  hm.bind hf

theorem ite {p : Prop} [Decidable p] {m' : Prog ε σ α} (h : Within time b m) (h' : Within time b m') :
    Within time b (if p then m else m') := by
  split
  · exact h
  · exact h'

theorem raiseIf (p : Bool) (e : ε) : Within time b (Prog.raiseIf p e : Prog ε σ Unit) :=
  ite (raise e) (pure ())

theorem when {p : Bool} {m : Prog ε σ Unit} (h : Within time b m) : Within time b (Prog.when p m) :=
  ite h (pure ())

theorem attempt {h : ε → Prog ε σ α} (hm : Within time b m) (hh : ∀ e, Within time c (h e)) :
    Within time (b + c) (Prog.attempt m h) := by
  intro n s
  have hfirst := hm n s
  unfold Prog.attempt
  rcases hr : m n s with ⟨a | e | _, s'⟩ <;> rw [hr] at hfirst <;> dsimp only at hfirst ⊢
  · omega
  · have hrest := hh e n s'
    omega
  · omega

/-- The handler takes no time. -/
theorem attempt_free {h : ε → Prog ε σ α} (hm : Within time b m) (hh : ∀ e, Within time 0 (h e)) :
    Within time b (Prog.attempt m h) :=
  hm.attempt hh

theorem ensure {fin : Prog ε σ Unit} (hm : Within time b m) (hf : Within time c fin) :
    Within time (b + c) (Prog.ensure m fin) := by
  intro n s
  have hfirst := hm n s
  unfold Prog.ensure
  rcases hr : m n s with ⟨a | e | _, s'⟩ <;> rw [hr] at hfirst <;> dsimp only at hfirst ⊢
  · have hrest := (hf.bind fun _ => Within.pure (b := 0) a) n s'
    omega
  · have hrest := (hf.bind fun _ => Within.raise (α := α) (b := 0) e) n s'
    omega
  · omega

end Within

/-- **A loop that goes on only up to the moment `d`** is over within a turn of that. -/
theorem loop_le (time : σ → Nat) {b d : Nat} {body : Prog ε σ (Option α)}
    (hb : ∀ n s, time (body n s).2 ≤ max (time s + b) d)
    (hgo : ∀ n s s', body n s = (.ok none, s') → time s' ≤ d) (n : Nat) (s : σ) :
    time (loop body n s).2 ≤ max (time s) d + b := by
  have key : ∀ k s, time (turns body k n s).2 ≤ max (time s) d + b := by
    intro k
    induction k with
    | zero =>
      intro s
      show time s ≤ _
      omega
    | succ k ih =>
      intro s
      have hturn := hb n s
      have hgoes := hgo n s
      rw [turns, bind_run]
      rcases hr : body n s with ⟨(_ | a) | e | _, s'⟩ <;> rw [hr] at hturn
      · have hrest := ih s'
        have hbefore := hgoes s' hr
        show time (turns body k n s').2 ≤ _
        omega
      all_goals
        show time s' ≤ _
        dsimp only at hturn
        omega
  exact key n s

end Lib.Prog
