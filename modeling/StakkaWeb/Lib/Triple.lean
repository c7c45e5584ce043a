import StakkaWeb.Lib.Prog

/-!
# Pre- and postconditions of programs

`Triple P m Q R`: from every state that meets `P`, at every bound on loops, a run of `m` that
answers `a` ends in a state that meets `Q a`, and one that ends otherwise in a state that meets
`R`, which is told the exception, or `none` for a run that hangs. One `R` serves a whole
sequence, since an abrupt end skips the rest of it.

`Keeps I m` is the invariant form: `I` holds after every run of `m` from a state where it held,
however the run ended.
-/

set_option autoImplicit false

namespace Lib.Prog

variable {ε σ α β : Type}

def Triple (P : σ → Prop) (m : Prog ε σ α) (Q : α → σ → Prop) (R : Option ε → σ → Prop) : Prop :=
  ∀ n s, P s → match m n s with
    | (.ok a, s') => Q a s'
    | (.raise e, s') => R (some e) s'
    | (.hang, s') => R none s'

/-- Only running out of turns is allowed: the run neither raises nor says anything when it hangs. -/
def NoRaise (e : Option ε) (_ : σ) : Prop := e = none

/-- `I` holds after every run from a state where it held. -/
def Keeps (I : σ → Prop) (m : Prog ε σ α) : Prop := Triple I m (fun _ => I) (fun _ => I)

variable {P A : σ → Prop} {m : Prog ε σ α} {Q B : α → σ → Prop} {R E : Option ε → σ → Prop}

namespace Triple

/-- Reading a triple at a run that answered. -/
theorem of_ok (h : Triple P m Q R) {n : Nat} {s s' : σ} {a : α} (hs : P s)
    (hr : m n s = (.ok a, s')) : Q a s' := by
  have := h n s hs
  rwa [hr] at this

/-- Reading a triple at a run that raised. -/
theorem of_raise (h : Triple P m Q R) {n : Nat} {s s' : σ} {e : ε} (hs : P s)
    (hr : m n s = (.raise e, s')) : R (some e) s' := by
  have := h n s hs
  rwa [hr] at this

theorem conseq (h : Triple A m B E) (hP : ∀ s, P s → A s) (hQ : ∀ a s, B a s → Q a s)
    (hR : ∀ e s, E e s → R e s) : Triple P m Q R := by
  intro n s hs
  have := h n s (hP s hs)
  split at this
  · exact hQ _ _ this
  · exact hR _ _ this
  · exact hR _ _ this

theorem pre (h : Triple A m Q R) (hP : ∀ s, P s → A s) : Triple P m Q R :=
  h.conseq hP (fun _ _ => id) (fun _ _ => id)

theorem post (h : Triple P m B R) (hQ : ∀ a s, B a s → Q a s) : Triple P m Q R :=
  h.conseq (fun _ => id) hQ (fun _ _ => id)

/-- Nothing is said of how a run ends that does not return. -/
theorem unsaid (h : Triple P m Q R) : Triple P m Q (fun _ _ => True) :=
  h.conseq (fun _ => id) (fun _ _ => id) fun _ _ _ => trivial

/-- Nothing is said of how the run ends. -/
theorem any : Triple P m (fun _ _ => True) (fun _ _ => True) := by
  intro n s _
  split <;> trivial

/-- A fact that does not depend on the state stays one. -/
theorem fact {φ : Prop} : Triple (fun _ => φ) m (fun _ _ => φ) (fun _ _ => True) := by
  intro n s hs
  split
  · exact hs
  · trivial
  · trivial

/-- A fact that does not depend on the state may be taken out of the precondition. -/
theorem of_fact {φ : Prop} (h : φ → Triple P m Q R) : Triple (fun s => φ ∧ P s) m Q R :=
  fun n s hs => h hs.1 n s hs.2

/-- A value that the precondition names may be fixed first. -/
theorem of_exists {ι : Type} {P : ι → σ → Prop} (h : ∀ i, Triple (P i) m Q R) :
    Triple (fun s => ∃ i, P i s) m Q R :=
  fun n s ⟨i, hi⟩ => h i n s hi

/-- The precondition by cases. -/
theorem of_or (h : Triple P m Q R) (h' : Triple A m Q R) : Triple (fun s => P s ∨ A s) m Q R :=
  fun n s hs => hs.elim (h n s) (h' n s)

/-- Two triples of one run. -/
theorem and (h : Triple P m Q R) (h' : Triple A m B E) :
    Triple (fun s => P s ∧ A s) m (fun a s => Q a s ∧ B a s) (fun e s => R e s ∧ E e s) := by
  intro n s hs
  have h₁ := h n s hs.1
  have h₂ := h' n s hs.2
  split at h₁ <;> rename_i hr <;> rw [hr] at h₂ <;> exact ⟨h₁, h₂⟩

/-- A triple at one state at a time. -/
theorem of_each (h : ∀ s₀, P s₀ → Triple (fun s => s = s₀) m Q R) : Triple P m Q R :=
  fun n s hs => h s hs n s rfl

theorem pure {a : α} (h : ∀ s, P s → Q a s) : Triple P (pure a : Prog ε σ α) Q R :=
  fun _ s hs => h s hs

theorem raise {e : ε} (h : ∀ s, P s → R (some e) s) : Triple P (raise e : Prog ε σ α) Q R :=
  fun _ s hs => h s hs

theorem gets {f : σ → α} (h : ∀ s, P s → Q (f s) s) : Triple P (gets f : Prog ε σ α) Q R :=
  fun _ s hs => h s hs

theorem modify {f : σ → σ} {Q : Unit → σ → Prop} (h : ∀ s, P s → Q () (f s)) :
    Triple P (modify f : Prog ε σ Unit) Q R :=
  fun _ s hs => h s hs

theorem call {f : σ → Except ε α × σ} (hok : ∀ s a s', P s → f s = (.ok a, s') → Q a s')
    (herr : ∀ s e s', P s → f s = (.error e, s') → R (some e) s') : Triple P (call f) Q R := by
  intro n s hs
  unfold Prog.call
  rcases hf : f s with ⟨_ | _, s'⟩
  · exact herr s _ s' hs hf
  · exact hok s _ s' hs hf

/-- Sequencing through an intermediate condition `M`. -/
theorem bind {f : α → Prog ε σ β} {M : α → σ → Prop} {Q : β → σ → Prop}
    (hm : Triple P m M R) (hf : ∀ a, Triple (M a) (f a) Q R) : Triple P (m >>= f) Q R := by
  intro n s hs
  have h := hm n s hs
  rw [bind_run]
  rcases hr : m n s with ⟨a | e | _, s'⟩ <;> rw [hr] at h
  · exact hf a n s' h
  · exact h
  · exact h

/-- A first step whose run is known. -/
theorem after {f : α → Prog ε σ β} {s s' : σ} {a : α} {Q : β → σ → Prop}
    (hm : ∀ n, m n s = (.ok a, s')) (hf : Triple (fun t => t = s') (f a) Q R) :
    Triple (fun t => t = s) (m >>= f) Q R := by
  rintro n t rfl
  rw [bind_of_ok (hm n)]
  exact hf n s' rfl

theorem ite {c : Prop} [Decidable c] {m' : Prog ε σ α} (h : c → Triple P m Q R)
    (h' : ¬ c → Triple P m' Q R) : Triple P (if c then m else m') Q R := by
  split
  · exact h ‹_›
  · exact h' ‹_›

theorem raiseIf {c : Bool} {e : ε} {Q : Unit → σ → Prop} (hc : ∀ s, P s → c = true → R (some e) s)
    (hn : ∀ s, P s → c = false → Q () s) : Triple P (raiseIf c e) Q R := by
  unfold Prog.raiseIf
  split
  · exact raise fun s hs => hc s hs ‹_›
  · exact pure fun s hs => hn s hs (Bool.eq_false_iff.mpr ‹_›)

theorem when {c : Bool} {m : Prog ε σ Unit} {Q : Unit → σ → Prop} (hc : c = true → Triple P m Q R)
    (hn : ∀ s, P s → c = false → Q () s) : Triple P (when c m) Q R := by
  unfold Prog.when
  split
  · exact hc ‹_›
  · exact pure fun s hs => hn s hs (Bool.eq_false_iff.mpr ‹_›)

/-- A handler takes over where the body raised. -/
theorem attempt {h : ε → Prog ε σ α} (hm : Triple P m Q E)
    (hh : ∀ e, Triple (E (some e)) (h e) Q R) (hg : ∀ s, E none s → R none s) :
    Triple P (attempt m h) Q R := by
  intro n s hs
  have h₁ := hm n s hs
  unfold Prog.attempt
  rcases hr : m n s with ⟨a | e | _, s'⟩ <;> rw [hr] at h₁
  · exact h₁
  · exact hh e n s' h₁
  · exact hg s' h₁

/-- `finally` runs after an answer and after a raise. -/
theorem ensure {fin : Prog ε σ Unit} (hm : Triple P m B E)
    (hok : ∀ a, Triple (B a) fin (fun _ => Q a) R)
    (hra : ∀ e, Triple (E (some e)) fin (fun _ => R (some e)) R)
    (hg : ∀ s, E none s → R none s) : Triple P (ensure m fin) Q R := by
  intro n s hs
  have h₁ := hm n s hs
  unfold Prog.ensure
  rcases hr : m n s with ⟨a | e | _, s'⟩ <;> rw [hr] at h₁
  · exact (hok a).bind (fun _ => pure fun _ hq => hq) n s' h₁
  · exact (hra e).bind (fun _ => raise fun _ hq => hq) n s' h₁
  · exact hg s' h₁

/-- The rule of a loop: an invariant that every turn re-establishes or leaves with the answer. -/
theorem loop {body : Prog ε σ (Option α)} (I : σ → Prop) (hI : ∀ s, P s → I s)
    (hb : Triple I body (fun r s => match r with | some a => Q a s | none => I s) R)
    (hg : ∀ s, I s → R none s) : Triple P (loop body) Q R := by
  have key : ∀ k n s, I s → match turns body k n s with
      | (.ok a, s') => Q a s'
      | (.raise e, s') => R (some e) s'
      | (.hang, s') => R none s' := by
    intro k
    induction k with
    | zero => exact fun n s hs => hg s hs
    | succ k ih =>
      intro n s hs
      have h := hb n s hs
      rw [turns, bind_run]
      rcases hr : body n s with ⟨(_ | a) | e | _, s'⟩ <;> rw [hr] at h
      · exact ih n s' h
      · exact h
      · exact h
      · exact h
  exact fun n s hs => key n n s (hI s hs)

end Triple

/-! ## Invariants -/

namespace Keeps

variable {I : σ → Prop}

theorem run (h : Keeps I m) (n : Nat) {s : σ} (hs : I s) : I (m n s).2 := by
  have := h n s hs
  rcases hr : m n s with ⟨a | e | _, s'⟩ <;> rw [hr] at this <;> exact this

/-- An invariant, read off every run. -/
theorem of_run (h : ∀ n s, I s → I (m n s).2) : Keeps I m := by
  intro n s hs
  have := h n s hs
  split <;> rename_i hr <;> rw [hr] at this <;> exact this

theorem pure (a : α) : Keeps I (pure a : Prog ε σ α) := Triple.pure fun _ => id

theorem raise (e : ε) : Keeps I (raise e : Prog ε σ α) := Triple.raise fun _ => id

theorem gets (f : σ → α) : Keeps I (gets f : Prog ε σ α) := Triple.gets fun _ => id

theorem modify {f : σ → σ} (h : ∀ s, I s → I (f s)) : Keeps I (modify f : Prog ε σ Unit) :=
  Triple.modify h

theorem call {f : σ → Except ε α × σ} (h : ∀ s, I s → I (f s).2) : Keeps I (call f) :=
  Triple.call (fun s _ _ hs hf => by have := h s hs; rwa [hf] at this)
    (fun s _ _ hs hf => by have := h s hs; rwa [hf] at this)

theorem bind {f : α → Prog ε σ β} (hm : Keeps I m) (hf : ∀ a, Keeps I (f a)) :
    Keeps I (m >>= f) :=
  Triple.bind hm hf

theorem ite {c : Prop} [Decidable c] {m' : Prog ε σ α} (h : Keeps I m) (h' : Keeps I m') :
    Keeps I (if c then m else m') :=
  Triple.ite (fun _ => h) (fun _ => h')

theorem raiseIf (c : Bool) (e : ε) : Keeps I (raiseIf c e : Prog ε σ Unit) :=
  Triple.raiseIf (fun _ hs _ => hs) (fun _ hs _ => hs)

theorem when {c : Bool} {m : Prog ε σ Unit} (h : Keeps I m) : Keeps I (when c m) :=
  Triple.when (fun _ => h) (fun _ hs _ => hs)

theorem attempt {h : ε → Prog ε σ α} (hm : Keeps I m) (hh : ∀ e, Keeps I (h e)) :
    Keeps I (attempt m h) :=
  Triple.attempt hm hh fun _ => id

theorem loop {body : Prog ε σ (Option α)} (h : Keeps I body) : Keeps I (loop body) :=
  Triple.loop I (fun _ => id) (h.post fun r _ hr => by cases r <;> exact hr) fun _ => id

/-! What holds after one run of `m`, and is kept by what may follow it. -/

section Following

variable {n : Nat} {s : σ} (hs : I (m n s).2)
include hs

theorem then_bind {f : α → Prog ε σ β} (hf : ∀ a, Keeps I (f a)) : I ((m >>= f) n s).2 := by
  rw [bind_run]
  rcases hr : m n s with ⟨a | e | _, s'⟩ <;> rw [hr] at hs
  · exact (hf a).run n hs
  · exact hs
  · exact hs

theorem then_attempt {h : ε → Prog ε σ α} (hh : ∀ e, Keeps I (h e)) : I (Prog.attempt m h n s).2 := by
  unfold Prog.attempt
  rcases hr : m n s with ⟨a | e | _, s'⟩ <;> rw [hr] at hs
  · exact hs
  · exact (hh e).run n hs
  · exact hs

theorem then_ensure {fin : Prog ε σ Unit} (hf : Keeps I fin) : I (Prog.ensure m fin n s).2 := by
  unfold Prog.ensure
  rcases hr : m n s with ⟨a | e | _, s'⟩ <;> rw [hr] at hs
  · exact (hf.bind fun _ => pure a).run n hs
  · exact (hf.bind fun _ => raise e).run n hs
  · exact hs

end Following

/-- An invariant of code that always answers, with any exceptional postcondition. -/
theorem total (h : Keeps I m) (ht : ∀ n s, ∃ a s', m n s = (.ok a, s')) :
    Triple I m (fun _ => I) R := by
  intro n s hs
  have := h n s hs
  obtain ⟨a, s', hr⟩ := ht n s
  rw [hr] at this ⊢
  exact this

/-- An invariant is carried along. -/
theorem along (hk : Keeps I m) (hm : Triple P m Q NoRaise) :
    Triple (fun s => P s ∧ I s) m (fun a s => Q a s ∧ I s) NoRaise :=
  (hm.and hk).conseq (fun _ => id) (fun _ _ => id) fun _ _ hs => hs.1

end Keeps

/-- **A settled run meets its triple**: with enough turns it answers and meets `Q`, or raises
and meets `R`. -/
theorem Settles.meets {s : σ} (hm : Settles m s) (h : Triple P m Q R) (hs : P s) :
    ∃ N, ∀ n, N ≤ n → (∃ a s', m n s = (.ok a, s') ∧ Q a s') ∨
      (∃ e s', m n s = (.raise e, s') ∧ R (some e) s') := by
  obtain ⟨N, ⟨o, s'⟩, ho, hN⟩ := hm
  refine ⟨N, fun n hn => ?_⟩
  cases o with
  | ok a => exact .inl ⟨a, s', hN n hn, h.of_ok hs (hN n hn)⟩
  | raise e => exact .inr ⟨e, s', hN n hn, h.of_raise hs (hN n hn)⟩
  | hang => exact absurd rfl ho

/-- A settled run that can only answer, answers. -/
theorem Settles.answers {s : σ} (hm : Settles m s) (h : Triple P m Q NoRaise) (hs : P s) :
    ∃ N a s', (∀ n, N ≤ n → m n s = (.ok a, s')) ∧ Q a s' := by
  obtain ⟨N, ⟨o, s'⟩, ho, hN⟩ := hm
  have hmeets := h N s hs
  rw [hN N (Nat.le_refl N)] at hmeets
  cases o with
  | ok a => exact ⟨N, a, s', hN, hmeets⟩
  | raise e => cases hmeets
  | hang => exact absurd rfl ho

end Lib.Prog
