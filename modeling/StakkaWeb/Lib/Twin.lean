import StakkaWeb.Lib.Triple

/-!
# Two runs side by side

`Paired R V m m'`: from states that `R` relates, at every bound on loops, runs of `m` and `m'` end
alike, with answers that `V` relates or by the same exception, in states that `R` relates. The
rules go down both programs at once; where they branch, the branch is the same on both sides.

`Follows R L m` is for runs of one program that go together only so long: `L` is not left, and while
the second run has not come to `L`, the first answers the same, in states that `R` relates.
-/

set_option autoImplicit false

namespace Lib

/-- Two runs end alike, with answers that `V` relates. -/
def Outcome.Alike {ε α β : Type} (V : α → β → Prop) : Outcome ε α → Outcome ε β → Prop
  | .ok a, .ok b => V a b
  | .raise e, .raise e' => e = e'
  | .hang, .hang => True
  | _, _ => False

theorem Outcome.Alike.eq {ε α : Type} {o o' : Outcome ε α} (h : o.Alike Eq o') : o = o' := by
  cases o <;> cases o' <;> first | exact congrArg _ h | exact h.elim | rfl

theorem Outcome.Alike.mono {ε α β : Type} {V W : α → β → Prop} {o : Outcome ε α} {o' : Outcome ε β}
    (h : o.Alike W o') (hV : ∀ a b, W a b → V a b) : o.Alike V o' := by
  cases o <;> cases o' <;> first | exact h | exact hV _ _ h

namespace Prog

variable {ε σ τ α β γ δ : Type}

def Paired (R : σ → τ → Prop) (V : α → β → Prop) (m : Prog ε σ α) (m' : Prog ε τ β) : Prop :=
  ∀ n s t, R s t → (m n s).1.Alike V (m' n t).1 ∧ R (m n s).2 (m' n t).2

namespace Paired

variable {R : σ → τ → Prop} {V : α → β → Prop} {U : γ → δ → Prop}
variable {m : Prog ε σ α} {m' : Prog ε τ β}

theorem pure {a : α} {b : β} (h : V a b) :
    Paired R V (pure a : Prog ε σ α) (pure b : Prog ε τ β) :=
  fun _ _ _ hR => ⟨h, hR⟩

theorem raise (e : ε) : Paired R V (raise e : Prog ε σ α) (raise e : Prog ε τ β) :=
  fun _ _ _ hR => ⟨rfl, hR⟩

theorem gets {f : σ → α} {g : τ → β} (h : ∀ s t, R s t → V (f s) (g t)) :
    Paired R V (gets f : Prog ε σ α) (gets g) :=
  fun _ s t hR => ⟨h s t hR, hR⟩

theorem modify {f : σ → σ} {g : τ → τ} (h : ∀ s t, R s t → R (f s) (g t)) :
    Paired R Eq (modify f : Prog ε σ Unit) (modify g) :=
  fun _ s t hR => ⟨rfl, h s t hR⟩

/-- What two calls that may raise come to. -/
def Results (V : α → β → Prop) : Except ε α → Except ε β → Prop
  | .ok a, .ok b => V a b
  | .error e, .error e' => e = e'
  | _, _ => False

theorem call {f : σ → Except ε α × σ} {g : τ → Except ε β × τ}
    (h : ∀ s t, R s t → Results V (f s).1 (g t).1 ∧ R (f s).2 (g t).2) :
    Paired R V (call f) (call g) := by
  intro n s t hR
  obtain ⟨hres, hR'⟩ := h s t hR
  unfold Prog.call
  rcases hf : f s with ⟨_ | _, s'⟩ <;> rcases hg : g t with ⟨_ | _, t'⟩ <;>
    rw [hf, hg] at hres hR'
  · exact ⟨hres, hR'⟩
  · exact hres.elim
  · exact hres.elim
  · exact ⟨hres, hR'⟩

theorem conseq {W : α → β → Prop} (h : Paired R W m m') (hV : ∀ a b, W a b → V a b) :
    Paired R V m m' :=
  fun n s t hR => ⟨(h n s t hR).1.mono hV, (h n s t hR).2⟩

theorem bind {f : α → Prog ε σ γ} {f' : β → Prog ε τ δ} (hm : Paired R V m m')
    (hf : ∀ a b, V a b → Paired R U (f a) (f' b)) : Paired R U (m >>= f) (m' >>= f') := by
  intro n s t hR
  obtain ⟨ho, hR'⟩ := hm n s t hR
  rw [bind_run, bind_run]
  rcases hr : m n s with ⟨a | e | _, s'⟩ <;> rcases hr' : m' n t with ⟨b | e' | _, t'⟩ <;>
    rw [hr, hr'] at ho hR'
  · exact hf a b ho n s' t' hR'
  all_goals first | exact ho.elim | exact ⟨ho, hR'⟩

/-- Both go on from the same answer. -/
theorem seq {α : Type} {m : Prog ε σ α} {m' : Prog ε τ α} {f : α → Prog ε σ γ}
    {f' : α → Prog ε τ δ} (hm : Paired R Eq m m') (hf : ∀ a, Paired R U (f a) (f' a)) :
    Paired R U (m >>= f) (m' >>= f') :=
  bind hm fun a _ hab => hab ▸ hf a

theorem ite {c : Prop} [Decidable c] {k : Prog ε σ α} {k' : Prog ε τ β} (h : Paired R V m m')
    (h' : Paired R V k k') : Paired R V (if c then m else k) (if c then m' else k') := by
  split
  · exact h
  · exact h'

theorem raiseIf (c : Bool) (e : ε) :
    Paired R Eq (raiseIf c e : Prog ε σ Unit) (Prog.raiseIf c e : Prog ε τ Unit) :=
  ite (raise e) (pure rfl)

theorem when {c : Bool} {m : Prog ε σ Unit} {m' : Prog ε τ Unit} (h : Paired R Eq m m') :
    Paired R Eq (when c m) (when c m') :=
  ite h (pure rfl)

theorem attempt {h : ε → Prog ε σ α} {h' : ε → Prog ε τ β} (hm : Paired R V m m')
    (hh : ∀ e, Paired R V (h e) (h' e)) : Paired R V (attempt m h) (attempt m' h') := by
  intro n s t hR
  obtain ⟨ho, hR'⟩ := hm n s t hR
  unfold Prog.attempt
  rcases hr : m n s with ⟨a | e | _, s'⟩ <;> rcases hr' : m' n t with ⟨b | e' | _, t'⟩ <;>
    rw [hr, hr'] at ho hR'
  case raise.raise =>
    cases ho
    exact hh e n s' t' hR'
  all_goals first | exact ho.elim | exact ⟨ho, hR'⟩

/-- A loop whose turns go together. -/
theorem loop {body : Prog ε σ (Option α)} {body' : Prog ε τ (Option β)}
    (hb : Paired R (Option.Rel V) body body') : Paired R V (loop body) (loop body') := by
  have hturns : ∀ k, Paired R V (turns body k) (turns body' k) := by
    intro k
    induction k with
    | zero => exact fun _ _ _ hR => ⟨trivial, hR⟩
    | succ k ih =>
      refine hb.bind fun r r' hrel => ?_
      cases hrel with
      | some h => exact pure h
      | none => exact ih
  exact fun n s t hR => hturns n n s t hR

/-- What a triple says of one run it says of the other, up to the relations. -/
theorem triple {m : Prog ε σ α} {m' : Prog ε τ β} {P : σ → Prop} {Q : α → σ → Prop}
    {E : Option ε → σ → Prop} (hm : Paired R V m m') (h : Triple P m Q E) :
    Triple (fun t => ∃ s, R s t ∧ P s) m' (fun b t => ∃ a s, V a b ∧ R s t ∧ Q a s)
      (fun e t => ∃ s, R s t ∧ E e s) := by
  rintro n t ⟨s, hR, hP⟩
  obtain ⟨ho, hR'⟩ := hm n s t hR
  have hrun := h n s hP
  rcases hr : m n s with ⟨a | e | _, s'⟩ <;> rcases hr' : m' n t with ⟨b | e' | _, t'⟩ <;>
    rw [hr, hr'] at ho hR' <;> rw [hr] at hrun
  case ok.ok => exact ⟨a, s', ho, hR', hrun⟩
  case raise.raise =>
    cases ho
    exact ⟨s', hR', hrun⟩
  case hang.hang => exact ⟨s', hR', hrun⟩
  all_goals exact ho.elim

end Paired

/-! ## Up to a point -/

def Follows (R : σ → σ → Prop) (L : σ → Prop) (m : Prog ε σ α) : Prop :=
  Keeps L m ∧ ∀ n s t, R s t → ¬ L (m n t).2 → (m n s).1 = (m n t).1 ∧ R (m n s).2 (m n t).2

namespace Follows

variable {R : σ → σ → Prop} {L : σ → Prop} {m : Prog ε σ α}

theorem pure (a : α) : Follows R L (pure a : Prog ε σ α) :=
  ⟨Keeps.pure a, fun _ _ _ hR _ => ⟨rfl, hR⟩⟩

theorem raise (e : ε) : Follows R L (raise e : Prog ε σ α) :=
  ⟨Keeps.raise e, fun _ _ _ hR _ => ⟨rfl, hR⟩⟩

theorem gets {f : σ → α} (h : ∀ s t, R s t → f s = f t) : Follows R L (gets f : Prog ε σ α) :=
  ⟨Keeps.gets f, fun _ s t hR _ => ⟨congrArg Outcome.ok (h s t hR), hR⟩⟩

theorem modify {f : σ → σ} (hL : ∀ s, L s → L (f s)) (h : ∀ s t, R s t → R (f s) (f t)) :
    Follows R L (modify f : Prog ε σ Unit) :=
  ⟨Keeps.modify hL, fun _ s t hR _ => ⟨rfl, h s t hR⟩⟩

theorem call {f : σ → Except ε α × σ} (hL : ∀ s, L s → L (f s).2)
    (h : ∀ s t, R s t → ¬ L (f t).2 → (f s).1 = (f t).1 ∧ R (f s).2 (f t).2) :
    Follows R L (call f) := by
  refine ⟨Keeps.call hL, fun n s t hR hlate => ?_⟩
  have hsame : ∀ s, (Prog.call f n s).2 = (f s).2 := fun s => by
    unfold Prog.call
    rcases f s with ⟨_ | _, _⟩ <;> rfl
  rw [hsame] at hlate
  obtain ⟨ho, hR'⟩ := h s t hR hlate
  unfold Prog.call
  rcases hs : f s with ⟨_ | _, s'⟩ <;> rcases ht : f t with ⟨_ | _, t'⟩ <;> rw [hs, ht] at ho hR' <;>
    cases ho <;> exact ⟨rfl, hR'⟩

theorem bind {f : α → Prog ε σ β} (hm : Follows R L m) (hf : ∀ a, Follows R L (f a)) :
    Follows R L (m >>= f) := by
  refine ⟨hm.1.bind fun a => (hf a).1, fun n s t hR hlate => ?_⟩
  have hbefore : ¬ L (m n t).2 := fun hL => hlate (Keeps.then_bind hL fun a => (hf a).1)
  obtain ⟨ho, hR'⟩ := hm.2 n s t hR hbefore
  rw [bind_run] at hlate ⊢
  rw [bind_run]
  rcases hs : m n s with ⟨a | e | _, s'⟩ <;> rcases ht : m n t with ⟨a' | e' | _, t'⟩ <;>
    rw [hs, ht] at ho hR' <;> cases ho <;> rw [ht] at hlate
  · exact (hf a).2 n s' t' hR' hlate
  · exact ⟨rfl, hR'⟩
  · exact ⟨rfl, hR'⟩

theorem ite {c : Prop} [Decidable c] {m' : Prog ε σ α} (h : Follows R L m) (h' : Follows R L m') :
    Follows R L (if c then m else m') := by
  split
  · exact h
  · exact h'

theorem raiseIf (c : Bool) (e : ε) : Follows R L (Prog.raiseIf c e : Prog ε σ Unit) :=
  ite (raise e) (pure ())

theorem when {c : Bool} {m : Prog ε σ Unit} (h : Follows R L m) : Follows R L (Prog.when c m) :=
  ite h (pure ())

theorem attempt {h : ε → Prog ε σ α} (hm : Follows R L m) (hh : ∀ e, Follows R L (h e)) :
    Follows R L (Prog.attempt m h) := by
  refine ⟨hm.1.attempt fun e => (hh e).1, fun n s t hR hlate => ?_⟩
  have hbefore : ¬ L (m n t).2 := fun hL => hlate (Keeps.then_attempt hL fun e => (hh e).1)
  obtain ⟨ho, hR'⟩ := hm.2 n s t hR hbefore
  unfold Prog.attempt at hlate ⊢
  rcases hs : m n s with ⟨a | e | _, s'⟩ <;> rcases ht : m n t with ⟨a' | e' | _, t'⟩ <;>
    rw [hs, ht] at ho hR' <;> cases ho <;> rw [ht] at hlate
  · exact ⟨rfl, hR'⟩
  · exact (hh e).2 n s' t' hR' hlate
  · exact ⟨rfl, hR'⟩

theorem loop {body : Prog ε σ (Option α)} (hb : Follows R L body) : Follows R L (Prog.loop body) := by
  have hturns : ∀ k, Follows R L (turns body k) := by
    intro k
    induction k with
    | zero => exact ⟨fun _ _ hL => hL, fun _ _ _ hR _ => ⟨rfl, hR⟩⟩
    | succ k ih =>
      refine hb.bind fun r => ?_
      cases r with
      | some a => exact pure a
      | none => exact ih
  exact ⟨hb.1.loop, fun n s t hR hlate => (hturns n).2 n s t hR hlate⟩

/-- What a triple says of the first run it says of the second, until that is in `L`. -/
theorem triple {P : σ → Prop} {Q : α → σ → Prop} {E : Option ε → σ → Prop} (hm : Follows R L m)
    (h : Triple P m Q E) :
    Triple (fun t => ∃ s, R s t ∧ P s) m (fun a t => L t ∨ ∃ s, R s t ∧ Q a s)
      (fun e t => L t ∨ ∃ s, R s t ∧ E e s) := by
  rintro n t ⟨s, hR, hP⟩
  have hrun := h n s hP
  by_cases hlate : L (m n t).2
  · rcases ht : m n t with ⟨a | e | _, t'⟩ <;> rw [ht] at hlate <;> exact .inl hlate
  · obtain ⟨ho, hR'⟩ := hm.2 n s t hR hlate
    rcases hs : m n s with ⟨a | e | _, s'⟩ <;> rcases ht : m n t with ⟨a' | e' | _, t'⟩ <;>
      rw [hs, ht] at ho hR' <;> cases ho <;> rw [hs] at hrun <;> exact .inr ⟨s', hR', hrun⟩

end Follows

end Prog

end Lib
