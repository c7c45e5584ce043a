import Mathlib.Order.Basic

/-!
# Programs with a state, exceptions and bounded loops

A `Prog ε σ α` runs on a state `σ`, raises exceptions of type `ε` and answers an `α`. Loops are
bounded from outside: a run is given a number `n`, and every loop of the program may turn at most
`n` times. A loop that has used up its turns ends the whole run as `hang`, which no handler
catches, so a run that hangs says nothing of the program beyond the state it had reached.

`Settles` is the total reading: from some bound on, the run no longer depends on the bound and
does not hang.
-/

set_option autoImplicit false

namespace Lib

/-- What a run comes to. -/
inductive Outcome (ε α : Type) where
  | ok (a : α)
  | raise (e : ε)
  | hang
  deriving DecidableEq, Repr

/-- A program: from the bound on loops and a state, an outcome and the state it leaves. -/
def Prog (ε σ α : Type) : Type := Nat → σ → Outcome ε α × σ

namespace Prog

variable {ε σ α β : Type}

protected def pure (a : α) : Prog ε σ α := fun _ s => (.ok a, s)

protected def bind (m : Prog ε σ α) (f : α → Prog ε σ β) : Prog ε σ β := fun n s =>
  match m n s with
  | (.ok a, s') => f a n s'
  | (.raise e, s') => (.raise e, s')
  | (.hang, s') => (.hang, s')

instance : Monad (Prog ε σ) where
  pure := Prog.pure
  bind := Prog.bind

def raise (e : ε) : Prog ε σ α := fun _ s => (.raise e, s)

/-- Read something off the state. -/
def gets (f : σ → α) : Prog ε σ α := fun _ s => (.ok (f s), s)

/-- Change the state. -/
def modify (f : σ → σ) : Prog ε σ Unit := fun _ s => (.ok (), f s)

/-- One call of an operation that may fail and changes the state either way. -/
def call (f : σ → Except ε α × σ) : Prog ε σ α := fun _ s =>
  match f s with
  | (.ok a, s') => (.ok a, s')
  | (.error e, s') => (.raise e, s')

/-- `if c: raise e`. -/
def raiseIf (c : Bool) (e : ε) : Prog ε σ Unit := if c then raise e else pure ()

/-- `if c: m`. -/
def when (c : Bool) (m : Prog ε σ Unit) : Prog ε σ Unit := if c then m else pure ()

/-- `try: m` with one handler for every exception; a handler that does not care raises it again. -/
def attempt (m : Prog ε σ α) (h : ε → Prog ε σ α) : Prog ε σ α := fun n s =>
  match m n s with
  | (.raise e, s') => h e n s'
  | r => r

/-- `try: m` with `finally: fin`. -/
def ensure (m : Prog ε σ α) (fin : Prog ε σ Unit) : Prog ε σ α := fun n s =>
  match m n s with
  | (.ok a, s') => (fin >>= fun _ => pure a) n s'
  | (.raise e, s') => (fin >>= fun _ => raise e) n s'
  | (.hang, s') => (.hang, s')

/-- At most `k` turns of a loop; a turn answers `some` to leave it. -/
def turns (body : Prog ε σ (Option α)) : Nat → Prog ε σ α
  | 0 => fun _ s => (.hang, s)
  | k + 1 => body >>= fun
    | some a => pure a
    | none => turns body k

/-- A loop, with as many turns as the run allows. -/
def loop (body : Prog ε σ (Option α)) : Prog ε σ α := fun n => turns body n n

/-! ## Running the constructors -/

@[simp] theorem pure_run (a : α) (n : Nat) (s : σ) :
    (pure a : Prog ε σ α) n s = (.ok a, s) := rfl

@[simp] theorem raise_run (e : ε) (n : Nat) (s : σ) :
    (raise e : Prog ε σ α) n s = (.raise e, s) := rfl

@[simp] theorem gets_run (f : σ → α) (n : Nat) (s : σ) :
    (gets f : Prog ε σ α) n s = (.ok (f s), s) := rfl

@[simp] theorem modify_run (f : σ → σ) (n : Nat) (s : σ) :
    (modify f : Prog ε σ Unit) n s = (.ok (), f s) := rfl

theorem bind_run (m : Prog ε σ α) (f : α → Prog ε σ β) (n : Nat) (s : σ) :
    (m >>= f) n s = match m n s with
      | (.ok a, s') => f a n s'
      | (.raise e, s') => (.raise e, s')
      | (.hang, s') => (.hang, s') := rfl

theorem bind_assoc {γ : Type} (m : Prog ε σ α) (f : α → Prog ε σ β) (g : β → Prog ε σ γ) :
    m >>= f >>= g = m >>= fun a => f a >>= g := by
  funext n s
  rw [bind_run, bind_run, bind_run]
  rcases m n s with ⟨_ | _ | _, s'⟩ <;> rfl

/-- A step that answers hands its answer and its state on. -/
theorem bind_of_ok {m : Prog ε σ α} {f : α → Prog ε σ β} {n : Nat} {s s' : σ} {a : α}
    (h : m n s = (.ok a, s')) : (m >>= f) n s = f a n s' := by
  rw [bind_run, h]

/-- A step that raises ends the sequence. -/
theorem bind_of_raise {m : Prog ε σ α} {f : α → Prog ε σ β} {n : Nat} {s s' : σ} {e : ε}
    (h : m n s = (.raise e, s')) : (m >>= f) n s = (.raise e, s') := by
  rw [bind_run, h]

/-- A run whose outcome is known, as a pair. -/
theorem run_eq {r : Outcome ε α × σ} {o : Outcome ε α} (h : r.1 = o) : r = (o, r.2) := by
  rw [← h]

/-- A sequence that answers is two steps that answer. -/
theorem bind_eq_ok {m : Prog ε σ α} {f : α → Prog ε σ β} {n : Nat} {s s'' : σ} {b : β} :
    (m >>= f) n s = (.ok b, s'') ↔ ∃ a s', m n s = (.ok a, s') ∧ f a n s' = (.ok b, s'') := by
  rw [bind_run]
  constructor
  · intro h
    split at h
    next a s' hm => exact ⟨a, s', hm, h⟩
    next => cases h
    next => cases h
  · rintro ⟨a, s', hm, hf⟩
    rw [hm]
    exact hf

/-! ## Runs that end alike -/

/-- The program comes to `o`, whatever the bound and the state. -/
def Comes (m : Prog ε σ α) (o : Outcome ε α) : Prop := ∀ n s, (m n s).1 = o

theorem comes_pure (a : α) : Comes (pure a : Prog ε σ α) (.ok a) := fun _ _ => rfl

theorem comes_raise (e : ε) : Comes (raise e : Prog ε σ α) (.raise e) := fun _ _ => rfl

theorem Comes.bind {m : Prog ε σ α} {f : α → Prog ε σ β} {a : α} {o : Outcome ε β}
    (hm : Comes m (.ok a)) (hf : Comes (f a) o) : Comes (m >>= f) o := by
  intro n s
  rw [bind_of_ok (run_eq (hm n s))]
  exact hf n _

theorem Comes.bind_raise {m : Prog ε σ α} {f : α → Prog ε σ β} {e : ε} (hm : Comes m (.raise e)) :
    Comes (m >>= f) (.raise e) := by
  intro n s
  rw [bind_of_raise (run_eq (hm n s))]

/-! ## Enough turns -/

/-- From some bound on the run is the same and does not hang. -/
def Settles (m : Prog ε σ α) (s : σ) : Prop :=
  ∃ N r, r.1 ≠ Outcome.hang ∧ ∀ n, N ≤ n → m n s = r

theorem settles_pure (a : α) (s : σ) : Settles (pure a : Prog ε σ α) s :=
  ⟨0, (.ok a, s), nofun, fun _ _ => rfl⟩

theorem settles_raise (e : ε) (s : σ) : Settles (raise e : Prog ε σ α) s :=
  ⟨0, (.raise e, s), nofun, fun _ _ => rfl⟩

theorem settles_gets (f : σ → α) (s : σ) : Settles (gets f : Prog ε σ α) s :=
  ⟨0, (.ok (f s), s), nofun, fun _ _ => rfl⟩

theorem settles_modify (f : σ → σ) (s : σ) : Settles (modify f : Prog ε σ Unit) s :=
  ⟨0, (.ok (), f s), nofun, fun _ _ => rfl⟩

theorem settles_call (f : σ → Except ε α × σ) (s : σ) : Settles (call f) s := by
  refine ⟨0, call f 0 s, ?_, fun _ _ => rfl⟩
  unfold call
  split <;> exact nofun

theorem settles_raiseIf (c : Bool) (e : ε) (s : σ) : Settles (raiseIf c e : Prog ε σ Unit) s := by
  unfold raiseIf
  split
  · exact settles_raise e s
  · exact settles_pure () s

theorem Settles.ite {c : Prop} [Decidable c] {m m' : Prog ε σ α} {s : σ} (h : Settles m s)
    (h' : Settles m' s) : Settles (if c then m else m') s := by
  split
  · exact h
  · exact h'

theorem Settles.when {c : Bool} {m : Prog ε σ Unit} {s : σ} (h : Settles m s) :
    Settles (when c m) s :=
  h.ite (settles_pure () s)

/-- A sequence settles when its first step does and the rest does after every answer the first
step gives, at the state it leaves. -/
theorem Settles.bind {m : Prog ε σ α} {f : α → Prog ε σ β} {s : σ} (hm : Settles m s)
    (hf : ∀ n a s', m n s = (.ok a, s') → Settles (f a) s') : Settles (m >>= f) s := by
  obtain ⟨N, ⟨o, s'⟩, ho, hN⟩ := hm
  cases o with
  | ok a =>
    obtain ⟨N', r, hr, hN'⟩ := hf N a s' (hN N (Nat.le_refl N))
    refine ⟨max N N', r, hr, fun n hn => ?_⟩
    rw [bind_of_ok (hN n (Nat.le_trans (Nat.le_max_left _ _) hn))]
    exact hN' n (Nat.le_trans (Nat.le_max_right _ _) hn)
  | raise e =>
    exact ⟨N, (.raise e, s'), nofun, fun n hn => bind_of_raise (hN n hn)⟩
  | hang => exact absurd rfl ho

theorem Settles.attempt {m : Prog ε σ α} {h : ε → Prog ε σ α} {s : σ} (hm : Settles m s)
    (hh : ∀ n e s', m n s = (.raise e, s') → Settles (h e) s') : Settles (attempt m h) s := by
  obtain ⟨N, ⟨o, s'⟩, ho, hN⟩ := hm
  cases o with
  | ok a =>
    refine ⟨N, (.ok a, s'), nofun, fun n hn => ?_⟩
    simp only [Prog.attempt, hN n hn]
  | raise e =>
    obtain ⟨N', r, hr, hN'⟩ := hh N e s' (hN N (Nat.le_refl N))
    refine ⟨max N N', r, hr, fun n hn => ?_⟩
    simp only [Prog.attempt, hN n (Nat.le_trans (Nat.le_max_left _ _) hn)]
    exact hN' n (Nat.le_trans (Nat.le_max_right _ _) hn)
  | hang => exact absurd rfl ho

theorem Settles.ensure {m : Prog ε σ α} {fin : Prog ε σ Unit} {s : σ} (hm : Settles m s)
    (hf : ∀ s', Settles fin s') : Settles (ensure m fin) s := by
  obtain ⟨N, ⟨o, s'⟩, ho, hN⟩ := hm
  cases o with
  | ok a =>
    obtain ⟨N', r, hr, hN'⟩ := (hf s').bind fun _ _ t _ => settles_pure (ε := ε) a t
    refine ⟨max N N', r, hr, fun n hn => ?_⟩
    simp only [Prog.ensure, hN n (Nat.le_trans (Nat.le_max_left _ _) hn)]
    exact hN' n (Nat.le_trans (Nat.le_max_right _ _) hn)
  | raise e =>
    obtain ⟨N', r, hr, hN'⟩ := (hf s').bind fun _ _ t _ => settles_raise (α := α) e t
    refine ⟨max N N', r, hr, fun n hn => ?_⟩
    simp only [Prog.ensure, hN n (Nat.le_trans (Nat.le_max_left _ _) hn)]
    exact hN' n (Nat.le_trans (Nat.le_max_right _ _) hn)
  | hang => exact absurd rfl ho

/-- **A loop with a measure settles**: every turn settles, and a turn that goes on makes the
measure smaller in a well-founded order. -/
theorem settles_loop {body : Prog ε σ (Option α)} {r : β → β → Prop} (wf : WellFounded r)
    (μ : σ → β) (hb : ∀ s, Settles body s)
    (hdec : ∀ s n s', body n s = (.ok none, s') → r (μ s') (μ s)) (s : σ) :
    Settles (loop body) s := by
  -- the turns left and the bound handed to the body grow together, so both are kept apart
  have key : ∀ m s, μ s = m → ∃ N q, q.1 ≠ Outcome.hang ∧
      ∀ j n, N ≤ j → N ≤ n → turns body j n s = q := by
    intro m
    induction m using wf.induction with
    | _ m ih =>
      intro s hm
      obtain ⟨N, ⟨o, s'⟩, ho, hN⟩ := hb s
      have unroll : ∀ j n, N ≤ n → turns body (j + 1) n s = match o with
          | .ok (some a) => (.ok a, s')
          | .ok none => turns body j n s'
          | .raise e => (.raise e, s')
          | .hang => (.hang, s') := by
        intro j n hn
        rw [turns, bind_run, hN n hn]
        cases o with
        | ok a => cases a <;> rfl
        | raise e => rfl
        | hang => rfl
      cases o with
      | ok a =>
        cases a with
        | some a =>
          refine ⟨N + 1, (.ok a, s'), nofun, fun j n hj hn => ?_⟩
          obtain ⟨j, rfl⟩ := Nat.exists_eq_add_of_le' (Nat.le_trans (Nat.le_add_left 1 N) hj)
          exact unroll j n (Nat.le_of_succ_le hn)
        | none =>
          have hlt : r (μ s') m := hm ▸ hdec s N s' (hN N (Nat.le_refl N))
          obtain ⟨N', q, hq, hN'⟩ := ih (μ s') hlt s' rfl
          refine ⟨max N N' + 1, q, hq, fun j n hj hn => ?_⟩
          obtain ⟨j, rfl⟩ := Nat.exists_eq_add_of_le' (Nat.le_trans (Nat.le_add_left 1 _) hj)
          rw [unroll j n (by omega)]
          exact hN' j n (by omega) (by omega)
      | raise e =>
        refine ⟨N + 1, (.raise e, s'), nofun, fun j n hj hn => ?_⟩
        obtain ⟨j, rfl⟩ := Nat.exists_eq_add_of_le' (Nat.le_trans (Nat.le_add_left 1 N) hj)
        exact unroll j n (Nat.le_of_succ_le hn)
      | hang => exact absurd rfl ho
  obtain ⟨N, q, hq, hN⟩ := key (μ s) s rfl
  exact ⟨N, q, hq, fun n hn => hN n n hn hn⟩

/-- The bound on loops does not matter to the run. -/
def Loopless (m : Prog ε σ α) : Prop := ∀ n s, m n s = m 0 s

theorem Loopless.bind {m : Prog ε σ α} {f : α → Prog ε σ β} (hm : Loopless m)
    (hf : ∀ a, Loopless (f a)) : Loopless (m >>= f) := by
  intro n s
  rw [bind_run, bind_run, hm n s]
  rcases m 0 s with ⟨a | e | _, s'⟩
  · exact hf a n s'
  · rfl
  · rfl

/-- A loop whose turns have no loops of their own, with an invariant and a variant: as soon as there
are more turns than the variant counts, the run is the same and does not hang. -/
theorem turns_of_variant {body : Prog ε σ (Option α)} (I : σ → Prop) (μ : σ → Nat)
    (hsame : Loopless body) (hhang : ∀ s, I s → (body 0 s).1 ≠ .hang)
    (hdec : ∀ s s', I s → body 0 s = (.ok none, s') → I s' ∧ μ s' < μ s) (k j n n' : Nat) (s : σ)
    (hs : I s) (hk : μ s < k) (hj : μ s < j) :
    turns body k n s = turns body j n' s ∧ (turns body k n s).1 ≠ .hang := by
  induction k generalizing j s with
  | zero => exact absurd hk (Nat.not_lt_zero _)
  | succ k ih =>
    obtain ⟨j, rfl⟩ := Nat.exists_eq_add_of_lt (Nat.zero_lt_of_lt hj)
    rw [Nat.zero_add, turns, turns, bind_run, bind_run, hsame n, hsame n']
    have hgoes := hhang s hs
    rcases hr : body 0 s with ⟨(_ | a) | e | _, s'⟩ <;> rw [hr] at hgoes
    · obtain ⟨hs', hlt⟩ := hdec s s' hs hr
      exact ih j s' hs' (by omega) (by omega)
    · exact ⟨rfl, nofun⟩
    · exact ⟨rfl, nofun⟩
    · exact absurd rfl hgoes

/-- Such a loop settles. -/
theorem settles_of_variant {body : Prog ε σ (Option α)} (I : σ → Prop) (μ : σ → Nat)
    (hsame : Loopless body) (hhang : ∀ s, I s → (body 0 s).1 ≠ .hang)
    (hdec : ∀ s s', I s → body 0 s = (.ok none, s') → I s' ∧ μ s' < μ s) (s : σ) (hs : I s) :
    Settles (loop body) s := by
  have enough := turns_of_variant I μ hsame hhang hdec
  have hlt : μ s < μ s + 1 := Nat.lt_succ_self _
  refine ⟨μ s + 1, loop body (μ s + 1) s, (enough _ _ _ 0 s hs hlt hlt).2, fun n hn => ?_⟩
  exact (enough n _ n _ s hs (Nat.lt_of_succ_le hn) hlt).1

end Prog

end Lib
