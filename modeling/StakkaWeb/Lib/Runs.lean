import Mathlib.Algebra.Ring.Nat
import Mathlib.Data.List.Basic
import Mathlib.Logic.Function.Iterate

/-!
# Runs of a machine

A machine that takes one input at a time. Its `trail` holds every input with the state before it,
so that a condition on the steps of a run and what the run must do are both statements about the
entries of a trail.
-/

set_option autoImplicit false

namespace Lib.Runs

variable {σ τ β : Type} (step : β → σ → σ)

/-- The state after the inputs. -/
def run (bs : List β) (s : σ) : σ := bs.foldl (fun s b => step b s) s

/-- The inputs, each with the state before it. -/
def trail : List β → σ → List (σ × β)
  | [], _ => []
  | b :: bs, s => (s, b) :: trail bs (step b s)

theorem run_append (bs cs : List β) (s : σ) :
    run step (bs ++ cs) s = run step cs (run step bs s) :=
  List.foldl_append

/-- A trail holds the inputs it was made of. -/
theorem input_of_mem_trail {bs : List β} {s : σ} {x : σ × β} (hx : x ∈ trail step bs s) : x.2 ∈ bs := by
  induction bs generalizing s with
  | nil => cases hx
  | cons b bs ih =>
    rw [trail] at hx
    rcases List.mem_cons.mp hx with rfl | hx
    · exact List.mem_cons_self
    · exact List.mem_cons_of_mem _ (ih hx)

theorem trail_append (bs cs : List β) (s : σ) :
    trail step (bs ++ cs) s = trail step bs s ++ trail step cs (run step bs s) := by
  induction bs generalizing s with
  | nil => rfl
  | cons b bs ih => exact congrArg ((s, b) :: ·) (ih (step b s))

/-- The same input again and again. -/
theorem run_replicate (b : β) (k : Nat) (s : σ) :
    run step (List.replicate k b) s = (step b)^[k] s := by
  induction k generalizing s with
  | zero => rfl
  | succ k ih => exact ih _

variable {step}

/-- **What a step keeps, a run keeps**, with what each step may rely on. -/
theorem run_inv {I : σ → Prop} {G : σ → β → Prop} (hstep : ∀ s b, I s → G s b → I (step b s))
    {bs : List β} {s : σ} (h : I s) (hG : ∀ x ∈ trail step bs s, G x.1 x.2) :
    I (run step bs s) := by
  induction bs generalizing s with
  | nil => exact h
  | cons b bs ih =>
    exact ih (hstep s b h (hG _ List.mem_cons_self)) fun x hx => hG x (List.mem_cons_of_mem _ hx)

/-- The states along the trail keep it too. -/
theorem trail_inv {I : σ → Prop} {G : σ → β → Prop} (hstep : ∀ s b, I s → G s b → I (step b s))
    {bs : List β} {s : σ} (h : I s) (hG : ∀ x ∈ trail step bs s, G x.1 x.2) :
    ∀ x ∈ trail step bs s, I x.1 := by
  induction bs generalizing s with
  | nil => exact nofun
  | cons b bs ih =>
    intro x hx
    rcases List.mem_cons.mp hx with rfl | hx
    · exact h
    · exact ih (hstep s b h (hG _ List.mem_cons_self))
        (fun y hy => hG y (List.mem_cons_of_mem _ hy)) x hx

/-- **The books balance**: what every step adds to a quantity, and what it takes away, add up over
the run. -/
theorem run_ledger {v : σ → Nat} {gain loss : σ × β → Nat} {bs : List β} {s : σ}
    (h : ∀ x ∈ trail step bs s, v (step x.2 x.1) + loss x = v x.1 + gain x) :
    v (run step bs s) + ((trail step bs s).map loss).sum = v s + ((trail step bs s).map gain).sum := by
  induction bs generalizing s with
  | nil => rfl
  | cons b bs ih =>
    have hfirst := h (s, b) List.mem_cons_self
    have hrest := ih (s := step b s) fun x hx => h x (List.mem_cons_of_mem _ hx)
    dsimp only at hfirst
    rw [trail, List.map_cons, List.map_cons, List.sum_cons, List.sum_cons]
    show v (run step bs (step b s)) + _ = _
    omega

/-- **A log that tells of every step tells of the whole run**: if one who hears what a step adds to
the log `l` can follow the step in the view `v`, he can follow the run. -/
theorem run_told {α ν : Type} {I : σ → Prop} {G : σ → β → Prop} {l : σ → List α} {v : σ → ν}
    {f : ν → α → ν}
    (hstep : ∀ s b, I s → G s b → I (step b s) ∧ ∃ told, l (step b s) = l s ++ told ∧
      v (step b s) = told.foldl f (v s))
    {bs : List β} {s : σ} (h : I s) (hG : ∀ x ∈ trail step bs s, G x.1 x.2) :
    ∃ told, l (run step bs s) = l s ++ told ∧ v (run step bs s) = told.foldl f (v s) := by
  induction bs generalizing s with
  | nil => exact ⟨[], (List.append_nil _).symm, rfl⟩
  | cons b bs ih =>
    obtain ⟨hkept, first, hlog, hview⟩ := hstep s b h (hG _ List.mem_cons_self)
    obtain ⟨rest, hlogs, hviews⟩ := ih hkept fun x hx => hG x (List.mem_cons_of_mem _ hx)
    refine ⟨first ++ rest, ?_, ?_⟩
    · show l (run step bs (step b s)) = _
      rw [hlogs, hlog, List.append_assoc]
    · show v (run step bs (step b s)) = _
      rw [hviews, hview, List.foldl_append]

/-- A machine that is watched goes through the states that it goes through unwatched. -/
theorem trail_map {step' : β → τ → τ} (f : σ → τ) (h : ∀ b s, f (step b s) = step' b (f s))
    (bs : List β) (s : σ) :
    (trail step bs s).map (fun x => (f x.1, x.2)) = trail step' bs (f s) := by
  induction bs generalizing s with
  | nil => rfl
  | cons b bs ih =>
    unfold trail
    rw [List.map_cons, ih, h]

end Lib.Runs
