import StakkaWeb.Laws.Load
import StakkaWeb.Laws.Readings

/-!
# What a load is told

Between the acknowledgement of `0x1D` and the catalogue write a load reads status words in the settle
wait and in the park, and nowhere else. `putAwayPolls` lists the requests, following the code;
`PolledAt` says of a piece of code that the words noted in a run of it are the answers to the requests
listed. What the job's record says of a load is so traced back to what the unit answered.
-/

set_option autoImplicit false

namespace StakkaWeb

open Lib Lib.Prog

/-! ## What a run adds -/

section Adds

variable {σ : Type} [Outside σ]

/-- No acknowledgement of `0x1D` and no catalogue write. -/
def Obs.Plain : Obs → Prop
  | .answered cmd _ => cmd ≠ cmdAcceptDisc
  | .word _ => True
  | .catalogued => False

/-- To what was noted, a run has added the words that these requests got, and nothing that begins or
ends a load. -/
def ReadFrom (n : Nat) (polls : List (Poll σ)) (base obs : List Obs) : Prop :=
  ∃ l, obs = l ++ base ∧ (∀ o ∈ l, o.Plain) ∧
    ∀ st, .word st ∈ l ↔ ∃ poll ∈ polls, poll.Gets n st

variable {n : Nat} {polls polls' : List (Poll σ)} {base obs obs' : List Obs}

theorem ReadFrom.refl : ReadFrom (σ := σ) n [] base base := ⟨[], rfl, nofun, by simp⟩

theorem ReadFrom.trans (h : ReadFrom n polls base obs) (h' : ReadFrom n polls' obs obs') :
    ReadFrom n (polls ++ polls') base obs' := by
  obtain ⟨l, rfl, hplain, hwords⟩ := h
  obtain ⟨l', rfl, hplain', hwords'⟩ := h'
  refine ⟨l' ++ l, (List.append_assoc _ _ _).symm, ?_, fun st => ?_⟩
  · exact List.forall_mem_append.mpr ⟨hplain', hplain⟩
  · rw [List.mem_append, hwords, hwords', or_comm]
    simp only [List.mem_append, or_and_right, exists_or]

/-- The words of a load under way are those added to it. -/
theorem ReadFrom.loadView {acked : List Obs} (h : ReadFrom n polls acked obs)
    (hacked : Acked acked) :
    ∃ ws, StakkaWeb.loadView obs = ⟨true, false, ws⟩ ∧
      ∀ st, st ∈ ws ↔ ∃ poll ∈ polls, poll.Gets n st := by
  obtain ⟨l, rfl, hplain, hwords⟩ := h
  have hview : ∀ l : List Obs, (∀ o ∈ l, o.Plain) → ∃ ws,
      StakkaWeb.loadView (l ++ acked) = ⟨true, false, ws⟩ ∧ ∀ st, st ∈ ws ↔ .word st ∈ l := by
    intro l
    induction l with
    | nil => exact fun _ => ⟨[], hacked, by simp⟩
    | cons o l ih =>
      intro hplain
      obtain ⟨ws, hview, hmem⟩ := ih fun o ho => hplain o (List.mem_cons_of_mem _ ho)
      have ho := hplain o List.mem_cons_self
      rw [List.cons_append, loadView_cons, hview]
      cases o with
      | answered cmd p =>
        have hne : cmd ≠ cmdAcceptDisc := ho
        exact ⟨ws, if_neg fun hx => hne hx.1, by simpa using hmem⟩
      | word st => exact ⟨st :: ws, rfl, by simp [hmem]⟩
      | catalogued => exact ho.elim
  obtain ⟨ws, hws, hmem⟩ := hview l hplain
  exact ⟨ws, hws, fun st => (hmem st).trans (hwords st)⟩

/-! ## Code whose words are listed -/

/-- The words that a run of `m` notes are what the requests `a` got. -/
def PolledAt {α : Type} (a : Asks σ (Poll σ)) (m : Py σ α) : Prop :=
  ∀ n w, ReadFrom n (a n w) w.obs (m n w).2.obs

/-- Since `base` no word has been noted. -/
def Wordless (base : List Obs) (w : World σ) : Prop :=
  ∃ l, w.obs = l ++ base ∧ ∀ o ∈ l, o.Plain ∧ ∀ st, o ≠ .word st

namespace PolledAt

variable {α β : Type} {a : Asks σ (Poll σ)} {m : Py σ α}

theorem never (h : ∀ base, Keeps (Wordless base) m) : PolledAt .never m := by
  intro n w
  have hstart : Wordless w.obs w := ⟨[], rfl, fun _ ho => absurd ho List.not_mem_nil⟩
  obtain ⟨l, hl, hplain⟩ := (h w.obs).run n hstart
  refine ⟨l, hl, fun o ho => (hplain o ho).1, fun st => ⟨fun hst => ?_, ?_⟩⟩
  · exact absurd rfl ((hplain _ hst).2 st)
  · rintro ⟨poll, hpoll, _⟩
    exact absurd hpoll List.not_mem_nil

theorem andThen {b : α → Asks σ (Poll σ)} {k : α → Py σ β} (hm : PolledAt a m)
    (hk : ∀ x, PolledAt (b x) (k x)) : PolledAt (a.andThen m b) (m >>= k) := by
  intro n w
  have hfirst := hm n w
  rw [bind_run]
  rcases hr : m n w with ⟨x | e | _, w'⟩ <;> rw [hr] at hfirst
  · rw [Asks.andThen_ok hr]
    exact hfirst.trans (hk x n w')
  · rw [Asks.andThen_raise hr]
    exact hfirst
  · rw [Asks.andThen_hang hr]
    exact hfirst

theorem after {b : α → Asks σ (Poll σ)} {k : α → Py σ β} (hm : ∀ base, Keeps (Wordless base) m)
    (hk : ∀ x, PolledAt (b x) (k x)) : PolledAt (.after m b) (m >>= k) :=
  andThen (never hm) hk

/-- What follows notes no word. -/
theorem thenQuiet {k : α → Py σ β} (hm : PolledAt a m) (hk : ∀ x base, Keeps (Wordless base) (k x)) :
    PolledAt a (m >>= k) := by
  have h := hm.andThen fun x => never (hk x)
  have hasks : a.andThen m (fun _ => .never) = a := by
    funext n w
    unfold Asks.andThen Asks.never
    split <;> exact List.append_nil _
  rwa [hasks] at h

theorem loop {body : Py σ (Option α)} (hbody : PolledAt a body) :
    PolledAt (.loop a body) (loop body) := by
  have hturns : ∀ k, PolledAt (Asks.turns a body k) (turns body k) := by
    intro k
    induction k with
    | zero => exact fun n w => .refl
    | succ k ih =>
      refine hbody.andThen fun r => ?_
      cases r with
      | none => exact ih
      | some x => exact fun n w => .refl
  exact fun n w => hturns n n w

/-- Handling an exception notes no word. -/
theorem attempt {handler : Exc → Py σ α} (hm : PolledAt a m)
    (hh : ∀ e base, Keeps (Wordless base) (handler e)) : PolledAt a (attempt m handler) := by
  intro n w
  have hbody := hm n w
  unfold Prog.attempt
  rcases hr : m n w with ⟨x | e | _, w'⟩ <;> rw [hr] at hbody
  · exact hbody
  · have hhandled := hbody.trans (never (hh e) n w')
    rwa [Asks.never, List.append_nil] at hhandled
  · exact hbody

end PolledAt

/-! ## The requests one by one -/

/-- What the record holds of a load: nothing if its `0x1D` was not acknowledged, else what the unit
answered from that state on. -/
def ToldFrom (n : Nat) (accepted : List (World σ)) (obs : List Obs) : Prop :=
  (accepted = [] ∧ loadWords obs = []) ∨
    ∃ w, accepted = [w] ∧ ∀ st, st ∈ loadWords obs ↔ ∃ poll ∈ putAwayPolls n w, poll.Gets n st

variable {J : σ → Prop} {φ : Nat → Bool} {ran ran' : Nat} {rows : List Disc} {slot : Nat}
  {discId : Option Nat}

omit [Outside σ] in
theorem Unloaded.loadWords {obs : List Obs} (h : Unloaded obs) : StakkaWeb.loadWords obs = [] := by
  rw [StakkaWeb.loadWords, h]

/-- Nothing is recorded before the acknowledgement. -/
theorem ToldFrom.after {α : Type} {m : Py σ α} {b : α → Asks σ} {k : α → Py σ Unit}
    (hm : Triple (Before J φ ran rows) m (fun _ => Before J φ ran' rows) (fun _ w => Unloaded w.obs))
    (hk : ∀ x n w, Before J φ ran' rows w → ToldFrom n (b x n w) (k x n w).2.obs)
    (n : Nat) (w : World σ) (hw : Before J φ ran rows w) :
    ToldFrom n (Asks.after m b n w) ((m >>= k) n w).2.obs := by
  have hafter := hm n w hw
  unfold Asks.after
  rw [bind_run]
  rcases hr : m n w with ⟨x | e | _, w'⟩ <;> rw [hr] at hafter
  · rw [Asks.andThen_ok hr]
    exact hk x n w' hafter
  · rw [Asks.andThen_raise hr]
    exact .inl ⟨rfl, hafter.loadWords⟩
  · rw [Asks.andThen_hang hr]
    exact .inl ⟨rfl, hafter.loadWords⟩

end Adds

end StakkaWeb
