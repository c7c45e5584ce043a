import StakkaWeb.Laws.Controller

/-!
# No call waits for a job

`_device` is taken "after `_lock`, never before it", and nothing waits for it while it holds `_lock`.
So a thread that uses the controller waits for a few steps of another one at most, never for the one
that has the unit, and no two threads can keep each other waiting for ever.
-/

set_option autoImplicit false

namespace StakkaWeb

open Lib

namespace Point

/-- In a call of `submit`, `current`, `_claimed` or `tend`, and without the unit. -/
def calls : Point → Bool
  | submit _ | submitRead _ | submitDone _ _ | submitBusy _ | submitWrite _ | submitExit _
  | submitStart _ | current _ | currentRead _ | currentExit _ _ | currentDone _ _ | claim _ => true
  | _ => false

end Point

/-- What is left once `current` was `None`: to ask for the unit, and perhaps for `current` again. -/
def Errand.left : Errand → Nat
  | .info | .gaveUp => 0
  | _ => 5

/-- No more steps than these are left of a call. -/
def Point.left : Point → Nat
  | .submit _ => 6
  | .submitRead _ => 5
  | .submitDone _ _ => 4
  | .submitWrite _ => 3
  | .submitExit _ => 2
  | .submitBusy _ | .submitStart _ => 1
  | .current e => e.left + 4
  | .currentRead e => e.left + 3
  | .currentExit e _ => e.left + 2
  | .currentDone e _ => e.left + 1
  | .claim _ => 5
  | _ => 0

/-- No more steps than these are left until `_lock` is released. -/
def Point.hold : Point → Nat
  | .submitRead _ => 4
  | .submitDone _ _ => 3
  | .submitWrite _ | .currentRead _ => 2
  | .submitExit _ | .submitBusy _ | .currentExit _ _ => 1
  | _ => 0

/-- The thread can take a step. -/
def Controller.CanMove (c : Controller) (t : Nat) : Prop :=
  ∃ s p, Control.Moves t c.shared (c.at_ t) s p

/-- A run of the controller, with the threads that take its steps. -/
abbrev Controller.Path (c : Controller) (us : List Nat) (c' : Controller) : Prop :=
  Threads.Path (fun t s p s' p' => Control.Moves t s p s' p') c us c'

/-- What a thread may have to wait for. -/
structure Controller.Unhindered (c : Controller) (t : Nat) : Prop where
  /-- In a call: for `_lock`, which a thread has that can move and does not have the unit. -/
  call : (c.at_ t).calls = true → c.CanMove t ∨
    ∃ u, c.shared.lock = some u ∧ c.shared.device ≠ some u ∧ c.CanMove u
  /-- A job: for the unit. -/
  job : (c.at_ t).calls = false → c.CanMove t ∨
    (∃ j, c.at_ t = .run j) ∧ ∃ u, c.shared.device = some u ∧ c.CanMove u
  /-- With the unit: for nothing. -/
  owner : c.shared.device = some t → c.CanMove t
  /-- Four steps of its own are enough for a thread to release `_lock`, however the others run. -/
  releases : c.shared.lock = some t → ∀ us c', c.Path us c' → 4 ≤ us.count t →
    ∃ vs ws d, us = vs ++ ws ∧ c.Path vs d ∧ d.shared.lock ≠ some t
  /-- And nine for its call to be over, or to have the unit. -/
  returns : (c.at_ t).calls = true → ∀ us c', c.Path us c' → 9 ≤ us.count t →
    ∃ vs ws d, us = vs ++ ws ∧ c.Path vs d ∧ (d.at_ t = .idle ∨ ∃ e, d.at_ t = .use e)

theorem Errand.left_le (e : Errand) : e.left ≤ 5 := by
  cases e <;> decide

theorem Errand.onFree_left (e : Errand) : e.onFree.left ≤ e.left := by
  cases e <;> decide

theorem Errand.onFree_goes (e : Errand) : e.onFree.calls = true ∨ e.onFree = .idle := by
  cases e with
  | info | gaveUp => exact .inr rfl
  | probe | reconnect | tend => exact .inl rfl

namespace Point

variable {p : Point}

theorem left_le (p : Point) : p.left ≤ 9 := by
  cases p with
  | current e | currentRead e | currentExit e _ | currentDone e _ =>
    have he := e.left_le
    simp only [left]
    omega
  | _ => simp [left]

theorem left_pos (h : p.calls = true) : 0 < p.left := by
  cases p with
  | current e | currentRead e | currentExit e _ | currentDone e _ => exact Nat.succ_pos _
  | submit _ | submitRead _ | submitDone _ _ | submitBusy _ | submitWrite _ | submitExit _
  | submitStart _ | claim _ => exact Nat.succ_pos _
  | _ => cases h

theorem hold_le (p : Point) : p.hold ≤ 4 := by
  cases p <;> simp [hold]

theorem hold_pos (h : p.locks = true) : 0 < p.hold := by
  cases p <;> first | exact Nat.succ_pos _ | cases h

/-- Who has `_lock` does not have the unit. -/
theorem not_owns_of_locks (h : p.locks = true) : p.owns = false := by
  cases p <;> first | rfl | cases h

theorem not_calls_of_owns (h : p.owns = true) : p.calls = false := by
  cases p <;> first | rfl | cases h

end Point

namespace Control

variable {t : Nat} {s s' : Control} {p p' : Point}

/-- A step of a call leaves fewer of them. -/
theorem moves_left (hm : Moves t s p s' p') (hp : p.calls = true) :
    p'.left < p.left ∧ (p'.calls = true ∨ p' = .idle ∨ ∃ e, p' = .use e) := by
  cases hm with
  | submitLock | submitRead | submitNone | submitOver | submitLive | submitWrite | submitExit =>
    exact ⟨by simp [Point.left], .inl rfl⟩
  | submitBusy | submitStart => exact ⟨by simp [Point.left], .inr (.inl rfl)⟩
  | currentLock | currentRead | currentExit => exact ⟨Nat.lt_succ_self _, .inl rfl⟩
  | @currentNone e =>
    refine ⟨Nat.lt_of_le_of_lt e.onFree_left (Nat.lt_add_of_pos_right (by decide)), ?_⟩
    exact e.onFree_goes.imp_right .inl
  | @currentOver e =>
    refine ⟨Nat.lt_of_le_of_lt e.onFree_left (Nat.lt_add_of_pos_right (by decide)), ?_⟩
    exact e.onFree_goes.imp_right .inl
  | currentLive => exact ⟨Nat.succ_pos _, .inr (.inl rfl)⟩
  | claimDevice => exact ⟨by simp [Point.left], .inr (.inr ⟨_, rfl⟩)⟩
  | claimWaits => exact ⟨by simp [Point.left, Errand.left], .inl rfl⟩
  | tendGivesUp => exact ⟨by simp [Point.left], .inr (.inl rfl)⟩
  | _ => cases hp

theorem moves_hold (hm : Moves t s p s' p') (hp : p.locks = true) :
    p'.hold < p.hold ∧ (p'.locks = true ∨ p'.locks = false) := by
  refine ⟨?_, (Bool.eq_false_or_eq_true p'.locks)⟩
  cases hm with
  | submitRead | submitNone | submitOver | submitLive | submitBusy | submitWrite | submitExit
  | currentRead | currentExit => simp [Point.hold]
  | @currentNone e => cases e <;> simp [Point.hold, Errand.onFree]
  | _ => cases hp

/-- A step that a thread cannot take is one that takes `_lock`, or the unit for a job. -/
theorem moves_or (t : Nat) (s : Control) (p : Point) : (∃ s' p', Moves t s p s' p') ∨
    (p.calls = true ∧ p.locks = false ∧ s.lock ≠ none) ∨ ((∃ j, p = .run j) ∧ s.device ≠ none) := by
  cases p with
  | idle => exact .inl ⟨_, _, .callCurrent .info nofun⟩
  | submit j =>
    by_cases h : s.lock = none
    · exact .inl ⟨_, _, .submitLock h⟩
    · exact .inr (.inl ⟨rfl, rfl, h⟩)
  | submitRead => exact .inl ⟨_, _, .submitRead⟩
  | submitDone j held =>
    cases held with
    | none => exact .inl ⟨_, _, .submitNone⟩
    | some held =>
      cases h : s.live held with
      | false => exact .inl ⟨_, _, .submitOver h⟩
      | true => exact .inl ⟨_, _, .submitLive h⟩
  | submitBusy => exact .inl ⟨_, _, .submitBusy⟩
  | submitWrite => exact .inl ⟨_, _, .submitWrite⟩
  | submitExit => exact .inl ⟨_, _, .submitExit⟩
  | submitStart => exact .inl ⟨_, _, .submitStart⟩
  | run j =>
    by_cases h : s.device = none
    · exact .inl ⟨_, _, .runDevice h⟩
    · exact .inr (.inr ⟨⟨j, rfl⟩, h⟩)
  | opening => exact .inl ⟨_, _, .opened⟩
  | tracing => exact .inl ⟨_, _, .traced⟩
  | connecting => exact .inl ⟨_, _, .connected⟩
  | runner => exact .inl ⟨_, _, .returns⟩
  | handler => exact .inl ⟨_, _, .fails⟩
  | finally_ => exact .inl ⟨_, _, .untraced⟩
  | closing j => exact .inl ⟨_, _, .closeRaises⟩
  | unreported => exact .inl ⟨_, _, .unreported⟩
  | runExit => exact .inl ⟨_, _, .runExit⟩
  | current e =>
    by_cases h : s.lock = none
    · exact .inl ⟨_, _, .currentLock h⟩
    · exact .inr (.inl ⟨rfl, rfl, h⟩)
  | currentRead => exact .inl ⟨_, _, .currentRead⟩
  | currentExit e held =>
    cases held with
    | none => exact .inl ⟨_, _, .currentNone⟩
    | some held => exact .inl ⟨_, _, .currentExit⟩
  | currentDone e held =>
    cases h : s.live held with
    | false => exact .inl ⟨_, _, .currentOver h⟩
    | true => exact .inl ⟨_, _, .currentLive h⟩
  | claim e =>
    by_cases h : s.device = none
    · exact .inl ⟨_, _, .claimDevice h⟩
    · by_cases he : e = .tend
      · cases he
        exact .inl ⟨_, _, .tendGivesUp h⟩
      · exact .inl ⟨_, _, .claimWaits h he⟩
  | use => exact .inl ⟨_, _, .used⟩

end Control

namespace Controller

variable {c : Controller}

theorem canMove_of_locks {u : Nat} (h : (c.at_ u).locks = true) : c.CanMove u := by
  rcases Control.moves_or u c.shared (c.at_ u) with hmove | ⟨-, hlocks, -⟩ | ⟨⟨j, hrun⟩, -⟩
  · exact hmove
  · rw [hlocks] at h
    cases h
  · rw [hrun] at h
    cases h

theorem canMove_of_owns {u : Nat} (h : (c.at_ u).owns = true) : c.CanMove u := by
  rcases Control.moves_or u c.shared (c.at_ u) with hmove | ⟨hcalls, -⟩ | ⟨⟨j, hrun⟩, -⟩
  · exact hmove
  · rw [Point.not_calls_of_owns h] at hcalls
    cases hcalls
  · rw [hrun] at h
    cases h

/-- **No call waits for a job**: a thread that calls the controller may have to wait for the few
steps in which another one has `_lock`, and is over, or has the unit, after nine of its own. A job
waits for the unit, and who has the unit for nothing. -/
theorem unhindered (h : Run .new c) (t : Nat) : c.Unhindered t := by
  have hat := (outlined h).thread
  refine ⟨?_, ?_, ?_, ?_, ?_⟩
  · intro hcalls
    rcases Control.moves_or t c.shared (c.at_ t) with hmove | ⟨-, -, hlock⟩ | ⟨⟨j, hrun⟩, -⟩
    · exact .inl hmove
    · obtain ⟨u, hu⟩ := Option.ne_none_iff_exists'.mp hlock
      have hlocks := (hat u).locks.mpr hu
      refine .inr ⟨u, hu, ?_, canMove_of_locks hlocks⟩
      intro hdevice
      have howns := (hat u).owns.mpr hdevice
      rw [Point.not_owns_of_locks hlocks] at howns
      cases howns
    · rw [hrun] at hcalls
      cases hcalls
  · intro hcalls
    rcases Control.moves_or t c.shared (c.at_ t) with hmove | ⟨hcalls', -⟩ | ⟨hrun, hdevice⟩
    · exact .inl hmove
    · rw [hcalls] at hcalls'
      cases hcalls'
    · obtain ⟨u, hu⟩ := Option.ne_none_iff_exists'.mp hdevice
      exact .inr ⟨hrun, u, hu, canMove_of_owns ((hat u).owns.mpr hu)⟩
  · intro hdevice
    exact canMove_of_owns ((hat t).owns.mpr hdevice)
  · intro hlock us c' hpath hcount
    obtain ⟨vs, ws, d, hus, hd, hfree⟩ := hpath.arrives (P := fun p => p.locks = true)
      (Q := fun p => p.locks = false) (f := Point.hold) (fun hm hp => Control.moves_hold hm hp)
      Point.hold_pos ((hat t).locks.mpr hlock) (Nat.le_trans (Point.hold_le _) hcount)
    refine ⟨vs, ws, d, hus, hd, ?_⟩
    intro hlocked
    have hlocks := ((outlined (h.trans hd.steps)).thread t).locks.mpr hlocked
    rw [hfree] at hlocks
    cases hlocks
  · intro hcalls us c' hpath hcount
    exact hpath.arrives (P := fun p => p.calls = true) (f := Point.left)
      (fun hm hp => Control.moves_left hm hp) Point.left_pos hcalls
      (Nat.le_trans (Point.left_le _) hcount)

/-- A job has the unit, a second one is being submitted and has `_lock`, and a page asks for
`current`. -/
theorem unhindered_behind_job : ∃ c, Run .new c ∧ c.shared.device = some 1 ∧ c.shared.lock = some 0 ∧
    c.at_ 2 = .current .info ∧ c.Unhindered 2 := by
  have hrun := (Relation.ReflTransGen.refl : Run Controller.new Controller.new)
    |>.tail (.from_ (t := 0) rfl (.callSubmit (show 0 ∉ _ from nofun)))
    |>.tail (.from_ (t := 0) rfl (.submitLock rfl))
    |>.tail (.from_ (t := 0) rfl .submitRead)
    |>.tail (.from_ (t := 0) rfl .submitNone)
    |>.tail (.from_ (t := 0) rfl .submitWrite)
    |>.tail (.from_ (t := 0) rfl .submitExit)
    |>.tail (.from_ (t := 0) rfl .submitStart)
    |>.tail (.from_ (t := 1) rfl (.begin_ (show 0 ∈ _ from .head _)))
    |>.tail (.from_ (t := 1) rfl (.runDevice rfl))
    |>.tail (.from_ (t := 0) rfl (.callSubmit (show 1 ∉ _ by decide)))
    |>.tail (.from_ (t := 0) rfl (.submitLock rfl))
    |>.tail (.from_ (t := 2) rfl (.callCurrent .info nofun))
  exact ⟨_, hrun, rfl, rfl, rfl, unhindered hrun 2⟩

end Controller

end StakkaWeb
