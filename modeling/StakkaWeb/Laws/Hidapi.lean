import Mathlib.Data.List.Basic
import StakkaWeb.Hidapi

/-!
# One thread for all that enumerates, opens and closes

The proof outline of the hidapi thread. `Shared` is what holds of the shared state, `At` what a
thread may rely on at each point of its code, and no two threads are about the same call. The queue
is what was put and not yet begun, the worker has begun at most one function that is not over, and
an event is set only for a call whose outcome is that of its own function.
-/

set_option autoImplicit false

namespace StakkaWeb

open Lib

namespace Hidapi

variable {ε α : Type}

@[simp] theorem Outcome.answer_store (what : Except ε α) :
    (Outcome.store what {}).answer = some what := by
  cases what <;> rfl

/-- The calls whose function is over. -/
def finished (s : Hidapi ε α) : List Nat := s.ran.map Prod.fst

/-- The calls that came back. -/
def answered (s : Hidapi ε α) : List Nat := s.answers.map Prod.fst

/-- The function of a call is over, and its outcome says how. -/
def Told (s : Hidapi ε α) (n : Nat) : Prop :=
  ∃ what, (n, what) ∈ s.ran ∧ s.outcome n = Outcome.store what {}

/-- What holds of the shared state. -/
structure Shared (s : Hidapi ε α) : Prop where
  spawned : s.spawned ≤ 1
  missing : s.thread = false → s.spawned = 0
  there : s.thread = true → s.lock = none → s.spawned = 1
  waking : s.waking ≤ s.spawned
  asleep : 0 < s.waking → s.worker = none
  awake : s.spawned = 1 → s.waking = 0 → s.worker ≠ none
  hired : s.worker ≠ none → s.spawned = 1
  unbegun : s.worker = none → s.begun = []
  queue : s.puts = s.begun ++ s.queue
  nodup : s.puts.Nodup
  made : ∀ n ∈ s.puts, n ∈ s.made
  served : s.puts ≠ [] → s.spawned = 1
  /-- At most one function has been begun and is not over. -/
  one : ∃ rest, s.begun = s.finished ++ rest ∧ rest.length ≤ 1
  blank : ∀ n, n ∉ s.finished → s.outcome n = {}
  done : ∀ n, s.done n = true → s.Told n
  answers : ∀ x ∈ s.answers, ∃ what, x.2 = some what ∧ (x.1, what) ∈ s.ran
  once : s.answered.Nodup

/-- The call has only been made. -/
def Fresh (s : Hidapi ε α) (n : Nat) : Prop := n ∉ s.puts ∧ n ∉ s.answered

/-- What a thread may rely on at each point. -/
def Stage (s : Hidapi ε α) : Point ε α → Prop
  | .idle => True
  | .call n => s.Fresh n
  | .check n => s.Fresh n ∧ (s.thread = true → s.spawned = 1)
  | .make n => s.Fresh n ∧ s.spawned = 0
  | .start n => s.Fresh n ∧ s.spawned = 0 ∧ s.thread = true
  | .exit n | .put n => s.Fresh n ∧ s.spawned = 1
  | .wait n => n ∈ s.puts ∧ n ∉ s.answered
  | .answer n => s.done n = true ∧ n ∉ s.answered
  | .get => s.begun = s.finished ∧ ∀ n ∈ s.begun, s.done n = true
  | .run n => s.begun = s.finished ++ [n] ∧ ∀ m ∈ s.finished, s.done m = true
  | .store n what => s.begun = s.finished ∧ ((n, what) ∈ s.ran ∧ s.outcome n = {}) ∧
      ∀ m ∈ s.begun, m ≠ n → s.done m = true
  | .set n => s.begun = s.finished ∧ s.Told n ∧ ∀ m ∈ s.begun, m ≠ n → s.done m = true

/-- The assertion of thread `t` at a point. -/
structure At (t : Nat) (s : Hidapi ε α) (p : Point ε α) : Prop where
  locks : p.locks = true ↔ s.lock = some t
  works : p.works = true ↔ s.worker = some t
  made : ∀ n, p.own = some n → n ∈ s.made
  stage : s.Stage p

/-- No two threads are about the same call. -/
def Apart (p q : Point ε α) : Prop := ∀ n, p.own = some n → q.own ≠ some n

/-- What a move can do that other threads notice. -/
structure Effect (t : Nat) (p : Point ε α) (s s' : Hidapi ε α) : Prop where
  lock : ∀ u, u ≠ t → (s'.lock = some u ↔ s.lock = some u)
  worker : ∀ u, u ≠ t → (s'.worker = some u ↔ s.worker = some u)
  made : ∀ n ∈ s.made, n ∈ s'.made
  puts : ∀ n, p.own ≠ some n → (n ∈ s'.puts ↔ n ∈ s.puts)
  answered : ∀ n, p.own ≠ some n → (n ∈ s'.answered ↔ n ∈ s.answered)
  thread : p.locks = true ∨ s'.thread = s.thread ∧ s'.spawned = s.spawned
  spawned : s.spawned = 1 → s'.spawned = 1
  work : p.works = true ∨
    s'.begun = s.begun ∧ s'.ran = s.ran ∧ s'.outcome = s.outcome ∧ s'.done = s.done
  done : ∀ n, s.done n = true → s'.done n = true

theorem Effect.refl (t : Nat) (p : Point ε α) (s : Hidapi ε α) : Effect t p s s :=
  ⟨fun _ _ => .rfl, fun _ _ => .rfl, fun _ => id, fun _ _ => .rfl, fun _ _ => .rfl, .inr ⟨rfl, rfl⟩,
    id, .inr ⟨rfl, rfl, rfl, rfl⟩, fun _ => id⟩

/-- A call that a thread is about is entered in a list: no other call is. -/
theorem mem_append_own {p : Point ε α} {n m : Nat} {xs : List Nat} (hown : p.own = some n)
    (hm : p.own ≠ some m) : m ∈ xs ++ [n] ↔ m ∈ xs := by
  rw [List.mem_append, List.mem_singleton]
  refine or_iff_left ?_
  rintro rfl
  exact hm hown

theorem moves_effect {t : Nat} {s s' : Hidapi ε α} {p p' : Point ε α} (hm : Moves t s p s' p')
    (h : s.Shared) (ha : At t s p) : Effect t p s s' := by
  have htake : ∀ {o : Option Nat} {u : Nat}, o = none → u ≠ t → (some t = some u ↔ o = some u) := by
    rintro o u rfl hu
    simp [Ne.symm hu]
  cases hm with
  | call hn => exact { Effect.refl t _ s with made := fun _ => List.mem_cons_of_mem _ }
  | lock hfree => exact { Effect.refl t _ s with lock := fun u hu => htake hfree hu }
  | there | missing | wait => exact Effect.refl t _ s
  | make => exact { Effect.refl t _ s with thread := .inl rfl }
  | start =>
    refine { Effect.refl t _ s with thread := .inl rfl, spawned := fun hone => ?_ }
    rw [ha.stage.2.1] at hone
    cases hone
  | exit =>
    refine { Effect.refl t _ s with lock := fun u hu => ?_ }
    rw [ha.locks.mp rfl]
    simp [Ne.symm hu]
  | put => exact { Effect.refl t _ s with puts := fun m hm => mem_append_own rfl hm }
  | answer =>
    refine { Effect.refl t _ s with answered := fun m hm => ?_ }
    show m ∈ (s.answers ++ [_]).map Prod.fst ↔ _
    rw [List.map_append]
    exact mem_append_own rfl hm
  | begin_ hwaking => exact { Effect.refl t _ s with worker := fun u hu => htake (h.asleep hwaking) hu }
  | get | ends | store => exact { Effect.refl t _ s with work := .inl rfl }
  | @set n =>
    refine { Effect.refl t _ s with work := .inl rfl, done := fun m hm => ?_ }
    show Function.update s.done n true m = true
    by_cases hmn : m = n
    · rw [hmn, Function.update_self]
    · rw [Function.update_of_ne hmn]
      exact hm

/-- No move of one thread disturbs what another relies on. -/
theorem At.undisturbed {t u : Nat} {s s' : Hidapi ε α} {p p' q : Point ε α} (hu : u ≠ t)
    (hm : Moves t s p s' p') (h : s.Shared) (hp : At t s p) (hq : At u s q) (hapart : Apart p q) :
    At u s' q := by
  have he := moves_effect hm h hp
  have hown : ∀ n, q.own = some n → p.own ≠ some n := fun n hn hp => hapart n hp hn
  have hfresh : ∀ n, q.own = some n → s.Fresh n → s'.Fresh n := fun n hn hf =>
    ⟨fun hmem => hf.1 ((he.puts n (hown n hn)).mp hmem),
      fun hmem => hf.2 ((he.answered n (hown n hn)).mp hmem)⟩
  -- the lock that `u` holds, and the work that it does, are not `t`'s
  have hthread : q.locks = true → s'.thread = s.thread ∧ s'.spawned = s.spawned := by
    intro hl
    refine he.thread.resolve_left fun hl' => hu ?_
    rw [hq.locks] at hl
    rw [hp.locks, hl] at hl'
    exact Option.some.inj hl'
  have hwork : q.works = true →
      s'.begun = s.begun ∧ s'.ran = s.ran ∧ s'.outcome = s.outcome ∧ s'.done = s.done := by
    intro hw
    refine he.work.resolve_left fun hw' => hu ?_
    rw [hq.works] at hw
    rw [hp.works, hw] at hw'
    exact Option.some.inj hw'
  refine ⟨hq.locks.trans (he.lock u hu).symm, hq.works.trans (he.worker u hu).symm,
    fun n hn => he.made n (hq.made n hn), ?_⟩
  have hstage := hq.stage
  cases q with
  | idle => trivial
  | call n => exact hfresh n rfl hstage
  | check n =>
    obtain ⟨hthread, hspawned⟩ := hthread rfl
    exact ⟨hfresh n rfl hstage.1, by rw [hthread, hspawned]; exact hstage.2⟩
  | make n => exact ⟨hfresh n rfl hstage.1, (hthread rfl).2.trans hstage.2⟩
  | start n =>
    obtain ⟨hthread, hspawned⟩ := hthread rfl
    exact ⟨hfresh n rfl hstage.1, hspawned.trans hstage.2.1, hthread.trans hstage.2.2⟩
  | exit n | put n => exact ⟨hfresh n rfl hstage.1, he.spawned hstage.2⟩
  | wait n =>
    exact ⟨(he.puts n (hown n rfl)).mpr hstage.1,
      fun hmem => hstage.2 ((he.answered n (hown n rfl)).mp hmem)⟩
  | answer n =>
    exact ⟨he.done n hstage.1, fun hmem => hstage.2 ((he.answered n (hown n rfl)).mp hmem)⟩
  | get | run n | store n what | set n =>
    obtain ⟨hbegun, hran, houtcome, hdone⟩ := hwork rfl
    simp only [Stage, Told, finished, hbegun, hran, houtcome, hdone] at hstage ⊢
    exact hstage

/-- A move is about the call its thread was about, or a new one. -/
theorem At.apart {t u : Nat} {s s' : Hidapi ε α} {p p' q : Point ε α} (hm : Moves t s p s' p')
    (hq : At u s q) (hapart : Apart p q) : Apart p' q := by
  intro n hn hqn
  have hmade := hq.made n hqn
  cases hm with
  | call hnew => exact hnew (Option.some.inj hn ▸ hmade)
  | _ => first | exact hapart n hn hqn | cases hn

namespace Shared

variable {s : Hidapi ε α} (h : s.Shared)
include h

theorem begun_of_finished {n : Nat} (hn : n ∈ s.finished) : n ∈ s.begun := by
  obtain ⟨rest, hrest, -⟩ := h.one
  rw [hrest]
  exact List.mem_append_left _ hn

theorem puts_of_begun {n : Nat} (hn : n ∈ s.begun) : n ∈ s.puts := by
  rw [h.queue]
  exact List.mem_append_left _ hn

theorem finished_of_answered {n : Nat} (hn : n ∈ s.answered) : n ∈ s.finished := by
  obtain ⟨x, hx, rfl⟩ := List.mem_map.mp hn
  obtain ⟨what, -, hran⟩ := h.answers x hx
  exact List.mem_map_of_mem hran

theorem puts_of_answered {n : Nat} (hn : n ∈ s.answered) : n ∈ s.puts :=
  h.puts_of_begun (h.begun_of_finished (h.finished_of_answered hn))

theorem begun_nodup : s.begun.Nodup := by
  have hnodup := h.nodup
  rw [h.queue] at hnodup
  exact (List.nodup_append.mp hnodup).1

end Shared

/-- A move within the same hold of the lock, of a thread that does the same, for the same call. -/
theorem At.go {t : Nat} {s s' : Hidapi ε α} {p p' : Point ε α} (ha : At t s p)
    (hlocks : p'.locks = p.locks) (hworks : p'.works = p.works) (hlock : s'.lock = s.lock)
    (hworker : s'.worker = s.worker) (hmade : ∀ n, p'.own = some n → n ∈ s'.made)
    (hstage : s'.Stage p') : At t s' p' where
  locks := by rw [hlocks, hlock, ha.locks]
  works := by rw [hworks, hworker, ha.works]
  made := hmade
  stage := hstage

theorem Told.mono {s s' : Hidapi ε α} {n : Nat} (h : s.Told n) (hran : ∀ x ∈ s.ran, x ∈ s'.ran)
    (houtcome : s'.outcome n = s.outcome n) : s'.Told n := by
  obtain ⟨what, hmem, hout⟩ := h
  exact ⟨what, hran _ hmem, houtcome.trans hout⟩

section Own

variable {t n : Nat} {s : Hidapi ε α}

theorem own_start (h : s.Shared) (ha : At t s (.start n)) :
    Shared { s with spawned := s.spawned + 1, waking := s.waking + 1 } := by
  obtain ⟨-, hzero, hthread⟩ := ha.stage
  have hone : s.spawned + 1 = 1 := by rw [hzero]
  have hnobody : s.worker = none := by
    by_contra hw
    have := h.hired hw
    omega
  refine { h with
    spawned := Nat.le_of_eq hone, missing := fun hf => ?_, there := fun _ _ => hone,
    waking := Nat.succ_le_succ h.waking, asleep := fun _ => hnobody, awake := fun _ => nofun,
    hired := fun hw => absurd hnobody hw, served := fun _ => hone }
  rw [hthread] at hf
  cases hf

theorem own_put (h : s.Shared) (ha : At t s (.put n)) :
    Shared { s with queue := s.queue ++ [n], puts := s.puts ++ [n] } := by
  obtain ⟨⟨hnew, -⟩, hspawned⟩ := ha.stage
  refine { h with queue := ?_, nodup := ?_, made := fun m hm => ?_, served := fun _ => hspawned }
  · show s.puts ++ [n] = s.begun ++ (s.queue ++ [n])
    rw [h.queue, List.append_assoc]
  · refine List.nodup_append.mpr ⟨h.nodup, List.pairwise_singleton _ n, fun a ha b hb => ?_⟩
    rintro rfl
    exact hnew (List.mem_singleton.mp hb ▸ ha)
  · rcases List.mem_append.mp hm with hm | hm
    · exact h.made m hm
    · exact List.mem_singleton.mp hm ▸ ha.made n rfl

theorem own_answer (h : s.Shared) (ha : At t s (.answer n)) :
    Shared { s with answers := s.answers ++ [(n, (s.outcome n).answer)] } := by
  obtain ⟨hdone, hnew⟩ := ha.stage
  obtain ⟨what, hran, hout⟩ := h.done n hdone
  refine { h with answers := fun x hx => ?_, once := ?_ }
  · rcases List.mem_append.mp hx with hx | hx
    · exact h.answers x hx
    · cases List.mem_singleton.mp hx
      exact ⟨what, by rw [hout, Outcome.answer_store], hran⟩
  · show ((s.answers ++ [_]).map Prod.fst).Nodup
    rw [List.map_append]
    refine List.nodup_append.mpr ⟨h.once, List.pairwise_singleton _ n, fun a ha b hb => ?_⟩
    rintro rfl
    have hb : a = n := List.mem_singleton.mp hb
    exact hnew (hb ▸ ha)

theorem own_begin (h : s.Shared) (hwaking : 0 < s.waking) :
    Shared { s with waking := s.waking - 1, worker := some t } ∧ s.begun = s.finished ∧ s.begun = [] := by
  have hspawned := h.spawned
  have hle := h.waking
  have hempty : s.begun = [] := h.unbegun (h.asleep hwaking)
  have hfin : s.finished = [] := by
    obtain ⟨rest, hrest, -⟩ := h.one
    rw [hempty] at hrest
    exact (List.append_eq_nil_iff.mp hrest.symm).1
  refine ⟨{ h with
    waking := Nat.le_trans (Nat.sub_le _ _) hle, asleep := fun hw => ?_, awake := fun _ _ => nofun,
    hired := fun _ => ?_, unbegun := nofun }, hempty.trans hfin.symm, hempty⟩
  · have hw : 0 < s.waking - 1 := hw
    omega
  · show s.spawned = 1
    omega

theorem own_get (h : s.Shared) (ha : At t s .get) {rest : List Nat} (hq : s.queue = n :: rest) :
    Shared { s with queue := rest, begun := s.begun ++ [n] } := by
  refine { h with
    unbegun := fun hw => ?_, queue := ?_, one := ⟨[n], ?_, Nat.le_refl 1⟩ }
  · rw [ha.works.mp rfl] at hw
    cases hw
  · show s.puts = s.begun ++ [n] ++ rest
    rw [h.queue, hq, List.append_assoc]
    rfl
  · show s.begun ++ [n] = s.finished ++ [n]
    rw [ha.stage.1]

theorem own_ends (h : s.Shared) (ha : At t s (.run n)) (what : Except ε α) :
    Shared { s with ran := s.ran ++ [(n, what)] } ∧
      Stage { s with ran := s.ran ++ [(n, what)] } (.store n what) := by
  obtain ⟨hbegun, hdone⟩ := ha.stage
  have hfin : finished { s with ran := s.ran ++ [(n, what)] } = s.begun := by
    rw [hbegun]
    exact List.map_append
  have hgrow : ∀ x ∈ s.ran, x ∈ s.ran ++ [(n, what)] := fun x hx => List.mem_append_left _ hx
  have hnew : n ∉ s.finished := by
    have hnodup := hbegun ▸ h.begun_nodup
    exact fun hmem => (List.nodup_append.mp hnodup).2.2 n hmem n (List.mem_singleton_self n) rfl
  refine ⟨{ h with
    one := ⟨[], by rw [hfin, List.append_nil], Nat.zero_le _⟩, blank := fun m hm => ?_,
    done := fun m hm => (h.done m hm).mono hgrow rfl, answers := fun x hx => ?_ }, hfin.symm, ?_, ?_⟩
  · rw [hfin] at hm
    exact h.blank m fun hmem => hm (h.begun_of_finished hmem)
  · obtain ⟨w, hw, hmem⟩ := h.answers x hx
    exact ⟨w, hw, hgrow _ hmem⟩
  · exact ⟨List.mem_append_right _ (List.mem_singleton_self _), h.blank n hnew⟩
  · intro m hm hne
    have hm : m ∈ s.begun := hm
    rw [hbegun] at hm
    rcases List.mem_append.mp hm with hm | hm
    · exact hdone m hm
    · exact absurd (List.mem_singleton.mp hm) hne

theorem own_store {what : Except ε α} (h : s.Shared) (ha : At t s (.store n what)) :
    Shared { s with outcome := Function.update s.outcome n ((s.outcome n).store what) } ∧
      Told { s with outcome := Function.update s.outcome n ((s.outcome n).store what) } n := by
  obtain ⟨hbegun, ⟨hran, hblank⟩, -⟩ := ha.stage
  have htold : Told { s with outcome := Function.update s.outcome n ((s.outcome n).store what) } n := by
    refine ⟨what, hran, ?_⟩
    show Function.update s.outcome n _ n = _
    rw [Function.update_self, hblank]
  have hother : ∀ m, m ≠ n → Function.update s.outcome n ((s.outcome n).store what) m = s.outcome m :=
    fun m hm => Function.update_of_ne hm _ _
  refine ⟨{ h with blank := fun m hm => ?_, done := fun m hm => ?_ }, htold⟩
  · have hm : m ∉ s.finished := hm
    refine (hother m ?_).trans (h.blank m hm)
    rintro rfl
    exact hm (List.mem_map_of_mem hran)
  · by_cases hmn : m = n
    · exact hmn ▸ htold
    · exact (h.done m hm).mono (fun _ hx => hx) (hother m hmn)

theorem own_set (h : s.Shared) (ha : At t s (.set n)) :
    Shared { s with done := Function.update s.done n true } ∧
      ∀ m ∈ s.begun, Function.update s.done n true m = true := by
  obtain ⟨hbegun, htold, hdone⟩ := ha.stage
  refine ⟨{ h with done := fun m hm => ?_ }, fun m hm => ?_⟩
  · by_cases hmn : m = n
    · exact hmn ▸ htold
    · have hm : Function.update s.done n true m = true := hm
      rw [Function.update_of_ne hmn] at hm
      exact h.done m hm
  · by_cases hmn : m = n
    · rw [hmn, Function.update_self]
    · rw [Function.update_of_ne hmn]
      exact hdone m hm hmn

end Own

/-- **A thread's own move** leads from its assertion to the next. -/
theorem moves_own {t : Nat} {s s' : Hidapi ε α} {p p' : Point ε α} (hm : Moves t s p s' p')
    (h : s.Shared) (ha : At t s p) : s'.Shared ∧ At t s' p' := by
  cases hm with
  | @call n hn =>
    refine ⟨{ h with made := fun m hm => List.mem_cons_of_mem _ (h.made m hm) },
      ha.go rfl rfl rfl rfl (fun m hm => ?_) ⟨fun hp => hn (h.made n hp), fun hb => ?_⟩⟩
    · cases hm
      exact List.mem_cons_self
    · exact hn (h.made n (h.puts_of_answered hb))
  | lock hfree =>
    exact ⟨{ h with there := fun _ => nofun },
      ⟨⟨fun _ => rfl, fun _ => rfl⟩, ha.works, ha.made, ha.stage, fun hthread => h.there hthread hfree⟩⟩
  | there hthread => exact ⟨h, ha.go rfl rfl rfl rfl ha.made ⟨ha.stage.1, ha.stage.2 hthread⟩⟩
  | missing hthread => exact ⟨h, ha.go rfl rfl rfl rfl ha.made ⟨ha.stage.1, h.missing hthread⟩⟩
  | make =>
    refine ⟨{ h with missing := nofun, there := fun _ hfree => ?_ },
      ha.go rfl rfl rfl rfl ha.made ⟨ha.stage.1, ha.stage.2, rfl⟩⟩
    rw [ha.locks.mp rfl] at hfree
    cases hfree
  | start =>
    exact ⟨own_start h ha, ha.go rfl rfl rfl rfl ha.made ⟨ha.stage.1, by
      show s.spawned + 1 = 1
      rw [ha.stage.2.1]⟩⟩
  | exit =>
    exact ⟨{ h with there := fun _ _ => ha.stage.2 },
      ⟨⟨nofun, nofun⟩, ha.works, ha.made, ha.stage⟩⟩
  | put =>
    exact ⟨own_put h ha, ha.go rfl rfl rfl rfl (fun m hm => ha.made m hm)
      ⟨List.mem_append_right _ (List.mem_singleton_self _), ha.stage.1.2⟩⟩
  | wait hdone => exact ⟨h, ha.go rfl rfl rfl rfl ha.made ⟨hdone, ha.stage.2⟩⟩
  | answer => exact ⟨own_answer h ha, ha.go rfl rfl rfl rfl (fun _ => nofun) trivial⟩
  | begin_ hwaking =>
    obtain ⟨hshared, hfin, hempty⟩ := own_begin (t := t) h hwaking
    refine ⟨hshared, ⟨ha.locks, ⟨fun _ => rfl, fun _ => rfl⟩, fun _ => nofun, hfin, fun m hm => ?_⟩⟩
    have hm : m ∈ s.begun := hm
    rw [hempty] at hm
    cases hm
  | get hq =>
    refine ⟨own_get h ha hq, ha.go rfl rfl rfl rfl (fun _ => nofun) ⟨?_, fun m hm => ?_⟩⟩
    · show s.begun ++ [_] = s.finished ++ [_]
      rw [ha.stage.1]
    · exact ha.stage.2 m (h.begun_of_finished hm)
  | ends what =>
    obtain ⟨hshared, hstage⟩ := own_ends h ha what
    exact ⟨hshared, ha.go rfl rfl rfl rfl (fun _ => nofun) hstage⟩
  | store =>
    obtain ⟨hshared, htold⟩ := own_store h ha
    exact ⟨hshared, ha.go rfl rfl rfl rfl (fun _ => nofun) ⟨ha.stage.1, htold, ha.stage.2.2⟩⟩
  | set =>
    obtain ⟨hshared, hdone⟩ := own_set h ha
    exact ⟨hshared, ha.go rfl rfl rfl rfl (fun _ => nofun) ⟨ha.stage.1, hdone⟩⟩

theorem outline : Threads.Outline (fun t s p s' p' => Moves (ε := ε) (α := α) t s p s' p') Shared At
    Apart where
  symm _ _ h n hq hp := h n hp hq
  own := moves_own
  undisturbed hu hm h hp hq hapart := At.undisturbed hu hm h hp hq hapart
  apart _ hm _ _ hq hapart := hq.apart hm hapart

/-- The outline holds before anything is called. -/
theorem holds_new : Threads.Holds Shared At Apart (System.new (ε := ε) (α := α)) where
  shared := {
    spawned := Nat.zero_le 1
    missing := fun _ => rfl
    there := nofun
    waking := Nat.le_refl 0
    asleep := nofun
    awake := nofun
    hired := fun h => absurd rfl h
    unbegun := fun _ => rfl
    queue := rfl
    nodup := List.nodup_nil
    made := nofun
    served := fun h => absurd rfl h
    one := ⟨[], rfl, Nat.zero_le 1⟩
    blank := fun _ _ => rfl
    done := nofun
    answers := nofun
    once := List.nodup_nil }
  thread _ := ⟨⟨nofun, nofun⟩, ⟨nofun, nofun⟩, nofun, trivial⟩
  pairs _ _ _ := nofun

/-- The outline holds in every reachable state. -/
theorem System.Run.holds {c : System ε α} (h : System.Run .new c) : Threads.Holds Shared At Apart c :=
  outline.reachable h holds_new

/-! ## The worker gets through its queue -/

/-- What there is to run, and how it will end if each function does what `f` says. -/
def due (f : Nat → Except ε α) (s : Hidapi ε α) : List (Nat × Except ε α) :=
  s.ran ++ (s.puts.drop s.ran.length).map fun n => (n, f n)

/-- Everything that was put has been run, and those that wait still do. -/
structure Drained (f : Nat → Except ε α) (c c' : System ε α) : Prop where
  run : System.Run c c'
  waits : ∀ u n, c.at_ u = .wait n → c'.at_ u = .wait n
  puts : c'.shared.puts = c.shared.puts
  ran : c'.shared.ran = c.shared.due f
  done : ∀ n ∈ c.shared.puts, c'.shared.done n = true

/-- A move of a thread that waits for nothing, which queues nothing and leaves what is due. -/
theorem Drained.step {f : Nat → Except ε α} {c c' : System ε α} {t : Nat} {s : Hidapi ε α}
    {p q : Point ε α} (h : Drained f (c.put t s p) c') (hq : c.at_ t = q)
    (hm : Moves t c.shared q s p) (hwaits : ∀ n, q ≠ .wait n) (hputs : s.puts = c.shared.puts)
    (hdue : s.due f = c.shared.due f) : Drained f c c' where
  run := .head (.from_ hq hm) h.run
  waits u n hu := by
    have hut : u ≠ t := by
      rintro rfl
      exact hwaits n (hq.symm.trans hu)
    exact h.waits u n ((Threads.put_other c hut s p).trans hu)
  puts := h.puts.trans hputs
  ran := h.ran.trans hdue
  done n hn := h.done n (hputs ▸ hn)

/-- How far a worker is from its next `get`. -/
def Point.left : Point ε α → Nat
  | .run _ => 3
  | .store _ _ => 2
  | .set _ => 1
  | _ => 0

/-- **The worker gets through its queue** by moves of its own, whatever the functions do. -/
theorem drain (f : Nat → Except ε α) {c : System ε α} {t : Nat}
    (hc : Threads.Holds Shared At Apart c) (hw : (c.at_ t).works = true) : ∃ c', Drained f c c' := by
  -- a function takes four moves of the worker
  obtain ⟨k, hk⟩ : ∃ k, 4 * c.shared.queue.length + (c.at_ t).left = k := ⟨_, rfl⟩
  induction k using Nat.strongRecOn generalizing c with
  | ind k ih =>
    have next : ∀ {s : Hidapi ε α} {p q : Point ε α}, c.at_ t = q → Moves t c.shared q s p →
        (∀ n, q ≠ .wait n) → p.works = true → s.puts = c.shared.puts → s.due f = c.shared.due f →
        4 * s.queue.length + p.left < k → ∃ c', Drained f c c' := by
      intro s p q hq hm hwaits hp hputs hdue hless
      have hstep := outline.step (.from_ hq hm) hc
      obtain ⟨c', hc'⟩ := ih _ hless hstep (by rw [Threads.put_at]; exact hp)
        (by rw [Threads.put_at]; rfl)
      exact ⟨c', hc'.step hq hm hwaits hputs hdue⟩
    cases hp : c.at_ t with
    | get =>
      have hstage := (hc.thread t).stage
      rw [hp] at hstage hk
      cases hq : c.shared.queue with
      | nil =>
        have hputs : c.shared.puts = c.shared.finished := by
          rw [hc.shared.queue, hq, List.append_nil, hstage.1]
        refine ⟨c, .refl, fun _ _ => id, rfl, ?_, fun n hn => hstage.2 n ?_⟩
        · unfold due
          rw [hputs, finished, List.drop_of_length_le (Nat.le_of_eq (List.length_map ..)), List.map_nil,
            List.append_nil]
        · rw [hstage.1, ← hputs]
          exact hn
      | cons n rest =>
        rw [hq] at hk
        exact next hp (.get hq) nofun rfl rfl rfl (by simp [Point.left] at hk ⊢; omega)
    | run n =>
      rw [hp] at hk
      refine next hp (.ends (f n)) nofun rfl rfl ?_ (by simp [Point.left] at hk ⊢; omega)
      have hstage := (hc.thread t).stage
      rw [hp] at hstage
      have hputs : c.shared.puts = c.shared.finished ++ n :: c.shared.queue := by
        rw [hc.shared.queue, hstage.1, List.append_assoc]
        rfl
      have hlen : c.shared.finished.length = c.shared.ran.length := List.length_map ..
      have hhere : c.shared.puts.drop c.shared.ran.length = n :: c.shared.queue := by
        rw [hputs, ← hlen, List.drop_left]
      have hthere : c.shared.puts.drop (c.shared.ran ++ [(n, f n)]).length = c.shared.queue := by
        rw [List.length_append, List.length_singleton, ← List.tail_drop, hhere, List.tail_cons]
      unfold due
      dsimp only
      rw [hthere, hhere, List.map_cons, List.append_assoc]
      rfl
    | store n what =>
      rw [hp] at hk
      exact next hp .store nofun rfl rfl rfl (by simp [Point.left] at hk ⊢; omega)
    | set n =>
      rw [hp] at hk
      exact next hp .set nofun rfl rfl rfl (by simp [Point.left] at hk ⊢; omega)
    | _ =>
      rw [hp] at hw
      cases hw

/-- There is a worker, or one about to begin, as soon as anything was put. -/
theorem drained (f : Nat → Except ε α) {c : System ε α} (h : System.Run .new c) :
    ∃ c', Drained f c c' := by
  have hc := h.holds
  cases hworker : c.shared.worker with
  | some t => exact drain f hc ((hc.thread t).works.mpr hworker)
  | none =>
    by_cases hwaking : 0 < c.shared.waking
    · obtain ⟨t, hN⟩ := h.untouched
      have ht : c.at_ t = .idle := hN t (Nat.le_refl t)
      have hm := Moves.begin_ (t := t) hwaking
      obtain ⟨c', hc'⟩ := drain f (outline.step (.from_ ht hm) hc) (t := t)
        (by rw [Threads.put_at]; rfl)
      exact ⟨c', hc'.step ht hm nofun rfl rfl⟩
    · have hputs : c.shared.puts = [] := by
        by_contra hne
        exact hc.shared.awake (hc.shared.served hne) (Nat.eq_zero_of_not_pos hwaking) hworker
      have hran : c.shared.ran = [] := by
        have hbegun := hc.shared.unbegun hworker
        obtain ⟨rest, hrest, -⟩ := hc.shared.one
        rw [hbegun] at hrest
        exact List.map_eq_nil_iff.mp (List.append_eq_nil_iff.mp hrest.symm).1
      refine ⟨c, .refl, fun _ _ => id, rfl, ?_, fun n hn => ?_⟩
      · unfold due
        rw [hputs, hran]
        rfl
      · rw [hputs] at hn
        cases hn

/-! ## Every call comes back -/

/-- Thread `t` has left the `with` of its call by moves of its own. -/
structure Leaves (t n : Nat) (c c' : System ε α) : Prop where
  run : System.Run c c'
  put : c'.at_ t = .put n
  free : c'.shared.lock = none
  others : ∀ u, u ≠ t → c'.at_ u = c.at_ u

theorem Leaves.step {t n : Nat} {c c' : System ε α} {s : Hidapi ε α} {p q : Point ε α}
    (h : Leaves t n (c.put t s p) c') (hq : c.at_ t = q) (hm : Moves t c.shared q s p) :
    Leaves t n c c' :=
  ⟨.head (.from_ hq hm) h.run, h.put, h.free, fun u hu =>
    (h.others u hu).trans (Threads.put_other c hu s p)⟩

/-- A thread in the `with` can leave it. -/
theorem leaves {c : System ε α} {t n : Nat} (hl : (c.at_ t).locks = true)
    (hn : (c.at_ t).own = some n) : ∃ c', Leaves t n c c' := by
  have hexit : ∀ {c : System ε α}, c.at_ t = .exit n → ∃ c', Leaves t n c c' := fun {c} hp =>
    ⟨_, .single (.from_ hp .exit), Threads.put_at .., rfl, fun u hu => Threads.put_other c hu _ _⟩
  have hstart : ∀ {c : System ε α}, c.at_ t = .start n → ∃ c', Leaves t n c c' := fun hp => by
    obtain ⟨c', h⟩ := hexit (Threads.put_at ..)
    exact ⟨c', h.step hp .start⟩
  have hmake : ∀ {c : System ε α}, c.at_ t = .make n → ∃ c', Leaves t n c c' := fun hp => by
    obtain ⟨c', h⟩ := hstart (Threads.put_at ..)
    exact ⟨c', h.step hp .make⟩
  cases hp : c.at_ t with
  | exit m =>
    rw [hp] at hn
    cases hn
    exact hexit hp
  | start m =>
    rw [hp] at hn
    cases hn
    exact hstart hp
  | make m =>
    rw [hp] at hn
    cases hn
    exact hmake hp
  | check m =>
    rw [hp] at hn
    cases hn
    cases hthread : c.shared.thread with
    | true =>
      obtain ⟨c', h⟩ := hexit (Threads.put_at c t c.shared (.exit n))
      exact ⟨c', h.step hp (.there hthread)⟩
    | false =>
      obtain ⟨c', h⟩ := hmake (Threads.put_at c t c.shared (.make n))
      exact ⟨c', h.step hp (.missing hthread)⟩
  | _ =>
    rw [hp] at hl
    cases hl

/-- The call can come back with how its own function ended. -/
def Returns (n : Nat) (c : System ε α) : Prop :=
  ∃ c' what, System.Run c c' ∧ (n, what) ∈ c'.shared.ran ∧ (n, some what) ∈ c'.shared.answers

theorem Returns.after {n : Nat} {c c' : System ε α} (h : Returns n c') (hrun : System.Run c c') :
    Returns n c := by
  obtain ⟨c'', what, hrun', hran, hanswers⟩ := h
  exact ⟨c'', what, hrun.trans hrun', hran, hanswers⟩

section Returns

variable {t n : Nat} {c : System ε α}

theorem returns_answer (h : System.Run .new c) (hp : c.at_ t = .answer n) : Returns n c := by
  have hc := h.holds
  have hstage := (hc.thread t).stage
  rw [hp] at hstage
  obtain ⟨what, hran, hout⟩ := hc.shared.done n hstage.1
  refine ⟨_, what, .single (.from_ hp .answer), hran, List.mem_append_right _ ?_⟩
  rw [hout, Outcome.answer_store]
  exact List.mem_singleton_self _

theorem returns_wait (f : Nat → Except ε α) (h : System.Run .new c) (hp : c.at_ t = .wait n) :
    Returns n c := by
  have hstage := (h.holds.thread t).stage
  rw [hp] at hstage
  obtain ⟨c', hc'⟩ := drained f h
  have hwait := hc'.waits t n hp
  have hstep : System.Run c' _ := .single (.from_ hwait (.wait (hc'.done n hstage.1)))
  have hrun := hc'.run.trans hstep
  exact (returns_answer (h.trans hrun) (Threads.put_at ..)).after hrun

theorem returns_put (f : Nat → Except ε α) (h : System.Run .new c) (hp : c.at_ t = .put n) :
    Returns n c := by
  have hstep : System.Run c _ := .single (.from_ hp .put)
  exact (returns_wait f (h.trans hstep) (Threads.put_at ..)).after hstep

theorem returns_locks (f : Nat → Except ε α) (h : System.Run .new c) (hl : (c.at_ t).locks = true)
    (hn : (c.at_ t).own = some n) : Returns n c := by
  obtain ⟨c', hc'⟩ := leaves hl hn
  exact (returns_put f (h.trans hc'.run) hc'.put).after hc'.run

theorem returns_free (f : Nat → Except ε α) (h : System.Run .new c) (hp : c.at_ t = .call n)
    (hfree : c.shared.lock = none) : Returns n c := by
  have hstep : System.Run c _ := .single (.from_ hp (.lock hfree))
  refine (returns_locks f (h.trans hstep) (t := t) ?_ ?_).after hstep
  · rw [Threads.put_at]
    rfl
  · rw [Threads.put_at]
    rfl

/-- **No call is stranded**, wherever its thread is. -/
theorem returns (f : Nat → Except ε α) (h : System.Run .new c) (hn : (c.at_ t).own = some n) :
    Returns n c := by
  cases hp : c.at_ t with
  | call m =>
    rw [hp] at hn
    cases hn
    cases hlock : c.shared.lock with
    | none => exact returns_free f h hp hlock
    | some u =>
      -- whoever holds the lock lets it go
      have hl : (c.at_ u).locks = true := (h.holds.thread u).locks.mpr hlock
      have hut : t ≠ u := by
        rintro rfl
        rw [hp] at hl
        cases hl
      obtain ⟨m, hm⟩ : ∃ m, (c.at_ u).own = some m := by
        cases hq : c.at_ u with
        | check m | make m | start m | exit m => exact ⟨m, rfl⟩
        | _ =>
          rw [hq] at hl
          cases hl
      obtain ⟨c', hc'⟩ := leaves hl hm
      exact (returns_free f (h.trans hc'.run) ((hc'.others t hut).trans hp) hc'.free).after hc'.run
  | check m | make m | start m | exit m => exact returns_locks f h (by rw [hp]; rfl) hn
  | put m =>
    rw [hp] at hn
    cases hn
    exact returns_put f h hp
  | wait m =>
    rw [hp] at hn
    cases hn
    exact returns_wait f h hp
  | answer m =>
    rw [hp] at hn
    cases hn
    exact returns_answer h hp
  | _ =>
    rw [hp] at hn
    cases hn

end Returns

/-- One worker runs what was queued, once each and in order, and answers every call with its own. -/
structure Serves (c : System ε α) : Prop where
  one_thread : c.shared.spawned ≤ 1
  one_worker : ∀ t u, (c.at_ t).works = true → (c.at_ u).works = true → t = u
  in_order : c.shared.puts = c.shared.begun ++ c.shared.queue
  once : c.shared.puts.Nodup
  one_at_a_time : ∃ rest, c.shared.begun = c.shared.ran.map Prod.fst ++ rest ∧ rest.length ≤ 1
  own : ∀ x ∈ c.shared.answers, ∃ what, x.2 = some what ∧ (x.1, what) ∈ c.shared.ran
  answered_once : (c.shared.answers.map Prod.fst).Nodup
  /-- Whatever the functions do, all that were queued are run. -/
  all_run : ∀ f : Nat → Except ε α, ∃ c', System.Run c c' ∧ c'.shared.puts = c.shared.puts ∧
    c'.shared.ran = c.shared.ran ++ (c.shared.puts.drop c.shared.ran.length).map fun n => (n, f n)
  all_return : (Nat → Except ε α) → ∀ t n, (c.at_ t).own = some n → ∃ c' what,
    System.Run c c' ∧ (n, what) ∈ c'.shared.ran ∧ (n, some what) ∈ c'.shared.answers

/-- **The hidapi thread runs each call once and answers its own caller**, for every interleaving of
any number of callers and whatever their functions return or raise. -/
theorem serves {c : System ε α} (h : System.Run .new c) : Serves c where
  one_thread := h.holds.shared.spawned
  one_worker t u ht hu := by
    have hw := (h.holds.thread t).works.mp ht
    rw [(h.holds.thread u).works.mp hu] at hw
    exact (Option.some.inj hw).symm
  in_order := h.holds.shared.queue
  once := h.holds.shared.nodup
  one_at_a_time := h.holds.shared.one
  own := h.holds.shared.answers
  answered_once := h.holds.shared.once
  all_run f := by
    obtain ⟨c', hc'⟩ := drained f h
    exact ⟨c', hc'.run, hc'.puts, hc'.ran⟩
  all_return f t n hn := returns f h hn

/-- Two callers: the function of the first raises, the second waits in the queue meanwhile. -/
theorem serves_two : ∃ c : System String Nat, System.Run .new c ∧
    c.shared.answers = [(1, some (.ok 42)), (0, some (.error "open failed"))] ∧ Serves c := by
  have hrun := (Relation.ReflTransGen.refl : System.Run (.new : System String Nat) .new)
    |>.tail (.from_ (t := 0) rfl (.call (show 0 ∉ _ from nofun)))
    |>.tail (.from_ (t := 1) rfl (.call (show 1 ∉ _ by decide)))
    |>.tail (.from_ (t := 0) rfl (.lock rfl))
    |>.tail (.from_ (t := 0) rfl (.missing rfl))
    |>.tail (.from_ (t := 0) rfl .make)
    |>.tail (.from_ (t := 0) rfl .start)
    |>.tail (.from_ (t := 0) rfl .exit)
    |>.tail (.from_ (t := 1) rfl (.lock rfl))
    |>.tail (.from_ (t := 2) rfl (.begin_ Nat.one_pos))
    |>.tail (.from_ (t := 1) rfl (.there rfl))
    |>.tail (.from_ (t := 1) rfl .exit)
    |>.tail (.from_ (t := 0) rfl .put)
    |>.tail (.from_ (t := 1) rfl .put)
    |>.tail (.from_ (t := 2) rfl (.get rfl))
    |>.tail (.from_ (t := 2) rfl (.ends (.error "open failed")))
    |>.tail (.from_ (t := 2) rfl .store)
    |>.tail (.from_ (t := 2) rfl .set)
    |>.tail (.from_ (t := 2) rfl (.get rfl))
    |>.tail (.from_ (t := 2) rfl (.ends (.ok 42)))
    |>.tail (.from_ (t := 2) rfl .store)
    |>.tail (.from_ (t := 2) rfl .set)
    |>.tail (.from_ (t := 1) rfl (.wait rfl))
    |>.tail (.from_ (t := 1) rfl .answer)
    |>.tail (.from_ (t := 0) rfl (.wait rfl))
    |>.tail (.from_ (t := 0) rfl .answer)
  exact ⟨_, hrun, rfl, serves hrun⟩

end Hidapi

end StakkaWeb
