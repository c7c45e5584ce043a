import StakkaWeb.Controller

/-!
# One job at a time, and none lost

The proof outline of the controller. `Shared` is what holds of the shared state, `At` what a
thread may rely on at each point of its code, and no two threads are about the same job. What a
move of one thread can do to another's assertion is said once, in `Effect`.
-/

set_option autoImplicit false

namespace StakkaWeb

open Lib

namespace Control

/-- What holds of the shared state. -/
structure Shared (s : Control) : Prop where
  made : ∀ j ∈ s.admitted, j ∈ s.made
  nodup : s.admitted.Nodup
  /-- The executed jobs are the admitted ones in their order, but for the last at most. -/
  order : s.executed = s.admitted ∨ ∃ j, s.executed ++ [j] = s.admitted ∧ s.current = some j
  /-- The one job that may be live is the current one. -/
  live : ∀ j ∈ s.admitted, s.live j = true → s.current = some j
  /-- Nothing but its own worker ends a job. -/
  fresh : ∀ j, j ∉ s.executed → s.live j = true
  started : ∀ j ∈ s.started, j ∈ s.admitted ∧ j ∉ s.executed
  startedNodup : s.started.Nodup
  ran : ∀ j ∈ s.ran, j ∈ s.executed
  ranNodup : s.ran.Nodup
  verdicts : ∀ v ∈ s.verdicts, v.1 = v.2

/-- What a thread may rely on at each point. -/
def Stage (s : Control) : Point → Prop
  | .submit j | .submitRead j | .submitBusy j => j ∉ s.admitted
  | .submitDone j held => j ∉ s.admitted ∧ s.current = held
  | .submitWrite j => j ∉ s.admitted ∧ s.occupied = false
  | .submitExit j | .submitStart j | .run j => j ∈ s.admitted ∧ j ∉ s.executed
  | .opening j | .tracing j => j ∈ s.executed ∧ j ∉ s.ran
  | .connecting j => (j ∈ s.executed ∧ j ∉ s.ran) ∧ s.trace = some j
  | .runner j => j ∈ s.executed ∧ s.trace = some j
  | .handler j | .finally_ j | .closing j | .unreported j => j ∈ s.executed
  | _ => True

/-- The assertion of thread `t` at a point. -/
structure At (t : Nat) (s : Control) (p : Point) : Prop where
  locks : p.locks = true ↔ s.lock = some t
  owns : p.owns = true ↔ s.device = some t
  made : ∀ j, p.job = some j → j ∈ s.made ∧ j ∉ s.started
  stage : s.Stage p

/-- No two threads are about the same job. -/
def Apart (p q : Point) : Prop := ∀ j, p.job = some j → q.job ≠ some j

theorem live_setPhase (s : Control) (job j : Nat) (p : Phase) :
    (s.setPhase job p).live j = if j = job then !p.terminal else s.live j := by
  unfold live setPhase
  dsimp only
  by_cases h : j = job
  · subst h
    rw [Function.update_self, if_pos rfl]
  · rw [Function.update_of_ne h, if_neg h]

/-- What a move can do that other threads notice. -/
structure Effect (t : Nat) (p : Point) (s s' : Control) : Prop where
  lock : ∀ u, u ≠ t → (s'.lock = some u ↔ s.lock = some u)
  device : ∀ u, u ≠ t → (s'.device = some u ↔ s.device = some u)
  made : ∀ j ∈ s.made, j ∈ s'.made
  admitted : ∀ j, p.job ≠ some j → (j ∈ s'.admitted ↔ j ∈ s.admitted)
  executed : ∀ j, p.job ≠ some j → (j ∈ s'.executed ↔ j ∈ s.executed)
  ran : ∀ j, p.job ≠ some j → (j ∈ s'.ran ↔ j ∈ s.ran)
  started : ∀ j, p.job ≠ some j → j ∈ s'.started → j ∈ s.started
  current : p.locks = true ∨ s'.current = s.current
  trace : p.owns = true ∨ s'.trace = s.trace
  live : ∀ j, s'.live j = true → s.live j = true

theorem Effect.refl (t : Nat) (p : Point) (s : Control) : Effect t p s s :=
  ⟨fun _ _ => .rfl, fun _ _ => .rfl, fun _ => id, fun _ _ => .rfl, fun _ _ => .rfl, fun _ _ => .rfl,
    fun _ _ => id, .inr rfl, .inr rfl, fun _ => id⟩

/-- A job that a thread is about is entered in a list: no other job is. -/
theorem mem_append_job {p : Point} {job j : Nat} {xs : List Nat} (hjob : p.job = some job)
    (hj : p.job ≠ some j) : j ∈ xs ++ [job] ↔ j ∈ xs := by
  rw [List.mem_append, List.mem_singleton]
  refine or_iff_left ?_
  rintro rfl
  exact hj hjob

theorem moves_effect {t : Nat} {s s' : Control} {p p' : Point} (hm : Moves t s p s' p')
    (ha : At t s p) : Effect t p s s' := by
  have hnone : ∀ {o : Option Nat} {u : Nat}, o = none → u ≠ t → (some t = some u ↔ o = some u) := by
    rintro o u rfl hu
    simp [Ne.symm hu]
  have hfree : ∀ {o : Option Nat} {u : Nat}, o = some t → u ≠ t → ((none : Option Nat) = some u ↔ o = some u) := by
    rintro o u rfl hu
    simp [Ne.symm hu]
  cases hm with
  | callSubmit h => exact { Effect.refl t _ s with made := fun j => List.mem_cons_of_mem _ }
  | submitLock h | currentLock h =>
    exact { Effect.refl t _ s with lock := fun u hu => hnone h hu }
  | submitNone | submitOver | submitLive => exact { Effect.refl t _ s with }
  | submitBusy | submitExit | currentNone | currentExit =>
    exact { Effect.refl t _ s with lock := fun u hu => hfree (ha.locks.mp rfl) hu }
  | submitWrite =>
    exact { Effect.refl t _ s with
      admitted := fun j hj => mem_append_job rfl hj, current := .inl rfl }
  | submitStart =>
    refine { Effect.refl t _ s with started := fun j hj hmem => ?_ }
    rcases List.mem_cons.mp hmem with rfl | hmem
    · exact absurd rfl hj
    · exact hmem
  | begin_ h =>
    exact { Effect.refl t _ s with started := fun j _ => List.mem_of_mem_erase }
  | runDevice h =>
    exact { Effect.refl t _ s with
      device := fun u hu => hnone h hu, executed := fun j hj => mem_append_job rfl hj }
  | traced => exact { Effect.refl t _ s with trace := .inl rfl }
  | connected => exact { Effect.refl t _ s with ran := fun j hj => mem_append_job rfl hj }
  | @shows job p hp h =>
    refine { Effect.refl t _ s with live := fun j hj => ?_ }
    rw [live_setPhase] at hj
    split at hj
    next he => exact he ▸ h
    next => exact hj
  | @reports job p hp =>
    refine { Effect.refl t _ s with live := fun j hj => ?_ }
    rw [live_setPhase, hp] at hj
    split at hj
    · cases hj
    · exact hj
  | fails | unreported =>
    refine { Effect.refl t _ s with live := fun j hj => ?_ }
    rw [live_setPhase] at hj
    split at hj
    · cases hj
    · exact hj
  | untraced => exact { Effect.refl t _ s with trace := .inl rfl }
  | runExit | used =>
    exact { Effect.refl t _ s with device := fun u hu => hfree (ha.owns.mp rfl) hu }
  | claimDevice h => exact { Effect.refl t _ s with device := fun u hu => hnone h hu }
  | callCurrent | submitRead | opened | openRaises | connectRaises | returns | raises
  | handlerRaises | closeRaises | isOver | silent | currentRead | currentOver | currentLive
  | claimWaits | tendGivesUp => exact Effect.refl t _ s

theorem occupied_eq_false {s : Control} :
    s.occupied = false ↔ ∀ j, s.current = some j → s.live j = false := by
  unfold occupied
  cases s.current with
  | none => exact ⟨fun _ => nofun, fun _ => rfl⟩
  | some job => exact ⟨fun h j hj => Option.some.inj hj ▸ h, fun h => h job rfl⟩

/-- No move of one thread disturbs what another relies on. -/
theorem At.undisturbed {t u : Nat} {s s' : Control} {p p' q : Point} (hu : u ≠ t)
    (hm : Moves t s p s' p') (hp : At t s p) (hq : At u s q) (hapart : Apart p q) : At u s' q := by
  have he := moves_effect hm hp
  have hjob : ∀ j, q.job = some j → p.job ≠ some j := fun j hj h => hapart j h hj
  -- the lock or the unit that `u` holds is not `t`'s
  have hcurrent : q.locks = true → s'.current = s.current := by
    intro hl
    refine he.current.resolve_left fun hl' => hu ?_
    rw [hq.locks] at hl
    rw [hp.locks, hl] at hl'
    exact Option.some.inj hl'
  have htrace : q.owns = true → s'.trace = s.trace := by
    intro ho
    refine he.trace.resolve_left fun ho' => hu ?_
    rw [hq.owns] at ho
    rw [hp.owns, ho] at ho'
    exact Option.some.inj ho'
  refine ⟨hq.locks.trans (he.lock u hu).symm, hq.owns.trans (he.device u hu).symm, fun j hj => ?_, ?_⟩
  · obtain ⟨hmade, hstarted⟩ := hq.made j hj
    exact ⟨he.made j hmade, fun h => hstarted (he.started j (hjob j hj) h)⟩
  have hstage := hq.stage
  cases q with
  | submit j | submitRead j | submitBusy j => exact fun h => hstage ((he.admitted j (hjob j rfl)).mp h)
  | submitDone j held =>
    exact ⟨fun h => hstage.1 ((he.admitted j (hjob j rfl)).mp h), (hcurrent rfl).trans hstage.2⟩
  | submitWrite j =>
    refine ⟨fun h => hstage.1 ((he.admitted j (hjob j rfl)).mp h), occupied_eq_false.mpr fun i hi => ?_⟩
    rw [hcurrent rfl] at hi
    have hover := occupied_eq_false.mp hstage.2 i hi
    cases hl : s'.live i with
    | false => rfl
    | true => rw [he.live i hl] at hover; cases hover
  | submitExit j | submitStart j | run j =>
    exact ⟨(he.admitted j (hjob j rfl)).mpr hstage.1,
      fun h => hstage.2 ((he.executed j (hjob j rfl)).mp h)⟩
  | opening j | tracing j =>
    exact ⟨(he.executed j (hjob j rfl)).mpr hstage.1, fun h => hstage.2 ((he.ran j (hjob j rfl)).mp h)⟩
  | connecting j =>
    exact ⟨⟨(he.executed j (hjob j rfl)).mpr hstage.1.1,
      fun h => hstage.1.2 ((he.ran j (hjob j rfl)).mp h)⟩, (htrace rfl).trans hstage.2⟩
  | runner j => exact ⟨(he.executed j (hjob j rfl)).mpr hstage.1, (htrace rfl).trans hstage.2⟩
  | handler j | finally_ j | closing j | unreported j => exact (he.executed j (hjob j rfl)).mpr hstage
  | idle | runExit | current | currentRead | currentExit | currentDone | claim | use => trivial

end Control

namespace Errand

@[simp] theorem onFree_job (e : Errand) : e.onFree.job = none := by
  cases e <;> rfl

@[simp] theorem onFree_locks (e : Errand) : e.onFree.locks = false := by
  cases e <;> rfl

@[simp] theorem onFree_owns (e : Errand) : e.onFree.owns = false := by
  cases e <;> rfl

end Errand

namespace Control

/-- A move is about the job its thread was about, a new one, or one of a started thread. -/
theorem moves_job {t : Nat} {s s' : Control} {p p' : Point} (hm : Moves t s p s' p') {j : Nat}
    (hj : p'.job = some j) : p.job = some j ∨ j ∉ s.made ∨ j ∈ s.started := by
  cases hm with
  | callSubmit h => exact .inr (.inl (Option.some.inj hj ▸ h))
  | begin_ h => exact .inr (.inr (Option.some.inj hj ▸ h))
  | @currentNone e | @currentOver e => exact absurd hj (e.onFree_job ▸ nofun)
  | _ => first | exact .inl hj | cases hj

theorem At.apart {t u : Nat} {s s' : Control} {p p' q : Point} (hm : Moves t s p s' p')
    (hq : At u s q) (hapart : Apart p q) : Apart p' q := by
  intro j hj hqj
  obtain ⟨hmade, hstarted⟩ := hq.made j hqj
  rcases moves_job hm hj with h | h | h
  · exact hapart j h hqj
  · exact h hmade
  · exact hstarted h

/-- Ending a job that has been executed. -/
theorem Shared.setPhase {s : Control} (h : s.Shared) {job : Nat} (hjob : job ∈ s.executed)
    {p : Phase} (hp : p.terminal = true ∨ s.live job = true) : (s.setPhase job p).Shared := by
  have hlive : ∀ j, (s.setPhase job p).live j = true → s.live j = true := by
    intro j hj
    rw [live_setPhase] at hj
    split at hj
    next he =>
      rcases hp with hp | hp
      · rw [hp] at hj
        cases hj
      · exact he ▸ hp
    next => exact hj
  refine { h with live := fun j hj hl => h.live j hj (hlive j hl), fresh := fun j hj => ?_ }
  rw [live_setPhase, if_neg]
  · exact h.fresh j hj
  · rintro rfl
    exact hj hjob

/-- A job is admitted: what was admitted before is over. -/
theorem Shared.letIn {s : Control} (h : s.Shared) {job : Nat} (hmade : job ∈ s.made)
    (hnew : job ∉ s.admitted) (hover : s.occupied = false) :
    Shared { s with current := some job, admitted := s.admitted ++ [job] } := by
  have hdone : ∀ j ∈ s.admitted, s.live j = false := by
    intro j hj
    cases hl : s.live j with
    | false => rfl
    | true => exact hl.symm.trans (occupied_eq_false.mp hover j (h.live j hj hl))
  have horder : s.executed = s.admitted := by
    refine h.order.resolve_right ?_
    rintro ⟨j, hj, hcurrent⟩
    have hover := occupied_eq_false.mp hover j hcurrent
    have hnodup := hj ▸ h.nodup
    have hpending : j ∉ s.executed := fun hmem =>
      (List.nodup_append.mp hnodup).2.2 j hmem j (List.mem_singleton_self j) rfl
    rw [h.fresh j hpending] at hover
    cases hover
  refine { h with
    made := fun j hj => ?_, nodup := ?_, order := .inr ⟨job, ?_, rfl⟩,
    live := fun j hj hl => ?_, started := fun j hj => ?_ }
  · rcases List.mem_append.mp hj with hj | hj
    · exact h.made j hj
    · exact List.mem_singleton.mp hj ▸ hmade
  · exact List.nodup_append.mpr ⟨h.nodup, List.pairwise_singleton _ job, fun a ha b hb => by
      rintro rfl
      exact hnew (List.mem_singleton.mp hb ▸ ha)⟩
  · exact congrArg (· ++ [job]) horder
  · rcases List.mem_append.mp hj with hj | hj
    · exact absurd hl (hdone j hj ▸ nofun)
    · exact congrArg some (List.mem_singleton.mp hj).symm
  · exact ⟨List.mem_append_left _ (h.started j hj).1, (h.started j hj).2⟩

/-- The one admitted job that has not been executed is the last. -/
theorem Shared.next {s : Control} (h : s.Shared) {job : Nat} (hadmitted : job ∈ s.admitted)
    (hpending : job ∉ s.executed) : s.executed ++ [job] = s.admitted := by
  rcases h.order with horder | ⟨j, hj, _⟩
  · exact absurd (horder ▸ hadmitted) hpending
  · rw [← hj] at hadmitted
    rcases List.mem_append.mp hadmitted with hmem | hmem
    · exact absurd hmem hpending
    · exact List.mem_singleton.mp hmem ▸ hj

theorem Shared.execute {s : Control} (h : s.Shared) {job : Nat} (hadmitted : job ∈ s.admitted)
    (hpending : job ∉ s.executed) (hstarted : job ∉ s.started) (device : Option Nat) :
    Shared { s with device := device, executed := s.executed ++ [job] } := by
  refine { h with
    order := .inl (h.next hadmitted hpending), fresh := fun j hj => ?_,
    started := fun j hj => ?_, ran := fun j hj => List.mem_append_left _ (h.ran j hj) }
  · exact h.fresh j fun hmem => hj (List.mem_append_left _ hmem)
  · refine ⟨(h.started j hj).1, fun hmem => ?_⟩
    rcases List.mem_append.mp hmem with hmem | hmem
    · exact (h.started j hj).2 hmem
    · exact hstarted (List.mem_singleton.mp hmem ▸ hj)

theorem Shared.judge {s : Control} (h : s.Shared) {busy : Bool} (hb : busy = s.occupied) :
    (s.judge busy).Shared := by
  refine { h with verdicts := fun v hv => ?_ }
  rcases List.mem_append.mp hv with hv | hv
  · exact h.verdicts v hv
  · exact List.mem_singleton.mp hv ▸ hb

/-- A move within the same hold of the lock and of the unit, for the same job. -/
theorem At.go {t : Nat} {s s' : Control} {p p' : Point} (ha : At t s p) (hlocks : p'.locks = p.locks)
    (howns : p'.owns = p.owns) (hlock : s'.lock = s.lock) (hdevice : s'.device = s.device)
    (hjob : ∀ j, p'.job = some j → j ∈ s'.made ∧ j ∉ s'.started) (hstage : s'.Stage p') :
    At t s' p' where
  locks := by rw [hlocks, hlock, ha.locks]
  owns := by rw [howns, hdevice, ha.owns]
  made := hjob
  stage := hstage

/-- **A thread's own move** leads from its assertion to the next. -/
theorem moves_own {t : Nat} {s s' : Control} {p p' : Point} (hm : Moves t s p s' p')
    (h : s.Shared) (ha : At t s p) : s'.Shared ∧ At t s' p' := by
  cases hm with
  | @callSubmit job hnew =>
    refine ⟨{ h with made := fun j hj => List.mem_cons_of_mem _ (h.made j hj) },
      ha.go rfl rfl rfl rfl (fun j hj => ?_) fun hj => hnew (h.made job hj)⟩
    cases hj
    exact ⟨List.mem_cons_self, fun hj => hnew (h.made job (h.started job hj).1)⟩
  | callCurrent => exact ⟨h, ha.go rfl rfl rfl rfl (fun _ => nofun) trivial⟩
  | submitLock hfree =>
    exact ⟨{ h with }, ⟨⟨fun _ => rfl, fun _ => rfl⟩, ha.owns, ha.made, ha.stage⟩⟩
  | submitRead => exact ⟨h, ha.go rfl rfl rfl rfl ha.made ⟨ha.stage, rfl⟩⟩
  | submitNone =>
    have hover : s.occupied = false := by rw [occupied, ha.stage.2]
    exact ⟨h.judge hover.symm, ha.go rfl rfl rfl rfl ha.made ⟨ha.stage.1, hover⟩⟩
  | submitOver hl =>
    have hover : s.occupied = false := by rw [occupied, ha.stage.2]; exact hl
    exact ⟨h.judge hover.symm, ha.go rfl rfl rfl rfl ha.made ⟨ha.stage.1, hover⟩⟩
  | submitLive hl =>
    have hbusy : s.occupied = true := by rw [occupied, ha.stage.2]; exact hl
    exact ⟨h.judge hbusy.symm, ha.go rfl rfl rfl rfl ha.made ha.stage.1⟩
  | submitBusy =>
    exact ⟨{ h with }, ⟨⟨nofun, nofun⟩, ha.owns, fun _ => nofun, trivial⟩⟩
  | @submitWrite job =>
    refine ⟨h.letIn (ha.made job rfl).1 ha.stage.1 ha.stage.2, ha.go rfl rfl rfl rfl ha.made ?_⟩
    refine ⟨List.mem_append_right _ List.mem_cons_self, fun hmem => ha.stage.1 ?_⟩
    rcases h.order with horder | ⟨j, horder, _⟩
    · exact horder ▸ hmem
    · exact horder ▸ List.mem_append_left _ hmem
  | submitExit =>
    exact ⟨{ h with }, ⟨⟨nofun, nofun⟩, ha.owns, ha.made, ha.stage⟩⟩
  | @submitStart job =>
    refine ⟨{ h with started := fun j hj => ?_, startedNodup := ?_ },
      ha.go rfl rfl rfl rfl (fun _ => nofun) trivial⟩
    · rcases List.mem_cons.mp hj with rfl | hj
      · exact ha.stage
      · exact h.started j hj
    · exact List.nodup_cons.mpr ⟨(ha.made job rfl).2, h.startedNodup⟩
  | @begin_ job hstarted =>
    have hj := h.started job hstarted
    refine ⟨{ h with
      started := fun j hj => h.started j (List.mem_of_mem_erase hj),
      startedNodup := h.startedNodup.erase job }, ha.go rfl rfl rfl rfl (fun j hj => ?_) hj⟩
    cases hj
    exact ⟨h.made job (h.started job hstarted).1, h.startedNodup.not_mem_erase⟩
  | @runDevice job hfree =>
    refine ⟨h.execute ha.stage.1 ha.stage.2 (ha.made job rfl).2 (some t),
      ⟨ha.locks, ⟨fun _ => rfl, fun _ => rfl⟩, ha.made, ?_⟩⟩
    exact ⟨List.mem_append_right _ List.mem_cons_self, fun hran => ha.stage.2 (h.ran job hran)⟩
  | opened => exact ⟨h, ha.go rfl rfl rfl rfl ha.made ha.stage⟩
  | openRaises => exact ⟨h, ha.go rfl rfl rfl rfl ha.made ha.stage.1⟩
  | traced => exact ⟨{ h with }, ha.go rfl rfl rfl rfl ha.made ⟨ha.stage, rfl⟩⟩
  | @connected job =>
    refine ⟨{ h with ran := fun j hj => ?_, ranNodup := ?_ },
      ha.go rfl rfl rfl rfl ha.made ⟨ha.stage.1.1, ha.stage.2⟩⟩
    · rcases List.mem_append.mp hj with hj | hj
      · exact h.ran j hj
      · exact List.mem_singleton.mp hj ▸ ha.stage.1.1
    · refine List.nodup_append.mpr ⟨h.ranNodup, List.pairwise_singleton _ job, fun a ha' b hb => ?_⟩
      rintro rfl
      exact ha.stage.1.2 (List.mem_singleton.mp hb ▸ ha')
  | connectRaises => exact ⟨h, ha.go rfl rfl rfl rfl ha.made ha.stage.1.1⟩
  | shows p hp hl => exact ⟨h.setPhase ha.stage.1 (.inr hl), ha.go rfl rfl rfl rfl ha.made ha.stage⟩
  | reports p hp =>
    exact ⟨h.setPhase ha.stage.1 (.inl hp), ha.go rfl rfl rfl rfl ha.made ha.stage⟩
  | returns | raises => exact ⟨h, ha.go rfl rfl rfl rfl ha.made ha.stage.1⟩
  | fails => exact ⟨h.setPhase ha.stage (.inl rfl), ha.go rfl rfl rfl rfl ha.made ha.stage⟩
  | handlerRaises => exact ⟨h, ha.go rfl rfl rfl rfl ha.made ha.stage⟩
  | untraced => exact ⟨{ h with }, ha.go rfl rfl rfl rfl ha.made ha.stage⟩
  | closeRaises | isOver => exact ⟨h, ha.go rfl rfl rfl rfl (fun _ => nofun) trivial⟩
  | silent => exact ⟨h, ha.go rfl rfl rfl rfl ha.made ha.stage⟩
  | unreported =>
    exact ⟨h.setPhase ha.stage (.inl rfl), ha.go rfl rfl rfl rfl (fun _ => nofun) trivial⟩
  | runExit | used =>
    exact ⟨{ h with }, ⟨ha.locks, ⟨nofun, nofun⟩, fun _ => nofun, trivial⟩⟩
  | currentLock hfree =>
    exact ⟨{ h with }, ⟨⟨fun _ => rfl, fun _ => rfl⟩, ha.owns, fun _ => nofun, trivial⟩⟩
  | currentRead => exact ⟨h, ha.go rfl rfl rfl rfl (fun _ => nofun) trivial⟩
  | @currentNone e =>
    refine ⟨{ h with }, ⟨?_, ?_, ?_, ?_⟩⟩
    · rw [e.onFree_locks]
      exact ⟨nofun, nofun⟩
    · rw [e.onFree_owns]
      exact ha.owns
    · rw [e.onFree_job]
      exact fun _ => nofun
    · cases e <;> trivial
  | currentExit => exact ⟨{ h with }, ⟨⟨nofun, nofun⟩, ha.owns, fun _ => nofun, trivial⟩⟩
  | @currentOver e =>
    refine ⟨h, ha.go e.onFree_locks e.onFree_owns rfl rfl ?_ ?_⟩
    · rw [e.onFree_job]
      exact fun _ => nofun
    · cases e <;> trivial
  | currentLive => exact ⟨h, ha.go rfl rfl rfl rfl (fun _ => nofun) trivial⟩
  | claimDevice hfree =>
    exact ⟨{ h with }, ⟨ha.locks, ⟨fun _ => rfl, fun _ => rfl⟩, fun _ => nofun, trivial⟩⟩
  | claimWaits | tendGivesUp => exact ⟨h, ha.go rfl rfl rfl rfl (fun _ => nofun) trivial⟩

theorem outline : Threads.Outline (fun t s p s' p' => Moves t s p s' p') Shared At Apart where
  symm _ _ h j hq hp := h j hp hq
  own hm hG hA := moves_own hm hG hA
  undisturbed hu hm _ hp hq hapart := hp.undisturbed hu hm hq hapart
  apart _ hm _ _ hq hapart := hq.apart hm hapart

theorem new_shared : Control.new.Shared where
  made _ := nofun
  nodup := .nil
  order := .inl rfl
  live _ := nofun
  fresh _ _ := rfl
  started _ := nofun
  startedNodup := .nil
  ran _ := nofun
  ranNodup := .nil
  verdicts _ := nofun

end Control

namespace Controller

open Control

/-- The outline holds of the controller. -/
abbrev Outlined (c : Controller) : Prop := Threads.Holds Shared At Apart c

theorem outlined {c : Controller} (h : Run Controller.new c) : c.Outlined := by
  refine Control.outline.reachable h ⟨Control.new_shared, fun t => ?_, fun _ _ _ _ => nofun⟩
  exact ⟨⟨nofun, nofun⟩, ⟨nofun, nofun⟩, fun _ => nofun, trivial⟩

/-! ## Every admitted job is carried to its worker -/

/-- The points from the admission of a job to its `_run_owned`. -/
def Carries (j : Nat) (p : Point) : Prop := p = .submitExit j ∨ p = .submitStart j ∨ p = .run j

/-- No admitted job is lost, and only so many threads are about something. -/
structure Carried (c : Controller) : Prop where
  pending : ∀ j ∈ c.shared.admitted, j ∉ c.shared.executed →
    j ∈ c.shared.started ∨ ∃ t, Carries j (c.at_ t)
  bounded : ∃ m, ∀ t, m ≤ t → c.at_ t = .idle

/-- A move leaves the job it carries with the started threads, or goes on carrying it, or has it
executed. -/
theorem moves_carries {t : Nat} {s s' : Control} {p p' : Point} (hm : Moves t s p s' p') {j : Nat}
    (hj : j ∉ s'.executed) (hc : Carries j p) : j ∈ s'.started ∨ Carries j p' := by
  rcases hc with rfl | rfl | rfl <;> cases hm
  · exact .inr (.inr (.inl rfl))
  · exact .inl List.mem_cons_self
  · exact absurd (List.mem_append_right _ List.mem_cons_self) hj

theorem moves_pending {t : Nat} {s s' : Control} {p p' : Point} (hm : Moves t s p s' p') {j : Nat} :
    (j ∈ s'.admitted → j ∈ s.admitted ∨ Carries j p') ∧ (j ∈ s.executed → j ∈ s'.executed) ∧
      (j ∈ s.started → j ∈ s'.started ∨ Carries j p') := by
  cases hm with
  | submitWrite =>
    refine ⟨fun hj => ?_, id, .inl⟩
    rcases List.mem_append.mp hj with hj | hj
    · exact .inl hj
    · exact .inr (.inl (List.mem_singleton.mp hj ▸ rfl))
  | submitStart => exact ⟨.inl, id, fun hj => .inl (List.mem_cons_of_mem _ hj)⟩
  | @begin_ job _ =>
    refine ⟨.inl, id, fun hj => ?_⟩
    by_cases he : j = job
    · exact .inr (.inr (.inr (he ▸ rfl)))
    · exact .inl ((List.mem_erase_of_ne he).mpr hj)
  | runDevice => exact ⟨.inl, fun hj => List.mem_append_left _ hj, .inl⟩
  | _ => exact ⟨.inl, id, .inl⟩

theorem Carried.step {c c' : Controller} (h : c.Carried)
    (hs : Threads.Step (fun t s p s' p' => Moves t s p s' p') c c') : c'.Carried := by
  obtain @⟨t, s, p, hm⟩ := hs
  obtain ⟨m, hm'⟩ := h.bounded
  refine ⟨fun j hj hpending => ?_, max m (t + 1), fun u hu => ?_⟩
  · obtain ⟨hadmitted, hexecuted, hstarted⟩ := moves_pending hm (j := j)
    have hhere : Carries j p → ∃ u, Carries j ((c.put t s p).at_ u) := fun hc =>
      ⟨t, by rw [Threads.put_at]; exact hc⟩
    rcases hadmitted hj with hj | hc
    · rcases h.pending j hj fun he => hpending (hexecuted he) with hs | ⟨u, hc⟩
      · exact (hstarted hs).imp_right hhere
      · by_cases hu : u = t
        · subst hu
          exact (moves_carries hm hpending hc).imp_right hhere
        · exact .inr ⟨u, by rw [Threads.put_other c hu]; exact hc⟩
    · exact .inr (hhere hc)
  · rw [Threads.put_other c (by omega)]
    exact hm' u (by omega)

theorem carried {c : Controller} (h : Run Controller.new c) : c.Carried := by
  induction h with
  | refl => exact ⟨fun _ => nofun, 0, fun _ _ => rfl⟩
  | tail _ hs ih => exact ih.step hs

/-- Nothing of the admitted jobs changes on the way to a state in which the unit is free, and only
thread `t` moves. -/
def Frees (t : Nat) (c : Controller) : Prop :=
  ∃ c', Run c c' ∧ c'.shared.device = none ∧ c'.shared.executed = c.shared.executed ∧
    ∀ u, u ≠ t → c'.at_ u = c.at_ u

theorem Frees.refl {t : Nat} {c : Controller} (h : c.shared.device = none) : Frees t c :=
  ⟨c, .refl, h, rfl, fun _ _ => rfl⟩

theorem Frees.step {t : Nat} {c : Controller} {s : Control} {p q : Point} (hq : c.at_ t = q)
    (hm : Moves t c.shared q s p) (hexecuted : s.executed = c.shared.executed)
    (h : Frees t (c.put t s p)) : Frees t c := by
  subst hq
  obtain ⟨c', hrun, hfree, hsame, hothers⟩ := h
  refine ⟨c', .head (.of hm) hrun, hfree, hsame.trans hexecuted, fun u hu => ?_⟩
  rw [hothers u hu, Threads.put_other c hu]

/-- A thread that has the unit can release it, whatever the others do. -/
theorem frees_of_owns {t : Nat} {c : Controller} (h : (c.at_ t).owns = true) : Frees t c := by
  have hexit : ∀ c : Controller, c.at_ t = .runExit → Frees t c := by
    intro c hp
    exact .step hp .runExit rfl (.refl rfl)
  have hclosing : ∀ (c : Controller) (j : Nat), c.at_ t = .closing j → Frees t c := by
    intro c j hp
    exact .step hp .closeRaises rfl (hexit _ (c.put_at ..))
  have hfinally : ∀ (c : Controller) (j : Nat), c.at_ t = .finally_ j → Frees t c := by
    intro c j hp
    exact .step hp .untraced rfl (hclosing _ j (c.put_at ..))
  have hhandler : ∀ (c : Controller) (j : Nat), c.at_ t = .handler j → Frees t c := by
    intro c j hp
    exact .step hp .fails rfl (hfinally _ j (c.put_at ..))
  have hconnecting : ∀ (c : Controller) (j : Nat), c.at_ t = .connecting j → Frees t c := by
    intro c j hp
    exact .step hp .connectRaises rfl (hhandler _ j (c.put_at ..))
  cases hp : c.at_ t with
  | opening j => exact .step hp .openRaises rfl (hhandler _ j (c.put_at ..))
  | tracing j => exact .step hp .traced rfl (hconnecting _ j (c.put_at ..))
  | connecting j => exact hconnecting c j hp
  | runner j => exact .step hp .returns rfl (hfinally _ j (c.put_at ..))
  | handler j => exact hhandler c j hp
  | finally_ j => exact hfinally c j hp
  | closing j => exact hclosing c j hp
  | unreported j => exact .step hp .unreported rfl (hexit _ (c.put_at ..))
  | runExit => exact hexit c hp
  | use e => exact .step hp .used rfl (.refl rfl)
  | _ =>
    rw [hp] at h
    cases h

/-- At `run`, a job can be executed. -/
theorem executes_run {c : Controller} (hc : c.Outlined) {t j : Nat} (hp : c.at_ t = .run j) :
    ∃ c', Run c c' ∧ c'.shared.executed = c.shared.executed ++ [j] := by
  have hfreed : ∃ c₁, Run c c₁ ∧ c₁.shared.device = none ∧
      c₁.shared.executed = c.shared.executed ∧ c₁.at_ t = .run j := by
    cases hd : c.shared.device with
    | none => exact ⟨c, .refl, hd, rfl, hp⟩
    | some u =>
      have howns := (hc.thread u).owns.mpr hd
      have hu : t ≠ u := by
        rintro rfl
        rw [hp] at howns
        cases howns
      obtain ⟨c₁, hrun, hfree, hsame, hothers⟩ := frees_of_owns howns
      exact ⟨c₁, hrun, hfree, hsame, (hothers t hu).trans hp⟩
  obtain ⟨c₁, hrun, hfree, hsame, hat⟩ := hfreed
  exact ⟨_, hrun.tail (.from_ hat (.runDevice hfree)), congrArg (· ++ [j]) hsame⟩

/-- A started job can be executed. -/
theorem executes_started {c : Controller} (hc : c.Outlined) (hcarried : c.Carried) {j : Nat}
    (hj : j ∈ c.shared.started) :
    ∃ c', Run c c' ∧ c'.shared.executed = c.shared.executed ++ [j] := by
  obtain ⟨m, hm⟩ := hcarried.bounded
  have hstep := Threads.Step.from_ (hm m (Nat.le_refl m)) (Moves.begin_ hj)
  obtain ⟨c', hrun, hexecuted⟩ := executes_run (Control.outline.step hstep hc) (c.put_at ..)
  exact ⟨c', .head hstep hrun, hexecuted⟩

/-- **No admitted job is lost**: from any reachable state, the pending one can be executed. -/
theorem executes {c : Controller} (hc : c.Outlined) (hcarried : c.Carried) :
    ∃ c', Run c c' ∧ c'.shared.executed = c.shared.admitted := by
  rcases hc.shared.order with horder | ⟨j, horder, _⟩
  · exact ⟨c, .refl, horder⟩
  have hadmitted : j ∈ c.shared.admitted := horder ▸ List.mem_append_right _ List.mem_cons_self
  have hpending : j ∉ c.shared.executed := fun hj =>
    (List.nodup_append.mp (horder ▸ hc.shared.nodup)).2.2 j hj j (List.mem_singleton_self j) rfl
  have hstart : ∀ (c : Controller) (t : Nat), c.Outlined → c.Carried → c.at_ t = .submitStart j →
      ∃ c', Run c c' ∧ c'.shared.executed = c.shared.executed ++ [j] := by
    intro c t hc hcarried hp
    have hstep := Threads.Step.from_ hp Moves.submitStart
    obtain ⟨c', hrun, hexecuted⟩ := executes_started (Control.outline.step hstep hc)
      (hcarried.step hstep) List.mem_cons_self
    exact ⟨c', .head hstep hrun, hexecuted⟩
  rw [← horder]
  rcases hcarried.pending j hadmitted hpending with hj | ⟨t, hp | hp | hp⟩
  · exact executes_started hc hcarried hj
  · have hstep := Threads.Step.from_ hp Moves.submitExit
    obtain ⟨c', hrun, hexecuted⟩ := hstart _ t (Control.outline.step hstep hc)
      (hcarried.step hstep) (c.put_at ..)
    exact ⟨c', .head hstep hrun, hexecuted⟩
  · exact hstart c t hc hcarried hp
  · exact executes_run hc hp

/-- What is promised of the controller in every state it can reach. -/
structure Orderly (c : Controller) : Prop where
  /-- One thread at a time has the unit. -/
  oneOwner : ∀ t u, (c.at_ t).owns = true → (c.at_ u).owns = true → t = u
  /-- One admitted job at a time is live. -/
  oneLive : ∀ i ∈ c.shared.admitted, ∀ j ∈ c.shared.admitted,
    c.shared.live i = true → c.shared.live j = true → i = j
  /-- Each `submit` raised `Busy` just when the job in `_current` was live. -/
  busy : ∀ v ∈ c.shared.verdicts, v.1 = v.2
  admittedOnce : c.shared.admitted.Nodup
  /-- No job is executed twice, or before one that was admitted earlier. -/
  inOrder : c.shared.executed <+: c.shared.admitted
  /-- Whatever has happened, what is admitted can still be executed. -/
  canExecute : ∃ c', Run c c' ∧ c'.shared.executed = c.shared.admitted
  /-- Once no thread has anything left to do, it has been. -/
  noneLost : (∀ t, c.at_ t = .idle) → c.shared.started = [] →
    c.shared.executed = c.shared.admitted
  ranOnce : c.shared.ran.Nodup
  ranExecuted : ∀ j ∈ c.shared.ran, j ∈ c.shared.executed
  /-- Under a runner, the trace is its own job's. -/
  ownTrace : ∀ t j, c.at_ t = .runner j → c.shared.trace = some j

/-- **One job at a time, and none lost**, in every interleaving of any number of threads. -/
theorem run_orderly {c : Controller} (h : Run Controller.new c) : c.Orderly where
  oneOwner t u ht hu := by
    have hc := outlined h
    rw [(hc.thread t).owns] at ht
    rw [(hc.thread u).owns, ht] at hu
    exact Option.some.inj hu
  oneLive i hi j hj hli hlj := by
    have hc := (outlined h).shared
    have hcurrent := hc.live i hi hli
    rw [hc.live j hj hlj] at hcurrent
    exact (Option.some.inj hcurrent).symm
  busy := (outlined h).shared.verdicts
  admittedOnce := (outlined h).shared.nodup
  inOrder := by
    rcases (outlined h).shared.order with horder | ⟨j, horder, _⟩
    · exact horder ▸ List.prefix_refl _
    · exact ⟨[j], horder⟩
  canExecute := executes (outlined h) (carried h)
  noneLost hidle hstarted := by
    refine (outlined h).shared.order.resolve_right ?_
    rintro ⟨j, horder, _⟩
    have hpending : j ∉ c.shared.executed := fun hj =>
      (List.nodup_append.mp (horder ▸ (outlined h).shared.nodup)).2.2 j hj j
        (List.mem_singleton_self j) rfl
    rcases (carried h).pending j (horder ▸ List.mem_append_right _ List.mem_cons_self) hpending
      with hj | ⟨t, hj⟩
    · rw [hstarted] at hj
      cases hj
    · rw [hidle t] at hj
      rcases hj with hj | hj | hj <;> cases hj
  ranOnce := (outlined h).shared.ranNodup
  ranExecuted := (outlined h).shared.ran
  ownTrace t j hp := by
    have hstage := ((outlined h).thread t).stage
    rw [hp] at hstage
    exact hstage.2

/-- The second job is admitted while the first one's thread is still cleaning up. -/
theorem run_orderly_overlap : ∃ c, Run Controller.new c ∧ c.at_ 1 = .finally_ 0 ∧
    c.at_ 2 = .run 1 ∧ c.shared.device = some 1 ∧ c.shared.admitted = [0, 1] ∧ c.Orderly := by
  have hrun := (Relation.ReflTransGen.refl : Run Controller.new Controller.new)
    |>.tail (.from_ (t := 0) rfl (.callSubmit (show 0 ∉ _ from nofun)))
    |>.tail (.from_ (t := 0) rfl (.submitLock rfl))
    |>.tail (.from_ (t := 0) rfl .submitRead)
    |>.tail (.from_ (t := 0) rfl .submitNone)
    |>.tail (.from_ (t := 0) rfl .submitWrite)
    |>.tail (.from_ (t := 0) rfl .submitExit)
    |>.tail (.from_ (t := 0) rfl .submitStart)
    |>.tail (.from_ (t := 1) rfl (.begin_ (show 0 ∈ _ from .head _)))
    |>.tail (.from_ (t := 1) rfl (.runDevice rfl))
    |>.tail (.from_ (t := 1) rfl .opened)
    |>.tail (.from_ (t := 1) rfl .traced)
    |>.tail (.from_ (t := 1) rfl .connected)
    |>.tail (.from_ (t := 1) rfl (.reports .done rfl))
    |>.tail (.from_ (t := 1) rfl .returns)
    |>.tail (.from_ (t := 0) rfl (.callSubmit (show 1 ∉ _ by decide)))
    |>.tail (.from_ (t := 0) rfl (.submitLock rfl))
    |>.tail (.from_ (t := 0) rfl .submitRead)
    |>.tail (.from_ (t := 0) rfl (.submitOver rfl))
    |>.tail (.from_ (t := 0) rfl .submitWrite)
    |>.tail (.from_ (t := 0) rfl .submitExit)
    |>.tail (.from_ (t := 0) rfl .submitStart)
    |>.tail (.from_ (t := 2) rfl (.begin_ (show 1 ∈ _ from .head _)))
  exact ⟨_, hrun, rfl, rfl, rfl, rfl, run_orderly hrun⟩

end Controller

end StakkaWeb
