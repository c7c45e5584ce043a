import StakkaWeb.Laws.Controller
import StakkaWeb.Registry

/-!
# Finding the job that the site redirects to

The registry keeps the most recently added jobs, and its index and its order name the same ones. A
job is added in the order in which it was let in, since only its own thread ends it and that one is
started after it was added. So the live job is the last one added, but for the moment between the
write of `_current` and the `add`: what `submit` raises or `current` returns then is not found.
-/

set_option autoImplicit false

namespace StakkaWeb

open Lib

/-! ## The registry by itself -/

namespace Registry

/-- The oldest go, one by one, and with them their entries. -/
theorem trim_eq (keep : Nat) (order : List Nat) (jobs : Nat → Option Nat) :
    trim keep order jobs = (order.drop (order.length - keep),
      fun i => if i ∈ order.take (order.length - keep) then none else jobs i) := by
  induction order generalizing jobs with
  | nil =>
    unfold trim
    simp
  | cons id order ih =>
    unfold trim
    rw [List.length_cons]
    by_cases hlong : keep < order.length + 1
    · have hlen : order.length + 1 - keep = (order.length - keep) + 1 := by omega
      rw [if_pos hlong, ih, hlen, List.drop_succ_cons, List.take_succ_cons]
      refine congrArg (Prod.mk _) (funext fun i => ?_)
      by_cases hi : i = id
      · rw [hi, Function.update_self, if_pos List.mem_cons_self, ite_self]
      · rw [Function.update_of_ne hi]
        simp only [List.mem_cons, hi, false_or]
    · have hlen : order.length + 1 - keep = 0 := by omega
      rw [if_neg hlong, hlen, List.drop_zero, List.take_zero]
      simp

/-- The registry holds the last `keep` ids that were added, each for its own job. -/
structure Sound (keep : Nat) (r : Registry) : Prop where
  limit : r.keep = keep
  order : r.order = r.added.drop (r.added.length - keep)
  jobs : ∀ i, r.get i = if i ∈ r.order then some i else none

theorem new_sound (keep : Nat) : Sound keep (new keep) := ⟨rfl, List.drop_nil.symm, fun _ => rfl⟩

theorem Sound.add {keep : Nat} {r : Registry} (h : r.Sound keep) {job : Nat}
    (hnodup : (r.added ++ [job]).Nodup) : (r.add job).Sound keep := by
  obtain ⟨hkeep, horder, hjobs⟩ := h
  have htrim := trim_eq r.keep (r.order ++ [job]) (Function.update r.jobs job (some job))
  have hrow : r.order ++ [job] = (r.added ++ [job]).drop (r.added.length - keep) := by
    rw [horder, List.drop_append_of_le_length (Nat.sub_le _ _)]
  refine ⟨hkeep, ?_, fun i => ?_⟩
  · show (trim r.keep (r.order ++ [job]) _).1 =
      (r.added ++ [job]).drop ((r.added ++ [job]).length - keep)
    rw [htrim, hkeep]
    dsimp only
    rw [hrow, List.drop_drop, List.length_drop, List.length_append, List.length_singleton]
    exact congrArg (fun k => (r.added ++ [job]).drop k) (by omega)
  · show (trim r.keep (r.order ++ [job]) _).2 i = if i ∈ (trim r.keep (r.order ++ [job]) _).1 then _ else _
    rw [htrim]
    dsimp only
    have hnodup' : (r.order ++ [job]).Nodup := hrow ▸ hnodup.sublist (List.drop_sublist _ _)
    rw [← List.take_append_drop ((r.order ++ [job]).length - r.keep) (r.order ++ [job]),
      List.nodup_append] at hnodup'
    obtain ⟨-, -, hapart⟩ := hnodup'
    have hsplit : ∀ i, i ∈ r.order ++ [job] ↔
        i ∈ (r.order ++ [job]).take ((r.order ++ [job]).length - r.keep) ∨
          i ∈ (r.order ++ [job]).drop ((r.order ++ [job]).length - r.keep) := by
      intro i
      rw [← List.mem_append, List.take_append_drop]
    have hindex : Function.update r.jobs job (some job) i =
        if i ∈ r.order ++ [job] then some i else none := by
      by_cases hi : i = job
      · rw [hi, Function.update_self, if_pos (List.mem_append_right _ (List.mem_singleton_self _))]
      · rw [Function.update_of_ne hi]
        simp only [List.mem_append, List.mem_singleton, hi, or_false]
        exact hjobs i
    rw [hindex]
    by_cases hout : i ∈ (r.order ++ [job]).take ((r.order ++ [job]).length - r.keep)
    · rw [if_pos hout, if_neg fun hin => hapart i hout i hin rfl]
    · rw [if_neg hout]
      simp only [hsplit, hout, false_or]

end Registry

/-! ## The site -/

namespace Point

/-- The job that is in `_current` and not yet added. -/
def adding : Point → Option Nat
  | submitExit job | submitStart job => some job
  | _ => none

/-- The job that was read from `_current`. -/
def held : Point → Option Nat
  | submitDone _ held | currentExit _ held => held
  | currentDone _ job => some job
  | _ => none

end Point

namespace Errand

@[simp] theorem onFree_adding (e : Errand) : e.onFree.adding = none := by
  cases e <;> rfl

@[simp] theorem onFree_held (e : Errand) : e.onFree.held = none := by
  cases e <;> rfl

end Errand

namespace Control

/-- What a move does to the jobs let in: `submit` writes one, and no other move notices. -/
theorem moves_admits {t : Nat} {s s' : Control} {p p' : Point} (hm : Moves t s p s' p')
    (hp : ∀ job, p ≠ .submitStart job) :
    (s'.admitted = s.admitted ∧ s'.current = s.current ∧ p'.adding = p.adding) ∨
      ∃ job, p = .submitWrite job ∧ p' = .submitExit job ∧ s'.admitted = s.admitted ++ [job] ∧
        s'.current = some job := by
  cases hm with
  | submitWrite => exact .inr ⟨_, rfl, rfl, rfl, rfl⟩
  | @submitStart job => exact absurd rfl (hp job)
  | @currentNone e | @currentOver e => exact .inl ⟨rfl, rfl, e.onFree_adding⟩
  | _ => exact .inl ⟨rfl, rfl, rfl⟩

/-- A job that a thread has read was in `_current`. -/
theorem moves_held {t : Nat} {s s' : Control} {p p' : Point} (hm : Moves t s p s' p') {job : Nat}
    (hj : p'.held = some job) : p.held = some job ∨ s.current = some job := by
  cases hm with
  | submitRead | currentRead => exact .inr hj
  | @currentNone e | @currentOver e => exact absurd hj (e.onFree_held ▸ nofun)
  | _ => first | exact .inl hj | cases hj

end Control

namespace Service

/-- Where the thread is in the controller's code, for which the two steps of `submit` are one. -/
def Spot.point : Spot → Point
  | .at_ p => p
  | .starting job => .submitStart job

/-- The job of `submit` that is in `_current` and not in the registry. -/
def Spot.adding : Spot → Option Nat
  | .at_ p => p.adding
  | .starting _ => none

namespace System

/-- The controller of the site. -/
def controller (c : System) : Controller := ⟨c.shared.control, fun t => (c.at_ t).point⟩

theorem controller_put (c : System) (t : Nat) (s : Service) (p : Spot) :
    controller (c.put t s p) = (controller c).put t s.control p.point := by
  refine congrArg (Threads.mk s.control) (funext fun u => ?_)
  show ((c.put t s p).at_ u).point = ((controller c).put t s.control p.point).at_ u
  by_cases hu : u = t
  · rw [hu, Threads.put_at, Threads.put_at]
  · rw [Threads.put_other c hu, Threads.put_other _ hu]
    rfl

/-- A thread that is where it was. -/
theorem put_same (c : Controller) (t : Nat) : c.put t c.shared (c.at_ t) = c := by
  unfold Threads.put
  rw [Function.update_eq_self]

/-- **The site does what its controller does.** -/
theorem controller_run {keep : Nat} {c : System} (h : Run (new keep) c) :
    Controller.Run Controller.new (controller c) := by
  induction h with
  | refl => exact .refl
  | @tail d _ _ hs ih =>
    obtain @⟨t, s, p, hm⟩ := hs
    rw [controller_put]
    have hat : (controller d).at_ t = (d.at_ t).point := rfl
    generalize hq : d.at_ t = q at hm
    cases hm with
    | control h hp =>
      refine ih.tail (.from_ ?_ h)
      rw [hat, hq]
      rfl
    | @add job =>
      have hsame : (controller d).put t d.shared.control (.submitStart job) = controller d := by
        have := put_same (controller d) t
        rwa [hat, hq] at this
      exact (congrArg (Controller.Run _) hsame).mpr ih
    | start =>
      refine ih.tail (.from_ ?_ .submitStart)
      rw [hat, hq]
      rfl
    | get jobId =>
      have hsame : (controller d).put t d.shared.control .idle = controller d := by
        have := put_same (controller d) t
        rwa [hat, hq] at this
      exact (congrArg (Controller.Run _) hsame).mpr ih

/-- The registry holds the jobs let in, but for the one that a thread is about to add. -/
structure Listed (keep : Nat) (c : System) : Prop where
  sound : c.shared.registry.Sound keep
  current : c.shared.control.current = c.shared.control.admitted.getLast?
  added : c.shared.control.admitted = c.shared.registry.added ∨ ∃ t job,
    (c.at_ t).adding = some job ∧ c.shared.control.admitted = c.shared.registry.added ++ [job]
  pending : ∀ t job, (c.at_ t).adding = some job → job ∉ c.shared.registry.added
  looked : ∀ t job, (c.at_ t).point.held = some job → job ∈ c.shared.control.admitted

theorem adding_job {q : Spot} {job : Nat} (h : q.adding = some job) : q.point.job = some job := by
  cases q with
  | at_ p => cases p <;> first | exact h | cases h
  | starting j => cases h

/-- A job that is about to be added has not been executed, so that it is live. -/
theorem live_adding {c : System} (ho : (controller c).Outlined) {t job : Nat}
    (h : (c.at_ t).adding = some job) :
    job ∈ c.shared.control.admitted ∧ c.shared.control.live job = true := by
  have hstage := (ho.thread t).stage
  have hat : (controller c).at_ t = (c.at_ t).point := rfl
  rw [hat] at hstage
  have hboth : job ∈ c.shared.control.admitted ∧ job ∉ c.shared.control.executed := by
    generalize c.at_ t = q at h hstage
    cases q with
    | at_ p =>
      cases p with
      | submitExit j | submitStart j =>
        cases h
        exact hstage
      | _ => cases h
    | starting j => cases h
  exact ⟨hboth.1, ho.shared.fresh job hboth.2⟩

namespace Listed

variable {keep : Nat} {c : System} (h : Listed keep c)
include h

/-- While a job is about to be added no other is let in. -/
theorem quiet (ho : (controller c).Outlined) (hfree : c.shared.control.occupied = false) :
    c.shared.control.admitted = c.shared.registry.added := by
  refine h.added.resolve_right ?_
  rintro ⟨t, job, hadding, hadmitted⟩
  have hcurrent : c.shared.control.current = some job := by
    rw [h.current, hadmitted, List.getLast?_append, List.getLast?_singleton]
    rfl
  have hover := Control.occupied_eq_false.mp hfree job hcurrent
  rw [(live_adding ho hadding).2] at hover
  cases hover

theorem control (ho : (controller c).Outlined) {t : Nat} {p p' : Point} {s : Control}
    (hq : c.at_ t = .at_ p) (hm : Control.Moves t c.shared.control p s p')
    (hp : ∀ job, p ≠ .submitStart job) :
    Listed keep (c.put t { c.shared with control := s } (.at_ p')) := by
  have hother : ∀ {u : Nat}, u ≠ t → (c.put t { c.shared with control := s } (.at_ p')).at_ u = c.at_ u :=
    fun hu => Threads.put_other c hu _ _
  have hself : (c.put t { c.shared with control := s } (.at_ p')).at_ t = .at_ p' :=
    Threads.put_at ..
  have hlooked : ∀ u job, ((c.put t { c.shared with control := s } (.at_ p')).at_ u).point.held =
      some job → job ∈ c.shared.control.admitted := by
    intro u job hu
    by_cases hut : u = t
    · rw [hut, hself] at hu
      rcases Control.moves_held hm hu with hheld | hcurrent
      · exact h.looked t job (by rw [hq]; exact hheld)
      · rw [h.current] at hcurrent
        exact List.mem_of_getLast? hcurrent
    · rw [hother hut] at hu
      exact h.looked u job hu
  rcases Control.moves_admits hm hp with ⟨hadmitted, hcurrent, hadding⟩ |
    ⟨job, rfl, rfl, hadmitted, hcurrent⟩
  · have hsame : ∀ u, ((c.put t { c.shared with control := s } (.at_ p')).at_ u).adding =
        (c.at_ u).adding := by
      intro u
      by_cases hut : u = t
      · rw [hut, hself, hq]
        exact hadding
      · rw [hother hut]
    refine ⟨h.sound, ?_, ?_, fun u job hu => h.pending u job (hsame u ▸ hu), fun u job hu => ?_⟩
    · exact hcurrent.trans (h.current.trans (congrArg _ hadmitted.symm))
    · refine h.added.imp hadmitted.trans ?_
      rintro ⟨u, job, hu, hjob⟩
      exact ⟨u, job, (hsame u).trans hu, hadmitted.trans hjob⟩
    · exact hadmitted ▸ hlooked u job hu
  · have hstage := (ho.thread t).stage
    rw [show (controller c).at_ t = .submitWrite job by
      show (c.at_ t).point = _
      rw [hq]
      rfl] at hstage
    have hquiet := h.quiet ho hstage.2
    refine ⟨h.sound, ?_, .inr ⟨t, job, ?_, ?_⟩, fun u j hu => ?_, fun u j hu => ?_⟩
    · show s.current = s.admitted.getLast?
      rw [hcurrent, hadmitted, List.getLast?_append, List.getLast?_singleton]
      rfl
    · rw [hself]
      rfl
    · exact hadmitted.trans (congrArg (· ++ [job]) hquiet)
    · by_cases hut : u = t
      · rw [hut, hself] at hu
        cases hu
        exact fun hmem => hstage.1 (hquiet ▸ hmem)
      · rw [hother hut] at hu
        exact h.pending u j hu
    · show j ∈ s.admitted
      rw [hadmitted]
      exact List.mem_append_left _ (hlooked u j hu)

theorem add (ho : (controller c).Outlined) {t job : Nat} (hq : c.at_ t = .at_ (.submitStart job)) :
    Listed keep (c.put t { c.shared with registry := c.shared.registry.add job } (.starting job)) := by
  have hother : ∀ {u : Nat}, u ≠ t → (c.put t { c.shared with registry := c.shared.registry.add job }
      (.starting job)).at_ u = c.at_ u := fun hu => Threads.put_other c hu _ _
  have hself : (c.put t { c.shared with registry := c.shared.registry.add job } (.starting job)).at_ t =
      .starting job := Threads.put_at ..
  have hadding : (c.at_ t).adding = some job := by
    rw [hq]
    rfl
  have hnew := h.pending t job hadding
  have hin := (live_adding ho hadding).1
  have hlast : c.shared.control.admitted = c.shared.registry.added ++ [job] := by
    rcases h.added with hsame | ⟨u, j, -, hadmitted⟩
    · exact absurd (hsame ▸ hin) hnew
    · rw [hadmitted] at hin
      rcases List.mem_append.mp hin with hin | hin
      · exact absurd hin hnew
      · rw [List.mem_singleton.mp hin]
        exact hadmitted
  refine ⟨h.sound.add (hlast ▸ ho.shared.nodup), h.current, .inl hlast, fun u j hu => ?_,
    fun u j hu => ?_⟩
  · by_cases hut : u = t
    · rw [hut, hself] at hu
      cases hu
    · rw [hother hut] at hu
      intro hmem
      rcases List.mem_append.mp hmem with hmem | hmem
      · exact h.pending u j hu hmem
      · -- two threads are not about the same job
        cases List.mem_singleton.mp hmem
        exact ho.pairs u t hut job (adding_job hu) (adding_job hadding)
  · by_cases hut : u = t
    · rw [hut, hself] at hu
      cases hu
    · rw [hother hut] at hu
      exact h.looked u j hu

/-- A thread that has nothing to add before or after, and has read nothing. -/
theorem idle {t : Nat} {s : Service} (hregistry : s.registry = c.shared.registry)
    (hadmitted : s.control.admitted = c.shared.control.admitted)
    (hcurrent : s.control.current = c.shared.control.current) (hnone : (c.at_ t).adding = none) :
    Listed keep (c.put t s (.at_ .idle)) := by
  have hself : (c.put t s (.at_ .idle)).at_ t = .at_ .idle := Threads.put_at ..
  have hsame : ∀ u, ((c.put t s (.at_ .idle)).at_ u).adding = (c.at_ u).adding := by
    intro u
    by_cases hut : u = t
    · rw [hut, hself, hnone]
      rfl
    · rw [Threads.put_other c hut]
  refine ⟨hregistry ▸ h.sound, ?_, ?_, fun u job hu => ?_, fun u job hu => ?_⟩
  · exact hcurrent.trans (h.current.trans (congrArg _ hadmitted.symm))
  · show s.control.admitted = s.registry.added ∨ _
    rw [hregistry, hadmitted]
    refine h.added.imp_right ?_
    rintro ⟨u, job, hu, hjob⟩
    exact ⟨u, job, (hsame u).trans hu, by rw [Threads.put_shared, hadmitted, hregistry]; exact hjob⟩
  · rw [Threads.put_shared, hregistry]
    exact h.pending u job (hsame u ▸ hu)
  · rw [Threads.put_shared, hadmitted]
    by_cases hut : u = t
    · rw [hut, hself] at hu
      cases hu
    · rw [Threads.put_other c hut] at hu
      exact h.looked u job hu

end Listed

/-- The registry is as it should be in every reachable state. -/
theorem listed {keep : Nat} {c : System} (h : Run (new keep) c) : Listed keep c := by
  induction h with
  | refl => exact ⟨Registry.new_sound keep, rfl, .inl rfl, fun _ _ => nofun, fun _ _ => nofun⟩
  | @tail d _ hrun hs ih =>
    obtain @⟨t, s, p, hm⟩ := hs
    have ho := Controller.outlined (controller_run hrun)
    generalize hq : d.at_ t = q at hm
    cases hm with
    | control h hp => exact ih.control ho hq h hp
    | add => exact ih.add ho hq
    | start => exact ih.idle rfl rfl rfl (by rw [hq]; rfl)
    | get jobId => exact ih.idle rfl rfl rfl (by rw [hq]; rfl)

/-- `submit` is about to raise `Busy` with the job, or `current` to return it. -/
def Shows (c : System) (t job : Nat) : Prop :=
  ((∃ own, c.at_ t = .at_ (.submitDone own (some job))) ∨
    ∃ errand, c.at_ t = .at_ (.currentDone errand job)) ∧ c.shared.control.live job = true

/-- At most `keep` jobs, the last ones added, in the order and in the index. -/
structure Recent (keep : Nat) (r : Registry) : Prop where
  few : r.order.length ≤ keep
  same : ∀ id, id ∈ r.order ↔ r.get id ≠ none
  last : r.order = r.added.drop (r.added.length - keep)

theorem recent {keep : Nat} {r : Registry} (h : r.Sound keep) : Recent keep r where
  few := by
    rw [h.order, List.length_drop]
    omega
  same id := by
    rw [h.jobs]
    by_cases hid : id ∈ r.order
    · rw [if_pos hid]
      exact iff_of_true hid nofun
    · rw [if_neg hid]
      exact iff_of_false hid (fun hne => hne rfl)
  last := h.order

/-- **A job that is shown can be found, if and only if no thread is about to add it**; and the
registry always holds the jobs last added. -/
theorem findable {keep : Nat} (hkeep : 1 ≤ keep) {c : System} (h : Run (new keep) c) :
    Recent keep c.shared.registry ∧ ∀ t job, c.Shows t job →
      (c.shared.registry.get job = some job ↔ ∀ u, (c.at_ u).adding ≠ some job) := by
  have hl := listed h
  have ho := Controller.outlined (controller_run h)
  refine ⟨recent hl.sound, fun t job hshows => ?_⟩
  have hheld : (c.at_ t).point.held = some job := by
    rcases hshows.1 with ⟨own, hat⟩ | ⟨errand, hat⟩ <;> rw [hat] <;> rfl
  have hcurrent := ho.shared.live job (hl.looked t job hheld) hshows.2
  have hlast : c.shared.control.admitted.getLast? = some job := hl.current.symm.trans hcurrent
  rw [hl.sound.jobs]
  constructor
  · intro hfound u hu
    refine hl.pending u job hu ?_
    split at hfound
    next hin =>
      rw [hl.sound.order] at hin
      exact List.mem_of_mem_drop hin
    next => cases hfound
  · intro hnobody
    have hadmitted := hl.added.resolve_right fun ⟨u, j, hu, hj⟩ => by
      rw [hj, List.getLast?_append, List.getLast?_singleton] at hlast
      exact hnobody u (hu.trans hlast)
    refine if_pos ?_
    rw [hadmitted] at hlast
    obtain ⟨front, hfront⟩ := List.getLast?_eq_some_iff.mp hlast
    rw [hl.sound.order, hfront, List.drop_append_of_le_length (by
      rw [List.length_append, List.length_singleton]
      omega)]
    exact List.mem_append_right _ (List.mem_singleton_self job)

/-- A job was written to `_current` and not yet added when another `submit` raises `Busy` with it. -/
theorem not_findable : ¬ ∀ (keep : Nat) (c : System), 1 ≤ keep → Run (new keep) c →
    ∀ t job, c.Shows t job → c.shared.registry.get job = some job := by
  intro h
  have hrun := (Relation.ReflTransGen.refl : Run (new 40) (new 40))
    |>.tail (.from_ (t := 0) rfl (.control (.callSubmit (show 0 ∉ _ from nofun)) nofun))
    |>.tail (.from_ (t := 0) rfl (.control (.submitLock rfl) nofun))
    |>.tail (.from_ (t := 0) rfl (.control .submitRead nofun))
    |>.tail (.from_ (t := 0) rfl (.control .submitNone nofun))
    |>.tail (.from_ (t := 0) rfl (.control .submitWrite nofun))
    |>.tail (.from_ (t := 0) rfl (.control .submitExit nofun))
    |>.tail (.from_ (t := 1) rfl (.control (.callSubmit (show 1 ∉ _ by decide)) nofun))
    |>.tail (.from_ (t := 1) rfl (.control (.submitLock rfl) nofun))
    |>.tail (.from_ (t := 1) rfl (.control .submitRead nofun))
  have hfound := h 40 _ (by decide) hrun 1 0 ⟨.inl ⟨1, rfl⟩, rfl⟩
  cases hfound

/-- The same two calls, when the first one has added its job. -/
theorem findable_added : ∃ c, Run (new 40) c ∧ c.Shows 1 0 ∧
    (Recent 40 c.shared.registry ∧ ∀ t job, c.Shows t job →
      (c.shared.registry.get job = some job ↔ ∀ u, (c.at_ u).adding ≠ some job)) := by
  have hrun := (Relation.ReflTransGen.refl : Run (new 40) (new 40))
    |>.tail (.from_ (t := 0) rfl (.control (.callSubmit (show 0 ∉ _ from nofun)) nofun))
    |>.tail (.from_ (t := 0) rfl (.control (.submitLock rfl) nofun))
    |>.tail (.from_ (t := 0) rfl (.control .submitRead nofun))
    |>.tail (.from_ (t := 0) rfl (.control .submitNone nofun))
    |>.tail (.from_ (t := 0) rfl (.control .submitWrite nofun))
    |>.tail (.from_ (t := 0) rfl (.control .submitExit nofun))
    |>.tail (.from_ (t := 0) rfl .add)
    |>.tail (.from_ (t := 1) rfl (.control (.callSubmit (show 1 ∉ _ by decide)) nofun))
    |>.tail (.from_ (t := 1) rfl (.control (.submitLock rfl) nofun))
    |>.tail (.from_ (t := 1) rfl (.control .submitRead nofun))
  exact ⟨_, hrun, ⟨.inl ⟨1, rfl⟩, rfl⟩, findable (by decide) hrun⟩

end System

end Service

end StakkaWeb
