import StakkaWeb.Readings
import StakkaWeb.Puppet
import StakkaWeb.Laws.Kept

/-!
# What status words are read from

`wait_state` drops a reply that carries no status; `status` takes any reply to its request. So what
is decided on is founded, and what is reported attested, exactly when every reply to a `status`
carries status.
-/

set_option autoImplicit false

namespace StakkaWeb

open Lib Lib.Prog

/-! ## What is founded -/

section Founded

variable {σ : Type}

theorem foundedOver_append (base l₁ l₂ : List Obs) :
    FoundedOver base (l₂ ++ l₁) ↔ FoundedOver (l₁ ++ base) l₂ ∧ FoundedOver base l₁ := by
  induction l₂ with
  | nil => simp [FoundedOver]
  | cons o l₂ ih => cases o <;> simp [FoundedOver, ih, and_assoc]

theorem FoundedSince.refl (w : World σ) : FoundedSince w w := ⟨[], rfl, trivial⟩

/-- What goes on from a state adds to what was noted. -/
theorem foundedSince_trans {w w' w'' : World σ} (h : w.obs <:+ w'.obs) (h' : w'.obs <:+ w''.obs) :
    FoundedSince w w'' ↔ FoundedSince w w' ∧ FoundedSince w' w'' := by
  obtain ⟨l₁, h₁⟩ := h
  obtain ⟨l₂, h₂⟩ := h'
  have hall : w''.obs = (l₂ ++ l₁) ++ w.obs := by rw [List.append_assoc, h₁, h₂]
  constructor
  · rintro ⟨l, hl, hf⟩
    obtain rfl := List.append_cancel_right (hl.symm.trans hall)
    have hf := (foundedOver_append _ _ _).mp hf
    exact ⟨⟨l₁, h₁.symm, hf.2⟩, l₂, h₂.symm, h₁ ▸ hf.1⟩
  · rintro ⟨⟨k₁, hk₁, hf₁⟩, k₂, hk₂, hf₂⟩
    refine ⟨k₂ ++ k₁, by rw [hk₂, hk₁, List.append_assoc], ?_⟩
    exact (foundedOver_append _ _ _).mpr ⟨hk₁ ▸ hf₂, hf₁⟩

theorem FoundedSince.grows {w w' : World σ} (h : FoundedSince w w') : w.obs <:+ w'.obs := by
  obtain ⟨l, hl, _⟩ := h
  exact ⟨l, hl.symm⟩

theorem FoundedSince.same_obs {w w' w'' : World σ} (h : FoundedSince w w') (he : w''.obs = w'.obs) :
    FoundedSince w w'' := by
  obtain ⟨l, hl, hf⟩ := h
  exact ⟨l, he.trans hl, hf⟩

theorem Attested.imp {base obs : List Obs} {shows shows' : Nat → Prop} (h : Attested base obs shows)
    (hs : ∀ st, shows st → shows' st) : Attested base obs shows' := by
  obtain ⟨p, earlier, hobs, hp, hshows⟩ := h
  exact ⟨p, earlier, hobs, hp, hs _ hshows⟩

end Founded

variable {σ : Type} [Outside σ]

/-! ## Replies -/

/-- The latest thing noted, in a state of `I`, is the reply `p`. -/
def Heard (I : World σ → Prop) (cmd : Nat) (p : Packet) (w : World σ) : Prop :=
  ∃ w₁, I w₁ ∧ w.obs = .answered cmd p :: w₁.obs

omit [Outside σ] in
theorem Heard.imp {I J : World σ → Prop} {cmd : Nat} {p : Packet} {w : World σ} (h : Heard I cmd p w)
    (hI : ∀ w₁, I w₁ → J w₁) : Heard J cmd p w := by
  obtain ⟨w₁, hw₁, hobs⟩ := h
  exact ⟨w₁, hI w₁ hw₁, hobs⟩

/-- A command that answers has just heard its reply. -/
theorem command_heard {I : World σ → Prop} (hk : CallKept (fun _ _ => True) I) (cmd : Nat)
    (args : List Nat) (timeout_ms : Nat) :
    Triple I (command cmd args timeout_ms)
      (fun reply w => I w ∧ ∀ p, reply = some p → Heard I cmd p w) (fun _ => I) := by
  refine Triple.bind (hk.keepsRead timeout_ms) fun seed => ?_
  cases seed with
  | none => exact Triple.raise fun _ => id
  | some seed =>
    refine Triple.bind (hk.keepsWrite _ trivial) fun _ => Triple.bind hk.keepsClock fun now => ?_
    refine Triple.loop I (fun _ => id) ?_ fun _ => id
    refine Triple.bind hk.keepsClock fun now => Triple.ite (fun _ => ?_) fun _ => ?_
    · refine Triple.bind (hk.keepsRead pollMs) fun reply => ?_
      cases reply with
      | none => exact Triple.pure fun _ => id
      | some p =>
        refine Triple.ite (fun _ => ?_) fun _ => Triple.pure fun _ => id
        refine Triple.bind (M := fun _ w => I w ∧ Heard I cmd p w)
          (triple_observe fun w hw => ⟨hk.answered cmd [] p w trivial hw, w, hw, rfl⟩) fun _ => ?_
        exact Triple.pure fun w hw => ⟨hw.1, fun q hq => Option.some.inj hq ▸ hw.2⟩
    · exact Triple.pure fun w hw => ⟨hw, nofun⟩

theorem requireFrom_heard {I : World σ → Prop} (hk : CallKept (fun _ _ => True) I)
    (hwait : Keeps I (waitIdle (σ := σ) 2000)) (cmd : Nat) (args : List Nat) (tries left : Nat) :
    Triple I (requireFrom cmd args tries left) (fun p w => I w ∧ Heard I cmd p w) (fun _ => I) := by
  induction left with
  | zero => exact Triple.raise fun _ => id
  | succ left ih =>
    refine Triple.bind (command_heard hk cmd args ackMs) fun reply => ?_
    cases reply with
    | some p => exact Triple.pure fun w hw => ⟨hw.1, hw.2 p rfl⟩
    | none =>
      refine Triple.bind (M := fun _ => I) ?_ fun _ => ih
      refine Triple.pre (A := I) (Keeps.when ?_) fun w hw => hw.1
      exact hwait.bind fun _ => Keeps.pure _

/-- What is noted is added to what was. -/
theorem grown_kept (base : List Obs) : Kept (fun _ _ => True) fun w : World σ => base <:+ w.obs :=
  (flowKept_obs (φ := fun obs => base <:+ obs) (fun _ _ _ _ _ h => h.trans (List.suffix_cons _ _))
    fun _ _ h => h.trans (List.suffix_cons _ _)).toKept

/-! ## Code that does not ask -/

section Quiet

variable (w₀ : World σ)

/-- Nothing but a word needs a foundation. -/
theorem founded_calls : CallKept (fun _ _ => True) (FoundedSince w₀) where
  opens _ hw := hw.same_obs rfl
  closes _ hw := hw.same_obs rfl
  read _ _ hw := hw.same_obs rfl
  write _ _ _ _ _ _ hw := hw.same_obs rfl
  clock _ hw := hw.same_obs rfl
  sleep _ _ hw := hw.same_obs rfl
  shut _ hw := hw.same_obs rfl
  answered cmd _ p w _ hw := by
    obtain ⟨l, hl, hf⟩ := hw
    exact ⟨.answered cmd p :: l, congrArg (Obs.answered cmd p :: ·) hl, hf⟩

variable {w₀} in
omit [Outside σ] in
theorem FoundedSince.word {w : World σ} {cmd : Nat} {p : Packet}
    (hheard : Heard (FoundedSince w₀) cmd p w) (hp : p.cmd ∈ carriesStatus) :
    FoundedSince w₀ { w with obs := .word p.status :: w.obs } := by
  obtain ⟨w₁, ⟨l, hl, hf⟩, hobs⟩ := hheard
  refine ⟨.word p.status :: .answered cmd p :: l, ?_, ⟨rfl, hp⟩, hf⟩
  show Obs.word p.status :: w.obs = _
  rw [hobs, hl]
  rfl

omit [Outside σ] in
theorem FoundedSince.carries {w w' : World σ} {cmd : Nat} {p : Packet}
    (hheard : Heard (fun w₁ => w.obs <:+ w₁.obs) cmd p w')
    (h : FoundedSince w { w' with obs := .word p.status :: w'.obs }) : p.cmd ∈ carriesStatus := by
  obtain ⟨l, hl, hf⟩ := h
  obtain ⟨w₁, ⟨l', hl'⟩, hobs⟩ := hheard
  have hall : l = .word p.status :: .answered cmd p :: l' := by
    have hsame : l ++ w.obs = (.word p.status :: .answered cmd p :: l') ++ w.obs := by
      rw [List.cons_append, List.cons_append, hl', ← hobs]
      exact hl.symm
    exact List.append_cancel_right hsame
  subst hall
  exact hf.1.2

/-- **A wait decides on nothing but replies that carry status**, and one that comes to its end in
time was ended by such a reply. -/
theorem waitState_attested (mask want timeout_ms : Nat) :
    Triple (FoundedSince w₀) (waitState mask want timeout_ms)
      (fun matched w => FoundedSince w₀ w ∧
        (matched = true → Attested w₀.obs w.obs (· &&& mask = want)))
      (fun _ => FoundedSince w₀) := by
  have hk := founded_calls w₀
  refine Triple.bind hk.keepsClock fun now =>
    Triple.loop (FoundedSince w₀) (fun _ => id) ?_ fun _ => id
  refine Triple.bind (command_heard hk cmdRequestState [] ackMs) fun reply => ?_
  refine Triple.bind (M := fun matched w => FoundedSince w₀ w ∧
    (matched = true → Attested w₀.obs w.obs (· &&& mask = want))) ?_ fun matched => ?_
  · cases reply with
    | none => exact Triple.pure fun _ hw => ⟨hw.1, nofun⟩
    | some p =>
      refine Triple.ite (fun hp => ?_) fun _ => Triple.pure fun _ hw => ⟨hw.1, nofun⟩
      -- whatever the word says, it is attested
      refine Triple.bind (M := fun _ w => FoundedSince w₀ w ∧ Attested w₀.obs w.obs (· = p.status))
        (triple_observe fun w hw => ?_) fun _ => ?_
      · obtain ⟨w₁, ⟨l, hl, -⟩, hobs⟩ := hw.2 p rfl
        refine ⟨.word (hw.2 p rfl) hp, p, l, ?_, hp, rfl⟩
        show Obs.word p.status :: w.obs = _
        rw [hobs, hl]
      refine Triple.bind (M := fun _ w => FoundedSince w₀ w ∧ Attested w₀.obs w.obs (· = p.status))
        (Triple.modify fun w hw => ?_) fun _ => Triple.pure fun w hw => ⟨hw.1, fun hmatched => ?_⟩
      · split
        · exact ⟨hw.1.same_obs rfl, hw.2⟩
        · exact hw
      · exact hw.2.imp fun st hst => hst ▸ of_decide_eq_true hmatched
  · refine Triple.ite (fun hmatched => Triple.pure fun w hw => ⟨hw.1, fun _ => hw.2 hmatched⟩)
      fun _ => Triple.bind (hk.keepsClock.pre fun w hw => hw.1) fun later => Triple.pure fun w hw => ?_
    by_cases hlate : now + timeout_ms ≤ later
    · rw [if_pos hlate]
      exact ⟨hw, nofun⟩
    · rw [if_neg hlate]
      exact hw

theorem waitState_founded (mask want timeout_ms : Nat) :
    Keeps (FoundedSince w₀) (waitState mask want timeout_ms) :=
  (waitState_attested w₀ mask want timeout_ms).post fun _ _ hw => hw.1

theorem require_heard (cmd : Nat) (args : List Nat) :
    Triple (FoundedSince w₀) (require cmd args)
      (fun p w => FoundedSince w₀ w ∧ Heard (FoundedSince w₀) cmd p w) (fun _ => FoundedSince w₀) :=
  requireFrom_heard (founded_calls w₀) (waitState_founded w₀ _ _ _) cmd args 3 3

theorem require_founded (cmd : Nat) (args : List Nat) : Keeps (FoundedSince w₀) (require cmd args) :=
  (require_heard w₀ cmd args).post fun _ _ hw => hw.1

theorem idleOr_attested (msg : String) :
    Triple (FoundedSince w₀) (idleOr msg)
      (fun _ w => FoundedSince w₀ w ∧ Attested w₀.obs w.obs (· &&& stBusy = 0))
      (fun _ => FoundedSince w₀) :=
  (waitState_attested w₀ _ _ _).bind fun _ => Triple.raiseIf (fun _ hw _ => hw.1) fun _ hw hidle =>
    ⟨hw.1, hw.2 (by simpa using hidle)⟩

theorem idleOr_founded (msg : String) : Keeps (FoundedSince w₀) (idleOr msg) :=
  (idleOr_attested w₀ msg).post fun _ _ hw => hw.1

/-- A `0x05` that is sent, and a `DeviceError` that is caught. -/
theorem retractSent_founded : Keeps (FoundedSince w₀)
    (Prog.attempt (do let _ ← require cmdRetract []; pure true) fun exc =>
      match exc with
      | .deviceError _ => pure false
      | _ => Prog.raise exc : Py σ Bool) := by
  refine Keeps.attempt ((require_founded w₀ _ _).bind fun _ => Keeps.pure _) fun exc => ?_
  cases exc with
  | deviceError _ => exact Keeps.pure _
  | _ => exact Keeps.raise _

omit [Outside σ] in
theorem report_founded (progress : Progress) (message : String) :
    Keeps (FoundedSince w₀) (report progress message) := by
  cases progress with
  | none => exact Keeps.pure ()
  | note => exact Keeps.modify fun w hw => hw.same_obs rfl

end Quiet

/-! ## Code that asks -/

/-- A run of `m` is founded exactly when the replies are to which it asks for the status. -/
structure FoundedAt {α : Type} (a : Asks σ) (m : Py σ α) : Prop where
  grows : ∀ n w, w.obs <:+ (m n w).2.obs
  founded : ∀ n w, FoundedSince w (m n w).2 ↔ ∀ w₁ ∈ a n w, CarriesHere n w₁

namespace FoundedAt

variable {α β : Type} {a : Asks σ} {m : Py σ α}

theorem never (h : ∀ w₀, Keeps (FoundedSince w₀) m) : FoundedAt .never m where
  grows n w := ((h w).run n (.refl w)).grows
  founded n w := ⟨fun _ _ => nofun, fun _ => (h w).run n (.refl w)⟩

theorem andThen {b : α → Asks σ} {k : α → Py σ β} (hm : FoundedAt a m)
    (hk : ∀ x, FoundedAt (b x) (k x)) : FoundedAt (a.andThen m b) (m >>= k) where
  grows n w := by
    have hgrows := hm.grows n w
    rw [bind_run]
    rcases hr : m n w with ⟨x | e | _, w'⟩ <;> rw [hr] at hgrows
    · exact hgrows.trans ((hk x).grows n w')
    · exact hgrows
    · exact hgrows
  founded n w := by
    have hgrows := hm.grows n w
    have hfounded := hm.founded n w
    rw [bind_run]
    rcases hr : m n w with ⟨x | e | _, w'⟩ <;> rw [hr] at hgrows hfounded
    · show FoundedSince w (k x n w').2 ↔ _
      rw [foundedSince_trans hgrows ((hk x).grows n w'), hfounded, (hk x).founded n w',
        Asks.andThen_ok hr, List.forall_mem_append]
    · rw [Asks.andThen_raise hr]
      exact hfounded
    · rw [Asks.andThen_hang hr]
      exact hfounded

theorem after {b : α → Asks σ} {k : α → Py σ β} (hm : ∀ w₀, Keeps (FoundedSince w₀) m)
    (hk : ∀ x, FoundedAt (b x) (k x)) : FoundedAt (.after m b) (m >>= k) :=
  andThen (never hm) hk

/-- What follows does not ask. -/
theorem thenQuiet {k : α → Py σ β} (hm : FoundedAt a m)
    (hk : ∀ x w₀, Keeps (FoundedSince w₀) (k x)) : FoundedAt a (m >>= k) := by
  have h := hm.andThen fun x => never (hk x)
  have hasks : a.andThen m (fun _ => .never) = a := by
    funext n w
    unfold Asks.andThen Asks.never
    split <;> exact List.append_nil _
  rwa [hasks] at h

end FoundedAt

/-- `status` takes any reply for one that carries status. -/
theorem foundedAt_status : FoundedAt .here (status (σ := σ)) where
  grows n w := (grown_kept w.obs).status trivial |>.run n List.suffix_rfl
  founded n w := by
    have h := require_heard w cmdRequestState [] n w (.refl w)
    unfold status Asks.here CarriesHere
    rw [bind_run, List.forall_mem_singleton]
    rcases hr : require cmdRequestState [] n w with ⟨p | e | _, w'⟩ <;> rw [hr] at h
    · constructor
      · intro hfounded q w'' hq
        cases hq
        exact FoundedSince.carries (h.2.imp fun _ => FoundedSince.grows) hfounded
      · intro hp
        exact FoundedSince.word h.2 (hp p w' rfl)
    · exact ⟨fun _ _ _ => nofun, fun _ => h⟩
    · exact ⟨fun _ _ _ => nofun, fun _ => h⟩

theorem foundedAt_discInBay : FoundedAt .here (discInBay (σ := σ)) :=
  foundedAt_status.thenQuiet fun _ _ => Keeps.pure _

theorem foundedAt_refuse : FoundedAt .here (refuseWithADiscOut (σ := σ)) :=
  foundedAt_discInBay.thenQuiet fun _ _ => Keeps.raiseIf _ _

theorem foundedAt_ensureHomed (progress : Progress) :
    FoundedAt (ensureHomedAsks progress) (ensureHomed (σ := σ) progress) := by
  refine foundedAt_status.andThen fun st => ?_
  split
  · exact FoundedAt.never fun w₀ => Keeps.pure _
  · refine FoundedAt.after (fun w₀ => idleOr_founded w₀ _) fun _ => ?_
    refine FoundedAt.after (fun w₀ => report_founded w₀ _ _) fun _ => ?_
    refine FoundedAt.after (fun w₀ => require_founded w₀ _ _) fun _ => ?_
    refine FoundedAt.after (fun w₀ => idleOr_founded w₀ _) fun _ => ?_
    exact foundedAt_status.thenQuiet fun _ _ => Keeps.raiseIf _ _

theorem foundedAt_retract (progress : Progress) :
    FoundedAt (retractAsks progress) (retract (σ := σ) progress) := by
  refine FoundedAt.after (fun w₀ => report_founded w₀ _ _) fun _ => ?_
  refine FoundedAt.after (fun w₀ => waitState_founded w₀ _ _ _) fun _ => ?_
  refine FoundedAt.after retractSent_founded fun acked => ?_
  refine FoundedAt.after (fun w₀ => idleOr_founded w₀ _) fun _ => ?_
  exact foundedAt_discInBay.thenQuiet fun _ _ => (Keeps.raiseIf _ _).bind fun _ => Keeps.pure _

theorem Reader.foundedAt (r : Reader) : FoundedAt (σ := σ) r.asks r.run := by
  cases r with
  | status => exact foundedAt_status.thenQuiet fun _ _ => Keeps.pure _
  | discInBay => exact foundedAt_discInBay.thenQuiet fun _ _ => Keeps.pure _
  | waitState mask want timeout_ms =>
    exact FoundedAt.never fun w₀ => (waitState_founded w₀ mask want timeout_ms).bind fun _ => Keeps.pure _
  | ensureHomed progress => exact foundedAt_ensureHomed progress
  | refuseWithADiscOut => exact foundedAt_refuse
  | retract progress => exact (foundedAt_retract progress).thenQuiet fun _ _ => Keeps.pure _

/-! ## What a run reports -/

/-- The word of a `status` is attested if it is founded. -/
theorem status_attested (w₀ : World σ) :
    Triple (fun w => w₀.obs <:+ w.obs) status
      (fun st w => w₀.obs <:+ w.obs ∧ (FoundedSince w₀ w → Attested w₀.obs w.obs (· = st)))
      (fun _ _ => True) := by
  have hgrown := grown_kept (σ := σ) w₀.obs
  have hrequire : Triple (fun w => w₀.obs <:+ w.obs) (require cmdRequestState [])
      (fun p w => w₀.obs <:+ w.obs ∧ Heard (fun w₁ => w₀.obs <:+ w₁.obs) cmdRequestState p w)
      (fun _ _ => True) :=
    (requireFrom_heard hgrown.toCallKept (hgrown.waitState trivial _ _ _) _ _ 3 3).unsaid
  refine hrequire.bind fun p => Triple.bind (M := fun _ w => w₀.obs <:+ w.obs ∧
    (FoundedSince w₀ w → Attested w₀.obs w.obs (· = p.status))) (triple_observe fun w hw => ?_) fun _ =>
      Triple.pure fun _ => id
  refine ⟨hw.1.trans (List.suffix_cons _ _), fun hfounded => ?_⟩
  have hp := FoundedSince.carries hw.2 hfounded
  obtain ⟨w₁, ⟨earlier, hearlier⟩, hobs⟩ := hw.2
  refine ⟨p, earlier, ?_, hp, rfl⟩
  rw [hearlier, ← hobs]

theorem discInBay_attested (w₀ : World σ) :
    Triple (fun w => w₀.obs <:+ w.obs) discInBay
      (fun inBay w => FoundedSince w₀ w →
        Attested w₀.obs w.obs fun st => inBay = decide (st &&& stDiscInBay ≠ 0))
      (fun _ _ => True) :=
  (status_attested w₀).bind fun _ => Triple.pure fun _ hw hfounded =>
    (hw.2 hfounded).imp fun _ hst => hst ▸ rfl

/-- The bay was read and found empty. -/
theorem refuse_attested (w₀ : World σ) :
    Triple (fun w => w₀.obs <:+ w.obs) refuseWithADiscOut
      (fun _ w => FoundedSince w₀ w → Attested w₀.obs w.obs (· &&& stDiscInBay = 0))
      (fun _ _ => True) :=
  (discInBay_attested w₀).bind fun inBay => Triple.raiseIf (fun _ _ _ => trivial)
    fun _ hw hclear hfounded => (hw hfounded).imp fun _ hst => by simpa [hclear] using hst

theorem ensureHomed_attested (w₀ : World σ) (progress : Progress) :
    Triple (fun w => w₀.obs <:+ w.obs) (ensureHomed progress)
      (fun _ w => FoundedSince w₀ w → Attested w₀.obs w.obs (· &&& stHomed ≠ 0))
      (fun _ _ => True) := by
  have hgrown := grown_kept (σ := σ) w₀.obs
  refine (status_attested w₀).bind fun st => Triple.ite (fun hst => ?_) fun _ => ?_
  · exact Triple.pure fun w hw hfounded => (hw.2 hfounded).imp fun st' hst' => hst' ▸ hst
  refine Triple.bind ((hgrown.idleOr trivial _).unsaid.pre fun _ hw => hw.1) fun _ => ?_
  refine Triple.bind (hgrown.report _ _).unsaid fun _ => ?_
  refine Triple.bind (hgrown.require trivial trivial).unsaid fun _ => ?_
  refine Triple.bind (hgrown.idleOr trivial _).unsaid fun _ => ?_
  exact (status_attested w₀).bind fun _ => Triple.raiseIf (fun _ _ _ => trivial)
    fun _ hw hhomed hfounded => (hw.2 hfounded).imp fun _ hst => by simpa [hst] using hhomed

/-- The unit was seen idle, and then the bay empty. -/
theorem retract_attested (w₀ : World σ) (progress : Progress) :
    Triple (FoundedSince w₀) (retract progress)
      (fun _ w => (∃ obs, obs <:+ w.obs ∧ Attested w₀.obs obs (· &&& stBusy = 0)) ∧
        (FoundedSince w₀ w → Attested w₀.obs w.obs (· &&& stDiscInBay = 0)))
      (fun _ _ => True) := by
  refine Triple.bind (report_founded w₀ _ _).unsaid fun _ => ?_
  refine Triple.bind (waitState_founded w₀ _ _ _).unsaid fun _ => ?_
  refine Triple.bind (retractSent_founded w₀).unsaid fun acked => ?_
  refine Triple.bind (idleOr_attested w₀ _).unsaid fun _ => ?_
  -- what showed the unit idle stays noted while the bay is read
  refine Triple.pre (A := fun w => ∃ obs, Attested w₀.obs obs (· &&& stBusy = 0) ∧
    w₀.obs <:+ w.obs ∧ obs <:+ w.obs) (Triple.of_exists fun obs => Triple.of_fact fun hidle => ?_)
    fun w hw => ⟨w.obs, hw.2, hw.1.grows, List.suffix_rfl⟩
  have hbay := (discInBay_attested w₀).and ((grown_kept obs).discInBay trivial).unsaid
  refine Triple.bind hbay.unsaid fun inBay => ?_
  refine Triple.bind (Triple.raiseIf (fun _ _ _ => trivial) fun _ hw hclear =>
    ⟨⟨obs, hw.2, hidle⟩, fun hfounded => (hw.1 hfounded).imp fun _ hst => ?_⟩) fun _ =>
      Triple.pure fun _ => id
  simpa [hclear] using hst

/-- A founded run of any of the functions reports what is attested. -/
theorem Reader.attests (r : Reader) (n : Nat) {w : World σ} (h : FoundedSince w (r.run n w).2) :
    r.Attests n w := by
  -- the run that forgets what `m` returns ends where the run of `m` does
  have hforgets : ∀ {α : Type} {m : Py σ α} {a : α} {w' : World σ}, m n w = (.ok a, w') →
      ((do let _ ← m; pure () : Py σ Unit) n w).2 = w' := by
    intro α m a w' hr
    rw [bind_run, hr]
    rfl
  cases r with
  | status =>
    intro st w' hr
    have hst := status_attested w n w List.suffix_rfl
    rw [hr] at hst
    exact hst.2 (hforgets hr ▸ h)
  | discInBay =>
    intro inBay w' hr
    have hbay := discInBay_attested w n w List.suffix_rfl
    rw [hr] at hbay
    exact hbay (hforgets hr ▸ h)
  | waitState mask want timeout_ms =>
    intro w' hr
    have hmatched := waitState_attested w mask want timeout_ms n w (.refl w)
    rw [hr] at hmatched
    exact hmatched.2 rfl
  | ensureHomed progress =>
    intro w' hr
    have hhomed := ensureHomed_attested w progress n w List.suffix_rfl
    rw [hr] at hhomed
    have hend : (StakkaWeb.ensureHomed progress n w).2 = w' := congrArg Prod.snd hr
    exact hhomed (hend ▸ h)
  | refuseWithADiscOut =>
    intro w' hr
    have hclear := refuse_attested w n w List.suffix_rfl
    rw [hr] at hclear
    have hend : (StakkaWeb.refuseWithADiscOut n w).2 = w' := congrArg Prod.snd hr
    exact hclear (hend ▸ h)
  | retract progress =>
    intro acked w' hr
    have hback := retract_attested w progress n w (.refl w)
    rw [hr] at hback
    exact ⟨hback.1, hback.2 (hforgets hr ▸ h)⟩

/-- **What is decided on a reply that carries no status** is what `status` is answered with such a
reply: a run of any of the functions rests on status alone, and what it reports of the unit is
attested, exactly when every reply to a `status` that it calls carries status. -/
theorem status_founded_iff (r : Reader) (n : Nat) (w : World σ) :
    FoundedSince w (r.run n w).2 ∧ r.Attests n w ↔ ∀ w₁ ∈ r.asks n w, CarriesHere n w₁ := by
  rw [← r.foundedAt.founded n w]
  exact ⟨And.left, fun h => ⟨h, r.attests n h⟩⟩

/-- An open unit that answers with the awaited id, under the opcode of a version reply. -/
def versionUnit : World Puppet :=
  { World.boot (.reading (fun k => .ok
      (if k = 0 then [0x01, 0, 0, cmdRequestState, 0, 0, 0, 0]
        else [0x01, 0, 1, cmdVersionB, 0x00, 0x02, 0x00, 0x79])) 0) []
    with ds := ⟨true, 0, some 1, none, false⟩ }

/-- Its version reply is read as an empty bay. -/
theorem version_read_as_empty_bay :
    (discInBay 3 versionUnit).1 = .ok false ∧
      ¬ (FoundedSince versionUnit (Reader.discInBay.run 3 versionUnit).2 ∧
        Reader.discInBay.Attests 3 versionUnit) := by
  refine ⟨by decide, ?_⟩
  rintro ⟨⟨l, hl, hf⟩, -⟩
  have hobs : (Reader.discInBay.run 3 versionUnit).2.obs =
      [.word 0x0200, .answered cmdRequestState ⟨1, 0, 1, cmdVersionB, 0x00, 0x02, 0x00, 0x79⟩] := by decide
  rw [hobs] at hl
  obtain rfl := hl.trans (List.append_nil l)
  exact absurd hf.1.2 (by decide)

end StakkaWeb
