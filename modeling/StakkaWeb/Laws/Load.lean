import StakkaWeb.Laws.Database
import StakkaWeb.Laws.Errors
import StakkaWeb.Laws.Phases

/-!
# What becomes of a load

`run_add` over every transport that raises nothing but `OSError`. Once the unit has acknowledged
`0x1D`, everything hangs on one reading: if a status word with `BUSY` clear gets back to
`ingest`'s settle wait, the load is catalogued and reported as a success, whatever the unit says
or does from then on; if none does, `ingest` raises and nothing is catalogued. `runAdd_verdict`
says so, and the two laws about a load are read off it.
-/

set_option autoImplicit false

namespace StakkaWeb

open Lib Lib.Prog

/-! ## What the protocol was told -/

/-- The part of what was observed that concerns a load: whether `0x1D` was acknowledged, whether
the job's row has been written, and the status words seen between the two. -/
structure LoadView where
  acked : Bool
  catalogued : Bool
  words : List Nat
  deriving DecidableEq, Repr

def LoadView.see : Obs → LoadView → LoadView
  | .answered cmd _, v =>
    if cmd = cmdAcceptDisc ∧ v.catalogued = false then { v with acked := true, words := [] } else v
  | .word st, v => if v.acked ∧ v.catalogued = false then { v with words := st :: v.words } else v
  | .catalogued, v => { v with catalogued := true }

/-- The load as observed; observations come latest first. -/
def loadView (obs : List Obs) : LoadView := obs.foldr LoadView.see ⟨false, false, []⟩

@[simp] theorem loadView_cons (o : Obs) (obs : List Obs) :
    loadView (o :: obs) = LoadView.see o (loadView obs) := rfl

/-- The status words between the acknowledgement of `0x1D` and the catalogue write, or the end of
the run where there was none. -/
def loadWords (obs : List Obs) : List Nat := (loadView obs).words

/-- No `0x1D` has been acknowledged. -/
def Unloaded (obs : List Obs) : Prop := loadView obs = ⟨false, false, []⟩

/-- After the acknowledgement a status word with `BUSY` clear was seen. -/
def SeenIdle (obs : List Obs) : Prop := ∃ st ∈ loadWords obs, st &&& stBusy = 0

/-- `0x1D` has been acknowledged and only busy words seen since. -/
def SeenBusy (obs : List Obs) : Prop :=
  (loadView obs).acked = true ∧ (loadView obs).catalogued = false ∧
    ∀ st ∈ loadWords obs, st &&& stBusy ≠ 0

theorem Unloaded.answered {obs : List Obs} (h : Unloaded obs) {cmd : Nat} (p : Packet)
    (hc : cmd ≠ cmdAcceptDisc) : Unloaded (.answered cmd p :: obs) := by
  unfold Unloaded at h ⊢
  rw [loadView_cons, h, LoadView.see, if_neg fun hx => hc hx.1]

theorem Unloaded.word {obs : List Obs} (h : Unloaded obs) (st : Nat) :
    Unloaded (.word st :: obs) := by
  unfold Unloaded at h ⊢
  rw [loadView_cons, h]
  rfl

theorem Unloaded.not_seenIdle {obs : List Obs} (h : Unloaded obs) : ¬ SeenIdle obs := by
  rintro ⟨st, hst, _⟩
  rw [loadWords, h] at hst
  cases hst

theorem SeenBusy.not_seenIdle {obs : List Obs} (h : SeenBusy obs) : ¬ SeenIdle obs :=
  fun ⟨st, hst, hidle⟩ => h.2.2 st hst hidle

/-- `0x1D` has just been acknowledged. -/
def Acked (obs : List Obs) : Prop := loadView obs = ⟨true, false, []⟩

/-- The acknowledgement of `0x1D` itself. -/
theorem Unloaded.acked {obs : List Obs} (h : Unloaded obs) (p : Packet) :
    Acked (.answered cmdAcceptDisc p :: obs) := by
  unfold Acked
  rw [loadView_cons, h]
  rfl

theorem Acked.seenBusy {obs : List Obs} (h : Acked obs) : SeenBusy obs := by
  unfold Acked at h
  exact ⟨by rw [h], by rw [h], by rw [loadWords, h]; nofun⟩

theorem SeenBusy.answered {obs : List Obs} (h : SeenBusy obs) {cmd : Nat} (p : Packet)
    (hc : cmd ≠ cmdAcceptDisc) : SeenBusy (.answered cmd p :: obs) := by
  unfold SeenBusy loadWords at h ⊢
  rwa [loadView_cons, LoadView.see, if_neg fun hx => hc hx.1]

/-- One more word after the acknowledgement. -/
theorem SeenBusy.loadWords_word {obs : List Obs} (h : SeenBusy obs) (st : Nat) :
    loadView (.word st :: obs) = { loadView obs with words := st :: loadWords obs } := by
  rw [loadView_cons, LoadView.see, if_pos ⟨h.1, h.2.1⟩, loadWords]

theorem SeenBusy.word {obs : List Obs} (h : SeenBusy obs) {st : Nat} (hst : st &&& stBusy ≠ 0) :
    SeenBusy (.word st :: obs) := by
  have hv := h.loadWords_word st
  refine ⟨by rw [hv]; exact h.1, by rw [hv]; exact h.2.1, ?_⟩
  rw [loadWords, hv]
  intro st' hmem
  rcases List.mem_cons.mp hmem with rfl | hmem
  · exact hst
  · exact h.2.2 st' hmem

theorem SeenBusy.idle {obs : List Obs} (h : SeenBusy obs) {st : Nat} (hst : st &&& stBusy = 0) :
    SeenIdle (.word st :: obs) := by
  refine ⟨st, ?_, hst⟩
  rw [loadWords, h.loadWords_word st]
  exact List.mem_cons_self

/-- What has been seen stays seen, as long as `0x1D` is not acknowledged again. -/
theorem SeenIdle.cons {obs : List Obs} (h : SeenIdle obs) {o : Obs}
    (ho : ∀ p, o ≠ .answered cmdAcceptDisc p) : SeenIdle (o :: obs) := by
  obtain ⟨st, hst, hidle⟩ := h
  refine ⟨st, ?_, hidle⟩
  unfold loadWords at hst ⊢
  rw [loadView_cons]
  cases o with
  | answered cmd p =>
    rw [LoadView.see, if_neg fun hx => ho p (by rw [hx.1])]
    exact hst
  | word w =>
    rw [LoadView.see]
    split
    · exact List.mem_cons_of_mem _ hst
    · exact hst
  | catalogued => exact hst

/-! ## The catalogue write -/

/-- What the catalogue write needs: a free slot for an add, its row for a return. -/
def Admits (slot : Nat) (rows : List Disc) : Option Nat → Prop
  | none => Fits rows slot
  | some id => findDisc rows id ≠ none

/-- The statements of the catalogue write. -/
def writeStatements : Option Nat → Nat
  | none => 3
  | some _ => 4

/-- The statements of a load that is reported: two on connecting, the catalogue write, and for a
return one more, which reads the disc's title. -/
def loadStatements (discId : Option Nat) : Nat :=
  2 + writeStatements discId + if discId.isSome then 1 else 0

/-- What it makes of the rows: one more, stored at the slot, or the disc's own turned stored. -/
inductive Loaded (slot : Nat) (rows : List Disc) : Option Nat → List Disc → Prop
  | added {id : Nat} {row : Disc} (h : Appended slot id row) : Loaded slot rows none (rows ++ [row])
  | returned {id : Nat} {f : Disc → Disc} (hslot : ∀ d, (f d).slot = d.slot)
    (hstored : ∀ d, (f d).status = .stored) : Loaded slot rows (some id) (updateRow id f rows)

section Verdict

variable {σ : Type} {φ : Nat → Bool} {ran : Nat} {rows : List Disc}

theorem writeRow_db (slot : Nat) (discId : Option Nat) :
    Triple (fun w : World σ => DbAt φ ran rows rows w.conn) (writeRow slot discId)
      (fun _ w => Admits slot rows discId ∧ ∃ rows', Loaded slot rows discId rows' ∧
        DbAt φ (ran + writeStatements discId) rows' rows' w.conn)
      (fun _ _ => Failed φ (ran + writeStatements discId) ∨ ¬ Admits slot rows discId) := by
  cases discId with
  | none =>
    refine (createDisc_db slot _ .added).post ?_
    rintro id w ⟨rows', ⟨hfits, row, hrow, rfl⟩, h⟩
    exact ⟨hfits, _, .added hrow, h⟩
  | some disc =>
    refine Triple.bind (M := fun _ w => Admits slot rows (some disc) ∧ ∃ rows',
      Loaded slot rows (some disc) rows' ∧ DbAt φ (ran + 4) rows' rows' w.conn) ?_
      fun _ => Triple.pure fun _ => id
    refine Triple.bind (M := fun _ w => DbAt φ ran rows rows w.conn) (Triple.gets fun _ => id)
      fun now => (setStatus_db disc (f := fun d => { d with
        status := .stored, checkedOutAt := none, updatedAt := now }) (fun _ => rfl) .returned
        none).conseq (fun _ => id) ?_ ?_
    · rintro _ w ⟨hd, h⟩
      refine ⟨hd, _, ?_, h⟩
      exact .returned (fun _ => rfl) fun _ => rfl
    · rintro _ w (h | h)
      · exact .inl h
      · exact .inr fun hn => hn h

/-! ## The states of a load -/

variable [Outside σ] {J : σ → Prop}

/-- `0x1D` is written nowhere but in `ingest`. -/
def NoAccept (cmd : Nat) (_ : List Nat) : Prop := cmd ≠ cmdAcceptDisc

instance (cmd : Nat) (args : List Nat) : Decidable (NoAccept cmd args) :=
  inferInstanceAs (Decidable (cmd ≠ cmdAcceptDisc))

/-- Before the acknowledgement. -/
structure Before (J : σ → Prop) (φ : Nat → Bool) (ran : Nat) (rows : List Disc) (w : World σ) :
    Prop where
  obs : Unloaded w.obs
  io : J w.io
  db : DbAt φ ran rows rows w.conn

/-- At the acknowledgement. -/
structure Accepted (J : σ → Prop) (φ : Nat → Bool) (ran : Nat) (rows : List Disc) (w : World σ) :
    Prop where
  obs : Acked w.obs
  tame : Tame J w
  db : DbAt φ ran rows rows w.conn

/-- From the acknowledgement on, until an idle word is seen. -/
structure Settling (J : σ → Prop) (φ : Nat → Bool) (ran : Nat) (rows : List Disc) (w : World σ) :
    Prop where
  obs : SeenBusy w.obs
  tame : Tame J w
  db : DbAt φ ran rows rows w.conn

/-- From the idle word on; `rows` is what the catalogue holds by then. -/
structure Taken (J : σ → Prop) (φ : Nat → Bool) (ran : Nat) (rows : List Disc) (w : World σ) :
    Prop where
  obs : SeenIdle w.obs
  tame : Tame J w
  db : DbAt φ ran rows rows w.conn

omit [Outside σ] in
theorem Accepted.settling {w : World σ} (h : Accepted J φ ran rows w) : Settling J φ ran rows w :=
  ⟨h.obs.seenBusy, h.tame, h.db⟩

theorem kept_before (h : RaisesOsError J) : FlowKept NoAccept (Before (σ := σ) J φ ran rows) where
  opens w hw := ⟨hw.obs, h.opens w.io hw.io, hw.db⟩
  closes w hw := ⟨hw.obs, h.closes w.io hw.io, hw.db⟩
  read t w hw := ⟨hw.obs, h.read t w.io hw.io, hw.db⟩
  write u m c a w _ hw := ⟨hw.obs, h.write u m c a w.io trivial hw.io, hw.db⟩
  clock w hw := ⟨hw.obs, h.clock w.io hw.io, hw.db⟩
  sleep ms w hw := ⟨hw.obs, h.sleep ms w.io hw.io, hw.db⟩
  shut _ hw := ⟨hw.obs, hw.io, hw.db⟩
  answered _ _ p _ hc hw := ⟨hw.obs.answered p hc, hw.io, hw.db⟩
  note _ _ hw := ⟨hw.obs, hw.io, hw.db⟩
  trace _ _ hw := ⟨hw.obs, hw.io, hw.db⟩
  word st _ hw := ⟨hw.obs.word st, hw.io, hw.db⟩
  job _ _ hw := ⟨hw.obs, hw.io, hw.db⟩
  phase p w hw := ⟨hw.obs, h.phase p w.io hw.io, hw.db⟩

/-- One command keeps the wait going; a word may end it, which `waitIdle_taken` looks at. -/
theorem kept_settling (h : RaisesOsError J) : CallKept NoAccept (Settling (σ := σ) J φ ran rows) where
  opens w hw := ⟨hw.obs, h.kept_tame.opens w hw.tame, hw.db⟩
  closes w hw := ⟨hw.obs, h.kept_tame.closes w hw.tame, hw.db⟩
  read t w hw := ⟨hw.obs, h.kept_tame.read t w hw.tame, hw.db⟩
  write u m c a w _ hw := ⟨hw.obs, h.kept_tame.write u m c a w trivial hw.tame, hw.db⟩
  clock w hw := ⟨hw.obs, h.kept_tame.clock w hw.tame, hw.db⟩
  sleep ms w hw := ⟨hw.obs, h.kept_tame.sleep ms w hw.tame, hw.db⟩
  shut _ hw := ⟨hw.obs, hw.tame, hw.db⟩
  answered _ _ p _ hc hw := ⟨hw.obs.answered p hc, hw.tame, hw.db⟩

theorem kept_taken (h : RaisesOsError J) : FlowKept NoAccept (Taken (σ := σ) J φ ran rows) where
  opens w hw := ⟨hw.obs, h.kept_tame.opens w hw.tame, hw.db⟩
  closes w hw := ⟨hw.obs, h.kept_tame.closes w hw.tame, hw.db⟩
  read t w hw := ⟨hw.obs, h.kept_tame.read t w hw.tame, hw.db⟩
  write u m c a w _ hw := ⟨hw.obs, h.kept_tame.write u m c a w trivial hw.tame, hw.db⟩
  clock w hw := ⟨hw.obs, h.kept_tame.clock w hw.tame, hw.db⟩
  sleep ms w hw := ⟨hw.obs, h.kept_tame.sleep ms w hw.tame, hw.db⟩
  shut _ hw := ⟨hw.obs, hw.tame, hw.db⟩
  answered _ _ _ _ hc hw := ⟨hw.obs.cons fun _ hx => hc (by cases hx; rfl), hw.tame, hw.db⟩
  note _ _ hw := ⟨hw.obs, hw.tame, hw.db⟩
  trace _ _ hw := ⟨hw.obs, hw.tame, hw.db⟩
  word _ _ hw := ⟨hw.obs.cons nofun, hw.tame, hw.db⟩
  job _ _ hw := ⟨hw.obs, hw.tame, hw.db⟩
  phase p w hw := ⟨hw.obs, ⟨h.phase p w.io hw.tame.1, hw.tame.2⟩, hw.db⟩

theorem civil_taken (h : RaisesOsError J) : Civil NoAccept J (Taken (σ := σ) J φ ran rows) where
  toKept := (kept_taken h).toKept
  tame _ hw := hw.tame
  errors := h
  request := by decide

/-! ## From `0x1D` to the idle word -/

/-- A write that goes through was to a unit with a byte for an address. -/
theorem write_tame (h : RaisesOsError J) (msgid cmd : Nat) (args : List Nat) :
    Triple (Before (σ := σ) J φ ran rows) (write msgid cmd args)
      (fun _ w => Before J φ ran rows w ∧ Tame J w) (fun _ => Before J φ ran rows) := by
  refine Triple.bind (M := fun ds w => w.ds.unit = ds.unit ∧ Before J φ ran rows w)
    (Triple.gets fun _ hw => ⟨rfl, hw⟩) fun ds => ?_
  refine Triple.bind (M := fun _ w => w.ds.unit = ds.unit ∧ Before J φ ran rows w)
    (Triple.raiseIf (fun _ hw _ => hw.2) fun _ hw _ => hw) fun _ => ?_
  refine Triple.bind (M := fun _ w => Before J φ ran rows w ∧ Tame J w)
    (Triple.raiseIf (fun _ hw _ => hw.2) fun w hw hb => ?_) fun _ => ?_
  · refine ⟨hw.2, hw.2.io, ?_⟩
    have := List.any_eq_false.mp hb ds.unit (by simp [reportBytes])
    rw [decide_eq_true_eq, Nat.not_lt] at this
    rw [hw.1]
    exact this
  · refine Triple.bind (M := fun _ w => Before J φ ran rows w ∧ Tame J w) ?_ fun _ =>
      Triple.raiseIf (fun _ hw _ => hw.1) fun _ hw _ => hw
    refine Triple.attempt (E := fun _ w => Before J φ ran rows w ∧ Tame J w)
      (triple_onOutside (fun w a s hw hr => ?_) fun w e s hw hr => ?_) (fun e => ?_)
      fun _ hw => hw.1
    · have := h.write ds.unit msgid cmd args w.io trivial hw.1.io
      rw [hr] at this
      exact ⟨⟨hw.1.obs, this, hw.1.db⟩, this, hw.2.2⟩
    · have := h.write ds.unit msgid cmd args w.io trivial hw.1.io
      rw [hr] at this
      exact ⟨⟨hw.1.obs, this, hw.1.db⟩, this, hw.2.2⟩
    · refine Triple.pre (A := Before J φ ran rows) (Triple.ite (fun _ => ?_) fun _ =>
        Triple.raise fun _ => id) fun _ hw => hw.1
      exact Triple.bind (kept_before h).close fun _ => Triple.raise fun _ => id

theorem kept_beforeTame (h : RaisesOsError J) :
    CallKept NoAccept (fun w : World σ => Before J φ ran rows w ∧ Tame J w) where
  opens w hw := ⟨(kept_before h).opens w hw.1, h.kept_tame.opens w hw.2⟩
  closes w hw := ⟨(kept_before h).closes w hw.1, h.kept_tame.closes w hw.2⟩
  read t w hw := ⟨(kept_before h).read t w hw.1, h.kept_tame.read t w hw.2⟩
  write u m c a w hc hw :=
    ⟨(kept_before h).write u m c a w hc hw.1, h.kept_tame.write u m c a w trivial hw.2⟩
  clock w hw := ⟨(kept_before h).clock w hw.1, h.kept_tame.clock w hw.2⟩
  sleep ms w hw := ⟨(kept_before h).sleep ms w hw.1, h.kept_tame.sleep ms w hw.2⟩
  shut w hw := ⟨(kept_before h).shut w hw.1, hw.2⟩
  answered c a p w hc hw := ⟨(kept_before h).answered c a p w hc hw.1, hw.2⟩

/-- The reply to `0x1D` starts the settle wait. -/
theorem commandAccept_accepted (h : RaisesOsError J) :
    Triple (Before (σ := σ) J φ ran rows) (command cmdAcceptDisc [] ackMs)
      (fun reply w => match reply with
        | some _ => Accepted J φ ran rows w
        | none => Before J φ ran rows w)
      (fun _ => Before J φ ran rows) := by
  have hk : FlowKept NoAccept (Before (σ := σ) J φ ran rows) := kept_before h
  have hb : CallKept NoAccept fun w : World σ => Before J φ ran rows w ∧ Tame J w := kept_beforeTame h
  refine Triple.bind (hk.keepsRead ackMs) fun seed => ?_
  cases seed with
  | none => exact Triple.raise fun _ => id
  | some seed =>
    refine (write_tame h _ _ _).bind fun _ => Triple.bind
      (M := fun _ w => Before J φ ran rows w ∧ Tame J w) (triple_clock hb.clock) fun now => ?_
    refine Triple.loop (fun w => Before J φ ran rows w ∧ Tame J w) (fun _ => id) ?_ fun _ hw => hw.1
    refine Triple.bind (M := fun _ w => Before J φ ran rows w ∧ Tame J w) (triple_clock hb.clock)
      fun now => Triple.ite (fun _ => ?_) fun _ => Triple.pure fun _ hw => hw.1
    refine Triple.bind ((hb.keepsRead pollMs).conseq (fun _ => id) (fun _ _ => id)
      fun _ _ hw => hw.1) fun reply => ?_
    cases reply with
    | none => exact Triple.pure fun _ => id
    | some p =>
      refine Triple.ite (fun _ => ?_) fun _ => Triple.pure fun _ => id
      exact Triple.bind (M := fun _ => Accepted J φ ran rows)
        (triple_observe fun w hw => ⟨hw.1.obs.acked p, hw.2, hw.1.db⟩)
        fun _ => Triple.pure fun _ => id

theorem requireAccept_accepted (h : RaisesOsError J) (tries left : Nat) :
    Triple (Before (σ := σ) J φ ran rows) (requireFrom cmdAcceptDisc [] tries left)
      (fun _ => Accepted J φ ran rows) (fun _ => Before J φ ran rows) := by
  induction left with
  | zero => exact Triple.raise fun _ => id
  | succ left ih =>
    refine (commandAccept_accepted h).bind fun reply => ?_
    cases reply with
    | some p => exact Triple.pure fun _ => id
    | none =>
      refine Triple.bind (M := fun _ => Before J φ ran rows) (Triple.when (fun _ => ?_)
        fun _ hw _ => hw) fun _ => ih
      exact Triple.bind ((kept_before h).waitState (by decide) stBusy 0 2000) fun _ =>
        Triple.pure fun _ => id

/-- **The settle wait**: it succeeds on an idle word, and fails or raises without having seen
one. -/
theorem waitIdle_taken (h : RaisesOsError J) (timeout_ms : Nat) :
    Triple (Settling (σ := σ) J φ ran rows) (waitIdle timeout_ms)
      (fun idle w => if idle then Taken J φ ran rows w else Settling J φ ran rows w)
      (fun _ => Settling J φ ran rows) := by
  have hk : CallKept NoAccept (Settling (σ := σ) J φ ran rows) := kept_settling h
  refine Triple.bind hk.keepsClock fun start =>
    Triple.loop (Settling J φ ran rows) (fun _ => id) ?_ fun _ => id
  refine Triple.bind (hk.command (by decide : NoAccept cmdRequestState []) ackMs) fun reply => ?_
  refine Triple.bind (M := fun matched w =>
    if matched then Taken J φ ran rows w else Settling J φ ran rows w) ?_ fun matched => ?_
  · cases reply with
    | none => exact Triple.pure fun _ => id
    | some p =>
      refine Triple.ite (fun _ => ?_) fun _ => Triple.pure fun _ => id
      by_cases hidle : p.status &&& stBusy = 0
      · refine Triple.bind (M := fun _ => Taken J φ ran rows)
          (triple_observe fun w hw => ⟨hw.obs.idle hidle, hw.tame, hw.db⟩) fun _ => ?_
        refine Triple.bind ((kept_taken h).traceStatus _ |>.total fun _ _ => ⟨_, _, rfl⟩) fun _ =>
          Triple.pure fun w hw => ?_
        rwa [decide_eq_true hidle, if_pos rfl]
      · refine Triple.bind (M := fun _ => Settling J φ ran rows)
          (triple_observe fun w hw => ⟨hw.obs.word hidle, hw.tame, hw.db⟩) fun _ => ?_
        refine Triple.bind (M := fun _ => Settling J φ ran rows) (Triple.modify fun w hw => ?_)
          fun _ => Triple.pure fun w hw => ?_
        · split <;> exact ⟨hw.obs, hw.tame, hw.db⟩
        · rwa [decide_eq_false hidle, if_neg Bool.false_ne_true]
  · cases matched with
    | true => exact Triple.pure fun _ => id
    | false =>
      refine Triple.bind (M := fun _ => Settling J φ ran rows) (triple_clock fun w => hk.clock w)
        fun now => Triple.pure fun w hw => ?_
      by_cases hlate : start + timeout_ms ≤ now
      · rw [if_pos hlate]
        exact hw
      · rw [if_neg hlate]
        exact hw

/-! ## The flow -/

variable {slot : Nat} {discId : Option Nat}

/-- Nothing was catalogued: no idle word was seen, or the database stood in the way. -/
def Missed (slot : Nat) (discId : Option Nat) (φ : Nat → Bool) (rows : List Disc)
    (w : World σ) : Prop :=
  (¬ SeenIdle w.obs ∧ w.conn.committed.discs = rows) ∨ Failed φ (loadStatements discId) ∨
    ¬ Admits slot rows discId

/-- The load is catalogued and the job done. -/
structure Recorded (slot : Nat) (discId : Option Nat) (φ : Nat → Bool) (rows : List Disc)
    (w : World σ) : Prop where
  phase : w.job.phase = .done
  obs : SeenIdle w.obs
  admits : Admits slot rows discId
  db : ∃ rows', Loaded slot rows discId rows' ∧ DbAt φ (loadStatements discId) rows' rows' w.conn

/-- How a load can end. -/
def Concluded (slot : Nat) (discId : Option Nat) (φ : Nat → Bool) (rows : List Disc)
    (w : World σ) : Prop :=
  Recorded slot discId φ rows w ∨ w.job.phase ≠ .done ∧ Missed slot discId φ rows w

/-- A raise leaves the load missed; of a run that hangs nothing is said. -/
def MissedBy (slot : Nat) (discId : Option Nat) (φ : Nat → Bool) (rows : List Disc)
    (e : Option Exc) (w : World σ) : Prop :=
  e ≠ none → Missed slot discId φ rows w

omit [Outside σ] in
theorem Before.missed {w : World σ} (h : Before J φ ran rows w) : Missed slot discId φ rows w :=
  .inl ⟨h.obs.not_seenIdle, h.db.saved⟩

omit [Outside σ] in
theorem Settling.missed {w : World σ} (h : Settling J φ ran rows w) : Missed slot discId φ rows w :=
  .inl ⟨h.obs.not_seenIdle, h.db.saved⟩

omit [Outside σ] in
theorem before_or_missed {α : Type} {m : Py σ α} (hm : Keeps (Before J φ ran rows) m) :
    Triple (Before J φ ran rows) m (fun _ => Before J φ ran rows) (MissedBy slot discId φ rows) :=
  hm.conseq (fun _ => id) (fun _ _ => id) fun _ _ hw _ => hw.missed

/-- `ingest` is passed only with an idle word seen. -/
theorem ingest_taken (h : RaisesOsError J) (progress : Progress) :
    Triple (Before (σ := σ) J φ ran rows) (ingest progress) (fun _ => Taken J φ ran rows)
      (MissedBy slot discId φ rows) := by
  have hk : FlowKept NoAccept (Before (σ := σ) J φ ran rows) := kept_before h
  refine (before_or_missed (hk.report _ _)).bind fun _ => ?_
  refine (before_or_missed (hk.idleOr (by decide) _)).bind fun _ => ?_
  refine (before_or_missed (hk.report _ _)).bind fun _ => ?_
  refine Triple.bind ((requireAccept_accepted h 3 3).conseq (fun _ => id)
    (fun _ _ hw => hw.settling) fun _ _ hw _ => hw.missed) fun _ => ?_
  refine Triple.bind ((waitIdle_taken h settleMs).conseq (fun _ => id) (fun _ _ => id)
    fun _ _ hw _ => hw.missed) fun idle => ?_
  cases idle with
  | true => exact Triple.pure fun _ => id
  | false => exact Triple.raise fun w hw _ => Settling.missed hw

theorem addIngest_taken (h : RaisesOsError J) :
    Triple (Before (σ := σ) J φ ran rows) addIngest (fun _ => Taken J φ ran rows)
      (MissedBy slot discId φ rows) := by
  have hk : FlowKept NoAccept (Before (σ := σ) J φ ran rows) := kept_before h
  have ht : FlowKept NoAccept (Taken (σ := σ) J φ ran rows) := kept_taken h
  have hquiet : ∀ {m : Py σ Unit}, Triple (Taken J φ ran rows) m (fun _ => Taken J φ ran rows) NoRaise →
      Triple (Taken J φ ran rows) m (fun _ => Taken J φ ran rows) (MissedBy slot discId φ rows) :=
    fun hm => hm.conseq (fun _ => id) (fun _ _ => id) fun _ _ he hn => absurd he hn
  refine (before_or_missed (hk.setPhase _ _ _)).bind fun _ => ?_
  refine (before_or_missed (FlowKept.mark hk.trace _)).bind fun _ => ?_
  refine (ingest_taken h _).bind fun _ => ?_
  refine (hquiet (triple_modifyTrace fun w => ht.trace _ w)).bind fun _ => ?_
  refine (hquiet ((ht.setPhase _ _ _).total fun _ _ => ⟨_, _, rfl⟩)).bind fun _ => ?_
  exact hquiet ((civil_taken h).parkCivil (by decide) _)

theorem addFinish_concluded (h : RaisesOsError J) :
    Triple (Taken (σ := σ) J φ 2 rows) (addFinish slot discId)
      (fun _ => Concluded slot discId φ rows) (MissedBy slot discId φ rows) := by
  -- what the rest of the flow starts from, once the row is written
  have hrest : ∀ rows', Loaded slot rows discId rows' → Admits slot rows discId →
      ∀ message result, Triple (Taken (σ := σ) J φ (loadStatements discId) rows')
        (succeed message result) (fun _ => Concluded slot discId φ rows) (MissedBy slot discId φ rows) := by
    intro rows' hl ha message result
    exact triple_modifyJob fun w hw => .inl ⟨rfl, hw.obs, ha, rows', hl, hw.db⟩
  refine Triple.bind (M := fun _ w => ∃ rows', (Loaded slot rows discId rows' ∧
    Admits slot rows discId) ∧ Taken J φ (2 + writeStatements discId) rows' w) ?_ fun rowId =>
      Triple.of_exists fun rows' => Triple.of_fact fun hl => ?_
  · refine Triple.bind (M := fun _ w => ∃ rows', (Loaded slot rows discId rows' ∧
      Admits slot rows discId) ∧ Taken J φ (2 + writeStatements discId) rows' w) ?_ fun id => ?_
    · have hfree : ConnFree fun w : World σ => SeenIdle w.obs ∧ Tame J w := fun _ _ hw => hw
      have hrow : Triple (fun w : World σ => DbAt φ 2 rows rows w.conn) _ _ _ :=
        writeRow_db slot discId
      refine (hrow.and (hfree.writeRow slot discId)).conseq ?_ ?_ ?_
      · exact fun w hw => ⟨hw.db, hw.obs, hw.tame⟩
      · rintro id w ⟨⟨ha, rows', hl, hdb⟩, hobs, htame⟩
        exact ⟨rows', ⟨hl, ha⟩, hobs, htame, hdb⟩
      · exact fun _ _ hw _ => .inr (hw.1.imp_left (Failed.le · (Nat.le_add_right _ _)))
    · refine Triple.bind (M := fun _ w => ∃ rows', (Loaded slot rows discId rows' ∧
        Admits slot rows discId) ∧ Taken J φ (2 + writeStatements discId) rows' w)
          (triple_observe ?_) fun _ => Triple.pure fun _ h => h
      rintro w ⟨rows', hl, hw⟩
      exact ⟨rows', hl, hw.obs.cons nofun, hw.tame, hw.db⟩
  · refine Triple.bind ((civil_taken h).watchCivil.conseq (fun _ => id) (fun _ _ => id)
      fun _ _ he hn => absurd he hn) fun _ => ?_
    cases discId with
    | none => exact hrest rows' hl.1 hl.2 _ _
    | some disc =>
      have hfree : ConnFree fun w : World σ => SeenIdle w.obs ∧ Tame J w := fun _ _ hw => hw
      have hget : Triple (fun w : World σ => DbAt φ (2 + 4) rows' rows' w.conn) _ _ _ := getDisc_db rowId
      refine Triple.bind (M := fun _ => Taken J φ (loadStatements (some disc)) rows') ?_ fun _ =>
        hrest rows' hl.1 hl.2 _ _
      refine (hget.and (hfree.execute _)).conseq ?_ ?_ ?_
      · exact fun w hw => ⟨hw.db, hw.obs, hw.tame⟩
      · exact fun _ w hw => ⟨hw.2.1, hw.2.2, hw.1.2⟩
      · exact fun _ _ hw _ => .inr (.inl hw.1)

theorem addTimedOut_concluded (h : RaisesOsError J) :
    Triple (Before (σ := σ) J φ ran rows) (addTimedOut slot discId)
      (fun _ => Concluded slot discId φ rows) (MissedBy slot discId φ rows) := by
  have hk : FlowKept NoAccept (Before (σ := σ) J φ ran rows) := kept_before h
  refine (before_or_missed (hk.setPhase _ _ _)).bind fun _ => ?_
  refine (before_or_missed (hk.park (by decide) (by decide) _)).bind fun _ => ?_
  -- the log takes the event or not; either way no row is touched
  have hlog : Keeps (fun w : World σ => ¬ SeenIdle w.obs ∧ Unwritten rows w)
      (logEvent .failed discId (some slot) (some "no disc inserted")) := by
    have hfree : ConnFree fun w : World σ => ¬ SeenIdle w.obs := fun _ _ hw => hw
    exact Triple.and (hfree.logEvent _ _ _ _) (logEvent_unwritten _ _ _ _)
  have hcommit : Keeps (fun w : World σ => ¬ SeenIdle w.obs ∧ Unwritten rows w) commit := by
    have hfree : ConnFree fun w : World σ => ¬ SeenIdle w.obs := fun _ _ hw => hw
    exact Triple.and hfree.commit commit_unwritten
  have hmissed : ∀ w : World σ, ¬ SeenIdle w.obs ∧ Unwritten rows w →
      Missed slot discId φ rows w := fun w hw => .inl ⟨hw.1, hw.2.2⟩
  refine Triple.pre (A := fun w => ¬ SeenIdle w.obs ∧ Unwritten rows w) ?_
    fun w hw => ⟨hw.obs.not_seenIdle, hw.db.rows, hw.db.saved⟩
  refine Triple.bind (hlog.conseq (fun _ => id) (fun _ _ => id) fun _ w hw _ => hmissed w hw)
    fun _ => ?_
  refine Triple.bind (hcommit.conseq (fun _ => id) (fun _ _ => id) fun _ w hw _ => hmissed w hw)
    fun _ => ?_
  exact triple_modifyJob fun w hw => .inr ⟨nofun, hmissed w hw⟩

theorem runAdd_concluded (h : RaisesOsError J) :
    Triple (Before (σ := σ) J φ 2 rows) (runAdd slot discId)
      (fun _ => Concluded slot discId φ rows) (MissedBy slot discId φ rows) := by
  have hk : FlowKept NoAccept (Before (σ := σ) J φ 2 rows) := kept_before h
  refine (before_or_missed (hk.setPhase _ _ _)).bind fun _ => ?_
  refine (before_or_missed (FlowKept.mark hk.trace _)).bind fun _ => ?_
  refine (before_or_missed
    (hk.moveTo (by decide) (by decide) (show cmdSetPos ≠ cmdAcceptDisc by decide) _)).bind
      fun _ => ?_
  refine (before_or_missed (hk.setPhase _ _ _)).bind fun _ => ?_
  refine (before_or_missed (FlowKept.mark hk.trace _)).bind fun _ => ?_
  refine (before_or_missed (hk.waitState (by decide) _ _ _)).bind fun inserted =>
    Triple.ite (fun _ => ?_) fun _ => addTimedOut_concluded h
  exact (addIngest_taken h).bind fun _ => addFinish_concluded h

/-! ## The job -/

omit [Outside σ] in
/-- `job.fail`, after a raise. -/
theorem reportFailure_concluded (exc : Exc) :
    Triple (Missed slot discId φ rows) (reportFailure (σ := σ) exc)
      (fun _ => Concluded slot discId φ rows) (fun _ _ => True) := by
  refine Triple.bind (M := fun _ => Missed slot discId φ rows) ?_ fun _ => ?_
  · intro n w hw
    have hkeep : Missed slot discId φ rows (logFailure exc n w).2 := by
      rcases hw with ⟨hn, hs⟩ | hf | ha
      · have hfree : ConnFree fun w : World σ => ¬ SeenIdle w.obs := fun _ _ hw => hw
        exact .inl ⟨(hfree.logFailure exc).run n hn, (logFailure_saved exc).run n hs⟩
      · exact .inr (.inl hf)
      · exact .inr (.inr ha)
    split <;> rename_i hr <;> rw [hr] at hkeep
    · exact hkeep
    · trivial
    · trivial
  · have hfail : ∀ text, Triple (Missed slot discId φ rows) (fail (σ := σ) text {})
        (fun _ => Concluded slot discId φ rows) (fun _ _ => True) :=
      fun text => triple_modifyJob fun w hw => .inr ⟨nofun, hw⟩
    cases exc <;> exact hfail _

omit [Outside σ] in
theorem ownedFinally_concluded :
    Triple (Concluded slot discId φ rows) (ownedFinally (σ := σ))
      (fun _ => Concluded slot discId φ rows) (fun _ _ => True) := by
  refine Triple.bind (M := fun _ => Concluded slot discId φ rows) (triple_modifyDs ?_) fun _ => ?_
  · rintro w (h | h)
    · exact .inl ⟨h.phase, h.obs, h.admits, h.db⟩
    · exact .inr h
  refine Triple.bind (M := fun _ => Concluded slot discId φ rows) (triple_modifyTrace ?_)
    fun _ => ?_
  · rintro w (h | h)
    · exact .inl ⟨h.phase, h.obs, h.admits, h.db⟩
    · exact .inr h
  refine Triple.bind (M := fun _ => Concluded slot discId φ rows) (Triple.modify ?_) fun _ => ?_
  · rintro w (h | ⟨hp, h⟩)
    · obtain ⟨rows', hl, hdb⟩ := h.db
      exact .inl ⟨h.phase, h.obs, h.admits, rows', hl, hdb.faults, hdb.executed, hdb.saved, hdb.saved,
        hdb.clean⟩
    · exact .inr ⟨hp, h⟩
  refine Triple.bind (M := fun done w => (done = false → w.job.phase ≠ .done) ∧
    Concluded slot discId φ rows w) (Triple.gets fun w h => ⟨fun hd hp => ?_, h⟩) fun done => ?_
  · rw [Job.done, hp] at hd
    cases hd
  · refine Triple.when (fun hd => triple_modifyJob ?_) fun _ h _ => h.2
    rintro w ⟨hp, h | ⟨_, h⟩⟩
    · exact absurd h.phase (hp (by simpa using hd))
    · exact .inr ⟨nofun, h⟩

/-- **How a load ends**: catalogued and done, or missed and not done. -/
theorem runOwned_concluded (h : RaisesOsError J) (traced : Bool) :
    Triple (fun w : World σ => Unloaded w.obs ∧ J w.io ∧ w.conn.faults = φ ∧
        w.conn.committed.discs = rows)
      (runOwned traced (runAdd slot discId))
      (fun _ => Concluded slot discId φ rows) (fun _ _ => True) := by
  have hk : FlowKept NoAccept (Before (σ := σ) J φ 0 rows) := kept_before h
  refine Triple.bind (M := fun _ => Before J φ 0 rows) (Triple.modify fun w hw => ?_) fun _ => ?_
  · obtain ⟨hobs, hio, hfaults, hrows⟩ := hw
    exact ⟨hobs, hio, hfaults, rfl, hrows, hrows, nofun⟩
  refine Triple.ensure (B := fun _ => Concluded slot discId φ rows) (E := fun _ _ => True) ?_
    (fun _ => ownedFinally_concluded) (fun _ => Triple.any) fun _ _ => trivial
  refine Triple.attempt (E := MissedBy slot discId φ rows) ?_
    (fun e => (reportFailure_concluded e).pre fun w hw => hw nofun) fun _ _ => trivial
  refine (before_or_missed (hk.openUnit (by decide) fun _ _ hw => ⟨hw.obs, hw.io, hw.db⟩)).bind
    fun _ => ?_
  refine Triple.bind (M := fun _ => Before J φ 0 rows)
    (triple_modifyDs fun w hw => ⟨hw.obs, hw.io, hw.db⟩) fun _ => ?_
  refine Triple.bind (M := fun _ => Before J φ 2 rows) ?_ fun _ => runAdd_concluded h
  have hfree : ConnFree fun w : World σ => Unloaded w.obs ∧ J w.io := fun _ _ hw => hw
  have hconn : Triple (fun w : World σ => DbAt φ 0 rows rows w.conn) _ _ _ := connect_db
  refine (hconn.and hfree.connect).conseq ?_ ?_ ?_
  · exact fun w hw => ⟨hw.db, hw.obs, hw.io⟩
  · exact fun _ w hw => ⟨hw.2.1, hw.2.2, hw.1⟩
  · exact fun _ _ hw _ => .inr (.inl (hw.1.le ((Nat.le_add_right _ _).trans (Nat.le_add_right _ _))))

end Verdict

end StakkaWeb
