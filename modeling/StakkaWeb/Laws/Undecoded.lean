import StakkaWeb.Tape
import StakkaWeb.Puppet
import StakkaWeb.Laws.Twin

/-!
# Undecoded bits

Two transports that differ in nothing but undecoded bits of status words are told apart by no
method and by no flow: the program makes the same calls on both, ends alike, and leaves the same job
and the same database.
-/

set_option autoImplicit false

namespace StakkaWeb

open Lib Lib.Prog

/-! ## What may differ -/

/-- The bits of a status word that something is decided on. -/
def decodedBits : Nat := stBusy ||| stDiscWaiting ||| stDiscInBay ||| stHomed

/-- The same packet but for undecoded bits of the status, if it carries one. -/
structure AlikePackets (p q : Packet) : Prop where
  rest : { p with x2 := 0, x3 := 0 } = { q with x2 := 0, x3 := 0 }
  other : p.cmd ∉ carriesStatus → p = q
  status : p.status &&& decodedBits = q.status &&& decodedBits

namespace AlikePackets

variable {p q : Packet}

theorem refl (p : Packet) : AlikePackets p p := ⟨rfl, fun _ => rfl, rfl⟩

theorem msgid (h : AlikePackets p q) : p.msgid = q.msgid := (congrArg Packet.msgid h.rest : _)

theorem cmd (h : AlikePackets p q) : p.cmd = q.cmd := (congrArg Packet.cmd h.rest : _)

end AlikePackets

/-- Words that agree on the decoded bits agree on every mask of them. -/
theorem mask_congr {st st' mask : Nat} (h : st &&& decodedBits = st' &&& decodedBits)
    (hmask : decodedBits &&& mask = mask) : st &&& mask = st' &&& mask := by
  rw [← hmask, ← Nat.and_assoc, ← Nat.and_assoc, h]

/-- The same report, or two that are decoded alike. -/
def AlikeReports (raw raw' : List Nat) : Prop :=
  raw = raw' ∨ 8 ≤ raw.length ∧ 8 ≤ raw'.length ∧ AlikePackets (Packet.ofRaw raw) (Packet.ofRaw raw')

/-- Two outside worlds in states that `B` relates behave alike, but for undecoded bits. -/
structure Twins {σ τ : Type} [Outside σ] [Outside τ] (B : σ → τ → Prop) : Prop where
  opens : ∀ s t, B s t → (Outside.opens s).1 = (Outside.opens t).1 ∧
    B (Outside.opens s).2 (Outside.opens t).2
  closes : ∀ s t, B s t → B (Outside.closes s) (Outside.closes t)
  isPresent : ∀ s t, B s t → (Outside.isPresent s).1 = (Outside.isPresent t).1 ∧
    B (Outside.isPresent s).2 (Outside.isPresent t).2
  read : ∀ size timeout_ms s t, B s t →
    Paired.Results AlikeReports (Outside.read size timeout_ms s).1 (Outside.read size timeout_ms t).1 ∧
    B (Outside.read size timeout_ms s).2 (Outside.read size timeout_ms t).2
  write : ∀ buf s t, B s t → (Outside.write buf s).1 = (Outside.write buf t).1 ∧
    B (Outside.write buf s).2 (Outside.write buf t).2
  clock : ∀ s t, B s t → (Outside.clock s).1 = (Outside.clock t).1 ∧
    B (Outside.clock s).2 (Outside.clock t).2
  sleep : ∀ ms s t, B s t → B (Outside.sleep ms s) (Outside.sleep ms t)
  cue : ∀ p s t, B s t → B (Outside.cue p s) (Outside.cue p t)

variable {σ τ : Type} [Outside σ] [Outside τ] {B : σ → τ → Prop}

/-- The same calls were made. -/
def OnTape (B : σ → τ → Prop) (s : Taped σ) (t : Taped τ) : Prop :=
  B s.inner t.inner ∧ s.tape.map Prod.fst = t.tape.map Prod.fst

theorem Twins.onTape (h : Twins B) : Twins (OnTape B) := by
  have hnote : ∀ (call : OutsideCall) (s : Taped σ) (t : Taped τ) (s' : σ) (t' : τ), OnTape B s t →
      B s' t' → OnTape B (s.note call s') (t.note call t') := fun call s t s' t' hst hB =>
    ⟨hB, congrArg (call :: ·) hst.2⟩
  exact
    { opens := fun s t hB => ⟨(h.opens _ _ hB.1).1, hnote _ s t _ _ hB (h.opens _ _ hB.1).2⟩
      closes := fun s t hB => hnote _ s t _ _ hB (h.closes _ _ hB.1)
      isPresent := fun s t hB =>
        ⟨(h.isPresent _ _ hB.1).1, hnote _ s t _ _ hB (h.isPresent _ _ hB.1).2⟩
      read := fun size ms s t hB =>
        ⟨(h.read size ms _ _ hB.1).1, hnote _ s t _ _ hB (h.read size ms _ _ hB.1).2⟩
      write := fun buf s t hB => ⟨(h.write buf _ _ hB.1).1, hnote _ s t _ _ hB (h.write buf _ _ hB.1).2⟩
      clock := fun s t hB => ⟨(h.clock _ _ hB.1).1, hnote _ s t _ _ hB (h.clock _ _ hB.1).2⟩
      sleep := fun ms s t hB => hnote _ s t _ _ hB (h.sleep ms _ _ hB.1)
      cue := fun p s t hB => hnote _ s t _ _ hB (h.cue p _ _ hB.1) }

/-! ## The steps of the methods -/

/-- Two worlds that differ in what the trace and the observations hold, and in what the handshake
read of the unit. -/
structure Matched (B : σ → τ → Prop) (w : World σ) (w' : World τ) : Prop where
  outside : B w.io w'.io
  isOpen : w.ds.isOpen = w'.ds.isOpen
  unit : w.ds.unit = w'.ds.unit
  job : w.job = w'.job
  conn : w.conn = w'.conn

namespace Matched

variable {w : World σ} {w' : World τ}

omit [Outside σ] [Outside τ] in
theorem goesOn (h : Matched B w w') {s : σ} {t : τ} (hB : B s t) :
    Matched B { w with io := s } { w' with io := t } :=
  ⟨hB, h.isOpen, h.unit, h.job, h.conn⟩

omit [Outside σ] [Outside τ] in
theorem told (h : Matched B w w') (trace trace' : Trace) (obs obs' : List Obs) :
    Matched B { w with trace := trace, obs := obs } { w' with trace := trace', obs := obs' } :=
  ⟨h.outside, h.isOpen, h.unit, h.job, h.conn⟩

end Matched

section Primitives

variable {α : Type} {V : α → α → Prop}

omit [Outside σ] [Outside τ] in
theorem matched_onOutside {f : σ → Except Exc α × σ} {g : τ → Except Exc α × τ}
    (hfg : ∀ s t, B s t → Paired.Results V (f s).1 (g t).1 ∧ B (f s).2 (g t).2) :
    Paired (Matched B) V (onOutside f) (onOutside g) :=
  Paired.call fun _ _ hw => ⟨(hfg _ _ hw.outside).1, hw.goesOn (hfg _ _ hw.outside).2⟩

omit [Outside σ] [Outside τ] in
theorem matched_ofOutside {f : σ → α × σ} {g : τ → α × τ}
    (hfg : ∀ s t, B s t → (f s).1 = (g t).1 ∧ B (f s).2 (g t).2) :
    Paired (Matched B) Eq (ofOutside f) (ofOutside g) :=
  Paired.call fun _ _ hw => ⟨(hfg _ _ hw.outside).1, hw.goesOn (hfg _ _ hw.outside).2⟩

omit [Outside σ] [Outside τ] in
theorem matched_observe (o o' : Obs) : Paired (Matched B) Eq (observe o) (observe o') :=
  Paired.modify fun w w' hw => hw.told w.trace w'.trace (o :: w.obs) (o' :: w'.obs)

omit [Outside σ] [Outside τ] in
theorem matched_trace (f f' : Trace → Trace) : Paired (Matched B) Eq (modifyTrace f) (modifyTrace f') :=
  Paired.modify fun w w' hw => hw.told (f w.trace) (f' w'.trace) w.obs w'.obs

omit [Outside σ] [Outside τ] in
theorem matched_job (f : Job → Job) : Paired (Matched B) Eq (modifyJob f) (modifyJob f) :=
  Paired.modify fun _ _ hw =>
    ⟨hw.outside, hw.isOpen, hw.unit, congrArg f hw.job, hw.conn⟩

omit [Outside σ] [Outside τ] in
theorem matched_report (progress : Progress) (message : String) :
    Paired (Matched B) Eq (report progress message) (report progress message) := by
  cases progress with
  | none => exact Paired.pure rfl
  | note => exact matched_job _

omit [Outside σ] [Outside τ] in
theorem matched_traceStatus (st st' : Nat) :
    Paired (Matched B) Eq (traceStatus st) (traceStatus st') := by
  refine Paired.modify fun w w' hw => ?_
  split <;> split
  · exact hw.told _ _ w.obs w'.obs
  · exact hw.told _ w'.trace w.obs w'.obs
  · exact hw.told w.trace _ w.obs w'.obs
  · exact hw

end Primitives

section Methods

variable (h : Twins B)
include h

theorem matched_clock : Paired (Matched B) Eq clock clock := matched_ofOutside h.clock

theorem matched_cue (p : Phase) : Paired (Matched B) Eq (cue p) (cue p) :=
  matched_ofOutside fun s t hB => ⟨rfl, h.cue p s t hB⟩

theorem matched_close : Paired (Matched B) Eq close close := by
  refine Paired.seq (Paired.modify fun _ _ hw => ?_) fun _ =>
    matched_ofOutside fun s t hB => ⟨rfl, h.closes s t hB⟩
  exact ⟨hw.outside, rfl, hw.unit, hw.job, hw.conn⟩

theorem matched_orNotConnected {α : Type} {V : α → α → Prop} {m : Py σ α} {m' : Py τ α}
    (hm : Paired (Matched B) V m m') (what : String) :
    Paired (Matched B) V (orNotConnected what m) (orNotConnected what m') :=
  hm.attempt fun _ => Paired.ite ((matched_close h).seq fun _ => Paired.raise _) (Paired.raise _)

theorem matched_read (timeout_ms : Nat) :
    Paired (Matched B) (Option.Rel AlikePackets) (read timeout_ms) (read timeout_ms) := by
  refine Paired.seq (Paired.gets fun _ _ hw => hw.isOpen) fun _ =>
    (Paired.raiseIf _ _).seq fun _ => ?_
  refine (matched_orNotConnected h (matched_onOutside (h.read 64 timeout_ms)) _).bind
    fun raw raw' halike => ?_
  rcases halike with rfl | ⟨hlen, hlen', hpackets⟩
  · refine Paired.ite (Paired.pure .none) (Paired.ite (Paired.raise _) (Paired.pure ?_))
    exact .some (.refl _)
  · have hfull : ∀ raw : List Nat, 8 ≤ raw.length → ¬ raw.isEmpty = true := fun raw hraw hempty => by
      rw [List.isEmpty_iff.mp hempty] at hraw
      exact absurd hraw (by decide)
    rw [if_neg (hfull raw hlen), if_neg (hfull raw' hlen'), if_neg (Nat.not_lt.mpr hlen),
      if_neg (Nat.not_lt.mpr hlen')]
    exact Paired.pure (.some hpackets)

theorem matched_write (msgid cmd : Nat) (args : List Nat) :
    Paired (Matched B) Eq (write msgid cmd args) (write msgid cmd args) := by
  refine Paired.bind (V := fun ds ds' => ds.isOpen = ds'.isOpen ∧ ds.unit = ds'.unit)
    (Paired.gets fun _ _ hw => ⟨hw.isOpen, hw.unit⟩) fun ds ds' hds => ?_
  rw [hds.1, hds.2]
  refine (Paired.raiseIf _ _).seq fun _ => (Paired.raiseIf _ _).seq fun _ => ?_
  refine Paired.seq (matched_orNotConnected h (matched_onOutside fun s t hB => ?_) _) fun _ =>
    Paired.raiseIf _ _
  obtain ⟨hsame, hB'⟩ := h.write (reportBytes ds'.unit msgid cmd args) s t hB
  refine ⟨?_, hB'⟩
  rw [hsame]
  cases (Outside.write (reportBytes ds'.unit msgid cmd args) t).1 <;> exact rfl

/-- The masks of decoded bits. -/
abbrev Decoded (mask _want : Nat) : Prop := decodedBits &&& mask = mask

/-- **A wait on decoded bits** goes alike over both. -/
theorem matched_polls : PollTwin Decoded AlikePackets (Matched B) where
  msgid _ _ hpq := hpq.msgid
  read := matched_read h
  write := matched_write h
  clock := matched_clock h
  answered _ _ _ _ := matched_observe _ _
  busy := by decide
  matchState mask want reply reply' hmask hrel := by
    cases hrel with
    | none => exact Paired.pure rfl
    | @some p q hpq =>
      have hmatch : (p.status &&& mask = want) = (q.status &&& mask = want) := by
        rw [mask_congr hpq.status hmask]
      unfold matchState
      simp only [hpq.cmd, hmatch]
      refine Paired.ite ?_ (Paired.pure rfl)
      refine (matched_observe _ _).seq fun _ => (matched_traceStatus _ _).seq fun _ => ?_
      exact Paired.pure rfl

/-! ## The methods -/

theorem matched_status : Paired (Matched B)
    (fun st st' => st &&& decodedBits = st' &&& decodedBits) status status := by
  refine ((matched_polls h).require _ _).bind fun p q hpq => ?_
  exact (matched_observe _ _).seq fun _ => Paired.pure hpq.status

/-- A reading of one decoded bit. -/
theorem matched_reading {α : Type} {mask : Nat} (hmask : decodedBits &&& mask = mask)
    {f : Bool → Py σ α} {g : Bool → Py τ α} (hfg : ∀ b, Paired (Matched B) Eq (f b) (g b)) :
    Paired (Matched B) Eq (status >>= fun st => f (decide (st &&& mask ≠ 0)))
      (status >>= fun st => g (decide (st &&& mask ≠ 0))) := by
  refine (matched_status h).bind fun st st' hst => ?_
  rw [mask_congr hst hmask]
  exact hfg _

theorem matched_discInBay : Paired (Matched B) Eq discInBay discInBay :=
  matched_reading h (f := pure) (g := pure) (by decide) fun b => Paired.pure rfl

theorem matched_ensureHomed (progress : Progress) :
    Paired (Matched B) Eq (ensureHomed progress) (ensureHomed progress) := by
  refine (matched_status h).bind fun st st' hst => ?_
  rw [mask_congr hst (show decodedBits &&& stHomed = stHomed by decide)]
  refine Paired.ite (Paired.pure rfl) ?_
  refine ((matched_polls h).idleOr _).seq fun _ => (matched_report _ _).seq fun _ => ?_
  refine ((matched_polls h).require _ _).bind fun _ _ _ => ((matched_polls h).idleOr _).seq fun _ => ?_
  refine (matched_status h).bind fun st st' hst => ?_
  rw [mask_congr hst (show decodedBits &&& stHomed = stHomed by decide)]
  exact Paired.raiseIf _ _

theorem matched_refuse : Paired (Matched B) Eq refuseWithADiscOut refuseWithADiscOut :=
  (matched_discInBay h).seq fun _ => Paired.raiseIf _ _

theorem matched_moveTo (slot : Nat) (eject : Bool) (progress : Progress) :
    Paired (Matched B) Eq (moveTo slot eject progress) (moveTo slot eject progress) := by
  refine (Paired.raiseIf _ _).seq fun _ => ((matched_polls h).idleOr _).seq fun _ => ?_
  refine (matched_refuse h).seq fun _ => (Paired.when (matched_ensureHomed h _)).seq fun _ => ?_
  exact ((matched_polls h).require _ _).bind fun _ _ _ => (matched_polls h).idleOr _

theorem matched_park (progress : Progress) :
    Paired (Matched B) Eq (park progress) (park progress) :=
  (matched_report _ _).seq fun _ => (matched_moveTo h _ _ _).attempt fun _ =>
    Paired.ite (Paired.pure rfl) (Paired.raise _)

theorem matched_reset (progress : Progress) :
    Paired (Matched B) Eq (reset progress) (reset progress) := by
  have hcommand : ∀ cmd args {α : Type} {f : Py σ α} {g : Py τ α}, Paired (Matched B) Eq f g →
      Paired (Matched B) Eq (command cmd args ackMs >>= fun _ => f)
        (command cmd args ackMs >>= fun _ => g) := fun cmd args _ _ _ hfg =>
    ((matched_polls h).command cmd args ackMs).bind fun _ _ _ => hfg
  refine (matched_report _ _).seq fun _ => hcommand _ _ (hcommand _ _ (hcommand _ _ ?_))
  refine ((matched_polls h).idleOr _).seq fun _ => (matched_refuse h).seq fun _ => hcommand _ _ ?_
  refine (matched_report _ _).seq fun _ => ?_
  exact ((matched_polls h).require _ _).bind fun _ _ _ => (matched_polls h).idleOr _

theorem matched_ingest (progress : Progress) :
    Paired (Matched B) Eq (ingest progress) (ingest progress) :=
  (matched_polls h).ingest matched_report progress

theorem matched_retract (progress : Progress) :
    Paired (Matched B) Eq (retract progress) (retract progress) := by
  have hpoll := matched_polls h
  refine (matched_report _ _).seq fun _ => (hpoll.waitState hpoll.busy _).seq fun _ => ?_
  refine Paired.seq (Paired.attempt ((hpoll.require _ _).bind fun _ _ _ => Paired.pure rfl) fun exc => ?_)
    fun acked => ?_
  · cases exc with
    | deviceError _ => exact Paired.pure rfl
    | _ => exact Paired.raise _
  · refine (hpoll.idleOr _).seq fun _ => (matched_discInBay h).seq fun _ => ?_
    exact (Paired.raiseIf _ _).seq fun _ => Paired.pure rfl

theorem matched_waitForInsert (timeout_ms : Nat) :
    Paired (Matched B) Eq (waitForInsert timeout_ms) (waitForInsert timeout_ms) :=
  (matched_polls h).waitState (by decide) timeout_ms

theorem matched_waitForTake (timeout_ms : Nat) :
    Paired (Matched B) Eq (waitForTake timeout_ms) (waitForTake timeout_ms) :=
  (matched_polls h).waitState (by decide) timeout_ms

/-! ## Jobs and statements -/

theorem matched_setPhase (phase : Phase) (message : String) (window_s : Option Nat) :
    Paired (Matched B) Eq (setPhase phase message window_s) (setPhase phase message window_s) := by
  refine Paired.seq ?_ fun deadline => (matched_job _).seq fun _ => matched_cue h _
  cases window_s with
  | none => exact Paired.pure rfl
  | some window => exact (matched_clock h).seq fun now => Paired.pure rfl

end Methods

section Statements

omit [Outside σ] [Outside τ]

theorem Matched.conn_set {w : World σ} {w' : World τ} (h : Matched B w w') (conn : Conn) :
    Matched B { w with conn := conn } { w' with conn := conn } :=
  ⟨h.outside, h.isOpen, h.unit, h.job, rfl⟩

theorem matched_execute {α : Type} (f : Catalog → Except Exc (α × Catalog)) :
    Paired (Matched B) Eq (execute f) (execute f) := by
  refine Paired.call fun w w' hw => ?_
  dsimp only
  rw [hw.conn]
  split
  · exact ⟨rfl, hw.conn_set _⟩
  · split <;> exact ⟨rfl, hw.conn_set _⟩

theorem matched_commit : Paired (Matched (σ := σ) (τ := τ) B) Eq commit commit := by
  refine Paired.call fun w w' hw => ?_
  dsimp only
  rw [hw.conn]
  split <;> exact ⟨rfl, hw.conn_set _⟩

theorem matched_rollback : Paired (Matched (σ := σ) (τ := τ) B) Eq rollback rollback := by
  refine Paired.call fun w w' hw => ?_
  dsimp only
  rw [hw.conn]
  split <;> exact ⟨rfl, hw.conn_set _⟩

theorem matched_transaction {α : Type} {block : Py σ α} {block' : Py τ α}
    (hb : Paired (Matched B) Eq block block') :
    Paired (Matched B) Eq (transaction block) (transaction block') :=
  Paired.attempt (hb.seq fun _ => matched_commit.seq fun _ => Paired.pure rfl) fun _ =>
    matched_rollback.seq fun _ => Paired.raise _

theorem matched_now {α : Type} {f : Stamp → Py σ α} {g : Stamp → Py τ α}
    (hfg : ∀ now, Paired (Matched B) Eq (f now) (g now)) :
    Paired (Matched B) Eq (Prog.gets (fun w => w.conn.now) >>= f)
      (Prog.gets (fun w => w.conn.now) >>= g) :=
  Paired.seq (Paired.gets fun _ _ hw => congrArg Conn.now hw.conn) hfg

theorem matched_logEvent (kind : EventKind) (discId slot : Option Nat) (detail : Option String) :
    Paired (Matched (σ := σ) (τ := τ) B) Eq (logEvent kind discId slot detail)
      (logEvent kind discId slot detail) :=
  matched_now fun _ => matched_execute _

theorem matched_createDisc (slot : Nat) (title : String) (kind : EventKind) :
    Paired (Matched (σ := σ) (τ := τ) B) Eq (createDisc slot title kind) (createDisc slot title kind) :=
  matched_now fun _ => matched_transaction <| (matched_execute _).seq fun _ =>
    (matched_logEvent _ _ _ _).seq fun _ => Paired.pure rfl

theorem matched_markOut (discId : Nat) (kind : EventKind) (detail : Option String) :
    Paired (Matched (σ := σ) (τ := τ) B) Eq (markOut discId kind detail) (markOut discId kind detail) :=
  matched_now fun _ => matched_transaction <| (matched_execute _).seq fun _ =>
    (matched_execute _).seq fun _ => matched_logEvent _ _ _ _

theorem matched_markStored (discId : Nat) (kind : EventKind) (detail : Option String) :
    Paired (Matched (σ := σ) (τ := τ) B) Eq (markStored discId kind detail)
      (markStored discId kind detail) :=
  matched_now fun _ => matched_transaction <| (matched_execute _).seq fun _ =>
    (matched_execute _).seq fun _ => matched_logEvent _ _ _ _

theorem matched_writeRow (slot : Nat) (discId : Option Nat) :
    Paired (Matched (σ := σ) (τ := τ) B) Eq (writeRow slot discId) (writeRow slot discId) := by
  cases discId with
  | none => exact matched_createDisc _ _ _
  | some id => exact (matched_markStored _ _ _).seq fun _ => Paired.pure rfl

theorem matched_mark (label : String) :
    Paired (Matched (σ := σ) (τ := τ) B) Eq (mark label) (mark label) := matched_trace _ _

/-- A failure is written down and reported. -/
theorem matched_logged (kind : EventKind) (discId slot : Option Nat) (detail : Option String)
    (error : String) (result : JobResult) : Paired (Matched (σ := σ) (τ := τ) B) Eq
      (do logEvent kind discId slot detail; commit; fail error result)
      (do logEvent kind discId slot detail; commit; fail error result) :=
  (matched_logEvent _ _ _ _).seq fun _ => matched_commit.seq fun _ => matched_job _

end Statements

/-! ## The flows -/

section Flows

variable (h : Twins B)
include h

theorem matched_watch : Paired (Matched B) Eq watch watch := by
  refine (matched_mark _).seq fun _ => (matched_clock h).seq fun now => Paired.attempt ?_ fun exc => ?_
  · refine Paired.loop ((matched_clock h).seq fun now => Paired.ite ?_ (Paired.pure (.some rfl)))
    refine (matched_status h).bind fun st st' _ => (matched_trace _ _).seq fun _ => ?_
    exact Paired.pure .none
  · exact Paired.ite (matched_mark _) (Paired.raise _)

theorem matched_runReset : Paired (Matched B) Eq runReset runReset :=
  (matched_setPhase h _ _ _).seq fun _ => (matched_reset h _).seq fun _ =>
    (matched_logEvent _ _ _ _).seq fun _ => matched_commit.seq fun _ => matched_job _

theorem matched_ejectNotTaken (discId slot : Nat) :
    Paired (Matched B) Eq (ejectNotTaken discId slot) (ejectNotTaken discId slot) := by
  refine (matched_setPhase h _ _ _).seq fun _ => (matched_mark _).seq fun _ => Paired.seq ?_ fun acked => ?_
  · refine Paired.attempt ?_ fun exc => Paired.ite ?_ (Paired.raise _)
    · exact (matched_retract h _).seq fun _ => Paired.pure rfl
    · refine Paired.seq ?_ fun _ => Paired.pure rfl
      exact (matched_mark _).seq fun _ => matched_logged _ _ _ _ _ _
  · cases acked with
    | none => exact Paired.pure rfl
    | some acked =>
      exact (matched_mark _).seq fun _ => (matched_park h _).seq fun _ => matched_logged _ _ _ _ _ _

theorem matched_ejectPresented (discId slot : Nat) (title : String) :
    Paired (Matched B) Eq (ejectPresented discId slot title) (ejectPresented discId slot title) := by
  refine (matched_setPhase h _ _ _).seq fun _ => (matched_mark _).seq fun _ => ?_
  refine (matched_waitForTake h _).seq fun taken => Paired.ite ?_ (matched_ejectNotTaken h _ _)
  refine (matched_setPhase h _ _ _).seq fun _ => (matched_mark _).seq fun _ => ?_
  exact (matched_park h _).seq fun _ => (matched_markOut _ _ _).seq fun _ => matched_job _

theorem matched_runEject (discId : Nat) :
    Paired (Matched B) Eq (runEject discId) (runEject discId) := by
  refine (matched_execute _).seq fun disc => ?_
  cases disc with
  | none => exact matched_job _
  | some disc =>
    refine (matched_setPhase h _ _ _).seq fun _ => (matched_mark _).seq fun _ => ?_
    refine (matched_moveTo h _ _ _).seq fun _ => (matched_discInBay h).seq fun inBay => ?_
    refine Paired.ite (matched_ejectPresented h _ _ _) ?_
    refine (matched_setPhase h _ _ _).seq fun _ => (matched_mark _).seq fun _ => ?_
    exact (matched_park h _).seq fun _ => matched_logged _ _ _ _ _ _

theorem matched_addIngest : Paired (Matched B) Eq addIngest addIngest := by
  refine (matched_setPhase h _ _ _).seq fun _ => (matched_mark _).seq fun _ => ?_
  refine (matched_ingest h _).seq fun _ => (matched_mark _).seq fun _ => ?_
  exact (matched_setPhase h _ _ _).seq fun _ => matched_park h _

theorem matched_addFinish (slot : Nat) (discId : Option Nat) :
    Paired (Matched B) Eq (addFinish slot discId) (addFinish slot discId) := by
  have hcatalogue : Paired (Matched B) Eq (catalogue slot discId) (catalogue slot discId) :=
    (matched_writeRow _ _).seq fun _ => (matched_observe _ _).seq fun _ => Paired.pure rfl
  refine hcatalogue.seq fun id => (matched_watch h).seq fun _ => ?_
  cases discId with
  | none => exact matched_job _
  | some _ => exact (matched_execute _).seq fun disc => matched_job _

theorem matched_runAdd (slot : Nat) (discId : Option Nat) :
    Paired (Matched B) Eq (runAdd slot discId) (runAdd slot discId) := by
  refine (matched_setPhase h _ _ _).seq fun _ => (matched_mark _).seq fun _ => ?_
  refine (matched_moveTo h _ _ _).seq fun _ => (matched_setPhase h _ _ _).seq fun _ => ?_
  refine (matched_mark _).seq fun _ => (matched_waitForInsert h _).seq fun inserted => Paired.ite ?_ ?_
  · exact (matched_addIngest h).seq fun _ => matched_addFinish h _ _
  · refine (matched_setPhase h _ _ _).seq fun _ => (matched_park h _).seq fun _ => ?_
    exact matched_logged _ _ _ _ _ _

end Flows

/-- The methods that act on the unit, and the flows. -/
inductive Deed where
  | moveTo (slot : Nat) (eject : Bool) (progress : Progress)
  | park (progress : Progress)
  | reset (progress : Progress)
  | ingest (progress : Progress)
  | retract (progress : Progress)
  | ensureHomed (progress : Progress)
  | waitForInsert (timeout_ms : Nat)
  | waitForTake (timeout_ms : Nat)
  | flow (f : Flow)
  deriving DecidableEq, Repr

/-- What it answers, with `true` for `None`. -/
def Deed.run {σ : Type} [Outside σ] : Deed → Py σ Bool
  | moveTo slot eject progress => do StakkaWeb.moveTo slot eject progress; pure true
  | park progress => do StakkaWeb.park progress; pure true
  | reset progress => do StakkaWeb.reset progress; pure true
  | ingest progress => do StakkaWeb.ingest progress; pure true
  | retract progress => StakkaWeb.retract progress
  | ensureHomed progress => do StakkaWeb.ensureHomed progress; pure true
  | waitForInsert timeout_ms => StakkaWeb.waitForInsert timeout_ms
  | waitForTake timeout_ms => StakkaWeb.waitForTake timeout_ms
  | flow f => do f.run; pure true

theorem Deed.matched (h : Twins B) (deed : Deed) : Paired (Matched B) Eq deed.run deed.run := by
  have hunit : ∀ {m : Py σ Unit} {m' : Py τ Unit}, Paired (Matched B) Eq m m' →
      Paired (Matched B) Eq (m >>= fun _ => pure true) (m' >>= fun _ => pure true) := fun hm =>
    hm.seq fun _ => Paired.pure rfl
  cases deed with
  | moveTo slot eject progress => exact hunit (matched_moveTo h slot eject progress)
  | park progress => exact hunit (matched_park h progress)
  | reset progress => exact hunit (matched_reset h progress)
  | ingest progress => exact hunit (matched_ingest h progress)
  | retract progress => exact matched_retract h progress
  | ensureHomed progress => exact hunit (matched_ensureHomed h progress)
  | waitForInsert timeout_ms => exact matched_waitForInsert h timeout_ms
  | waitForTake timeout_ms => exact matched_waitForTake h timeout_ms
  | flow f =>
    cases f with
    | reset => exact hunit (matched_runReset h)
    | eject discId => exact hunit (matched_runEject h discId)
    | add slot => exact hunit (matched_runAdd h slot none)
    | return_ slot discId => exact hunit (matched_runAdd h slot (some discId))

/-- **Undecoded bits decide nothing.** Over two transports that differ in nothing but undecoded
bits of status words, each method and each flow makes the same calls with the same bytes, answers
or raises the same, and leaves the same job, with the same phases and messages all along, and the same
database. -/
theorem undecoded_bits_decide_nothing (h : Twins B) (deed : Deed) (n : Nat) (w : World (Taped σ))
    (w' : World (Taped τ)) (hw : Matched (OnTape B) w w') :
    (deed.run n w).1 = (deed.run n w').1 ∧
      (deed.run n w).2.io.tape.map Prod.fst = (deed.run n w').2.io.tape.map Prod.fst ∧
      (deed.run n w).2.job = (deed.run n w').2.job ∧
      (deed.run n w).2.conn = (deed.run n w').2.conn := by
  obtain ⟨hout, hw'⟩ := deed.matched h.onTape n w w' hw
  exact ⟨hout.eq, hw'.outside.2, hw'.job, hw'.conn⟩

/-- Two scripts whose reads differ in undecoded bits at most. -/
def SameScript (p q : Puppet) : Prop :=
  ∃ reads, q = { p with reads := reads } ∧ ∀ k, Paired.Results AlikeReports (p.reads k) (reads k)

theorem twins_sameScript : Twins SameScript where
  opens p q h := by
    obtain ⟨reads, rfl, hreads⟩ := h
    exact ⟨rfl, reads, rfl, hreads⟩
  closes _ _ h := h
  isPresent _ _ h := ⟨rfl, h⟩
  read _ _ p q h := by
    obtain ⟨reads, rfl, hreads⟩ := h
    exact ⟨hreads p.hasRead, reads, rfl, hreads⟩
  write _ p q h := by
    obtain ⟨reads, rfl, hreads⟩ := h
    exact ⟨rfl, reads, rfl, hreads⟩
  clock p q h := by
    obtain ⟨reads, rfl, hreads⟩ := h
    exact ⟨rfl, reads, rfl, hreads⟩
  sleep _ p q h := by
    obtain ⟨reads, rfl, hreads⟩ := h
    exact ⟨reads, rfl, hreads⟩
  cue _ _ _ h := h

/-- An open unit that answers every command with its status: idle and homed, and bit 8 as given. -/
def humming (bit8 : Nat) : World (Taped Puppet) :=
  { World.boot (.blank (.reading (fun i => .ok
      [0x01, 0, if i % 2 = 0 then 0 else 1, cmdRequestState, 0, bit8, 1, 0]) 0)) []
    with ds := ⟨true, 0, some 1, none, false⟩ }

theorem undecoded_bits_humming :
    (Deed.run (.flow .reset) 5 (humming 1)).1 = (Deed.run (.flow .reset) 5 (humming 0)).1 ∧
      (Deed.run (.flow .reset) 5 (humming 1)).2.job.phase = .done := by
  have h := undecoded_bits_decide_nothing twins_sameScript (.flow .reset) 5 (humming 1) (humming 0)
    ⟨⟨⟨_, rfl, fun k => .inr ⟨Nat.le_refl 8, Nat.le_refl 8, ?_⟩⟩, rfl⟩, rfl, rfl, rfl, rfl⟩
  · exact ⟨h.1, by decide +kernel⟩
  · have hbits : (1 <<< 8 ||| 1) &&& decodedBits = (0 <<< 8 ||| 1) &&& decodedBits := by decide
    exact ⟨rfl, fun hcmd => absurd (List.mem_cons_self ..) hcmd, hbits⟩

end StakkaWeb
