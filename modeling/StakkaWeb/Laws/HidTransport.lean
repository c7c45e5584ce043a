import StakkaWeb.HidTransport
import StakkaWeb.Laws.Handle

/-!
# No device is lost, and none is used after its end

`HidTransport` trusts its client to open it only when it is closed and to use it only when it is open.
`DiscStakka` is such a client: it believes its handle open exactly when the transport has a device,
through every failed open, broken handshake and dropped handle.
-/

set_option autoImplicit false

namespace StakkaWeb

open Lib Lib.Prog

/-! ## The transport alone -/

section Devices

variable {calls : List HidCall} {device : Nat}

/-- A device that was opened and not closed is the one in use. -/
theorem Proper.inUse_of_opened (h : Proper calls) (hopened : .opened device ∈ calls) :
    .closed device ∈ calls ∨ inUse calls = some device := by
  induction calls with
  | nil => cases hopened
  | cons call rest ih =>
    cases call with
    | opened d =>
      rcases List.mem_cons.mp hopened with heq | hrest
      · cases heq
        exact .inr rfl
      · rcases ih h.2.2 hrest with hclosed | huse
        · exact .inl (List.mem_cons_of_mem _ hclosed)
        · rw [h.1] at huse
          cases huse
    | closed d =>
      have hrest := (List.mem_cons.mp hopened).resolve_left nofun
      rcases ih h.2 hrest with hclosed | huse
      · exact .inl (List.mem_cons_of_mem _ hclosed)
      · rw [h.1] at huse
        cases huse
        exact .inl List.mem_cons_self
    | read d | wrote d =>
      have hrest := (List.mem_cons.mp hopened).resolve_left nofun
      rcases ih h.2 hrest with hclosed | huse
      · exact .inl (List.mem_cons_of_mem _ hclosed)
      · exact .inr huse
    | missed => exact h.elim

end Devices

namespace HidTransport

variable {κ : Type}

/-- The transport has one device at most, the one in use, and the next one will be a new one. -/
structure Owned (s : HidTransport κ) : Prop where
  proper : Proper s.calls
  current : s.dev = inUse s.calls
  made : ∀ device, .opened device ∈ s.calls → device < s.made

theorem Owned.congr {s s' : HidTransport κ} (h : s.Owned) (hdev : s'.dev = s.dev)
    (hcalls : s'.calls = s.calls) (hmade : s.made ≤ s'.made) : s'.Owned := by
  refine ⟨hcalls ▸ h.proper, ?_, ?_⟩
  · rw [hdev, hcalls]
    exact h.current
  · intro device hopened
    rw [hcalls] at hopened
    exact Nat.lt_of_lt_of_le (h.made device hopened) hmade

/-- A read or a write, on a device that is there. -/
theorem Owned.onDevice {α : Type} {s : HidTransport κ} (h : s.Owned) (hdev : s.dev.isSome = true) (name : String)
    {call : Nat → HidCall} (hcall : ∀ d, call d = .read d ∨ call d = .wrote d)
    (f : Nat → κ → Except Exc α × κ) :
    (s.onDevice name call f).2.Owned ∧ (s.onDevice name call f).2.dev = s.dev := by
  unfold HidTransport.onDevice
  split
  next hnone =>
    rw [hnone] at hdev
    cases hdev
  next device hsome =>
    have huse : inUse s.calls = some device := h.current ▸ hsome
    have hsame : inUse (call device :: s.calls) = inUse s.calls ∧
        (∀ d, .opened d ≠ call device) ∧ Proper (call device :: s.calls) := by
      rcases hcall device with hread | hwrote
      · rw [hread]
        exact ⟨rfl, nofun, huse, h.proper⟩
      · rw [hwrote]
        exact ⟨rfl, nofun, huse, h.proper⟩
    obtain ⟨hinUse, hnew, hproper⟩ := hsame
    refine ⟨⟨hproper, h.current.trans hinUse.symm, ?_⟩, rfl⟩
    intro d hopened
    exact h.made d ((List.mem_cons.mp hopened).resolve_left (hnew d))

variable [HidLibrary κ] {s s' : HidTransport κ}

/-- An open that raises leaves the transport without what it made. -/
theorem openHid_error {e : Exc} (h : s.openHid = (.error e, s')) :
    s'.dev = s.dev ∧ s'.calls = s.calls ∧ s.made ≤ s'.made := by
  unfold openHid at h
  split at h
  · cases h
    exact ⟨rfl, rfl, Nat.le_refl _⟩
  · split at h <;> cases h
    exact ⟨rfl, rfl, Nat.le_succ _⟩

theorem Owned.openHid_ok (h : s.Owned) (hnone : s.dev = none) (hopen : s.openHid = (.ok (), s')) :
    s'.Owned ∧ s'.dev = some s.made := by
  unfold openHid at hopen
  split at hopen
  · cases hopen
  split at hopen
  · cases hopen
  cases hopen
  refine ⟨⟨⟨?_, ?_, h.proper⟩, rfl, ?_⟩, rfl⟩
  · rw [← h.current, hnone]
  · intro hopened
    exact Nat.lt_irrefl _ (h.made _ hopened)
  · intro device hopened
    rcases List.mem_cons.mp hopened with heq | hrest
    · cases heq
      exact Nat.lt_succ_self _
    · exact Nat.lt_succ_of_lt (h.made device hrest)

theorem Owned.closeHid (h : s.Owned) : s.closeHid.Owned ∧ s.closeHid.dev = none := by
  unfold HidTransport.closeHid
  split
  next hnone => exact ⟨h, hnone⟩
  next device hdev =>
    refine ⟨⟨⟨?_, h.proper⟩, rfl, ?_⟩, rfl⟩
    · rw [← h.current, hdev]
    · intro d hopened
      exact h.made d ((List.mem_cons.mp hopened).resolve_left nofun)

theorem presentHid_same : s.presentHid.2.dev = s.dev ∧ s.presentHid.2.calls = s.calls ∧
    s.presentHid.2.made = s.made := by
  unfold presentHid
  split
  · exact ⟨rfl, rfl, rfl⟩
  · split
    · exact ⟨rfl, rfl, rfl⟩
    · exact ⟨rfl, rfl, rfl⟩

end HidTransport

/-! ## The client -/

section Client

variable {κ : Type}

/-- The client believes its handle open when the transport has a device. -/
structure Tied (w : World (HidTransport κ)) : Prop where
  owned : w.io.Owned
  connected : w.ds.isOpen = w.io.dev.isSome

/-- A step that leaves the devices alone, and what the client believes. -/
theorem Tied.step {w w' : World (HidTransport κ)} (h : Tied w) (hdev : w'.io.dev = w.io.dev)
    (hcalls : w'.io.calls = w.io.calls) (hmade : w'.io.made = w.io.made)
    (hds : w'.ds.isOpen = w.ds.isOpen) : Tied w' := by
  refine ⟨h.owned.congr hdev hcalls (Nat.le_of_eq hmade.symm), ?_⟩
  rw [hds, hdev]
  exact h.connected

theorem Tied.free {w w' : World (HidTransport κ)} (h : Tied w) (hio : w'.io = w.io)
    (hds : w'.ds = w.ds) : Tied w' :=
  h.step (by rw [hio]) (by rw [hio]) (by rw [hio]) (by rw [hds])

theorem tied_connFree : ConnFree (Tied (κ := κ)) := fun _ _ h => h.free rfl rfl

theorem tied_outside {α : Type} {f : HidTransport κ → α × HidTransport κ}
    (hf : ∀ s, (f s).2.dev = s.dev ∧ (f s).2.calls = s.calls ∧ (f s).2.made = s.made) :
    Keeps (Tied (κ := κ)) (ofOutside f) := by
  apply keeps_ofOutside
  intro w h
  obtain ⟨hdev, hcalls, hmade⟩ := hf w.io
  exact h.step hdev hcalls hmade rfl

theorem tied_job (f : Job → Job) : Keeps (Tied (κ := κ)) (modifyJob f) :=
  Keeps.modify fun _ h => h.free rfl rfl

theorem tied_trace (f : Trace → Trace) : Keeps (Tied (κ := κ)) (modifyTrace f) :=
  Keeps.modify fun _ h => h.free rfl rfl

variable [HidLibrary κ]

theorem tied_close {R : Option Exc → World (HidTransport κ) → Prop} :
    Triple (fun w : World (HidTransport κ) => w.io.Owned) close
      (fun _ w => Tied w ∧ w.ds.isOpen = false) R := by
  have hshut : Triple (fun w : World (HidTransport κ) => w.io.Owned)
      (modifyDs DiscStakka.shut) (fun _ w => w.io.Owned ∧ w.ds.isOpen = false) R :=
    triple_modifyDs fun w h => ⟨h, rfl⟩
  apply hshut.bind
  intro _
  apply triple_ofOutside
  intro w h
  obtain ⟨howned, hnone⟩ := h.1.closeHid
  have hio : w.io.closeHid.dev.isSome = false := by
    rw [hnone]
    rfl
  exact ⟨⟨howned, h.2.trans hio.symm⟩, h.2⟩

/-- A read or a write that the transport makes, or that makes the client close. -/
theorem tied_transfer {α : Type} {what : String}
    {f : HidTransport κ → Except Exc α × HidTransport κ}
    (hf : ∀ s : HidTransport κ, s.Owned → s.dev.isSome = true → (f s).2.Owned ∧ (f s).2.dev = s.dev) :
    Triple (fun w => Tied w ∧ w.ds.isOpen = true) (orNotConnected what (onOutside f))
      (fun _ => Tied) (fun _ => Tied) := by
  have hstep : ∀ w : World (HidTransport κ), Tied w ∧ w.ds.isOpen = true →
      Tied { w with io := (f w.io).2 } := by
    intro w h
    have hsome : w.io.dev.isSome = true := h.1.connected ▸ h.2
    obtain ⟨howned, hdev⟩ := hf w.io h.1.owned hsome
    refine ⟨howned, ?_⟩
    show w.ds.isOpen = (f w.io).2.dev.isSome
    rw [hdev]
    exact h.1.connected
  apply transfer_rule (E := fun w => w.io.Owned)
  · exact fun w _ h _ => hstep w h
  · exact fun w _ h _ _ => (hstep w h).owned
  · exact fun w _ h _ _ => hstep w h
  · intro _
    exact tied_close.post fun _ _ h => h.1

theorem tied_read (timeout_ms : Nat) :
    Goes (Tied (κ := κ)) (fun _ => Tied) (read timeout_ms) := by
  apply read_rule (fun _ _ h _ => h) (fun _ _ h => h)
  apply tied_transfer
  intro s h hsome
  exact h.onDevice hsome "read" (fun _ => .inl rfl) _

theorem tied_write (msgid cmd : Nat) (args : List Nat) :
    Goes (Tied (κ := κ)) (fun _ => Tied) (write msgid cmd args) := by
  apply write_rule (fun _ _ h _ => h) (fun _ _ h => h)
  intro buf
  have hwrite : Triple (fun w : World (HidTransport κ) => Tied w ∧ w.ds.isOpen = true)
      (orNotConnected "write failed: " (onOutside (Outside.write buf))) (fun _ => Tied)
      (fun _ => Tied) := by
    apply tied_transfer
    intro s h hsome
    exact h.onDevice hsome "write" (fun _ => .inr rfl) _
  apply hwrite.post
  intro count w h
  split
  · exact h
  · exact h

theorem tied_clock : Keeps (Tied (κ := κ)) clock := tied_outside fun _ => ⟨rfl, rfl, rfl⟩

theorem tied_cue (p : Phase) : Keeps (Tied (κ := κ)) (cue p) :=
  tied_outside fun _ => ⟨rfl, rfl, rfl⟩

/-- The steps of the methods. -/
theorem tied_link : LinkRule (fun _ _ => True) (Tied (κ := κ)) (fun _ => Tied) where
  read := tied_read
  write msgid _ _ _ _ := tied_write msgid _ _
  clock := tied_clock
  answered _ _ := keeps_observe fun _ h => h.free rfl rfl
  hang _ h := h
  raises _ _ h := h

theorem tied_moves : MethodRule (fun _ _ => True) (Tied (κ := κ)) (fun _ => Tied) :=
  MethodRule.of_link tied_link trivial (fun _ _ hio hds h => h.free hio hds) fun _ _ h _ => h

/-! ## Opening -/

theorem tied_openOnce :
    Triple (fun w : World (HidTransport κ) => Tied w ∧ w.ds.isOpen = false) openOnce
      (fun failed w => Tied w ∧ (failed ≠ none → w.ds.isOpen = false)) (fun _ => Tied) := by
  have hopens : Triple (fun w : World (HidTransport κ) => Tied w ∧ w.ds.isOpen = false)
      (onOutside Outside.opens) (fun _ w => w.io.Owned ∧ w.io.dev.isSome = true)
      (fun _ w => Tied w ∧ w.ds.isOpen = false) := by
    apply triple_onOutside
    · intro w _ s h hr
      have hnone : w.io.dev = none := by
        apply Option.not_isSome_iff_eq_none.mp
        rw [← h.1.connected, h.2]
        exact nofun
      obtain ⟨howned, hdev⟩ := h.1.owned.openHid_ok hnone hr
      refine ⟨howned, ?_⟩
      show s.dev.isSome = true
      rw [hdev]
      rfl
    · intro w e s h hr
      obtain ⟨hdev, hcalls, hmade⟩ := HidTransport.openHid_error hr
      refine ⟨⟨h.1.owned.congr hdev hcalls hmade, ?_⟩, h.2⟩
      show w.ds.isOpen = s.dev.isSome
      rw [hdev]
      exact h.1.connected
  have hmark : Triple (fun w : World (HidTransport κ) => w.io.Owned ∧ w.io.dev.isSome = true)
      (modifyDs fun ds => { ds with isOpen := true }) (fun _ => Tied)
      (fun _ w => Tied w ∧ w.ds.isOpen = false) :=
    triple_modifyDs fun w h => ⟨h.1, h.2.symm⟩
  have hgreet : Triple (Tied (κ := κ))
      (Prog.attempt (do handshake; pure none) fun exc => do
        close
        pure (some exc))
      (fun failed w => Tied w ∧ (failed ≠ none → w.ds.isOpen = false))
      (fun e w => Tied w ∧ (e ≠ none → w.ds.isOpen = false)) := by
    have hds : ∀ f : DiscStakka → DiscStakka, (∀ ds, (f ds).isOpen = ds.isOpen) →
        Goes (Tied (κ := κ)) (fun _ => Tied) (modifyDs f) := fun f hf =>
      triple_modifyDs fun w h => h.step rfl rfl rfl (hf w.ds)
    have hshake : Goes (Tied (κ := κ)) (fun _ => Tied) handshake :=
      tied_link.handshake (fun _ _ => trivial) (fun _ => hds _ fun _ => rfl)
        (fun _ => hds _ fun _ => rfl) fun _ => hds _ fun _ => rfl
    apply Triple.attempt (E := fun _ => Tied)
    · apply Triple.bind hshake
      intro _
      exact Triple.pure fun w h => ⟨h, fun hne => absurd rfl hne⟩
    · intro exc
      apply (tied_close.pre fun _ h => h.owned).bind
      intro _
      exact Triple.pure fun w h => ⟨h.1, fun _ => h.2⟩
    · exact fun _ h => ⟨h, fun hne => absurd rfl hne⟩
  apply Triple.attempt (E := fun e w => Tied w ∧ (e ≠ none → w.ds.isOpen = false))
  · apply (hopens.conseq (fun _ h => h) (fun _ _ h => h) fun _ _ h => ⟨h.1, fun _ => h.2⟩).bind
    intro _
    apply (hmark.conseq (fun _ h => h) (fun _ _ h => h) fun _ _ h => ⟨h.1, fun _ => h.2⟩).bind
    exact fun _ => hgreet
  · intro exc
    exact Triple.ite (fun _ => Triple.pure fun w h => ⟨h.1, fun _ => h.2 nofun⟩)
      fun _ => Triple.raise fun w h => h.1
  · exact fun _ h => h.1

theorem tied_openUnit : Keeps (Tied (κ := κ)) openUnit := by
  have hfrom : ∀ left last, Triple (fun w : World (HidTransport κ) => Tied w ∧ w.ds.isOpen = false)
      (openFrom last left) (fun _ => Tied) (fun _ => Tied) := by
    intro left
    induction left with
    | zero => exact fun last => Triple.raise fun w h => h.1
    | succ left ih =>
      intro last
      apply tied_openOnce.bind
      intro failed
      cases failed with
      | none => exact Triple.pure fun w h => h.1
      | some exc =>
        have hsleep : Triple (fun w : World (HidTransport κ) => Tied w ∧ w.ds.isOpen = false)
            (ofOutside fun s => ((), Outside.sleep 400 s))
            (fun _ w => Tied w ∧ w.ds.isOpen = false) (fun _ => Tied) :=
          triple_ofOutside fun w h => ⟨h.1.step rfl rfl rfl rfl, h.2⟩
        apply Triple.bind ((Triple.when (fun _ => hsleep) fun _ h _ => h).pre fun w h =>
          ⟨h.1, h.2 nofun⟩)
        exact fun _ => ih exc.text
  have hlook : Triple (Tied (κ := κ)) (Prog.gets (fun w => w.ds.isOpen) : Py (HidTransport κ) Bool)
      (fun b w => b = w.ds.isOpen ∧ Tied w) (fun _ => Tied) :=
    Triple.gets fun w h => ⟨rfl, h⟩
  apply hlook.bind
  intro isOpen
  apply Triple.ite
  · exact fun _ => Triple.pure fun w h => h.2
  · intro hshut
    exact (hfrom 3 _).pre fun w h => ⟨h.2, h.1.symm.trans (Bool.eq_false_iff.mpr hshut)⟩

/-! ## The accesses -/

/-- The steps of the flows. -/
theorem tied_jobs : JobRule (fun _ _ => True) (Tied (κ := κ)) (fun _ => Tied) where
  toMethodRule := tied_moves
  mark _ := tied_trace _
  job := tied_job
  moves _ _ progress := tied_moves.moveTo (fun _ => trivial) trivial (fun _ _ _ h => h) progress
  setPhase p message window_s := by
    have hdeadline : Keeps (Tied (κ := κ)) (deadlineIn window_s) := by
      cases window_s with
      | none => exact Keeps.pure _
      | some window => exact tied_clock.bind fun _ => Keeps.pure _
    exact hdeadline.bind fun _ => (tied_job _).bind fun _ => tied_cue _
  catalogued := keeps_observe fun _ h => h.free rfl rfl
  watched := Keeps.bind tied_moves.status fun _ => (tied_trace _).bind fun _ => Keeps.pure _

theorem tied_flow (flow : Flow) : Keeps (Tied (κ := κ)) flow.run :=
  tied_jobs.flow tied_connFree.store
    (tied_moves.reset (fun _ _ => trivial) trivial trivial .note) trivial trivial flow

theorem tied_runOwned (traced : Bool) (flow : Flow) :
    Keeps (Tied (κ := κ)) (runOwned traced flow.run) := by
  have htracing : ∀ b, Keeps (Tied (κ := κ)) (modifyDs fun ds => { ds with tracing := b }) :=
    fun _ => Keeps.modify fun _ h => h.step rfl rfl rfl rfl
  have hbody : Keeps (Tied (κ := κ)) (ownedBody flow.run) :=
    tied_openUnit.bind fun _ => (htracing true).bind fun _ => tied_connFree.connect.bind fun _ =>
      tied_flow flow
  have hreport : ∀ exc, Keeps (Tied (κ := κ)) (reportFailure exc) := by
    intro exc
    apply (tied_connFree.logFailure exc).bind
    intro _
    cases exc <;> exact tied_job _
  have hfinally : Keeps (Tied (κ := κ)) ownedFinally := by
    have hclose : Keeps (Tied (κ := κ)) closeConn := Keeps.modify fun _ h => h.free rfl rfl
    apply (htracing false).bind
    intro _
    apply (tied_trace _).bind
    intro _
    apply hclose.bind
    intro _
    exact (Keeps.gets _).bind fun _ => Keeps.when (tied_job _)
  have hstart : Keeps (Tied (κ := κ)) (Prog.modify fun w => { w with
      trace := ⟨traced, none, []⟩
      conn := { w.conn with isOpen := false, view := w.conn.committed, executed := 0 } }
        : Py (HidTransport κ) Unit) :=
    Keeps.modify fun _ h => h.free rfl rfl
  apply hstart.bind
  intro _
  exact Triple.ensure (hbody.attempt hreport) (fun _ => hfinally) (fun _ => hfinally) fun _ h => h

theorem tied_probe : Keeps (Tied (κ := κ)) probe := by
  apply tied_openUnit.bind
  intro _
  apply Keeps.bind tied_moves.status
  intro st
  apply (Keeps.gets _).bind
  intro ds
  cases ds.serial with
  | none => exact Keeps.raise _
  | some serial =>
    have hposition : Keeps (Tied (κ := κ)) position :=
      Keeps.bind (tied_moves.require trivial) fun _ => Keeps.pure _
    exact Keeps.ite (Keeps.pure _) (hposition.bind fun _ => Keeps.pure _)

theorem tied_tend (openError : Option Exc) : Keeps (Tied (κ := κ)) (tend openError) := by
  have hreached : Keeps (Tied (κ := κ)) reached :=
    (Keeps.gets _).bind fun _ => Keeps.ite tied_moves.alive (Keeps.pure _)
  have hpresent : Keeps (Tied (κ := κ)) (ofOutside Outside.isPresent) :=
    tied_outside fun _ => HidTransport.presentHid_same
  apply Keeps.attempt
  · apply hreached.bind
    intro _
    apply Keeps.ite (Keeps.pure _)
    exact hpresent.bind fun _ => (Keeps.when tied_openUnit).bind fun _ => Keeps.pure _
  · exact fun _ => Keeps.ite (Keeps.pure _) (Keeps.pure _)

theorem tied_access (access : Access) : Keeps (Tied (κ := κ)) access.run := by
  cases access with
  | job traced flow => exact tied_runOwned traced flow
  | probe => exact tied_probe.bind fun _ => Keeps.pure _
  | reconnect =>
    have hclose : Keeps (Tied (κ := κ)) close :=
      tied_close.conseq (E := fun _ => Tied) (fun _ h => h.owned) (fun _ _ h => h.1) fun _ _ h => h
    exact hclose.bind fun _ => tied_openUnit
  | tend openError => exact (tied_tend openError).bind fun _ => Keeps.pure _

theorem tied_inTurn (accesses : List (Job × Access)) : Keeps (Tied (κ := κ)) (inTurn accesses) := by
  induction accesses with
  | nil => exact Keeps.pure _
  | cons first rest ih =>
    apply (tied_job _).bind
    intro _
    apply (Keeps.attempt (tied_access first.2) fun _ => Keeps.pure _).bind
    exact fun _ => ih

/-- **No device is lost, and none is used after its end.** Over any behaviour of hidapi and the bus,
and through any accesses one after another, whatever each of them raises: one device is open at a time
and no other is touched, each that was opened is closed unless it is the one the transport has, and
the client believes itself connected exactly when there is one. -/
theorem devices_in_custody (accesses : List (Job × Access)) (n : Nat) (w : World (HidTransport κ))
    (hnew : w.io = .new w.io.hid) (hclosed : w.ds.isOpen = false) :
    Custody (inTurn accesses n w).2 := by
  have hstart : Tied w := by
    refine ⟨⟨?_, ?_, ?_⟩, ?_⟩
    · rw [hnew]
      trivial
    · rw [hnew]
      rfl
    · intro device hopened
      rw [hnew] at hopened
      cases hopened
    · rw [hclosed, hnew]
      rfl
  have h := (tied_inTurn accesses).run n hstart
  refine ⟨h.owned.proper, ?_, h.owned.current, h.connected⟩
  intro device hopened
  rw [h.owned.current]
  exact h.owned.proper.inUse_of_opened hopened

theorem devices_in_custody_stale :
    Custody (inTurn [(Job.new "Reset the unit" none none, .job true .reset),
      (Job.new "Reset the unit" none none, .reconnect)] 9
        (World.boot (HidTransport.new (Stale.mk 0)) [])).2 :=
  devices_in_custody _ 9 _ rfl rfl

/-- The first handshake breaks off, and the device it was made with is closed before the next one is
opened, although closing raises. -/
example : ((tend none 9 (World.boot (HidTransport.new (Stale.mk 0)) [])).2.io.calls.reverse.take 4) =
    [.opened 0, .read 0, .closed 0, .opened 1] := by
  decide +kernel

end Client

end StakkaWeb
