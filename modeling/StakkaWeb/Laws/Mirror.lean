import StakkaWeb.Laws.Endings
import StakkaWeb.Laws.Greeting
import StakkaWeb.Laws.Settles
import StakkaWeb.Laws.Visits

/-!
# Jobs one after another

A job starts with the carousel calm and the unit open or shut, and ends with the carousel at home
and the unit open. `Kept` holds between any two jobs: the slots with a stored row are the slots with a
disc.
-/

set_option autoImplicit false

namespace StakkaWeb

open Lib Lib.Prog

/-! ## The keys of the catalogue -/

section Keys

variable {σ : Type}

open Catalog (Keyed)

theorem keyed_store : StoreRule (σ := σ) (Held Keyed) (fun _ => Held Keyed) where
  getDisc _ := held_execute fun _ _ _ hr hc => by
    cases hr
    exact hc
  logEvent := closed_keyed.logEvent
  commit := held_commit
  markOut := closed_keyed.markOut
  writeRow slot discId := by
    cases discId with
    | none => exact closed_keyed.createDisc (fun hr hc => hc.insertDisc hr) slot .added
    | some id => exact (closed_keyed.markStored id .returned none).bind fun _ => Keeps.pure id

/-- Every flow keeps the keys. -/
theorem keyed_flow [Outside σ] (flow : Flow) : Keeps (Held Keyed) (flow.run (σ := σ)) := by
  have hf : FlowKept (fun _ _ => True) (Held (σ := σ) Keyed) :=
    flowKept_conn fun conn => Keyed conn.view ∧ Keyed conn.committed
  have hjobs : JobRule (σ := σ) (fun _ _ => True) (Held Keyed) (fun _ => Held Keyed) :=
    hf.jobs trivial (fun slot eject progress => hf.moveTo trivial trivial trivial progress) fun _ => id
  exact hjobs.flow keyed_store (hf.reset (fun _ _ _ => trivial) trivial .note) trivial trivial flow

end Keys

/-! ## The stored rows -/

/-- The slots with a disc are the slots with a stored row. -/
def Mirrors (occ : Finset Nat) (rows : List Disc) : Prop := ∀ slot, slot ∈ occ ↔ StoredAt slot rows

section Rows

variable {occ occ' : Finset Nat} {rows rows' : List Disc} {disc : Disc}

/-- Where rows are stored when one row has got a new status. -/
theorem storedAt_updateRow (hids : (rows.map Disc.id).Nodup) (hd : findDisc rows disc.id = some disc)
    {f : Disc → Disc} (hslot : ∀ d, (f d).slot = d.slot) {status : Status}
    (hstatus : ∀ d, (f d).status = status) (slot : Nat) :
    StoredAt slot (updateRow disc.id f rows) ↔
      (disc.slot = slot ∧ status = .stored) ∨
        ∃ d ∈ rows, d ≠ disc ∧ d.slot = slot ∧ d.status = .stored := by
  have hmem : disc ∈ rows := List.mem_of_find?_eq_some hd
  have hsame : ∀ d ∈ rows, d.id = disc.id → d = disc := fun d hd hid =>
    List.inj_on_of_nodup_map hids hd hmem hid
  constructor
  · rintro ⟨d', hd', hat, hstored⟩
    obtain ⟨d, hd, rfl⟩ := List.mem_map.mp hd'
    by_cases hid : d.id = disc.id
    · rw [if_pos hid] at hat hstored
      rw [hsame d hd hid, hslot] at hat
      exact .inl ⟨hat, (hstatus d).symm.trans hstored⟩
    · rw [if_neg hid] at hat hstored
      exact .inr ⟨d, hd, fun he => hid (he ▸ rfl), hat, hstored⟩
  · rintro (⟨hat, hstored⟩ | ⟨d, hd, hne, hat, hstored⟩)
    · refine ⟨f disc, List.mem_map.mpr ⟨disc, hmem, if_pos rfl⟩, (hslot disc).trans hat, ?_⟩
      exact (hstatus disc).trans hstored
    · exact ⟨d, List.mem_map.mpr ⟨d, hd, if_neg fun hid => hne (hsame d hd hid)⟩, hat, hstored⟩

theorem Ejected.mirrors (hids : (rows.map Disc.id).Nodup) (hslots : (rows.map Disc.slot).Nodup)
    (hd : findDisc rows disc.id = some disc) (h : Mirrors occ rows)
    (hejected : Ejected disc occ rows occ' rows') : Mirrors occ' rows' := by
  obtain ⟨rfl, rfl⟩ | ⟨rfl, f, hslot, hstatus, rfl⟩ := hejected
  · exact h
  have hmem : disc ∈ rows := List.mem_of_find?_eq_some hd
  intro slot
  rw [storedAt_updateRow hids hd hslot hstatus, Finset.mem_erase, h slot]
  constructor
  · rintro ⟨hne, d, hd', hat, hstored⟩
    exact .inr ⟨d, hd', fun he => hne (he ▸ hat.symm), hat, hstored⟩
  · rintro (⟨_, hout⟩ | ⟨d, hd', hne, rfl, hstored⟩)
    · cases hout
    · exact ⟨fun hat => hne (List.inj_on_of_nodup_map hslots hd' hmem hat), d, hd', rfl, hstored⟩

theorem Filled.mirrors {slot : Nat} {discId : Option Nat} (hids : (rows.map Disc.id).Nodup)
    (hat : ∀ id, discId = some id → ∃ d, findDisc rows id = some d ∧ d.slot = slot)
    (h : Mirrors occ rows) (hfilled : Filled slot discId occ rows occ' rows') : Mirrors occ' rows' := by
  obtain ⟨rfl, rfl⟩ | ⟨rfl, hloaded⟩ := hfilled
  · exact h
  intro other
  rw [Finset.mem_insert, h other]
  cases hloaded with
  | added hrow =>
    constructor
    · rintro (rfl | ⟨d, hd, hat, hstored⟩)
      · exact ⟨_, List.mem_append_right _ List.mem_cons_self, hrow.slot, hrow.stored⟩
      · exact ⟨d, List.mem_append_left _ hd, hat, hstored⟩
    · rintro ⟨d, hd, hat, hstored⟩
      rcases List.mem_append.mp hd with hold | hnew
      · exact .inr ⟨d, hold, hat, hstored⟩
      · cases List.mem_singleton.mp hnew
        exact .inl (hat.symm.trans hrow.slot)
  | @returned id f hslot hstatus =>
    obtain ⟨d, hd, rfl⟩ := hat id rfl
    have hid : d.id = id := by simpa using List.find?_some hd
    subst hid
    rw [storedAt_updateRow hids hd hslot hstatus]
    constructor
    · rintro (rfl | ⟨d', hd', hat, hstored⟩)
      · exact .inl ⟨rfl, rfl⟩
      · by_cases hsame : d' = d
        · exact .inl ⟨hsame ▸ hat, rfl⟩
        · exact .inr ⟨d', hd', hsame, hat, hstored⟩
    · rintro (⟨hat, _⟩ | ⟨d', hd', _, hat, hstored⟩)
      · exact .inl hat.symm
      · exact .inr ⟨d', hd', hat, hstored⟩

end Rows

/-! ## Opening the unit -/

/-- The commands of the handshake. -/
def Identifies (cmd : Nat) (args : List Nat) : Prop := cmd ∈ [cmdVersionA, cmdVersionB, cmdGetSerial] ∧ args = []

namespace Carousel

variable {c : Carousel} {occ : Finset Nat}

/-- A unit that says what it is does nothing else. -/
theorem handle_asked {cmd : Nat} {args : List Nat} (h : Identifies cmd args) (c : Carousel) :
    (c.handle cmd (Sim.padded args)).2 = { c.runDue with log := c.runDue.log ++ [(cmd, Sim.padded args)] } := by
  obtain ⟨hcmd, rfl⟩ := h
  have halways : cmd ∈ Firmware.alwaysAnswered := List.mem_cons_of_mem _ hcmd
  unfold handle serve
  rw [if_neg fun hno => hno.2 halways, if_neg fun hno => hno.2 halways]
  simp only [List.mem_cons, List.not_mem_nil, or_false] at hcmd
  rcases hcmd with rfl | rfl | rfl <;> rfl

theorem Calm.later (h : c.Calm occ) (ms : Nat) : ({ c with now := c.now + ms } : Carousel).Calm occ := by
  obtain ⟨s, hs, hocc, hc, hbusy⟩ := h
  exact ⟨s, hs, hocc, ⟨hc.stage, hc.lapses, Nat.zero_le _⟩,
    Nat.le_trans hbusy (Nat.add_le_add_right (Nat.le_add_right _ _) _)⟩

theorem Calm.wait (h : c.Calm occ) (ms : Nat) : (c.wait ms).Calm occ := by
  obtain ⟨s, hs, hocc, hc, hbusy⟩ := h
  refine ⟨s, hs, hocc, hc.still hs.pending ms, ?_⟩
  rw [wait_now]
  omega

theorem Calm.asked {cmd : Nat} {args : List Nat} (hasks : Identifies cmd args) (h : c.Calm occ) :
    (c.handle cmd (Sim.padded args)).2.Calm occ := by
  obtain ⟨s, hs, hocc, hc, hbusy⟩ := h.wait 0
  rw [handle_asked hasks]
  exact ⟨s, hs, hocc, ⟨hc.stage, hc.lapses, hc.since⟩, hbusy⟩

end Carousel

/-- The unit is left alone: the hands are `h` and do nothing between the calls, the blips are
tolerable, and the carousel is calm. -/
structure Alone (h : Hands) (occ : Finset Nat) (s : Sim) : Prop where
  hands : s.hands = h
  unstirred : s.Unstirred
  tolerable : s.car.Tolerable
  calm : s.car.Calm occ

section Opening

variable {h : Hands} {occ : Finset Nat}

theorem Alone.stir {s : Sim} (hs : Alone h occ s) : Alone h occ s.stir :=
  ⟨hs.hands, hs.unstirred, hs.unstirred.stir_car ▸ hs.tolerable, hs.unstirred.stir_car ▸ hs.calm⟩

/-- The handshake leaves it as it is. -/
theorem alone_stable : Stable Identifies (Alone h occ) where
  opens s hs := by
    show Alone h occ s.opens.2
    unfold Sim.opens
    repeat' split
    all_goals exact ⟨hs.hands, hs.unstirred, hs.tolerable, hs.calm⟩
  closes s hs := ⟨hs.hands, hs.unstirred, hs.tolerable, hs.calm⟩
  read timeoutMs s hs := by
    have htick : Alone h occ (s.stir.tick (min timeoutMs Firmware.repeatMs)) :=
      ⟨hs.stir.hands, hs.stir.unstirred, hs.stir.tolerable.wait _, hs.stir.calm.wait _⟩
    show Alone h occ (s.read timeoutMs).2
    unfold Sim.read
    dsimp only
    repeat' split
    · exact hs.stir
    all_goals exact htick
  write unit msgid cmd args s hasks hs := by
    have hfive : args.length ≤ 5 := by
      rw [hasks.2]
      exact Nat.zero_le _
    refine Sim.write_rule (P := fun r => Alone h occ r.2) hfive (fun _ _ => hs.stir)
      (fun _ _ _ => hs.stir)
      fun _ _ _ => ⟨?_, fun k => ?_, ?_, ?_⟩
    · rw [Sim.deliver_hands]
      exact hs.stir.hands
    · rw [Sim.deliver_hands]
      exact hs.stir.unstirred k
    · rw [Sim.deliver_car]
      exact hs.stir.tolerable.handle _ _
    · rw [Sim.deliver_car]
      exact hs.stir.calm.asked hasks
  clock s hs := hs
  sleep ms s hs := ⟨hs.hands, hs.unstirred, hs.tolerable.congr rfl rfl, hs.calm.later ms⟩

/-- The client has not opened the unit, and will find it. -/
structure Unopened (w : World Sim) : Prop where
  closed : w.ds.isOpen = false
  findable : Findable (w.io.packet w.io.msgid 0xCC [0, 0, 0, 0]) w.io

/-- An open finds the unit, after as many failures as it has left. -/
def Announces (serial unit msgid : Nat) (tracing : Bool) (k : Nat) (w : World Sim) : Prop :=
  (w.io.present = true ∧ w.io.failOpens = k) ∧
    (w.io.car.serial = serial ∧ w.io.car.unit = unit ∧ w.io.msgid = msgid) ∧ w.ds.tracing = tracing

theorem openFrom_online {w : World Sim} (hw : Unopened w) (last : String) :
    Triple (fun v => v = w) (openFrom last 3) (fun _ => Online) NoRaise := by
  let raw := w.io.packet w.io.msgid 0xCC [0, 0, 0, 0]
  have hshake : Triple (fun v => Met w.io.car.serial w.io.car.unit raw v ∧ v.ds.tracing = w.ds.tracing)
      handshake (fun _ => Online) NoRaise :=
    (handshake_identifies hw.findable.serial hw.findable.unit).post fun _ v hv => hv.online
  refine (openFrom_rule (A := Announces w.io.car.serial w.io.car.unit w.io.msgid w.ds.tracing)
    (fun k v hv => ?_) (fun v hv => ?_) hshake 3 w.io.failOpens hw.findable.failOpens last).pre ?_
  · obtain ⟨⟨hpresent, hfail⟩, hsame, htracing⟩ := hv
    refine ⟨"simulated open failure", { v.io with failOpens := v.io.failOpens - 1 },
      Sim.opens_fails (by omega), ⟨hpresent, ?_⟩, hsame, htracing⟩
    show v.io.failOpens - 1 = k
    omega
  · obtain ⟨⟨hpresent, hfail⟩, ⟨hserial, hunit, hmsgid⟩, htracing⟩ := hv
    refine ⟨_, Sim.opens_ok hfail hpresent, ⟨rfl, ⟨rfl, hpresent, ?_, Nat.le_refl 8⟩, .announced _,
      hserial, hunit⟩, htracing⟩
    show some [0x01, v.io.car.unit, v.io.msgid, 0xCC, 0, 0, 0, 0] = _
    rw [hunit, hmsgid]
    rfl
  · rintro v rfl
    exact ⟨⟨hw.findable.present, rfl⟩, ⟨rfl, rfl, rfl⟩, rfl⟩

theorem openUnit_online : Triple (fun w => Online w ∨ Unopened w) openUnit (fun _ => Online) NoRaise := by
  refine Triple.of_each fun w hw => ?_
  refine Triple.bind (M := fun isOpen v => isOpen = w.ds.isOpen ∧ v = w)
    (Triple.gets fun v hv => ⟨hv ▸ rfl, hv⟩) fun isOpen => Triple.of_fact fun hopen => ?_
  subst hopen
  rcases hw with ⟨⟨raw, hlinked⟩, haddress⟩ | hw
  · rw [hlinked.isOpen]
    refine Triple.pure ?_
    rintro v rfl
    exact ⟨⟨raw, hlinked⟩, haddress⟩
  · rw [hw.closed]
    exact openFrom_online hw "None"

end Opening

/-! ## One visit -/

section Visits

variable {delay : Option Nat} {h : Hands} {occ : Finset Nat} {rows : List Disc} {P : Carousel → Prop}

theorem runAdd_mirrors {slot : Nat} {discId : Option Nat} (hids : (rows.map Disc.id).Nodup)
    (hadmits : Admits slot rows discId)
    (hat : ∀ id, discId = some id → ∃ d, findDisc rows id = some d ∧ d.slot = slot)
    (hrange : slot ≤ slotMax) (hmirrors : Mirrors occ rows)
    (htime : ∀ ms, delay = some ms → ms + 243 ≤ insertWindowMs) :
    Triple (Desk (.answering delay) (Carousel.Calm occ) rows) (runAdd slot discId)
      (fun _ w => ∃ occ' rows', Mirrors occ' rows' ∧
        Desk (.answering delay) (Carousel.AtHome occ') rows' w) NoRaise := by
  have hrow : ∀ id, discId = some id → findDisc rows id ≠ none := fun id hid => by
    obtain ⟨d, hd, _⟩ := hat id hid
    rw [hd]
    nofun
  refine (runAdd_desk hadmits hrow hrange htime).post ?_
  rintro _ w ⟨occ', rows', hfilled, hw⟩
  exact ⟨occ', rows', hfilled.mirrors hids hat hmirrors, hw⟩

/-- **Every flow** that the pages offer leaves the mirror as true as it was. -/
theorem flow_mirrors {flow : Flow} {c : Catalog} (hc : c.Keyed) (hoffered : flow.Offered c)
    (hmirrors : Mirrors occ c.discs) (htime : ∀ ms, delay = some ms → ms + 243 ≤ flow.windowMs) :
    Triple (Desk (.answering delay) (Carousel.Calm occ) c.discs) flow.run
      (fun _ w => ∃ occ' rows', Mirrors occ' rows' ∧
        Desk (.answering delay) (Carousel.AtHome occ') rows' w) NoRaise := by
  cases flow with
  | reset => exact runReset_desk.post fun _ w hw => ⟨occ, c.discs, hmirrors, hw⟩
  | eject discId =>
    obtain ⟨disc, hget, hstored⟩ := hoffered
    have hmem : disc ∈ c.discs := List.mem_of_find?_eq_some hget
    have hid : disc.id = discId := Catalog.getDisc_id hget
    subst hid
    refine (runEject_desk hget ((hmirrors _).mpr ⟨disc, hmem, rfl, hstored⟩) (hc.range disc hmem).2
      htime).post ?_
    rintro _ w ⟨occ', rows', hejected, hw⟩
    exact ⟨occ', rows', hejected.mirrors hc.ids hc.slots hget hmirrors, hw⟩
  | add slot =>
    obtain ⟨⟨hmin, hmax⟩, hfree⟩ := hoffered
    have hfits : Fits c.discs slot := by
      refine ⟨hmin, hmax, fun d hd hslot => ?_⟩
      exact absurd (beq_iff_eq.mpr hslot) (List.find?_eq_none.mp hfree d hd)
    have hadmits : Admits slot c.discs none := hfits
    exact runAdd_mirrors hc.ids hadmits (fun _ hid => nomatch hid) hmax hmirrors htime
  | return_ slot discId =>
    obtain ⟨disc, hget, hslot, _⟩ := hoffered
    have hfind : findDisc c.discs discId = some disc := hget
    have hadmits : Admits slot c.discs (some discId) := by
      show findDisc c.discs discId ≠ none
      rw [hfind]
      nofun
    have hmax := (hc.range disc (List.mem_of_find?_eq_some hget)).2
    refine runAdd_mirrors hc.ids hadmits (fun id hid => ?_) (hslot ▸ hmax) hmirrors htime
    exact Option.some.inj hid ▸ ⟨disc, hfind, hslot⟩

/-- What a job starts from, once it has no connection. -/
structure Starts (h : Hands) (occ : Finset Nat) (rows : List Disc) (w : World Sim) : Prop where
  unit : Online w ∨ Unopened w
  alone : Alone h occ w.io
  db : Works rows rows w.conn

/-- Opening leaves the carousel calm and the database as it is. -/
theorem openUnit_desk :
    Triple (Starts h occ rows) openUnit (fun _ => Desk h (Carousel.Calm occ) rows) NoRaise := by
  have hasks : ∀ cmd ∈ [cmdVersionA, cmdVersionB, cmdGetSerial], Identifies cmd [] :=
    fun cmd hcmd => ⟨hcmd, rfl⟩
  have halone : Keeps (fun w : World Sim => Alone h occ w.io) openUnit :=
    alone_stable.kept.openUnit hasks fun _ _ => id
  have hdb : Keeps (fun w : World Sim => Works rows rows w.conn) openUnit :=
    (flowKept_conn fun conn => Works rows rows conn).openUnit (fun _ _ => trivial)
      fun _ _ => id
  refine (openUnit_online.and (halone.and hdb)).conseq (fun w hw => ⟨hw.unit, hw.alone, hw.db⟩) ?_
    fun _ _ hw => hw.1
  rintro _ w ⟨honline, halone, hdb⟩
  exact ⟨⟨⟨honline, halone.hands, halone.unstirred, fun _ => halone.tolerable⟩, halone.calm⟩, hdb⟩

theorem desk_tracing (tracing : Bool) :
    Triple (Desk h P rows) (modifyDs fun ds => { ds with tracing := tracing }) (fun _ => Desk h P rows)
      NoRaise :=
  triple_modifyDs fun w hw => by
    obtain ⟨⟨⟨⟨⟨raw, hlinked⟩, haddress⟩, hhands, hunstirred, htolerable⟩, hP⟩, hdb⟩ := hw
    have hlinked' : Linked { w with ds := { w.ds with tracing := tracing } } raw :=
      ⟨hlinked.isOpen, hlinked.unit, hlinked.streams⟩
    exact ⟨⟨⟨⟨⟨raw, hlinked'⟩, haddress⟩, hhands, hunstirred, htolerable⟩, hP⟩, hdb⟩

theorem desk_conn {f : Conn → Conn} (hf : ∀ conn, Works rows rows conn → Works rows rows (f conn)) :
    Triple (Desk h P rows) (Prog.modify fun w => { w with conn := f w.conn } : Py Sim Unit)
      (fun _ => Desk h P rows) NoRaise :=
  Triple.modify fun _ hw => ⟨on_connFree _ _ hw.1, hf _ hw.2⟩

theorem connect_desk : Triple (Desk h P rows) connect (fun _ => Desk h P rows) NoRaise := by
  have hdb : ∀ ran, Triple (fun w : World Sim => DbAt (fun _ => false) ran rows rows w.conn)
      (execute fun c => .ok ((), c))
      (fun _ w => ∃ rows', rows' = rows ∧ DbAt (fun _ => false) (ran + 1) rows' rows w.conn)
      (fun _ _ => Failed (fun _ => false) (ran + 1) ∨ False) := by
    intro ran
    refine execute_db (M := fun _ rows' => rows' = rows) False (fun c a c' hc hr => ?_) fun c e _ hr => ?_
    · cases hr
      exact hc
    · cases hr
  have hexecute : Triple (Desk h P rows) (execute fun c => .ok ((), c)) (fun _ => Desk h P rows) NoRaise := by
    refine (desk_store (M := fun _ rows' => rows' = rows) id (on_connFree.execute _)
      fun ran => (hdb ran).post ?_).post ?_
    · rintro _ w ⟨_, rfl, hw⟩
      exact ⟨_, rfl, hw⟩
    · rintro _ w ⟨_, rfl, hw⟩
      exact hw
  refine hexecute.bind fun _ => hexecute.bind fun _ => ?_
  exact desk_conn (f := fun conn => { conn with isOpen := true }) fun _ ⟨ran, hdb⟩ =>
    ⟨ran, hdb.faults, hdb.executed, hdb.rows, hdb.saved, hdb.clean⟩

theorem ownedFinally_desk : Triple (Desk h P rows) ownedFinally (fun _ => Desk h P rows) NoRaise := by
  refine (desk_tracing false).bind fun _ => (desk_mark _).bind fun _ => ?_
  refine Triple.bind (desk_conn (f := fun conn => { conn with isOpen := false, view := conn.committed })
    fun _ ⟨ran, hdb⟩ => ⟨ran, hdb.faults, hdb.executed, hdb.saved, hdb.saved, hdb.clean⟩) fun _ => ?_
  refine Triple.bind (M := fun _ => Desk h P rows) (Triple.gets fun _ => id) fun _ => ?_
  exact Triple.when (fun _ => desk_job _) fun _ hw _ => hw

/-- The end of a job: the mirror is true, with the carousel at home. -/
def Tidied (h : Hands) (w : World Sim) : Prop :=
  ∃ occ rows, Mirrors occ rows ∧ Desk h (Carousel.AtHome occ) rows w

/-- **A visit** leaves the mirror as true as it was, and raises nothing. -/
theorem runOwned_mirrors {flow : Flow} {c : Catalog} (hc : c.Keyed) (hoffered : flow.Offered c)
    (hmirrors : Mirrors occ c.discs) (htime : ∀ ms, delay = some ms → ms + 243 ≤ flow.windowMs)
    (traced : Bool) :
    Triple (fun w => (Online w ∨ Unopened w) ∧ Alone (.answering delay) occ w.io ∧
        w.conn.faults = (fun _ => false) ∧ w.conn.committed = c)
      (runOwned traced flow.run)
      (fun _ w => Tidied (.answering delay) w ∧ w.conn.committed.Keyed) NoRaise := by
  have hopen : Keeps (Held (σ := Sim) Catalog.Keyed) openUnit :=
    (flowKept_conn fun conn => conn.view.Keyed ∧ conn.committed.Keyed).openUnit (fun _ _ => trivial)
      fun _ _ => id
  have htracing : ∀ tracing, Keeps (Held (σ := Sim) Catalog.Keyed)
      (modifyDs fun ds => { ds with tracing := tracing }) := fun _ => Keeps.modify fun _ => id
  have hexecute : Keeps (Held (σ := Sim) Catalog.Keyed) (execute fun c => .ok ((), c)) :=
    held_execute fun _ _ _ hr hc => by
      cases hr
      exact hc
  have hconnect : Keeps (Held (σ := Sim) Catalog.Keyed) connect :=
    hexecute.bind fun _ => hexecute.bind fun _ => Keeps.modify fun _ => id
  have hends : Keeps (Held (σ := Sim) Catalog.Keyed) ownedFinally :=
    (htracing false).bind fun _ => Keeps.bind (Keeps.modify fun _ => id) fun _ =>
      Keeps.bind (Keeps.modify fun _ hw => ⟨hw.2, hw.2⟩) fun _ => (Keeps.gets _).bind fun _ =>
        Keeps.when (Keeps.modify fun _ => id)
  let Ends : World Sim → Prop := fun w => Tidied (.answering delay) w ∧ Held Catalog.Keyed w
  refine Triple.bind (M := fun _ w => Starts (.answering delay) occ c.discs w ∧ Held Catalog.Keyed w)
    (Triple.modify ?_) fun _ => ?_
  · rintro w ⟨hunit, halone, hfaults, hcommitted⟩
    have hkeyed : w.conn.committed.Keyed := hcommitted ▸ hc
    have hrows : w.conn.committed.discs = c.discs := congrArg Catalog.discs hcommitted
    refine ⟨⟨hunit.imp ?_ ?_, halone, 0, hfaults, rfl, hrows, hrows, nofun⟩, hkeyed, hkeyed⟩
    · exact fun honline =>
        ⟨honline.linked.imp fun _ hl => ⟨hl.isOpen, hl.unit, hl.streams⟩, honline.address⟩
    · exact fun hunopened => ⟨hunopened.closed, hunopened.findable⟩
  refine (Triple.ensure (B := fun _ => Ends) (E := NoRaise) (Q := fun _ => Ends) ?_ (fun _ => ?_)
    (fun e => Triple.pre (A := fun _ => False) (fun _ _ hf => hf.elim) fun _ he => nomatch he)
    fun _ _ => rfl).post fun _ w hw => ⟨hw.1, hw.2.2⟩
  · refine Triple.attempt (E := NoRaise) ?_ (fun e => Triple.pre (A := fun _ => False)
      (fun _ _ hf => hf.elim) fun _ he => nomatch he) fun _ _ => rfl
    refine (hopen.along openUnit_desk).bind fun _ => ((htracing true).along (desk_tracing true)).bind
      fun _ => (hconnect.along connect_desk).bind fun _ => ?_
    exact ((keyed_flow flow).along (flow_mirrors hc hoffered hmirrors htime)).post fun _ w hw => hw
  · refine (hends.along (P := Tidied (.answering delay)) (Q := fun _ => Tidied (.answering delay)) ?_)
    exact Triple.of_exists fun occ' => Triple.of_exists fun rows' => Triple.of_fact fun hm =>
      ownedFinally_desk.post fun _ w hw => ⟨occ', rows', hm, hw⟩

end Visits

/-! ## Any number of visits -/

/-- The catalogue mirrors the carousel. -/
def Mirrored (w : World Sim) : Prop :=
  ∀ slot, slot ∈ w.io.car.occupied ↔ StoredAt slot w.conn.committed.discs

/-- What the first job may find: the unit there, open or not, nothing pending and nothing at the
aperture or in the bay, the blips tolerable, and a database that works and mirrors the carousel. No
command keeps the unit busy for twenty seconds. -/
structure Stocked (w : World Sim) : Prop where
  unit : Online w ∨ Unopened w
  tolerable : w.io.car.Tolerable
  events : w.io.car.events.entries = []
  busyUntil : w.io.car.busyUntil ≤ w.io.car.now + 20000
  position : w.io.car.position ≤ 255
  waiting : w.io.car.discWaiting = false
  ack : w.io.car.newDiscAck = false
  bay : w.io.car.discInBay = false
  faults : w.conn.faults = fun _ => false
  keyed : w.conn.committed.Keyed
  mirrored : Mirrored w

/-- What a job leaves. -/
structure Tended (w : World Sim) : Prop where
  mirrored : Mirrored w
  position : w.io.car.position = home
  homed : w.io.car.homed = true
  waiting : w.io.car.discWaiting = false
  ack : w.io.car.newDiscAck = false
  bay : w.io.car.discInBay = false

/-- Between any two jobs. -/
structure Between (occ : Finset Nat) (w : World Sim) : Prop where
  unit : Online w ∨ Unopened w
  tolerable : w.io.car.Tolerable
  calm : w.io.car.Calm occ
  faults : w.conn.faults = fun _ => false
  keyed : w.conn.committed.Keyed
  mirrors : Mirrors occ w.conn.committed.discs

section Served

variable {occ : Finset Nat} {w w₁ w₂ : World Sim}

theorem Stocked.between (hw : Stocked w) : Between w.io.car.occupied w := by
  refine ⟨hw.unit, hw.tolerable, ⟨w.io.car.stage, ⟨?_, hw.waiting, hw.ack, hw.bay, hw.position⟩, rfl,
    ⟨rfl, fun x hx _ => ?_, Nat.zero_le _⟩, hw.busyUntil⟩, hw.faults, hw.keyed, hw.mirrored⟩
  · show w.io.car.events.entries.filter _ = []
    rw [hw.events]
    rfl
  · rw [Agenda.mem_def, hw.events] at hx
    exact absurd hx List.not_mem_nil

theorem Between.mirrored (hw : Between occ w) : Mirrored w := by
  obtain ⟨s, _, hocc, hc, _⟩ := hw.calm
  have hsame : w.io.car.occupied = occ := (congrArg Stage.occupied hc.stage).trans hocc
  intro slot
  rw [hsame]
  exact hw.mirrors slot

theorem Tidied.tended {h : Hands} (hw : Tidied h w) : Tended w := by
  obtain ⟨occ, rows, hmirrors, ⟨_, s, hs, ⟨hposition, hhomed⟩, rfl, b, _, hc⟩, _, hdb⟩ := hw
  have hstage := hc.stage
  refine ⟨fun slot => ?_, (congrArg Stage.position hstage).trans hposition,
    (congrArg Stage.homed hstage).trans hhomed, (congrArg Stage.waiting hstage).trans hs.waiting,
    (congrArg Stage.ack hstage).trans hs.ack, (congrArg Stage.bay hstage).trans hs.bay⟩
  rw [hdb.saved, show w.io.car.occupied = s.occupied from congrArg Stage.occupied hstage]
  exact hmirrors slot

theorem Tidied.between {h : Hands} (hw : Tidied h w) (hkeyed : w.conn.committed.Keyed) :
    ∃ occ, Between occ w := by
  obtain ⟨occ, rows, hmirrors, ⟨hTidy, hcar⟩, _, hdb⟩ := hw
  exact ⟨occ, .inl hTidy.toOnline, hTidy.tolerable rfl, hcar.calm, hdb.faults, hkeyed,
    hdb.saved ▸ hmirrors⟩

/-- **One fair visit** returns, and leaves the mirror true and the carousel at home. -/
theorem Between.visit {v : Visit} (hw : Between occ w) (hfair : v.Fair w) :
    (∀ n w', v.run n w = (.ok (), w') → Tended w' ∧ ∃ occ', Between occ' w') ∧
      ∃ N, ∀ n, N ≤ n → ∃ w', v.run n w = (.ok (), w') := by
  have hrule := runOwned_mirrors hw.keyed hfair.offered hw.mirrors hfair.inTime v.traced
  have hstart : (Online (v.start w) ∨ Unopened (v.start w)) ∧ Alone (.answering v.delay) occ (v.start w).io ∧
      (v.start w).conn.faults = (fun _ => false) ∧ (v.start w).conn.committed = w.conn.committed := by
    refine ⟨hw.unit.imp ?_ ?_, ⟨rfl, fun _ => rfl, hw.tolerable, hw.calm⟩, hw.faults, rfl⟩
    · rintro ⟨⟨raw, hl⟩, haddress⟩
      exact ⟨⟨raw, hl.isOpen, hl.unit, ⟨hl.streams.opened, hl.streams.present, hl.streams.latched,
        hl.streams.long⟩⟩, haddress⟩
    · rintro ⟨hclosed, hf⟩
      exact ⟨hclosed, hf.present, hf.failOpens, hf.serial, hf.unit, hf.raw⟩
  refine ⟨fun n w' hr => ?_, ?_⟩
  · obtain ⟨htidied, hkeyed⟩ := hrule.of_ok hstart hr
    exact ⟨htidied.tended, htidied.between hkeyed⟩
  · obtain ⟨N, _, w', _, hr⟩ :=
      returns (settles_runOwned _ v.traced fun _ => settles_flow _ v.flow) hrule hstart
    exact ⟨N, fun n hn => ⟨w', hr n hn⟩⟩

theorem Between.served (hw : Between occ w) (h : Served w w₁) : ∃ occ', Between occ' w₁ := by
  induction h with
  | nothing => exact ⟨occ, hw⟩
  | visit v n h hfair hr ih =>
    obtain ⟨occ', hbetween⟩ := ih
    exact ((hbetween.visit hfair).1 n _ hr).2

end Served

/-- **The catalogue mirrors the carousel** over whole histories. After any fair visits the stored rows
are those of the discs in the carousel; every further visit returns, and when it does the mirror is
true, the aperture and the bay are empty and the carousel is at home. -/
theorem catalogue_mirrors_carousel (w w₁ : World Sim) (hw : Stocked w) (h : Served w w₁) :
    Mirrored w₁ ∧ ∀ v : Visit, v.Fair w₁ →
      (∀ n w₂, v.run n w₁ = (.ok (), w₂) → Tended w₂) ∧
        ∃ N, ∀ n, N ≤ n → ∃ w₂, v.run n w₁ = (.ok (), w₂) := by
  obtain ⟨occ, hbetween⟩ := hw.between.served h
  refine ⟨hbetween.mirrored, fun v hfair => ?_⟩
  obtain ⟨hends, hreturns⟩ := hbetween.visit hfair
  exact ⟨fun n w₂ hr => (hends n w₂ hr).1, hreturns⟩

/-- A unit that drops two sends in three of every command, and its catalogue: a disc stored in slot 3. -/
def stocked : World Sim :=
  World.boot (Sim.new { Carousel.new 0 {3} 0x0DECAF01 200 with
      blips := true
      rolls := fun _ i => decide (i % 3 ≠ 2) } true .none)
    [⟨1, 3, "Myst", none, none, none, none, none, .stored, none, 0, 0⟩]

theorem stocked_stocked : Stocked stocked where
  unit := .inr ⟨rfl, rfl, by decide, by decide, by decide, .announced 0⟩
  tolerable _ _ _ i := by
    refine ⟨2 - i % 3, by omega, decide_eq_false (not_not_intro ?_)⟩
    omega
  events := rfl
  busyUntil := by decide
  position := by decide
  waiting := rfl
  ack := rfl
  bay := rfl
  faults := rfl
  keyed := by decide
  mirrored slot := by
    show slot ∈ ({3} : Finset Nat) ↔ ∃ d ∈ [_], _
    simp [eq_comm]

/-- The disc is ejected and taken, and then returned at the last moment. -/
def taking : Visit := ⟨.eject 1, Job.new "Eject" (some 1) (some 3), true, some 800⟩
def returning : Visit := ⟨.return_ 3 1, Job.new "Return" (some 1) (some 3), true, some 29757⟩

/-- What the first of them leaves, run by the kernel alone. -/
@[irreducible] def stockedTaken : Outcome Exc Unit × World Sim := taking.run 200 stocked

theorem catalogue_mirrors_carousel_stocked : Mirrored stockedTaken.2 ∧
    ∃ N, ∀ n, N ≤ n → ∃ w, returning.run n stockedTaken.2 = (.ok (), w) ∧ Tended w := by
  have hrun : taking.run 200 stocked = stockedTaken := by
    unfold stockedTaken
    exact Eq.refl _
  have hok : stockedTaken.1 = .ok () := by decide +kernel
  have hout : (stockedTaken.2.conn.committed.getDisc 1).map (fun d => (d.slot, d.status)) =
      some (3, .out) := by decide +kernel
  have htaking : taking.Fair stocked :=
    ⟨⟨_, rfl, rfl⟩, fun ms hms => by cases hms; decide⟩
  have hserved : Served stocked stockedTaken.2 :=
    .visit taking 200 .nothing htaking (hrun.trans (Prog.run_eq hok))
  have hreturning : returning.Fair stockedTaken.2 := by
    obtain ⟨d, hget, hd⟩ := Option.map_eq_some_iff.mp hout
    exact ⟨⟨d, hget, (Prod.ext_iff.mp hd).1, (Prod.ext_iff.mp hd).2⟩, fun ms hms => by cases hms; decide⟩
  obtain ⟨hmirrored, hvisits⟩ := catalogue_mirrors_carousel stocked stockedTaken.2 stocked_stocked hserved
  obtain ⟨hends, N, hN⟩ := hvisits returning hreturning
  refine ⟨hmirrored, N, fun n hn => ?_⟩
  obtain ⟨w, hr⟩ := hN n hn
  exact ⟨w, hr, hends n w hr⟩

end StakkaWeb
