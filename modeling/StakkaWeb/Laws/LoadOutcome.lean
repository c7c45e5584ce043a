import StakkaWeb.Faulty
import StakkaWeb.Laws.LoadWords
import StakkaWeb.Laws.Simulator

/-!
# What a load reports and what it catalogues

Two laws about `run_add` under `_run_owned`, each read off `runOwned_concluded`. The first is
about every unit: a success is reported exactly when `ingest`'s settle wait saw an idle word, and a
disc in the bay stops nothing between that word and the catalogue write, for `park` swallows what
`_refuse_with_a_disc_out` raises. What the unit answers from the acknowledgement of `0x1D` on decides
the rest (`runOwned_told`). The second is about a transport that fails part way: a disc that the
carousel has taken in is catalogued exactly when that idle word still came back.
-/

set_option autoImplicit false

namespace StakkaWeb

open Lib

section Report

variable {σ : Type} [Outside σ] {J : σ → Prop}

/-- The end of a load, as a fact about one run. -/
theorem concluded_of_run (h : RaisesOsError J) {traced : Bool} {slot : Nat} {discId : Option Nat}
    {w w' : World σ} {j : Job} (hJ : J w.io) {n : Nat}
    (hr : runOwned traced (runAdd slot discId) n (w.start j) = (.ok (), w')) :
    Concluded slot discId w.conn.faults w.conn.committed.discs w' := by
  have hstart : Unloaded (w.start j).obs ∧ J (w.start j).io ∧
      (w.start j).conn.faults = w.conn.faults ∧
      (w.start j).conn.committed.discs = w.conn.committed.discs := ⟨rfl, hJ, rfl, rfl⟩
  exact (runOwned_concluded h traced).of_ok hstart hr

end Report

/-! ## A load reported with the disc in the bay -/

namespace Faulty

/-- An opened transport behind a fault still has a packet to repeat. -/
def Latched (f : Faulty) : Prop := f.sim.Latched

theorem raises_latched : RaisesOsError Latched where
  opens f h := Sim.raises_latched.opens f.sim h
  closes f h := Sim.raises_latched.closes f.sim h
  read t f h := by
    have hread := Sim.raises_latched.read t f.sim h
    show Latched (f.read t).2
    unfold read
    split
    · exact hread
    · split
      · exact h
      · exact h
      · exact hread
  write u m c a f _ h := by
    have hwrite := Sim.raises_latched.write u m c a f.sim trivial h
    show Latched (f.write _).2
    unfold write
    split
    · exact hwrite
    · split <;> exact h
  clock _ h := h
  sleep _ _ h := h
  phase _ _ h := h
  read_error t f f' e h hr := by
    have herr := Sim.raises_latched.read_error t f.sim (f.sim.read t).2 e h
    change f.read t = _ at hr
    unfold read at hr
    split at hr
    · exact herr (Prod.ext (Prod.ext_iff.mp hr).1 rfl)
    · split at hr
      · cases hr; rfl
      · cases hr
      · exact herr (Prod.ext (Prod.ext_iff.mp hr).1 rfl)
  write_error buf f f' e h hr := by
    have herr := Sim.raises_latched.write_error buf f.sim (f.sim.write buf).2 e h
    change f.write buf = _ at hr
    unfold write at hr
    split at hr
    · exact herr (Prod.ext (Prod.ext_iff.mp hr).1 rfl)
    · split at hr <;> cases hr
      rfl

end Faulty

/-- A row with status `stored` at the slot. -/
def StoredAt (slot : Nat) (rows : List Disc) : Prop := ∃ d ∈ rows, d.slot = slot ∧ d.status = .stored

instance (slot : Nat) (rows : List Disc) : Decidable (StoredAt slot rows) :=
  inferInstanceAs (Decidable (∃ d ∈ rows, d.slot = slot ∧ d.status = .stored))

/-- What the request checked before it submitted the load: for an add that the slot has no row,
for a return that the disc's row is at the slot and out, as is all the slot has. -/
def Premise (slot : Nat) (rows : List Disc) : Option Nat → Prop
  | none => Fits rows slot
  | some id => (∃ d, findDisc rows id = some d ∧ d.slot = slot) ∧
    ∀ d ∈ rows, d.slot = slot → d.status = .out

theorem Premise.admits {slot : Nat} {rows : List Disc} {discId : Option Nat}
    (h : Premise slot rows discId) : Admits slot rows discId := by
  cases discId with
  | none => exact h
  | some id =>
    obtain ⟨⟨d, hd, _⟩, _⟩ := h
    show findDisc rows id ≠ none
    rw [hd]
    nofun

theorem Premise.not_stored {slot : Nat} {rows : List Disc} {discId : Option Nat}
    (h : Premise slot rows discId) : ¬ StoredAt slot rows := by
  rintro ⟨d, hd, hslot, hstored⟩
  cases discId with
  | none => exact h.2.2 d hd hslot
  | some id =>
    rw [h.2 d hd hslot] at hstored
    cases hstored

/-- The catalogue write leaves the disc stored at its slot. -/
theorem Loaded.stored {slot : Nat} {rows rows' : List Disc} {discId : Option Nat}
    (h : Loaded slot rows discId rows') (hp : Premise slot rows discId) : StoredAt slot rows' := by
  cases h with
  | added h =>
    exact ⟨_, List.mem_append_right _ List.mem_cons_self, h.slot, h.stored⟩
  | returned hslot hstored =>
    obtain ⟨⟨d, hd, hat⟩, _⟩ := hp
    refine ⟨_, List.mem_map_of_mem (List.mem_of_find?_eq_some hd), ?_⟩
    have hid := List.find?_some hd
    simp only [beq_iff_eq] at hid
    simp only [hid, if_true]
    exact ⟨(hslot d).trans hat, hstored d⟩

/-- Over a working database the disc is catalogued exactly when an idle word was seen. -/
theorem stored_iff_seenIdle {σ : Type} {w : World σ} {slot : Nat} {rows : List Disc}
    {discId : Option Nat} (h : Concluded slot discId (fun _ => false) rows w)
    (hp : Premise slot rows discId) :
    StoredAt slot w.conn.committed.discs ↔ SeenIdle w.obs := by
  rcases h with hrec | ⟨_, ⟨hn, hsaved⟩ | hfailed | hrefused⟩
  · obtain ⟨rows', hl, hdb⟩ := hrec.db
    refine ⟨fun _ => hrec.obs, fun _ => ?_⟩
    rw [hdb.saved]
    exact hl.stored hp
  · rw [hsaved]
    exact ⟨fun hs => absurd hs hp.not_stored, fun hs => absurd hs hn⟩
  · exact absurd hfailed not_failed
  · exact absurd hp.admits hrefused

/-- **When a disc that was taken in is catalogued**: whatever the transport does and from
whatever point, the carousel's having heard `0x1D` with `NEW_DISC_ACK` set leaves a stored row at
the slot exactly when an idle word came back after the acknowledgement. -/
theorem runAdd_catalogued_iff {traced : Bool} {slot : Nat} {discId : Option Nat}
    {w w' : World Faulty} {j : Job} (hlatched : w.io.Latched)
    (hdb : w.conn.faults = fun _ => false) (hp : Premise slot w.conn.committed.discs discId)
    {n : Nat} (hr : runOwned traced (runAdd slot discId) n (w.start j) = (.ok (), w')) :
    (w'.io.sim.car.ingested ≠ w.io.sim.car.ingested → StoredAt slot w'.conn.committed.discs) ↔
      (w'.io.sim.car.ingested ≠ w.io.sim.car.ingested → SeenIdle w'.obs) := by
  have hend := concluded_of_run Faulty.raises_latched hlatched hr
  rw [hdb] at hend
  rw [stored_iff_seenIdle hend hp]

/-- A disc is fed in half a second after the prompt, and reads and writes fail from the 131st on:
while the settle wait waits for the carousel to put the disc in its slot. -/
def failingIngest : Faulty where
  sim := Sim.new (.new 0 ∅ 0x0DECAF01 0) true
    ⟨fun _ => [], fun p => if p = .awaitingInsert then [(500, .insert)] else []⟩
  left := 130
  fault := .ioError

/-- The add to slot 1 over it, run by the kernel alone. -/
@[irreducible] def failingIngestAdded : Outcome Exc Unit × World Faulty :=
  runOwned false (runAdd 1 none) 200 ((World.boot failingIngest []).start (Job.new "" none (some 1)))

/-- The carousel has taken the disc in for slot 1, the job has failed, and the catalogue has no
row. -/
theorem failingIngest_lost :
    failingIngestAdded.1 = .ok () ∧ failingIngestAdded.2.io.sim.car.ingested = [1] ∧
      failingIngestAdded.2.job.phase = .failed ∧
      ¬ StoredAt 1 failingIngestAdded.2.conn.committed.discs := by
  decide +kernel

/-- The same, but reads and writes fail from the 161st on: while the carousel goes home. -/
def failingPark : Faulty := { failingIngest with left := 160 }

/-- The add to slot 1 over it, run by the kernel alone. -/
@[irreducible] def failingParkAdded : Outcome Exc Unit × World Faulty :=
  runOwned false (runAdd 1 none) 200 ((World.boot failingPark []).start (Job.new "" none (some 1)))

/-- For the one neither side holds; for the other both do. -/
theorem runAdd_catalogued_iff_failingIngest :
    ((failingIngestAdded.2.io.sim.car.ingested ≠ [] →
        StoredAt 1 failingIngestAdded.2.conn.committed.discs) ↔
      (failingIngestAdded.2.io.sim.car.ingested ≠ [] → SeenIdle failingIngestAdded.2.obs)) ∧
    ((failingParkAdded.2.io.sim.car.ingested ≠ [] →
        StoredAt 1 failingParkAdded.2.conn.committed.discs) ↔
      (failingParkAdded.2.io.sim.car.ingested ≠ [] → SeenIdle failingParkAdded.2.obs)) ∧
    failingParkAdded.2.io.sim.car.ingested = [1] ∧ failingParkAdded.2.io.left = 0 ∧
      StoredAt 1 failingParkAdded.2.conn.committed.discs := by
  have hpremise : Premise 1 [] none := ⟨by decide, by decide, nofun⟩
  refine ⟨?_, ?_, by decide +kernel⟩
  · have hrun : runOwned false (runAdd 1 none) 200
        ((World.boot failingIngest []).start (Job.new "" none (some 1))) = failingIngestAdded := by
      unfold failingIngestAdded
      exact Eq.refl _
    have hlatched : (World.boot failingIngest []).io.Latched := nofun
    have hok : failingIngestAdded.1 = .ok () := by decide +kernel
    exact runAdd_catalogued_iff hlatched rfl hpremise (hrun.trans (Prog.run_eq hok))
  · have hrun : runOwned false (runAdd 1 none) 200
        ((World.boot failingPark []).start (Job.new "" none (some 1))) = failingParkAdded := by
      unfold failingParkAdded
      exact Eq.refl _
    have hlatched : (World.boot failingPark []).io.Latched := nofun
    have hok : failingParkAdded.1 = .ok () := by decide +kernel
    exact runAdd_catalogued_iff hlatched rfl hpremise (hrun.trans (Prog.run_eq hok))

end StakkaWeb
