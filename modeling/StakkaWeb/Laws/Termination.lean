import StakkaWeb.Operations
import StakkaWeb.Puppet
import StakkaWeb.Laws.Phases

/-!
# No behaviour of the unit hangs the worker

A world `Ticks` when each read takes at least a millisecond and nothing turns the clock back;
what its reads and writes come to is left open. Such a world is `Paced`, with nothing to read
between two moments, so everything that settles in a paced world settles in it: every method of
the protocol, every flow, and every job, which is terminal then.
-/

set_option autoImplicit false

namespace StakkaWeb

open Lib Lib.Prog

/-- Each read takes time, and time does not run back. -/
class Ticks (σ : Type) [Outside σ] : Prop where
  opens : ∀ s : σ, timeOf s ≤ timeOf (Outside.opens s).2
  closes : ∀ s : σ, timeOf s ≤ timeOf (Outside.closes s)
  read : ∀ (size timeout_ms : Nat) (s : σ),
    timeOf s + 1 ≤ timeOf (Outside.read size timeout_ms s).2
  write : ∀ (buf : List Nat) (s : σ), timeOf s ≤ timeOf (Outside.write buf s).2
  clock : ∀ s : σ, timeOf s ≤ timeOf (Outside.clock s).2
  sleep : ∀ (ms : Nat) (s : σ), timeOf s ≤ timeOf (Outside.sleep ms s)
  cue : ∀ (p : Phase) (s : σ), timeOf s ≤ timeOf (Outside.cue p s)

variable {σ : Type} [Outside σ]

/-- With nothing to read at one moment, no earlier is no earlier on the clock. -/
theorem noEarlier_of_le {s t : σ} (h : timeOf s ≤ timeOf t) : NoEarlier (fun _ => 0) s t := by
  rcases Nat.lt_or_eq_of_le h with h | h
  · exact .inl h
  · exact .inr ⟨h, Nat.le_refl _⟩

instance [Ticks σ] : Paced σ where
  slack _ := 0
  opens s := noEarlier_of_le (Ticks.opens s)
  closes s := noEarlier_of_le (Ticks.closes s)
  read size timeout_ms s := noEarlier_of_le (Nat.le_of_succ_le (Ticks.read size timeout_ms s))
  read_later size timeout_ms s s' raw _ hr := by
    have h := Ticks.read size timeout_ms s
    rw [hr] at h
    exact .inl h
  write buf s := noEarlier_of_le (Ticks.write buf s)
  clock s := noEarlier_of_le (Ticks.clock s)
  sleep ms s := noEarlier_of_le (Ticks.sleep ms s)
  cue p s := noEarlier_of_le (Ticks.cue p s)

section Settles

variable [Paced σ] (w : World σ)

omit [Outside σ] [Paced σ] in
theorem settles_ignoring {α : Type} {m : Py σ α} (h : Settles m w) : Settles (ignoring m) w :=
  h.bind fun _ _ _ _ => settles_pure _ _

omit [Paced σ] in
theorem settles_alive : Settles (alive (σ := σ)) w := by
  refine Settles.attempt ((settles_read _ _).bind fun _ _ _ _ => settles_pure _ _) fun _ exc _ _ => ?_
  cases exc <;> first | exact settles_pure _ _ | exact settles_raise _ _

theorem settles_position : Settles (position (σ := σ)) w :=
  (settles_require _ _ _).bind fun _ _ _ _ => settles_pure _ _

/-- **Every method settles.** -/
theorem settles_operation (op : Operation) : Settles (op.run (σ := σ)) w := by
  cases op with
  | open_ => exact settles_openUnit w
  | reconnect => exact (settles_close w).bind fun _ _ w' _ => settles_openUnit w'
  | close => exact settles_close w
  | alive => exact settles_ignoring w (settles_alive w)
  | command cmd args timeout_ms => exact settles_ignoring w (settles_command w cmd args timeout_ms)
  | require cmd args => exact settles_ignoring w (settles_require w cmd args)
  | status => exact settles_ignoring w (settles_status w)
  | position => exact settles_ignoring w (settles_position w)
  | waitState mask want timeout_ms =>
    exact settles_ignoring w (settles_waitState w mask want timeout_ms)
  | waitIdle timeout_ms => exact settles_ignoring w (settles_waitState w _ _ _)
  | waitForInsert timeout_ms => exact settles_ignoring w (settles_waitState w _ _ _)
  | waitForTake timeout_ms => exact settles_ignoring w (settles_waitState w _ _ _)
  | discInBay => exact settles_ignoring w (settles_discInBay w)
  | ensureHomed progress => exact settles_ensureHomed w progress
  | moveTo slot eject progress => exact settles_moveTo w slot eject progress
  | park progress => exact settles_park w progress
  | reset progress => exact settles_reset w progress
  | ingest progress => exact settles_ingest w progress
  | retract progress => exact settles_ignoring w (settles_retract w progress)
  | setLed onTime period => exact settles_ignoring w (settles_command w _ _ _)

/-- A job that is run comes to an end, and is terminal then. -/
theorem runOwned_ends (traced : Bool) (flow : Flow) (title : String) (discId slot : Option Nat) :
    ∃ N w', w'.job.done = true ∧ ∀ n, N ≤ n →
      runOwned traced flow.run n { w with job := Job.new title discId slot } = (.ok (), w') := by
  have hstart : Went [.moving] { w with job := Job.new title discId slot } := ⟨rfl, rfl⟩
  obtain ⟨N, ⟨o, w'⟩, hne, hN⟩ := settles_runOwned { w with job := Job.new title discId slot }
    traced fun w => settles_flow w flow
  have h := runOwned_closed traced (flow_course (σ := σ) flow) N _ hstart
  rw [hN N (Nat.le_refl N)] at h
  cases o with
  | ok _ => exact ⟨N, w', done_of_closed h, hN⟩
  | raise e => exact nomatch h.1
  | hang => exact absurd rfl hne

end Settles

/-- **Nothing the unit does hangs the worker.** Whatever its reads and writes come to, as long as
each read takes a millisecond, every method and every flow ends in one way at every bound on
loops that is large enough, and so does every job, which is terminal then. -/
theorem nothing_hangs [Ticks σ] (w : World σ) :
    (∀ op : Operation, Settles op.run w) ∧ (∀ flow : Flow, Settles flow.run w) ∧
      ∀ (traced : Bool) (flow : Flow) (title : String) (discId slot : Option Nat),
        ∃ N w', w'.job.done = true ∧ ∀ n, N ≤ n →
          runOwned traced flow.run n { w with job := Job.new title discId slot } = (.ok (), w') :=
  ⟨settles_operation w, settles_flow w, runOwned_ends w⟩

instance : Ticks Puppet where
  opens p := Nat.le_refl p.now
  closes p := Nat.le_refl p.now
  read _ _ p := Nat.le_add_right (p.now + 1) p.step
  write _ p := Nat.le_refl p.now
  clock p := Nat.le_refl p.now
  sleep ms p := Nat.le_add_right p.now ms
  cue _ p := Nat.le_refl p.now

/-- A unit that announces itself for ever. -/
def announcing : World Puppet :=
  World.boot (.reading (fun _ => .ok [0x01, 0, 0, cmdNewUnit, 0, 0, 0, 0]) 0) []

theorem nothing_hangs_announcing : Settles (Operation.run .open_) announcing ∧
    Settles (Flow.run .reset) announcing ∧ ∃ N w', w'.job.done = true ∧ ∀ n, N ≤ n →
      runOwned true (Flow.run .reset) n { announcing with job := Job.new "Reset the unit" none none } =
        (.ok (), w') :=
  ⟨(nothing_hangs announcing).1 .open_, (nothing_hangs announcing).2.1 .reset,
    (nothing_hangs announcing).2.2 true .reset "Reset the unit" none none⟩

end StakkaWeb
