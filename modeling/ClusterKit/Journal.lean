import ClusterKit.State
import ClusterKit.Lib.Replay

/-! What the emitted events promise to whoever listens. The journal is a reader of the
events alone: it knows who is online and who is gone, what has to come next, and the
numbers that the metrics have to agree with. It refuses an event that breaks a promise. -/

namespace ClusterKit

/-- The metrics that are counts of events. -/
structure Tally where
  workerRestarts : Nat := 0
  crashLoopBackoffs : Nat := 0
  gracefulShutdowns : Nat := 0
  deriving DecidableEq

def WorkerMetrics.tally (m : WorkerMetrics) : Tally where
  workerRestarts := m.workerRestarts
  crashLoopBackoffs := m.crashLoopBackoffs
  gracefulShutdowns := m.gracefulShutdowns

inductive Phase where
  | serving | shutting | over
  deriving DecidableEq

/-- What has to come next. -/
inductive Owed where
  | nothing
  /-- A worker exited by itself: its crash is next. -/
  | crash (workerId : Nat) (code : Option Int) (signal : Option String)
  /-- A crash was reported: what the breaker makes of it may be next. -/
  | verdict
  | recycle (workerId : Nat) (reason : RecycleReason)
  deriving DecidableEq

structure Journal where
  /-- The largest worker id that was mentioned. -/
  newest : Nat := 0
  online : Finset Nat := ∅
  gone : Finset Nat := ∅
  /-- Workers whose reports are no longer heard. -/
  silent : Finset Nat := ∅
  /-- Workers that may be found wedged: their last word is a report. -/
  reporting : Finset Nat := ∅
  degraded : Bool := false
  /-- The reason and the workers of the last roll that began. -/
  roll : Option (String × List Nat) := none
  phase : Phase := .serving
  tally : Tally := {}
  owed : Owed := .nothing

namespace Journal

/-- Nothing has to come next. -/
def settled (j : Journal) : Bool :=
  match j.owed with
  | .nothing => true
  | .verdict => true
  | _ => false

/-- A recovery stands before the crash that an exit owes. -/
def mayRecover (j : Journal) : Bool :=
  match j.owed with
  | .nothing => true
  | .crash .. => true
  | _ => false

/-- A worker is mentioned, and whatever might have been owed is not. -/
def mention (id : Nat) (j : Journal) : Journal :=
  { j with newest := max j.newest id, owed := .nothing }

def clear (j : Journal) : Journal := { j with owed := .nothing }

def expect (p : Prop) [Decidable p] (j : Journal) : Option Journal := if p then some j else none

theorem expect_eq_some {p : Prop} [Decidable p] {j k : Journal} :
    expect p j = some k ↔ p ∧ j = k := by
  unfold expect
  split
  · simp_all
  · simp_all

/-- The next event, if the journal expects it. -/
def read (j : Journal) : Event → Option Journal
  | .workerOnline id =>
    expect (j.settled ∧ id ∉ j.online ∧ id ∉ j.gone ∧ j.phase ≠ .over)
      { j.mention id with online := insert id j.online }
  | .workerExit id code signal graceful =>
    expect (j.settled ∧ id ∉ j.gone ∧ j.phase ≠ .over)
      { j.mention id with
        online := j.online.erase id
        gone := insert id j.gone
        silent := insert id j.silent
        reporting := j.reporting.erase id
        tally := { j.tally with
          gracefulShutdowns := j.tally.gracefulShutdowns + if graceful then 1 else 0 }
        owed := if graceful ∨ j.phase ≠ .serving then .nothing else .crash id code signal }
  | .workerCrash id code signal =>
    expect (j.owed = .crash id code signal) { j with owed := .verdict }
  | .workerRestart id =>
    expect (j.settled ∧ j.newest < id ∧ j.phase = .serving)
      { j.mention id with
        tally := { j.tally with workerRestarts := j.tally.workerRestarts + 1 } }
  | .workerDraining id reason =>
    expect (j.settled ∧ id ∉ j.gone ∧ j.phase = .serving)
      { j.mention id with owed := .recycle id reason }
  | .workerRecycle id _ reason => expect (j.owed = .recycle id reason) j.clear
  | .workerHealth report =>
    expect (j.settled ∧ report.workerId ∉ j.silent)
      { j.mention report.workerId with reporting := insert report.workerId j.reporting }
  | .workerWedged id _ =>
    expect (j.settled ∧ id ∈ j.reporting ∧ j.phase = .serving)
      { j.clear with reporting := j.reporting.erase id }
  | .workerQuarantined _ => expect (j.owed = .verdict ∧ j.online.Nonempty) j.clear
  | .circuitBreakerTripped .. =>
    expect (j.owed = .verdict)
      { j.clear with
        tally := { j.tally with crashLoopBackoffs := j.tally.crashLoopBackoffs + 1 } }
  | .shutdownStart _ =>
    expect (j.settled ∧ j.phase = .serving)
      { j.clear with phase := .shutting, silent := ∅, reporting := ∅, degraded := false }
  | .shutdownComplete metrics =>
    expect (j.settled ∧ j.phase = .shutting ∧ metrics.tally = j.tally)
      { j.clear with phase := .over }
  | .restartStart reason workerIds =>
    expect (j.settled ∧ j.phase = .serving ∧ ∀ id ∈ workerIds, id ∉ j.gone)
      { j.clear with
        newest := max j.newest (workerIds.foldr max ⊥)
        roll := some (reason, workerIds) }
  | .restartComplete restartedWorkerIds reason =>
    expect (j.settled ∧ ∃ r ∈ j.roll, r.1 = reason ∧ restartedWorkerIds.Sublist r.2)
      { j.clear with roll := none }
  | .fleetDegraded .. =>
    expect (j.settled ∧ j.phase = .serving ∧ j.degraded = false) { j.clear with degraded := true }
  | .fleetRecovered target active _ =>
    expect (j.mayRecover ∧ j.phase = .serving ∧ j.degraded = true ∧ target ≤ active)
      { j with degraded := false }

end Journal

/-- The journal as a reader. -/
def journal : StepSystem Journal Event where
  init := {}
  step := Journal.read

end ClusterKit
