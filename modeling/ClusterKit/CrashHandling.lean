import ClusterKit.Outcome
import ClusterKit.RestartQueue

/-! What an exit means to the restart coordinator: nothing, a slot given up, or a crash
that is recorded. -/

namespace ClusterKit

open State

variable {e : Host} {s t : State} {id : Nat} {code : Option Int} {signal : Option String}

namespace State

/-- `handleWorkerExit` reads the exit of `id` as a crash. -/
def crashes (id : Nat) (s : State) : Bool :=
  !s.manager.disposed && !s.isShuttingDown && !(s.worker id).exitedAfterDisconnect

/-- The exit of `id` is recorded in the crash tracker. -/
def recordsCrash (e : Host) (id : Nat) (s : State) : Bool := s.crashes id && !s.givesUpSlot e id

end State

/-- What `x` shares with `s`, from which an exit of `id` led to it, as far as the restart
coordinator asks. -/
structure CrashSeen (s : State) (id : Nat) (x : State) : Prop where
  now : x.now = s.now
  restart : x.restart = { s.restart with
    backoffResetTimer := none, consecutiveBootFailures := x.restart.consecutiveBootFailures }
  process : x.process = s.process
  shutting : x.isShuttingDown = false
  forkCalls : x.cluster.forkCalls = s.cluster.forkCalls
  metrics : x.metrics = (s.cleanupWorker id).metrics

/-- The segment of an exit, by what the restart coordinator is told. -/
inductive CrashSegment (e : Host) (s : State) (id : Nat) (code : Option Int)
    (signal : Option String) : State → Prop
  | uncounted (t : State) (h : s.crashes id = false) (hr : t.restart = s.restart)
      (hp : t.process = s.process) (hm : t.metrics.workerRestarts = s.metrics.workerRestarts)
      (hc : t.cluster.forkCalls = s.cluster.forkCalls) : CrashSegment e s id code signal t
  | quarantined (x : State) (hx : CrashSeen s id x) (h : s.crashes id = true)
      (hg : s.givesUpSlot e id = true) : CrashSegment e s id code signal x.quarantineSlot
  | recorded (x : State) (hx : CrashSeen s id x) (h : s.recordsCrash e id = true) :
    CrashSegment e s id code signal (x.crashRecorded e id code signal)

/-! ## The way of an exit -/

/-- The listeners on a dying worker fork nothing. -/
theorem workerExitListeners_forkCalls (id : Nat) (s : State) :
    (s.workerExitListeners e id).cluster.forkCalls = s.cluster.forkCalls := by
  have hreplacement (r : State) : (r.onReplacementExit e id).cluster.forkCalls = r.cluster.forkCalls := by
    unfold onReplacementExit
    split
    · rfl
    · split
      · rfl
      · unfold drainOldWorker
        split <;> rfl
  have hroll (r : State) : (r.onRolledWorkerExit id).cluster.forkCalls = r.cluster.forkCalls := by
    unfold onRolledWorkerExit
    split
    · split <;> rfl
    · split <;> rfl
    · rfl
  have hsettle (r : State) : (r.settleAck id).cluster.forkCalls = r.cluster.forkCalls := by
    unfold settleAck
    split <;> rfl
  unfold workerExitListeners
  rw [hsettle]
  exact (hroll _).trans (hreplacement _)

/-- `onWorkerCrash` either gives up the slot or records the crash. -/
theorem onWorkerCrash_segment {x : State} (hx : CrashSeen s id x) (hc : s.crashes id = true)
    (honline : x.orch.onlineWorkerIds = s.orch.onlineWorkerIds.erase id)
    (hcount : x.restart.consecutiveBootFailures = s.restart.consecutiveBootFailures) :
    CrashSegment e s id code signal
      (x.onWorkerCrash e id code signal (decide (id ∉ s.orch.onlineWorkerIds))) := by
  have hcounted : CrashSeen s id x.countBootFailure :=
    { hx with restart := by rw [countBootFailure, hx.restart] }
  have hgives : s.givesUpSlot e id =
      ((decide (id ∉ s.orch.onlineWorkerIds) && decide (e.cfg.restart.bootFailQuarantine > 0) &&
          decide x.orch.onlineWorkerIds.Nonempty) &&
        decide (x.restart.consecutiveBootFailures + 1 ≥ e.cfg.restart.bootFailQuarantine)) := by
    simp only [crashes, Bool.and_eq_true, Bool.not_eq_true'] at hc
    rw [honline, hcount, givesUpSlot, hc.1.2, hc.2]
    by_cases hid : id ∈ s.orch.onlineWorkerIds
    · simp [hid]
    · simp [hid, Finset.erase_eq_of_notMem]
  have hrecorded {b : Bool} (hg : s.givesUpSlot e id = b) (hb : b = false) :
      s.recordsCrash e id = true := by
    rw [recordsCrash, hc, hg, hb]
    rfl
  unfold onWorkerCrash
  simp only
  split
  · rename_i hcond
    rw [hcond, Bool.true_and] at hgives
    split
    · rename_i hlimit
      exact .quarantined _ hcounted hc (hgives.trans (decide_eq_true hlimit))
    · rename_i hlimit
      exact .recorded _ hcounted (hrecorded hgives (decide_eq_false hlimit))
  · rename_i hcond
    rw [Bool.eq_false_iff.mpr hcond, Bool.false_and] at hgives
    exact .recorded _ hx (hrecorded hgives rfl)

/-- **Exit rule.** What an exit does to the restart coordinator. -/
theorem workerExit_crash (hw : WellFormed s) (h : s.workerExit e id code signal = some t) :
    s.alive id ∧ CrashSegment e s id code signal t := by
  obtain ⟨m, hm, hran, hheard⟩ := workerExit_ran hw h
  refine ⟨hran.alive, ?_⟩
  have hsame := hran.same
  have hforks : m.cluster.forkCalls = s.cluster.forkCalls := by
    rw [hm, workerExitListeners_forkCalls]
    rfl
  have hrestarts : m.metrics.workerRestarts = s.metrics.workerRestarts :=
    congrArg WorkerMetrics.workerRestarts hsame.metrics
  have hcrashes : s.crashes id =
      (!m.manager.disposed && !m.isShuttingDown && !(m.worker id).exitedAfterDisconnect) := by
    rw [crashes, hsame.manager, hsame.shutting, hran.graceful]
  rcases hheard with ⟨hdisposed, rfl⟩ | ⟨hlistens, hhandled⟩
  · refine .uncounted _ ?_ hsame.restart hsame.process hrestarts hforks
    simp [hcrashes, hdisposed]
  · obtain ⟨hnow, hrestart, hprocess, hshut, hcluster, hmetrics, honline⟩ :=
      recomputeFleetHealth_keeps (e := e) (m.exitReported id code signal)
    have hforks' := (congrArg Cluster.forkCalls hcluster).trans hforks
    cases hhandled with
    | shutting t hs ht =>
      have hquiet : s.crashes id = false := by simp [hcrashes, hs]
      rcases ht with rfl | rfl
      · exact .uncounted _ hquiet hsame.restart hsame.process hrestarts hforks
      · exact .uncounted _ hquiet hsame.restart hsame.process hrestarts hforks
    | graceful hs hg =>
      have hquiet : s.crashes id = false := by simp [hcrashes, hg]
      refine .uncounted _ hquiet (hrestart.trans hsame.restart) (hprocess.trans hsame.process) ?_ hforks'
      exact (congrArg WorkerMetrics.workerRestarts hmetrics).trans hrestarts
    | crashed hs hg =>
      have hc : s.crashes id = true := by simp [hcrashes, hlistens, hs, hg]
      rw [hsame.orch]
      refine onWorkerCrash_segment ?_ hc ?_ ?_
      · constructor
        case now => exact hnow.trans hsame.now
        case restart =>
          let r := (m.exitReported id code signal).recomputeFleetHealth e
          have hfound : r.restart = s.restart := hrestart.trans hsame.restart
          show { r.restart with backoffResetTimer := none } = { s.restart with
            backoffResetTimer := none
            consecutiveBootFailures := r.restart.consecutiveBootFailures }
          rw [hfound]
        case process => exact hprocess.trans hsame.process
        case shutting => exact hshut.trans hs
        case forkCalls => exact hforks'
        case metrics =>
          refine hmetrics.trans ?_
          show { m.metrics with activeWorkers := m.metrics.activeWorkers - 1 } = _
          rw [hsame.metrics]
          rfl
      · exact honline.trans (congrArg (fun o => o.onlineWorkerIds.erase id) hsame.orch)
      · exact (congrArg RestartCoordinator.consecutiveBootFailures hrestart).trans
          (congrArg RestartCoordinator.consecutiveBootFailures hsame.restart)

end ClusterKit
