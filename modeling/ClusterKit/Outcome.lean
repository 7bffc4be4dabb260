import ClusterKit.Segment

/-! The segments that are not chains of moves: what each of them can lead to. With it
the bookkeeping holds in every reachable state. -/

namespace ClusterKit

open State Relation

variable {e : Host} {s t : State}

/-! ## An exit -/

namespace State

/-- The manager and the orchestrator forget a worker. -/
def removed (id : Nat) (s : State) : State := (s.cleanupWorker id).forgetWorker id

/-- The exit of `id` gives up its slot: it never came online, it is not graceful, and it is
the boot failure that reaches the limit while `hasOnlineWorkers()` holds. -/
def givesUpSlot (e : Host) (id : Nat) (s : State) : Bool :=
  !s.isShuttingDown && !(s.worker id).exitedAfterDisconnect &&
    decide (id ∉ s.orch.onlineWorkerIds) && decide (e.cfg.restart.bootFailQuarantine > 0) &&
    decide s.orch.onlineWorkerIds.Nonempty &&
    decide (s.restart.consecutiveBootFailures + 1 ≥ e.cfg.restart.bootFailQuarantine)

end State

/-- What the exit handler of the cluster makes of the state `m` that the listeners on
the worker leave behind. -/
inductive ExitOutcome (e : Host) (m : State) (id : Nat) : State → Prop
  | unheard (hd : m.manager.disposed = true) : ExitOutcome e m id m
  | drained (t : State)
      (h : m.isShuttingDown = true ∨ (m.worker id).exitedAfterDisconnect = true)
      (hq : Quiet (m.removed id) t) : ExitOutcome e m id t
  | quarantined (b : State) (hs : m.isShuttingDown = false) (hq : Quiet (m.removed id) b)
      (hg : m.givesUpSlot e id = true) : ExitOutcome e m id b.quarantineSlot
  | tripped (b : State) (hs : m.isShuttingDown = false) (hq : Quiet (m.removed id) b)
      (hg : m.givesUpSlot e id = false) (ht : b.noteCrash.breakerTripped = true) :
    ExitOutcome e m id b.noteCrash.breakerTrip
  | queued (b : State) (entry : RestartQueueEntry) (hs : m.isShuttingDown = false)
      (hq : Quiet (m.removed id) b) (hg : m.givesUpSlot e id = false)
      (ht : b.noteCrash.breakerTripped = false) :
    ExitOutcome e m id ((b.noteCrash.queueCrash entry).kickRestartQueue e)

theorem crashRecorded_outcome {m b : State} {id : Nat} {code : Option Int} {signal : Option String}
    (hs : m.isShuttingDown = false) (hq : Quiet (m.removed id) b)
    (hg : m.givesUpSlot e id = false) : ExitOutcome e m id (b.crashRecorded e id code signal) := by
  unfold crashRecorded
  simp only
  split
  · rename_i ht
    exact .tripped b hs hq hg ht
  · rename_i ht
    exact .queued b _ hs hq hg (Bool.eq_false_iff.mpr ht)

theorem onWorkerCrash_outcome {m b : State} {id : Nat} {code : Option Int} {signal : Option String}
    {bootFailed : Bool} (hs : m.isShuttingDown = false)
    (hgr : (m.worker id).exitedAfterDisconnect = false) (hq : Quiet (m.removed id) b)
    (hcount : b.restart.consecutiveBootFailures = m.restart.consecutiveBootFailures)
    (hboot : bootFailed = decide (id ∉ m.orch.onlineWorkerIds)) :
    ExitOutcome e m id (b.onWorkerCrash e id code signal bootFailed) := by
  have hcounted : Quiet (m.removed id) b.countBootFailure := hq.trans (.of_eq rfl)
  have honline : b.orch.onlineWorkerIds = m.orch.onlineWorkerIds.erase id := by
    obtain ⟨_, _, _, rfl⟩ := hq
    rfl
  have hg : m.givesUpSlot e id =
      ((bootFailed && decide (e.cfg.restart.bootFailQuarantine > 0) &&
          decide b.orch.onlineWorkerIds.Nonempty) &&
        decide (b.countBootFailure.restart.consecutiveBootFailures ≥
          e.cfg.restart.bootFailQuarantine)) := by
    have hb : b.countBootFailure.restart.consecutiveBootFailures =
        m.restart.consecutiveBootFailures + 1 := congrArg (· + 1) hcount
    rw [hb, honline, hboot, givesUpSlot, hs, hgr]
    by_cases hid : id ∈ m.orch.onlineWorkerIds
    · simp [hid]
    · simp [hid, Finset.erase_eq_of_notMem]
  unfold onWorkerCrash
  simp only
  split
  · rename_i hcond
    rw [hcond, Bool.true_and] at hg
    split
    · rename_i hlimit
      exact .quarantined b.countBootFailure hs hcounted (hg.trans (decide_eq_true hlimit))
    · rename_i hlimit
      exact crashRecorded_outcome hs hcounted (hg.trans (decide_eq_false hlimit))
  · rename_i hcond
    rw [Bool.eq_false_iff.mpr hcond, Bool.false_and] at hg
    exact crashRecorded_outcome hs hq hg

/-- Recomputing the fleet's health does not look at who is online. -/
theorem forgetWorker_recompute (id : Nat) (s : State) :
    (s.recomputeFleetHealth e).forgetWorker id = (s.forgetWorker id).recomputeFleetHealth e := by
  unfold recomputeFleetHealth
  simp only [apply_ite (forgetWorker id)]
  rfl

/-- The exit of `id` is reported, and `id` is forgotten. -/
def State.exitReported (id : Nat) (code : Option Int) (signal : Option String) (m : State) : State :=
  (m.removed id).emit (.workerExit id code signal (m.worker id).exitedAfterDisconnect)

/-- What the handler of the cluster does about an exit. -/
inductive ExitHandled (e : Host) (m : State) (id : Nat) (code : Option Int)
    (signal : Option String) : State → Prop
  | shutting (t : State) (hs : m.isShuttingDown = true)
      (ht : t = m.exitReported id code signal ∨
        t = (m.exitReported id code signal).countGracefulShutdown) :
    ExitHandled e m id code signal t
  | graceful (hs : m.isShuttingDown = false) (hg : (m.worker id).exitedAfterDisconnect = true) :
    ExitHandled e m id code signal
      ((m.exitReported id code signal).recomputeFleetHealth e).countGracefulShutdown
  | crashed (hs : m.isShuttingDown = false) (hg : (m.worker id).exitedAfterDisconnect = false) :
    ExitHandled e m id code signal
      ((((m.exitReported id code signal).recomputeFleetHealth e).cancelBackoffReset.emit
        (.workerCrash id code signal)).onWorkerCrash e id code signal
          (decide (id ∉ m.orch.onlineWorkerIds)))

theorem handleWorkerExit_handled (m : State) (id : Nat) (code : Option Int)
    (signal : Option String) :
    ExitHandled e m id code signal ((m.cleanupWorker id).handleWorkerExit e id code signal) := by
  let r := (m.cleanupWorker id).emit (.workerExit id code signal (m.worker id).exitedAfterDisconnect)
  have hforgotten : (r.recomputeFleetHealth e).forgetWorker id =
      (m.exitReported id code signal).recomputeFleetHealth e := forgetWorker_recompute id r
  have honline : (r.recomputeFleetHealth e).orch.onlineWorkerIds = m.orch.onlineWorkerIds := by
    rw [recomputeFleetHealth_eq]
    rfl
  unfold handleWorkerExit
  extract_lets graceful r₁ r₂ r₃ r₄ bootFailed x
  split
  · rename_i hs
    split
    · exact .shutting _ hs (.inr rfl)
    · exact .shutting _ hs (.inl rfl)
  · rename_i hs
    have hs : m.isShuttingDown = false := Bool.eq_false_iff.mpr hs
    split
    · rename_i hg
      rw [show r₃.forgetWorker id = _ from hforgotten]
      exact .graceful hs hg
    · rename_i hg
      have hx : x = ((m.exitReported id code signal).recomputeFleetHealth e).cancelBackoffReset.emit
          (.workerCrash id code signal) := by
        rw [← hforgotten]
        rfl
      have hboot : bootFailed = decide (id ∉ m.orch.onlineWorkerIds) := by
        rw [← honline]
        rfl
      rw [hx, hboot]
      exact .crashed hs (Bool.eq_false_iff.mpr hg)

theorem handleWorkerExit_outcome {m : State} {id : Nat} {code : Option Int} {signal : Option String}
    (h : ExitHandled e m id code signal t) : ExitOutcome e m id t := by
  have hreported : Quiet (m.removed id) (m.exitReported id code signal) := .of_event _ rfl rfl
  have hhealth : Quiet (m.removed id) ((m.exitReported id code signal).recomputeFleetHealth e) :=
    hreported.trans recomputeFleetHealth_quiet
  cases h with
  | shutting t hs ht =>
    refine .drained _ (.inl hs) ?_
    rcases ht with rfl | rfl
    · exact hreported
    · exact hreported.trans (.of_eq rfl)
  | graceful hs hg => exact .drained _ (.inr hg) (hhealth.trans (.of_eq rfl))
  | crashed hs hg =>
    refine onWorkerCrash_outcome hs hg (hhealth.trans (.of_event (.workerCrash id code signal) rfl rfl))
      ?_ rfl
    have hcount := congrArg RestartCoordinator.consecutiveBootFailures
      (recomputeFleetHealth_keeps (e := e) (m.exitReported id code signal)).2.1
    exact hcount

theorem State.isDead_markDead (s : State) (id : Nat) : (s.markDead id).isDead id = true :=
  congrArg Worker.dead worker_modifyWorker_self

theorem State.isDead_markDead_of_ne (s : State) {id j : Nat} (h : j ≠ id) :
    (s.markDead id).isDead j = s.isDead j :=
  congrArg Worker.dead (worker_modifyWorker_of_ne h)

theorem WellFormed.markDead (hw : WellFormed s) (id : Nat) : WellFormed (s.markDead id) :=
  { hw with
    alive_tracked := fun j ha => by
      by_cases h : j = id
      · subst h
        rw [alive, isDead_markDead] at ha
        cases ha
      · exact hw.alive_tracked j ((isDead_markDead_of_ne s h).symm.trans ha) }

/-- What the listeners on a worker leave alone. -/
structure SameServices (s t : State) : Prop where
  now : t.now = s.now
  manager : t.manager = s.manager
  metrics : t.metrics = s.metrics
  restart : t.restart = s.restart
  process : t.process = s.process
  orch : t.orch = s.orch
  shutting : t.isShuttingDown = s.isShuttingDown

theorem SameServices.refl (s : State) : SameServices s s := ⟨rfl, rfl, rfl, rfl, rfl, rfl, rfl⟩

theorem SameServices.trans {u : State} (h : SameServices s t) (h' : SameServices t u) :
    SameServices s u :=
  ⟨h'.now.trans h.now, h'.manager.trans h.manager, h'.metrics.trans h.metrics,
    h'.restart.trans h.restart, h'.process.trans h.process, h'.orch.trans h.orch,
    h'.shutting.trans h.shutting⟩

theorem onReplacementExit_same (id : Nat) (s : State) :
    SameServices s (s.onReplacementExit e id) := by
  unfold onReplacementExit
  split
  · exact .refl s
  · split
    · exact .refl s
    · unfold drainOldWorker
      split
      · exact .refl s
      · exact ⟨rfl, rfl, rfl, rfl, rfl, rfl, rfl⟩

theorem onRolledWorkerExit_same (id : Nat) (s : State) :
    SameServices s (s.onRolledWorkerExit id) := by
  unfold onRolledWorkerExit
  split
  · split
    · exact ⟨rfl, rfl, rfl, rfl, rfl, rfl, rfl⟩
    · exact .refl s
  · split
    · exact ⟨rfl, rfl, rfl, rfl, rfl, rfl, rfl⟩
    · exact .refl s
  · exact .refl s

theorem settleAck_same (id : Nat) (s : State) : SameServices s (s.settleAck id) := by
  unfold settleAck
  split <;> exact ⟨rfl, rfl, rfl, rfl, rfl, rfl, rfl⟩

theorem workerExitListeners_same (id : Nat) (s : State) :
    SameServices s (s.workerExitListeners e id) := by
  have hclear (r : State) : SameServices r (r.clearKillTimers id) :=
    ⟨rfl, rfl, rfl, rfl, rfl, rfl, rfl⟩
  have hroll := (onReplacementExit_same (e := e) id s).trans (onRolledWorkerExit_same id _)
  exact hroll.trans ((hclear _).trans (settleAck_same id _))

/-- The listeners on a worker do not change its own record. -/
theorem workerExitListeners_worker (hw : WellFormed s) (id : Nat) :
    (s.workerExitListeners e id).worker id = s.worker id := by
  have hsettle (r : State) : (r.settleAck id).worker id = r.worker id := by
    unfold settleAck
    split <;> rfl
  have hroll (r : State) : (r.onRolledWorkerExit id).worker id = r.worker id := by
    unfold onRolledWorkerExit
    split
    · split <;> rfl
    · split <;> rfl
    · rfl
  have hreplacement : (s.onReplacementExit e id).worker id = s.worker id := by
    unfold onReplacementExit
    split
    · rfl
    · rename_i r hfind
      obtain ⟨hr, rfl⟩ := mem_of_findRecycle hfind
      split
      · rfl
      · unfold drainOldWorker
        split
        · rfl
        · exact worker_modifyWorker_of_ne (Nat.ne_of_gt (hw.recycled r hr).1)
  unfold workerExitListeners
  rw [hsettle]
  exact (hroll _).trans hreplacement

/-- The listeners on a dying worker took the primary from `s` to `m`. -/
structure ListenersRan (e : Host) (s : State) (id : Nat) (m : State) : Prop where
  alive : s.alive id
  moves : Moves e (s.markDead id) m
  same : SameServices s m
  graceful : (m.worker id).exitedAfterDisconnect = (s.worker id).exitedAfterDisconnect
  dead : m.isDead id = true
  tracked : id ∈ m.tracked
  wellFormed : WellFormed m

theorem workerExitListeners_ran (hw : WellFormed s) {id : Nat} (ha : s.alive id) :
    ListenersRan e s id ((s.markDead id).workerExitListeners e id) := by
  have hid := hw.alive_tracked id ha
  have hle := (hw.tracked_bounded id hid).2
  have hwd := hw.markDead id
  have hm : Moves e (s.markDead id) ((s.markDead id).workerExitListeners e id) :=
    workerExitListeners_moves hwd (isDead_markDead s id) hle
  have hdied : SameServices s (s.markDead id) := ⟨rfl, rfl, rfl, rfl, rfl, rfl, rfl⟩
  constructor
  case alive => exact ha
  case moves => exact hm
  case same => exact hdied.trans (workerExitListeners_same id _)
  case graceful =>
    rw [workerExitListeners_worker hwd id]
    exact modifyWorker_field Worker.exitedAfterDisconnect fun _ => rfl
  case dead => exact (hm.later.worker id hle).dead (isDead_markDead s id)
  case tracked => exact hm.tracked_subset hid
  case wellFormed => exact hwd.moves hm

/-- An exit: the listeners on the worker run, then the handler of the cluster, if it listens. -/
theorem workerExit_ran (hw : WellFormed s) {id : Nat} {code : Option Int} {signal : Option String}
    (h : s.workerExit e id code signal = some t) :
    ∃ m, m = (s.markDead id).workerExitListeners e id ∧ ListenersRan e s id m ∧
      (m.manager.disposed = true ∧ t = m ∨
        m.manager.disposed = false ∧ ExitHandled e m id code signal t) := by
  unfold workerExit at h
  split at h
  · cases h
  · rename_i hd
    refine ⟨_, rfl, workerExitListeners_ran hw (Bool.eq_false_iff.mpr hd), ?_⟩
    simp only at h
    split at h
    · rename_i hdisposed
      exact .inl ⟨hdisposed, (Option.some.inj h).symm⟩
    · rename_i hlistens
      rw [← Option.some.inj h]
      exact .inr ⟨Bool.eq_false_iff.mpr hlistens, handleWorkerExit_handled _ id code signal⟩

theorem workerExit_outcome (hw : WellFormed s) {id : Nat} {code : Option Int}
    {signal : Option String} (h : s.workerExit e id code signal = some t) :
    ∃ m, ListenersRan e s id m ∧ ExitOutcome e m id t := by
  obtain ⟨m, -, hran, ⟨hdisposed, rfl⟩ | ⟨-, hhandled⟩⟩ := workerExit_ran hw h
  · exact ⟨_, hran, .unheard hdisposed⟩
  · exact ⟨m, hran, handleWorkerExit_outcome hhandled⟩

/-! ## A stagger timer -/

namespace State

/-- The aged worker keeps its place: its timer and its mark are gone. -/
def agedDropped (id : Nat) (s : State) : State :=
  (s.deleteRecycleTimer id).unmarkForRecycling id

/-- The fork for an aged worker whose timer fired. -/
def agedCall (e : Host) (id : Nat) (s : State) : ForkCall :=
  (s.deleteRecycleTimer id).forkCall e (.aged id) none

/-- The aged worker got its replacement. -/
def agedRecycled (e : Host) (id : Nat) (s : State) : State :=
  ((s.deleteRecycleTimer id).forked (s.agedCall e id)).recycle e id (s.cluster.ids + 1)

end State

inductive AgedOutcome (e : Host) (s : State) (id : Nat) : State → Prop
  | dropped (h : s.isDead id = true ∨ s.isShuttingDown = true) :
    AgedOutcome e s id (s.agedDropped id)
  | unsafeEnv (ha : s.alive id) (hs : s.isShuttingDown = false)
      (henv : isSafeEnvObject s.orch.env = false) :
    AgedOutcome e s id (s.agedDropped id)
  | forkFailed (ha : s.alive id) (hs : s.isShuttingDown = false)
      (hfail : (s.agedCall e id).succeeded = false) :
    AgedOutcome e s id (clusterFork (s.agedCall e id) (s.agedDropped id))
  | recycled (t : State) (ha : s.alive id) (hs : s.isShuttingDown = false)
      (hok : (s.agedCall e id).succeeded = true) (hq : Quiet (s.agedRecycled e id) t) :
    AgedOutcome e s id t

theorem staggerElapsed_outcome {id : Nat} (h : s.staggerElapsed e id = some t) :
    id ∈ s.manager.pendingRecycleTimers.keySet ∧ AgedOutcome e s id t := by
  unfold staggerElapsed at h
  split at h
  · cases h
  · rename_i deadline htimer
    have hmem := (OrdMap.get?_isSome _ _).mp (Option.isSome_iff_exists.mpr ⟨deadline, htimer⟩)
    refine ⟨hmem, ?_⟩
    split at h
    · simp only at h
      split at h
      · rename_i hcond
        rw [← Option.some.inj h]
        exact .dropped (by rwa [Bool.or_eq_true] at hcond)
      · rename_i hcond
        simp only [Bool.or_eq_true, not_or, Bool.not_eq_true] at hcond
        obtain ⟨ha, hs⟩ := hcond
        rcases forkWorker_cases e (.aged id) none (s.deleteRecycleTimer id) with
          ⟨henv, hf⟩ | ⟨hfail, hf⟩ | ⟨hok, hf⟩
        · rw [hf] at h
          rw [← Option.some.inj h]
          exact .unsafeEnv ha hs (by rwa [Option.all_none, Bool.and_true] at henv)
        · rw [hf] at h
          rw [← Option.some.inj h]
          exact .forkFailed ha hs hfail
        · rw [hf] at h
          rw [← Option.some.inj h]
          exact .recycled _ ha hs hok (handleWorkerRecycle_quiet id _ _)
    · cases h

/-! ## The initial forks -/

/-- What the initial forks keep, one after the other. -/
theorem forkWorkers_preserves {P : State → Prop}
    (hfail : ∀ x, P x → (x.forkCall e .initial none).succeeded = false →
      P (clusterFork (x.forkCall e .initial none) x))
    (hfork : ∀ x, P x → (x.forkCall e .initial none).succeeded = true →
      P (x.forked (x.forkCall e .initial none)))
    (count : Nat) (s : State) (hs : P s) : P (forkWorkers e count s).2 := by
  induction count generalizing s with
  | zero => exact hs
  | succ count ih =>
    rw [forkWorkers]
    rcases forkWorker_cases e .initial none s with ⟨-, h⟩ | ⟨hf, h⟩ | ⟨hok, h⟩
    · rw [h]; exact hs
    · rw [h]; exact hfail s hs hf
    · rw [h]; exact ih _ (hfork s hs hok)

theorem forkWorkers_orch (count : Nat) (s : State) :
    (forkWorkers e count s).2.orch = s.orch :=
  forkWorkers_preserves (P := fun x => x.orch = s.orch) (fun _ h _ => h) (fun _ h _ => h) count s rfl

/-- Initial forks that all succeed add one worker each. -/
theorem forkWorkers_active {count : Nat} (h : (forkWorkers e count s).1 = true) :
    (forkWorkers e count s).2.metrics.activeWorkers = s.metrics.activeWorkers + count := by
  induction count generalizing s with
  | zero => rfl
  | succ count ih =>
    rw [forkWorkers] at h ⊢
    rcases forkWorker_cases e .initial none s with ⟨-, hf⟩ | ⟨-, hf⟩ | ⟨-, hf⟩
    · rw [hf] at h
      cases h
    · rw [hf] at h
      cases h
    · rw [hf] at h ⊢
      rw [ih h]
      show s.metrics.activeWorkers + 1 + count = s.metrics.activeWorkers + (count + 1)
      omega

/-- The state the initial forks start from. -/
def State.forking (s : State) : State := { s with orch := { s.orch with hasForked := true } }

theorem startPrimary_noted (count : Nat) (s : State) :
    (forkWorkers e count s.forking).1 = false ∧
      s.startPrimary e count = (forkWorkers e count s.forking).2.setRunPhase .rejected ∨
    (forkWorkers e count s.forking).1 = true ∧
      Noted ((forkWorkers e count s.forking).2.setRunPhase .started) (s.startPrimary e count) := by
  unfold startPrimary
  cases h : forkWorkers e count s.forking with
  | mk ok r =>
    unfold forking at h
    simp only [h]
    cases ok with
    | false => exact .inl ⟨rfl, rfl⟩
    | true =>
      refine .inr ⟨rfl, ?_⟩
      let r' : State := { r with orch := { r.orch with
        runPhase := .started, crashCleanupInterval := some (r.now + CRASH_CLEANUP_MS) } }
      have hr' : Noted (r.setRunPhase .started) r' := .of_eq rfl
      have hrecycling : Noted r' (r'.startRecycling e) := by
        unfold startRecycling
        split <;> exact .of_eq rfl
      have hwatch : Noted (r'.startRecycling e) ((r'.startRecycling e).startWedgedWatch e) := by
        unfold startWedgedWatch
        split <;> exact .of_eq rfl
      exact hr'.trans (hrecycling.trans hwatch)

theorem startPrimary_outcome (count : Nat) (s : State) :
    (forkWorkers e count s.forking).1 = false ∧
      s.startPrimary e count = (forkWorkers e count s.forking).2.setRunPhase .rejected ∨
    (forkWorkers e count s.forking).1 = true ∧
      Quiet ((forkWorkers e count s.forking).2.setRunPhase .started) (s.startPrimary e count) :=
  (startPrimary_noted count s).imp_right fun ⟨hok, hnoted⟩ => ⟨hok, hnoted.quiet⟩

theorem startPrimary_target (count : Nat) (s : State) :
    (s.startPrimary e count).resolveWorkerCount e = s.resolveWorkerCount e := by
  have horch := forkWorkers_orch (e := e) count s.forking
  apply resolveWorkerCount_congr
  rcases startPrimary_outcome (e := e) count s with ⟨-, heq⟩ | ⟨-, b, evs, -, heq⟩
  · rw [heq, setRunPhase, horch]
    rfl
  · rw [heq]
    show (forkWorkers e count s.forking).2.orch.count = s.orch.count
    rw [horch]
    rfl

/-! ## Configuration calls -/

namespace State

def setCount (count : WorkerCount) (s : State) : State :=
  { s with orch := { s.orch with count := count } }

def setEnv (env : ProcessEnv) (s : State) : State := { s with orch := { s.orch with env := env } }

end State

theorem pluginsInstalled_outcome (h : s.act e .pluginsInstalled = some t) :
    s.orch.runPhase = .installing ∧ t = s.startPrimary e (s.resolveWorkerCount e) := by
  simp only [State.act] at h
  split at h
  · rename_i hi
    exact ⟨hi, (Option.some.inj h).symm⟩
  · cases h

theorem workerSelfDisconnect_outcome {id : Nat} (h : s.workerSelfDisconnect id = some t) :
    s.alive id ∧ t = s.modifyWorker id fun w => { w with exitedAfterDisconnect := true } := by
  unfold workerSelfDisconnect at h
  split at h
  · cases h
  · rename_i hcond
    simp only [Bool.or_eq_true, not_or, Bool.not_eq_true] at hcond
    exact ⟨hcond.1, (Option.some.inj h).symm⟩

theorem resetCircuitBreaker_outcome (s : State) :
    s.isShuttingDown = true ∧ s.resetCircuitBreaker e = s.resetRestart ∨
      s.isShuttingDown = false ∧
        (s.orch.hasForked = false ∧ s.resetCircuitBreaker e = s.breakerReset ∨
          s.orch.hasForked = true ∧ s.resetCircuitBreaker e = s.breakerReset.refillMissing e) := by
  unfold resetCircuitBreaker
  split
  · rename_i hs
    exact .inl ⟨hs, rfl⟩
  · rename_i hs
    refine .inr ⟨Bool.eq_false_iff.mpr hs, ?_⟩
    simp only
    split
    · rename_i hf
      exact .inr ⟨hf, rfl⟩
    · rename_i hf
      exact .inl ⟨Bool.eq_false_iff.mpr hf, rfl⟩

theorem overrideWorkerCount_outcome (n : Nat) (s : State) :
    s.overrideWorkerCount n = s ∨
      s.orch.hasForked = false ∧ ∃ count, s.overrideWorkerCount n = s.setCount count := by
  unfold overrideWorkerCount
  split
  · split
    · exact .inl rfl
    · rename_i hcond
      simp only [Bool.or_eq_true, not_or, Bool.not_eq_true] at hcond
      split
      · exact .inl rfl
      · exact .inr ⟨hcond.2, _, rfl⟩
  · exact .inl rfl

theorem patchWorkerEnv_outcome (env : ProcessEnv) (s : State) :
    s.patchWorkerEnv env = s ∨
      s.orch.hasForked = false ∧ s.patchWorkerEnv env = s.setEnv (overlay s.orch.env env) := by
  unfold patchWorkerEnv
  split
  · exact .inl rfl
  · rename_i hcond
    simp only [Bool.or_eq_true, not_or, Bool.not_eq_true] at hcond
    exact .inr ⟨hcond.1, rfl⟩

/-! ## The start of a roll -/

theorem restartWorkers_begun {a : Action} (opts : RestartOptions) (s : State) :
    s.restartWorkers e opts = s ∨
      s.isShuttingDown = false ∧ s.roll = none ∧
        Effects e a (s.beginRoll opts (s.targetedWorkers opts)) (s.restartWorkers e opts) := by
  cases henv : opts.env.all isSafeEnvObject with
  | false => exact .inl (restartWorkers_ignored (.inl henv))
  | true =>
    cases hs : s.isShuttingDown with
    | true => exact .inl (restartWorkers_ignored (.inr (.inl hs)))
    | false =>
      cases hr : s.roll with
      | some r => exact .inl (restartWorkers_ignored (.inr (.inr (by rw [hr]; rfl))))
      | none => exact .inr ⟨rfl, rfl, restartWorkers_effects henv hs hr⟩

theorem restartWorkers_outcome (opts : RestartOptions) (s : State) :
    s.restartWorkers e opts = s ∨
      s.isShuttingDown = false ∧ s.roll = none ∧
        Moves e (s.beginRoll opts (s.targetedWorkers opts)) (s.restartWorkers e opts) := by
  rcases restartWorkers_begun (e := e) (a := .restartWorkers opts) opts s with heq | ⟨hs, hr, h⟩
  · exact .inl heq
  · exact .inr ⟨hs, hr, h.moves⟩

/-! ## The end of a roll -/

/-- The restart queue does not look at the roll. -/
theorem kickRestartQueue_endRoll (s : State) :
    (s.kickRestartQueue e).endRoll = s.endRoll.kickRestartQueue e := by
  have hfork (r : State) : forkWorker e .restartQueue none r.endRoll =
      Prod.map id endRoll (forkWorker e .restartQueue none r) := by
    unfold forkWorker
    simp only [apply_ite (Prod.map id endRoll)]
    rfl
  have hattempt (entry : RestartQueueEntry) (delayMs : ℚ) (r : State) :
      (attemptRestart e entry delayMs r).endRoll = attemptRestart e entry delayMs r.endRoll := by
    unfold attemptRestart
    have hprune : r.endRoll.pruneCrashes = r.pruneCrashes.endRoll := rfl
    have htrip : r.pruneCrashes.endRoll.breakerTripped = r.pruneCrashes.breakerTripped := rfl
    simp only [hprune, htrip, hfork]
    split
    · rfl
    · cases h : forkWorker e .restartQueue none r.pruneCrashes with
      | mk new r =>
        cases new with
        | none =>
          simp only [Prod.map_apply, id_eq, restartFailed, apply_ite endRoll]
          rfl
        | some n => rfl
  have hbackoff (entry : RestartQueueEntry) (r : State) :
      (restartWorkerWithBackoff e entry r).endRoll = restartWorkerWithBackoff e entry r.endRoll := by
    unfold restartWorkerWithBackoff
    simp only [apply_ite endRoll, hattempt]
    rfl
  have hloop (queue : List RestartQueueEntry) (r : State) :
      (queueLoop e queue r).endRoll = queueLoop e queue r.endRoll := by
    induction queue generalizing r with
    | nil => rfl
    | cons entry rest ih =>
      unfold queueLoop
      simp only [apply_ite endRoll, hbackoff, ih]
      rfl
  unfold kickRestartQueue
  simp only [apply_ite endRoll, hloop]
  rfl

theorem refillMissing_endRoll (s : State) :
    (s.refillMissing e).endRoll = s.endRoll.refillMissing e := by
  have hqueue (count : Nat) : (s.queueRefill count).endRoll = s.endRoll.queueRefill count := by
    unfold queueRefill armEmptyFleetHold
    simp only [apply_ite endRoll]
    rfl
  unfold refillMissing requestCapacityRefill
  rw [kickRestartQueue_endRoll, hqueue]
  rfl

/-- The roll ended, with the event of a complete one. -/
def State.rollCompleted (r : Roll) (s : State) : State :=
  (s.emit (.restartComplete r.restartedWorkerIds r.opts.reason)).endRoll

theorem rollReturned_outcome (h : s.rollReturned e = some t) :
    ∃ r, s.roll = some r ∧
      (r.frame = .returned .abortedByShutdown ∧ t = s.endRoll ∨
        r.frame = .returned .forkBailout ∧ t = (s.setExitCode 1).endRoll ∨
        r.frame = .returned .complete ∧ t = (s.rollCompleted r).refillMissing e) := by
  unfold rollReturned at h
  split at h
  · rename_i r hr
    refine ⟨r, hr, ?_⟩
    split at h
    · rename_i hf
      exact .inl ⟨hf, (Option.some.inj h).symm⟩
    · rename_i hf
      exact .inr (.inl ⟨hf, (Option.some.inj h).symm⟩)
    · rename_i hf
      refine .inr (.inr ⟨hf, ?_⟩)
      rw [← Option.some.inj h]
      exact refillMissing_endRoll _
    · cases h
  · cases h

/-! ## The start of a shutdown -/

theorem startAck_grows (s : State) (id : Nat) :
    (s.worker id).Grows (s.startAck e id) ∧ (s.startAck e id).dead = s.isDead id := by
  unfold startAck
  simp only
  split
  · exact ⟨.refl _, rfl⟩
  · split
    · exact ⟨.disconnectIfConnected s.now _, Worker.disconnectIfConnected_dead s.now _⟩
    · exact ⟨.send s.now _, rfl⟩

/-- The acknowledgements a shutdown entered now waits for, with their deadlines. -/
def State.ackWaits (e : Host) (s : State) : List (Nat × Nat) :=
  (s.getActiveWorkers.filter fun id => s.waitsForAck e id).map fun id =>
    (id, s.now + e.cfg.shutdown.ackTimeoutMs)

/-- What entering a shutdown does outside the services it stops. -/
structure ShutdownEntered (e : Host) (signal : String) (s t : State) : Prop where
  shutdown : t.shutdown =
    { isShuttingDown := true, frame := .acks s.getActiveWorkers (s.ackWaits e),
      forkedBefore := s.cluster.ids }
  cluster : t.cluster.ids = s.cluster.ids ∧ t.cluster.forkCalls = s.cluster.forkCalls
  worker : ∀ id, t.worker id = if id ∈ s.getActiveWorkers then s.startAck e id else s.worker id
  metrics : t.metrics = s.metrics
  tracked : t.tracked = s.tracked
  marks : t.manager.recyclingWorkerIds = ∅ ∧ t.manager.pendingRecycleTimers = .empty
  disposed : t.manager.disposed = s.manager.disposed
  queue : t.restart.restartLoopRunning = s.restart.restartLoopRunning ∧
    t.restart.frame = s.restart.frame
  online : t.orch.onlineWorkerIds = s.orch.onlineWorkerIds
  phase : t.orch.runPhase = s.orch.runPhase ∧ t.orch.hasForked = s.orch.hasForked
  count : t.orch.count = s.orch.count
  env : t.orch.env = s.orch.env
  recycles : t.recycles = s.recycles
  roll : t.roll = s.roll
  events : t.events = .shutdownStart signal :: s.events

/-- The services stop, and the acknowledgements of the live workers are awaited. -/
theorem shutdownPrimary_eq (signal : String) (hs : s.isShuttingDown = false) :
    s.shutdownPrimary e signal = { s with
      shutdown :=
        { isShuttingDown := true, frame := .acks s.getActiveWorkers (s.ackWaits e),
          forkedBefore := s.cluster.ids }
      cluster := { s.cluster with
        workers := fun id =>
          if id ∈ s.getActiveWorkers then s.startAck e id else s.cluster.workers id }
      restart := { s.restart with backoffResetTimer := none, emptyFleetHold := false }
      manager := s.stopRecycling.manager
      health := s.stopHealth.health
      orch := s.clearDegraded.orch
      events := .shutdownStart signal :: s.events } := by
  unfold shutdownPrimary
  rw [if_neg (by simp [hs])]
  rfl

theorem shutdownPrimary_entered (signal : String) (hs : s.isShuttingDown = false) :
    ShutdownEntered e signal s (s.shutdownPrimary e signal) := by
  rw [shutdownPrimary_eq signal hs]
  exact ⟨rfl, ⟨rfl, rfl⟩, fun _ => rfl, rfl, rfl, ⟨rfl, rfl⟩, rfl, ⟨rfl, rfl⟩, rfl,
    ⟨rfl, rfl⟩, rfl, rfl, rfl, rfl, rfl⟩

theorem shutdownPrimary_ignored (signal : String) (hs : s.isShuttingDown = true) :
    s.shutdownPrimary e signal = s := by
  unfold shutdownPrimary
  rw [if_pos hs]

/-! ## Pieces -/

/-- The parts of the segments that are not chains of moves, with the action of the
segment they are part of. -/
inductive Bit (e : Host) : Action → State → State → Prop
  | tick (s : State) (ms : Nat) : Bit e (.tick ms) s { s with now := s.now + ms }
  | forking (s : State) (h : s.orch.runPhase = .installing) : Bit e .pluginsInstalled s s.forking
  | initialFailed (s : State) (hfail : (s.forkCall e .initial none).succeeded = false) :
    Bit e .pluginsInstalled s (clusterFork (s.forkCall e .initial none) s)
  | initialForked (s : State) (hok : (s.forkCall e .initial none).succeeded = true) :
    Bit e .pluginsInstalled s (s.forked (s.forkCall e .initial none))
  | ran (s : State) (phase : RunPhase) (hp : phase = .rejected ∨ phase = .started)
      (hf : s.orch.hasForked = true) :
    Bit e .pluginsInstalled s (s.setRunPhase phase)
  | died (s : State) (id : Nat) (code : Option Int) (signal : Option String) (ha : s.alive id) :
    Bit e (.workerExit id code signal) s (s.markDead id)
  | removed (s : State) (id : Nat) (code : Option Int) (signal : Option String)
      (hd : s.isDead id = true) (hid : id ∈ s.tracked) :
    Bit e (.workerExit id code signal) s (s.removed id)
  | quarantined (s : State) (id : Nat) (code : Option Int) (signal : Option String)
      (hs : s.isShuttingDown = false) : Bit e (.workerExit id code signal) s s.quarantineSlot
  | crashed (s : State) (id : Nat) (code : Option Int) (signal : Option String)
      (hs : s.isShuttingDown = false) : Bit e (.workerExit id code signal) s s.noteCrash
  | tripped (s : State) (id : Nat) (code : Option Int) (signal : Option String)
      (hs : s.isShuttingDown = false) : Bit e (.workerExit id code signal) s s.breakerTrip
  | queued (s : State) (id : Nat) (code : Option Int) (signal : Option String)
      (entry : RestartQueueEntry) (hs : s.isShuttingDown = false) :
    Bit e (.workerExit id code signal) s (s.queueCrash entry)
  | selfDisconnected (s : State) (id : Nat) (ha : s.alive id) :
    Bit e (.workerSelfDisconnect id) s
      (s.modifyWorker id fun w => { w with exitedAfterDisconnect := true })
  | agedDropped (s : State) (id : Nat) (hid : id ∈ s.manager.pendingRecycleTimers.keySet) :
    Bit e (.timer (.recycleStagger id)) s (s.agedDropped id)
  | agedFailed (s : State) (id : Nat) (hid : id ∈ s.manager.pendingRecycleTimers.keySet)
      (hs : s.isShuttingDown = false) (hfail : (s.agedCall e id).succeeded = false) :
    Bit e (.timer (.recycleStagger id)) s (clusterFork (s.agedCall e id) (s.agedDropped id))
  | agedRecycled (s : State) (id : Nat) (hid : id ∈ s.manager.pendingRecycleTimers.keySet)
      (ha : s.alive id) (hs : s.isShuttingDown = false) (hok : (s.agedCall e id).succeeded = true) :
    Bit e (.timer (.recycleStagger id)) s (s.agedRecycled e id)
  | resetShutting (s : State) (hs : s.isShuttingDown = true) :
    Bit e .resetCircuitBreaker s s.resetRestart
  | breakerReset (s : State) (hs : s.isShuttingDown = false) :
    Bit e .resetCircuitBreaker s s.breakerReset
  | resetRefilled (s : State) (count : Nat) (hs : s.isShuttingDown = false) :
    Bit e .resetCircuitBreaker s (s.queueRefill count)
  | counted (s : State) (n : Nat) (count : WorkerCount) (hf : s.orch.hasForked = false) :
    Bit e (.overrideWorkerCount n) s (s.setCount count)
  | patched (s : State) (env : ProcessEnv) (hf : s.orch.hasForked = false) :
    Bit e (.patchWorkerEnv env) s (s.setEnv (overlay s.orch.env env))
  | rollStarted (s : State) (opts : RestartOptions) (hs : s.isShuttingDown = false)
      (hr : s.roll = none) :
    Bit e (.restartWorkers opts) s (s.beginRoll opts (s.targetedWorkers opts))
  | rollEnded (s : State) (r : Roll) (hr : s.roll = some r)
      (hf : r.frame = .returned .abortedByShutdown ∨ r.frame = .returned .forkBailout) :
    Bit e (.resume .rollReturned) s s.endRoll
  | rollCompleted (s : State) (r : Roll) (hr : s.roll = some r) (hf : r.frame = .returned .complete) :
    Bit e (.resume .rollReturned) s (s.rollCompleted r)
  | rollRefilled (s : State) (count : Nat) : Bit e (.resume .rollReturned) s (s.queueRefill count)
  | shutdownEntered (s : State) (signal : String) (hs : s.isShuttingDown = false) :
    Bit e (.shutdownPrimary signal) s (s.shutdownPrimary e signal)

/-- An effect or a bit of a segment of the action `a`. -/
def Turn (e : Host) (a : Action) (s t : State) : Prop := Effect e a s t ∨ Bit e a s t

/-- A segment of the action `a` as a chain of exact parts. -/
abbrev Turns (e : Host) (a : Action) : State → State → Prop := ReflTransGen (Turn e a)

theorem Effects.turns {a : Action} (h : Effects e a s t) : Turns e a s t :=
  ReflTransGen.mono (p := Turn e a) (fun _ _ hm => Or.inl hm) _ _ h

theorem Bit.turns {a : Action} (h : Bit e a s t) : Turns e a s t := .single (.inr h)

theorem Noted.turns {a : Action} (h : Noted s t) : Turns e a s t := .single (.inl h.effect)

def Piece (e : Host) (a : Action) (s t : State) : Prop := Move e s t ∨ Bit e a s t

/-- A segment of the action `a` as a chain. -/
abbrev Pieces (e : Host) (a : Action) : State → State → Prop := ReflTransGen (Piece e a)

theorem Moves.pieces {a : Action} (h : Moves e s t) : Pieces e a s t :=
  ReflTransGen.mono (p := Piece e a) (fun _ _ hm => Or.inl hm) _ _ h

theorem Bit.pieces {a : Action} (h : Bit e a s t) : Pieces e a s t := .single (.inr h)

theorem Turn.pieces {a : Action} (h : Turn e a s t) : Pieces e a s t :=
  h.elim (fun h => h.moves.pieces) Bit.pieces

theorem Turns.pieces {a : Action} (h : Turns e a s t) : Pieces e a s t := by
  induction h with
  | refl => exact .refl
  | tail _ h ih => exact ih.trans h.pieces

/-! ## The bookkeeping of every step -/

namespace WellFormed

theorem of_quiet (hw : WellFormed s) (h : Quiet s t) : WellFormed t :=
  hw.move (e := {}) h.move

theorem removed (hw : WellFormed s) {id : Nat} (hd : s.isDead id = true) (hid : id ∈ s.tracked) :
    WellFormed (s.removed id) := by
  have htracked : (s.removed id).tracked = s.tracked.erase id := OrdMap.keySet_delete _ _
  constructor
  case alive_tracked =>
    intro j ha
    rw [htracked, Finset.mem_erase]
    refine ⟨?_, hw.alive_tracked j ha⟩
    rintro rfl
    exact absurd (hd.symm.trans ha) (by decide)
  case tracked_bounded =>
    intro j hj
    rw [htracked] at hj
    exact hw.tracked_bounded j (Finset.mem_of_mem_erase hj)
  case active =>
    rw [htracked, Finset.card_erase_of_mem hid, ← hw.active]
    rfl
  case marked =>
    rw [htracked]
    exact Finset.erase_subset_erase id hw.marked
  case timed =>
    show (s.manager.pendingRecycleTimers.delete id).keySet ⊆ s.manager.recyclingWorkerIds.erase id
    rw [OrdMap.keySet_delete]
    exact Finset.erase_subset_erase id hw.timed
  case online =>
    rw [htracked]
    exact Finset.erase_subset_erase id hw.online
  case recycled => exact hw.recycled
  case ordered => exact hw.ordered
  case loop => exact hw.loop
  case frame => exact hw.frame
  case disposed => exact hw.disposed
  case started => exact hw.started

theorem forking (hw : WellFormed s) : WellFormed s.forking := { hw with started := fun _ => rfl }

theorem noteCrash (hw : WellFormed s) : WellFormed s.noteCrash := by
  rw [noteCrash_eq]
  exact { hw with }

theorem queueCrash (hw : WellFormed s) (entry : RestartQueueEntry) :
    WellFormed (s.queueCrash entry) := by
  rw [queueCrash_eq]
  exact { hw with }

theorem queueRefill (hw : WellFormed s) (count : Nat) : WellFormed (s.queueRefill count) := by
  rw [queueRefill_eq]
  exact { hw with }

theorem agedDropped (hw : WellFormed s) (id : Nat) : WellFormed (s.agedDropped id) :=
  { hw with
    marked := (Finset.erase_subset _ _).trans hw.marked
    timed := by
      show (s.manager.pendingRecycleTimers.delete id).keySet ⊆ s.manager.recyclingWorkerIds.erase id
      rw [OrdMap.keySet_delete]
      exact Finset.erase_subset_erase id hw.timed }

theorem deleteRecycleTimer (hw : WellFormed s) (id : Nat) : WellFormed (s.deleteRecycleTimer id) :=
  { hw with
    timed := by
      show (s.manager.pendingRecycleTimers.delete id).keySet ⊆ s.manager.recyclingWorkerIds
      rw [OrdMap.keySet_delete]
      exact (Finset.erase_subset _ _).trans hw.timed }

theorem agedRecycled (hw : WellFormed s) {id : Nat} (ha : s.alive id) :
    WellFormed (s.agedRecycled e id) := by
  have hid := hw.tracked_bounded id (hw.alive_tracked id ha)
  refine ((hw.deleteRecycleTimer id).forked (s.agedCall e id)).recycle ?_ le_rfl fun r hr => ?_
  · exact Nat.lt_succ_of_le hid.2
  · exact Nat.lt_succ_of_le (hw.recycled r hr).2

theorem shutdownPrimary (hw : WellFormed s) (signal : String) :
    WellFormed (s.shutdownPrimary e signal) := by
  cases hs : s.isShuttingDown with
  | true => rw [shutdownPrimary_ignored signal hs]; exact hw
  | false =>
    have he := shutdownPrimary_entered (e := e) signal hs
    have hdead (id : Nat) : (s.shutdownPrimary e signal).isDead id = s.isDead id := by
      rw [isDead, he.worker]
      split
      · exact (startAck_grows s id).2
      · rfl
    constructor
    case alive_tracked =>
      intro id ha
      rw [he.tracked]
      exact hw.alive_tracked id ((hdead id).symm.trans ha)
    case tracked_bounded => rw [he.tracked, he.cluster.1]; exact hw.tracked_bounded
    case active => rw [he.metrics, he.tracked]; exact hw.active
    case marked => rw [he.marks.1]; exact Finset.empty_subset _
    case timed => rw [he.marks.2]; exact Finset.empty_subset _
    case online => rw [he.online, he.tracked]; exact hw.online
    case recycled => rw [he.recycles, he.cluster.1]; exact hw.recycled
    case ordered => rw [he.recycles]; exact hw.ordered
    case loop => rw [he.queue.1, he.queue.2]; exact hw.loop
    case frame => exact fun _ => by rw [isShuttingDown, he.shutdown]
    case disposed => exact fun _ => by rw [isShuttingDown, he.shutdown]
    case started => rw [he.phase.1, he.phase.2]; exact hw.started

theorem initial (e : Host) (count : WorkerCount) (env : ProcessEnv) :
    WellFormed (State.initial e count env) where
  alive_tracked := fun _ ha => absurd ha (by simp [alive, isDead, worker, State.initial, Worker.unforked])
  tracked_bounded := fun _ h => absurd h (Finset.notMem_empty _)
  active := rfl
  marked := Finset.Subset.refl _
  timed := Finset.Subset.refl _
  online := Finset.Subset.refl _
  recycled := fun _ h => absurd h List.not_mem_nil
  ordered := List.Pairwise.nil
  loop := fun _ => rfl
  frame := fun h => absurd rfl h
  disposed := fun h => absurd h Bool.false_ne_true
  started := fun h => by cases h

theorem bit {a : Action} (hw : WellFormed s) (h : Bit e a s t) : WellFormed t := by
  cases h with
  | forking _ hi => exact hw.forking
  | initialForked _ hok => exact hw.forked _
  | ran _ phase hp hf => exact { hw with started := fun _ => hf }
  | died _ id code signal ha => exact hw.markDead id
  | removed _ id code signal hd hid => exact hw.removed hd hid
  | crashed _ id code signal hs => exact hw.noteCrash
  | queued _ id code signal entry hs => exact hw.queueCrash entry
  | selfDisconnected _ id ha => exact hw.modifyWorker id fun _ => rfl
  | agedDropped _ id hid => exact hw.agedDropped id
  | agedFailed _ id hid hs hfail => exact { hw.agedDropped id with }
  | agedRecycled _ id hid ha hs hok => exact hw.agedRecycled ha
  | resetRefilled _ count hs => exact hw.queueRefill count
  | rollRefilled _ count => exact hw.queueRefill count
  | shutdownEntered _ signal hs => exact hw.shutdownPrimary signal
  | tick | initialFailed | quarantined | tripped | resetShutting | breakerReset | rollEnded
  | rollCompleted | counted | patched | rollStarted => exact { hw with }

theorem piece {a : Action} (hw : WellFormed s) (h : Piece e a s t) : WellFormed t :=
  h.elim hw.move hw.bit

theorem pieces {a : Action} (hw : WellFormed s) (h : Pieces e a s t) : WellFormed t := by
  induction h with
  | refl => exact hw
  | tail _ h ih => exact ih.piece h

end WellFormed

/-- A refill queues its entries and kicks the queue. -/
theorem refillMissing_turns {a : Action} (ha : a.runsQueue = true) (hw : WellFormed s)
    (hbit : ∀ count, Bit e a s (s.queueRefill count)) : Turns e a s (s.refillMissing e) := by
  have hb := hbit (s.resolveWorkerCount e - s.metrics.activeWorkers)
  exact hb.turns.trans (kickRestartQueue_effects ha (hw.bit hb)).turns

theorem startPrimary_turns (hi : s.orch.runPhase = .installing) (count : Nat) :
    Turns e .pluginsInstalled s (s.startPrimary e count) := by
  have hforks : Turns e .pluginsInstalled s (forkWorkers e count s.forking).2 := by
    refine forkWorkers_preserves ?_ ?_ count s.forking (Bit.forking s hi).turns
    · exact fun x hx hfail => hx.tail (.inr (.initialFailed x hfail))
    · exact fun x hx hok => hx.tail (.inr (.initialForked x hok))
  have hf : (forkWorkers e count s.forking).2.orch.hasForked = true := by
    rw [forkWorkers_orch]
    rfl
  rcases startPrimary_noted (e := e) count s with ⟨_, h⟩ | ⟨_, h⟩
  · rw [h]
    exact hforks.tail (.inr (.ran _ .rejected (.inl rfl) hf))
  · exact (hforks.tail (.inr (.ran _ .started (.inr rfl) hf))).trans h.turns

theorem crashRecorded_turns {id : Nat} {code : Option Int} {signal : Option String}
    (hw : WellFormed s) (hs : s.isShuttingDown = false) :
    Turns e (.workerExit id code signal) s (s.crashRecorded e id code signal) := by
  have hc := Bit.crashed (e := e) s id code signal hs
  have hs' : s.noteCrash.isShuttingDown = false := by
    rw [noteCrash_eq]
    exact hs
  unfold crashRecorded
  simp only
  split
  · exact hc.turns.tail (.inr (.tripped _ id code signal hs'))
  · have hq := Bit.queued (e := e) s.noteCrash id code signal (.crash id code signal) hs'
    refine (hc.turns.tail (.inr hq)).trans (Effects.turns ?_)
    exact kickRestartQueue_effects rfl ((hw.bit hc).bit hq)

theorem onWorkerCrash_turns {id : Nat} {code : Option Int} {signal : Option String}
    {bootFailed : Bool} (hw : WellFormed s) (hs : s.isShuttingDown = false) :
    Turns e (.workerExit id code signal) s (s.onWorkerCrash e id code signal bootFailed) := by
  have hcounted : Turns e (.workerExit id code signal) s s.countBootFailure :=
    Noted.turns (.of_eq rfl)
  unfold onWorkerCrash
  simp only
  split
  · split
    · exact hcounted.tail (.inr (.quarantined _ id code signal hs))
    · exact hcounted.trans (crashRecorded_turns (s := s.countBootFailure) { hw with } hs)
  · exact crashRecorded_turns hw hs

theorem handleWorkerExit_turns {m : State} {id : Nat} {code : Option Int} {signal : Option String}
    (hw : WellFormed m) (hd : m.isDead id = true) (hid : id ∈ m.tracked)
    (h : ExitHandled e m id code signal t) : Turns e (.workerExit id code signal) m t := by
  have hreported : Turns e (.workerExit id code signal) m (m.exitReported id code signal) :=
    (Bit.removed (e := e) m id code signal hd hid).turns.trans (emit_effects rfl).turns
  have hhealth := hreported.tail (.inl (.recomputed _ rfl))
  cases h with
  | shutting t hs ht =>
    rcases ht with rfl | rfl
    · exact hreported
    · exact hreported.trans (Noted.of_eq rfl).turns
  | graceful hs hg => exact hhealth.trans (Noted.of_eq rfl).turns
  | crashed hs hg =>
    let r := (m.exitReported id code signal).recomputeFleetHealth e
    have hx : Turns e (.workerExit id code signal) m
        (r.cancelBackoffReset.emit (.workerCrash id code signal)) :=
      (hhealth.tail (.inl (.backoffCancelled _ id code signal rfl))).trans (emit_effects rfl).turns
    refine hx.trans (onWorkerCrash_turns (hw.pieces hx.pieces) ?_)
    have hshut : r.isShuttingDown = (m.exitReported id code signal).isShuttingDown :=
      recomputeFleetHealth_quiet.move.shutting_eq (e := e)
    exact hshut.trans hs

theorem workerExit_turns (hw : WellFormed s) {id : Nat} {code : Option Int}
    {signal : Option String} (h : s.workerExit e id code signal = some t) :
    Turns e (.workerExit id code signal) s t := by
  obtain ⟨m, hm, hran, hheard⟩ := workerExit_ran hw h
  have hle := (hw.tracked_bounded id (hw.alive_tracked id hran.alive)).2
  have hlisteners : Turns e (.workerExit id code signal) s m := by
    rw [hm]
    exact (Bit.died (e := e) s id code signal hran.alive).turns.trans
      (workerExitListeners_effects (hw.markDead id) (isDead_markDead s id) hle).turns
  rcases hheard with ⟨-, rfl⟩ | ⟨-, hhandled⟩
  · exact hlisteners
  · exact hlisteners.trans (handleWorkerExit_turns hran.wellFormed hran.dead hran.tracked hhandled)

theorem staggerElapsed_turns {id : Nat} (h : s.staggerElapsed e id = some t) :
    Turns e (.timer (.recycleStagger id)) s t := by
  obtain ⟨hid, -⟩ := staggerElapsed_outcome h
  unfold staggerElapsed at h
  split at h
  · cases h
  · split at h
    · simp only at h
      split at h
      · rw [← Option.some.inj h]
        exact (Bit.agedDropped s id hid).turns
      · rename_i hcond
        simp only [Bool.or_eq_true, not_or, Bool.not_eq_true] at hcond
        obtain ⟨ha, hs⟩ := hcond
        rcases forkWorker_cases e (.aged id) none (s.deleteRecycleTimer id) with
          ⟨-, hf⟩ | ⟨hfail, hf⟩ | ⟨hok, hf⟩
        · rw [hf] at h
          rw [← Option.some.inj h]
          exact (Bit.agedDropped s id hid).turns
        · rw [hf] at h
          rw [← Option.some.inj h]
          exact (Bit.agedFailed s id hid hs hfail).turns
        · rw [hf] at h
          rw [← Option.some.inj h]
          refine (Bit.agedRecycled s id hid ha hs hok).turns.trans ?_
          exact (handleWorkerRecycle_noted id _ _).turns
    · cases h

/-- Every segment is a chain of effects and bits. -/
theorem act_turns {a : Action} (hw : WellFormed s) (h : s.act e a = some t) :
    Turns e a s t := by
  cases hns : a.special with
  | false => exact (act_effects hw hns h).turns
  | true =>
    cases a with
    | tick ms => exact Option.some.inj h ▸ (Bit.tick s ms).turns
    | pluginsInstalled =>
      obtain ⟨hi, rfl⟩ := pluginsInstalled_outcome h
      exact startPrimary_turns hi _
    | overrideWorkerCount n =>
      rw [← Option.some.inj h]
      rcases overrideWorkerCount_outcome n s with heq | ⟨hf, count, heq⟩
      · rw [heq]
      · rw [heq]
        exact (Bit.counted s n count hf).turns
    | patchWorkerEnv env =>
      rw [← Option.some.inj h]
      rcases patchWorkerEnv_outcome env s with heq | ⟨hf, heq⟩
      · rw [heq]
      · rw [heq]
        exact (Bit.patched s env hf).turns
    | restartWorkers opts =>
      rw [← Option.some.inj h]
      rcases restartWorkers_begun (e := e) (a := .restartWorkers opts) opts s with
        heq | ⟨hs, hr, hm⟩
      · rw [heq]
      · exact (Bit.rollStarted s opts hs hr).turns.trans hm.turns
    | resetCircuitBreaker =>
      rw [← Option.some.inj h]
      rcases resetCircuitBreaker_outcome (e := e) s with ⟨hs, heq⟩ | ⟨hs, hcases⟩
      · rw [heq]
        exact (Bit.resetShutting s hs).turns
      · have hreset := Bit.breakerReset (e := e) s hs
        rcases hcases with ⟨-, heq⟩ | ⟨-, heq⟩
        · rw [heq]
          exact hreset.turns
        · rw [heq]
          refine hreset.turns.trans (refillMissing_turns rfl (hw.bit hreset) fun count => ?_)
          exact .resetRefilled _ count hs
    | shutdownPrimary signal =>
      rw [← Option.some.inj h]
      cases hs : s.isShuttingDown with
      | true => rw [shutdownPrimary_ignored signal hs]
      | false => exact (Bit.shutdownEntered s signal hs).turns
    | workerExit id code signal => exact workerExit_turns hw h
    | workerSelfDisconnect id =>
      obtain ⟨ha, rfl⟩ := workerSelfDisconnect_outcome h
      exact (Bit.selfDisconnected s id ha).turns
    | timer timer =>
      cases timer with
      | recycleStagger id => exact staggerElapsed_turns h
      | _ => cases hns
    | resume c =>
      cases c with
      | rollReturned =>
        obtain ⟨r, hr, ⟨hf, rfl⟩ | ⟨hf, rfl⟩ | ⟨hf, rfl⟩⟩ := rollReturned_outcome h
        · exact (Bit.rollEnded s r hr (.inl hf)).turns
        · have hexit : Turns e (.resume .rollReturned) s (s.setExitCode 1) :=
            .single (.inl (.exitCodeOne s))
          exact hexit.tail (.inr (.rollEnded _ r hr (.inr hf)))
        · have hcomplete := Bit.rollCompleted (e := e) s r hr hf
          refine hcomplete.turns.trans (refillMissing_turns rfl (hw.bit hcomplete) fun count => ?_)
          exact .rollRefilled _ count
      | _ => cases hns
    | _ => cases hns

/-- Every segment is a chain of pieces. -/
theorem act_pieces {a : Action} (hw : WellFormed s) (h : s.act e a = some t) : Pieces e a s t :=
  (act_turns hw h).pieces

theorem orchestrator_step {count : WorkerCount} {env : ProcessEnv} {a : Action}
    (h : (orchestrator e count env).step s a = some t) : s.act e a = some t := by
  simp only [orchestrator] at h
  split at h
  · cases h
  · exact h

/-- The bookkeeping holds in every reachable state. -/
theorem reachable_wellFormed {count : WorkerCount} {env : ProcessEnv}
    (h : (orchestrator e count env).Reachable s) : WellFormed s :=
  h.induct (WellFormed.initial e count env) fun _ _ _ hw hs =>
    hw.pieces (act_pieces hw (orchestrator_step hs))

theorem Bit.later {a : Action} (h : Bit e a s t) : s.Later t := by
  cases h with
  | initialFailed hfail => exact .clusterFork s _
  | initialForked hok => exact .forked s _
  | died _ id code signal ha =>
    exact .modifyWorker s id Worker.Grows.died
  | selfDisconnected _ id ha =>
    exact .modifyWorker s id Worker.Grows.selfDisconnected
  | agedFailed _ id hid hs hfail => exact (Later.clusterFork s (s.agedCall e id)).then_eq rfl rfl
  | agedRecycled _ id hid ha hs hok => exact (Later.forked s (s.agedCall e id)).then_eq rfl rfl
  | crashed => rw [noteCrash_eq]; exact .of_eq rfl rfl
  | queued => rw [queueCrash_eq]; exact .of_eq rfl rfl
  | resetRefilled | rollRefilled => rw [queueRefill_eq]; exact .of_eq rfl rfl
  | shutdownEntered _ signal hs =>
    have he := shutdownPrimary_entered (e := e) signal hs
    refine ⟨he.cluster.1.ge, fun id _ => ?_, by rw [he.cluster.2], fun hs' => ?_⟩
    · rw [he.worker]
      split
      · exact (startAck_grows s id).1
      · exact .refl _
    · exact absurd (hs.symm.trans hs') Bool.false_ne_true
  | tick | forking | ran | removed | quarantined | tripped | agedDropped | resetShutting
  | breakerReset | rollEnded | rollCompleted | counted | patched
  | rollStarted => exact .of_eq rfl rfl

theorem Piece.later {a : Action} (h : Piece e a s t) : s.Later t := h.elim Move.later Bit.later

theorem Pieces.later {a : Action} (h : Pieces e a s t) : s.Later t := by
  induction h with
  | refl => exact .refl s
  | tail _ h ih => exact ih.trans h.later

theorem Bit.shutting_eq {a : Action} (ha : ∀ signal, a ≠ .shutdownPrimary signal)
    (h : Bit e a s t) : t.isShuttingDown = s.isShuttingDown := by
  cases h with
  | shutdownEntered _ signal hs => exact absurd rfl (ha signal)
  | crashed => rw [noteCrash_eq]; rfl
  | queued => rw [queueCrash_eq]; rfl
  | resetRefilled | rollRefilled => rw [queueRefill_eq]; rfl
  | tick | forking | initialFailed | initialForked | ran | died | removed | quarantined | tripped
  | selfDisconnected | agedDropped | agedFailed | agedRecycled | resetShutting | breakerReset
  | rollEnded | rollCompleted | counted | patched | rollStarted => rfl

theorem Piece.shutting_eq {a : Action} (ha : ∀ signal, a ≠ .shutdownPrimary signal)
    (h : Piece e a s t) : t.isShuttingDown = s.isShuttingDown :=
  h.elim Move.shutting_eq (Bit.shutting_eq ha)

/-- **Segment rule.** What every piece preserves, a segment preserves. -/
theorem Pieces.preserves {P : State → Prop} {a : Action} (h : Pieces e a s t) (hw : WellFormed s)
    (hpiece : ∀ x y, WellFormed x → P x → Piece e a x y → P y) (hs : P s) : P t := by
  have hboth : WellFormed t ∧ P t := by
    induction h with
    | refl => exact ⟨hw, hs⟩
    | tail _ hxy ih => exact ⟨ih.1.piece hxy, hpiece _ _ ih.1 ih.2 hxy⟩
  exact hboth.2

/-- **Segment rule**, exactly: what every effect and every bit preserves, a segment preserves. -/
theorem Turns.preserves {P : State → Prop} {a : Action} (h : Turns e a s t) (hw : WellFormed s)
    (hturn : ∀ x y, WellFormed x → P x → Turn e a x y → P y) (hs : P s) : P t := by
  have hboth : WellFormed t ∧ P t := by
    induction h with
    | refl => exact ⟨hw, hs⟩
    | tail _ hxy ih => exact ⟨ih.1.pieces hxy.pieces, hturn _ _ ih.1 ih.2 hxy⟩
  exact hboth.2

/-- Only a tick takes time. -/
theorem Bit.now_eq {a : Action} (ha : ∀ ms, a ≠ .tick ms) (h : Bit e a s t) : t.now = s.now := by
  cases h with
  | tick _ ms => exact absurd rfl (ha ms)
  | crashed => rw [noteCrash_eq]
  | queued => rw [queueCrash_eq]
  | resetRefilled | rollRefilled => rw [queueRefill_eq]
  | shutdownEntered _ signal hs =>
    rw [shutdownPrimary_eq signal hs]
  | _ => rfl

theorem act_now_eq {a : Action} (hw : WellFormed s) (ha : ∀ ms, a ≠ .tick ms)
    (h : s.act e a = some t) : t.now = s.now :=
  (act_turns hw h).preserves (P := fun x => x.now = s.now) hw
    (fun _ _ _ hx ht => (ht.elim Effect.now_eq (Bit.now_eq ha)).trans hx) rfl

/-- No segment takes time back. -/
theorem act_now_le {a : Action} (hw : WellFormed s) (h : s.act e a = some t) : s.now ≤ t.now := by
  by_cases htick : ∃ ms, a = .tick ms
  · obtain ⟨ms, rfl⟩ := htick
    rw [← Option.some.inj h]
    exact Nat.le_add_right _ _
  · exact (act_now_eq hw (fun ms heq => htick ⟨ms, heq⟩) h).ge

/-- **Run rule.** What every allowed segment preserves from a well-formed state holds at
the end of a run. -/
theorem run_preserves_from {P : State → Prop} {ok : State → Action → Prop} {count : WorkerCount}
    {env : ProcessEnv} (h : (orchestrator e count env).Run ok s t)
    (hr : (orchestrator e count env).Reachable s)
    (hstep : ∀ x a y, WellFormed x → P x → ok x a → x.act e a = some y → P y) (hs : P s) : P t :=
  StepSystem.Run.preserves_of h hr (fun _ hx => reachable_wellFormed hx)
    (fun x a y hw hx ha hs => hstep x a y hw hx ha (orchestrator_step hs)) hs

theorem run_preserves {P : State → Prop} {ok : State → Action → Prop} {count : WorkerCount}
    {env : ProcessEnv} (h : (orchestrator e count env).Run ok (State.initial e count env) s)
    (hinit : P (State.initial e count env))
    (hstep : ∀ x a y, WellFormed x → P x → ok x a → x.act e a = some y → P y) : P s :=
  run_preserves_from h .refl hstep hinit

/-! ## Workers that are gone -/

/-- The ids of processes that are gone for good. -/
def State.gone (s : State) (id : Nat) : Prop := id ≤ s.cluster.ids ∧ s.isDead id = true

theorem State.Later.gone (h : s.Later t) (id : Nat) (hg : s.gone id) : t.gone id :=
  ⟨hg.1.trans h.ids, (h.worker id hg.1).dead hg.2⟩

theorem workerExit_gone {id : Nat} {code : Option Int} {signal : Option String} (hw : WellFormed s)
    (h : s.workerExit e id code signal = some t) : t.gone id := by
  obtain ⟨m, -, hran, hheard⟩ := workerExit_ran hw h
  have hm : m.gone id := ⟨(hran.wellFormed.tracked_bounded id hran.tracked).2, hran.dead⟩
  rcases hheard with ⟨-, rfl⟩ | ⟨-, hhandled⟩
  · exact hm
  · have hturns := handleWorkerExit_turns hran.wellFormed hran.dead hran.tracked hhandled
    exact hturns.pieces.later.gone id hm

end ClusterKit
