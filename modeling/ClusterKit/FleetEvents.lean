import ClusterKit.DrainTimers
import ClusterKit.FleetSignals
import ClusterKit.Staffing

/-! The events at which the fleet is asked: an online event or an exit is handled, and its
health is recomputed once. -/

namespace ClusterKit

open State Relation

variable {e : Host} {s t u : State} {a : Action}

namespace State

/-- The workers that are online and not being replaced. -/
def serving (s : State) : Finset Nat :=
  s.live.filter fun id => s.isOnline id ∧ id ∉ s.manager.recyclingWorkerIds

theorem mem_serving {id : Nat} :
    id ∈ s.serving ↔ id ∈ s.live ∧ s.isOnline id ∧ id ∉ s.manager.recyclingWorkerIds := by
  rw [serving, Finset.mem_filter]

end State

/-! ## What leaves the fleet alone -/

/-- Nobody joined or left those who serve, no signal was given, and the target and the timer
stayed. -/
structure FleetSame (s t : State) : Prop where
  serving : t.serving = s.serving
  signals : t.fleetSignals = s.fleetSignals
  count : t.orch.count = s.orch.count
  timer : t.orch.degradedTimer = s.orch.degradedTimer

namespace FleetSame

theorem refl (s : State) : FleetSame s s := ⟨rfl, rfl, rfl, rfl⟩

theorem trans (h : FleetSame s t) (h' : FleetSame t u) : FleetSame s u :=
  ⟨h'.serving.trans h.serving, h'.signals.trans h.signals, h'.count.trans h.count,
    h'.timer.trans h.timer⟩

theorem of_eq (hi : t.cluster.ids = s.cluster.ids) (hc : t.cluster.workers = s.cluster.workers)
    (hm : t.manager = s.manager) (hs : t.fleetSignals = s.fleetSignals)
    (ho : t.orch.count = s.orch.count) (ht : t.orch.degradedTimer = s.orch.degradedTimer) :
    FleetSame s t := by
  refine ⟨?_, hs, ho, ht⟩
  ext j
  simp only [mem_serving, mem_live, alive, isDead, isOnline, worker, hi, hc, hm]

theorem countGracefulShutdown (s : State) : FleetSame s s.countGracefulShutdown :=
  .of_eq rfl rfl rfl rfl rfl rfl

/-- Something is sent to a worker. -/
theorem modifyWorker (s : State) (id : Nat) {f : Worker → Worker}
    (hd : ∀ w, (f w).dead = w.dead) (ho : ∀ w, (f w).online = w.online) :
    FleetSame s (s.modifyWorker id f) := by
  refine ⟨?_, rfl, rfl, rfl⟩
  ext j
  have hdead : ((s.modifyWorker id f).worker j).dead = (s.worker j).dead :=
    modifyWorker_field Worker.dead hd
  have honline : ((s.modifyWorker id f).worker j).online = (s.worker j).online :=
    modifyWorker_field Worker.online ho
  simp only [mem_serving, mem_live, alive, isDead, isOnline, hdead, honline]
  exact Iff.rfl

/-- A new worker boots. -/
theorem forked (s : State) (call : ForkCall) : FleetSame s (s.forked call) := by
  refine ⟨?_, rfl, rfl, rfl⟩
  ext j
  rw [mem_serving, mem_serving, mem_live, mem_live]
  by_cases hj : j = s.cluster.ids + 1
  · refine iff_of_false (fun h => ?_) fun h => ?_
    · have honline : ((s.forked call).worker j).online = true := h.2.1
      rw [hj, worker_forked_new] at honline
      cases honline
    · have hle := h.1.1.2
      omega
  · have hworker := worker_forked_of_ne s call hj
    have hids : (s.forked call).cluster.ids = s.cluster.ids + 1 := rfl
    have hmarks : (s.forked call).manager.recyclingWorkerIds = s.manager.recyclingWorkerIds := rfl
    rw [alive, isDead, isOnline, hworker, hids, hmarks]
    show (_ ∧ s.alive j) ∧ s.isOnline j ∧ _ ↔ _
    refine and_congr_left fun _ => and_congr_left fun _ => ?_
    omega

theorem drainOldWorker (r : Recycle) (s : State) : FleetSame s (s.drainOldWorker e r) := by
  cases hd : r.drained with
  | true =>
    rw [show s.drainOldWorker e r = s from if_pos hd]
    exact .refl s
  | false =>
    rw [drainOldWorker_undrained hd]
    have hmodified : FleetSame s (s.modifyRecycle r.new (Recycle.drain e s)) :=
      .of_eq rfl rfl rfl rfl rfl rfl
    refine hmodified.trans (.modifyWorker _ r.old (fun w => ?_) fun w => ?_)
    · unfold Worker.drain
      split <;> rfl
    · unfold Worker.drain
      split <;> rfl

theorem attemptRestart (entry : RestartQueueEntry) (delayMs : ℚ) (s : State) :
    FleetSame s (attemptRestart e entry delayMs s) := by
  unfold State.attemptRestart
  simp only
  split
  · exact .of_eq rfl rfl rfl rfl rfl rfl
  · have hfailed (x : State) (hx : FleetSame s x) : FleetSame s (restartFailed entry x) := by
      rw [restartFailed_eq]
      exact hx.trans (.of_eq rfl rfl rfl rfl rfl rfl)
    rcases forkWorker_cases e .restartQueue none s.pruneCrashes with ⟨-, h⟩ | ⟨-, h⟩ | ⟨-, h⟩
    · rw [h]
      exact hfailed _ (.of_eq rfl rfl rfl rfl rfl rfl)
    · rw [h]
      exact hfailed _ (.of_eq rfl rfl rfl rfl rfl rfl)
    · rw [h]
      have hpruned : FleetSame s s.pruneCrashes := .of_eq rfl rfl rfl rfl rfl rfl
      exact (hpruned.trans (.forked _ _)).trans (.of_eq rfl rfl rfl rfl rfl rfl)

theorem queueLoop (queue : List RestartQueueEntry) (s : State) :
    FleetSame s (queueLoop e queue s) := by
  induction queue generalizing s with
  | nil => exact .of_eq rfl rfl rfl rfl rfl rfl
  | cons entry rest ih =>
    unfold State.queueLoop
    split
    · exact .of_eq rfl rfl rfl rfl rfl rfl
    · simp only
      split
      · exact .of_eq rfl rfl rfl rfl rfl rfl
      · have hset : FleetSame s (s.pruneCrashes.setQueue rest) := .of_eq rfl rfl rfl rfl rfl rfl
        split
        · exact hset.trans (ih _)
        · refine hset.trans ?_
          unfold restartWorkerWithBackoff
          extract_lets delayMs
          split
          · exact .of_eq rfl rfl rfl rfl rfl rfl
          · exact .attemptRestart entry _ _

theorem kickRestartQueue (s : State) : FleetSame s (s.kickRestartQueue e) := by
  unfold State.kickRestartQueue
  split
  · exact .refl s
  · have hrunning : FleetSame s
        { s with restart := { s.restart with restartLoopRunning := true } } :=
      .of_eq rfl rfl rfl rfl rfl rfl
    exact hrunning.trans (.queueLoop _ _)

theorem crashRecorded (id : Nat) (code : Option Int) (signal : Option String) (s : State) :
    FleetSame s (s.crashRecorded e id code signal) := by
  have hnoted : FleetSame s s.noteCrash := by
    rw [noteCrash_eq]
    exact .of_eq rfl rfl rfl rfl rfl rfl
  unfold State.crashRecorded
  simp only
  split
  · exact hnoted.trans (.of_eq rfl rfl rfl rfl rfl rfl)
  · refine hnoted.trans (trans ?_ (.kickRestartQueue _))
    rw [queueCrash_eq]
    exact .of_eq rfl rfl rfl rfl rfl rfl

theorem onWorkerCrash (id : Nat) (code : Option Int) (signal : Option String) (bootFailed : Bool)
    (s : State) : FleetSame s (s.onWorkerCrash e id code signal bootFailed) := by
  have hcounted : FleetSame s s.countBootFailure := .of_eq rfl rfl rfl rfl rfl rfl
  unfold State.onWorkerCrash
  simp only
  split
  · split
    · exact hcounted.trans (.of_eq rfl rfl rfl rfl rfl rfl)
    · exact hcounted.trans (.crashRecorded id code signal _)
  · exact .crashRecorded id code signal s

/-- The listeners on a dying worker. -/
theorem workerExitListeners (id : Nat) (s : State) : FleetSame s (s.workerExitListeners e id) := by
  have hreplacement : FleetSame s (s.onReplacementExit e id) := by
    unfold onReplacementExit
    split
    · exact .refl s
    · split
      · exact .refl s
      · exact .drainOldWorker _ s
  have hroll (r : State) : FleetSame r (r.onRolledWorkerExit id) := by
    unfold onRolledWorkerExit
    split
    · split <;> exact .of_eq rfl rfl rfl rfl rfl rfl
    · split <;> exact .of_eq rfl rfl rfl rfl rfl rfl
    · exact .refl r
  have hclear (r : State) : FleetSame r (r.clearKillTimers id) := .of_eq rfl rfl rfl rfl rfl rfl
  have hsettle (r : State) : FleetSame r (r.settleAck id) := by
    unfold settleAck
    split <;> exact .of_eq rfl rfl rfl rfl rfl rfl
  unfold State.workerExitListeners
  exact ((hreplacement.trans (hroll _)).trans (hclear _)).trans (hsettle _)

/-- The drain that the event of a replacement begins. -/
theorem onReplacementOnline (new : Nat) (s : State) : FleetSame s (s.onReplacementOnline e new) := by
  unfold State.onReplacementOnline
  split
  · exact .refl s
  · extract_lets x
    have hx : FleetSame s x := .of_eq rfl rfl rfl rfl rfl rfl
    split
    · exact hx
    · exact hx.trans (.drainOldWorker _ x)

end FleetSame

/-! ## Recovery -/

namespace State

/-- A recomputation that finds the fleet at its target says that it recovered. -/
def recovers (e : Host) (s : State) : Bool :=
  s.orch.fleetDegraded && !s.isShuttingDown && decide (e.cfg.health.degradedAfterMs ≠ 0)

def recoveries (s : State) : Nat := s.fleetSignals.count .recovered

end State

theorem recomputeFleetHealth_recoveries (s : State) :
    (s.recomputeFleetHealth e).recoveries = s.recoveries +
      if s.recovers e && decide (s.resolveWorkerCount e ≤ s.metrics.activeWorkers) then 1 else 0 := by
  unfold recomputeFleetHealth
  split
  · rename_i hidle
    have hnot : s.recovers e = false := by
      unfold recovers
      rcases Bool.or_eq_true _ _ ▸ hidle with hs | hzero
      · simp [hs]
      · simp [of_decide_eq_true hzero]
    simp [hnot]
  · rename_i hidle
    rw [Bool.or_eq_true, not_or, Bool.not_eq_true, decide_eq_true_eq] at hidle
    have hrecovers : s.recovers e = s.orch.fleetDegraded := by simp [recovers, hidle]
    rw [hrecovers]
    simp only
    split
    · rename_i hfull
      cases s.orch.fleetDegraded with
      | true =>
        rw [decide_eq_true (show _ ≤ _ from hfull)]
        exact List.count_cons_self
      | false => rfl
    · rename_i hbelow
      rw [decide_eq_false hbelow, Bool.and_false, if_neg Bool.false_ne_true]
      split <;> rfl

/-- A recomputation that finds the fleet at its target stops the timer. -/
theorem recomputeFleetHealth_timer (hs : s.isShuttingDown = false)
    (hd : e.cfg.health.degradedAfterMs ≠ 0)
    (hfull : s.resolveWorkerCount e ≤ s.metrics.activeWorkers) :
    (s.recomputeFleetHealth e).orch.degradedTimer = none := by
  have hfull : s.metrics.activeWorkers ≥ s.resolveWorkerCount e := hfull
  unfold recomputeFleetHealth
  rw [hs, decide_eq_false hd, Bool.false_or, if_neg Bool.false_ne_true]
  simp only [hfull, if_true]

/-- A recomputation is no more than a signal. -/
theorem recomputeFleetHealth_serving (s : State) :
    (s.recomputeFleetHealth e).serving = s.serving ∧
      (s.recomputeFleetHealth e).orch.count = s.orch.count := by
  rw [recomputeFleetHealth_eq]
  exact ⟨rfl, rfl⟩

/-! ## The two events -/

/-- The exit of `id`: it is gone, and the fleet is asked once, without it. -/
structure ExitHeard (e : Host) (s : State) (id : Nat) (t : State) : Prop where
  serving : t.serving = s.serving.erase id
  count : t.orch.count = s.orch.count
  recoveries : t.recoveries = s.recoveries +
    if s.recovers e && decide (s.resolveWorkerCount e ≤ s.metrics.activeWorkers - 1) then 1 else 0
  timer : s.isShuttingDown = false → e.cfg.health.degradedAfterMs ≠ 0 →
    s.resolveWorkerCount e ≤ s.metrics.activeWorkers - 1 → t.orch.degradedTimer = none

theorem ExitHeard.same {id : Nat} (h : ExitHeard e s id t) (htu : FleetSame t u) :
    ExitHeard e s id u := by
  have hsame : u.recoveries = t.recoveries := by rw [State.recoveries, htu.signals, State.recoveries]
  exact ⟨htu.serving.trans h.serving, htu.count.trans h.count, hsame.trans h.recoveries,
    fun hs hd hfull => htu.timer.trans (h.timer hs hd hfull)⟩

theorem serving_markDead (id : Nat) (s : State) : (s.markDead id).serving = s.serving.erase id := by
  ext j
  rw [Finset.mem_erase, mem_serving, mem_live, mem_serving, mem_live]
  by_cases hj : j = id
  · refine iff_of_false (fun h => ?_) fun h => h.1 hj
    have halive : (s.markDead id).isDead id = false := hj ▸ h.1.2
    exact Bool.false_ne_true (halive.symm.trans (isDead_markDead s id))
  · have hworker : (s.markDead id).worker j = s.worker j := worker_modifyWorker_of_ne hj
    rw [alive, isDead, isOnline, hworker]
    exact (and_iff_right hj).symm

/-- The manager forgets who is dead. -/
theorem serving_removed {id : Nat} (hd : s.isDead id = true) : (s.removed id).serving = s.serving := by
  ext j
  rw [mem_serving, mem_live, mem_serving, mem_live]
  by_cases hj : j = id
  · have hdead : ¬ s.alive j := fun halive => Bool.false_ne_true (halive.symm.trans (hj ▸ hd))
    exact iff_of_false (fun h => hdead h.1.2) fun h => hdead h.1.2
  · have hmark : j ∈ (s.removed id).manager.recyclingWorkerIds ↔
        j ∈ s.manager.recyclingWorkerIds := by
      show j ∈ s.manager.recyclingWorkerIds.erase id ↔ _
      rw [Finset.mem_erase]
      exact and_iff_right hj
    exact and_congr_right fun _ => and_congr_right fun _ => not_congr hmark

theorem recovers_shutting (hs : s.isShuttingDown = true) : s.recovers e = false := by
  rw [recovers, hs, Bool.not_true, Bool.and_false, Bool.false_and]

theorem workerExit_heard (hw : WellFormed s) {id : Nat} {code : Option Int}
    {signal : Option String} (h : s.workerExit e id code signal = some t) :
    ExitHeard e s id t := by
  obtain ⟨m, hm, hran, hheard⟩ := workerExit_ran hw h
  have hsame := hran.same
  have hlistened : FleetSame (s.markDead id) m := by
    rw [hm]
    exact .workerExitListeners id _
  -- in a shutdown nothing is asked
  have hquiet {x : State} (hs : s.isShuttingDown = true) (hx : x.fleetSignals = s.fleetSignals) :
      x.recoveries = s.recoveries + if s.recovers e &&
        decide (s.resolveWorkerCount e ≤ s.metrics.activeWorkers - 1) then 1 else 0 := by
    rw [recovers_shutting hs, recoveries, hx]
    rfl
  rcases hheard with ⟨hdisposed, rfl⟩ | ⟨-, hhandled⟩
  · have hs : s.isShuttingDown = true := hw.disposed (hsame.manager ▸ hdisposed)
    exact ⟨hlistened.serving.trans (serving_markDead id s), hlistened.count,
      hquiet hs hlistened.signals, fun hs' => absurd (hs'.symm.trans hs) Bool.false_ne_true⟩
  -- up to the recomputation
  let r := m.exitReported id code signal
  have hserving : r.serving = s.serving.erase id :=
    (serving_removed hran.dead).trans (hlistened.serving.trans (serving_markDead id s))
  have hsignals : r.fleetSignals = s.fleetSignals := hlistened.signals
  have hcount : r.orch.count = s.orch.count := hlistened.count
  have hactive : r.metrics.activeWorkers = s.metrics.activeWorkers - 1 := by
    show m.metrics.activeWorkers - 1 = _
    rw [hsame.metrics]
  have hrecovers : r.recovers e = s.recovers e := by
    show (m.orch.fleetDegraded && !m.isShuttingDown && _) = _
    rw [hsame.orch, hsame.shutting, recovers]
  -- behind it
  have hasked : ExitHeard e s id (r.recomputeFleetHealth e) := by
    obtain ⟨hrs, hrc⟩ := recomputeFleetHealth_serving (e := e) r
    have htarget : r.resolveWorkerCount e = s.resolveWorkerCount e := resolveWorkerCount_congr hcount
    refine ⟨hrs.trans hserving, hrc.trans hcount, ?_, fun hs hd hfull => ?_⟩
    · rw [recomputeFleetHealth_recoveries, hrecovers, hactive, htarget, recoveries, hsignals,
        recoveries]
    · exact recomputeFleetHealth_timer (hsame.shutting.trans hs) hd (by rwa [htarget, hactive])
  cases hhandled with
  | shutting t hs ht =>
    have hs' : s.isShuttingDown = true := hsame.shutting.symm.trans hs
    have hreported : ExitHeard e s id r := ⟨hserving, hcount, hquiet hs' hsignals,
      fun hlive => absurd (hlive.symm.trans hs') Bool.false_ne_true⟩
    rcases ht with rfl | rfl
    · exact hreported
    · exact hreported.same (.countGracefulShutdown r)
  | graceful hs hg => exact hasked.same (.countGracefulShutdown _)
  | crashed hs hg =>
    have hcrash (x : State) :
        FleetSame x (x.cancelBackoffReset.emit (.workerCrash id code signal)) :=
      .of_eq rfl rfl rfl rfl rfl rfl
    exact hasked.same ((hcrash _).trans (.onWorkerCrash id code signal _ _))

/-- The online event of `id`: the fleet is asked once, with it. -/
structure OnlineHeard (e : Host) (s : State) (id : Nat) (t : State) : Prop where
  serving : ∀ j, j ∈ t.serving ↔
    j ∈ s.live ∧ (j = id ∨ s.isOnline j) ∧ j ∉ s.manager.recyclingWorkerIds
  count : t.orch.count = s.orch.count
  exitCode : t.process.exitCode =
    if s.resolveWorkerCount e ≤ s.metrics.activeWorkers then 0 else s.process.exitCode
  recoveries : t.recoveries = s.recoveries +
    if s.recovers e && decide (s.resolveWorkerCount e ≤ s.metrics.activeWorkers) then 1 else 0
  timer : s.isShuttingDown = false → e.cfg.health.degradedAfterMs ≠ 0 →
    s.resolveWorkerCount e ≤ s.metrics.activeWorkers → t.orch.degradedTimer = none

theorem mem_serving_online {id j : Nat} :
    j ∈ (s.modifyWorker id fun w => { w with online := true }).serving ↔
      j ∈ s.live ∧ (j = id ∨ s.isOnline j) ∧ j ∉ s.manager.recyclingWorkerIds := by
  let x := s.modifyWorker id fun w => { w with online := true }
  have hlive : j ∈ x.live ↔ j ∈ s.live := by
    have hdead : (x.worker j).dead = (s.worker j).dead := modifyWorker_field Worker.dead fun _ => rfl
    rw [mem_live, mem_live, alive, isDead, hdead]
    exact Iff.rfl
  have honline : x.isOnline j ↔ j = id ∨ s.isOnline j := by
    by_cases hj : j = id
    · have hself : (x.worker id).online = true := congrArg Worker.online worker_modifyWorker_self
      exact iff_of_true (hj ▸ hself) (.inl hj)
    · have hother : x.worker j = s.worker j := worker_modifyWorker_of_ne hj
      rw [isOnline, hother]
      exact (or_iff_right hj).symm
  rw [mem_serving, hlive, honline]
  exact Iff.rfl

theorem workerOnline_heard (hd : s.manager.disposed = false) {id : Nat}
    (h : s.workerOnline e id = some t) : OnlineHeard e s id t := by
  obtain ⟨-, y, hy, ⟨hd', -⟩ | ⟨-, rfl⟩⟩ := workerOnline_cases h
  · exact absurd (hd.symm.trans hd') Bool.false_ne_true
  -- up to the recomputation
  let x := s.modifyWorker id fun w => { w with online := true }
  let w := y.onlineHandled e id
  have hyw : FleetSame y w := .of_eq rfl rfl rfl rfl rfl rfl
  have hxw : FleetSame x w := by
    rw [hy] at hyw
    exact (FleetSame.onReplacementOnline id x).trans hyw
  rw [onReplacementOnline_eq] at hy
  have hmetrics : y.metrics = s.metrics := by rw [hy]; rfl
  have hprocess : y.process = s.process := by rw [hy]; rfl
  have hrecovers : w.recovers e = s.recovers e := by
    show y.recovers e = _
    rw [hy]
    rfl
  have htarget : y.resolveWorkerCount e = s.resolveWorkerCount e :=
    resolveWorkerCount_congr (hyw.count.symm.trans hxw.count)
  have hwtarget : w.resolveWorkerCount e = s.resolveWorkerCount e :=
    resolveWorkerCount_congr hxw.count
  have hwactive : w.metrics.activeWorkers = s.metrics.activeWorkers :=
    congrArg WorkerMetrics.activeWorkers hmetrics
  rw [handleWorkerOnline_eq]
  obtain ⟨hserving, hcount⟩ := recomputeFleetHealth_serving (e := e) w
  constructor
  case serving =>
    intro j
    rw [hserving, hxw.serving]
    exact mem_serving_online
  case count => exact hcount.trans hxw.count
  case exitCode =>
    rw [recomputeFleetHealth_eq, ← htarget, ← hmetrics, ← hprocess]
    rfl
  case recoveries =>
    rw [recomputeFleetHealth_recoveries, hrecovers, hwactive, hwtarget, recoveries, hxw.signals]
    rfl
  case timer =>
    intro hs hd' hfull
    have hws : w.isShuttingDown = s.isShuttingDown := by
      show y.isShuttingDown = _
      rw [hy]
      rfl
    exact recomputeFleetHealth_timer (hws.trans hs) hd' (by rwa [hwtarget, hwactive])

/-- A disposed manager hears nothing. -/
theorem workerOnline_unheard (hd : s.manager.disposed = true) {id : Nat}
    (h : s.workerOnline e id = some t) :
    t.recoveries = s.recoveries ∧ t.process.exitCode = s.process.exitCode := by
  obtain ⟨-, y, hy, ⟨-, rfl⟩ | ⟨hd', -⟩⟩ := workerOnline_cases h
  · rw [hy, onReplacementOnline_eq]
    exact ⟨rfl, rfl⟩
  · exact absurd (hd'.symm.trans hd) Bool.false_ne_true

/-! ## Who is counted -/

/-- `activeWorkers` when the event is heard. -/
def State.activeAfter (s : State) : Action → Nat
  | .workerExit .. => s.metrics.activeWorkers - 1
  | _ => s.metrics.activeWorkers

/-- Without a fork nobody joins those who live. -/
theorem live_act (hw : WellFormed s) (hact : s.act e a = some t)
    (hids : t.cluster.ids = s.cluster.ids) : t.live ⊆ s.live := by
  have hlater := (act_pieces hw hact).later
  intro id hid
  obtain ⟨⟨hpos, hle⟩, halive⟩ := mem_live.mp hid
  have hle : id ≤ s.cluster.ids := hids ▸ hle
  refine mem_live.mpr ⟨⟨hpos, hle⟩, ?_⟩
  by_contra hdead
  have hdead : s.isDead id = true := by rwa [alive, Bool.not_eq_false] at hdead
  exact Bool.false_ne_true (halive.symm.trans (hlater.gone id ⟨hle, hdead⟩).2)

/-- Without a fork `activeWorkers` is no more than what the event found. -/
theorem active_act_le (hw : WellFormed s) (hs : Staffed s) (hact : s.act e a = some t)
    (hids : t.cluster.ids = s.cluster.ids) (hd : t.manager.disposed = false)
    (hd' : s.manager.disposed = false) : t.metrics.activeWorkers ≤ s.activeAfter a := by
  have hlive := live_act hw hact hids
  have hcount := hs.active hw hd'
  have hkept : t.live.card ≤ s.metrics.activeWorkers := hcount ▸ Finset.card_le_card hlive
  rw [(hs.act hw hact).active (hw.pieces (act_pieces hw hact)) hd]
  cases a with
  | workerExit id code signal =>
    -- the worker that exits is counted before and not after
    obtain ⟨m, hran, -⟩ := workerExit_outcome hw hact
    have htracked := hw.alive_tracked id hran.alive
    have hid : id ∈ s.live := mem_live.mpr ⟨hw.tracked_bounded id htracked, hran.alive⟩
    have hgone : id ∉ t.live := fun hmem =>
      Bool.false_ne_true ((mem_live.mp hmem).2.symm.trans (workerExit_gone hw hact).2)
    have herased := Finset.card_le_card (Finset.subset_erase.mpr ⟨hlive, hgone⟩)
    rw [Finset.card_erase_of_mem hid, ← hcount] at herased
    exact herased
  | _ => exact hkept

end ClusterKit
