import ClusterKit.WorkerManager

/-! `RestartCoordinator`: the restart queue, its backoff, the breaker reactions
and the hold on an empty fleet. -/

namespace ClusterKit.State

/-! ## The breaker -/

/-- The effect of `crashTracker.isTripped()` and `crashTracker.count`. -/
def pruneCrashes (s : State) : State :=
  { s with restart := { s.restart with crashTracker := s.restart.crashTracker.prune s.now } }

/-- The answer of `crashTracker.isTripped()`. -/
def breakerTripped (s : State) : Bool := s.restart.crashTracker.isTripped s.now

def recordCrash (s : State) : State :=
  { s with restart := { s.restart with crashTracker := s.restart.crashTracker.record s.now } }

/-! ## The hold on an empty fleet -/

def armEmptyFleetHold (s : State) : State :=
  if s.restart.emptyFleetHold || s.isShuttingDown then s
  else { s with restart := { s.restart with emptyFleetHold := true } }

theorem armEmptyFleetHold_eq (s : State) :
    s.armEmptyFleetHold = { s with restart := { s.restart with
      emptyFleetHold := s.restart.emptyFleetHold || !s.isShuttingDown } } := by
  have hold (hold shutting : Bool) : (hold || !shutting) = if hold || shutting then hold else true := by
    cases hold <;> cases shutting <;> rfl
  rw [hold, armEmptyFleetHold]
  split <;> rfl

def releaseEmptyFleetHold (s : State) : State :=
  { s with restart := { s.restart with emptyFleetHold := false } }

def setExitCode (code : Nat) (s : State) : State :=
  { s with process := { s.process with exitCode := code } }

/-! ## The queue -/

def setQueue (queue : List RestartQueueEntry) (s : State) : State :=
  { s with restart := { s.restart with pendingRestartQueue := queue } }

def setQueueFrame (frame : Option QueueFrame) (s : State) : State :=
  { s with restart := { s.restart with frame := frame } }

/-- Live workers that are not marked for recycling. -/
def settledWorkers (s : State) : Int := s.metrics.activeWorkers - s.getRecyclingCount

def missingWorkers (e : Host) (s : State) : Nat :=
  (s.resolveWorkerCount e - s.settledWorkers).toNat

/-- `restartWorkerWithBackoff` once a fork succeeded. -/
def restartSucceeded (e : Host) (delayMs : ℚ) (newWorker : Nat) (s : State) : State :=
  let nextDelay :=
    if delayMs > 0 then delayMs * e.cfg.restart.backoffMultiplier else e.cfg.restart.backoffMs
  { s with
    restart := { s.restart with
      consecutiveForkFailures := 0
      restartBackoffDelay := min nextDelay e.cfg.restart.maxBackoffMs
      frame := some .returned }
    metrics := { s.metrics with workerRestarts := s.metrics.workerRestarts + 1 }
    events := .workerRestart newWorker :: s.events }

/-- `restartWorkerWithBackoff` once a fork threw. -/
def restartFailed (entry : RestartQueueEntry) (s : State) : State :=
  let attempt := s.restart.consecutiveForkFailures + 1
  if attempt ≥ MAX_CONSECUTIVE_FORK_FAILURES then
    { s with
      restart := { s.restart with
        consecutiveForkFailures := attempt
        emptyFleetHold := false
        pendingRestartQueue := []
        frame := some .returned
        gaveUp := true }
      process := { s.process with exitCode := 1 } }
  else
    { s with restart := { s.restart with
        consecutiveForkFailures := attempt
        pendingRestartQueue := s.restart.pendingRestartQueue ++ [entry]
        frame := some .returned } }

/-- `restartWorkerWithBackoff` after its wait. -/
def attemptRestart (e : Host) (entry : RestartQueueEntry) (delayMs : ℚ) (s : State) : State :=
  let s := s.pruneCrashes
  if s.breakerTripped then s.setQueueFrame (some .returned)
  else
    match forkWorker e .restartQueue none s with
    | (none, s) => restartFailed entry s
    | (some newWorker, s) => restartSucceeded e delayMs newWorker s

/-- `restartWorkerWithBackoff` up to its wait. -/
def restartWorkerWithBackoff (e : Host) (entry : RestartQueueEntry) (s : State) : State :=
  let delayMs :=
    if s.restart.restartBackoffDelay > 0 then s.restart.restartBackoffDelay
    else e.cfg.restart.backoffMs
  if delayMs > 0 then s.setQueueFrame (some (.backoff entry delayMs s.now))
  else attemptRestart e entry delayMs s

/-- The `finally` of `processRestartQueue`. Every path leaves the loop with an empty
queue, so the second kick of the source never runs. -/
def queueLoopDone (s : State) : State :=
  { s with restart := { s.restart with
      pendingRestartQueue := [], restartLoopRunning := false, frame := none } }

/-- The `while` of `processRestartQueue`, over the queue it finds. -/
def queueLoop (e : Host) : List RestartQueueEntry → State → State
  | [], s => s.queueLoopDone
  | entry :: rest, s =>
    if s.isShuttingDown then s.queueLoopDone
    else
      let s := s.pruneCrashes
      if s.breakerTripped then s.queueLoopDone
      else
        let s := s.setQueue rest
        if s.missingWorkers e = 0 then queueLoop e rest s
        else restartWorkerWithBackoff e entry s

/-- `kickRestartQueue()`: a no-op while the loop is running. -/
def kickRestartQueue (e : Host) (s : State) : State :=
  if s.restart.restartLoopRunning then s
  else
    queueLoop e s.restart.pendingRestartQueue
      { s with restart := { s.restart with restartLoopRunning := true } }

/-- The backoff timer fired and its continuation runs. -/
def backoffElapsed (e : Host) (s : State) : Option State :=
  match s.restart.frame with
  | some (.backoff entry delayMs since) =>
    if delayMs ≤ ((s.now - since : Nat) : ℚ) then
      if s.isShuttingDown then some (s.setQueueFrame (some .returned))
      else some (attemptRestart e entry delayMs s)
    else none
  | _ => none

/-- The loop continues after `await this.restartWorkerWithBackoff(entry)`. -/
def queueReturned (e : Host) (s : State) : Option State :=
  match s.restart.frame with
  | some .returned => some (queueLoop e s.restart.pendingRestartQueue (s.setQueueFrame none))
  | _ => none

/-! ## Entry points -/

/-- `requestCapacityRefill(count)` up to the kick. -/
def queueRefill (count : Nat) (s : State) : State :=
  let s := s.setQueue (s.restart.pendingRestartQueue ++ List.replicate count .refill)
  if s.metrics.activeWorkers = 0 then s.armEmptyFleetHold else s

theorem queueRefill_eq (count : Nat) (s : State) :
    s.queueRefill count = { s with restart := { s.restart with
      pendingRestartQueue := s.restart.pendingRestartQueue ++ List.replicate count .refill
      emptyFleetHold := s.restart.emptyFleetHold ||
        (decide (s.metrics.activeWorkers = 0) && !s.isShuttingDown) } } := by
  unfold queueRefill
  by_cases h : s.metrics.activeWorkers = 0
  · simp [setQueue, armEmptyFleetHold_eq, isShuttingDown, h]
  · simp [setQueue, h]

def requestCapacityRefill (e : Host) (count : Nat) (s : State) : State :=
  (s.queueRefill count).kickRestartQueue e

/-- `onWorkerCrash` on the tripped branch, `onBreakerTripped` included. -/
def breakerTrip (s : State) : State :=
  { s with
    restart := { s.restart with
      emptyFleetHold := false, breakerWarningEmitted := true, trippedSinceReset := true }
    process := { s.process with
      exitCode := 1
      warnings :=
        if s.restart.breakerWarningEmitted then s.process.warnings
        else "ClusterKitCrashLoop" :: s.process.warnings }
    orch := { s.orch with ready := false }
    metrics := { s.metrics with crashLoopBackoffs := s.metrics.crashLoopBackoffs + 1 }
    events := .circuitBreakerTripped (s.restart.crashTracker.count s.now)
      s.restart.crashTracker.windowMs :: s.events }

/-- `onWorkerCrash` records the crash and asks the tracker. -/
def noteCrash (s : State) : State :=
  let s := s.recordCrash
  let s := if s.metrics.activeWorkers = 0 then s.setExitCode 1 else s
  s.pruneCrashes

theorem noteCrash_eq (s : State) :
    s.noteCrash = { s with
      restart := { s.restart with
        crashTracker := (s.restart.crashTracker.record s.now).prune s.now }
      process := { s.process with
        exitCode := if s.metrics.activeWorkers = 0 then 1 else s.process.exitCode } } := by
  unfold noteCrash
  by_cases h : s.metrics.activeWorkers = 0
  · simp [recordCrash, setExitCode, pruneCrashes, h]
  · simp [recordCrash, pruneCrashes, h]

/-- `onWorkerCrash` queues the restart, up to the kick. -/
def queueCrash (entry : RestartQueueEntry) (s : State) : State :=
  let s := { s with restart := { s.restart with
    breakerWarningEmitted := false
    pendingRestartQueue := s.restart.pendingRestartQueue ++ [entry] } }
  if s.metrics.activeWorkers = 0 then s.armEmptyFleetHold else s

theorem queueCrash_eq (entry : RestartQueueEntry) (s : State) :
    s.queueCrash entry = { s with restart := { s.restart with
      breakerWarningEmitted := false
      pendingRestartQueue := s.restart.pendingRestartQueue ++ [entry]
      emptyFleetHold := s.restart.emptyFleetHold ||
        (decide (s.metrics.activeWorkers = 0) && !s.isShuttingDown) } } := by
  unfold queueCrash
  by_cases h : s.metrics.activeWorkers = 0
  · simp [armEmptyFleetHold_eq, isShuttingDown, h]
  · simp [h]

/-- `onWorkerCrash` past the quarantine branch. -/
def crashRecorded (e : Host) (workerId : Nat) (code : Option Int) (signal : Option String)
    (s : State) : State :=
  let s := s.noteCrash
  if s.breakerTripped then s.breakerTrip
  else (s.queueCrash (.crash workerId code signal)).kickRestartQueue e

def countBootFailure (s : State) : State :=
  { s with restart := { s.restart with
      consecutiveBootFailures := s.restart.consecutiveBootFailures + 1 } }

def quarantineSlot (s : State) : State :=
  { s with
    restart := { s.restart with
      quarantinedSlots := s.restart.quarantinedSlots + 1
      quarantines := ⟨s.orch.onlineWorkerIds, s.manager.recyclingWorkerIds⟩ ::
        s.restart.quarantines }
    events := .workerQuarantined s.restart.consecutiveBootFailures :: s.events }

def onWorkerCrash (e : Host) (workerId : Nat) (code : Option Int) (signal : Option String)
    (bootFailed : Bool) (s : State) : State :=
  let quarantine := e.cfg.restart.bootFailQuarantine
  if bootFailed && decide (quarantine > 0) && decide s.orch.onlineWorkerIds.Nonempty then
    let s := s.countBootFailure
    if s.restart.consecutiveBootFailures ≥ quarantine then s.quarantineSlot
    else s.crashRecorded e workerId code signal
  else s.crashRecorded e workerId code signal

def scheduleBackoffReset (e : Host) (s : State) : State :=
  if e.cfg.restart.stabilityWindowMs = 0 then
    { s with restart := { s.restart with restartBackoffDelay := 0 } }
  else
    { s with restart := { s.restart with
        backoffResetTimer := some (s.now + e.cfg.restart.stabilityWindowMs) } }

/-- `RestartCoordinator.onWorkerOnline`. -/
def restartOnWorkerOnline (e : Host) (s : State) : State :=
  let s := { s with restart := { s.restart with
    consecutiveBootFailures := 0, emptyFleetHold := false } }
  if s.restart.restartBackoffDelay > 0 then s.scheduleBackoffReset e else s

def cancelBackoffReset (s : State) : State :=
  { s with restart := { s.restart with backoffResetTimer := none } }

/-- The stability timer fired. -/
def backoffResetElapsed (s : State) : Option State :=
  match s.restart.backoffResetTimer with
  | none => none
  | some deadline =>
    if deadline ≤ s.now then
      let s := s.cancelBackoffReset
      if s.isShuttingDown || decide (s.restart.restartBackoffDelay = 0) then some s
      else some { s with restart := { s.restart with restartBackoffDelay := 0 } }
    else none

/-- `RestartCoordinator.reset()`. -/
def resetRestart (s : State) : State :=
  { s with restart := { s.restart with
      crashTracker := s.restart.crashTracker.reset
      restartBackoffDelay := 0
      consecutiveForkFailures := 0
      trippedSinceReset := false } }

end ClusterKit.State
