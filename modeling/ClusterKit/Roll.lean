import ClusterKit.Recycling

/-! `restartWorkers()`: the roll over the fleet, suspended at each worker's exit
and at the stagger between two workers. -/

namespace ClusterKit.State

def EXIT_GRACE_MS : Nat := 2000

def modifyRoll (f : Roll → Roll) (s : State) : State := { s with roll := s.roll.map f }

def setRollFrame (frame : RollFrame) (s : State) : State :=
  s.modifyRoll fun r => { r with frame := frame }

/-- The `for` loop takes its next worker: `rest` is still to come. -/
def setRemaining (rest : List Nat) (s : State) : State :=
  s.modifyRoll fun r => { r with remaining := rest }

def rollEnv (s : State) : Option ProcessEnv := s.roll.bind fun r => r.opts.env

/-- The roll's fork threw: `noteForkFailure()`. -/
def rollForkFailed (rest : List Nat) (s : State) : State :=
  s.noteForkFailure.modifyRoll fun r => { r with remaining := rest, forkFailed := true }

/-- The roll forked a replacement for `old`: mark, hand over, wait for the exit. -/
def rollForked (e : Host) (old new : Nat) (rest : List Nat) (s : State) : State :=
  let s := (s.noteForkSuccess.markForRecycling old).handleWorkerRecycle e old new
  let frame :=
    if s.isDead old then .exited old else .exitWait old (s.now + e.cfg.workerDrainBudgetMs)
  s.modifyRoll fun r => { r with remaining := rest, frame := frame }

/-- The `for` loop of `rollWorkers` over what remains of `targeted`, up to its next
suspension. -/
def rollWorkers (e : Host) : List Nat → State → State
  | [], s => s.setRollFrame (.returned .complete)
  | old :: rest, s =>
    if s.isShuttingDown then s.setRollFrame (.returned .abortedByShutdown)
    else if s.isDead old then rollWorkers e rest (s.setRemaining rest)
    else
      match forkWorker e (.roll old) s.rollEnv s with
      | (none, s) =>
        let s := s.rollForkFailed rest
        if s.isForkEnvUnrecoverable then s.setRollFrame (.returned .forkBailout)
        else rollWorkers e rest s
      | (some newWorker, s) => s.rollForked e old newWorker rest

def targetedWorkers (opts : RestartOptions) (s : State) : List Nat :=
  match opts.filter with
  | none => s.getActiveWorkers
  | some f => s.getActiveWorkers.filter f

/-- `resetQuarantine()`, `restart:start`, and the frame of the roll. -/
def beginRoll (opts : RestartOptions) (targeted : List Nat) (s : State) : State :=
  { s with
    restart := { s.restart with quarantinedSlots := 0, consecutiveBootFailures := 0 }
    roll := some { opts := opts, remaining := targeted, frame := .running,
                   clearedQuarantine := s.restart.quarantinedSlots }
    events := .restartStart opts.reason targeted :: s.events }

/-- `restartWorkers(opts)` up to its first suspension; a call that throws or is
ignored changes nothing. -/
def restartWorkers (e : Host) (opts : RestartOptions) (s : State) : State :=
  if !opts.env.all isSafeEnvObject then s
  else if s.isShuttingDown || s.roll.isSome then s
  else
    let targeted := s.targetedWorkers opts
    rollWorkers e targeted (s.beginRoll opts targeted)

def rollFrame (s : State) : Option RollFrame := s.roll.map fun r => r.frame

/-- The `exit` listeners of `awaitBoundedWorkerExit`. -/
def onRolledWorkerExit (id : Nat) (s : State) : State :=
  match s.rollFrame with
  | some (.exitWait old _) => if old = id then s.setRollFrame (.exited old) else s
  | some (.exitGrace old _) => if old = id then s.setRollFrame (.exited old) else s
  | _ => s

/-- The `waitTimer` of `awaitBoundedWorkerExit` fired. -/
def exitWaitElapsed (s : State) : Option State :=
  match s.rollFrame with
  | some (.exitWait old deadline) =>
    if deadline ≤ s.now then
      let frame := RollFrame.exitGrace old (s.now + EXIT_GRACE_MS)
      if s.isDead old then some (s.setRollFrame frame)
      else some (((s.kill .SIGKILL old).countForcedKill).setRollFrame frame)
    else none
  | _ => none

/-- The `graceTimer` of `awaitBoundedWorkerExit` fired. -/
def exitGraceElapsed (s : State) : Option State :=
  match s.rollFrame with
  | some (.exitGrace old deadline) =>
    if deadline ≤ s.now then some (s.setRollFrame (.exited old)) else none
  | _ => none

/-- The loop continues after `await awaitBoundedWorkerExit(oldWorker)`. -/
def rollExited (e : Host) (s : State) : Option State :=
  match s.roll with
  | some r =>
    match r.frame with
    | .exited old =>
      let s := s.modifyRoll fun r => { r with restartedWorkerIds := r.restartedWorkerIds ++ [old] }
      if r.opts.staggerMs > 0 then some (s.setRollFrame (.stagger (s.now + r.opts.staggerMs)))
      else some (rollWorkers e r.remaining (s.setRollFrame .running))
    | _ => none
  | none => none

/-- The stagger timer of the roll fired; the loop continues. -/
def rollStaggerElapsed (e : Host) (s : State) : Option State :=
  match s.roll with
  | some r =>
    match r.frame with
    | .stagger deadline =>
      if deadline ≤ s.now then some (rollWorkers e r.remaining (s.setRollFrame .running)) else none
    | _ => none
  | none => none

def endRoll (s : State) : State := { s with roll := none }

/-- The refill after a complete roll or a breaker reset; the subtraction is the
source's `Math.max(0, ...)`. -/
def refillMissing (e : Host) (s : State) : State :=
  s.requestCapacityRefill e (s.resolveWorkerCount e - s.metrics.activeWorkers)

/-- `restartWorkers` continues after `await this.rollWorkers(...)`. -/
def rollReturned (e : Host) (s : State) : Option State :=
  match s.roll with
  | some r =>
    match r.frame with
    | .returned .abortedByShutdown => some s.endRoll
    | .returned .forkBailout => some (s.setExitCode 1).endRoll
    | .returned .complete =>
      let s := s.emit (.restartComplete r.restartedWorkerIds r.opts.reason)
      some (s.refillMissing e).endRoll
    | _ => none
  | none => none

end ClusterKit.State
