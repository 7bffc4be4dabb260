import ClusterKit.Roll
import ClusterKit.ShutdownCoordinator

/-! `Orchestrator`: startup, the handlers of the cluster events, and the step
function of the whole primary. A step is one synchronous segment: a public call,
a cluster event, a timer callback, or the continuation of a suspended async
function. Everything the host may do between two segments is a step of its own. -/

namespace ClusterKit

inductive Timer where
  | backoffWait | backoffReset | crashCleanup | degraded
  | recycleSweep | recycleStagger (id : Nat)
  | wedgedWatch
  | drainFailsafe (new : Nat) | forceKill (new : Nat) | sigkill (new : Nat)
  | exitWait | exitGrace | rollStagger
  | ackTimeout (id : Nat) | killDelay (id : Nat) | shutdownExit
  deriving DecidableEq

inductive Continuation where
  | restartQueue | rollExited | rollReturned
  | acksSettled | exitWaitOver | killsDone | callbacksDone
  deriving DecidableEq

inductive Action where
  | tick (ms : Nat)
  | run
  | pluginsInstalled
  | pluginInstallFailed
  | overrideWorkerCount (n : Nat)
  | patchWorkerEnv (env : ProcessEnv)
  | setReady
  | setNotReady
  | resetCircuitBreaker
  | restartWorkers (opts : RestartOptions)
  | shutdownPrimary (signal : String)
  | workerOnline (id : Nat)
  | workerExit (id : Nat) (code : Option Int) (signal : Option String)
  | workerDisconnected (id : Nat)
  /-- The worker leaves the cluster by itself, which Node reports as graceful. -/
  | workerSelfDisconnect (id : Nat)
  | workerMessage (id : Nat) (msg : Option Message)
  | workerError (id : Nat)
  | timer (t : Timer)
  | resume (c : Continuation)

namespace State

/-! ## Fleet health -/

def recomputeFleetHealth (e : Host) (s : State) : State :=
  if s.isShuttingDown || decide (e.cfg.health.degradedAfterMs = 0) then s
  else
    let target := s.resolveWorkerCount e
    if s.metrics.activeWorkers ≥ target then
      let recovered :=
        Event.fleetRecovered target s.metrics.activeWorkers (s.now - s.orch.degradedSince)
      { s with
        orch := { s.orch with degradedTimer := none, fleetDegraded := false }
        events := if s.orch.fleetDegraded then recovered :: s.events else s.events }
    else if s.orch.fleetDegraded || s.orch.degradedTimer.isSome then s
    else
      { s with orch := { s.orch with
          degradedSince := s.now
          degradedTimer := some (s.now + e.cfg.health.degradedAfterMs) } }

def degradedElapsed (e : Host) (s : State) : Option State :=
  match s.orch.degradedTimer with
  | none => none
  | some deadline =>
    if deadline ≤ s.now then
      let s := { s with orch := { s.orch with degradedTimer := none } }
      if s.isShuttingDown then some s
      else
        let degraded := Event.fleetDegraded (s.resolveWorkerCount e) s.metrics.activeWorkers
        some { s with
          orch := { s.orch with fleetDegraded := true }, events := degraded :: s.events }
    else none

/-! ## Cluster events -/

def handleWorkerOnline (e : Host) (id : Nat) (s : State) : State :=
  let s := { s with orch := { s.orch with onlineWorkerIds := insert id s.orch.onlineWorkerIds } }
  let s := s.restartOnWorkerOnline e
  let s := if s.metrics.activeWorkers ≥ s.resolveWorkerCount e then s.setExitCode 0 else s
  (s.emit (.workerOnline id)).recomputeFleetHealth e

/-- A worker emits `online`: the listeners on the worker run before those on the cluster. -/
def workerOnline (e : Host) (id : Nat) (s : State) : Option State :=
  if s.isDead id || (s.worker id).online then none
  else
    let s := s.modifyWorker id fun w => { w with online := true }
    let s := s.onReplacementOnline e id
    if s.manager.disposed then some s else some (s.handleWorkerOnline e id)

/-- The bookkeeping common to all branches of `handleWorkerExit`. -/
def forgetWorker (id : Nat) (s : State) : State :=
  ({ s with orch := { s.orch with
      onlineWorkerIds := s.orch.onlineWorkerIds.erase id } }).healthOnWorkerExit id

def countGracefulShutdown (s : State) : State :=
  { s with metrics := { s.metrics with gracefulShutdowns := s.metrics.gracefulShutdowns + 1 } }

def handleWorkerExit (e : Host) (id : Nat) (code : Option Int) (signal : Option String)
    (s : State) : State :=
  let graceful := (s.worker id).exitedAfterDisconnect
  let s := s.emit (.workerExit id code signal graceful)
  if s.isShuttingDown then
    let s := s.forgetWorker id
    if graceful then s.countGracefulShutdown else s
  else
    let s := s.recomputeFleetHealth e
    if graceful then (s.forgetWorker id).countGracefulShutdown
    else
      let s := s.cancelBackoffReset
      let bootFailed : Bool := id ∉ s.orch.onlineWorkerIds
      let s := (s.forgetWorker id).emit (.workerCrash id code signal)
      s.onWorkerCrash e id code signal bootFailed

/-- The process of a worker is gone: what Node changes on the worker. -/
def markDead (id : Nat) (s : State) : State :=
  s.modifyWorker id fun w => { w with dead := true, listed := w.listed && w.connected }

/-- The `exit` listeners on the worker itself. -/
def workerExitListeners (e : Host) (id : Nat) (s : State) : State :=
  (((s.onReplacementExit e id).onRolledWorkerExit id).clearKillTimers id).settleAck id

/-- A worker emits `exit`: the listeners on the worker run before those on the cluster. -/
def workerExit (e : Host) (id : Nat) (code : Option Int) (signal : Option String) (s : State) :
    Option State :=
  if s.isDead id then none
  else
    let s := (s.markDead id).workerExitListeners e id
    if s.manager.disposed then some s
    else some ((s.cleanupWorker id).handleWorkerExit e id code signal)

/-- The IPC channel of a worker closed. -/
def workerDisconnected (id : Nat) (s : State) : Option State :=
  if (s.worker id).connected then
    some ((s.modifyWorker id fun w => { w with
      connected := false, listed := w.listed && !w.dead }).settleAck id)
  else none

def workerSelfDisconnect (id : Nat) (s : State) : Option State :=
  if s.isDead id || !(s.worker id).connected then none
  else some (s.modifyWorker id fun w => { w with exitedAfterDisconnect := true })

def workerMessage (e : Host) (id : Nat) (msg : Option Message) (s : State) : Option State :=
  if id = 0 ∨ id > s.cluster.ids then none
  else some ((s.onHealthMessage e id msg).onAckMessage e id msg)

/-! ## Public calls -/

/-- `resetCircuitBreaker()` outside a shutdown, up to the refill. -/
def breakerReset (s : State) : State :=
  let s := s.resetRestart
  ({ s with orch := { s.orch with ready := true } }).setExitCode 0

/-- `resetCircuitBreaker()` -/
def resetCircuitBreaker (e : Host) (s : State) : State :=
  if s.isShuttingDown then s.resetRestart
  else
    let s := s.breakerReset
    if s.orch.hasForked then s.refillMissing e else s

def CRASH_CLEANUP_MS : Nat := 5 * 60000

/-- `startPrimary(workerCount)`; a throwing initial fork rejects `run()`. -/
def startPrimary (e : Host) (workerCount : Nat) (s : State) : State :=
  let s := { s with orch := { s.orch with hasForked := true } }
  match forkWorkers e workerCount s with
  | (false, s) => { s with orch := { s.orch with runPhase := .rejected } }
  | (true, s) =>
    let s := { s with orch := { s.orch with
      runPhase := .started, crashCleanupInterval := some (s.now + CRASH_CLEANUP_MS) } }
    (s.startRecycling e).startWedgedWatch e

/-- `overrideWorkerCount(n)`; a call that throws changes nothing. -/
def overrideWorkerCount (n : Nat) (s : State) : State :=
  if h : 0 < n then
    if n > MAX_AUTO_WORKERS || s.orch.hasForked then s
    else
      match s.orch.count with
      | .fixed _ => s
      | .auto => { s with orch := { s.orch with count := .fixed ⟨n, h⟩ } }
  else s

/-- `patchWorkerEnv(env)`; a call that throws changes nothing. -/
def patchWorkerEnv (env : ProcessEnv) (s : State) : State :=
  if s.orch.hasForked || !isSafeEnvObject env then s
  else { s with orch := { s.orch with env := overlay s.orch.env env } }

def setReady (ready : Bool) (s : State) : State := { s with orch := { s.orch with ready := ready } }

def setRunPhase (phase : RunPhase) (s : State) : State :=
  { s with orch := { s.orch with runPhase := phase } }

/-- The crash tracker's cleanup interval fired. -/
def crashCleanup (s : State) : Option State :=
  match s.orch.crashCleanupInterval with
  | none => none
  | some due =>
    if due ≤ s.now then
      let s := { s with orch := { s.orch with
        crashCleanupInterval := some (s.now + CRASH_CLEANUP_MS) } }
      if s.isShuttingDown then some s else some s.pruneCrashes
    else none

/-! ## Steps -/

def fire (e : Host) (s : State) : Timer → Option State
  | .backoffWait => s.backoffElapsed e
  | .backoffReset => s.backoffResetElapsed
  | .crashCleanup => s.crashCleanup
  | .degraded => s.degradedElapsed e
  | .recycleSweep => s.recycleSweep e
  | .recycleStagger id => s.staggerElapsed e id
  | .wedgedWatch => s.wedgedWatch e
  | .drainFailsafe new => s.drainFailsafeElapsed e new
  | .forceKill new => s.forceKillElapsed e new
  | .sigkill new => s.sigkillElapsed new
  | .exitWait => s.exitWaitElapsed
  | .exitGrace => s.exitGraceElapsed
  | .rollStagger => s.rollStaggerElapsed e
  | .ackTimeout id => s.ackTimeoutElapsed id
  | .killDelay id => s.killDelayElapsed e id
  | .shutdownExit => s.shutdownExitElapsed

def resume (e : Host) (s : State) : Continuation → Option State
  | .restartQueue => s.queueReturned e
  | .rollExited => s.rollExited e
  | .rollReturned => s.rollReturned e
  | .acksSettled => s.acksSettled e
  | .exitWaitOver => s.exitWaitOver e
  | .killsDone => s.killsDone e
  | .callbacksDone => s.shutdownResolved

def act (e : Host) (s : State) : Action → Option State
  | .tick ms => some { s with now := s.now + ms }
  | .run => some (if s.orch.runPhase = .idle then s.setRunPhase .installing else s)
  | .pluginsInstalled =>
    if s.orch.runPhase = .installing then some (s.startPrimary e (s.resolveWorkerCount e)) else none
  | .pluginInstallFailed =>
    if s.orch.runPhase = .installing then some (s.setRunPhase .rejected) else none
  | .overrideWorkerCount n => some (s.overrideWorkerCount n)
  | .patchWorkerEnv env => some (s.patchWorkerEnv env)
  | .setReady => some (if s.isShuttingDown then s else s.setReady true)
  | .setNotReady => some (s.setReady false)
  | .resetCircuitBreaker => some (s.resetCircuitBreaker e)
  | .restartWorkers opts => some (s.restartWorkers e opts)
  | .shutdownPrimary signal => some (s.shutdownPrimary e signal)
  | .workerOnline id => s.workerOnline e id
  | .workerExit id code signal => s.workerExit e id code signal
  | .workerDisconnected id => s.workerDisconnected id
  | .workerSelfDisconnect id => s.workerSelfDisconnect id
  | .workerMessage id msg => s.workerMessage e id msg
  | .workerError id => some (s.settleAck id)
  | .timer t => s.fire e t
  | .resume c => s.resume e c

end State

/-- The primary as a step system; after `process.exit` nothing happens any more. -/
def orchestrator (e : Host) (count : WorkerCount) (env : ProcessEnv) :
    StepSystem State Action where
  init := State.initial e count env
  step s a := if s.process.exited then none else s.act e a

end ClusterKit
