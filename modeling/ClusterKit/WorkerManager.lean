import ClusterKit.State

/-! `WorkerManager`: forking, tracking and the recycling marks. -/

namespace ClusterKit.State

/-- `resolveWorkerCount()`; the automatic count is cached, hence a constant. -/
def resolveWorkerCount (e : Host) (s : State) : Nat :=
  match s.orch.count with
  | .fixed n => n
  | .auto => e.autoWorkerCount

/-- `getActiveWorkers()`: the cluster module's table, without dead processes. -/
def getActiveWorkers (s : State) : List Nat :=
  (List.range' 1 s.cluster.ids).filter fun id => (s.worker id).listed && !s.isDead id

def getWorkerAge (s : State) (id : Nat) : Nat :=
  match s.manager.workerStartTimes.get? id with
  | none => 0
  | some 0 => 0
  | some startTime => s.now - startTime

def getRecyclingCount (s : State) : Nat := s.manager.recyclingWorkerIds.card

def isMarkedForRecycling (s : State) (id : Nat) : Bool := id ∈ s.manager.recyclingWorkerIds

/-- What a call of `cluster.fork` finds. -/
def forkCall (e : Host) (cause : ForkCause) (envOverlay : Option ProcessEnv) (s : State) :
    ForkCall where
  cause := cause
  envOverlay := envOverlay
  succeeded := e.forkOk s.cluster.forkCalls.length
  isShuttingDown := s.isShuttingDown
  target := s.resolveWorkerCount e
  activeWorkers := s.metrics.activeWorkers
  recyclingWorkerIds := s.manager.recyclingWorkerIds

/-- The call itself; it may throw. -/
def clusterFork (call : ForkCall) (s : State) : State :=
  { s with cluster := { s.cluster with forkCalls := call :: s.cluster.forkCalls } }

/-- After the call: the new worker is in the table and tracked. -/
def trackWorker (cause : ForkCause) (env : ProcessEnv) (s : State) : State :=
  let id := s.cluster.ids + 1
  { s with
    cluster := { s.cluster with
      ids := id
      workers := Function.update s.cluster.workers id
        { env := env, cause := cause, forkedAt := s.now } }
    manager := { s.manager with workerStartTimes := s.manager.workerStartTimes.set id s.now }
    metrics := { s.metrics with activeWorkers := s.metrics.activeWorkers + 1 } }

/-- `forkWorker(envOverlay)`: the new id, or `none` when it throws. -/
def forkWorker (e : Host) (cause : ForkCause) (envOverlay : Option ProcessEnv) (s : State) :
    Option Nat × State :=
  if !isSafeEnvObject s.orch.env || !(envOverlay.all isSafeEnvObject) then (none, s)
  else
    let call := s.forkCall e cause envOverlay
    if call.succeeded then
      let env := workerEnv s.orch.env envOverlay
      (some (s.cluster.ids + 1), trackWorker cause env (clusterFork call s))
    else (none, clusterFork call s)

/-- `forkWorkers(count)`: stops at the first fork that throws. -/
def forkWorkers (e : Host) : Nat → State → Bool × State
  | 0, s => (true, s)
  | count + 1, s =>
    match forkWorker e .initial none s with
    | (none, s) => (false, s)
    | (some _, s) => forkWorkers e count s

def markForRecycling (id : Nat) (s : State) : State :=
  { s with manager := { s.manager with
      recyclingWorkerIds := insert id s.manager.recyclingWorkerIds } }

def unmarkForRecycling (id : Nat) (s : State) : State :=
  { s with manager := { s.manager with
      recyclingWorkerIds := s.manager.recyclingWorkerIds.erase id } }

def setRecycleTimer (id deadline : Nat) (s : State) : State :=
  { s with manager := { s.manager with
      pendingRecycleTimers := s.manager.pendingRecycleTimers.set id deadline } }

def deleteRecycleTimer (id : Nat) (s : State) : State :=
  { s with manager := { s.manager with
      pendingRecycleTimers := s.manager.pendingRecycleTimers.delete id } }

def stopRecycling (s : State) : State :=
  { s with manager := { s.manager with
      recycleInterval := none
      pendingRecycleTimers := .empty
      recyclingWorkerIds := ∅ } }

/-- `cleanupWorker(workerId)`; the subtraction is the source's `Math.max(0, ...)`. -/
def cleanupWorker (id : Nat) (s : State) : State :=
  { s with
    manager := { s.manager with
      workerStartTimes := s.manager.workerStartTimes.delete id
      recyclingWorkerIds := s.manager.recyclingWorkerIds.erase id
      pendingRecycleTimers := s.manager.pendingRecycleTimers.delete id }
    metrics := { s.metrics with activeWorkers := s.metrics.activeWorkers - 1 } }

/-- Change what the primary sees of one worker. -/
def modifyWorker (id : Nat) (f : Worker → Worker) (s : State) : State :=
  { s with cluster := s.cluster.modify id f }

def noteForkFailure (s : State) : State :=
  { s with restart := { s.restart with
      consecutiveForkFailures := s.restart.consecutiveForkFailures + 1 } }

def noteForkSuccess (s : State) : State :=
  { s with restart := { s.restart with consecutiveForkFailures := 0 } }

def isForkEnvUnrecoverable (s : State) : Bool :=
  s.restart.consecutiveForkFailures ≥ MAX_CONSECUTIVE_FORK_FAILURES

end ClusterKit.State
