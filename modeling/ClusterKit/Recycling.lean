import ClusterKit.DrainCoordinator

/-! Replacing single workers: the aged-worker sweep and its stagger timers, and
the recycles that health policies ask for. -/

namespace ClusterKit.State

/-- `handleWorkerRecycle(oldWorker, newWorker)` -/
def handleWorkerRecycle (e : Host) (old new : Nat) (s : State) : State :=
  let ageMs := s.getWorkerAge old
  let reason := (s.orch.recycleReasons.get? old).getD .maxAge
  let s := { s with
    orch := { s.orch with recycleReasons := s.orch.recycleReasons.delete old }
    events := .workerRecycle old ageMs reason :: .workerDraining old reason :: s.events }
  s.recycle e old new

/-- `recycleWorkerNow(workerId, ...)`: whether the worker was recycled. -/
def recycleWorkerNow (e : Host) (id : Nat) (s : State) : Bool × State :=
  if s.isShuttingDown || s.isMarkedForRecycling id then (false, s)
  else if id ∉ s.getActiveWorkers then (false, s)
  else
    let s := s.markForRecycling id
    match forkWorker e (.health id) none s with
    | (none, s) => (false, s.unmarkForRecycling id)
    | (some newWorker, s) => (true, s.handleWorkerRecycle e id newWorker)

def setRecycleReason (id : Nat) (reason : RecycleReason) (s : State) : State :=
  { s with orch := { s.orch with recycleReasons := s.orch.recycleReasons.set id reason } }

def deleteRecycleReason (id : Nat) (s : State) : State :=
  { s with orch := { s.orch with recycleReasons := s.orch.recycleReasons.delete id } }

/-- `triggerWorkerRecycle(workerId, reason)` -/
def triggerWorkerRecycle (e : Host) (id : Nat) (reason : RecycleReason) (s : State) : State :=
  if s.isMarkedForRecycling id then s
  else
    match recycleWorkerNow e id (s.setRecycleReason id reason) with
    | (true, s) => s
    | (false, s) => s.deleteRecycleReason id

/-! ## The aged-worker sweep -/

def RECYCLE_SWEEP_MS : Nat := 60000

def RECYCLE_STAGGER_MS : Nat := 30000

def toRecycle (e : Host) (s : State) : List Nat :=
  s.getActiveWorkers.filter fun id =>
    !s.isMarkedForRecycling id && decide (e.cfg.workers.maxAgeMs > 0) &&
      decide (s.getWorkerAge id > e.cfg.workers.maxAgeMs)

/-- The `forEach` of the sweep from index `idx` on; Node arms at least 1 ms. -/
def armStaggerTimers : Nat → List Nat → State → State
  | _, [], s => s
  | idx, id :: rest, s =>
    armStaggerTimers (idx + 1) rest
      ((s.markForRecycling id).setRecycleTimer id (s.now + max 1 (idx * RECYCLE_STAGGER_MS)))

def startRecycling (e : Host) (s : State) : State :=
  if e.cfg.workers.maxAgeMs = 0 && e.cfg.workers.maxRssMb = 0 then s
  else { s with manager := { s.manager with recycleInterval := some (s.now + RECYCLE_SWEEP_MS) } }

def recycleSweep (e : Host) (s : State) : Option State :=
  match s.manager.recycleInterval with
  | none => none
  | some due =>
    if due ≤ s.now then
      let s := { s with manager := { s.manager with
        recycleInterval := some (s.now + RECYCLE_SWEEP_MS) } }
      if s.isShuttingDown then some s
      else some (armStaggerTimers 0 (s.toRecycle e) s)
    else none

/-- The stagger timer of an aged worker fired. -/
def staggerElapsed (e : Host) (id : Nat) (s : State) : Option State :=
  match s.manager.pendingRecycleTimers.get? id with
  | none => none
  | some deadline =>
    if deadline ≤ s.now then
      let s := s.deleteRecycleTimer id
      if s.isDead id || s.isShuttingDown then some (s.unmarkForRecycling id)
      else
        match forkWorker e (.aged id) none s with
        | (none, s) => some (s.unmarkForRecycling id)
        | (some newWorker, s) => some (s.handleWorkerRecycle e id newWorker)
    else none

end ClusterKit.State
