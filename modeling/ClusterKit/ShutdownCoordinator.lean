import ClusterKit.HealthMonitor

/-! `shutdownPrimary()` and `ShutdownCoordinator`: acknowledgements, a bounded wait
for exits, gradual kills, then callbacks and the final cleanup. -/

namespace ClusterKit.State

def setShutdownFrame (frame : ShutdownFrame) (s : State) : State :=
  { s with shutdown := { s.shutdown with frame := frame } }

/-- `disconnectWorker()` of an ACK wait. -/
def disconnectIfConnected (now : Nat) (w : Worker) : Worker :=
  if !w.dead && w.connected then w.disconnect now else w

/-- `waitForWorkerAck` stays pending for this worker. -/
def waitsForAck (e : Host) (s : State) (id : Nat) : Bool :=
  !s.isDead id && (s.worker id).connected && !e.sendThrows id

/-- What `waitForWorkerAck` does to a worker at once. -/
def startAck (e : Host) (s : State) (id : Nat) : Worker :=
  let w := s.worker id
  if w.dead || !w.connected then w
  else if e.sendThrows id then disconnectIfConnected s.now w
  else w.send s.now

/-- `initiateShutdown(workers, signal)` up to its first suspension. -/
def initiateShutdown (e : Host) (workers : List Nat) (signal : String) (s : State) : State :=
  let deadline := s.now + e.cfg.shutdown.ackTimeoutMs
  let waits := (workers.filter fun id => s.waitsForAck e id).map fun id => (id, deadline)
  { s with
    shutdown :=
      { isShuttingDown := true, frame := .acks workers waits, forkedBefore := s.cluster.ids }
    cluster := { s.cluster with
      workers := fun id => if id ∈ workers then s.startAck e id else s.cluster.workers id }
    events := .shutdownStart signal :: s.events }

def clearDegraded (s : State) : State :=
  { s with orch := { s.orch with
      crashCleanupInterval := none, degradedTimer := none, fleetDegraded := false, ready := false } }

/-- `shutdownPrimary(signal)` up to its first suspension. -/
def shutdownPrimary (e : Host) (signal : String) (s : State) : State :=
  if s.isShuttingDown then s
  else
    let s := s.cancelBackoffReset.releaseEmptyFleetHold.stopRecycling.stopHealth.clearDegraded
    s.initiateShutdown e s.getActiveWorkers signal

/-! ## Acknowledgements -/

/-- An ACK wait settles. -/
def settleAck (id : Nat) (s : State) : State :=
  match s.shutdown.frame with
  | .acks workers waits => s.setShutdownFrame (.acks workers (waits.filter fun p => p.1 != id))
  | _ => s

def awaitsAck (s : State) (id : Nat) : Bool :=
  match s.shutdown.frame with
  | .acks _ waits => waits.any fun p => p.1 == id
  | _ => false

/-- An ACK wait settles after disconnecting its worker. -/
def settleAckDisconnecting (id : Nat) (s : State) : State :=
  (s.settleAck id).modifyWorker id (disconnectIfConnected s.now)

/-- The `message` listener of an ACK wait. -/
def onAckMessage (e : Host) (id : Nat) (msg : Option Message) (s : State) : State :=
  if s.awaitsAck id && isTypedMessage msg (e.cfg.shutdown.messagePrefix ++ ":shutdown-ack") then
    s.settleAckDisconnecting id
  else s

def ackTimeoutElapsed (id : Nat) (s : State) : Option State :=
  match s.shutdown.frame with
  | .acks _ waits =>
    if waits.any fun p => p.1 == id && decide (p.2 ≤ s.now) then some (s.settleAckDisconnecting id)
    else none
  | _ => none

/-! ## Exits and kills -/

/-- All ACK waits settled: `waitForWorkersToExit` starts. -/
def acksSettled (e : Host) (s : State) : Option State :=
  match s.shutdown.frame with
  | .acks workers [] =>
    some (s.setShutdownFrame (.exitWait workers (s.now + e.cfg.shutdown.timeoutMs)))
  | _ => none

/-- `waitForWorkersToExit` resolved: the survivors get their SIGTERM. -/
def exitWaitOver (e : Host) (s : State) : Option State :=
  match s.shutdown.frame with
  | .exitWait workers deadline =>
    if workers.all s.isDead || decide (deadline ≤ s.now) then
      let survivors := workers.filter fun id => !s.isDead id
      let deadline := s.now + e.cfg.shutdown.sigtermDelayMs
      some { s with
        shutdown := { s.shutdown with
          frame := .kills workers (survivors.map fun id => (id, .afterSigterm deadline)) }
        cluster := { s.cluster with workers := fun id =>
          if id ∈ survivors then (s.worker id).kill .SIGTERM s.now else s.worker id } }
    else none
  | _ => none

def stageOf (stages : List (Nat × KillStage)) (id : Nat) : Option KillStage :=
  (stages.find? fun p => p.1 == id).map Prod.snd

def dropStage (stages : List (Nat × KillStage)) (id : Nat) : List (Nat × KillStage) :=
  stages.filter fun p => p.1 != id

/-- A delay of `killWorkerGradually(worker)` elapsed. -/
def killDelayElapsed (e : Host) (id : Nat) (s : State) : Option State :=
  match s.shutdown.frame with
  | .kills workers stages =>
    match stageOf stages id with
    | some (.afterSigterm deadline) =>
      if deadline ≤ s.now then
        if s.isDead id then some (s.setShutdownFrame (.kills workers (dropStage stages id)))
        else
          let stage := KillStage.afterSigint (s.now + e.cfg.shutdown.sigintDelayMs)
          some ((s.kill .SIGINT id).setShutdownFrame
            (.kills workers ((id, stage) :: dropStage stages id)))
      else none
    | some (.afterSigint deadline) =>
      if deadline ≤ s.now then
        let s := s.setShutdownFrame (.kills workers (dropStage stages id))
        if s.isDead id then some s else some (s.kill .SIGKILL id).countForcedKill
      else none
    | none => none
  | _ => none

/-- All kills are done; callbacks and plugin uninstalls start under the exit timer. -/
def killsDone (e : Host) (s : State) : Option State :=
  match s.shutdown.frame with
  | .kills _ [] => some (s.setShutdownFrame (.callbacks (s.now + e.cfg.shutdown.timeoutMs)))
  | _ => none

/-- The exit timer fired: `process.exit(1)`. -/
def shutdownExitElapsed (s : State) : Option State :=
  match s.shutdown.frame with
  | .callbacks deadline =>
    if deadline ≤ s.now then
      some { s with process := { s.process with exitCode := 1, exited := true } }
    else none
  | _ => none

/-- `WorkerManager.dispose()` -/
def dispose (s : State) : State :=
  let s := s.stopRecycling
  { s with manager := { s.manager with disposed := true } }

/-- Callbacks and uninstalls are through: `shutdownPrimary` resolves. -/
def shutdownResolved (s : State) : Option State :=
  match s.shutdown.frame with
  | .callbacks _ =>
    some ((((s.emit (.shutdownComplete s.metrics)).dispose).setExitCode 0).setShutdownFrame .resolved)
  | _ => none

end ClusterKit.State
