import ClusterKit.Orchestrator
import Mathlib.Logic.Relation

/-! What a synchronous segment is made of. A segment is long, but it is a chain of
elementary moves; an invariant is checked once for each kind of move. A move carries
the guards that the source has checked when it makes it. -/

namespace ClusterKit

open State

/-- Events other than the ends of a roll and the start of a shutdown. -/
def Event.plain : Event → Bool
  | .restartStart .. => false
  | .restartComplete .. => false
  | .shutdownStart .. => false
  | _ => true

/-- An escalation timer of the drain is armed. -/
def Recycle.escalating (r : Recycle) : Bool := r.forceKillTimer.isSome || r.sigkillTimer.isSome

/-- `r'` is `r` with some timers fired or cleared. -/
structure Recycle.Keeps (r r' : Recycle) : Prop where
  old : r'.old = r.old
  new : r'.new = r.new
  replacementOnline : r'.replacementOnline = r.replacementOnline
  drained : r'.drained = r.drained
  failsafe : r'.drainFailsafeTimer = r.drainFailsafeTimer ∨ r'.drainFailsafeTimer = none
  escalating : r'.escalating = true → r.escalating = true

namespace State

/-- `s` with the fields of `b` that only report, delay or count: no decision modelled
below about a fork, a drain or a kill reads more of them than the guards say. -/
def withBooks (s b : State) : State :=
  { s with
    metrics := { b.metrics with activeWorkers := s.metrics.activeWorkers }
    manager := { s.manager with recycleInterval := b.manager.recycleInterval }
    restart := { s.restart with
      restartBackoffDelay := b.restart.restartBackoffDelay
      backoffResetTimer := b.restart.backoffResetTimer
      consecutiveForkFailures := b.restart.consecutiveForkFailures
      consecutiveBootFailures := b.restart.consecutiveBootFailures
      breakerWarningEmitted := b.restart.breakerWarningEmitted }
    health := b.health
    orch := { s.orch with
      ready := b.orch.ready
      recycleReasons := b.orch.recycleReasons
      crashCleanupInterval := b.orch.crashCleanupInterval
      fleetDegraded := b.orch.fleetDegraded
      degradedSince := b.orch.degradedSince
      degradedTimer := b.orch.degradedTimer }
    process := { s.process with warnings := b.process.warnings } }

def log (evs : List Event) (s : State) : State := { s with events := evs ++ s.events }

/-- A successful call of `cluster.fork`, tracked. -/
def forked (call : ForkCall) (s : State) : State :=
  trackWorker call.cause (workerEnv s.orch.env call.envOverlay) (clusterFork call s)

/-- A replacement for `old` is forked, `old` is marked, and their recycle begins. -/
def replaceWorker (e : Host) (call : ForkCall) (old : Nat) (s : State) : State :=
  ((s.forked call).markForRecycling old).recycle e old (s.cluster.ids + 1)

def noteOnline (id : Nat) (s : State) : State :=
  { s with orch := { s.orch with onlineWorkerIds := insert id s.orch.onlineWorkerIds } }

/-- A queued restart is waiting in its backoff. -/
def inBackoff (s : State) : Bool :=
  match s.restart.frame with
  | some (.backoff ..) => true
  | _ => false

/-- The queue is abandoned after repeated fork failures. -/
def giveUp (s : State) : State :=
  ({ s with restart := { s.restart with
      emptyFleetHold := false
      pendingRestartQueue := []
      frame := some .returned
      gaveUp := true } }).setExitCode 1

end State

/-! ## Moves of one component -/

/-- Moves of the restart coordinator that fork nothing. -/
inductive QueueMove (e : Host) (s : State) : RestartCoordinator → Prop
  | pruned : QueueMove e s { s.restart with crashTracker := s.restart.crashTracker.prune s.now }
  | kicked (hf : s.restart.frame = none) :
    QueueMove e s { s.restart with restartLoopRunning := true }
  | resumed (hf : s.restart.frame = some .returned) : QueueMove e s { s.restart with frame := none }
  | dropped (entry : RestartQueueEntry) (rest : List RestartQueueEntry)
      (hq : s.restart.pendingRestartQueue = entry :: rest) (hm : s.missingWorkers e = 0) :
    QueueMove e s { s.restart with pendingRestartQueue := rest }
  | taken (entry : RestartQueueEntry) (rest : List RestartQueueEntry) (delayMs : ℚ) (since : Nat)
      (hq : s.restart.pendingRestartQueue = entry :: rest) (hm : s.missingWorkers e ≠ 0)
      (hf : s.restart.frame = none) (hr : s.restart.restartLoopRunning = true) :
    QueueMove e s { s.restart with
      pendingRestartQueue := rest, frame := some (.backoff entry delayMs since) }
  | done (hf : s.restart.frame = none)
      (h : s.isShuttingDown = true ∨ s.breakerTripped = true ∨ s.restart.pendingRestartQueue = []) :
    QueueMove e s { s.restart with
      pendingRestartQueue := [], restartLoopRunning := false, frame := none }
  | abandoned (hf : s.inBackoff = true) (h : s.isShuttingDown = true ∨ s.breakerTripped = true) :
    QueueMove e s { s.restart with frame := some .returned }
  | requeued (entry : RestartQueueEntry) (hf : s.inBackoff = true) :
    QueueMove e s { s.restart with
      pendingRestartQueue := s.restart.pendingRestartQueue ++ [entry], frame := some .returned }

/-- Moves of the roll that fork nothing. -/
inductive RollMove (e : Host) (s : State) (r : Roll) : Roll → Prop
  | skipped (old : Nat) (rest : List Nat) (hs : s.isShuttingDown = false)
      (hr : r.remaining = old :: rest) (hd : s.isDead old = true) : RollMove e s r { r with remaining := rest }
  | failed (old : Nat) (rest : List Nat) (hs : s.isShuttingDown = false)
      (hr : r.remaining = old :: rest) :
    RollMove e s r { r with remaining := rest, forkFailed := true }
  | waits (old : Nat) (rest : List Nat) (deadline : Nat) (hs : s.isShuttingDown = false)
      (hr : r.remaining = old :: rest) (hf : r.frame = .running)
      (hd : ∃ c ∈ s.recycles, c.old = old ∧
        deadline = (s.worker c.new).forkedAt + e.cfg.workerDrainBudgetMs) :
    RollMove e s r { r with remaining := rest, frame := .exitWait old deadline }
  | graced (old deadline deadline' : Nat) (hf : r.frame = .exitWait old deadline)
      (hd : s.isDead old = true ∨ (s.worker old).sent ≠ []) :
    RollMove e s r { r with frame := .exitGrace old deadline' }
  | exitSeen (old deadline : Nat)
      (h : r.frame = .exitWait old deadline ∧ s.isDead old = true ∨ r.frame = .exitGrace old deadline) :
    RollMove e s r { r with frame := .exited old }
  | counted (old deadline : Nat) (hf : r.frame = .exited old) :
    RollMove e s r { r with
      restartedWorkerIds := r.restartedWorkerIds ++ [old], frame := .stagger deadline }
  | resumed (deadline : Nat) (hf : r.frame = .stagger deadline) :
    RollMove e s r { r with frame := .running }
  | aborted (hs : s.isShuttingDown = true) (hr : r.remaining ≠ []) (hf : r.frame = .running) :
    RollMove e s r { r with frame := .returned .abortedByShutdown }
  | bailedOut (hff : r.forkFailed = true) (hf : r.frame = .running) :
    RollMove e s r { r with frame := .returned .forkBailout }
  | completed (hr : r.remaining = []) (hf : r.frame = .running) :
    RollMove e s r { r with frame := .returned .complete }

/-- Moves of a shutdown in progress. -/
inductive ShutdownMove (e : Host) (s : State) : State → Prop
  | ackSettled (workers : List Nat) (waits waits' : List (Nat × Nat))
      (hf : s.shutdown.frame = .acks workers waits) :
    ShutdownMove e s (s.setShutdownFrame (.acks workers waits'))
  | disconnected (id : Nat) : ShutdownMove e s (s.modifyWorker id (disconnectIfConnected s.now))
  | exitWait (workers : List Nat) (deadline : Nat) (hf : s.shutdown.frame = .acks workers []) :
    ShutdownMove e s (s.setShutdownFrame (.exitWait workers deadline))
  | exitWaitOver (t : State) (ht : s.exitWaitOver e = some t) : ShutdownMove e s t
  | killDelay (id : Nat) (t : State) (ht : s.killDelayElapsed e id = some t) : ShutdownMove e s t
  | callbacks (workers : List Nat) (deadline : Nat) (hf : s.shutdown.frame = .kills workers []) :
    ShutdownMove e s (s.setShutdownFrame (.callbacks deadline))
  | resolved (t : State) (ht : s.shutdownResolved = some t) : ShutdownMove e s t
  | exited (t : State) (ht : s.shutdownExitElapsed = some t) : ShutdownMove e s t

/-! ## Moves of the primary -/

/-- `call` is the call of `cluster.fork` for a replacement of `old` at `s`. -/
inductive Replaces (e : Host) (s : State) : ForkCall → Nat → Prop
  | health (old : Nat) (hm : old ∉ s.manager.recyclingWorkerIds) :
    Replaces e s ((s.markForRecycling old).forkCall e (.health old) none) old
  | roll (old : Nat) (rest : List Nat) (r : Roll) (hr : s.roll = some r)
      (hrem : r.remaining = old :: rest) :
    Replaces e s (s.forkCall e (.roll old) r.opts.env) old

/-- One elementary move, outside the segments that configure or start the fleet, handle an
exit, fire a stagger timer, reset the breaker, start or end a roll, or start a shutdown. -/
inductive Move (e : Host) : State → State → Prop
  | books (s b : State) (evs : List Event) (h : ∀ ev ∈ evs, ev.plain = true) :
    Move e s ((s.withBooks b).log evs)
  | exitCodeOne (s : State) : Move e s (s.setExitCode 1)
  | exitCodeZero (s : State) (h : s.resolveWorkerCount e ≤ s.metrics.activeWorkers) :
    Move e s (s.setExitCode 0)
  | holdReleased (s : State) (id : Nat) (h : s.alive id) : Move e s s.releaseEmptyFleetHold
  | queue (s : State) (r : RestartCoordinator) (h : QueueMove e s r) : Move e s { s with restart := r }
  | gaveUp (s : State) (hf : s.inBackoff = true) : Move e s s.giveUp
  | forkFailed (s : State) (call : ForkCall) (hs : s.isShuttingDown = false)
      (hc : call.isShuttingDown = false) (hfail : call.succeeded = false) :
    Move e s (clusterFork call s)
  | restarted (s : State) (hs : s.isShuttingDown = false) (ht : s.breakerTripped = false)
      (hf : s.inBackoff = true) (hok : (s.forkCall e .restartQueue none).succeeded = true) :
    Move e s ((s.forked (s.forkCall e .restartQueue none)).setQueueFrame (some .returned))
  | replaced (s : State) (call : ForkCall) (old : Nat) (hs : s.isShuttingDown = false)
      (ha : s.alive old) (hc : Replaces e s call old) (hok : call.succeeded = true) :
    Move e s (s.replaceWorker e call old)
  | agedMarked (s : State) (id deadline : Nat) (hs : s.isShuttingDown = false)
      (ha : s.alive id) (hm : id ∉ s.manager.recyclingWorkerIds) :
    Move e s ((s.markForRecycling id).setRecycleTimer id deadline)
  | cameOnline (s : State) (id : Nat) (ha : s.alive id) :
    Move e s (s.modifyWorker id fun w => { w with online := true })
  | onlineNoted (s : State) (id : Nat) (ha : s.alive id) : Move e s (s.noteOnline id)
  | replacementOnline (s : State) (new : Nat) (h : (s.worker new).online = true) :
    Move e s (s.modifyRecycle new fun r => { r with replacementOnline := true })
  | timers (s : State) (f : Recycle → Recycle) (hf : ∀ r ∈ s.recycles, r.Keeps (f r)) :
    Move e s { s with recycles := s.recycles.map f }
  | drained (s : State) (r : Recycle) (hr : r ∈ s.recycles) (hd : r.drained = false)
      (hs : s.isShuttingDown = false)
      (h : (s.worker r.new).online = true ∨
        r.replacementOnline = false ∧
          (s.isDead r.new = true ∨ ∃ deadline, r.drainFailsafeTimer = some deadline ∧
            deadline ≤ s.now)) :
    Move e s (s.drainOldWorker e r)
  | killed (s : State) (signal : Signal) (id : Nat)
      (h : (∃ r ∈ s.recycles, r.old = id ∧ r.escalating = true) ∨
        ∃ deadline, s.rollFrame = some (.exitWait id deadline) ∧ deadline ≤ s.now) :
    Move e s (s.kill signal id)
  | disconnected (s : State) (id : Nat) :
    Move e s (s.modifyWorker id fun w => { w with
      connected := false, listed := w.listed && !w.dead })
  | roll (s : State) (r r' : Roll) (hr : s.roll = some r) (h : RollMove e s r r') :
    Move e s { s with roll := some r' }
  | phase (s : State) (p : RunPhase)
      (h : s.orch.runPhase = .idle ∧ p = .installing ∨
        s.orch.runPhase = .installing ∧ p = .rejected) :
    Move e s (s.setRunPhase p)
  | shutdown (s t : State) (hs : s.isShuttingDown = true) (h : ShutdownMove e s t) : Move e s t

/-- A chain of moves. -/
abbrev Moves (e : Host) : State → State → Prop := Relation.ReflTransGen (Move e)

theorem Moves.preserves {e : Host} {P : State → Prop} {s t : State} (h : Moves e s t)
    (hmove : ∀ x y, P x → Move e x y → P y) (hs : P s) : P t := by
  induction h with
  | refl => exact hs
  | tail _ hm ih => exact hmove _ _ ih hm

end ClusterKit
