import ClusterKit.Config
import ClusterKit.CrashTracker
import ClusterKit.Lib.OrdMap
import ClusterKit.Lib.StepSystem
import Mathlib.Logic.Function.Basic
import Mathlib.Order.Interval.Finset.Nat

/-! The state of one orchestrator in the primary process: the cluster module's
workers, the private fields of the services, and the suspended frames of their
async functions. A field of type `Option Nat` named after a timer holds the
deadline of the armed timer. Fields marked *history* are written and never read
by the code that is modelled. -/

namespace ClusterKit

/-! ## Workers -/

inductive Signal where
  | SIGTERM | SIGINT | SIGKILL
  deriving DecidableEq

/-- What the primary did to a worker process. -/
inductive Sent where
  | shutdownMessage
  | disconnect
  | kill (signal : Signal)
  deriving DecidableEq

/-- Which path asked for a fork. -/
inductive ForkCause where
  | initial
  | restartQueue
  | aged (old : Nat)
  | health (old : Nat)
  | roll (old : Nat)
  deriving DecidableEq

/-- A `cluster.Worker` as the primary sees it. `listed`: it is in `cluster.workers`. -/
structure Worker where
  env : ProcessEnv := fun _ => none
  online : Bool := false
  dead : Bool := false
  connected : Bool := true
  listed : Bool := true
  exitedAfterDisconnect : Bool := false
  /-- *History*: who asked for it, and when it was forked. -/
  cause : ForkCause := .initial
  forkedAt : Nat := 0
  /-- *History*: what was sent to the process and when, newest first. -/
  sent : List (Sent × Nat) := []

/-- The record of an id that was never forked. -/
def Worker.unforked : Worker := { dead := true, connected := false, listed := false }

/-- Node's `Worker.disconnect()` in the primary. -/
def Worker.disconnect (now : Nat) (w : Worker) : Worker :=
  { w with exitedAfterDisconnect := true, listed := false, sent := (.disconnect, now) :: w.sent }

def Worker.send (now : Nat) (w : Worker) : Worker :=
  { w with sent := (.shutdownMessage, now) :: w.sent }

def Worker.kill (signal : Signal) (now : Nat) (w : Worker) : Worker :=
  { w with sent := (.kill signal, now) :: w.sent }

/-- *History*: one call of `cluster.fork`, with what held when it was made. -/
structure ForkCall where
  cause : ForkCause
  envOverlay : Option ProcessEnv
  succeeded : Bool
  isShuttingDown : Bool
  target : Nat
  activeWorkers : Nat
  recyclingWorkerIds : Finset Nat

structure Cluster where
  /-- The last id given out; ids start at 1. -/
  ids : Nat := 0
  workers : Nat → Worker := fun _ => Worker.unforked
  /-- *History*: newest first. -/
  forkCalls : List ForkCall := []

def Cluster.modify (c : Cluster) (id : Nat) (f : Worker → Worker) : Cluster :=
  { c with workers := Function.update c.workers id (f (c.workers id)) }

/-! ## Services -/

structure WorkerMetrics where
  workerRestarts : Nat := 0
  activeWorkers : Nat := 0
  crashLoopBackoffs : Nat := 0
  gracefulShutdowns : Nat := 0
  forcedKills : Nat := 0

structure WorkerManager where
  workerStartTimes : OrdMap Nat := .empty
  recyclingWorkerIds : Finset Nat := ∅
  pendingRecycleTimers : OrdMap Nat := .empty
  recycleInterval : Option Nat := none
  /-- Its cluster listeners are removed. -/
  disposed : Bool := false

inductive RestartQueueEntry where
  | refill
  | crash (workerId : Nat) (code : Option Int) (signal : Option String)
  deriving DecidableEq

/-- Where `processRestartQueue` is suspended. -/
inductive QueueFrame where
  /-- In the backoff wait of `restartWorkerWithBackoff`, entered at `since`. -/
  | backoff (entry : RestartQueueEntry) (delayMs : ℚ) (since : Nat)
  /-- `restartWorkerWithBackoff` returned, the loop's continuation is queued. -/
  | returned

/-- *History*: one slot given up by the quarantine, with what held at that moment. -/
structure Quarantine where
  onlineWorkerIds : Finset Nat
  recyclingWorkerIds : Finset Nat

structure RestartCoordinator where
  crashTracker : CrashTracker
  restartLoopRunning : Bool := false
  frame : Option QueueFrame := none
  pendingRestartQueue : List RestartQueueEntry := []
  restartBackoffDelay : ℚ := 0
  backoffResetTimer : Option Nat := none
  consecutiveForkFailures : Nat := 0
  consecutiveBootFailures : Nat := 0
  quarantinedSlots : Nat := 0
  breakerWarningEmitted : Bool := false
  emptyFleetHold : Bool := false
  /-- *History*: the breaker tripped since the last `reset()`. -/
  trippedSinceReset : Bool := false
  /-- *History*: the queue was abandoned after repeated fork failures. -/
  gaveUp : Bool := false
  /-- *History*: newest first. -/
  quarantines : List Quarantine := []

/-- The closure state of one `DrainCoordinator.recycle(old, new)`. -/
structure Recycle where
  old : Nat
  new : Nat
  replacementOnline : Bool := false
  drained : Bool := false
  drainFailsafeTimer : Option Nat
  forceKillTimer : Option Nat := none
  sigkillTimer : Option Nat := none

inductive RollOutcome where
  | complete | abortedByShutdown | forkBailout
  deriving DecidableEq

/-- Where `restartWorkers` is suspended. -/
inductive RollFrame where
  /-- On the stack, not suspended. -/
  | running
  /-- `awaitBoundedWorkerExit`: its `waitTimer` is armed. -/
  | exitWait (old deadline : Nat)
  /-- `awaitBoundedWorkerExit`: SIGKILL sent, its `graceTimer` is armed. -/
  | exitGrace (old deadline : Nat)
  /-- `awaitBoundedWorkerExit` resolved, the loop's continuation is queued. -/
  | exited (old : Nat)
  | stagger (deadline : Nat)
  /-- `rollWorkers` returned, the continuation of `restartWorkers` is queued. -/
  | returned (outcome : RollOutcome)
  deriving DecidableEq

structure RestartOptions where
  env : Option ProcessEnv := none
  filter : Option (Nat → Bool) := none
  staggerMs : Nat := 1000
  reason : String := "manual"

structure Roll where
  opts : RestartOptions
  /-- Targeted workers whose turn is still to come. -/
  remaining : List Nat
  restartedWorkerIds : List Nat := []
  frame : RollFrame
  /-- *History*: a fork of this roll failed. -/
  forkFailed : Bool := false
  /-- *History*: quarantined slots forgotten when it began. -/
  clearedQuarantine : Nat := 0

inductive KillStage where
  | afterSigterm (deadline : Nat)
  | afterSigint (deadline : Nat)
  deriving DecidableEq

/-- Where `shutdownPrimary` is suspended. `workers` is the snapshot it works on. -/
inductive ShutdownFrame where
  | idle
  | acks (workers : List Nat) (waits : List (Nat × Nat))
  | exitWait (workers : List Nat) (deadline : Nat)
  | kills (workers : List Nat) (stages : List (Nat × KillStage))
  | callbacks (deadline : Nat)
  | resolved
  deriving DecidableEq

structure ShutdownCoordinator where
  isShuttingDown : Bool := false
  frame : ShutdownFrame := .idle
  /-- *History*: the last worker id given out when the shutdown was entered. -/
  forkedBefore : Nat := 0

structure WorkerHealthReport where
  workerId : Nat
  rss : Int
  heapUsed : Int
  eventLoopLagMs : Int
  deriving DecidableEq

structure HealthMonitor where
  registry : OrdMap (Nat × WorkerHealthReport) := .empty
  rssRecycled : Finset Nat := ∅
  lagRecycled : Finset Nat := ∅
  lagBeats : OrdMap Nat := .empty
  exitedWorkerIds : Finset Nat := ∅
  wedgedTimer : Option Nat := none

inductive RecycleReason where
  | maxAge | rss | wedged | lag
  deriving DecidableEq

/-- How far `run()` got in the primary. -/
inductive RunPhase where
  | idle | installing | started | rejected
  deriving DecidableEq

/-- The orchestrator's own fields, with `cfg.workers.count` and `cfg.workers.env`. -/
structure Orchestrator where
  count : WorkerCount := .auto
  env : ProcessEnv := fun _ => none
  runPhase : RunPhase := .idle
  hasForked : Bool := false
  ready : Bool := true
  recycleReasons : OrdMap RecycleReason := .empty
  onlineWorkerIds : Finset Nat := ∅
  crashCleanupInterval : Option Nat := none
  fleetDegraded : Bool := false
  degradedSince : Nat := 0
  degradedTimer : Option Nat := none

inductive Event where
  | workerOnline (workerId : Nat)
  | workerExit (workerId : Nat) (code : Option Int) (signal : Option String) (graceful : Bool)
  | workerCrash (workerId : Nat) (code : Option Int) (signal : Option String)
  | workerRestart (newWorkerId : Nat)
  | workerDraining (workerId : Nat) (reason : RecycleReason)
  | workerRecycle (workerId ageMs : Nat) (reason : RecycleReason)
  | workerHealth (report : WorkerHealthReport)
  | workerWedged (workerId silentMs : Nat)
  | workerQuarantined (consecutiveBootFailures : Nat)
  | shutdownStart (signal : String)
  | shutdownComplete (metrics : WorkerMetrics)
  | circuitBreakerTripped (crashCount windowMs : Nat)
  | restartStart (reason : String) (workerIds : List Nat)
  | restartComplete (restartedWorkerIds : List Nat) (reason : String)
  | fleetDegraded (target active : Nat)
  | fleetRecovered (target active degradedDurationMs : Nat)

/-- The globals of the primary process. -/
structure Process where
  exitCode : Nat := 0
  /-- Types of the warnings emitted, newest first. -/
  warnings : List String := []
  exited : Bool := false

structure State where
  now : Nat := 0
  cluster : Cluster := {}
  metrics : WorkerMetrics := {}
  manager : WorkerManager := {}
  restart : RestartCoordinator
  recycles : List Recycle := []
  roll : Option Roll := none
  shutdown : ShutdownCoordinator := {}
  health : HealthMonitor := {}
  orch : Orchestrator := {}
  process : Process := {}
  /-- Emitted events, newest first. -/
  events : List Event := []

namespace State

def emit (event : Event) (s : State) : State := { s with events := event :: s.events }

def worker (s : State) (id : Nat) : Worker := s.cluster.workers id

def isDead (s : State) (id : Nat) : Bool := (s.worker id).dead

def isShuttingDown (s : State) : Bool := s.shutdown.isShuttingDown

/-- Ids forked so far whose process is alive. -/
def alive (s : State) (id : Nat) : Prop := s.isDead id = false

/-- Something was sent to the process that asks it to go. -/
def drainSent (s : State) (id : Nat) : Prop := (s.worker id).sent ≠ []

def isOnline (s : State) (id : Nat) : Prop := (s.worker id).online = true

instance (s : State) (id : Nat) : Decidable (s.alive id) := inferInstanceAs (Decidable (_ = _))

instance (s : State) (id : Nat) : Decidable (s.drainSent id) := inferInstanceAs (Decidable (_ ≠ _))

instance (s : State) (id : Nat) : Decidable (s.isOnline id) := inferInstanceAs (Decidable (_ = _))

def workerIds (s : State) : Finset Nat := Finset.Icc 1 s.cluster.ids

end State

def RestartCoordinator.initial (e : Host) : RestartCoordinator :=
  { crashTracker :=
      { threshold := e.cfg.restart.crashThreshold, windowMs := e.cfg.restart.crashWindowMs } }

/-- A fresh orchestrator, before any call. -/
def State.initial (e : Host) (count : WorkerCount) (env : ProcessEnv) : State :=
  { restart := .initial e, orch := { count := count, env := env } }

end ClusterKit
