import ClusterKit.HealthMonitor

/-! The worker's side: `runWorker`, `startWorker` with its `handleShutdown`, and the
reporting half of `HealthMonitor`. A step is one synchronous segment, cut at each call of
a shutdown callback, which is the application's code. Node keeps IPC messages back until
somebody listens, and a signal that nobody handles kills the process. -/

namespace ClusterKit

deriving instance DecidableEq for Message

/-! ## Message types -/

namespace ShutdownConfig

def shutdownType (cfg : ShutdownConfig) : String := cfg.messagePrefix ++ ":shutdown"

def shutdownAckType (cfg : ShutdownConfig) : String := cfg.messagePrefix ++ ":shutdown-ack"

def heartbeatType (cfg : ShutdownConfig) : String := cfg.messagePrefix ++ ":hb"

variable (cfg : ShutdownConfig)

theorem heartbeatType_ne_shutdownAckType : cfg.heartbeatType ≠ cfg.shutdownAckType := by
  simp [heartbeatType, shutdownAckType]

end ShutdownConfig

/-! ## State -/

/-- How the process of a worker ended. -/
inductive ProcessEnd where
  /-- `process.exit(0)` once `handleShutdown` was through. -/
  | shutdownComplete
  /-- `process.exit(1)` by the exit timer. -/
  | forcedExit
  /-- Node's own `process.exit(0)` when the channel closes unasked. -/
  | channelLost
  | killed (signal : Signal)
  /-- The application: its event loop drained, it threw, or it called `process.exit`. -/
  | application (code : Option Int)
  deriving DecidableEq

/-- Where `handleShutdown` stands. -/
inductive WorkerFrame where
  | idle
  /-- On the stack, about to take the callback `next`. -/
  | calling (signal : String) (next : Nat)
  /-- Awaiting what the callback before `next` returned. -/
  | awaiting (signal : String) (next : Nat)
  /-- `runShutdownCallbacks` returned, the continuation is queued. -/
  | returned
  deriving DecidableEq

structure WorkerProcess where
  runPhase : RunPhase := .idle
  connected : Bool := true
  ready : Bool := true
  /-- How many callbacks are registered. -/
  shutdownCallbacks : Nat := 0
  localShutdownInProgress : Bool := false
  frame : WorkerFrame := .idle
  exitTimer : Option Nat := none
  reportTimer : Option Nat := none
  lastBeat : Nat := 0
  ended : Option ProcessEnd := none
  /-- *History*: the signal that began the shutdown, and when. -/
  began : Option (String × Nat) := none
  /-- *History*: the callbacks called and the argument of each, oldest first. -/
  calls : List (Nat × String) := []
  /-- *History*: what was sent to the primary and when, newest first. -/
  sent : List (Message × Nat) := []

inductive WorkerAction where
  | run
  | pluginsInstalled
  | pluginInstallFailed
  | registerOnShutdown
  | setReady
  | setNotReady
  | applicationSends (msg : Message)
  | applicationEnds (code : Option Int)
  | message (msg : Option Message)
  | signal (signal : Signal)
  | disconnected (asked : Bool)
  | report (rss heapUsed : Int)
  /-- The loop calls its next callback, which may throw at once and may register others. -/
  | callNext (throws : Bool) (registers : Nat)
  | callsOver
  | callbackSettled
  | callbacksReturned
  | exitElapsed

/-- The name a POSIX handler passes on. -/
def Signal.name : Signal → String
  | .SIGTERM => "SIGTERM"
  | .SIGINT => "SIGINT"
  | .SIGKILL => "SIGKILL"

namespace WorkerProcess

/-! ## Heartbeats and messages -/

/-- `process.send(msg)`; on a closed channel nothing is sent. Node then reports an `'error'` that
nobody handles, and the worker ends: that is `applicationEnds (some 1)`. -/
def send (now : Nat) (msg : Message) (p : WorkerProcess) : WorkerProcess :=
  if p.connected then { p with sent := (msg, now) :: p.sent } else p

/-- `HealthMonitor.startWorkerReporting()` -/
def startWorkerReporting (cfg : ResolvedConfig) (now : Nat) (p : WorkerProcess) : WorkerProcess :=
  if cfg.health.heartbeatMs = 0 then p
  else { p with lastBeat := now, reportTimer := some (now + cfg.health.heartbeatMs) }

/-- `HealthMonitor.stopWorkerReporting()` -/
def stopWorkerReporting (p : WorkerProcess) : WorkerProcess := { p with reportTimer := none }

/-- The report that goes out at `now`; the subtraction is the source's `Math.max(0, ...)`. -/
def heartbeat (cfg : ResolvedConfig) (now : Nat) (rss heapUsed : Int) (p : WorkerProcess) :
    Message where
  type := cfg.shutdown.heartbeatType
  rss := some rss
  heapUsed := some heapUsed
  eventLoopLagMs := some ((now - p.lastBeat - cfg.health.heartbeatMs : Nat) : Int)

/-- The callback of `reportTimer`. -/
def report (cfg : ResolvedConfig) (now : Nat) (rss heapUsed : Int) (p : WorkerProcess) :
    Option WorkerProcess :=
  match p.reportTimer with
  | none => none
  | some due =>
    if due ≤ now then
      let msg := p.heartbeat cfg now rss heapUsed
      some ({ p with
        lastBeat := now, reportTimer := some (now + cfg.health.heartbeatMs) }.send now msg)
    else none

/-! ## Shutdown -/

/-- `handleShutdown(signal)` up to its first callback. -/
def handleShutdown (cfg : ResolvedConfig) (now : Nat) (signal : String) (p : WorkerProcess) :
    WorkerProcess :=
  let p := p.stopWorkerReporting
  if p.localShutdownInProgress then p
  else
    { p with
      localShutdownInProgress := true
      ready := false
      exitTimer := some (now + cfg.shutdown.timeoutMs)
      frame := .calling signal 0
      began := some (signal, now) }

/-- The `message` listener. -/
def onMessage (cfg : ResolvedConfig) (now : Nat) (msg : Option Message) (p : WorkerProcess) :
    WorkerProcess :=
  if isTypedMessage msg cfg.shutdown.shutdownType then
    (p.send now { type := cfg.shutdown.shutdownAckType }).handleShutdown cfg now "IPC"
  else p

/-- A turn of the loop of `runShutdownCallbacks`. -/
def callNext (throws : Bool) (registers : Nat) (p : WorkerProcess) : Option WorkerProcess :=
  match p.frame with
  | .calling signal next =>
    if next < p.shutdownCallbacks then
      some { p with
        shutdownCallbacks := p.shutdownCallbacks + registers
        calls := p.calls ++ [(next, signal)]
        frame := if throws then .calling signal (next + 1) else .awaiting signal (next + 1) }
    else none
  | _ => none

/-- The loop finds no further callback. -/
def callsOver (p : WorkerProcess) : Option WorkerProcess :=
  match p.frame with
  | .calling _ next =>
    if next < p.shutdownCallbacks then none else some { p with frame := .returned }
  | _ => none

/-- What a callback returned settled, fulfilled or rejected; the loop goes on. -/
def callbackSettled (p : WorkerProcess) : Option WorkerProcess :=
  match p.frame with
  | .awaiting signal next => some { p with frame := .calling signal next }
  | _ => none

/-- The `finally` of `handleShutdown`. -/
def callbacksReturned (p : WorkerProcess) : Option WorkerProcess :=
  match p.frame with
  | .returned => some { p with exitTimer := none, ended := some .shutdownComplete }
  | _ => none

/-- The callback of `exitTimer`. -/
def exitElapsed (now : Nat) (p : WorkerProcess) : Option WorkerProcess :=
  match p.exitTimer with
  | none => none
  | some deadline => if deadline ≤ now then some { p with ended := some .forcedExit } else none

/-! ## Steps -/

/-- `startWorker` has attached its listeners. -/
def listening (p : WorkerProcess) : Bool := decide (p.runPhase = .started)

/-- The loop of `runShutdownCallbacks` holds the event loop. -/
def busy (p : WorkerProcess) : Bool :=
  match p.frame with
  | .calling .. => true
  | _ => false


/-- What can happen while it does: its own turns, what a callback does by itself, and what
the kernel does. -/
def interrupts : WorkerAction → Bool
  | .callNext .. => true
  | .callsOver => true
  | .applicationSends _ => true
  | .applicationEnds _ => true
  | .signal .SIGKILL => true
  | _ => false

/-- The types of the orchestrator's own messages, which an application leaves alone. -/
def isReserved (cfg : ResolvedConfig) (type : String) : Bool :=
  decide (type = cfg.shutdown.shutdownAckType) || decide (type = cfg.shutdown.heartbeatType)

def onSignal (cfg : ResolvedConfig) (now : Nat) (signal : Signal) (p : WorkerProcess) :
    WorkerProcess :=
  if p.listening && decide (signal ≠ .SIGKILL) then p.handleShutdown cfg now signal.name
  else { p with ended := some (.killed signal) }

def act (cfg : ResolvedConfig) (now : Nat) (p : WorkerProcess) : WorkerAction → Option WorkerProcess
  | .run => some (if p.runPhase = .idle then { p with runPhase := .installing } else p)
  | .pluginsInstalled =>
    if p.runPhase = .installing then
      some ({ p with runPhase := .started }.startWorkerReporting cfg now)
    else none
  | .pluginInstallFailed =>
    if p.runPhase = .installing then some { p with runPhase := .rejected } else none
  | .registerOnShutdown => some { p with shutdownCallbacks := p.shutdownCallbacks + 1 }
  | .setReady => some (if p.localShutdownInProgress then p else { p with ready := true })
  | .setNotReady => some { p with ready := false }
  | .applicationSends msg => if isReserved cfg msg.type then none else some (p.send now msg)
  | .applicationEnds code => some { p with ended := some (.application code) }
  | .message msg => if p.connected && p.listening then some (p.onMessage cfg now msg) else none
  | .signal signal => some (p.onSignal cfg now signal)
  | .disconnected asked =>
    if p.connected then
      some (if asked then { p with connected := false }
        else { p with connected := false, ended := some .channelLost })
    else none
  | .report rss heapUsed => p.report cfg now rss heapUsed
  | .callNext throws registers => p.callNext throws registers
  | .callsOver => p.callsOver
  | .callbackSettled => p.callbackSettled
  | .callbacksReturned => p.callbacksReturned
  | .exitElapsed => p.exitElapsed now

/-- A step of a process that has not ended. -/
def step (cfg : ResolvedConfig) (now : Nat) (p : WorkerProcess) (a : WorkerAction) :
    Option WorkerProcess :=
  if p.ended.isSome || p.busy && !interrupts a then none else p.act cfg now a

end WorkerProcess

/-- A worker process next to the clock. -/
structure ClockedWorker where
  now : Nat := 0
  process : WorkerProcess := {}

inductive WorkerInput where
  | tick (ms : Nat)
  | act (a : WorkerAction)

def workerProcess (cfg : ResolvedConfig) : StepSystem ClockedWorker WorkerInput where
  init := {}
  step
    | x, .tick ms => some { x with now := x.now + ms }
    | x, .act a => (x.process.step cfg x.now a).map fun p => { x with process := p }

end ClusterKit
