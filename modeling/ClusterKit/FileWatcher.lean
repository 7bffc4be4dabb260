import ClusterKit.Lib.Coalesce
import ClusterKit.Orchestrator

/-! The file-watcher plugin in the primary process: its pending fields and timers, next to
the orchestrator whose `restartWorkers()` it calls and others call too. -/

namespace ClusterKit

open Coalesce

structure FileWatcherOptions where
  debounceMs : Nat := 300
  debounceMaxWaitMs : Nat := 0
  minRestartIntervalMs : Nat := 0
  staggerMs : Nat := 1000
  reason : Option String := none
  startDelayMs : Nat := 0
  dryRun : Bool := false

structure FileWatcher where
  startDelayTimer : Option Nat := none
  debounceTimer : Option Nat := none
  maxWaitTimer : Option Nat := none
  trailingTimer : Option Nat := none
  closed : Bool := false
  pendingReason : Option String := none
  pendingEnv : Option ProcessEnv := none
  lastRestartAt : Nat := 0
  watching : Bool := false
  /-- `teardown` waits for the watchers to close. -/
  tearingDown : Bool := false

/-- What a watcher reports. -/
inductive WatchEvent where
  /-- A watched file, none of the `.env` files, was changed, added or removed. -/
  | file
  /-- A `.env` file changed; `none` when it cannot be read or parsed. -/
  | envFile (parsed : Option ProcessEnv)
  /-- The poll found another `process.env`. -/
  | processEnv (env : ProcessEnv)

/-- The primary process with the plugin. -/
structure Watched where
  primary : State
  watcher : FileWatcher := {}
  /-- *History*: changes, and the rolls that began with their overlays, newest first. -/
  log : List (Entry String (Option String)) := []

/-- `restartWorkers(opts)` passes its guards. -/
def State.startsRoll (opts : RestartOptions) (s : State) : Bool :=
  opts.env.all isSafeEnvObject && !s.isShuttingDown && s.roll.isNone

/-- A call that does not pass them does nothing. -/
theorem State.restartWorkers_eq (e : Host) (opts : RestartOptions) (s : State) :
    s.restartWorkers e opts =
      if s.startsRoll opts then
        rollWorkers e (s.targetedWorkers opts) (s.beginRoll opts (s.targetedWorkers opts))
      else s := by
  rw [restartWorkers, startsRoll]
  cases opts.env.all isSafeEnvObject <;> cases s.isShuttingDown <;> cases s.roll <;> rfl

namespace Watched

def modifyWatcher (f : FileWatcher → FileWatcher) (w : Watched) : Watched :=
  { w with watcher := f w.watcher }

/-- `restartWorkers(opts)`, called by the plugin or by anyone else. -/
def restartWorkers (e : Host) (opts : RestartOptions) (w : Watched) : Watched :=
  { w with
    primary := w.primary.restartWorkers e opts
    log := if w.primary.startsRoll opts then .handed opts.env :: w.log else w.log }

/-- The last restart is too recent. -/
def throttled (o : FileWatcherOptions) (w : Watched) : Bool :=
  decide (0 < o.minRestartIntervalMs) &&
    decide (w.primary.now - w.watcher.lastRestartAt < o.minRestartIntervalMs)

def flushRestart (e : Host) (o : FileWatcherOptions) (w : Watched) : Watched :=
  let w := w.modifyWatcher fun p =>
    { p with debounceTimer := none, maxWaitTimer := none, trailingTimer := none }
  let reason := w.watcher.pendingReason.getD "file-change"
  let env := w.watcher.pendingEnv
  if o.dryRun then w.modifyWatcher fun p => { p with pendingReason := none, pendingEnv := none }
  else if w.throttled o then
    let remaining := o.minRestartIntervalMs - (w.primary.now - w.watcher.lastRestartAt)
    w.modifyWatcher fun p => { p with trailingTimer := some (w.primary.now + remaining) }
  else
    let w := w.modifyWatcher fun p =>
      { p with pendingReason := none, pendingEnv := none, lastRestartAt := w.primary.now }
    w.restartWorkers e { env := env, staggerMs := o.staggerMs, reason := reason }

def triggerRestart (o : FileWatcherOptions) (reason : String) (env : Option ProcessEnv)
    (w : Watched) : Watched :=
  w.modifyWatcher fun p => { p with
    pendingReason := some reason
    pendingEnv := match env with
      | none => p.pendingEnv
      | some env => some (overlay (p.pendingEnv.getD fun _ => none) env)
    debounceTimer := some (w.primary.now + o.debounceMs)
    maxWaitTimer :=
      if 0 < o.debounceMaxWaitMs ∧ p.maxWaitTimer = none then
        some (w.primary.now + o.debounceMaxWaitMs)
      else p.maxWaitTimer }

def logChange (env : Option ProcessEnv) (w : Watched) : Watched :=
  { w with log := .put env :: w.log }

/-- A `.env` file that cannot be read or parsed is only reported. -/
def changed (o : FileWatcherOptions) (w : Watched) : WatchEvent → Watched
  | .file => (w.triggerRestart o (o.reason.getD "file-change") none).logChange none
  | .envFile none => w.logChange none
  | .envFile (some parsed) =>
    (w.triggerRestart o (o.reason.getD "env-change") (some parsed)).logChange (some parsed)
  | .processEnv env =>
    (w.triggerRestart o (o.reason.getD "env-change") (some env)).logChange (some env)

def startWatchers (w : Watched) : Watched :=
  if w.watcher.closed then w else w.modifyWatcher fun p => { p with watching := true }

def install (o : FileWatcherOptions) (w : Watched) : Watched :=
  let w := w.modifyWatcher fun p => { p with closed := false, lastRestartAt := 0 }
  if 0 < o.startDelayMs then
    w.modifyWatcher fun p => { p with startDelayTimer := some (w.primary.now + o.startDelayMs) }
  else w.startWatchers

/-- `teardown` up to the close of the watchers. -/
def teardown (w : Watched) : Watched :=
  w.modifyWatcher fun p => { p with closed := true, startDelayTimer := none, tearingDown := true }

/-- The rest of `teardown`; the pending fields stay. -/
def tornDown (w : Watched) : Watched :=
  w.modifyWatcher fun p => { p with
    debounceTimer := none
    maxWaitTimer := none
    trailingTimer := none
    watching := false
    tearingDown := false }

def due (timer : Option Nat) (w : Watched) : Bool :=
  timer.any fun deadline => decide (deadline ≤ w.primary.now)

end Watched

inductive WatchAction where
  /-- Anything that happens to the orchestrator. -/
  | primary (a : Action)
  | install
  | startDelay
  | changed (event : WatchEvent)
  | debounce
  | maxWait
  | trailing
  | teardown
  | tornDown

namespace Watched

def act (e : Host) (o : FileWatcherOptions) (w : Watched) : WatchAction → Option Watched
  | .primary (.restartWorkers opts) => some (w.restartWorkers e opts)
  | .primary a => (w.primary.act e a).map fun s => { w with primary := s }
  | .install => if w.primary.orch.runPhase = .installing then some (w.install o) else none
  | .startDelay =>
    if w.due w.watcher.startDelayTimer then
      some ((w.modifyWatcher fun p => { p with startDelayTimer := none }).startWatchers)
    else none
  | .changed event => if w.watcher.watching then some (w.changed o event) else none
  | .debounce => if w.due w.watcher.debounceTimer then some (w.flushRestart e o) else none
  | .maxWait => if w.due w.watcher.maxWaitTimer then some (w.flushRestart e o) else none
  | .trailing => if w.due w.watcher.trailingTimer then some (w.flushRestart e o) else none
  | .teardown => some w.teardown
  | .tornDown => if w.watcher.tearingDown then some w.tornDown else none

end Watched

def Watched.initial (e : Host) (count : WorkerCount) (env : ProcessEnv) : Watched :=
  { primary := State.initial e count env }

/-- The primary with the plugin as a step system. -/
def watchedOrchestrator (e : Host) (count : WorkerCount) (env : ProcessEnv)
    (o : FileWatcherOptions) : StepSystem Watched WatchAction where
  init := Watched.initial e count env
  step w a := if w.primary.process.exited then none else w.act e o a

end ClusterKit
