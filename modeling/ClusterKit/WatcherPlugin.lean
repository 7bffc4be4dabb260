import ClusterKit.WatchedChanges
import ClusterKit.Lib.Observer

/-! The file-watcher plugin by itself: its variables, the watchers and intervals that its
installations started, and the teardowns that wait for watchers to close. What it asks of
an orchestrator is an output, and whoever installs it chooses what happens next. -/

namespace ClusterKit

open Coalesce

/-! ## The closures over the plugin's variables -/

namespace FileWatcher

/-- The last restart is too recent. -/
def throttled (o : FileWatcherOptions) (now : Nat) (p : FileWatcher) : Bool :=
  decide (0 < o.minRestartIntervalMs) && decide (now - p.lastRestartAt < o.minRestartIntervalMs)

def clearFlushTimers (p : FileWatcher) : FileWatcher :=
  { p with debounceTimer := none, maxWaitTimer := none, trailingTimer := none }

/-- What `flushRestart` asks of the orchestrator. -/
def flushCall (o : FileWatcherOptions) (now : Nat) (p : FileWatcher) : Option RestartOptions :=
  if o.dryRun || p.throttled o now then none
  else some {
    env := p.pendingEnv, staggerMs := o.staggerMs, reason := p.pendingReason.getD "file-change" }

def flushRestart (o : FileWatcherOptions) (now : Nat) (p : FileWatcher) : FileWatcher :=
  let p := p.clearFlushTimers
  if o.dryRun then { p with pendingReason := none, pendingEnv := none }
  else if p.throttled o now then
    let remaining := o.minRestartIntervalMs - (now - p.lastRestartAt)
    { p with trailingTimer := some (now + remaining) }
  else { p with pendingReason := none, pendingEnv := none, lastRestartAt := now }

def triggerRestart (o : FileWatcherOptions) (now : Nat) (reason : String)
    (env : Option ProcessEnv) (p : FileWatcher) : FileWatcher :=
  { p with
    pendingReason := some reason
    pendingEnv := match env with
      | none => p.pendingEnv
      | some env => some (overlay (p.pendingEnv.getD fun _ => none) env)
    debounceTimer := some (now + o.debounceMs)
    maxWaitTimer :=
      if 0 < o.debounceMaxWaitMs ∧ p.maxWaitTimer = none then some (now + o.debounceMaxWaitMs)
      else p.maxWaitTimer }

/-- A `.env` file that cannot be read or parsed is only reported. -/
def changed (o : FileWatcherOptions) (now : Nat) (p : FileWatcher) : WatchEvent → FileWatcher
  | .file => p.triggerRestart o now (o.reason.getD "file-change") none
  | .envFile none => p
  | .envFile (some parsed) => p.triggerRestart o now (o.reason.getD "env-change") (some parsed)
  | .processEnv env => p.triggerRestart o now (o.reason.getD "env-change") (some env)

/-- `install` up to the start of the watchers. -/
def reopen (p : FileWatcher) : FileWatcher :=
  { p with closed := false, lastRestartAt := 0 }

/-- `teardown` up to the close of the watchers. -/
def teardown (p : FileWatcher) : FileWatcher :=
  { p with closed := true, startDelayTimer := none, tearingDown := true }

/-- The rest of `teardown`; the pending fields stay. -/
def tornDown (p : FileWatcher) : FileWatcher :=
  { p with
    debounceTimer := none
    maxWaitTimer := none
    trailingTimer := none
    watching := false
    tearingDown := false }

/-- The timers whose callback is `flushRestart`. -/
def flushTimers (p : FileWatcher) : List Nat :=
  p.debounceTimer.toList ++ p.maxWaitTimer.toList ++ p.trailingTimer.toList

end FileWatcher

/-! ## They are what runs next to the orchestrator -/

namespace Watched

/-- A flush calls `restartWorkers()` with what `flushCall` says and does nothing else to
the orchestrator. -/
theorem flushRestart_eq (e : Host) (o : FileWatcherOptions) (w : Watched) :
    w.flushRestart e o =
      match w.watcher.flushCall o w.primary.now with
      | none => { w with watcher := w.watcher.flushRestart o w.primary.now }
      | some opts =>
        { w with watcher := w.watcher.flushRestart o w.primary.now }.restartWorkers e opts := by
  have hsame : (w.modifyWatcher FileWatcher.clearFlushTimers).throttled o =
      w.watcher.throttled o w.primary.now := rfl
  unfold FileWatcher.flushRestart FileWatcher.flushCall
  cases hdry : o.dryRun with
  | true =>
    unfold flushRestart
    rw [hdry]
    rfl
  | false =>
    cases ht : w.watcher.throttled o w.primary.now with
    | true =>
      have ht' : w.watcher.clearFlushTimers.throttled o w.primary.now = true := ht
      unfold flushRestart
      simp only [hdry, ht', Bool.or_true, Bool.false_eq_true, if_false, if_true]
      exact if_pos (hsame.trans ht)
    | false =>
      have ht' : w.watcher.clearFlushTimers.throttled o w.primary.now = false := ht
      unfold flushRestart
      simp only [hdry, ht', Bool.or_self, Bool.false_eq_true, if_false]
      exact if_neg (by rw [Bool.not_eq_true]; exact hsame.trans ht)

theorem changed_watcher (o : FileWatcherOptions) (w : Watched) (event : WatchEvent) :
    (w.changed o event).watcher = w.watcher.changed o w.primary.now event := by
  cases event with
  | file => rfl
  | envFile parsed => cases parsed <;> rfl
  | processEnv env => rfl

theorem teardown_watcher (w : Watched) : w.teardown.watcher = w.watcher.teardown := rfl

theorem tornDown_watcher (w : Watched) : w.tornDown.watcher = w.watcher.tornDown := rfl

end Watched

/-! ## Watchers, intervals and teardowns -/

inductive WatchSource where
  | files
  | envFiles
  | pollEnv
  deriving DecidableEq

/-- A watcher or an interval, by the installation that started it. -/
structure WatchHandle where
  installation : Nat
  source : WatchSource
  deriving DecidableEq

structure WatchOptions extends FileWatcherOptions where
  watch : List String := []
  envFile : List String := []
  pollEnv : Bool := false

/-- A callback `startWatchers` of an installation that waits for its delay. -/
structure StartDelay where
  deadline : Nat
  installation : Nat
  deriving DecidableEq

structure WatcherPlugin where
  now : Nat := 0
  slots : FileWatcher := {}
  /-- The installation that began last. -/
  installation : Nat := 0
  watchers : List WatchHandle := []
  envPollInterval : Option WatchHandle := none
  /-- What still runs and no variable refers to. -/
  lost : List WatchHandle := []
  lostStartDelays : List StartDelay := []
  /-- The teardowns that wait, each with the watchers it closes. -/
  teardowns : List (List WatchHandle) := []

inductive FlushTimer where
  | debounce
  | maxWait
  | trailing
  deriving DecidableEq

inductive WatcherAction where
  | tick (ms : Nat)
  /-- `install()`; `n` is a name for it, and the watchers of `failed` throw. -/
  | install (n : Nat) (failed : List WatchSource)
  | startDelay (failed : List WatchSource)
  | lostStartDelay (timer : StartDelay) (failed : List WatchSource)
  | changed (handle : WatchHandle) (event : WatchEvent)
  | flush (timer : FlushTimer)
  /-- `uninstall()` or the shutdown hook. -/
  | teardown
  /-- The watchers of a teardown have closed. -/
  | closed (watchers : List WatchHandle)
  /-- A watcher of a teardown rejects its close. -/
  | closeFailed (watchers : List WatchHandle)

/-- Which source reports an event. -/
def WatchEvent.source : WatchEvent → WatchSource
  | .file => .files
  | .envFile _ => .envFiles
  | .processEnv _ => .pollEnv

def FileWatcher.flushTimer (p : FileWatcher) : FlushTimer → Option Nat
  | .debounce => p.debounceTimer
  | .maxWait => p.maxWaitTimer
  | .trailing => p.trailingTimer

namespace WatcherPlugin

/-- Everything that runs. -/
def running (p : WatcherPlugin) : List WatchHandle :=
  p.watchers ++ p.envPollInterval.toList ++ p.lost

/-- A name is taken while something of its installation is left. -/
def namesInUse (p : WatcherPlugin) : List Nat :=
  (p.running ++ p.teardowns.flatten).map (·.installation) ++
    p.lostStartDelays.map (·.installation) ++
    p.slots.startDelayTimer.toList.map fun _ => p.installation

def modify (f : FileWatcher → FileWatcher) (p : WatcherPlugin) : WatcherPlugin :=
  { p with slots := f p.slots }

/-- The watchers that `startWatchers` pushes. -/
def startedWatchers (o : WatchOptions) (n : Nat) (failed : List WatchSource) : List WatchHandle :=
  (if o.watch ≠ [] ∧ .files ∉ failed then [⟨n, .files⟩] else []) ++
    if o.envFile ≠ [] ∧ .envFiles ∉ failed then [⟨n, .envFiles⟩] else []

def startWatchers (o : WatchOptions) (n : Nat) (failed : List WatchSource) (p : WatcherPlugin) :
    WatcherPlugin :=
  if p.slots.closed then p
  else
    { p with
      slots := { p.slots with watching := true }
      watchers := p.watchers ++ startedWatchers o n failed
      envPollInterval := if o.pollEnv then some ⟨n, .pollEnv⟩ else p.envPollInterval
      lost := if o.pollEnv then p.lost ++ p.envPollInterval.toList else p.lost }

/-- An armed timer that the variable held before keeps running. -/
def armStartDelay (o : WatchOptions) (n : Nat) (p : WatcherPlugin) : WatcherPlugin :=
  { p with
    slots := { p.slots with startDelayTimer := some (p.now + o.startDelayMs) }
    installation := n
    lostStartDelays := p.lostStartDelays ++
      p.slots.startDelayTimer.toList.map fun deadline => ⟨deadline, p.installation⟩ }

def install (o : WatchOptions) (n : Nat) (failed : List WatchSource) (p : WatcherPlugin) :
    WatcherPlugin :=
  let p := p.modify FileWatcher.reopen
  if 0 < o.startDelayMs then p.armStartDelay o n
  else { p with installation := n }.startWatchers o n failed

def teardown (p : WatcherPlugin) : WatcherPlugin :=
  { p with slots := p.slots.teardown, teardowns := p.teardowns ++ [p.watchers] }

/-- Watchers that were pushed while the teardown waited are dropped and stay open. -/
def tornDown (watchers : List WatchHandle) (p : WatcherPlugin) : WatcherPlugin :=
  { p with
    slots := p.slots.tornDown
    watchers := []
    envPollInterval := none
    lost := (p.lost ++ p.watchers).filter (· ∉ watchers)
    teardowns := p.teardowns.erase watchers }

def due (timer : Option Nat) (p : WatcherPlugin) : Bool :=
  timer.any fun deadline => decide (deadline ≤ p.now)

def act (o : WatchOptions) (p : WatcherPlugin) : WatcherAction → Option WatcherPlugin
  | .tick ms => some { p with now := p.now + ms }
  | .install n failed => if n ∈ p.namesInUse then none else some (p.install o n failed)
  | .startDelay failed =>
    if p.due p.slots.startDelayTimer then
      some ((p.modify fun v => { v with startDelayTimer := none }).startWatchers o p.installation
        failed)
    else none
  | .lostStartDelay timer failed =>
    if timer ∈ p.lostStartDelays ∧ timer.deadline ≤ p.now then
      some ({ p with lostStartDelays := p.lostStartDelays.erase timer }.startWatchers o
        timer.installation failed)
    else none
  | .changed handle event =>
    if handle ∈ p.running ∧ handle.source = event.source then
      some (p.modify fun v => v.changed o.toFileWatcherOptions p.now event)
    else none
  | .flush timer =>
    if p.due (p.slots.flushTimer timer) then
      some (p.modify (FileWatcher.flushRestart o.toFileWatcherOptions p.now))
    else none
  | .teardown => some p.teardown
  | .closed watchers =>
    if watchers ∈ p.teardowns then some (p.tornDown watchers) else none
  | .closeFailed watchers =>
    if watchers ∈ p.teardowns ∧ watchers ≠ [] then
      some { p with teardowns := p.teardowns.erase watchers }
    else none

/-- The call of `restartWorkers()` that a step makes. -/
def callOf (o : WatchOptions) (p : WatcherPlugin) : WatcherAction → Option RestartOptions
  | .flush _ => p.slots.flushCall o.toFileWatcherOptions p.now
  | _ => none

end WatcherPlugin

/-- A newly created plugin as a step system. -/
def watcherPlugin (o : WatchOptions) : StepSystem WatcherPlugin WatcherAction where
  init := {}
  step p a := p.act o a

end ClusterKit
