import ClusterKit.EventLog

/-! The metrics exporters on the primary. Both plugins bind listeners to the orchestrator's
events when they are installed and release them when they are uninstalled; what they export
is what their listeners made of the events in between. -/

universe u v

namespace ClusterKit

/-- What the orchestrator and its events do to the instruments of an exporter. -/
structure Exporter (μ : Type u) where
  fresh : μ
  /-- `install()` on the primary, with the metrics it can read. -/
  install : WorkerMetrics → μ → μ
  /-- A listener is called, at a time, with the metrics it can read. -/
  listen : Nat → WorkerMetrics → Event → μ → μ
  uninstall : WorkerMetrics → μ → μ

/-! ## The prometheus plugin -/

/-- The instruments that the listeners of the plugin set; `recoveryDuration` in milliseconds. -/
structure PrometheusMetrics where
  activeWorkers : Nat := 0
  workerRestarts : Nat := 0
  workerCrashes : Nat := 0
  circuitBreakerTrips : Nat := 0
  lastReports : OrdMap Nat := .empty
  workerRss : OrdMap Int := .empty
  workerHeap : OrdMap Int := .empty
  workerLag : OrdMap Int := .empty
  workerRecycles : RecycleReason → Nat := fun _ => 0
  wedgedKills : Nat := 0
  recoveryDuration : Option Nat := none

namespace PrometheusMetrics

def syncActiveWorkers (metrics : WorkerMetrics) (m : PrometheusMetrics) : PrometheusMetrics :=
  { m with activeWorkers := metrics.activeWorkers }

def clearWorkerHealth (workerId : Nat) (m : PrometheusMetrics) : PrometheusMetrics :=
  { m with
    lastReports := m.lastReports.delete workerId
    workerRss := m.workerRss.delete workerId
    workerHeap := m.workerHeap.delete workerId
    workerLag := m.workerLag.delete workerId }

def listen (now : Nat) (metrics : WorkerMetrics) (ev : Event) (m : PrometheusMetrics) :
    PrometheusMetrics :=
  match ev with
  | .workerOnline _ => m.syncActiveWorkers metrics
  | .workerExit workerId .. => (m.syncActiveWorkers metrics).clearWorkerHealth workerId
  | .workerCrash .. => { m with workerCrashes := m.workerCrashes + 1 }
  | .workerRestart _ => { m with workerRestarts := m.workerRestarts + 1 }
  | .circuitBreakerTripped .. => { m with circuitBreakerTrips := m.circuitBreakerTrips + 1 }
  | .workerHealth report =>
    { m with
      lastReports := m.lastReports.set report.workerId now
      workerRss := m.workerRss.set report.workerId report.rss
      workerHeap := m.workerHeap.set report.workerId report.heapUsed
      workerLag := m.workerLag.set report.workerId report.eventLoopLagMs }
  | .workerRecycle _ _ reason =>
    { m with workerRecycles := Function.update m.workerRecycles reason (m.workerRecycles reason + 1) }
  | .workerWedged .. => { m with wedgedKills := m.wedgedKills + 1 }
  | .fleetRecovered _ _ degradedDurationMs => { m with recoveryDuration := some degradedDurationMs }
  | _ => m

end PrometheusMetrics

def prometheus : Exporter PrometheusMetrics where
  fresh := {}
  install := PrometheusMetrics.syncActiveWorkers
  listen := PrometheusMetrics.listen
  uninstall metrics m := { m.syncActiveWorkers metrics with lastReports := .empty }

/-! ## The OTLP meter plugin -/

structure WorkerHealthSample where
  rss : Int
  heapUsed : Int
  eventLoopLagMs : Int
  lastBeatAt : Nat

/-- The instruments that are not observed at collection time, and the samples that are. -/
structure OtlpMetrics where
  workerRestartsCounter : Nat := 0
  workerCrashesCounter : Nat := 0
  circuitBreakerTripsCounter : Nat := 0
  workerHealth : OrdMap WorkerHealthSample := .empty
  workerRecyclesCounter : RecycleReason → Nat := fun _ => 0
  wedgedKillsCounter : Nat := 0
  recoveryDurationGauge : Option Nat := none

def OtlpMetrics.listen (now : Nat) (_ : WorkerMetrics) (ev : Event) (m : OtlpMetrics) :
    OtlpMetrics :=
  match ev with
  | .workerCrash .. => { m with workerCrashesCounter := m.workerCrashesCounter + 1 }
  | .workerRestart _ => { m with workerRestartsCounter := m.workerRestartsCounter + 1 }
  | .circuitBreakerTripped .. =>
    { m with circuitBreakerTripsCounter := m.circuitBreakerTripsCounter + 1 }
  | .workerHealth report =>
    let sample : WorkerHealthSample := ⟨report.rss, report.heapUsed, report.eventLoopLagMs, now⟩
    { m with workerHealth := m.workerHealth.set report.workerId sample }
  | .workerExit workerId .. => { m with workerHealth := m.workerHealth.delete workerId }
  | .workerRecycle _ _ reason =>
    { m with workerRecyclesCounter :=
        Function.update m.workerRecyclesCounter reason (m.workerRecyclesCounter reason + 1) }
  | .workerWedged .. => { m with wedgedKillsCounter := m.wedgedKillsCounter + 1 }
  | .fleetRecovered _ _ degradedDurationMs =>
    { m with recoveryDurationGauge := some degradedDurationMs }
  | _ => m

def otlp : Exporter OtlpMetrics where
  fresh := {}
  install _ m := m
  listen := OtlpMetrics.listen
  uninstall _ m := { m with workerHealth := .empty }

/-! ## An exporter on a primary -/

structure Exported (μ : Type u) where
  primary : State
  metrics : μ
  /-- Its listeners are bound. -/
  bound : Bool := false
  /-- *History*: it was installed. -/
  installed : Bool := false
  /-- *History*: what had been emitted by then. -/
  before : List Event := []

inductive ExportAction where
  | primary (a : Action)
  | install
  | uninstall

/-- What a listener of an exit or an online event reads: an exit is reported first thing, behind
the cleanup of the worker, and a replacement that may be forked later is not counted yet. -/
def State.heardMetrics (e : Host) (s : State) : Action → WorkerMetrics
  | .workerExit id .. => (((s.markDead id).workerExitListeners e id).cleanupWorker id).metrics
  | _ => s.metrics

/-- The events of a segment from `s` to `t`, newest first. -/
def newEvents (s t : State) : List Event := t.events.take (t.events.length - s.events.length)

namespace Exported

variable {μ : Type u} (x : Exporter μ) (e : Host)

/-- The listeners are called in the order of the events. -/
def hear (now : Nat) (metrics : WorkerMetrics) (evs : List Event) (m : μ) : μ :=
  evs.foldr (x.listen now metrics) m

def step (y : Exported μ) : ExportAction → Option (Exported μ)
  | .primary a =>
    if y.primary.process.exited then none
    else (y.primary.act e a).map fun t => { y with
      primary := t
      metrics :=
        if y.bound then
          hear x t.now (y.primary.heardMetrics e a) (newEvents y.primary t) y.metrics
        else y.metrics }
  | .install =>
    if y.primary.orch.runPhase = .installing ∧ y.installed = false then
      some { y with
        metrics := x.install y.primary.metrics y.metrics
        bound := true
        installed := true
        before := y.primary.events }
    else none
  | .uninstall =>
    if y.bound then
      some { y with metrics := x.uninstall y.primary.metrics y.metrics, bound := false }
    else none

end Exported

def exported {μ : Type u} (x : Exporter μ) (e : Host) (count : WorkerCount) (env : ProcessEnv) :
    StepSystem (Exported μ) ExportAction where
  init := { primary := State.initial e count env, metrics := x.fresh }
  step := Exported.step x e

/-! ## Two exporters on a primary -/

/-- The primary goes on for both exporters at once. Each is installed and uninstalled by itself,
since `installPlugins` awaits one plugin before it turns to the next. -/
inductive PairAction where
  | primary (a : Action)
  | installFirst
  | installSecond
  | uninstallFirst
  | uninstallSecond

/-- Both exporters with the primary that they are on. -/
def Exported.stepPair {μ : Type u} {ν : Type v} (x : Exporter μ) (x' : Exporter ν) (e : Host)
    (y : Exported μ × Exported ν) : PairAction → Option (Exported μ × Exported ν)
  | .primary a =>
    (Exported.step x e y.1 (.primary a)).bind fun first =>
      (Exported.step x' e y.2 (.primary a)).map fun second => (first, second)
  | .installFirst => (Exported.step x e y.1 .install).map fun first => (first, y.2)
  | .installSecond => (Exported.step x' e y.2 .install).map fun second => (y.1, second)
  | .uninstallFirst => (Exported.step x e y.1 .uninstall).map fun first => (first, y.2)
  | .uninstallSecond => (Exported.step x' e y.2 .uninstall).map fun second => (y.1, second)

def exportedPair {μ : Type u} {ν : Type v} (x : Exporter μ) (x' : Exporter ν) (e : Host)
    (count : WorkerCount) (env : ProcessEnv) : StepSystem (Exported μ × Exported ν) PairAction where
  init := ((exported x e count env).init, (exported x' e count env).init)
  step := Exported.stepPair x x' e

open State StepSystem

variable {e : Host} {s t : State} {a : Action} {count : WorkerCount} {env : ProcessEnv}

/-! ## Events are only added -/

theorem suffix_of_still (h : t.still = s.still) : s.events <:+ t.events := by
  rw [events_of_page (page_of_still h)]

theorem Effect.events_suffix (h : Effect e a s t) : s.events <:+ t.events := by
  cases h with
  | noted b evs hevs => exact List.suffix_append evs s.events
  | recomputed ha =>
    unfold recomputeFleetHealth
    split
    · exact List.suffix_rfl
    · dsimp only
      split
      · split
        · exact List.suffix_cons _ _
        · exact List.suffix_rfl
      · split <;> exact List.suffix_rfl
  | degraded t ha h =>
    unfold degradedElapsed at h
    split at h
    · cases h
    · split at h
      · dsimp only at h
        split at h <;> cases h
        · exact List.suffix_rfl
        · exact List.suffix_cons _ _
      · cases h
  | backoffScheduled id ha h =>
    rw [scheduleBackoffReset_eq]
  | backoffReset t ha h => exact suffix_of_still (backoffResetElapsed_still t h)
  | attemptFailed entry ha hf => exact suffix_of_still (restartFailed_still entry s)
  | attempted delayMs ha hs ht hf hok => exact List.suffix_cons _ _
  | drained r hr hd hs h => exact suffix_of_still (drainOldWorker_still r s)
  | shutdown t hs h =>
    obtain ⟨evs, -, hevs⟩ := h.keeps.events
    exact hevs ▸ List.suffix_append evs s.events
  | _ => exact List.suffix_rfl

theorem Bit.events_suffix (h : Bit e a s t) : s.events <:+ t.events := by
  cases h with
  | quarantined | tripped | rollStarted | rollCompleted => exact List.suffix_cons _ _
  | crashed => exact suffix_of_still (noteCrash_still s)
  | queued _ _ _ _ entry => exact suffix_of_still (queueCrash_still entry s)
  | resetRefilled _ count | rollRefilled _ count =>
    exact suffix_of_still (queueRefill_still count s)
  | shutdownEntered _ signal hs =>
    rw [(shutdownPrimary_entered (e := e) signal hs).events]
    exact List.suffix_cons _ _
  | _ => exact List.suffix_rfl

/-- No segment takes an event back. -/
theorem act_events_suffix (hw : WellFormed s) (h : s.act e a = some t) : s.events <:+ t.events :=
  (act_turns hw h).preserves (P := fun x => s.events <:+ x.events) hw
    (fun _ _ _ hx ht => hx.trans (ht.elim Effect.events_suffix Bit.events_suffix)) List.suffix_rfl

theorem newEvents_append (h : s.events <:+ t.events) : newEvents s t ++ s.events = t.events := by
  obtain ⟨new, hnew⟩ := h
  have hlen : t.events.length - s.events.length = new.length := by
    rw [← hnew, List.length_append]
    omega
  rw [newEvents, hlen, ← hnew, List.take_left]

end ClusterKit
