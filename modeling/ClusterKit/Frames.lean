import ClusterKit.Journal
import ClusterKit.Outcome

/-! What the functions of the model leave alone. A shutdown, a roll and the watch for wedged
workers are procedures that the primary suspends again and again; the journal knows a page of
the state; the laws about health events have a view of it. Most functions change none of that,
and others one part of it: each has one lemma here, and general rules say what follows for the
parts. -/

namespace ClusterKit

/-! ## The views -/

/-- The worker that an event reports as wedged, and for how long it was silent. -/
def Event.wedged : Event → Option (Nat × Nat)
  | .workerWedged id silentMs => some (id, silentMs)
  | _ => none

/-- The watch for wedged workers. -/
structure Watch where
  registry : OrdMap (Nat × WorkerHealthReport)
  wedgedTimer : Option Nat
  /-- Newest first. -/
  alarms : List (Nat × Nat)

namespace Watch

/-- A worker reported. -/
def heard (id now : Nat) (report : WorkerHealthReport) (v : Watch) : Watch :=
  { v with registry := v.registry.set id (now, report) }

/-- A worker is gone. -/
def left (id : Nat) (v : Watch) : Watch := { v with registry := v.registry.delete id }

end Watch

/-- Heartbeats, exits, and the start of a shutdown. -/
def Event.viewed : Event → Bool
  | .workerHealth .. => true
  | .workerExit .. => true
  | .shutdownStart .. => true
  | _ => false

structure HealthView where
  exitedWorkerIds : Finset Nat
  isShuttingDown : Bool
  /-- Newest first. -/
  events : List Event

namespace HealthView

def report (r : WorkerHealthReport) (v : HealthView) : HealthView :=
  { v with events := .workerHealth r :: v.events }

def exit (id : Nat) (code : Option Int) (signal : Option String) (graceful : Bool)
    (v : HealthView) : HealthView :=
  { v with
    exitedWorkerIds := insert id v.exitedWorkerIds
    events := .workerExit id code signal graceful :: v.events }

end HealthView

def RollFrame.outcome : RollFrame → Option RollOutcome
  | .returned outcome => some outcome
  | _ => none

def ShutdownFrame.isResolved : ShutdownFrame → Bool
  | .resolved => true
  | _ => false

/-- The worker whose exit the roll waits for, or has seen. -/
def RollFrame.current : RollFrame → List Nat
  | .exitWait old _ => [old]
  | .exitGrace old _ => [old]
  | .exited old => [old]
  | _ => []

/-- Done, under way, and still to come. -/
def Roll.listed (r : Roll) : List Nat := r.restartedWorkerIds ++ (r.frame.current ++ r.remaining)

structure Page where
  ids : Nat
  tracked : Finset Nat
  onlineWorkerIds : Finset Nat
  exitedWorkerIds : Finset Nat
  registered : Finset Nat
  fleetDegraded : Bool
  degradedArmed : Bool
  isShuttingDown : Bool
  disposed : Bool
  resolved : Bool
  tally : Tally
  roll : Option (String × List Nat)
  events : List Event

/-- Where the three procedures are suspended, the time, and whether the process runs; with what
a law about health events sees. -/
structure Suspended where
  now : Nat
  exited : Bool
  shutdown : ShutdownCoordinator
  roll : Option Roll
  watch : Watch
  health : HealthView

namespace State

def watch (s : State) : Watch :=
  ⟨s.health.registry, s.health.wedgedTimer, s.events.filterMap Event.wedged⟩

def healthView (s : State) : HealthView where
  exitedWorkerIds := s.health.exitedWorkerIds
  isShuttingDown := s.isShuttingDown
  events := s.events.filter Event.viewed

/-- How the roll under way returned, if it did. -/
def rollView (s : State) : Option (Option RollOutcome) := s.roll.map fun r => r.frame.outcome

def views (s : State) : HealthView × Option (Option RollOutcome) := (s.healthView, s.rollView)

def page (s : State) : Page where
  ids := s.cluster.ids
  tracked := s.tracked
  onlineWorkerIds := s.orch.onlineWorkerIds
  exitedWorkerIds := s.health.exitedWorkerIds
  registered := s.health.registry.keySet
  fleetDegraded := s.orch.fleetDegraded
  degradedArmed := s.orch.degradedTimer.isSome
  isShuttingDown := s.isShuttingDown
  disposed := s.manager.disposed
  resolved := s.shutdown.frame.isResolved
  tally := s.metrics.tally
  roll := s.roll.map fun r => (r.opts.reason, r.listed)
  events := s.events

def suspended (s : State) : Suspended :=
  ⟨s.now, s.process.exited, s.shutdown, s.roll, s.watch, s.healthView⟩

/-- All of it. -/
def still (s : State) : Suspended × Page := (s.suspended, s.page)

variable {e : Host} {s t : State}

theorem suspended_of_still (h : t.still = s.still) : t.suspended = s.suspended :=
  congrArg Prod.fst h

theorem page_of_still (h : t.still = s.still) : t.page = s.page := congrArg Prod.snd h

theorem online_of_still (h : t.still = s.still) :
    t.orch.onlineWorkerIds = s.orch.onlineWorkerIds :=
  congrArg Page.onlineWorkerIds (page_of_still h)

theorem shutdown_of_suspended (h : t.suspended = s.suspended) : t.shutdown = s.shutdown :=
  congrArg Suspended.shutdown h

theorem roll_of_suspended (h : t.suspended = s.suspended) : t.roll = s.roll :=
  congrArg Suspended.roll h

theorem watch_of_suspended (h : t.suspended = s.suspended) : t.watch = s.watch :=
  congrArg Suspended.watch h

theorem healthView_of_suspended (h : t.suspended = s.suspended) : t.healthView = s.healthView :=
  congrArg Suspended.health h

theorem views_of (hv : t.healthView = s.healthView) (hr : t.roll = s.roll) : t.views = s.views := by
  unfold views rollView
  rw [hv, hr]

theorem views_of_suspended (h : t.suspended = s.suspended) : t.views = s.views :=
  views_of (healthView_of_suspended h) (roll_of_suspended h)

theorem healthView_eq (h : t.views = s.views) : t.healthView = s.healthView := congrArg Prod.fst h

theorem rollView_eq (h : t.views = s.views) : t.rollView = s.rollView := congrArg Prod.snd h

/-! ## Forks and the restart queue -/

theorem forkWorker_suspended (cause : ForkCause) (envOverlay : Option ProcessEnv) (s : State) :
    (forkWorker e cause envOverlay s).2.suspended = s.suspended := by
  unfold forkWorker
  split
  · rfl
  · dsimp only
    split <;> rfl

theorem forkWorkers_suspended (count : Nat) (s : State) :
    (forkWorkers e count s).2.suspended = s.suspended := by
  induction count generalizing s with
  | zero => rfl
  | succ count ih =>
    have hfork := forkWorker_suspended (e := e) .initial none s
    unfold forkWorkers
    split
    · rename_i heq
      rw [heq] at hfork
      exact hfork
    · rename_i heq
      rw [heq] at hfork
      exact (ih _).trans hfork

theorem restartFailed_still (entry : RestartQueueEntry) (s : State) :
    (restartFailed entry s).still = s.still := by
  unfold restartFailed
  dsimp only
  split <;> rfl

theorem attemptRestart_suspended (entry : RestartQueueEntry) (delayMs : ℚ) (s : State) :
    (attemptRestart e entry delayMs s).suspended = s.suspended := by
  have hfork := forkWorker_suspended (e := e) .restartQueue none s.pruneCrashes
  unfold attemptRestart
  dsimp only
  split
  · rfl
  · split
    · rename_i heq
      rw [heq] at hfork
      exact (suspended_of_still (restartFailed_still entry _)).trans hfork
    · rename_i heq
      rw [heq] at hfork
      exact hfork

theorem restartWorkerWithBackoff_suspended (entry : RestartQueueEntry) (s : State) :
    (restartWorkerWithBackoff e entry s).suspended = s.suspended := by
  unfold restartWorkerWithBackoff
  extract_lets delayMs
  split
  · rfl
  · exact attemptRestart_suspended entry _ s

theorem queueLoop_suspended (queue : List RestartQueueEntry) (s : State) :
    (queueLoop e queue s).suspended = s.suspended := by
  induction queue generalizing s with
  | nil => rfl
  | cons entry rest ih =>
    unfold queueLoop
    split
    · rfl
    · dsimp only
      split
      · rfl
      · split
        · exact ih _
        · exact restartWorkerWithBackoff_suspended entry _

theorem kickRestartQueue_suspended (s : State) :
    (s.kickRestartQueue e).suspended = s.suspended := by
  unfold kickRestartQueue
  split
  · rfl
  · exact queueLoop_suspended _ _

theorem noteCrash_still (s : State) : s.noteCrash.still = s.still := by
  rw [noteCrash_eq]
  rfl

theorem queueCrash_still (entry : RestartQueueEntry) (s : State) :
    (s.queueCrash entry).still = s.still := by
  rw [queueCrash_eq]
  rfl

theorem queueRefill_still (count : Nat) (s : State) : (s.queueRefill count).still = s.still := by
  rw [queueRefill_eq]
  rfl

theorem refillMissing_suspended (s : State) : (s.refillMissing e).suspended = s.suspended := by
  unfold refillMissing requestCapacityRefill
  rw [kickRestartQueue_suspended]
  exact suspended_of_still (queueRefill_still _ s)

theorem backoffElapsed_suspended : ∀ t ∈ s.backoffElapsed e, t.suspended = s.suspended := by
  unfold backoffElapsed
  split
  · split
    · split
      · rintro _ ⟨⟩; rfl
      · rintro _ ⟨⟩; exact attemptRestart_suspended _ _ s
    · rintro _ ⟨⟩
  · rintro _ ⟨⟩

theorem queueReturned_suspended : ∀ t ∈ s.queueReturned e, t.suspended = s.suspended := by
  unfold queueReturned
  split
  · rintro _ ⟨⟩; exact queueLoop_suspended _ _
  · rintro _ ⟨⟩

theorem crashRecorded_suspended (id : Nat) (code : Option Int) (signal : Option String)
    (s : State) :
    (s.crashRecorded e id code signal).suspended = s.suspended := by
  have hnoted : s.noteCrash.suspended = s.suspended := suspended_of_still (noteCrash_still s)
  unfold crashRecorded
  dsimp only
  split
  · exact hnoted
  · rw [kickRestartQueue_suspended]
    exact (suspended_of_still (queueCrash_still _ _)).trans hnoted

theorem onWorkerCrash_suspended (id : Nat) (code : Option Int) (signal : Option String)
    (bootFailed : Bool) (s : State) :
    (s.onWorkerCrash e id code signal bootFailed).suspended = s.suspended := by
  unfold onWorkerCrash
  dsimp only
  split
  · split
    · rfl
    · exact crashRecorded_suspended id code signal _
  · exact crashRecorded_suspended id code signal s

theorem restartOnWorkerOnline_still (s : State) :
    (s.restartOnWorkerOnline e).still = s.still := by
  unfold restartOnWorkerOnline
  dsimp only
  split
  · unfold scheduleBackoffReset
    split <;> rfl
  · rfl

theorem backoffResetElapsed_still : ∀ t ∈ s.backoffResetElapsed, t.still = s.still := by
  unfold backoffResetElapsed
  split
  · rintro _ ⟨⟩
  · split
    · dsimp only
      split <;> rintro _ ⟨⟩ <;> rfl
    · rintro _ ⟨⟩

/-! ## Drains -/

theorem drainOldWorker_still (r : Recycle) (s : State) :
    (s.drainOldWorker e r).still = s.still := by
  unfold drainOldWorker
  split <;> rfl

theorem onReplacementOnline_still (new : Nat) (s : State) :
    (s.onReplacementOnline e new).still = s.still := by
  unfold onReplacementOnline
  split
  · rfl
  · dsimp only
    split
    · rfl
    · exact drainOldWorker_still _ _

theorem onReplacementExit_still (new : Nat) (s : State) :
    (s.onReplacementExit e new).still = s.still := by
  unfold onReplacementExit
  split
  · rfl
  · split
    · rfl
    · exact drainOldWorker_still _ _

theorem drainFailsafeElapsed_still (new : Nat) :
    ∀ t ∈ s.drainFailsafeElapsed e new, t.still = s.still := by
  unfold drainFailsafeElapsed
  split
  · rintro _ ⟨⟩
  · split
    · rintro _ ⟨⟩
    · split
      · dsimp only
        split
        · rintro _ ⟨⟩; rfl
        · rintro _ ⟨⟩; exact drainOldWorker_still _ _
      · rintro _ ⟨⟩

theorem forceKillElapsed_still (new : Nat) :
    ∀ t ∈ s.forceKillElapsed e new, t.still = s.still := by
  unfold forceKillElapsed
  split
  · rintro _ ⟨⟩
  · split
    · rintro _ ⟨⟩
    · split
      · split <;> rintro _ ⟨⟩ <;> rfl
      · rintro _ ⟨⟩

theorem sigkillElapsed_still (new : Nat) :
    ∀ t ∈ s.sigkillElapsed new, t.still = s.still := by
  unfold sigkillElapsed
  split
  · rintro _ ⟨⟩
  · split
    · rintro _ ⟨⟩
    · split
      · dsimp only
        split <;> rintro _ ⟨⟩ <;> rfl
      · rintro _ ⟨⟩

/-! ## Recycles and heartbeats -/

theorem recycleWorkerNow_suspended (id : Nat) (s : State) :
    (recycleWorkerNow e id s).2.suspended = s.suspended := by
  have hfork := forkWorker_suspended (e := e) (.health id) none (s.markForRecycling id)
  unfold recycleWorkerNow
  split
  · rfl
  · split
    · rfl
    · dsimp only
      split
      · rename_i heq
        rw [heq] at hfork
        exact hfork
      · rename_i heq
        rw [heq] at hfork
        exact hfork

theorem triggerWorkerRecycle_suspended (id : Nat) (reason : RecycleReason) (s : State) :
    (s.triggerWorkerRecycle e id reason).suspended = s.suspended := by
  have hrecycle := recycleWorkerNow_suspended (e := e) id (s.setRecycleReason id reason)
  unfold triggerWorkerRecycle
  split
  · rfl
  · split
    · rename_i heq
      rw [heq] at hrecycle
      exact hrecycle
    · rename_i heq
      rw [heq] at hrecycle
      exact hrecycle

theorem armStaggerTimers_still (idx : Nat) (ids : List Nat) (s : State) :
    (armStaggerTimers idx ids s).still = s.still := by
  induction ids generalizing idx s with
  | nil => rfl
  | cons id rest ih => exact ih _ _

theorem recycleSweep_still : ∀ t ∈ s.recycleSweep e, t.still = s.still := by
  unfold recycleSweep
  split
  · rintro _ ⟨⟩
  · split
    · dsimp only
      split
      · rintro _ ⟨⟩; rfl
      · rintro _ ⟨⟩; exact armStaggerTimers_still _ _ _
    · rintro _ ⟨⟩

theorem staggerElapsed_suspended (id : Nat) :
    ∀ t ∈ s.staggerElapsed e id, t.suspended = s.suspended := by
  have hfork := forkWorker_suspended (e := e) (.aged id) none (s.deleteRecycleTimer id)
  unfold staggerElapsed
  split
  · rintro _ ⟨⟩
  · split
    · dsimp only
      split
      · rintro _ ⟨⟩; rfl
      · split
        · rename_i heq
          rw [heq] at hfork
          rintro _ ⟨⟩
          exact hfork
        · rename_i heq
          rw [heq] at hfork
          rintro _ ⟨⟩
          exact hfork
    · rintro _ ⟨⟩

theorem checkRssLimit_suspended (id : Nat) (report : WorkerHealthReport) (s : State) :
    (s.checkRssLimit e id report).suspended = s.suspended := by
  unfold checkRssLimit
  dsimp only
  split
  · rfl
  · split
    · rfl
    · split
      · rfl
      · exact triggerWorkerRecycle_suspended _ _ _

theorem checkLagLimit_suspended (id : Nat) (report : WorkerHealthReport) (s : State) :
    (s.checkLagLimit e id report).suspended = s.suspended := by
  have hrecycle : (s.lagRecycle e id).suspended = s.suspended :=
    triggerWorkerRecycle_suspended _ _ _
  unfold checkLagLimit
  split
  · rfl
  · split
    · rfl
    · dsimp only
      split
      · exact hrecycle
      · split
        · rfl
        · split
          · split
            · rfl
            · exact hrecycle
          · rfl

/-- A heartbeat of a worker that has not exited is heard, and nothing else is. -/
theorem onHealthMessage_cases (id : Nat) (msg : Option Message) (s : State) :
    (s.onHealthMessage e id msg = s ∧ ∀ rss heapUsed lag,
        msg = some ⟨e.cfg.shutdown.messagePrefix ++ ":hb", some rss, some heapUsed, some lag⟩ →
          id ∈ s.health.exitedWorkerIds) ∨
      ∃ rss heapUsed lag,
        msg = some ⟨e.cfg.shutdown.messagePrefix ++ ":hb", some rss, some heapUsed, some lag⟩ ∧
        id ∉ s.health.exitedWorkerIds ∧ (s.onHealthMessage e id msg).suspended =
          { s.suspended with
            watch := s.watch.heard id s.now ⟨id, rss, heapUsed, lag⟩
            health := s.healthView.report ⟨id, rss, heapUsed, lag⟩ } := by
  unfold onHealthMessage
  split
  · rename_i htype
    refine .inl ⟨rfl, ?_⟩
    rintro rss heapUsed lag rfl
    simp [isTypedMessage] at htype
  · rename_i htype
    split
    · rename_i hnoted
      exact .inl ⟨rfl, fun _ _ _ _ => hnoted⟩
    · rename_i hnoted
      obtain _ | ⟨type, _ | rss, _ | heapUsed, _ | lag⟩ := msg
      case isFalse.isFalse.some.some.some.some =>
        obtain rfl : type = e.cfg.shutdown.messagePrefix ++ ":hb" := by
          simpa [isTypedMessage] using htype
        refine .inr ⟨rss, heapUsed, lag, rfl, hnoted, ?_⟩
        rw [checkLagLimit_suspended, checkRssLimit_suspended]
        rfl
      all_goals exact .inl ⟨rfl, by simp⟩

/-! ## The watch leaves the rest -/

/-- `t` is where `s` is, but for the watch. -/
def WatchesOn (s t : State) : Prop := t.suspended = { s.suspended with watch := t.watch }

/-- `t` is where `s` is, but for the watch and what is seen of the events. -/
def HearsOn (s t : State) : Prop :=
  t.suspended = { s.suspended with watch := t.watch, health := t.healthView }

theorem WatchesOn.of_suspended (h : t.suspended = s.suspended) : WatchesOn s t := by
  unfold WatchesOn
  rw [watch_of_suspended h, h]
  rfl

theorem WatchesOn.of_watch {v : Watch} (h : t.suspended = { s.suspended with watch := v }) :
    WatchesOn s t := by
  unfold WatchesOn
  rw [show t.watch = v from congrArg Suspended.watch h, h]

theorem WatchesOn.trans {x : State} (h : WatchesOn s x) (h' : WatchesOn x t) : WatchesOn s t := by
  unfold WatchesOn at h' ⊢
  rw [h', h]

theorem WatchesOn.shutdown (h : WatchesOn s t) : t.shutdown = s.shutdown :=
  congrArg Suspended.shutdown h

theorem WatchesOn.roll (h : WatchesOn s t) : t.roll = s.roll := congrArg Suspended.roll h

theorem WatchesOn.views (h : WatchesOn s t) : t.views = s.views :=
  views_of (congrArg Suspended.health h) h.roll

theorem HearsOn.of_suspended (h : t.suspended = s.suspended) : HearsOn s t := by
  unfold HearsOn
  rw [watch_of_suspended h, healthView_of_suspended h, h]
  rfl

theorem HearsOn.of_heard {v : Watch} {w : HealthView}
    (h : t.suspended = { s.suspended with watch := v, health := w }) : HearsOn s t := by
  unfold HearsOn
  rw [show t.watch = v from congrArg Suspended.watch h,
    show t.healthView = w from congrArg Suspended.health h, h]

theorem HearsOn.shutdown (h : HearsOn s t) : t.shutdown = s.shutdown :=
  congrArg Suspended.shutdown h

theorem HearsOn.roll (h : HearsOn s t) : t.roll = s.roll := congrArg Suspended.roll h

theorem onHealthMessage_hearsOn (id : Nat) (msg : Option Message) (s : State) :
    HearsOn s (s.onHealthMessage e id msg) := by
  rcases onHealthMessage_cases (e := e) id msg s with ⟨h, -⟩ | ⟨rss, heapUsed, lag, -, -, h⟩
  · exact .of_suspended (by rw [h])
  · exact .of_heard h

theorem checkWedgedAll_watchesOn (entries : List (Nat × Nat × WorkerHealthReport)) (s : State) :
    WatchesOn s (checkWedgedAll e entries s) := by
  induction entries generalizing s with
  | nil => exact .of_suspended rfl
  | cons entry rest ih =>
    refine WatchesOn.trans ?_ (ih _)
    unfold checkWedged
    dsimp only
    split
    · exact .of_suspended rfl
    · refine WatchesOn.trans ?_ (.of_suspended (triggerWorkerRecycle_suspended _ _ _))
      split <;> exact rfl

theorem wedgedWatch_watchesOn : ∀ t ∈ s.wedgedWatch e, WatchesOn s t := by
  unfold wedgedWatch
  split
  · rintro _ ⟨⟩
  · split
    · dsimp only
      split
      · rintro _ ⟨⟩; exact rfl
      · rintro _ ⟨⟩; exact WatchesOn.trans (s := s) rfl (checkWedgedAll_watchesOn _ _)
    · rintro _ ⟨⟩

/-! ## Fleet health, calls and cluster events -/

theorem recomputeFleetHealth_suspended (s : State) :
    (s.recomputeFleetHealth e).suspended = s.suspended := by
  unfold recomputeFleetHealth
  split
  · rfl
  · extract_lets target recovered
    split
    · unfold suspended watch healthView
      dsimp only
      split <;> rfl
    · split <;> rfl

theorem degradedElapsed_suspended : ∀ t ∈ s.degradedElapsed e, t.suspended = s.suspended := by
  unfold degradedElapsed
  split
  · rintro _ ⟨⟩
  · split
    · dsimp only
      split <;> rintro _ ⟨⟩ <;> rfl
    · rintro _ ⟨⟩

/-- The watch forgets who exits, and the exit is seen. -/
theorem handleWorkerExit_suspended (id : Nat) (code : Option Int) (signal : Option String)
    (s : State) : ∃ graceful, (s.handleWorkerExit e id code signal).suspended =
      { s.suspended with
        watch := s.watch.left id
        health := s.healthView.exit id code signal graceful } := by
  have hleft (graceful : Bool) (x : State)
      (h : x.suspended = (s.emit (.workerExit id code signal graceful)).suspended) :
      (x.forgetWorker id).suspended =
        { s.suspended with
          watch := s.watch.left id
          health := s.healthView.exit id code signal graceful } := by
    have hforgot : (x.forgetWorker id).suspended =
        { x.suspended with
          watch := x.watch.left id
          health := { x.healthView with
            exitedWorkerIds := insert id x.healthView.exitedWorkerIds } } := rfl
    rw [hforgot, watch_of_suspended h, healthView_of_suspended h, h]
    rfl
  unfold handleWorkerExit
  dsimp only
  split
  · split
    · exact ⟨_, hleft _ (s.emit (.workerExit id code signal _)) rfl⟩
    · exact ⟨_, hleft _ (s.emit (.workerExit id code signal _)) rfl⟩
  · refine ⟨(s.worker id).exitedAfterDisconnect, ?_⟩
    have hsame := recomputeFleetHealth_suspended (e := e)
      (s.emit (.workerExit id code signal (s.worker id).exitedAfterDisconnect))
    split
    · exact hleft _ _ hsame
    · rw [onWorkerCrash_suspended]
      exact hleft _ _ hsame

theorem handleWorkerExit_hearsOn (id : Nat) (code : Option Int) (signal : Option String)
    (s : State) : HearsOn s (s.handleWorkerExit e id code signal) := by
  obtain ⟨graceful, h⟩ := handleWorkerExit_suspended (e := e) id code signal s
  exact .of_heard h

theorem workerOnline_suspended (id : Nat) :
    ∀ t ∈ s.workerOnline e id, t.suspended = s.suspended := by
  intro t ht
  obtain ⟨-, y, rfl, ⟨-, rfl⟩ | ⟨-, rfl⟩⟩ := workerOnline_cases ht
  · exact suspended_of_still (onReplacementOnline_still id _)
  · have hnoted (x : State) : (x.handleWorkerOnline e id).suspended = x.suspended := by
      have hrestart (y : State) : (y.restartOnWorkerOnline e).suspended = y.suspended :=
        suspended_of_still (restartOnWorkerOnline_still y)
      unfold handleWorkerOnline
      rw [recomputeFleetHealth_suspended]
      dsimp only
      split <;> exact hrestart _
    exact (hnoted _).trans (suspended_of_still (onReplacementOnline_still id _))

theorem startRecycling_still (s : State) : (s.startRecycling e).still = s.still := by
  unfold startRecycling
  split <;> rfl

theorem startWedgedWatch_page (s : State) : (s.startWedgedWatch e).page = s.page := by
  unfold startWedgedWatch
  split <;> rfl

theorem startPrimary_suspended (count : Nat) (s : State) :
    (s.startPrimary e count).suspended = s.suspended ∧
        ((s.startPrimary e count).orch.runPhase = .started → e.cfg.health.wedgedTimeoutMs = 0) ∨
      e.cfg.health.wedgedTimeoutMs ≠ 0 ∧ (s.startPrimary e count).suspended = { s.suspended with
        watch := { s.watch with wedgedTimer := some (s.now + e.cfg.health.heartbeatMs) } } := by
  have hforks : (State.forkWorkers e count s.forking).2.suspended = s.suspended :=
    forkWorkers_suspended count s.forking
  unfold startPrimary
  dsimp only
  split <;> rename_i x heq <;> rw [forking, heq] at hforks
  · exact .inl ⟨hforks, fun hstarted => by cases hstarted⟩
  · have hnow : x.now = s.now := congrArg Suspended.now hforks
    generalize hy : State.startRecycling e _ = y
    have hsame : y.suspended = s.suspended := hy ▸
      (suspended_of_still (startRecycling_still _)).trans hforks
    unfold startWedgedWatch
    split
    · rename_i hoff
      exact .inl ⟨hsame, fun _ => hoff⟩
    · rename_i hon
      refine .inr ⟨hon, ?_⟩
      have hclock : y.now = s.now := congrArg Suspended.now hsame
      rw [← hclock]
      exact congrArg (fun z : Suspended => { z with
        watch := { z.watch with wedgedTimer := some (y.now + e.cfg.health.heartbeatMs) } }) hsame

theorem startPrimary_watchesOn (count : Nat) (s : State) :
    WatchesOn s (s.startPrimary e count) := by
  rcases startPrimary_suspended (e := e) count s with ⟨h, -⟩ | ⟨-, h⟩
  · exact .of_suspended h
  · exact .of_watch h

theorem overrideWorkerCount_still (n : Nat) (s : State) :
    (s.overrideWorkerCount n).still = s.still := by
  rcases overrideWorkerCount_outcome n s with h | ⟨-, count, h⟩
  · rw [h]
  · rw [h]; rfl

theorem patchWorkerEnv_still (env : ProcessEnv) (s : State) :
    (s.patchWorkerEnv env).still = s.still := by
  unfold patchWorkerEnv
  split <;> rfl

theorem resetCircuitBreaker_suspended (s : State) :
    (s.resetCircuitBreaker e).suspended = s.suspended := by
  unfold resetCircuitBreaker
  dsimp only
  split
  · rfl
  · split
    · exact refillMissing_suspended _
    · rfl

theorem crashCleanup_still : ∀ t ∈ s.crashCleanup, t.still = s.still := by
  unfold crashCleanup
  split
  · rintro _ ⟨⟩
  · split
    · dsimp only
      split <;> rintro _ ⟨⟩ <;> rfl
    · rintro _ ⟨⟩

theorem workerSelfDisconnect_still (id : Nat) :
    ∀ t ∈ s.workerSelfDisconnect id, t.still = s.still := by
  unfold workerSelfDisconnect
  split
  · rintro _ ⟨⟩
  · rintro _ ⟨⟩; rfl

/-! ## The roll leaves the shutdown -/

/-- `t` is suspended where `s` is, but for the roll. -/
def RollsOn (s t : State) : Prop := t.suspended = { s.suspended with roll := t.roll }

theorem RollsOn.of_suspended {x : State} (h : x.suspended = s.suspended) (f : Roll → Roll) :
    RollsOn s (x.modifyRoll f) := by
  have hroll := congrArg (fun z : Suspended => { z with roll := (x.modifyRoll f).roll }) h
  exact hroll

theorem RollsOn.trans {x : State} (h : RollsOn s x) (h' : RollsOn x t) : RollsOn s t := by
  unfold RollsOn at h' ⊢
  rw [h', h]

theorem RollsOn.shutdown (h : RollsOn s t) : t.shutdown = s.shutdown :=
  congrArg Suspended.shutdown h

theorem RollsOn.exited (h : RollsOn s t) : t.process.exited = s.process.exited :=
  congrArg Suspended.exited h

theorem RollsOn.healthView (h : RollsOn s t) : t.healthView = s.healthView :=
  congrArg Suspended.health h

theorem rollWorkers_rollsOn (targeted : List Nat) (s : State) :
    RollsOn s (rollWorkers e targeted s) := by
  induction targeted generalizing s with
  | nil => exact rfl
  | cons old rest ih =>
    have hfork := forkWorker_suspended (e := e) (.roll old) s.rollEnv s
    unfold rollWorkers
    split
    · exact rfl
    · split
      · exact RollsOn.trans (.of_suspended rfl _) (ih _)
      · split <;> rename_i heq <;> rw [heq] at hfork
        · have hfailed := RollsOn.of_suspended hfork fun r =>
            { r with remaining := rest, forkFailed := true }
          dsimp only
          split
          · exact hfailed.trans rfl
          · exact hfailed.trans (ih _)
        · exact RollsOn.of_suspended hfork _

theorem restartWorkers_rollsOn (opts : RestartOptions) (s : State) :
    RollsOn s (s.restartWorkers e opts) := by
  unfold restartWorkers
  split
  · exact rfl
  · split
    · exact rfl
    · exact RollsOn.trans (x := s.beginRoll opts _) rfl (rollWorkers_rollsOn _ _)

theorem rollExited_rollsOn : ∀ t ∈ s.rollExited e, RollsOn s t := by
  unfold rollExited
  split
  · split
    · dsimp only
      split <;> rintro _ ⟨⟩
      · exact rfl
      · exact RollsOn.trans (.of_suspended (x := s.modifyRoll _) rfl _) (rollWorkers_rollsOn _ _)
    · rintro _ ⟨⟩
  · rintro _ ⟨⟩

theorem rollStaggerElapsed_rollsOn : ∀ t ∈ s.rollStaggerElapsed e, RollsOn s t := by
  unfold rollStaggerElapsed
  split
  · split
    · split <;> rintro _ ⟨⟩
      exact RollsOn.trans (.of_suspended rfl _) (rollWorkers_rollsOn _ _)
    · rintro _ ⟨⟩
  · rintro _ ⟨⟩

theorem rollReturned_rollsOn : ∀ t ∈ s.rollReturned e, RollsOn s t := by
  have hrefill (ids : List Nat) (reason : String) :
      RollsOn s ((s.emit (.restartComplete ids reason)).refillMissing e).endRoll := by
    have hroll := congrArg (fun z : Suspended => { z with roll := none })
      (refillMissing_suspended (e := e) (s.emit (.restartComplete ids reason)))
    exact hroll
  unfold rollReturned
  split
  · split <;> rintro _ ⟨⟩
    · exact rfl
    · exact rfl
    · exact hrefill _ _
  · rintro _ ⟨⟩

/-! ## The roll waits -/

/-- `t` is where `s` is, but for what the roll waits for: the worker is the same, and the roll
has returned as little. -/
def RollWaits (s t : State) : Prop :=
  t.still = ({ s.suspended with roll := t.roll }, s.page) ∧ t.rollView = s.rollView

theorem RollWaits.rollsOn (h : RollWaits s t) : RollsOn s t := congrArg Prod.fst h.1

theorem RollWaits.page (h : RollWaits s t) : t.page = s.page := congrArg Prod.snd h.1

theorem RollWaits.views (h : RollWaits s t) : t.views = s.views :=
  Prod.ext h.rollsOn.healthView h.2

theorem setRollFrame_rollWaits {frame frame' : RollFrame} (hf : s.rollFrame = some frame)
    (hc : frame'.current = frame.current) (ho : frame'.outcome = frame.outcome) :
    RollWaits s (s.setRollFrame frame') := by
  obtain ⟨r, hr, rfl⟩ := Option.map_eq_some_iff.mp hf
  have hlisted : Roll.listed { r with frame := frame' } = r.listed := by
    unfold Roll.listed
    rw [hc]
  have hroll : (s.setRollFrame frame').roll.map (fun r => (r.opts.reason, r.listed)) =
      s.roll.map fun r => (r.opts.reason, r.listed) := by
    unfold setRollFrame modifyRoll
    rw [hr, Option.map_some, Option.map_some, Option.map_some, hlisted]
  have hpage : (s.setRollFrame frame').page = s.page :=
    congrArg (fun roll => { s.page with roll := roll }) hroll
  refine ⟨congrArg (Prod.mk _) hpage, ?_⟩
  unfold rollView setRollFrame modifyRoll
  rw [hr, Option.map_some, Option.map_some, Option.map_some, ho]

theorem onRolledWorkerExit_rollWaits (id : Nat) (s : State) :
    RollWaits s (s.onRolledWorkerExit id) := by
  unfold onRolledWorkerExit
  split
  · rename_i hf
    split
    · exact setRollFrame_rollWaits hf rfl rfl
    · exact ⟨rfl, rfl⟩
  · rename_i hf
    split
    · exact setRollFrame_rollWaits hf rfl rfl
    · exact ⟨rfl, rfl⟩
  · exact ⟨rfl, rfl⟩

theorem exitWaitElapsed_rollWaits : ∀ t ∈ s.exitWaitElapsed, RollWaits s t := by
  unfold exitWaitElapsed
  split
  · rename_i hf
    split
    · dsimp only
      split
      · rintro _ ⟨⟩; exact setRollFrame_rollWaits hf rfl rfl
      · rintro _ ⟨⟩
        exact setRollFrame_rollWaits (s := (s.kill .SIGKILL _).countForcedKill) hf rfl rfl
    · rintro _ ⟨⟩
  · rintro _ ⟨⟩

theorem exitGraceElapsed_rollWaits : ∀ t ∈ s.exitGraceElapsed, RollWaits s t := by
  unfold exitGraceElapsed
  split
  · rename_i hf
    split
    · rintro _ ⟨⟩; exact setRollFrame_rollWaits hf rfl rfl
    · rintro _ ⟨⟩
  · rintro _ ⟨⟩

/-! ## The shutdown leaves the roll and the watch -/

/-- `t` is where `s` is, but for the shutdown, which may end the process. -/
def WindsDown (s t : State) : Prop :=
  t.suspended = { s.suspended with shutdown := t.shutdown, exited := t.process.exited }

theorem WindsDown.roll (h : WindsDown s t) : t.roll = s.roll := congrArg Suspended.roll h

theorem WindsDown.watch (h : WindsDown s t) : t.watch = s.watch := congrArg Suspended.watch h

theorem WindsDown.views (h : WindsDown s t) : t.views = s.views :=
  views_of (congrArg Suspended.health h) h.roll

theorem shutdownResolved_windsDown : ∀ t ∈ s.shutdownResolved, WindsDown s t := by
  intro t ht
  rw [shutdownResolved_eq ht]
  rfl

theorem shutdownPrimary_roll (signal : String) (s : State) :
    (s.shutdownPrimary e signal).roll = s.roll := by
  unfold shutdownPrimary
  split <;> rfl

/-- Nor has the shutdown been reported complete meanwhile. -/
structure WaitsOn (s t : State) : Prop where
  windsDown : WindsDown s t
  page : t.page = s.page

theorem WaitsOn.of_windsDown (h : WindsDown s t)
    (hpage : t.page = { s.page with resolved := t.shutdown.frame.isResolved })
    (hf : t.shutdown.frame.isResolved = s.shutdown.frame.isResolved) : WaitsOn s t :=
  ⟨h, hpage.trans (congrArg (fun resolved => { s.page with resolved := resolved }) hf)⟩

theorem settleAck_waitsOn (id : Nat) (s : State) : WaitsOn s (s.settleAck id) := by
  unfold settleAck
  split
  · rename_i hf
    exact .of_windsDown rfl rfl (by rw [hf]; rfl)
  · exact ⟨rfl, rfl⟩

theorem settleAckDisconnecting_waitsOn (id : Nat) (s : State) :
    WaitsOn s (s.settleAckDisconnecting id) := by
  have h := settleAck_waitsOn id s
  exact ⟨h.windsDown, h.page⟩

theorem onAckMessage_waitsOn (id : Nat) (msg : Option Message) (s : State) :
    WaitsOn s (s.onAckMessage e id msg) := by
  unfold onAckMessage
  split
  · exact settleAckDisconnecting_waitsOn id s
  · exact ⟨rfl, rfl⟩

theorem ackTimeoutElapsed_waitsOn (id : Nat) : ∀ t ∈ s.ackTimeoutElapsed id, WaitsOn s t := by
  unfold ackTimeoutElapsed
  split
  · split
    · rintro _ ⟨⟩; exact settleAckDisconnecting_waitsOn id s
    · rintro _ ⟨⟩
  · rintro _ ⟨⟩

theorem acksSettled_waitsOn : ∀ t ∈ s.acksSettled e, WaitsOn s t := by
  unfold acksSettled
  split
  · rename_i hf
    rintro _ ⟨⟩
    exact .of_windsDown rfl rfl (by rw [hf]; rfl)
  · rintro _ ⟨⟩

theorem exitWaitOver_waitsOn : ∀ t ∈ s.exitWaitOver e, WaitsOn s t := by
  unfold exitWaitOver
  split
  · rename_i hf
    split
    · rintro _ ⟨⟩
      exact .of_windsDown rfl rfl (by rw [hf]; rfl)
    · rintro _ ⟨⟩
  · rintro _ ⟨⟩

theorem killDelayElapsed_waitsOn (id : Nat) : ∀ t ∈ s.killDelayElapsed e id, WaitsOn s t := by
  unfold killDelayElapsed
  split
  · rename_i hf
    split
    · split
      · dsimp only
        split
        · rintro _ ⟨⟩; exact .of_windsDown rfl rfl (by rw [hf]; rfl)
        · rintro _ ⟨⟩; exact .of_windsDown rfl rfl (by rw [hf]; rfl)
      · rintro _ ⟨⟩
    · split
      · dsimp only
        split
        · rintro _ ⟨⟩; exact .of_windsDown rfl rfl (by rw [hf]; rfl)
        · rintro _ ⟨⟩; exact .of_windsDown rfl rfl (by rw [hf]; rfl)
      · rintro _ ⟨⟩
    · rintro _ ⟨⟩
  · rintro _ ⟨⟩

theorem killsDone_waitsOn : ∀ t ∈ s.killsDone e, WaitsOn s t := by
  unfold killsDone
  split
  · rename_i hf
    rintro _ ⟨⟩
    exact .of_windsDown rfl rfl (by rw [hf]; rfl)
  · rintro _ ⟨⟩

theorem shutdownExitElapsed_waitsOn : ∀ t ∈ s.shutdownExitElapsed, WaitsOn s t := by
  intro t ht
  rw [shutdownExitElapsed_eq ht]
  exact ⟨rfl, rfl⟩

/-! ## The listeners of a worker -/

theorem workerExitListeners_page (id : Nat) (s : State) :
    (s.workerExitListeners e id).page = s.page :=
  (settleAck_waitsOn id _).page.trans ((onRolledWorkerExit_rollWaits id _).page.trans
    (page_of_still (onReplacementExit_still id s)))

theorem workerExitListeners_views (id : Nat) (s : State) :
    (s.workerExitListeners e id).views = s.views :=
  (settleAck_waitsOn id _).windsDown.views.trans ((onRolledWorkerExit_rollWaits id _).views.trans
    (views_of_suspended (suspended_of_still (onReplacementExit_still id s))))

theorem workerDisconnected_waitsOn (id : Nat) : ∀ t ∈ s.workerDisconnected id, WaitsOn s t := by
  unfold workerDisconnected
  split
  · rintro _ ⟨⟩
    have h := settleAck_waitsOn id (s.modifyWorker id fun w => { w with
      connected := false, listed := w.listed && !w.dead })
    exact ⟨h.windsDown, h.page⟩
  · rintro _ ⟨⟩

/-! ## Timers and continuations -/

/-- What a timer's callback moves of the procedures: only the one whose timer it is. -/
inductive Fired (s t : State) : Timer → Prop
  | aside {timer : Timer} (h : t.suspended = s.suspended) : Fired s t timer
  | wedgedWatch (h : WatchesOn s t) : Fired s t .wedgedWatch
  | exitWait (h : RollWaits s t) : Fired s t .exitWait
  | exitGrace (h : RollWaits s t) : Fired s t .exitGrace
  | rollStagger (h : RollsOn s t) : Fired s t .rollStagger
  | ackTimeout (id : Nat) (h : WindsDown s t) : Fired s t (.ackTimeout id)
  | killDelay (id : Nat) (h : WindsDown s t) : Fired s t (.killDelay id)
  | shutdownExit (h : WindsDown s t) : Fired s t .shutdownExit

theorem fire_fired {timer : Timer} (h : s.fire e timer = some t) : Fired s t timer := by
  have hstill {f : State → Option State} (hf : ∀ y ∈ f s, y.still = s.still)
      (h : f s = some t) : Fired s t timer := .aside (suspended_of_still (hf t h))
  cases timer with
  | backoffWait => exact .aside (backoffElapsed_suspended t h)
  | backoffReset => exact hstill backoffResetElapsed_still h
  | crashCleanup => exact hstill crashCleanup_still h
  | degraded => exact .aside (degradedElapsed_suspended t h)
  | recycleSweep => exact hstill recycleSweep_still h
  | recycleStagger id => exact .aside (staggerElapsed_suspended id t h)
  | wedgedWatch => exact .wedgedWatch (wedgedWatch_watchesOn t h)
  | drainFailsafe new => exact hstill (drainFailsafeElapsed_still new) h
  | forceKill new => exact hstill (forceKillElapsed_still new) h
  | sigkill new => exact hstill (sigkillElapsed_still new) h
  | exitWait => exact .exitWait (exitWaitElapsed_rollWaits t h)
  | exitGrace => exact .exitGrace (exitGraceElapsed_rollWaits t h)
  | rollStagger => exact .rollStagger (rollStaggerElapsed_rollsOn t h)
  | ackTimeout id => exact .ackTimeout id (ackTimeoutElapsed_waitsOn id t h).windsDown
  | killDelay id => exact .killDelay id (killDelayElapsed_waitsOn id t h).windsDown
  | shutdownExit => exact .shutdownExit (shutdownExitElapsed_waitsOn t h).windsDown

/-- What the primary moves of the procedures where an `await` of it goes on. -/
inductive Resumed (s t : State) : Continuation → Prop
  | restartQueue (h : t.suspended = s.suspended) : Resumed s t .restartQueue
  | rollExited (h : RollsOn s t) : Resumed s t .rollExited
  | rollReturned (h : RollsOn s t) : Resumed s t .rollReturned
  | acksSettled (h : WindsDown s t) : Resumed s t .acksSettled
  | exitWaitOver (h : WindsDown s t) : Resumed s t .exitWaitOver
  | killsDone (h : WindsDown s t) : Resumed s t .killsDone
  | callbacksDone (h : WindsDown s t) : Resumed s t .callbacksDone

theorem resume_resumed {c : Continuation} (h : s.resume e c = some t) : Resumed s t c := by
  cases c with
  | restartQueue => exact .restartQueue (queueReturned_suspended t h)
  | rollExited => exact .rollExited (rollExited_rollsOn t h)
  | rollReturned => exact .rollReturned (rollReturned_rollsOn t h)
  | acksSettled => exact .acksSettled (acksSettled_waitsOn t h).windsDown
  | exitWaitOver => exact .exitWaitOver (exitWaitOver_waitsOn t h).windsDown
  | killsDone => exact .killsDone (killsDone_waitsOn t h).windsDown
  | callbacksDone => exact .callbacksDone (shutdownResolved_windsDown t h)

/-- What a segment moves of the procedures: those that are told of it, and its own. -/
inductive Acted (s t : State) : Action → Prop
  | aside {a : Action} (h : t.suspended = s.suspended) : Acted s t a
  | tick (ms : Nat) : Acted s t (.tick ms)
  | pluginsInstalled (h : WatchesOn s t) : Acted s t .pluginsInstalled
  | restartWorkers (opts : RestartOptions) (h : RollsOn s t) : Acted s t (.restartWorkers opts)
  | shutdownPrimary (signal : String) : Acted s t (.shutdownPrimary signal)
  | workerExit (id : Nat) (code : Option Int) (signal : Option String) :
      Acted s t (.workerExit id code signal)
  | workerDisconnected (id : Nat) (h : WindsDown s t) : Acted s t (.workerDisconnected id)
  | workerMessage (id : Nat) (msg : Option Message) : Acted s t (.workerMessage id msg)
  | workerError (id : Nat) (h : WindsDown s t) : Acted s t (.workerError id)
  | timer (timer : Timer) : Acted s t (.timer timer)
  | resume (c : Continuation) : Acted s t (.resume c)

theorem act_acted {a : Action} (h : s.act e a = some t) : Acted s t a := by
  have haside {u : State} (hu : u.suspended = s.suspended) (h : some u = some t) : Acted s t a :=
    .aside (Option.some.inj h ▸ hu)
  cases a with
  | tick ms => exact .tick ms
  | run =>
    cases h
    split <;> exact .aside rfl
  | pluginsInstalled =>
    obtain ⟨-, rfl⟩ := pluginsInstalled_outcome h
    exact .pluginsInstalled (startPrimary_watchesOn _ s)
  | pluginInstallFailed =>
    rw [act] at h
    split at h <;> cases h
    exact .aside rfl
  | overrideWorkerCount n => exact haside (suspended_of_still (overrideWorkerCount_still n s)) h
  | patchWorkerEnv env => exact haside (suspended_of_still (patchWorkerEnv_still env s)) h
  | setReady =>
    cases h
    split <;> exact .aside rfl
  | setNotReady => exact haside (u := s.setReady false) rfl h
  | resetCircuitBreaker => exact haside (resetCircuitBreaker_suspended s) h
  | restartWorkers opts =>
    exact .restartWorkers opts (Option.some.inj h ▸ restartWorkers_rollsOn opts s)
  | shutdownPrimary signal => exact .shutdownPrimary signal
  | workerOnline id => exact .aside (workerOnline_suspended id t h)
  | workerExit id code signal => exact .workerExit id code signal
  | workerDisconnected id =>
    exact .workerDisconnected id (workerDisconnected_waitsOn id t h).windsDown
  | workerSelfDisconnect id => exact .aside (suspended_of_still (workerSelfDisconnect_still id t h))
  | workerMessage id msg => exact .workerMessage id msg
  | workerError id =>
    exact .workerError id (Option.some.inj h ▸ (settleAck_waitsOn id s).windsDown)
  | timer timer => exact .timer timer
  | resume c => exact .resume c

end State

end ClusterKit
