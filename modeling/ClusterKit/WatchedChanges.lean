import ClusterKit.FileWatcher
import ClusterKit.Outcome

/-! Which watched changes reach a roll. The plugin's pending fields are a coalescing buffer,
and a flush hands it over when its call of `restartWorkers()` begins a roll. -/

namespace ClusterKit

open Coalesce

variable {e : Host} {o : FileWatcherOptions} {w x : Watched}

/-! ## The plugin only calls `restartWorkers()` -/

namespace Watched

theorem flushRestart_primary (e : Host) (o : FileWatcherOptions) (w : Watched) :
    (w.flushRestart e o).primary = w.primary ∨
      ∃ opts, (w.flushRestart e o).primary = w.primary.restartWorkers e opts := by
  unfold flushRestart
  simp only
  split
  · exact .inl rfl
  · split
    · exact .inl rfl
    · exact .inr ⟨_, rfl⟩

theorem changed_primary (o : FileWatcherOptions) (w : Watched) (event : WatchEvent) :
    (w.changed o event).primary = w.primary := by
  cases event with
  | file => rfl
  | envFile parsed => cases parsed <;> rfl
  | processEnv env => rfl

theorem startWatchers_primary (w : Watched) : w.startWatchers.primary = w.primary := by
  unfold startWatchers
  split <;> rfl

theorem install_primary (o : FileWatcherOptions) (w : Watched) :
    (w.install o).primary = w.primary := by
  unfold install
  simp only
  split
  · rfl
  · exact startWatchers_primary _

/-- A step of the plugin is none of the orchestrator, or a call of `restartWorkers()`. -/
theorem act_primary {a : WatchAction} (h : w.act e o a = some x) :
    x.primary = w.primary ∨
      ∃ a', (∀ signal, a ≠ .primary (.shutdownPrimary signal) → a' ≠ .shutdownPrimary signal) ∧
        w.primary.act e a' = some x.primary := by
  have hflush : (w.flushRestart e o).primary = w.primary ∨
      ∃ a', (∀ signal, a ≠ .primary (.shutdownPrimary signal) → a' ≠ .shutdownPrimary signal) ∧
        w.primary.act e a' = some (w.flushRestart e o).primary :=
    (flushRestart_primary e o w).imp_right fun ⟨opts, heq⟩ =>
      ⟨.restartWorkers opts, fun _ _ h => (by cases h), by rw [heq]; rfl⟩
  unfold act at h
  split at h
  · rename_i opts
    rw [← Option.some.inj h]
    exact .inr ⟨.restartWorkers opts, fun _ _ h => (by cases h), rfl⟩
  · rename_i a' _
    obtain ⟨s, hs, rfl⟩ := Option.map_eq_some_iff.mp h
    exact .inr ⟨a', fun signal hne heq => hne (by rw [heq]), hs⟩
  · split at h
    · rw [← Option.some.inj h]
      exact .inl (install_primary o w)
    · cases h
  · split at h
    · rw [← Option.some.inj h]
      exact .inl (startWatchers_primary _)
    · cases h
  · split at h
    · rw [← Option.some.inj h]
      exact .inl (changed_primary o w _)
    · cases h
  · split at h
    · rw [← Option.some.inj h]
      exact hflush
    · cases h
  · split at h
    · rw [← Option.some.inj h]
      exact hflush
    · cases h
  · split at h
    · rw [← Option.some.inj h]
      exact hflush
    · cases h
  · rw [← Option.some.inj h]
    exact .inl rfl
  · split at h
    · rw [← Option.some.inj h]
      exact .inl rfl
    · cases h

end Watched

theorem watchedOrchestrator_step {count : WorkerCount} {env : ProcessEnv} {a : WatchAction}
    (h : (watchedOrchestrator e count env o).step w a = some x) :
    w.primary.process.exited = false ∧ w.act e o a = some x := by
  simp only [watchedOrchestrator] at h
  split at h
  · cases h
  · rename_i hexited
    exact ⟨by simpa using hexited, h⟩

/-- The orchestrator next to the plugin does what it can do without it. -/
theorem watched_reachable {count : WorkerCount} {env : ProcessEnv}
    (h : (watchedOrchestrator e count env o).Reachable w) :
    (orchestrator e count env).Reachable w.primary := by
  refine StepSystem.Reachable.induct
    (P := fun y : Watched => (orchestrator e count env).Reachable y.primary) h ?_ ?_
  · exact .refl
  intro x a y hx hstep
  obtain ⟨hexited, hact⟩ := watchedOrchestrator_step hstep
  rcases Watched.act_primary hact with heq | ⟨a', -, ha'⟩
  · rw [heq]
    exact hx
  · refine hx.step (a := a') ?_
    rw [← ha']
    simp [orchestrator, hexited]

/-! ## No change is lost -/

/-- The plugin stays installed, and nobody shuts down. -/
def WatchAction.staysInstalled : WatchAction → Bool
  | .primary (.shutdownPrimary _) => false
  | .teardown => false
  | .tornDown => false
  | _ => true

/-- A flush that is not throttled finds no roll in progress and passes the check of its
environment, and a changed `.env` file can be read and parsed. -/
def flushesFreely (o : FileWatcherOptions) (w : Watched) : WatchAction → Bool
  | .debounce | .maxWait | .trailing =>
    w.throttled o || w.primary.roll.isNone && w.watcher.pendingEnv.all isSafeEnvObject
  | .changed (.envFile none) => false
  | _ => true

def FileWatcher.armed (p : FileWatcher) : Prop :=
  p.debounceTimer.isSome = true ∨ p.maxWaitTimer.isSome = true ∨ p.trailingTimer.isSome = true

/-- The overlay that waits for a flush, if a change is pending. -/
def FileWatcher.pending (p : FileWatcher) : Option (Option ProcessEnv) :=
  p.pendingReason.map fun _ => p.pendingEnv

structure Answered (w : Watched) : Prop where
  serving : w.primary.isShuttingDown = false
  armed : w.watcher.pendingReason.isSome = true → w.watcher.armed
  nothingLost : NothingLost w.watcher.pending w.log

theorem overlay_eq_update (base env : ProcessEnv) : overlay base env = Patch.update base env := by
  funext key
  unfold overlay Patch.update
  cases env key <;> rfl

theorem flushRestart_outcome (hdry : o.dryRun = false) :
    (w.throttled o = true ∧ ∃ p : FileWatcher, p.pendingReason = w.watcher.pendingReason ∧
        p.pendingEnv = w.watcher.pendingEnv ∧ p.trailingTimer.isSome = true ∧
        w.flushRestart e o = { w with watcher := p }) ∨
      w.throttled o = false ∧ ∃ (opts : RestartOptions) (p : FileWatcher),
        opts.env = w.watcher.pendingEnv ∧ p.pendingReason = none ∧
        w.flushRestart e o = { w with watcher := p }.restartWorkers e opts := by
  unfold Watched.flushRestart
  simp only [hdry, Bool.false_eq_true, if_false]
  split
  · rename_i hthrottled
    refine .inl ⟨hthrottled, _, ?_, ?_, ?_, rfl⟩ <;> rfl
  · rename_i hfree
    refine .inr ⟨Bool.eq_false_iff.mpr hfree, _, _, ?_, ?_, rfl⟩ <;> rfl

namespace Answered

theorem triggerRestart (h : Answered w) (reason : String) (env : Option ProcessEnv) :
    Answered ((w.triggerRestart o reason env).logChange env) where
  serving := h.serving
  armed _ := .inl rfl
  nothingLost := by
    have hpending : ((w.triggerRestart o reason env).logChange env).watcher.pending =
        some (merge w.watcher.pendingEnv env) := by
      cases env with
      | none => rfl
      | some env => exact congrArg (some ∘ some) (overlay_eq_update _ env)
    rw [hpending]
    refine h.nothingLost.put (fun p hp => ?_) env
    obtain ⟨_, -, rfl⟩ := Option.map_eq_some_iff.mp hp
    rfl

theorem changed (h : Answered w) {event : WatchEvent}
    (hok : flushesFreely o w (.changed event) = true) : Answered (w.changed o event) := by
  cases event with
  | file => exact h.triggerRestart _ none
  | envFile parsed =>
    cases parsed with
    | none => cases hok
    | some parsed => exact h.triggerRestart _ (some parsed)
  | processEnv env => exact h.triggerRestart _ (some env)

theorem startWatchers (h : Answered w) : Answered w.startWatchers := by
  unfold Watched.startWatchers
  split
  · exact h
  · exact { h with }

theorem install (h : Answered w) : Answered (w.install o) := by
  unfold Watched.install
  simp only
  split
  · exact { h with }
  · exact startWatchers { h with }

/-- Somebody else's roll begins, or is ignored. -/
theorem restartWorkers (h : Answered w) (opts : RestartOptions)
    (hserving : (w.primary.restartWorkers e opts).isShuttingDown = false) :
    Answered (w.restartWorkers e opts) where
  serving := hserving
  armed := h.armed
  nothingLost := by
    unfold Watched.restartWorkers
    simp only
    split
    · exact h.nothingLost.handed opts.env
    · exact h.nothingLost

/-- An unthrottled flush begins a roll with all that is pending. -/
theorem flushRestart (h : Answered w) (hdry : o.dryRun = false)
    (hok : (w.throttled o || w.primary.roll.isNone && w.watcher.pendingEnv.all isSafeEnvObject) =
      true)
    (hserving : (w.flushRestart e o).primary.isShuttingDown = false) :
    Answered (w.flushRestart e o) := by
  rcases flushRestart_outcome (e := e) (w := w) hdry with
    ⟨-, p, hreason, henv, htimer, heq⟩ | ⟨hfree, opts, p, henv, hreason, heq⟩
  · rw [heq]
    constructor
    case serving => exact h.serving
    case armed => exact fun _ => .inr (.inr htimer)
    case nothingLost =>
      have hpending : p.pending = w.watcher.pending := by
        rw [FileWatcher.pending, FileWatcher.pending, hreason, henv]
      rw [hpending]
      exact h.nothingLost
  · rw [hfree, Bool.false_or, Bool.and_eq_true] at hok
    have hstarts : w.primary.startsRoll opts = true := by
      simp [State.startsRoll, henv, hok, h.serving]
    rw [heq] at hserving ⊢
    constructor
    case serving => exact hserving
    case armed => exact fun hp => by simp [Watched.restartWorkers, hreason] at hp
    case nothingLost =>
      simp only [Watched.restartWorkers, hstarts, if_true]
      rw [FileWatcher.pending, hreason, henv]
      have hlost := h.nothingLost
      cases hwas : w.watcher.pendingReason with
      | none =>
        rw [FileWatcher.pending, hwas] at hlost
        exact hlost.handed _
      | some reason =>
        rw [FileWatcher.pending, hwas] at hlost
        exact hlost.handOver

theorem step {a : WatchAction} (h : Answered w) (hw : WellFormed w.primary)
    (hact : w.act e o a = some x) (hdry : o.dryRun = false) (ha : a.staysInstalled = true)
    (hok : flushesFreely o w a = true) : Answered x := by
  have hserving : x.primary.isShuttingDown = false := by
    rcases Watched.act_primary hact with heq | ⟨a', hne, ha'⟩
    · rw [heq]
      exact h.serving
    · have hnoshut (signal : String) : a' ≠ .shutdownPrimary signal := by
        refine hne signal fun heq => ?_
        rw [heq] at ha
        cases ha
      exact (act_pieces hw ha').preserves (P := fun y => y.isShuttingDown = false) hw
        (fun _ _ _ hy hp => (hp.shutting_eq hnoshut).trans hy) h.serving
  unfold Watched.act at hact
  split at hact
  · rename_i opts
    rw [← Option.some.inj hact] at hserving ⊢
    exact h.restartWorkers opts hserving
  · obtain ⟨s, hs, rfl⟩ := Option.map_eq_some_iff.mp hact
    exact { h with serving := hserving }
  · split at hact
    · rw [← Option.some.inj hact]
      exact h.install
    · cases hact
  · split at hact
    · rw [← Option.some.inj hact]
      exact startWatchers { h with }
    · cases hact
  · split at hact
    · rw [← Option.some.inj hact]
      exact h.changed hok
    · cases hact
  · split at hact
    · rw [← Option.some.inj hact] at hserving ⊢
      exact h.flushRestart hdry hok hserving
    · cases hact
  · split at hact
    · rw [← Option.some.inj hact] at hserving ⊢
      exact h.flushRestart hdry hok hserving
    · cases hact
  · split at hact
    · rw [← Option.some.inj hact] at hserving ⊢
      exact h.flushRestart hdry hok hserving
    · cases hact
  · cases ha
  · cases ha

end Answered

/-- **No watched change is lost**, as long as every flush finds its roll free to begin:
each change was handed to a roll that began after it, or waits for an armed timer. -/
theorem changes_answered (e : Host) (count : WorkerCount) (env : ProcessEnv)
    (o : FileWatcherOptions) (w : Watched) (hdry : o.dryRun = false)
    (hrun : (watchedOrchestrator e count env o).Run
      (fun x a => a.staysInstalled = true ∧ flushesFreely o x a = true)
      (Watched.initial e count env) w)
    (later earlier : List (Entry String (Option String))) (patch : Option ProcessEnv)
    (hlog : w.log = later ++ .put patch :: earlier) :
    HandedOver later patch ∨
      w.watcher.pendingReason.isSome = true ∧ w.watcher.armed ∧
        Carried later patch w.watcher.pendingEnv := by
  have h : Answered w := by
    refine StepSystem.Run.preserves_of hrun .refl (fun x hx => reachable_wellFormed
      (watched_reachable hx)) ?_ ⟨rfl, fun hp => (by cases hp), NothingLost.nil⟩
    intro x a y hw hx hok hstep
    exact hx.step hw (watchedOrchestrator_step hstep).2 hdry hok.1 hok.2
  refine (h.nothingLost later patch earlier hlog).imp_right fun ⟨p, hp, hc⟩ => ?_
  obtain ⟨reason, hreason, rfl⟩ := Option.map_eq_some_iff.mp hp
  have hsome : w.watcher.pendingReason.isSome = true := by
    rw [hreason]
    rfl
  exact ⟨hsome, h.armed hsome, hc⟩

/-- A first change begins a roll, a second one waits. -/
theorem changes_answered_two_changes :
    ∃ w : Watched, w.log.length = 3 ∧ w.watcher.pendingReason.isSome = true ∧
      w.watcher.armed := by
  obtain ⟨w, hrun, hq⟩ := StepSystem.exists_run_of_any
    (watchedOrchestrator {} (.fixed 1) (fun _ => none) {})
    (Watched.initial {} (.fixed 1) fun _ => none)
    (fun x a => a.staysInstalled && flushesFreely {} x a)
    [.primary (.tick 1), .primary .run, .install, .primary .pluginsInstalled,
      .primary (.workerOnline 1), .changed .file, .primary (.tick 300), .debounce, .changed .file]
    (fun w => decide (w.log.length = 3) && w.log.head?.any Entry.isPut) (by decide +kernel)
  simp only [Bool.and_eq_true, decide_eq_true_eq] at hq
  obtain ⟨patch, earlier, hlog⟩ := exists_put_of_head hq.2
  have hrun := hrun.mono fun _ _ hok => Bool.and_eq_true_iff.mp hok
  have h := changes_answered {} _ _ {} w rfl hrun [] earlier patch hlog
  obtain ⟨hreason, harmed, -⟩ := h.resolve_left (not_handedOver_nil patch)
  exact ⟨w, hq.1, hreason, harmed⟩

/-- A file changes while a roll is in progress, and the flush comes before the roll ends. -/
theorem change_lost_in_roll :
    ¬ ∀ (e : Host) (count : WorkerCount) (env : ProcessEnv) (o : FileWatcherOptions) (w : Watched),
      o.dryRun = false →
      (watchedOrchestrator e count env o).Run (fun _ a => a.staysInstalled = true)
        (Watched.initial e count env) w →
      ∀ later earlier patch, w.log = later ++ .put patch :: earlier →
        HandedOver later patch ∨
          w.watcher.pendingReason.isSome = true ∧ w.watcher.armed ∧
            Carried later patch w.watcher.pendingEnv := by
  intro h
  obtain ⟨w, hrun, hq⟩ := StepSystem.exists_run_of_any
    (watchedOrchestrator {} (.fixed 1) (fun _ => none) {})
    (Watched.initial {} (.fixed 1) fun _ => none) (fun _ a => a.staysInstalled)
    [.primary (.tick 1), .primary .run, .install, .primary .pluginsInstalled,
      .primary (.workerOnline 1), .primary (.restartWorkers {}), .changed .file,
      .primary (.tick 300), .debounce]
    (fun w => w.log.head?.any Entry.isPut && w.watcher.pendingReason.isNone) (by decide +kernel)
  simp only [Bool.and_eq_true, Option.isNone_iff_eq_none] at hq
  obtain ⟨patch, earlier, hlog⟩ := exists_put_of_head hq.1
  rcases h {} _ _ {} w rfl hrun [] earlier patch hlog with hover | ⟨hreason, -⟩
  · exact not_handedOver_nil patch hover
  · simp [hq.2] at hreason

end ClusterKit
