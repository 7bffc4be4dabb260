import ClusterKit.Backoff
import ClusterKit.NumericConfig

/-! The delays that are made from the configuration and handed to `setTimeout` and
`setInterval`: single fields, sums of fields, and the backoff, a product that grows from
restart to restart. -/

namespace ClusterKit

open State

/-- The longest delay that a timer of Node keeps; a longer one fires after 1 ms. -/
def TIMEOUT_MAX : ℚ := 2 ^ 31 - 1

namespace Numeric

namespace Config

variable (cfg : Config ℚ)

def workerDrainBudgetMs : ℚ :=
  cfg.shutdown.timeoutMs + cfg.shutdown.sigtermDelayMs + cfg.shutdown.sigintDelayMs + 5000

/-- `delayMs` of `restartWorkerWithBackoff`. -/
def restartDelay (restartBackoffDelay : ℚ) : ℚ :=
  if restartBackoffDelay > 0 then restartBackoffDelay else cfg.restart.backoffMs

/-- What a restart that waited `delayMs` leaves in `restartBackoffDelay`. -/
def nextBackoffDelay (delayMs : ℚ) : ℚ :=
  min (if delayMs > 0 then delayMs * cfg.restart.backoffMultiplier else cfg.restart.backoffMs)
    cfg.restart.maxBackoffMs

end Config

/-- The values that `restartBackoffDelay` takes: the wait that a restart multiplies may be
older than the last reset. -/
inductive RestartBackoffDelay (cfg : Config ℚ) : ℚ → Prop
  | reset : RestartBackoffDelay cfg 0
  | restarted (delay : ℚ) (h : RestartBackoffDelay cfg delay) :
    RestartBackoffDelay cfg (cfg.nextBackoffDelay (cfg.restartDelay delay))

/-- The calls of `setTimeout` and `setInterval` whose delay is made from the
configuration, by the function that makes them. -/
inductive TimerDelay (cfg : Config ℚ) : ℚ → Prop
  | recycle : TimerDelay cfg cfg.workerDrainBudgetMs
  | awaitBoundedWorkerExit : TimerDelay cfg cfg.workerDrainBudgetMs
  | drainRecycledWorker : TimerDelay cfg cfg.shutdown.timeoutMs
  | drainRecycledWorker_sigkill :
    TimerDelay cfg (cfg.shutdown.sigtermDelayMs + cfg.shutdown.sigintDelayMs)
  | waitForWorkerAck : TimerDelay cfg cfg.shutdown.ackTimeoutMs
  | waitForWorkersToExit : TimerDelay cfg cfg.shutdown.timeoutMs
  | killWorkerGradually_sigterm : TimerDelay cfg cfg.shutdown.sigtermDelayMs
  | killWorkerGradually_sigint : TimerDelay cfg cfg.shutdown.sigintDelayMs
  | shutdownPrimary : TimerDelay cfg cfg.shutdown.timeoutMs
  | startWorker : TimerDelay cfg cfg.shutdown.timeoutMs
  | scheduleBackoffReset (h : cfg.restart.stabilityWindowMs ≠ 0) :
    TimerDelay cfg cfg.restart.stabilityWindowMs
  | restartWorkerWithBackoff (restartBackoffDelay : ℚ)
    (h : RestartBackoffDelay cfg restartBackoffDelay) (hpos : cfg.restartDelay restartBackoffDelay > 0) :
    TimerDelay cfg (cfg.restartDelay restartBackoffDelay)
  | recomputeFleetHealth (h : 0 < cfg.health.degradedAfterMs) :
    TimerDelay cfg cfg.health.degradedAfterMs
  | startWorkerReporting (h : 0 < cfg.health.heartbeatMs) : TimerDelay cfg cfg.health.heartbeatMs
  | startWedgedWatch (h : 0 < cfg.health.wedgedTimeoutMs) : TimerDelay cfg cfg.health.heartbeatMs

/-! ## The backoff -/

section

variable {cfg : Config ℚ} {delay : ℚ}

theorem RestartBackoffDelay.le_max (h : RestartBackoffDelay cfg delay)
    (hmax : 0 ≤ cfg.restart.maxBackoffMs) : delay ≤ cfg.restart.maxBackoffMs := by
  cases h with
  | reset => exact hmax
  | restarted delay h => exact min_le_right _ _

/-- A wait is the initial delay, or it is capped. -/
theorem RestartBackoffDelay.restartDelay_le (h : RestartBackoffDelay cfg delay)
    (hranges : InRanges cfg) : cfg.restartDelay delay ≤ 300000 := by
  obtain ⟨hmin, hmax⟩ := hranges.maxBackoffMs
  unfold Config.restartDelay
  split
  · exact (h.le_max ((by norm_num : (0 : ℚ) ≤ 1000).trans hmin)).trans hmax
  · exact hranges.backoffMs.2.trans (by norm_num)

end

/-! ## The bound -/

/-- Every delay is short, but for the heartbeat and the degradation timer. -/
theorem TimerDelay.short {cfg : Config ℚ} {delay : ℚ} (h : TimerDelay cfg delay)
    (hranges : InRanges cfg) :
    delay ≤ 600000 ∨ delay = cfg.health.heartbeatMs ∨ delay = cfg.health.degradedAfterMs := by
  have htimeout := hranges.timeoutMs.2
  have hsigterm := hranges.sigtermDelayMs.2
  have hsigint := hranges.sigintDelayMs.2
  have hbudget : cfg.workerDrainBudgetMs ≤ 600000 := by
    unfold Config.workerDrainBudgetMs
    linarith only [htimeout, hsigterm, hsigint]
  cases h with
  | recycle | awaitBoundedWorkerExit => exact .inl hbudget
  | drainRecycledWorker | waitForWorkersToExit | shutdownPrimary | startWorker =>
    exact .inl (htimeout.trans (by norm_num))
  | drainRecycledWorker_sigkill => exact .inl (by linarith only [hsigterm, hsigint])
  | waitForWorkerAck => exact .inl (hranges.ackTimeoutMs.2.trans (by norm_num))
  | killWorkerGradually_sigterm => exact .inl (hsigterm.trans (by norm_num))
  | killWorkerGradually_sigint => exact .inl (hsigint.trans (by norm_num))
  | scheduleBackoffReset hne => exact .inl hranges.stabilityWindowMs.2
  | restartWorkerWithBackoff d hd hpos => exact .inl ((hd.restartDelay_le hranges).trans (by norm_num))
  | recomputeFleetHealth hpos => exact .inr (.inr rfl)
  | startWorkerReporting hpos | startWedgedWatch hpos => exact .inr (.inl rfl)

/-- **Timer delays.** The validator bounds every one of them but two: given that it
accepts a configuration, its delays are in range if and only if these two fields are. -/
theorem timerDelays_inRange_iff (config : Config (Option ℚ)) (messagePrefix : Option String)
    (cfg : Config ℚ) (h : validateConfig config messagePrefix = .ok cfg) :
    (∀ delay, TimerDelay cfg delay → delay ≤ TIMEOUT_MAX) ↔
      (∀ ms ∈ config.health.heartbeatMs, ms ≤ TIMEOUT_MAX) ∧
        ∀ ms ∈ config.health.degradedAfterMs, ms ≤ TIMEOUT_MAX := by
  obtain ⟨hranges, -, hresolved⟩ := validateConfig_ok h
  have hheartbeat : cfg.health.heartbeatMs = config.health.heartbeatMs.getD 0 := by
    rw [hresolved]
    rfl
  have hdegraded : cfg.health.degradedAfterMs = config.health.degradedAfterMs.getD 0 := by
    rw [hresolved]
    rfl
  have hzero : (0 : ℚ) ≤ TIMEOUT_MAX := by norm_num [TIMEOUT_MAX]
  constructor
  · intro hall
    constructor
    · intro ms hms
      rw [Option.mem_def.mp hms, Option.getD_some] at hheartbeat
      rcases le_or_gt ms 0 with hneg | hpos
      · exact hneg.trans hzero
      · exact hheartbeat ▸ hall _ (.startWorkerReporting (hheartbeat ▸ hpos))
    · intro ms hms
      rw [Option.mem_def.mp hms, Option.getD_some] at hdegraded
      rcases le_or_gt ms 0 with hneg | hpos
      · exact hneg.trans hzero
      · exact hdegraded ▸ hall _ (.recomputeFleetHealth (hdegraded ▸ hpos))
  · rintro ⟨hhb, hdeg⟩ delay hdelay
    rcases hdelay.short hranges with hshort | rfl | rfl
    · exact hshort.trans (by norm_num [TIMEOUT_MAX])
    · rw [hheartbeat]
      cases hgiven : config.health.heartbeatMs with
      | none => exact hzero
      | some ms => exact hhb ms hgiven
    · rw [hdegraded]
      cases hgiven : config.health.degradedAfterMs with
      | none => exact hzero
      | some ms => exact hdeg ms hgiven

/-- A heartbeat every ten seconds. -/
theorem timerDelays_inRange_ten_seconds :
    ∃ cfg, validateConfig (ofInput { health := { heartbeatMs := some 10000 } }) none = .ok cfg ∧
      ∀ delay, TimerDelay cfg delay → delay ≤ TIMEOUT_MAX := by
  have hok : validateConfig (ofInput { health := { heartbeatMs := some 10000 } }) none =
      .ok (ofResolved { health := { heartbeatMs := 10000 } }) :=
    validateConfig_of_ok { health := { heartbeatMs := some 10000 } } rfl
  refine ⟨_, hok, (timerDelays_inRange_iff _ none _ hok).mpr ⟨?_, ?_⟩⟩
  · rintro ms hms
    rw [← Option.some.inj hms]
    norm_num [TIMEOUT_MAX]
  · rintro ms ⟨⟩

/-- The validator accepts a heartbeat interval of `2 ^ 31` ms. -/
theorem timerDelays_out_of_range :
    ¬ ∀ (config : Config (Option ℚ)) (messagePrefix : Option String) (cfg : Config ℚ),
      validateConfig config messagePrefix = .ok cfg →
        ∀ delay, TimerDelay cfg delay → delay ≤ TIMEOUT_MAX := by
  intro h
  have hok : validateConfig (ofInput { health := { heartbeatMs := some 2147483648 } }) none =
      .ok (ofResolved { health := { heartbeatMs := 2147483648 } }) :=
    validateConfig_of_ok { health := { heartbeatMs := some 2147483648 } } rfl
  have hdelay := h _ none _ hok _ (.startWorkerReporting (by norm_num [ofResolved]))
  norm_num [ofResolved, TIMEOUT_MAX] at hdelay

end Numeric

/-! ## The waits of the restart queue -/

section

open Numeric

variable {e : Host} {s t : State} {v w : QueueView}

/-- The delay of the queue and its wait are those of the configuration's backoff. -/
structure QueueView.BackoffDelays (e : Host) (v : QueueView) : Prop where
  delay : RestartBackoffDelay (ofResolved e.cfg) v.backoffDelay
  wait : ∀ entry delayMs since, v.frame = some (.backoff entry delayMs since) →
    ∃ d, RestartBackoffDelay (ofResolved e.cfg) d ∧ delayMs = (ofResolved e.cfg).restartDelay d

namespace QueueView.BackoffDelays

theorem attempted {entry : RestartQueueEntry} {d : ℚ} (h : v.BackoffDelays e)
    (hd : RestartBackoffDelay (ofResolved e.cfg) d)
    (ha : Attempted e entry ((ofResolved e.cfg).restartDelay d) s v w) : w.BackoffDelays e := by
  refine ⟨?_, fun _ _ _ hf => ?_⟩
  · cases ha with
    | restarted => exact .restarted d hd
    | stopped | requeued | gaveUp => exact h.delay
  · rw [ha.frame] at hf
    cases hf

theorem loopRan (h : v.BackoffDelays e) (hv : v.backoffDelay = s.restart.restartBackoffDelay)
    (hl : LoopRan e s v w) : w.BackoffDelays e := by
  have hdelay : RestartBackoffDelay (ofResolved e.cfg) s.restart.restartBackoffDelay := hv ▸ h.delay
  cases hl with
  | ended =>
    refine ⟨h.delay, fun _ _ _ hf => ?_⟩
    cases hf
  | waits entry rest hq hs hpos =>
    refine ⟨h.delay, fun _ _ _ hf => ?_⟩
    cases hf
    exact ⟨_, hdelay, rfl⟩
  | tried entry rest w hq hs hpos ha =>
    have hrest : ({ v with queue := rest } : QueueView).BackoffDelays e := ⟨h.delay, h.wait⟩
    exact hrest.attempted hdelay ha

theorem act {a : Action} (h : s.queueView.BackoffDelays e) (hw : WellFormed s)
    (hact : s.act e a = some t) : t.queueView.BackoffDelays e := by
  cases ha : a.runsQueue with
  | false =>
    have hframe : t.queueView.frame = s.queueView.frame := (QueueKept.act hw ha hact).frame
    refine ⟨?_, fun entry delayMs since hf => h.wait entry delayMs since (hframe ▸ hf)⟩
    show RestartBackoffDelay _ t.restart.restartBackoffDelay
    rw [backoffDelay_of_act hw ha hact]
    split
    · exact .reset
    · exact h.delay
  | true =>
    have hfound : (foundQueue s a).BackoffDelays e := by
      cases a with
      | resetCircuitBreaker => exact ⟨.reset, h.wait⟩
      | _ => exact h
    cases queueSegment_of_act hw ha hact with
    | untouched a t harr hv => exact hv ▸ hfound
    | kicked a t x hx hs ht hk =>
      have hqueued : x.queueView.BackoffDelays e := by
        rw [hx]
        exact ⟨hfound.delay, hfound.wait⟩
      rcases hk.cases with ⟨-, hv⟩ | ⟨-, hl⟩
      · exact hv ▸ hqueued
      · have hrunning : ({ x.queueView with running := true } : QueueView).BackoffDelays e :=
          ⟨hqueued.delay, hqueued.wait⟩
        exact hrunning.loopRan rfl hl
    | abandoned t entry delayMs since hf hs hv =>
      rw [hv]
      refine ⟨h.delay, fun _ _ _ hf => ?_⟩
      cases hf
    | attempted t entry delayMs since hf hdue hs ha =>
      obtain ⟨d, hd, rfl⟩ := h.wait entry delayMs since hf
      exact h.attempted hd ha
    | resumed t hf hl =>
      have hresumed : ({ s.queueView with frame := none } : QueueView).BackoffDelays e := by
        refine ⟨h.delay, fun _ _ _ hf => ?_⟩
        cases hf
      exact hresumed.loopRan rfl hl

end QueueView.BackoffDelays

/-- **The queue.** Every wait of the restart queue is one of the delays above. -/
theorem reachable_wait_timerDelay {count : WorkerCount} {env : ProcessEnv}
    {entry : RestartQueueEntry} {delayMs : ℚ} {since : Nat}
    (h : (orchestrator e count env).Reachable s)
    (hf : s.restart.frame = some (.backoff entry delayMs since)) :
    TimerDelay (ofResolved e.cfg) delayMs := by
  have hdelays : s.queueView.BackoffDelays e := by
    refine run_preserves h ?_ fun _ _ _ hw hx _ hact => QueueView.BackoffDelays.act hx hw hact
    refine ⟨.reset, fun _ _ _ hf => ?_⟩
    cases hf
  have hpos : 0 < delayMs := reachable_waitsPositive h entry delayMs since hf
  obtain ⟨d, hd, rfl⟩ := hdelays.wait entry delayMs since hf
  exact .restartWorkerWithBackoff d hd hpos

end

end ClusterKit
