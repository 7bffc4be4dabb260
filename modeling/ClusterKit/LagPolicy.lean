import ClusterKit.HealthMonitor
import ClusterKit.Lib.Alarm

/-! The class `HealthMonitor` by itself: what a message makes it ask of its `deps`,
and when it asks for a recycle because of event-loop lag. The orchestrator's
handler is the monitor with its requests carried out. -/

namespace ClusterKit

/-- A call of one of the `deps`. -/
inductive HealthRequest where
  | onHealthReport (report : WorkerHealthReport)
  | recycleWorker (workerId : Nat) (reason : RecycleReason)
  deriving DecidableEq

namespace HealthMonitor

def checkRssLimit (cfg : ResolvedConfig) (isShuttingDown : Bool) (id : Nat)
    (report : WorkerHealthReport) (h : HealthMonitor) : HealthMonitor × List HealthRequest :=
  let limitMb := cfg.workers.maxRssMb
  if limitMb = 0 || isShuttingDown then (h, [])
  else if id ∈ h.rssRecycled then (h, [])
  else if report.rss ≤ limitMb * 1024 * 1024 then (h, [])
  else ({ h with rssRecycled := insert id h.rssRecycled }, [.recycleWorker id .rss])

/-- Stop counting beats and ask for the recycle, once per worker. -/
def lagRecycle (id : Nat) (h : HealthMonitor) : HealthMonitor × List HealthRequest :=
  ({ h with lagBeats := h.lagBeats.delete id, lagRecycled := insert id h.lagRecycled },
    [.recycleWorker id .lag])

def checkLagLimit (cfg : ResolvedConfig) (isShuttingDown : Bool) (id : Nat)
    (report : WorkerHealthReport) (h : HealthMonitor) : HealthMonitor × List HealthRequest :=
  if isShuttingDown then (h, [])
  else if id ∈ h.lagRecycled then (h, [])
  else
    let spikeMs := cfg.health.lagSpikeMs
    if spikeMs > 0 && decide (report.eventLoopLagMs > spikeMs) then h.lagRecycle id
    else
      let thresholdMs := cfg.health.maxEventLoopLagMs
      if thresholdMs = 0 then (h, [])
      else if report.eventLoopLagMs > thresholdMs then
        let beats := (h.lagBeats.get? id).getD 0 + 1
        if beats < cfg.health.lagRecycleBeats then
          ({ h with lagBeats := h.lagBeats.set id beats }, [])
        else h.lagRecycle id
      else ({ h with lagBeats := h.lagBeats.delete id }, [])

/-- `onWorkerMessage(workerId, pid, msg)` -/
def onWorkerMessage (cfg : ResolvedConfig) (isShuttingDown : Bool) (now id : Nat)
    (msg : Option Message) (h : HealthMonitor) : HealthMonitor × List HealthRequest :=
  if !isTypedMessage msg (cfg.shutdown.messagePrefix ++ ":hb") then (h, [])
  else if id ∈ h.exitedWorkerIds then (h, [])
  else
    match msg with
    | some { rss := some rss, heapUsed := some heapUsed, eventLoopLagMs := some lag, .. } =>
      let report : WorkerHealthReport :=
        { workerId := id, rss := rss, heapUsed := heapUsed, eventLoopLagMs := lag }
      let h := { h with registry := h.registry.set id (now, report) }
      let rss := h.checkRssLimit cfg isShuttingDown id report
      let lag := rss.1.checkLagLimit cfg isShuttingDown id report
      (lag.1, .onHealthReport report :: rss.2 ++ lag.2)
    | _ => (h, [])

/-- `onWorkerExit(workerId)` -/
def onWorkerExit (id : Nat) (h : HealthMonitor) : HealthMonitor :=
  { h with
    exitedWorkerIds := insert id h.exitedWorkerIds
    registry := h.registry.delete id
    rssRecycled := h.rssRecycled.erase id
    lagRecycled := h.lagRecycled.erase id
    lagBeats := h.lagBeats.delete id }

end HealthMonitor

/-! ## The monitor inside the orchestrator -/

namespace State

/-- What the orchestrator passes to the monitor as `deps`. -/
def performHealth (e : Host) (s : State) : HealthRequest → State
  | .onHealthReport report => s.emit (.workerHealth report)
  | .recycleWorker id reason => s.triggerWorkerRecycle e id reason

def performHealthAll (e : Host) (s : State) (requests : List HealthRequest) : State :=
  requests.foldl (performHealth e) s

/-- The monitor's own state is nobody else's: forking neither reads nor writes it. -/
theorem forkWorker_modifyHealth (e : Host) (cause : ForkCause) (f : HealthMonitor → HealthMonitor)
    (s : State) :
    forkWorker e cause none (s.modifyHealth f) =
      ((forkWorker e cause none s).1, (forkWorker e cause none s).2.modifyHealth f) := by
  rw [forkWorker, forkWorker]
  show (if !isSafeEnvObject s.orch.env || _ then _ else if (s.forkCall e cause none).succeeded
    then _ else _) = _
  split
  · rfl
  · dsimp only
    split <;> rfl

theorem recycleWorkerNow_modifyHealth (e : Host) (id : Nat) (f : HealthMonitor → HealthMonitor)
    (s : State) :
    recycleWorkerNow e id (s.modifyHealth f) =
      ((recycleWorkerNow e id s).1, (recycleWorkerNow e id s).2.modifyHealth f) := by
  rw [recycleWorkerNow, recycleWorkerNow]
  show (if s.isShuttingDown || s.isMarkedForRecycling id then _
    else if id ∉ s.getActiveWorkers then _ else _) = _
  split
  · rfl
  · split
    · rfl
    · dsimp only
      rw [show (s.modifyHealth f).markForRecycling id = (s.markForRecycling id).modifyHealth f
        from rfl, forkWorker_modifyHealth]
      rcases forkWorker e (.health id) none (s.markForRecycling id) with ⟨_ | new, t⟩
      · rfl
      · rfl

theorem triggerWorkerRecycle_modifyHealth (e : Host) (id : Nat) (reason : RecycleReason)
    (f : HealthMonitor → HealthMonitor) (s : State) :
    (s.modifyHealth f).triggerWorkerRecycle e id reason =
      (s.triggerWorkerRecycle e id reason).modifyHealth f := by
  rw [triggerWorkerRecycle, triggerWorkerRecycle]
  show (if s.isMarkedForRecycling id then _ else _) = _
  split
  · rfl
  · rw [show (s.modifyHealth f).setRecycleReason id reason =
      (s.setRecycleReason id reason).modifyHealth f from rfl, recycleWorkerNow_modifyHealth]
    rcases recycleWorkerNow e id (s.setRecycleReason id reason) with ⟨_ | _, t⟩
    · rfl
    · rfl

theorem forkWorker_isShuttingDown (e : Host) (cause : ForkCause) (s : State) :
    (forkWorker e cause none s).2.isShuttingDown = s.isShuttingDown := by
  rw [forkWorker]
  split
  · rfl
  · dsimp only
    split <;> rfl

theorem recycleWorkerNow_isShuttingDown (e : Host) (id : Nat) (s : State) :
    (recycleWorkerNow e id s).2.isShuttingDown = s.isShuttingDown := by
  rw [recycleWorkerNow]
  split
  · rfl
  · split
    · rfl
    · have h := forkWorker_isShuttingDown e (.health id) (s.markForRecycling id)
      dsimp only
      generalize forkWorker e (.health id) none (s.markForRecycling id) = r at h ⊢
      obtain ⟨_ | new, t⟩ := r
      · exact h
      · exact h

theorem triggerWorkerRecycle_isShuttingDown (e : Host) (id : Nat) (reason : RecycleReason)
    (s : State) : (s.triggerWorkerRecycle e id reason).isShuttingDown = s.isShuttingDown := by
  rw [triggerWorkerRecycle]
  split
  · rfl
  · have h := recycleWorkerNow_isShuttingDown e id (s.setRecycleReason id reason)
    generalize recycleWorkerNow e id (s.setRecycleReason id reason) = r at h ⊢
    obtain ⟨_ | _, t⟩ := r
    · exact h
    · exact h

theorem performHealth_isShuttingDown (e : Host) (s : State) (q : HealthRequest) :
    (s.performHealth e q).isShuttingDown = s.isShuttingDown := by
  cases q with
  | onHealthReport report => rfl
  | recycleWorker id reason => exact triggerWorkerRecycle_isShuttingDown e id reason s

theorem performHealth_modifyHealth (e : Host) (f : HealthMonitor → HealthMonitor) (s : State)
    (q : HealthRequest) :
    (s.modifyHealth f).performHealth e q = (s.performHealth e q).modifyHealth f := by
  cases q with
  | onHealthReport report => rfl
  | recycleWorker id reason => exact triggerWorkerRecycle_modifyHealth e id reason f s

theorem performHealthAll_modifyHealth (e : Host) (f : HealthMonitor → HealthMonitor) (s : State)
    (requests : List HealthRequest) :
    (s.modifyHealth f).performHealthAll e requests =
      (s.performHealthAll e requests).modifyHealth f := by
  induction requests generalizing s with
  | nil => rfl
  | cons q requests ih =>
    show ((s.modifyHealth f).performHealth e q).performHealthAll e requests = _
    rw [performHealth_modifyHealth, ih]
    rfl

theorem performHealthAll_isShuttingDown (e : Host) (s : State) (requests : List HealthRequest) :
    (s.performHealthAll e requests).isShuttingDown = s.isShuttingDown := by
  induction requests generalizing s with
  | nil => rfl
  | cons q requests ih => exact (ih _).trans (performHealth_isShuttingDown e s q)

/-- The monitor in the state `r.1` asks for `r.2`. -/
def healthTurn (e : Host) (r : HealthMonitor × List HealthRequest) (s : State) : State :=
  (s.modifyHealth fun _ => r.1).performHealthAll e r.2

theorem checkRssLimit_eq (e : Host) (id : Nat) (report : WorkerHealthReport) (s : State) :
    s.checkRssLimit e id report =
      s.healthTurn e (s.health.checkRssLimit e.cfg s.isShuttingDown id report) := by
  unfold checkRssLimit HealthMonitor.checkRssLimit
  dsimp only
  split
  · rfl
  · split
    · rfl
    · split <;> rfl

theorem checkLagLimit_eq (e : Host) (id : Nat) (report : WorkerHealthReport) (s : State) :
    s.checkLagLimit e id report =
      s.healthTurn e (s.health.checkLagLimit e.cfg s.isShuttingDown id report) := by
  unfold checkLagLimit HealthMonitor.checkLagLimit
  dsimp only
  split
  · rfl
  · split
    · rfl
    · split
      · rfl
      · split
        · rfl
        · split
          · split <;> rfl
          · rfl

theorem healthTurn_health (e : Host) (r : HealthMonitor × List HealthRequest) (s : State) :
    (s.healthTurn e r).health = r.1 := by
  rw [healthTurn, performHealthAll_modifyHealth]
  rfl

theorem healthTurn_isShuttingDown (e : Host) (r : HealthMonitor × List HealthRequest) (s : State) :
    (s.healthTurn e r).isShuttingDown = s.isShuttingDown :=
  performHealthAll_isShuttingDown e _ r.2

/-- The monitor may finish its own changes before its requests are carried out. -/
theorem healthTurn_trans (e : Host) (r q : HealthMonitor × List HealthRequest) (s : State) :
    (s.healthTurn e r).healthTurn e q = s.healthTurn e (q.1, r.2 ++ q.2) := by
  rw [healthTurn, healthTurn, healthTurn, performHealthAll_modifyHealth,
    performHealthAll_modifyHealth, performHealthAll_modifyHealth, performHealthAll_modifyHealth]
  unfold performHealthAll
  rw [List.foldl_append]
  rfl

/-- **The orchestrator's handler is the monitor's, with the requests carried out.** -/
theorem onHealthMessage_eq (e : Host) (id : Nat) (msg : Option Message) (s : State) :
    s.onHealthMessage e id msg =
      s.healthTurn e (s.health.onWorkerMessage e.cfg s.isShuttingDown s.now id msg) := by
  unfold onHealthMessage HealthMonitor.onWorkerMessage
  split
  · rfl
  · split
    · rfl
    · obtain _ | ⟨type, _ | rss, _ | heapUsed, _ | lag⟩ := msg
      case isFalse.isFalse.some.some.some.some =>
        dsimp only
        rw [checkRssLimit_eq, checkLagLimit_eq, healthTurn_health, healthTurn_isShuttingDown,
          healthTurn_trans]
        rfl
      all_goals rfl

theorem healthOnWorkerExit_eq (id : Nat) (s : State) :
    s.healthOnWorkerExit id = s.modifyHealth (HealthMonitor.onWorkerExit id) := rfl

end State

/-! ## The lag policy on a trace -/

/-- What reaches the monitor: an IPC message of a worker, or its exit. -/
inductive MonitorInput where
  | message (now workerId : Nat) (msg : Option Message)
  | exit (workerId : Nat)

namespace HealthMonitor

/-- One input, outside a shutdown. -/
def handle (cfg : ResolvedConfig) (h : HealthMonitor) :
    MonitorInput → HealthMonitor × List HealthRequest
  | .message now id msg => h.onWorkerMessage cfg false now id msg
  | .exit id => (h.onWorkerExit id, [])

/-- The monitor after a history of inputs, newest first. -/
def after (cfg : ResolvedConfig) : List MonitorInput → HealthMonitor
  | [] => {}
  | i :: past => ((after cfg past).handle cfg i).1

/-- All requests of a history, newest first. -/
def requests (cfg : ResolvedConfig) : List MonitorInput → List HealthRequest
  | [] => []
  | i :: past => ((after cfg past).handle cfg i).2 ++ requests cfg past

end HealthMonitor

/-- The lag that a valid heartbeat reports. -/
def heartbeatLag (cfg : ResolvedConfig) (msg : Option Message) : Option Int :=
  match msg with
  | some { type, rss := some _, heapUsed := some _, eventLoopLagMs := some lag } =>
    if type = cfg.shutdown.messagePrefix ++ ":hb" then some lag else none
  | _ => none

/-- What a valid heartbeat looks like. -/
theorem heartbeatLag_ne_none {cfg : ResolvedConfig} {msg : Option Message}
    (h : heartbeatLag cfg msg ≠ none) : ∃ rss heapUsed lag,
      msg = some ⟨cfg.shutdown.messagePrefix ++ ":hb", some rss, some heapUsed, some lag⟩ := by
  obtain _ | ⟨type, _ | rss, _ | heapUsed, _ | lag⟩ := msg
  case some.some.some.some =>
    simp only [heartbeatLag, ne_eq, ite_eq_right_iff, reduceCtorEq, imp_false, not_not] at h
    exact ⟨rss, heapUsed, lag, by rw [h]⟩
  all_goals exact absurd rfl h

namespace MonitorInput

/-- The lag reported, if this is a valid heartbeat of the worker. -/
def lagOf (cfg : ResolvedConfig) (w : Nat) : MonitorInput → Option Int
  | message _ id msg => if id = w then heartbeatLag cfg msg else none
  | exit _ => none

/-- A valid heartbeat of the worker, or its exit. -/
def concerns (cfg : ResolvedConfig) (w : Nat) : MonitorInput → Bool
  | message now id msg => (lagOf cfg w (message now id msg)).isSome
  | exit id => id == w

end MonitorInput

/-- The lags of all valid heartbeats of a worker. -/
def lagsOf (cfg : ResolvedConfig) (w : Nat) (past : List MonitorInput) : List Int :=
  past.filterMap (MonitorInput.lagOf cfg w)

/-- What the two lag settings ask for; 0 disables a limit. -/
def lagPolicy (cfg : ResolvedConfig) : AlarmPolicy Int where
  spike lag := cfg.health.lagSpikeMs > 0 && decide (lag > cfg.health.lagSpikeMs)
  high lag := cfg.health.maxEventLoopLagMs > 0 && decide (lag > cfg.health.maxEventLoopLagMs)
  row := cfg.health.lagRecycleBeats

namespace HealthMonitor

variable {cfg : ResolvedConfig} {id w : Nat} {report : WorkerHealthReport} {h : HealthMonitor}

/-- The streak of a worker; `none` once its recycle was asked for. -/
def lagCounter (h : HealthMonitor) (w : Nat) : Option Nat :=
  if w ∈ h.lagRecycled then none else some ((h.lagBeats.get? w).getD 0)

theorem lagCounter_of_not_mem (hw : w ∉ h.lagRecycled) :
    h.lagCounter w = some ((h.lagBeats.get? w).getD 0) := if_neg hw

theorem lagCounter_lagRecycle : (h.lagRecycle id).1.lagCounter id = none :=
  if_pos (Finset.mem_insert_self id _)

theorem lagCounter_lagRecycle_of_ne (hw : w ≠ id) :
    (h.lagRecycle id).1.lagCounter w = h.lagCounter w := by
  simp [lagCounter, lagRecycle, OrdMap.get?_delete, Finset.mem_insert, hw]

theorem lagCounter_delete (hid : id ∉ h.lagRecycled) :
    lagCounter { h with lagBeats := h.lagBeats.delete id } id = some 0 := by
  simp [lagCounter, OrdMap.get?_delete, hid]

theorem lagCounter_set (hid : id ∉ h.lagRecycled) (beats : Nat) :
    lagCounter { h with lagBeats := h.lagBeats.set id beats } id = some beats := by
  simp [lagCounter, OrdMap.get?_set, hid]

/-- **Step lemma.** The lag check is one step of the alarm on the worker's counter. -/
theorem checkLagLimit_step (report : WorkerHealthReport)
    (hoff : cfg.health.maxEventLoopLagMs = 0 → ∀ k, h.lagCounter id = some k → k = 0) :
    (h.checkLagLimit cfg false id report).1.lagCounter id =
        ((lagPolicy cfg).step report.eventLoopLagMs (h.lagCounter id)).1 ∧
      (h.checkLagLimit cfg false id report).2 =
        if ((lagPolicy cfg).step report.eventLoopLagMs (h.lagCounter id)).2
        then [.recycleWorker id .lag] else [] := by
  rw [checkLagLimit, if_neg Bool.false_ne_true]
  by_cases hid : id ∈ h.lagRecycled
  · rw [if_pos hid, lagCounter, if_pos hid]
    exact ⟨rfl, rfl⟩
  · rw [if_neg hid, lagCounter_of_not_mem hid, AlarmPolicy.step]
    dsimp only
    cases hs : (lagPolicy cfg).spike report.eventLoopLagMs with
    | true =>
      have hs' : (_ && _) = true := hs
      rw [if_pos hs', if_pos rfl]
      exact ⟨lagCounter_lagRecycle, rfl⟩
    | false =>
      have hs' : (_ && _) = false := hs
      rw [if_neg (ne_true_of_eq_false hs'), if_neg Bool.false_ne_true]
      by_cases h0 : cfg.health.maxEventLoopLagMs = 0
      · have hh : (lagPolicy cfg).high report.eventLoopLagMs = false := by
          simp [lagPolicy, h0]
        rw [if_pos h0, hh, if_neg Bool.false_ne_true, lagCounter_of_not_mem hid,
          hoff h0 _ (lagCounter_of_not_mem hid)]
        exact ⟨rfl, rfl⟩
      · have hh : (lagPolicy cfg).high report.eventLoopLagMs =
            decide (report.eventLoopLagMs > cfg.health.maxEventLoopLagMs) := by
          simp [lagPolicy, Nat.pos_of_ne_zero h0]
        rw [if_neg h0, hh]
        by_cases hl : report.eventLoopLagMs > cfg.health.maxEventLoopLagMs
        · rw [if_pos hl, if_pos (decide_eq_true hl)]
          by_cases hb : (h.lagBeats.get? id).getD 0 + 1 < cfg.health.lagRecycleBeats
          · have hb' : (h.lagBeats.get? id).getD 0 + 1 < (lagPolicy cfg).row := hb
            rw [if_pos hb, if_pos hb']
            exact ⟨lagCounter_set hid _, rfl⟩
          · have hb' : ¬ (h.lagBeats.get? id).getD 0 + 1 < (lagPolicy cfg).row := hb
            rw [if_neg hb, if_neg hb']
            exact ⟨lagCounter_lagRecycle, rfl⟩
        · rw [if_neg hl, if_neg (by simpa using hl)]
          exact ⟨lagCounter_delete hid, rfl⟩

theorem checkLagLimit_of_ne (hw : w ≠ id) :
    (h.checkLagLimit cfg false id report).1.lagCounter w = h.lagCounter w := by
  rw [checkLagLimit, if_neg Bool.false_ne_true]
  dsimp only
  split
  · rfl
  · split
    · exact lagCounter_lagRecycle_of_ne hw
    · split
      · rfl
      · split
        · split
          · simp [lagCounter, OrdMap.get?_set, hw]
          · exact lagCounter_lagRecycle_of_ne hw
        · simp [lagCounter, OrdMap.get?_delete, hw]

theorem checkLagLimit_exited :
    (h.checkLagLimit cfg false id report).1.exitedWorkerIds = h.exitedWorkerIds := by
  rw [checkLagLimit, if_neg Bool.false_ne_true]
  dsimp only
  split
  · rfl
  · split
    · rfl
    · split
      · rfl
      · split
        · split <;> rfl
        · rfl

theorem mem_checkLagLimit {q : HealthRequest}
    (hq : q ∈ (h.checkLagLimit cfg false id report).2) : q = .recycleWorker id .lag := by
  have hlag : q ∈ (h.lagRecycle id).2 → q = .recycleWorker id .lag := List.mem_singleton.mp
  rw [checkLagLimit, if_neg Bool.false_ne_true] at hq
  dsimp only at hq
  split at hq
  · exact absurd hq List.not_mem_nil
  · split at hq
    · exact hlag hq
    · split at hq
      · exact absurd hq List.not_mem_nil
      · split at hq
        · split at hq
          · exact absurd hq List.not_mem_nil
          · exact hlag hq
        · exact absurd hq List.not_mem_nil

theorem onWorkerMessage_ignored {b : Bool} {now : Nat} {msg : Option Message}
    (hm : heartbeatLag cfg msg = none ∨ id ∈ h.exitedWorkerIds) :
    h.onWorkerMessage cfg b now id msg = (h, []) := by
  unfold onWorkerMessage
  split
  · rfl
  · rename_i ht
    split
    · rfl
    · rename_i hx
      have hm := hm.resolve_right hx
      obtain _ | ⟨type, _ | rss, _ | heapUsed, _ | lag⟩ := msg
      case isFalse.isFalse.some.some.some.some =>
        have ht : type = cfg.shutdown.messagePrefix ++ ":hb" := by
          simpa [isTypedMessage] using ht
        simp [heartbeatLag, ht] at hm
      all_goals rfl

theorem checkRssLimit_lag (cfg : ResolvedConfig) (b : Bool) (id : Nat)
    (report : WorkerHealthReport) (h : HealthMonitor) :
    ((h.checkRssLimit cfg b id report).1.lagCounter = h.lagCounter ∧
      (h.checkRssLimit cfg b id report).1.exitedWorkerIds = h.exitedWorkerIds) ∧
    ((h.checkRssLimit cfg b id report).2 = [] ∨
      (h.checkRssLimit cfg b id report).2 = [.recycleWorker id .rss]) := by
  rw [checkRssLimit]
  split
  · exact ⟨⟨rfl, rfl⟩, Or.inl rfl⟩
  · split
    · exact ⟨⟨rfl, rfl⟩, Or.inl rfl⟩
    · split
      · exact ⟨⟨rfl, rfl⟩, Or.inl rfl⟩
      · exact ⟨⟨rfl, rfl⟩, Or.inr rfl⟩

/-- A valid heartbeat of a worker that has not exited ends in its lag check. -/
theorem onWorkerMessage_beat (now : Nat) {msg : Option Message} {lag : Int}
    (hm : heartbeatLag cfg msg = some lag) (hx : id ∉ h.exitedWorkerIds) :
    ∃ (report : WorkerHealthReport) (h₁ : HealthMonitor) (before : List HealthRequest),
      report.eventLoopLagMs = lag ∧ h₁.lagCounter = h.lagCounter ∧
      h₁.exitedWorkerIds = h.exitedWorkerIds ∧ (∀ v, .recycleWorker v .lag ∉ before) ∧
      h.onWorkerMessage cfg false now id msg =
        ((h₁.checkLagLimit cfg false id report).1,
          before ++ (h₁.checkLagLimit cfg false id report).2) := by
  obtain _ | ⟨type, _ | rss, _ | heapUsed, _ | lag'⟩ := msg
  case some.some.some.some =>
    rw [heartbeatLag] at hm
    split at hm
    · rename_i ht
      obtain rfl := Option.some.inj hm
      let report : WorkerHealthReport :=
        { workerId := id, rss := rss, heapUsed := heapUsed, eventLoopLagMs := lag' }
      let h₀ : HealthMonitor := { h with registry := h.registry.set id (now, report) }
      obtain ⟨⟨hc, he⟩, hq⟩ := checkRssLimit_lag cfg false id report h₀
      refine ⟨report, (h₀.checkRssLimit cfg false id report).1,
        .onHealthReport report :: (h₀.checkRssLimit cfg false id report).2, rfl, hc, he, ?_, ?_⟩
      · intro v hv
        rcases List.mem_cons.mp hv with hv | hv
        · cases hv
        · rcases hq with hq | hq
          · rw [hq] at hv
            exact absurd hv List.not_mem_nil
          · rw [hq, List.mem_singleton] at hv
            cases hv
      · have ht' : isTypedMessage (some ⟨type, some rss, some heapUsed, some lag'⟩)
            (cfg.shutdown.messagePrefix ++ ":hb") = true := by
          simp [isTypedMessage, ht]
        rw [onWorkerMessage, ht', if_neg (by decide), if_neg hx]
    · cases hm
  all_goals cases hm

/-! ### The invariant of a history -/

/-- What the monitor knows of a worker after a history. -/
structure Follows (cfg : ResolvedConfig) (w : Nat) (past : List MonitorInput) (h : HealthMonitor) :
    Prop where
  exited : w ∈ h.exitedWorkerIds ↔ .exit w ∈ past
  counter : .exit w ∉ past → (lagPolicy cfg).Tracks (lagsOf cfg w past) (h.lagCounter w)

/-- The request that a worker be recycled for its lag, in this history at this input. -/
def RequestsLag (cfg : ResolvedConfig) (w : Nat) (past : List MonitorInput) (i : MonitorInput) :
    Prop :=
  .recycleWorker w .lag ∈ ((after cfg past).handle cfg i).2

/-- A worker's lag is due for the first time, before the worker exits. -/
def LagDue (cfg : ResolvedConfig) (w : Nat) (past : List MonitorInput) (i : MonitorInput) : Prop :=
  ∃ lag, i.lagOf cfg w = some lag ∧ .exit w ∉ past ∧ (lagPolicy cfg).Fires (lagsOf cfg w past) lag

theorem follows_nil : Follows cfg w [] {} where
  exited := by simp
  counter _ := (lagPolicy cfg).tracks_nil

/-- A disabled threshold never counts a beat. -/
theorem beats_eq_zero {past : List Int} {c : Option Nat} (h0 : cfg.health.maxEventLoopLagMs = 0)
    (ht : (lagPolicy cfg).Tracks past c) : ∀ k, c = some k → k = 0 := by
  rintro k rfl
  obtain ⟨_, rfl⟩ := ht
  cases past with
  | nil => rfl
  | cons lag past =>
    apply AlarmPolicy.streak_cons_low
    simp [lagPolicy, h0]

theorem lagsOf_cons_none {past : List MonitorInput} {i : MonitorInput} (hi : i.lagOf cfg w = none) :
    lagsOf cfg w (i :: past) = lagsOf cfg w past :=
  List.filterMap_cons_none hi

theorem lagsOf_cons_some {past : List MonitorInput} {i : MonitorInput} {lag : Int}
    (hi : i.lagOf cfg w = some lag) : lagsOf cfg w (i :: past) = lag :: lagsOf cfg w past :=
  List.filterMap_cons_some hi

theorem mem_exit_cons_message {past : List MonitorInput} {now : Nat} {msg : Option Message} :
    MonitorInput.exit w ∈ MonitorInput.message now id msg :: past ↔ MonitorInput.exit w ∈ past := by
  simp

theorem exit_follows {past : List MonitorInput} (hf : Follows cfg w past h) (id : Nat) :
    Follows cfg w (.exit id :: past) (h.onWorkerExit id) where
  exited := by
    show w ∈ insert id h.exitedWorkerIds ↔ _
    rw [Finset.mem_insert, List.mem_cons, MonitorInput.exit.injEq, hf.exited]
  counter hx := by
    rw [List.mem_cons, not_or, MonitorInput.exit.injEq] at hx
    have hc : (h.onWorkerExit id).lagCounter w = h.lagCounter w := by
      simp [lagCounter, onWorkerExit, OrdMap.get?_delete, hx.1]
    rw [hc]
    exact hf.counter hx.2

/-- An input that leaves what the monitor knows of the worker alone. -/
theorem message_follows {past : List MonitorInput} {now : Nat} {msg : Option Message}
    {h' : HealthMonitor} (hf : Follows cfg w past h)
    (hi : (MonitorInput.message now id msg).lagOf cfg w = none ∨ .exit w ∈ past)
    (hc : h'.lagCounter w = h.lagCounter w) (hx : h'.exitedWorkerIds = h.exitedWorkerIds) :
    Follows cfg w (.message now id msg :: past) h' where
  exited := by rw [hx, hf.exited, mem_exit_cons_message]
  counter he := by
    rw [mem_exit_cons_message] at he
    rw [hc, lagsOf_cons_none (hi.resolve_right he)]
    exact hf.counter he

theorem not_lagDue {past : List MonitorInput} {i : MonitorInput}
    (hi : i.lagOf cfg w = none ∨ .exit w ∈ past) : ¬ LagDue cfg w past i := by
  rintro ⟨lag, hl, hx, -⟩
  rw [hi.resolve_right hx] at hl
  cases hl

/-- A heartbeat of the worker is a step of its alarm policy. -/
theorem ownBeat_follows {past : List MonitorInput} (hf : Follows cfg w past h) {lag : Int}
    (now : Nat) {msg : Option Message} (hm : heartbeatLag cfg msg = some lag)
    (hx : w ∉ h.exitedWorkerIds) :
    Follows cfg w (.message now w msg :: past) (h.onWorkerMessage cfg false now w msg).1 ∧
      (h.onWorkerMessage cfg false now w msg).2.count (.recycleWorker w .lag) ≤ 1 ∧
      (.recycleWorker w .lag ∈ (h.onWorkerMessage cfg false now w msg).2 ↔
        LagDue cfg w past (.message now w msg)) := by
  obtain ⟨report, h₁, before, rfl, hc, he, hb, hr⟩ := onWorkerMessage_beat now hm hx
  rw [hr]
  have hlag : (MonitorInput.message now w msg).lagOf cfg w = some report.eventLoopLagMs :=
    (if_pos rfl).trans hm
  have hxp : .exit w ∉ past := fun hin => hx (hf.exited.mpr hin)
  have ht := hf.counter hxp
  rw [← hc] at ht
  have hoff : cfg.health.maxEventLoopLagMs = 0 → ∀ k, h₁.lagCounter w = some k → k = 0 :=
    fun h0 => beats_eq_zero h0 ht
  obtain ⟨hs₁, hs₂⟩ := checkLagLimit_step report hoff
  obtain ⟨ht', hfire⟩ := (lagPolicy cfg).step_tracks ht report.eventLoopLagMs
  have hdue : LagDue cfg w past (.message now w msg) ↔
      (lagPolicy cfg).Fires (lagsOf cfg w past) report.eventLoopLagMs :=
    ⟨fun ⟨lag, hl, _, hd⟩ => (Option.some.inj (hlag.symm.trans hl)) ▸ hd,
      fun hd => ⟨_, hlag, hxp, hd⟩⟩
  refine ⟨⟨?_, fun _ => ?_⟩, ?_, ?_⟩
  · rw [checkLagLimit_exited, he, hf.exited, mem_exit_cons_message]
  · rw [lagsOf_cons_some hlag, hs₁]
    exact ht'
  · rw [List.count_append, List.count_eq_zero.mpr (hb w), hs₂]
    split <;> simp
  · rw [List.mem_append, or_iff_right (hb w), hs₂, hdue, ← hfire]
    split <;> simp_all

/-- A heartbeat of another worker. -/
theorem otherBeat_follows {past : List MonitorInput} (hf : Follows cfg w past h) {lag : Int}
    (now : Nat) {msg : Option Message} (hm : heartbeatLag cfg msg = some lag)
    (hx : id ∉ h.exitedWorkerIds) (hw : id ≠ w) :
    Follows cfg w (.message now id msg :: past) (h.onWorkerMessage cfg false now id msg).1 ∧
      .recycleWorker w .lag ∉ (h.onWorkerMessage cfg false now id msg).2 := by
  obtain ⟨report, h₁, before, -, hc, he, hb, hr⟩ := onWorkerMessage_beat now hm hx
  rw [hr]
  constructor
  · exact message_follows hf (Or.inl (if_neg hw))
      ((checkLagLimit_of_ne fun h => hw h.symm).trans (congrFun hc w))
      (checkLagLimit_exited.trans he)
  · intro hin
    rcases List.mem_append.mp hin with hin | hin
    · exact hb w hin
    · have heq := mem_checkLagLimit hin
      rw [HealthRequest.recycleWorker.injEq] at heq
      exact hw heq.1.symm

/-- **Step lemma.** One input keeps the invariant, and asks for the recycle once at most
and exactly when it is due. -/
theorem handle_follows {past : List MonitorInput} (hf : Follows cfg w past h) (i : MonitorInput) :
    Follows cfg w (i :: past) (h.handle cfg i).1 ∧
      (h.handle cfg i).2.count (.recycleWorker w .lag) ≤ 1 ∧
      (.recycleWorker w .lag ∈ (h.handle cfg i).2 ↔ LagDue cfg w past i) := by
  have silent {requests : List HealthRequest} (hnone : .recycleWorker w .lag ∉ requests)
      (hd : ¬ LagDue cfg w past i) : requests.count (.recycleWorker w .lag) ≤ 1 ∧
        (.recycleWorker w .lag ∈ requests ↔ LagDue cfg w past i) :=
    ⟨(List.count_eq_zero.mpr hnone).trans_le (Nat.zero_le 1), fun hm => absurd hm hnone,
      fun h => absurd h hd⟩
  cases i with
  | exit id => exact ⟨exit_follows hf id, silent List.not_mem_nil (not_lagDue (Or.inl rfl))⟩
  | message now id msg =>
    show Follows cfg w _ (h.onWorkerMessage cfg false now id msg).1 ∧ _ ∧ _
    rw [handle]
    by_cases hig : heartbeatLag cfg msg = none ∨ id ∈ h.exitedWorkerIds
    · -- dropped: not a heartbeat, or the worker is gone
      have hi : (MonitorInput.message now id msg).lagOf cfg w = none ∨ .exit w ∈ past := by
        by_cases hw : id = w
        · rw [MonitorInput.lagOf, if_pos hw]
          exact hig.imp_right fun hx => hf.exited.mp (hw ▸ hx)
        · exact Or.inl (if_neg hw)
      rw [onWorkerMessage_ignored hig]
      exact ⟨message_follows hf hi rfl rfl, silent List.not_mem_nil (not_lagDue hi)⟩
    · obtain ⟨hm, hx⟩ := not_or.mp hig
      obtain ⟨lag, hm⟩ := Option.ne_none_iff_exists'.mp hm
      by_cases hw : id = w
      · subst hw
        exact ownBeat_follows hf now hm hx
      · obtain ⟨hfollows, hnone⟩ := otherBeat_follows hf now hm hx hw
        exact ⟨hfollows, silent hnone (not_lagDue (Or.inl (if_neg hw)))⟩

theorem after_follows (cfg : ResolvedConfig) (w : Nat) (past : List MonitorInput) :
    Follows cfg w past (after cfg past) := by
  induction past with
  | nil => exact follows_nil
  | cons i past ih => exact (handle_follows ih i).1

/-- Nothing can be due any more once the worker has exited or its lag was due. -/
def LagSpent (cfg : ResolvedConfig) (w : Nat) (past : List MonitorInput) : Prop :=
  .exit w ∈ past ∨ (lagPolicy cfg).Raised (lagsOf cfg w past)

theorem LagSpent.cons {past : List MonitorInput} (h : LagSpent cfg w past) (i : MonitorInput) :
    LagSpent cfg w (i :: past) := by
  rcases h with h | h
  · exact Or.inl (List.mem_cons_of_mem i h)
  · cases hi : i.lagOf cfg w with
    | none => exact Or.inr (by rwa [lagsOf_cons_none hi])
    | some lag => exact Or.inr (by rw [lagsOf_cons_some hi]; exact Or.inl h)

theorem LagDue.spent {past : List MonitorInput} {i : MonitorInput} (h : LagDue cfg w past i) :
    LagSpent cfg w (i :: past) := by
  obtain ⟨lag, hi, -, hd⟩ := h
  exact Or.inr (by rw [lagsOf_cons_some hi]; exact hd.raised)

theorem LagDue.not_spent {past : List MonitorInput} {i : MonitorInput} (h : LagDue cfg w past i) :
    ¬ LagSpent cfg w past := by
  obtain ⟨lag, -, hx, hd⟩ := h
  exact fun hs => hs.elim hx hd.1

/-- The run lemma: one request in the whole history, and none before the lag was due. -/
theorem count_requests (cfg : ResolvedConfig) (w : Nat) (past : List MonitorInput) :
    (requests cfg past).count (.recycleWorker w .lag) ≤ 1 ∧
      (¬ LagSpent cfg w past → (requests cfg past).count (.recycleWorker w .lag) = 0) := by
  induction past with
  | nil => exact ⟨Nat.zero_le 1, fun _ => rfl⟩
  | cons i past ih =>
    obtain ⟨hle, hzero⟩ := ih
    obtain ⟨-, hone, hdue⟩ := handle_follows (after_follows cfg w past) i
    rw [requests, List.count_append]
    by_cases hd : LagDue cfg w past i
    · rw [hzero hd.not_spent]
      exact ⟨hone, fun hs => absurd hd.spent hs⟩
    · rw [List.count_eq_zero.mpr fun hin => hd (hdue.mp hin), Nat.zero_add]
      exact ⟨hle, fun hs => hzero fun hsp => hs (hsp.cons i)⟩

/-! ### Projection to one worker -/

theorem lagsOf_filter (cfg : ResolvedConfig) (w : Nat) (past : List MonitorInput) :
    lagsOf cfg w (past.filter (MonitorInput.concerns cfg w)) = lagsOf cfg w past := by
  induction past with
  | nil => rfl
  | cons i past ih =>
    cases hc : i.concerns cfg w with
    | true =>
      rw [List.filter_cons_of_pos hc, lagsOf, lagsOf, List.filterMap_cons, List.filterMap_cons,
        ← lagsOf, ← lagsOf, ih]
    | false =>
      have hi : i.lagOf cfg w = none := by
        cases i with
        | exit id => rfl
        | message now id msg => exact Option.not_isSome_iff_eq_none.mp (ne_true_of_eq_false hc)
      rw [List.filter_cons_of_neg (ne_true_of_eq_false hc), lagsOf_cons_none hi, ih]

theorem lagDue_filter (cfg : ResolvedConfig) (w : Nat) (past : List MonitorInput)
    (i : MonitorInput) :
    LagDue cfg w (past.filter (MonitorInput.concerns cfg w)) i ↔ LagDue cfg w past i := by
  have hx : .exit w ∈ past.filter (MonitorInput.concerns cfg w) ↔ .exit w ∈ past := by
    rw [List.mem_filter]
    exact and_iff_left (beq_self_eq_true w)
  rw [LagDue, LagDue, lagsOf_filter, hx]

/-- **The lag policy, by the trace.** After any history of messages and exits, an input
makes the monitor ask for a worker's recycle because of its lag exactly if it is the first
heartbeat, before the worker's exit, at which the lag is due; it asks once at most; and
only the valid heartbeats and the exit of that worker matter. -/
theorem lag_recycle_iff_due (cfg : ResolvedConfig) (w : Nat) (past : List MonitorInput)
    (i : MonitorInput) :
    (RequestsLag cfg w past i ↔ LagDue cfg w past i) ∧
      (requests cfg (i :: past)).count (.recycleWorker w .lag) ≤ 1 ∧
      (RequestsLag cfg w past i ↔
        RequestsLag cfg w (past.filter (MonitorInput.concerns cfg w)) i) := by
  have hdue (past : List MonitorInput) : RequestsLag cfg w past i ↔ LagDue cfg w past i :=
    (handle_follows (after_follows cfg w past) i).2.2
  refine ⟨hdue past, (count_requests cfg w (i :: past)).1, ?_⟩
  rw [hdue, hdue, lagDue_filter]

/-- Two beats above the threshold, one foreign message between them, and a third beat. -/
example :
    let cfg : ResolvedConfig := { health := { maxEventLoopLagMs := 100 } }
    let beat (w : Nat) (lag : Int) : MonitorInput :=
      .message 0 w (some ⟨"__wm:hb", some 1, some 1, some lag⟩)
    requests cfg [beat 1 103, beat 2 1, beat 1 102, beat 1 101] |>.contains
      (.recycleWorker 1 .lag) := by
  decide

end HealthMonitor

end ClusterKit
