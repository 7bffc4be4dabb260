import ClusterKit.Segment

/-! What the functions of the restart queue lead to, and what they leave alone. Dropping
an entry changes nothing the loop asks about, so a run of the loop either drops all it
finds or hands its first entry to `restartWorkerWithBackoff`. -/

namespace ClusterKit

open State

variable {e : Host} {s t u : State}

/-! ## What the queue leaves alone -/

/-- `t` is `s` after functions of the restart queue ran. -/
structure QueueRan (s t : State) : Prop where
  rest : t = { s with
    restart := t.restart, cluster := t.cluster, manager := t.manager, metrics := t.metrics,
    process := t.process, events := t.events }
  coordinator : t.restart = { s.restart with
    crashTracker := { s.restart.crashTracker with timestamps := t.restart.crashTracker.timestamps }
    restartLoopRunning := t.restart.restartLoopRunning
    frame := t.restart.frame
    pendingRestartQueue := t.restart.pendingRestartQueue
    restartBackoffDelay := t.restart.restartBackoffDelay
    consecutiveForkFailures := t.restart.consecutiveForkFailures
    emptyFleetHold := t.restart.emptyFleetHold
    gaveUp := t.restart.gaveUp }
  tripped : t.breakerTripped = s.breakerTripped
  warnings : t.process.warnings = s.process.warnings
  marks : t.manager.recyclingWorkerIds = s.manager.recyclingWorkerIds

namespace QueueRan

theorem refl (s : State) : QueueRan s s := ⟨rfl, rfl, rfl, rfl, rfl⟩

theorem trans (h : QueueRan s t) (h' : QueueRan t u) : QueueRan s u where
  rest := h'.rest.trans (by rw [h.rest])
  coordinator := h'.coordinator.trans (by rw [h.coordinator])
  tripped := h'.tripped.trans h.tripped
  warnings := h'.warnings.trans h.warnings
  marks := h'.marks.trans h.marks

theorem now (h : QueueRan s t) : t.now = s.now := by rw [h.rest]

theorem shutting (h : QueueRan s t) : t.isShuttingDown = s.isShuttingDown := by
  rw [h.rest]
  rfl

theorem orch (h : QueueRan s t) : t.orch = s.orch := by rw [h.rest]

theorem threshold (h : QueueRan s t) :
    t.restart.crashTracker.threshold = s.restart.crashTracker.threshold := by
  rw [h.coordinator]

theorem pruned (s : State) : QueueRan s s.pruneCrashes :=
  ⟨rfl, rfl, CrashTracker.isTripped_prune s.now s.restart.crashTracker, rfl, rfl⟩

theorem setQueue (s : State) (queue : List RestartQueueEntry) : QueueRan s (s.setQueue queue) :=
  ⟨rfl, rfl, rfl, rfl, rfl⟩

theorem setQueueFrame (s : State) (frame : Option QueueFrame) :
    QueueRan s (s.setQueueFrame frame) :=
  ⟨rfl, rfl, rfl, rfl, rfl⟩

theorem queueLoopDone (s : State) : QueueRan s s.queueLoopDone := ⟨rfl, rfl, rfl, rfl, rfl⟩

theorem restartFailed (entry : RestartQueueEntry) (s : State) :
    QueueRan s (restartFailed entry s) := by
  unfold State.restartFailed
  simp only
  split <;> exact ⟨rfl, rfl, rfl, rfl, rfl⟩

theorem attemptRestart (entry : RestartQueueEntry) (delayMs : ℚ) (s : State) :
    QueueRan s (attemptRestart e entry delayMs s) := by
  refine (pruned s).trans ?_
  unfold State.attemptRestart
  simp only
  split
  · exact setQueueFrame _ _
  · rcases forkWorker_cases e .restartQueue none s.pruneCrashes with ⟨-, h⟩ | ⟨-, h⟩ | ⟨-, h⟩
    · rw [h]
      exact restartFailed entry _
    · rw [h]
      have hcall : QueueRan s.pruneCrashes
          (clusterFork (s.pruneCrashes.forkCall e .restartQueue none) s.pruneCrashes) :=
        ⟨rfl, rfl, rfl, rfl, rfl⟩
      exact hcall.trans (restartFailed entry _)
    · rw [h]
      exact ⟨rfl, rfl, rfl, rfl, rfl⟩

theorem restartWorkerWithBackoff (entry : RestartQueueEntry) (s : State) :
    QueueRan s (restartWorkerWithBackoff e entry s) := by
  unfold State.restartWorkerWithBackoff
  extract_lets delayMs
  split
  · exact setQueueFrame _ _
  · exact attemptRestart _ _ _

theorem queueLoop (queue : List RestartQueueEntry) (s : State) :
    QueueRan s (queueLoop e queue s) := by
  induction queue generalizing s with
  | nil => exact queueLoopDone s
  | cons entry rest ih =>
    unfold State.queueLoop
    split
    · exact queueLoopDone s
    · refine (pruned s).trans ?_
      simp only
      split
      · exact queueLoopDone _
      · refine (setQueue _ rest).trans ?_
        split
        · exact ih _
        · exact restartWorkerWithBackoff entry _

theorem kickRestartQueue (s : State) : QueueRan s (s.kickRestartQueue e) := by
  unfold State.kickRestartQueue
  split
  · exact refl s
  · have hkicked : QueueRan s { s with restart := { s.restart with restartLoopRunning := true } } :=
      ⟨rfl, rfl, rfl, rfl, rfl⟩
    exact hkicked.trans (queueLoop _ _)

theorem backoffElapsed (h : s.backoffElapsed e = some t) : QueueRan s t := by
  unfold State.backoffElapsed at h
  split at h
  · split at h
    · split at h
      · rw [← Option.some.inj h]
        exact setQueueFrame _ _
      · rw [← Option.some.inj h]
        exact attemptRestart _ _ _
    · cases h
  · cases h

theorem queueReturned (h : s.queueReturned e = some t) : QueueRan s t := by
  unfold State.queueReturned at h
  split at h
  · rw [← Option.some.inj h]
    exact (setQueueFrame _ _).trans (queueLoop _ _)
  · cases h

end QueueRan

/-! ## What one attempt does -/

/-- What the laws of the restart queue speak about. -/
structure QueueView where
  running : Bool
  frame : Option QueueFrame
  queue : List RestartQueueEntry
  backoffDelay : ℚ
  forkFailures : Nat
  restarts : Nat
  forkCalls : List ForkCall

namespace State

def queueView (s : State) : QueueView where
  running := s.restart.restartLoopRunning
  frame := s.restart.frame
  queue := s.restart.pendingRestartQueue
  backoffDelay := s.restart.restartBackoffDelay
  forkFailures := s.restart.consecutiveForkFailures
  restarts := s.metrics.workerRestarts
  forkCalls := s.cluster.forkCalls

/-- What `restartWorkerWithBackoff` waits. -/
def restartDelay (e : Host) (s : State) : ℚ :=
  if s.restart.restartBackoffDelay > 0 then s.restart.restartBackoffDelay
  else e.cfg.restart.backoffMs

/-- The delay that a restart which waited `delayMs` leaves behind. -/
def nextBackoffDelay (e : Host) (delayMs : ℚ) : ℚ :=
  min (if delayMs > 0 then delayMs * e.cfg.restart.backoffMultiplier else e.cfg.restart.backoffMs)
    e.cfg.restart.maxBackoffMs

/-- A fork of the restart queue that is attempted now does not throw. -/
def queueForks (e : Host) (s : State) : Bool :=
  isSafeEnvObject s.orch.env && (s.forkCall e .restartQueue none).succeeded

end State

/-- `attemptRestart` for `entry` after a wait of `delayMs`, by what it did: the breaker
stopped it, it forked, the fork threw and it is queued again, or the queue is given up.
`v` is what it found. -/
inductive Attempted (e : Host) (entry : RestartQueueEntry) (delayMs : ℚ) (s : State)
    (v : QueueView) : QueueView → Prop
  | stopped (ht : s.breakerTripped = true) :
    Attempted e entry delayMs s v { v with frame := some .returned }
  | restarted (call : ForkCall) (hc : call.cause = .restartQueue)
      (hs : call.isShuttingDown = s.isShuttingDown) (ht : s.breakerTripped = false)
      (hok : s.queueForks e = true) :
    Attempted e entry delayMs s v { v with
      frame := some .returned
      backoffDelay := nextBackoffDelay e delayMs
      forkFailures := 0
      restarts := v.restarts + 1
      forkCalls := call :: v.forkCalls }
  | requeued (calls : List ForkCall)
      (hc : ∀ c ∈ calls, c.cause = .restartQueue ∧ c.isShuttingDown = s.isShuttingDown)
      (ht : s.breakerTripped = false) (hok : s.queueForks e = false)
      (hlimit : v.forkFailures + 1 < MAX_CONSECUTIVE_FORK_FAILURES) :
    Attempted e entry delayMs s v { v with
      frame := some .returned
      queue := v.queue ++ [entry]
      forkFailures := v.forkFailures + 1
      forkCalls := calls ++ v.forkCalls }
  | gaveUp (calls : List ForkCall)
      (hc : ∀ c ∈ calls, c.cause = .restartQueue ∧ c.isShuttingDown = s.isShuttingDown)
      (ht : s.breakerTripped = false) (hok : s.queueForks e = false)
      (hlimit : MAX_CONSECUTIVE_FORK_FAILURES ≤ v.forkFailures + 1) :
    Attempted e entry delayMs s v { v with
      frame := some .returned
      queue := []
      forkFailures := v.forkFailures + 1
      forkCalls := calls ++ v.forkCalls }

theorem Attempted.frame {entry : RestartQueueEntry} {delayMs : ℚ} {v w : QueueView}
    (h : Attempted e entry delayMs s v w) : w.frame = some .returned := by
  cases h <;> rfl

theorem restartFailed_view (entry : RestartQueueEntry) (x : State) :
    (restartFailed entry x).queueView =
      if x.queueView.forkFailures + 1 ≥ MAX_CONSECUTIVE_FORK_FAILURES then
        { x.queueView with
          frame := some .returned
          queue := []
          forkFailures := x.queueView.forkFailures + 1 }
      else
        { x.queueView with
          frame := some .returned
          queue := x.queueView.queue ++ [entry]
          forkFailures := x.queueView.forkFailures + 1 } := by
  unfold restartFailed
  exact apply_ite queueView _ _ _

theorem restartFailed_attempted {entry : RestartQueueEntry} {delayMs : ℚ} {x : State}
    (calls : List ForkCall)
    (hc : ∀ c ∈ calls, c.cause = .restartQueue ∧ c.isShuttingDown = s.isShuttingDown)
    (ht : s.breakerTripped = false) (hok : s.queueForks e = false)
    (hx : x.queueView = { s.queueView with forkCalls := calls ++ s.queueView.forkCalls }) :
    Attempted e entry delayMs s s.queueView (restartFailed entry x).queueView := by
  rw [restartFailed_view, hx]
  split
  · rename_i hlimit
    exact .gaveUp calls hc ht hok hlimit
  · rename_i hlimit
    exact .requeued calls hc ht hok (Nat.lt_of_not_ge hlimit)

/-- A fork that succeeds was given a safe environment. -/
theorem forkWorker_safe {cause : ForkCause} {envOverlay : Option ProcessEnv} {new : Nat}
    (h : (forkWorker e cause envOverlay s).1 = some new) : isSafeEnvObject s.orch.env = true := by
  unfold forkWorker at h
  split at h
  · cases h
  · rename_i henv
    simp only [Bool.or_eq_true, Bool.not_eq_true', not_or, Bool.not_eq_false] at henv
    exact henv.1

theorem attemptRestart_attempted (entry : RestartQueueEntry) (delayMs : ℚ) (s : State) :
    Attempted e entry delayMs s s.queueView (attemptRestart e entry delayMs s).queueView := by
  have htripped := (QueueRan.pruned s).tripped
  unfold attemptRestart
  simp only
  split
  · rename_i ht
    exact .stopped (htripped.symm.trans ht)
  · rename_i ht
    have ht : s.breakerTripped = false := htripped.symm.trans (Bool.eq_false_iff.mpr ht)
    rcases forkWorker_cases e .restartQueue none s.pruneCrashes with
      ⟨henv, h⟩ | ⟨hfail, h⟩ | ⟨hok, h⟩
    · rw [h]
      rw [Option.all_none, Bool.and_true] at henv
      refine restartFailed_attempted [] (fun c hc => absurd hc List.not_mem_nil) ht ?_ rfl
      exact Bool.and_eq_false_iff.mpr (.inl henv)
    · rw [h]
      refine restartFailed_attempted [_] (fun c hc => ?_) ht (Bool.and_eq_false_iff.mpr (.inr hfail)) rfl
      rw [List.mem_singleton.mp hc]
      exact ⟨rfl, rfl⟩
    · have henv : isSafeEnvObject s.orch.env = true :=
        forkWorker_safe (s := s.pruneCrashes) (congrArg Prod.fst h)
      rw [h]
      exact .restarted (s.pruneCrashes.forkCall e .restartQueue none) rfl rfl ht
        (Bool.and_eq_true_iff.mpr ⟨henv, hok⟩)

/-! ## What one run of the loop does -/

/-- The loop over the queue of `v`, by how it ended: it dropped all it found, it went into
the wait of its first entry, or it tried its first entry at once. -/
inductive LoopRan (e : Host) (s : State) (v : QueueView) : QueueView → Prop
  | ended (h : v.queue = [] ∨ s.isShuttingDown = true ∨ s.breakerTripped = true ∨
      s.missingWorkers e = 0) :
    LoopRan e s v { v with running := false, frame := none, queue := [] }
  | waits (entry : RestartQueueEntry) (rest : List RestartQueueEntry) (hq : v.queue = entry :: rest)
      (hs : s.isShuttingDown = false) (hdelay : 0 < s.restartDelay e) :
    LoopRan e s v { v with frame := some (.backoff entry (s.restartDelay e) s.now), queue := rest }
  | tried (entry : RestartQueueEntry) (rest : List RestartQueueEntry) (w : QueueView)
      (hq : v.queue = entry :: rest) (hs : s.isShuttingDown = false)
      (hdelay : ¬ 0 < s.restartDelay e)
      (h : Attempted e entry (s.restartDelay e) s { v with queue := rest } w) :
    LoopRan e s v w

/-- The attempt only asks for the shutdown, the breaker and the fork. -/
theorem Attempted.of_same {entry : RestartQueueEntry} {delayMs : ℚ} {v w : QueueView}
    (h : Attempted e entry delayMs s v w) (hs : s.isShuttingDown = t.isShuttingDown)
    (ht : s.breakerTripped = t.breakerTripped) (hf : s.queueForks e = t.queueForks e) :
    Attempted e entry delayMs t v w := by
  cases h with
  | stopped h => exact .stopped (ht ▸ h)
  | restarted call hc hcs h hok => exact .restarted call hc (hs ▸ hcs) (ht ▸ h) (hf ▸ hok)
  | requeued calls hc h hok hlimit => exact .requeued calls (hs ▸ hc) (ht ▸ h) (hf ▸ hok) hlimit
  | gaveUp calls hc h hok hlimit => exact .gaveUp calls (hs ▸ hc) (ht ▸ h) (hf ▸ hok) hlimit

theorem restartWorkerWithBackoff_ran (entry : RestartQueueEntry) (rest : List RestartQueueEntry)
    (hq : s.restart.pendingRestartQueue = entry :: rest) (hs : s.isShuttingDown = false) :
    LoopRan e s s.queueView
      (restartWorkerWithBackoff e entry (s.pruneCrashes.setQueue rest)).queueView := by
  let x := s.pruneCrashes.setQueue rest
  have htripped : x.breakerTripped = s.breakerTripped := (QueueRan.pruned s).tripped
  have hx : restartWorkerWithBackoff e entry x =
      if 0 < s.restartDelay e then x.setQueueFrame (some (.backoff entry (s.restartDelay e) s.now))
      else attemptRestart e entry (s.restartDelay e) x := rfl
  rw [hx]
  split
  · rename_i hdelay
    exact .waits entry rest hq hs hdelay
  · rename_i hdelay
    have h := attemptRestart_attempted (e := e) entry (s.restartDelay e) x
    exact .tried entry rest _ hq hs hdelay (h.of_same (t := s) rfl htripped rfl)

/-- When no worker is missing, nothing of the queue is tried. -/
theorem queueLoop_dropped (queue : List RestartQueueEntry) (s : State)
    (hm : s.missingWorkers e = 0) :
    (queueLoop e queue s).queueView =
      { s.queueView with running := false, frame := none, queue := [] } := by
  induction queue generalizing s with
  | nil => rfl
  | cons entry rest ih =>
    have hrest : (s.pruneCrashes.setQueue rest).missingWorkers e = 0 := hm
    unfold queueLoop
    split
    · rfl
    · simp only
      split
      · rfl
      · exact ih _ hrest

theorem queueLoop_ran (s : State) :
    LoopRan e s s.queueView (queueLoop e s.restart.pendingRestartQueue s).queueView := by
  cases hq : s.restart.pendingRestartQueue with
  | nil => exact .ended (.inl hq)
  | cons entry rest =>
    unfold queueLoop
    split
    · rename_i hs
      exact .ended (.inr (.inl hs))
    · rename_i hs
      simp only
      split
      · rename_i ht
        exact .ended (.inr (.inr (.inl ((QueueRan.pruned s).tripped.symm.trans ht))))
      · split
        · rename_i hm
          rw [queueLoop_dropped rest _ hm]
          exact .ended (.inr (.inr (.inr hm)))
        · exact restartWorkerWithBackoff_ran entry rest hq (Bool.eq_false_iff.mpr hs)

end ClusterKit
