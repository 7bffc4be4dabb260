import ClusterKit.CrashHandling

/-! What every segment does to the restart queue: the segments that do not run it leave it
alone, and in the others requests arrive, the loop is kicked, or it goes on where it was
suspended. -/

namespace ClusterKit

open State Relation

variable {e : Host} {s t : State} {a : Action}

/-! ## Segments that leave the queue alone -/

/-- The calls of `cluster.fork` made for the restart queue. -/
def State.queueForkCalls (s : State) : List ForkCall :=
  s.cluster.forkCalls.filter fun c => decide (c.cause = .restartQueue)

structure QueueKept (s t : State) : Prop where
  running : t.restart.restartLoopRunning = s.restart.restartLoopRunning
  frame : t.restart.frame = s.restart.frame
  queue : t.restart.pendingRestartQueue = s.restart.pendingRestartQueue
  restarts : t.metrics.workerRestarts = s.metrics.workerRestarts
  forkCalls : t.queueForkCalls = s.queueForkCalls

namespace QueueKept

theorem of_eq (hr : t.restart.restartLoopRunning = s.restart.restartLoopRunning)
    (hf : t.restart.frame = s.restart.frame)
    (hq : t.restart.pendingRestartQueue = s.restart.pendingRestartQueue)
    (hm : t.metrics.workerRestarts = s.metrics.workerRestarts)
    (hc : t.cluster.forkCalls = s.cluster.forkCalls) : QueueKept s t :=
  ⟨hr, hf, hq, hm, by rw [queueForkCalls, queueForkCalls, hc]⟩

theorem refl (s : State) : QueueKept s s := ⟨rfl, rfl, rfl, rfl, rfl⟩

theorem trans {u : State} (h : QueueKept s t) (h' : QueueKept t u) : QueueKept s u :=
  ⟨h'.running.trans h.running, h'.frame.trans h.frame, h'.queue.trans h.queue,
    h'.restarts.trans h.restarts, h'.forkCalls.trans h.forkCalls⟩

/-- A fork for anything else. -/
theorem forkedOther {call : ForkCall} {calls : List ForkCall} (hc : call.cause ≠ .restartQueue) :
    (call :: calls).filter (fun c => decide (c.cause = .restartQueue)) =
      calls.filter fun c => decide (c.cause = .restartQueue) :=
  List.filter_cons_of_neg (by simpa using hc)

theorem effect (ha : a.runsQueue = false) (h : Effect e a s t) : QueueKept s t := by
  have hruns {P : Prop} (h : a.runsQueue = true) : P := absurd (ha.symm.trans h) Bool.false_ne_true
  cases h with
  | queue r hq hm => exact hruns hq
  | attemptFailed entry hq hf => exact hruns hq
  | attempted delayMs hq hs ht hf hok => exact hruns hq
  | forkFailed call hs hc hq hfail => exact ⟨rfl, rfl, rfl, rfl, forkedOther fun h => hruns (hq h)⟩
  | replaced call old hs hl hc hok =>
    cases hc with
    | health _ hm => exact ⟨rfl, rfl, rfl, rfl, forkedOther nofun⟩
    | roll _ rest r hr hrem => exact ⟨rfl, rfl, rfl, rfl, forkedOther nofun⟩
  | recomputed hf => rw [recomputeFleetHealth_eq]; exact .of_eq rfl rfl rfl rfl rfl
  | degraded t hd ht => rw [degradedElapsed_eq ht]; exact .of_eq rfl rfl rfl rfl rfl
  | backoffScheduled id hid hpos => rw [scheduleBackoffReset_eq]; exact .of_eq rfl rfl rfl rfl rfl
  | backoffReset t hb ht => rw [backoffResetElapsed_eq ht]; exact .of_eq rfl rfl rfl rfl rfl
  | drained r hr hd hs hwhy => rw [drainOldWorker_eq]; exact .of_eq rfl rfl rfl rfl rfl
  | shutdown t hs hm => rw [hm.eq]; exact .of_eq rfl rfl rfl rfl rfl
  | _ => exact .of_eq rfl rfl rfl rfl rfl

theorem bit (ha : a.runsQueue = false) (h : Bit e a s t) : QueueKept s t := by
  cases h with
  | died | removed | quarantined | crashed | tripped | queued | resetShutting | breakerReset
  | resetRefilled | rollEnded | rollCompleted | rollRefilled => cases ha
  | initialFailed | initialForked => exact ⟨rfl, rfl, rfl, rfl, forkedOther nofun⟩
  | agedFailed _ id hid hs hfail => exact ⟨rfl, rfl, rfl, rfl, forkedOther nofun⟩
  | agedRecycled _ id hid hl hs hok => exact ⟨rfl, rfl, rfl, rfl, forkedOther nofun⟩
  | shutdownEntered _ signal hs =>
    rw [shutdownPrimary_eq signal hs]
    exact .of_eq rfl rfl rfl rfl rfl
  | _ => exact .of_eq rfl rfl rfl rfl rfl

theorem act (hw : WellFormed s) (ha : a.runsQueue = false) (h : s.act e a = some t) :
    QueueKept s t :=
  (act_turns hw h).preserves (P := fun x => QueueKept s x) hw
    (fun _ _ _ hx ht => hx.trans (ht.elim (effect ha) (bit ha))) (.refl s)

end QueueKept

/-! ## Segments that run the queue -/

/-- The kick of the loop at `s`: a no-op while it is running. -/
inductive Kicked (e : Host) (s : State) : QueueView → Prop
  | running (h : s.restart.restartLoopRunning = true) : Kicked e s s.queueView
  | looped (w : QueueView) (h : s.restart.restartLoopRunning = false)
      (hl : LoopRan e s { s.queueView with running := true } w) : Kicked e s w

theorem LoopRan.of_same {v w : QueueView} (h : LoopRan e s v w) (hn : s.now = t.now)
    (hs : s.isShuttingDown = t.isShuttingDown) (ht : s.breakerTripped = t.breakerTripped)
    (hm : s.missingWorkers e = t.missingWorkers e) (hd : s.restartDelay e = t.restartDelay e)
    (hf : s.queueForks e = t.queueForks e) : LoopRan e t v w := by
  cases h with
  | ended h => exact .ended (by rwa [← hs, ← ht, ← hm])
  | waits entry rest hq h hdelay => rw [hd, hn]; exact .waits entry rest hq (hs ▸ h) (hd ▸ hdelay)
  | tried entry rest w hq h hdelay hatt =>
    exact .tried entry rest w hq (hs ▸ h) (hd ▸ hdelay) (hd ▸ hatt.of_same hs ht hf)

theorem kickRestartQueue_kicked (s : State) : Kicked e s (s.kickRestartQueue e).queueView := by
  unfold kickRestartQueue
  split
  · rename_i hr
    exact .running hr
  · rename_i hr
    have hran := queueLoop_ran (e := e)
      { s with restart := { s.restart with restartLoopRunning := true } }
    exact .looped _ (Bool.eq_false_iff.mpr hr) (hran.of_same (t := s) rfl rfl rfl rfl rfl rfl)

theorem Kicked.cases (h : Kicked e s v) :
    s.restart.restartLoopRunning = true ∧ v = s.queueView ∨
      s.restart.restartLoopRunning = false ∧ LoopRan e s { s.queueView with running := true } v := by
  cases h with
  | running hr => exact .inl ⟨hr, rfl⟩
  | looped w hr hl => exact .inr ⟨hr, hl⟩

/-- The requests that arrive in a segment. -/
def arrivals (e : Host) (s : State) : Action → State → List RestartQueueEntry
  | .workerExit id code signal, t =>
    if s.recordsCrash e id && !t.breakerTripped then [.crash id code signal] else []
  | .resetCircuitBreaker, _ =>
    if s.isShuttingDown || !s.orch.hasForked then []
    else List.replicate (s.resolveWorkerCount e - s.metrics.activeWorkers) .refill
  | .resume .rollReturned, _ =>
    if s.rollFrame = some (.returned .complete) then
      List.replicate (s.resolveWorkerCount e - s.metrics.activeWorkers) .refill
    else []
  | _, _ => []

/-- What a segment that runs the queue finds: a breaker reset forgets the delay and the
failures before. -/
def foundQueue (s : State) : Action → QueueView
  | .resetCircuitBreaker => { s.queueView with backoffDelay := 0, forkFailures := 0 }
  | _ => s.queueView

/-- The segment of `a` from `s` to `t`, as far as the restart queue goes. -/
inductive QueueSegment (e : Host) (s : State) : Action → State → Prop
  | untouched (a : Action) (t : State) (harr : arrivals e s a t = [])
      (hv : t.queueView = foundQueue s a) : QueueSegment e s a t
  | kicked (a : Action) (t x : State)
      (hx : x.queueView =
        { foundQueue s a with queue := s.restart.pendingRestartQueue ++ arrivals e s a t })
      (hs : x.isShuttingDown = t.isShuttingDown) (ht : x.breakerTripped = t.breakerTripped)
      (hk : Kicked e x t.queueView) : QueueSegment e s a t
  | abandoned (t : State) (entry : RestartQueueEntry) (delayMs : ℚ) (since : Nat)
      (hf : s.restart.frame = some (.backoff entry delayMs since))
      (hs : s.isShuttingDown = true) (hv : t.queueView = { s.queueView with frame := some .returned }) :
    QueueSegment e s (.timer .backoffWait) t
  | attempted (t : State) (entry : RestartQueueEntry) (delayMs : ℚ) (since : Nat)
      (hf : s.restart.frame = some (.backoff entry delayMs since))
      (hdue : delayMs ≤ ((s.now - since : Nat) : ℚ)) (hs : s.isShuttingDown = false)
      (h : Attempted e entry delayMs s s.queueView t.queueView) :
    QueueSegment e s (.timer .backoffWait) t
  | resumed (t : State) (hf : s.restart.frame = some .returned)
      (h : LoopRan e s { s.queueView with frame := none } t.queueView) :
    QueueSegment e s (.resume .restartQueue) t

theorem QueueSegment.crash {id : Nat} {code : Option Int} {signal : Option String}
    (hw : WellFormed s) (h : s.workerExit e id code signal = some t) :
    QueueSegment e s (.workerExit id code signal) t := by
  obtain ⟨-, hcrash⟩ := workerExit_crash hw h
  have hseen {x : State} (hx : CrashSeen s id x) : x.queueView = s.queueView := by
    rw [queueView, queueView, hx.restart, hx.metrics, hx.forkCalls]
    rfl
  cases hcrash with
  | uncounted t hc hr hp hm hcalls =>
    refine .untouched _ t ?_ ?_
    · simp [arrivals, recordsCrash, hc]
    · show t.queueView = s.queueView
      rw [queueView, queueView, hr, hm, hcalls]
  | quarantined x hx hc hg =>
    refine .untouched _ _ ?_ (hseen (x := x) hx)
    simp [arrivals, recordsCrash, hg]
  | recorded x hx hc =>
    have hnoted : x.noteCrash.queueView = s.queueView := by
      rw [noteCrash_eq]
      exact hseen (x := x) hx
    unfold crashRecorded
    simp only
    split
    · rename_i ht
      refine .untouched _ _ ?_ hnoted
      have htripped : x.noteCrash.breakerTrip.breakerTripped = true := ht
      simp [arrivals, htripped]
    · rename_i ht
      let queued := x.noteCrash.queueCrash (.crash id code signal)
      have hqueued : queued = _ := queueCrash_eq (.crash id code signal) x.noteCrash
      have hran : QueueRan queued (queued.kickRestartQueue e) := .kickRestartQueue _
      have htripped : queued.breakerTripped = false := by
        rw [hqueued]
        exact Bool.eq_false_iff.mpr ht
      have harr : arrivals e s (.workerExit id code signal) (queued.kickRestartQueue e) =
          [.crash id code signal] := by
        simp [arrivals, hc, hran.tripped, htripped]
      refine .kicked _ _ queued ?_ hran.shutting.symm hran.tripped.symm (kickRestartQueue_kicked _)
      rw [harr, hqueued]
      show ({ x.noteCrash.queueView with
        queue := x.noteCrash.queueView.queue ++ [.crash id code signal] } : QueueView) = _
      rw [hnoted]
      rfl

/-- A refill of the missing workers. -/
theorem refillMissing_kicked (s : State) :
    ∃ x : State, x.queueView = { s.queueView with
        queue := s.restart.pendingRestartQueue ++
          List.replicate (s.resolveWorkerCount e - s.metrics.activeWorkers) .refill } ∧
      x.isShuttingDown = (s.refillMissing e).isShuttingDown ∧
      x.breakerTripped = (s.refillMissing e).breakerTripped ∧
      Kicked e x (s.refillMissing e).queueView := by
  let x := s.queueRefill (s.resolveWorkerCount e - s.metrics.activeWorkers)
  have hran : QueueRan x (x.kickRestartQueue e) := .kickRestartQueue _
  have hx : x = _ := queueRefill_eq _ s
  refine ⟨x, ?_, hran.shutting.symm, hran.tripped.symm, kickRestartQueue_kicked x⟩
  rw [hx]
  rfl

theorem QueueSegment.reset (s : State) :
    QueueSegment e s .resetCircuitBreaker (s.resetCircuitBreaker e) := by
  have hreset : s.breakerReset.queueView = foundQueue s .resetCircuitBreaker := rfl
  unfold resetCircuitBreaker
  split
  · rename_i hs
    exact .untouched _ _ (by simp [arrivals, hs]) rfl
  · rename_i hs
    simp only
    split
    · rename_i hf
      have hforked : s.orch.hasForked = true := hf
      have harr (t : State) : arrivals e s .resetCircuitBreaker t =
          List.replicate (s.resolveWorkerCount e - s.metrics.activeWorkers) .refill := by
        simp [arrivals, hs, hforked]
      obtain ⟨x, hx, hs', ht, hk⟩ := refillMissing_kicked (e := e) s.breakerReset
      exact .kicked _ _ x (hx.trans (by rw [harr]; rfl)) hs' ht hk
    · rename_i hf
      have hforked : s.orch.hasForked = false := Bool.eq_false_iff.mpr hf
      exact .untouched _ _ (by simp [arrivals, hforked]) hreset

theorem QueueSegment.rollReturned (h : s.rollReturned e = some t) :
    QueueSegment e s (.resume .rollReturned) t := by
  obtain ⟨r, hr, ⟨hf, rfl⟩ | ⟨hf, rfl⟩ | ⟨hf, rfl⟩⟩ := rollReturned_outcome h
  · exact .untouched _ _ (by simp [arrivals, rollFrame, hr, hf]) rfl
  · exact .untouched _ _ (by simp [arrivals, rollFrame, hr, hf]) rfl
  · have harr : arrivals e s (.resume .rollReturned) ((s.rollCompleted r).refillMissing e) =
        List.replicate (s.resolveWorkerCount e - s.metrics.activeWorkers) .refill := by
      simp [arrivals, rollFrame, hr, hf]
    obtain ⟨x, hx, hs, ht, hk⟩ := refillMissing_kicked (e := e) (s.rollCompleted r)
    exact .kicked _ _ x (hx.trans (by rw [harr]; rfl)) hs ht hk

/-- The backoff wait is over. -/
theorem backoffElapsed_cases (h : s.backoffElapsed e = some t) :
    ∃ entry delayMs since, s.restart.frame = some (.backoff entry delayMs since) ∧
      delayMs ≤ ((s.now - since : Nat) : ℚ) ∧
      (s.isShuttingDown = true ∧ t.queueView = { s.queueView with frame := some .returned } ∨
        s.isShuttingDown = false ∧ Attempted e entry delayMs s s.queueView t.queueView) := by
  unfold backoffElapsed at h
  split at h
  · rename_i entry delayMs since hf
    split at h
    · rename_i hdue
      refine ⟨entry, delayMs, since, hf, hdue, ?_⟩
      split at h
      · rename_i hs
        rw [← Option.some.inj h]
        exact .inl ⟨hs, rfl⟩
      · rename_i hs
        rw [← Option.some.inj h]
        exact .inr ⟨Bool.eq_false_iff.mpr hs, attemptRestart_attempted entry delayMs s⟩
    · cases h
  · cases h

/-- The loop goes on after an attempt. -/
theorem queueReturned_cases (h : s.queueReturned e = some t) :
    s.restart.frame = some .returned ∧
      LoopRan e s { s.queueView with frame := none } t.queueView := by
  unfold queueReturned at h
  split at h
  · rename_i hf
    rw [← Option.some.inj h]
    have hran := queueLoop_ran (e := e) (s.setQueueFrame none)
    exact ⟨hf, hran.of_same (t := s) rfl rfl rfl rfl rfl rfl⟩
  · cases h

/-- **Queue rule.** What a segment that runs the queue does to it. -/
theorem queueSegment_of_act (hw : WellFormed s) (ha : a.runsQueue = true)
    (h : s.act e a = some t) : QueueSegment e s a t := by
  cases a with
  | workerExit id code signal => exact .crash hw h
  | resetCircuitBreaker => exact Option.some.inj h ▸ .reset s
  | timer timer =>
    cases timer with
    | backoffWait =>
      obtain ⟨entry, delayMs, since, hf, hdue, ⟨hs, hv⟩ | ⟨hs, hatt⟩⟩ := backoffElapsed_cases h
      · exact .abandoned _ entry delayMs since hf hs hv
      · exact .attempted _ entry delayMs since hf hdue hs hatt
    | _ => cases ha
  | resume c =>
    cases c with
    | restartQueue =>
      obtain ⟨hf, hran⟩ := queueReturned_cases h
      exact .resumed _ hf hran
    | rollReturned => exact .rollReturned h
    | _ => cases ha
  | _ => cases ha

end ClusterKit
