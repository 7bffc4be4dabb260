import ClusterKit.WellFormed

/-! What a segment does, exactly. A move forgets what only reports, delays or counts; an
effect keeps it, and names the segments it is part of where a law depends on them. A chain
of effects is a chain of moves. -/

namespace ClusterKit

open State Relation

namespace Action

/-- The segments that run the restart queue. -/
def runsQueue : Action → Bool
  | .workerExit .. => true
  | .resetCircuitBreaker => true
  | .timer .backoffWait => true
  | .resume .restartQueue => true
  | .resume .rollReturned => true
  | _ => false

/-- The segments that ask whether the fleet is degraded. -/
def recountsFleet : Action → Bool
  | .workerOnline _ => true
  | .workerExit .. => true
  | _ => false

end Action

/-- Events that say nothing about the health of the fleet, a roll or a shutdown. -/
def Event.mundane : Event → Bool
  | .fleetDegraded .. => false
  | .fleetRecovered .. => false
  | ev => ev.plain

theorem Event.plain_of_mundane {ev : Event} (h : ev.mundane = true) : ev.plain = true := by
  cases ev <;> first | rfl | cases h

namespace State

/-- `s` with the fields of `b` that no decision of a timer, a fork or a kill reads. -/
def withNotes (s b : State) : State :=
  { s with
    metrics := { s.metrics with
      gracefulShutdowns := b.metrics.gracefulShutdowns, forcedKills := b.metrics.forcedKills }
    manager := { s.manager with recycleInterval := b.manager.recycleInterval }
    restart := { s.restart with consecutiveBootFailures := b.restart.consecutiveBootFailures }
    health := b.health
    orch := { s.orch with
      ready := b.orch.ready
      recycleReasons := b.orch.recycleReasons
      crashCleanupInterval := b.orch.crashCleanupInterval } }

/-- `noteForkFailure()` and `noteForkSuccess()` -/
def setForkFailures (n : Nat) (s : State) : State :=
  { s with restart := { s.restart with consecutiveForkFailures := n } }

/-- The newest recycle replaces `old` and has not been touched yet. -/
def justRecycled (e : Host) (old : Nat) (s : State) : Prop :=
  ∃ c rest, s.recycles = c :: rest ∧ c.old = old ∧ c.new = s.cluster.ids ∧
    (s.worker c.new).forkedAt = s.now ∧ (s.worker c.new).cause = .roll old ∧
    c.drainFailsafeTimer = some (s.now + e.cfg.workerDrainBudgetMs)

end State

/-- One effect of a segment of the action `a`. -/
inductive Effect (e : Host) (a : Action) : State → State → Prop
  | noted (s b : State) (evs : List Event) (h : ∀ ev ∈ evs, ev.mundane = true) :
    Effect e a s ((s.withNotes b).log evs)
  | recomputed (s : State) (ha : a.recountsFleet = true) : Effect e a s (s.recomputeFleetHealth e)
  | degraded (s t : State) (ha : a = .timer .degraded) (h : s.degradedElapsed e = some t) :
    Effect e a s t
  | exitCodeOne (s : State) : Effect e a s (s.setExitCode 1)
  | exitCodeZero (s : State) (id : Nat) (ha : a = .workerOnline id)
      (h : s.resolveWorkerCount e ≤ s.metrics.activeWorkers) : Effect e a s (s.setExitCode 0)
  | holdReleased (s : State) (id : Nat) (h : s.alive id) : Effect e a s s.releaseEmptyFleetHold
  | backoffScheduled (s : State) (id : Nat) (ha : a = .workerOnline id)
      (h : 0 < s.restart.restartBackoffDelay) : Effect e a s (s.scheduleBackoffReset e)
  | backoffCancelled (s : State) (id : Nat) (code : Option Int) (signal : Option String)
      (ha : a = .workerExit id code signal) : Effect e a s s.cancelBackoffReset
  | backoffReset (s t : State) (ha : a = .timer .backoffReset) (h : s.backoffResetElapsed = some t) :
    Effect e a s t
  | pruned (s : State) : Effect e a s s.pruneCrashes
  | queue (s : State) (r : RestartCoordinator) (ha : a.runsQueue = true) (h : QueueMove e s r) :
    Effect e a s { s with restart := r }
  | attemptFailed (s : State) (entry : RestartQueueEntry) (ha : a.runsQueue = true)
      (hf : s.inBackoff = true) : Effect e a s (restartFailed entry s)
  | attempted (s : State) (delayMs : ℚ) (ha : a.runsQueue = true) (hs : s.isShuttingDown = false)
      (ht : s.breakerTripped = false) (hf : s.inBackoff = true)
      (hok : (s.forkCall e .restartQueue none).succeeded = true) :
    Effect e a s ((s.forked (s.forkCall e .restartQueue none)).restartSucceeded e delayMs
      (s.cluster.ids + 1))
  | forkFailed (s : State) (call : ForkCall) (hs : s.isShuttingDown = false)
      (hc : call.isShuttingDown = false) (hq : call.cause = .restartQueue → a.runsQueue = true)
      (hfail : call.succeeded = false) :
    Effect e a s (clusterFork call s)
  | forkFailuresCounted (s : State) (n : Nat) (h : s.roll.isSome = true) :
    Effect e a s (s.setForkFailures n)
  | replaced (s : State) (call : ForkCall) (old : Nat) (hs : s.isShuttingDown = false)
      (ha : s.alive old) (hc : Replaces e s call old) (hok : call.succeeded = true)
      (hf : ∀ id, call.cause = .roll id → s.rollFrame = some .running) :
    Effect e a s (s.replaceWorker e call old)
  | agedMarked (s : State) (id deadline : Nat) (ha : a = .timer .recycleSweep)
      (hs : s.isShuttingDown = false) (hl : s.alive id) (hm : id ∉ s.manager.recyclingWorkerIds) :
    Effect e a s ((s.markForRecycling id).setRecycleTimer id deadline)
  | cameOnline (s : State) (id : Nat) (ha : a = .workerOnline id) (hl : s.alive id) :
    Effect e a s (s.modifyWorker id fun w => { w with online := true })
  | onlineNoted (s : State) (id : Nat) (ha : a = .workerOnline id) (hl : s.alive id) :
    Effect e a s (s.noteOnline id)
  | replacementOnline (s : State) (new : Nat) (ha : a = .workerOnline new)
      (h : (s.worker new).online = true) :
    Effect e a s (s.modifyRecycle new fun r => { r with replacementOnline := true })
  | drained (s : State) (r : Recycle) (hr : r ∈ s.recycles) (hd : r.drained = false)
      (hs : s.isShuttingDown = false)
      (h : a = .workerOnline r.new ∧ (s.worker r.new).online = true ∧ r.replacementOnline = true ∨
        r.replacementOnline = false ∧
          (s.isDead r.new = true ∨ ∃ deadline, r.drainFailsafeTimer = some deadline ∧
            deadline ≤ s.now)) :
    Effect e a s (s.drainOldWorker e r)
  | failsafeFired (s : State) (r : Recycle) (deadline : Nat)
      (ha : a = .timer (.drainFailsafe r.new)) (hr : r ∈ s.recycles)
      (ht : r.drainFailsafeTimer = some deadline) (hdue : deadline ≤ s.now)
      (h : r.replacementOnline = true ∨ s.isShuttingDown = true ∨ s.isDead r.old = true ∨
        r.drained = true) :
    Effect e a s (s.modifyRecycle r.new fun r => { r with drainFailsafeTimer := none })
  | forceKillDropped (s : State) (r : Recycle) (hr : r ∈ s.recycles)
      (h : s.isDead r.old = true ∨ s.isShuttingDown = true) :
    Effect e a s (s.modifyRecycle r.new fun r => { r with forceKillTimer := none })
  | forceKilled (s : State) (r : Recycle) (deadline : Nat) (ha : a = .timer (.forceKill r.new))
      (hr : r ∈ s.recycles) (hu : ∀ c ∈ s.recycles, c.new = r.new → c = r)
      (ht : r.forceKillTimer = some deadline)
      (hdue : deadline ≤ s.now) (hl : s.alive r.old) (hs : s.isShuttingDown = false) :
    Effect e a s ((s.modifyRecycle r.new fun r => { r with
      forceKillTimer := none
      sigkillTimer := some (s.now + (e.cfg.shutdown.sigtermDelayMs + e.cfg.shutdown.sigintDelayMs))
      }).kill .SIGTERM r.old)
  | sigkillDropped (s : State) (r : Recycle) (hr : r ∈ s.recycles)
      (h : s.isDead r.old = true ∨ s.isShuttingDown = true) :
    Effect e a s (s.modifyRecycle r.new fun r => { r with sigkillTimer := none })
  | sigkilled (s : State) (r : Recycle) (deadline : Nat) (ha : a = .timer (.sigkill r.new))
      (hr : r ∈ s.recycles)
      (ht : r.sigkillTimer = some deadline) (hdue : deadline ≤ s.now) (hl : s.alive r.old)
      (hs : s.isShuttingDown = false) :
    Effect e a s ((s.modifyRecycle r.new fun r => { r with sigkillTimer := none }).kill .SIGKILL r.old)
  | killTimersCleared (s : State) (old : Nat) (hd : s.isDead old = true) :
    Effect e a s (s.clearKillTimers old)
  | rollKilled (s : State) (old deadline : Nat) (ha : a = .timer .exitWait)
      (hf : s.rollFrame = some (.exitWait old deadline)) (hdue : deadline ≤ s.now)
      (hl : s.alive old) : Effect e a s (s.kill .SIGKILL old)
  | disconnected (s : State) (id : Nat) :
    Effect e a s (s.modifyWorker id fun w => { w with
      connected := false, listed := w.listed && !w.dead })
  | roll (s : State) (r r' : Roll) (hr : s.roll = some r) (h : RollMove e s r r')
      (hw : ∀ old deadline, r'.frame = .exitWait old deadline → r.frame ≠ .exitWait old deadline →
        s.justRecycled e old ∧ deadline = s.now + e.cfg.workerDrainBudgetMs) :
    Effect e a s { s with roll := some r' }
  | phase (s : State) (p : RunPhase)
      (h : s.orch.runPhase = .idle ∧ p = .installing ∨
        s.orch.runPhase = .installing ∧ p = .rejected) :
    Effect e a s (s.setRunPhase p)
  | shutdown (s t : State) (hs : s.isShuttingDown = true) (h : ShutdownMove e s t) : Effect e a s t

/-- A chain of effects. -/
abbrev Effects (e : Host) (a : Action) : State → State → Prop := ReflTransGen (Effect e a)

variable {e : Host} {s t : State}

/-! ## Reports -/

/-- `t` is `s` but for what only reports, delays or counts. -/
def Quiet (s t : State) : Prop :=
  ∃ (b : State) (evs : List Event), (∀ ev ∈ evs, ev.plain = true) ∧ t = (s.withBooks b).log evs

namespace Quiet

variable {u : State}

theorem of_event (ev : Event) (hev : ev.plain = true) (h : t = (s.withBooks t).log [ev]) :
    Quiet s t :=
  ⟨t, [ev], fun _ h' => List.mem_singleton.mp h' ▸ hev, h⟩

theorem of_eq (h : t = (s.withBooks t).log []) : Quiet s t :=
  ⟨t, [], fun _ h' => absurd h' List.not_mem_nil, h⟩

theorem trans (h : Quiet s t) (h' : Quiet t u) : Quiet s u := by
  obtain ⟨b, evs, hevs, rfl⟩ := h
  obtain ⟨b', evs', hevs', rfl⟩ := h'
  refine ⟨b', evs' ++ evs, fun ev hev => ?_, ?_⟩
  · rcases List.mem_append.mp hev with hev | hev
    · exact hevs' ev hev
    · exact hevs ev hev
  · simp only [log, List.append_assoc]
    rfl

theorem move (h : Quiet s t) : Move e s t := by
  obtain ⟨b, evs, hevs, rfl⟩ := h
  exact .books s b evs hevs

end Quiet

/-- A change of the bookkeeping fields alone. -/
theorem Moves.of_quiet (h : t = (s.withBooks t).log []) : Moves e s t :=
  .single (Quiet.of_eq h).move

/-- One plain event and a change of the bookkeeping fields. -/
theorem Moves.of_event (ev : Event) (hev : ev.plain = true) (h : t = (s.withBooks t).log [ev]) :
    Moves e s t :=
  .single (Quiet.of_event ev hev h).move

/-- `t` is `s` but for notes and mundane events. -/
def Noted (s t : State) : Prop :=
  ∃ (b : State) (evs : List Event), (∀ ev ∈ evs, ev.mundane = true) ∧ t = (s.withNotes b).log evs

namespace Noted

theorem of_event (ev : Event) (hev : ev.mundane = true) (h : t = (s.withNotes t).log [ev]) :
    Noted s t :=
  ⟨t, [ev], fun _ h' => List.mem_singleton.mp h' ▸ hev, h⟩

theorem of_eq (h : t = (s.withNotes t).log []) : Noted s t :=
  ⟨t, [], fun _ h' => absurd h' List.not_mem_nil, h⟩

theorem trans {u : State} (h : Noted s t) (h' : Noted t u) : Noted s u := by
  obtain ⟨b, evs, hevs, rfl⟩ := h
  obtain ⟨b', evs', hevs', rfl⟩ := h'
  refine ⟨b', evs' ++ evs, fun ev hev => ?_, ?_⟩
  · rcases List.mem_append.mp hev with hev | hev
    · exact hevs' ev hev
    · exact hevs ev hev
  · simp only [log, List.append_assoc]
    rfl

theorem effect {a : Action} (h : Noted s t) : Effect e a s t := by
  obtain ⟨b, evs, hevs, rfl⟩ := h
  exact .noted s b evs hevs

theorem quiet (h : Noted s t) : Quiet s t := by
  obtain ⟨b, evs, hevs, rfl⟩ := h
  exact ⟨s.withNotes b, evs, fun ev hev => Event.plain_of_mundane (hevs ev hev), rfl⟩

end Noted

theorem Effects.of_notes {a : Action} (h : t = (s.withNotes t).log []) : Effects e a s t :=
  .single (Noted.of_eq h).effect

theorem Effects.of_event {a : Action} (ev : Event) (hev : ev.mundane = true)
    (h : t = (s.withNotes t).log [ev]) : Effects e a s t :=
  .single (Noted.of_event ev hev h).effect

theorem emit_effects {a : Action} {ev : Event} (hev : ev.mundane = true) :
    Effects e a s (s.emit ev) :=
  Effects.of_event ev hev rfl

/-! ## Effects are moves -/

theorem restartFailed_moves (entry : RestartQueueEntry) (hf : s.inBackoff = true) :
    Moves e s (restartFailed entry s) := by
  unfold restartFailed
  simp only
  split
  · exact .trans (.single (.gaveUp s hf)) (Moves.of_quiet rfl)
  · exact .trans (.single (.queue s _ (.requeued entry hf))) (Moves.of_quiet rfl)

theorem scheduleBackoffReset_moves : Moves e s (s.scheduleBackoffReset e) := by
  unfold scheduleBackoffReset
  split <;> exact Moves.of_quiet rfl

theorem backoffResetElapsed_moves (h : s.backoffResetElapsed = some t) : Moves e s t := by
  unfold backoffResetElapsed at h
  split at h
  · cases h
  · split at h
    · simp only at h
      split at h <;> (cases h; exact Moves.of_quiet rfl)
    · cases h

/-- Timers of one recycle fire or are cleared. -/
theorem modifyRecycle_moves (new : Nat) (f : Recycle → Recycle)
    (hf : ∀ r ∈ s.recycles, r.new = new → r.Keeps (f r)) : Moves e s (s.modifyRecycle new f) := by
  refine .single (.timers s _ fun r hr => ?_)
  split
  · rename_i hnew
    exact hf r hr hnew
  · exact ⟨rfl, rfl, rfl, rfl, .inl rfl, id⟩

theorem clearKillTimers_moves (old : Nat) : Moves e s (s.clearKillTimers old) := by
  refine .single (.timers s _ fun r _ => ?_)
  split
  · exact ⟨rfl, rfl, rfl, rfl, .inl rfl, fun h => absurd h (by simp [Recycle.escalating])⟩
  · exact ⟨rfl, rfl, rfl, rfl, .inl rfl, id⟩

theorem recomputeFleetHealth_quiet : Quiet s (s.recomputeFleetHealth e) := by
  unfold recomputeFleetHealth
  split
  · exact .of_eq rfl
  · simp only
    split
    · split
      · exact .of_event (.fleetRecovered _ _ _) rfl rfl
      · exact .of_eq rfl
    · split <;> exact .of_eq rfl

theorem degradedElapsed_moves (h : s.degradedElapsed e = some t) : Moves e s t := by
  unfold degradedElapsed at h
  split at h
  · cases h
  · split at h
    · simp only at h
      split at h
      · rw [← Option.some.inj h]
        exact Moves.of_quiet rfl
      · rw [← Option.some.inj h]
        exact Moves.of_event (.fleetDegraded _ _) rfl rfl
    · cases h


theorem Effect.moves {a : Action} (h : Effect e a s t) : Moves e s t := by
  have hclear (r : Recycle) (f : Recycle → Recycle) (hf : ∀ c : Recycle, c.Keeps (f c)) :
      Moves e s (s.modifyRecycle r.new f) := modifyRecycle_moves _ _ fun c _ _ => hf c
  cases h with
  | noted b evs hevs =>
    exact .single (.books s (s.withNotes b) evs fun ev hev => Event.plain_of_mundane (hevs ev hev))
  | recomputed ha => exact .single recomputeFleetHealth_quiet.move
  | degraded t ha ht => exact degradedElapsed_moves ht
  | exitCodeOne => exact .single (.exitCodeOne s)
  | exitCodeZero id ha hle => exact .single (.exitCodeZero s hle)
  | holdReleased id hl => exact .single (.holdReleased s id hl)
  | backoffScheduled id ha hpos => exact scheduleBackoffReset_moves
  | backoffCancelled id code signal ha => exact Moves.of_quiet rfl
  | backoffReset t ha ht => exact backoffResetElapsed_moves ht
  | pruned => exact .single (.queue s _ .pruned)
  | queue r ha hq => exact .single (.queue s r hq)
  | attemptFailed entry ha hf => exact restartFailed_moves entry hf
  | attempted delayMs ha hs ht hf hok =>
    refine .head (.restarted s hs ht hf hok) ?_
    exact Moves.of_event (.workerRestart (s.cluster.ids + 1)) rfl rfl
  | forkFailed call hs hc hq hfail => exact .single (.forkFailed s call hs hc hfail)
  | forkFailuresCounted n hr => exact Moves.of_quiet rfl
  | replaced call old hs ha hc hok => exact .single (.replaced s call old hs ha hc hok)
  | agedMarked id deadline ha hs hl hm => exact .single (.agedMarked s id deadline hs hl hm)
  | cameOnline id ha hl => exact .single (.cameOnline s id hl)
  | onlineNoted id ha hl => exact .single (.onlineNoted s id hl)
  | replacementOnline new ha hon => exact .single (.replacementOnline s new hon)
  | drained r hr hd hs hwhy => exact .single (.drained s r hr hd hs (hwhy.imp_left fun h => h.2.1))
  | failsafeFired r deadline ha hr ht hdue hidle =>
    exact hclear r _ fun c => ⟨rfl, rfl, rfl, rfl, .inr rfl, id⟩
  | forceKillDropped r hr hidle =>
    exact hclear r _ fun c => ⟨rfl, rfl, rfl, rfl, .inl rfl, by simp +contextual [Recycle.escalating]⟩
  | forceKilled r deadline ha hr hu ht hdue hl hs =>
    have hesc : r.escalating = true := by simp [Recycle.escalating, ht]
    refine .head (.killed s .SIGTERM r.old (.inl ⟨r, hr, rfl, hesc⟩)) ?_
    refine modifyRecycle_moves (s := s.kill .SIGTERM r.old) _ _ fun c hc hnew => ?_
    refine ⟨rfl, rfl, rfl, rfl, .inl rfl, fun _ => ?_⟩
    rw [hu c hc hnew]
    exact hesc
  | sigkillDropped r hr hidle =>
    exact hclear r _ fun c => ⟨rfl, rfl, rfl, rfl, .inl rfl, by simp +contextual [Recycle.escalating]⟩
  | sigkilled r deadline ha hr ht hdue hl hs =>
    have hesc : r.escalating = true := by simp [Recycle.escalating, ht]
    refine .head (.killed s .SIGKILL r.old (.inl ⟨r, hr, rfl, hesc⟩)) ?_
    refine modifyRecycle_moves (s := s.kill .SIGKILL r.old) _ _ fun c _ _ => ?_
    exact ⟨rfl, rfl, rfl, rfl, .inl rfl, by simp +contextual [Recycle.escalating]⟩
  | killTimersCleared old hd => exact clearKillTimers_moves old
  | rollKilled old deadline ha hf hdue hl =>
    exact .single (.killed s .SIGKILL old (.inr ⟨deadline, hf, hdue⟩))
  | disconnected id => exact .single (.disconnected s id)
  | roll r r' hr hm hwait => exact .single (.roll s r r' hr hm)
  | phase p hp => exact .single (.phase s p hp)
  | shutdown t hs hm => exact .single (.shutdown s t hs hm)

/-- A chain of effects is a chain of moves. -/
theorem Effects.moves {a : Action} (h : Effects e a s t) : Moves e s t := by
  induction h with
  | refl => exact .refl
  | tail _ h ih => exact ih.trans h.moves

/-! ## What the functions behind the effects leave alone -/

/-- Recomputing the fleet's health changes nothing else. -/
theorem recomputeFleetHealth_eq (s : State) :
    s.recomputeFleetHealth e = { s with
      orch := { s.orch with
        fleetDegraded := (s.recomputeFleetHealth e).orch.fleetDegraded
        degradedSince := (s.recomputeFleetHealth e).orch.degradedSince
        degradedTimer := (s.recomputeFleetHealth e).orch.degradedTimer }
      events := (s.recomputeFleetHealth e).events } := by
  unfold recomputeFleetHealth
  split
  · rfl
  · simp only
    split
    · rfl
    · split <;> rfl

theorem recomputeFleetHealth_keeps (s : State) :
    (s.recomputeFleetHealth e).now = s.now ∧ (s.recomputeFleetHealth e).restart = s.restart ∧
      (s.recomputeFleetHealth e).process = s.process ∧
      (s.recomputeFleetHealth e).isShuttingDown = s.isShuttingDown ∧
      (s.recomputeFleetHealth e).cluster = s.cluster ∧
      (s.recomputeFleetHealth e).metrics = s.metrics ∧
      (s.recomputeFleetHealth e).orch.onlineWorkerIds = s.orch.onlineWorkerIds := by
  rw [recomputeFleetHealth_eq]
  exact ⟨rfl, rfl, rfl, rfl, rfl, rfl, rfl⟩

theorem degradedElapsed_eq (h : s.degradedElapsed e = some t) :
    t = { s with
      orch := { s.orch with degradedTimer := none, fleetDegraded := t.orch.fleetDegraded }
      events := t.events } := by
  unfold degradedElapsed at h
  split at h
  · cases h
  · split at h
    · simp only at h
      split at h <;> (rw [← Option.some.inj h])
    · cases h

theorem scheduleBackoffReset_eq (s : State) :
    s.scheduleBackoffReset e = { s with restart := { s.restart with
      restartBackoffDelay := (s.scheduleBackoffReset e).restart.restartBackoffDelay
      backoffResetTimer := (s.scheduleBackoffReset e).restart.backoffResetTimer } } := by
  unfold scheduleBackoffReset
  split <;> rfl

/-- The restart coordinator hears of an online event. -/
theorem restartOnWorkerOnline_eq (s : State) :
    s.restartOnWorkerOnline e = { s with restart := (s.restartOnWorkerOnline e).restart } := by
  unfold restartOnWorkerOnline
  simp only
  split
  · rw [scheduleBackoffReset_eq]
  · rfl

theorem backoffResetElapsed_eq (h : s.backoffResetElapsed = some t) :
    t = { s with restart := { s.restart with
      backoffResetTimer := none, restartBackoffDelay := t.restart.restartBackoffDelay } } := by
  unfold backoffResetElapsed at h
  split at h
  · cases h
  · split at h
    · simp only at h
      split at h <;> (rw [← Option.some.inj h]; rfl)
    · cases h

theorem restartFailed_eq (entry : RestartQueueEntry) (s : State) :
    restartFailed entry s = { s with
      restart := { s.restart with
        consecutiveForkFailures := (restartFailed entry s).restart.consecutiveForkFailures
        emptyFleetHold := (restartFailed entry s).restart.emptyFleetHold
        pendingRestartQueue := (restartFailed entry s).restart.pendingRestartQueue
        frame := some .returned
        gaveUp := (restartFailed entry s).restart.gaveUp }
      process := { s.process with exitCode := (restartFailed entry s).process.exitCode } } := by
  unfold restartFailed
  simp only
  split <;> rfl

theorem drainOldWorker_eq (r : Recycle) (s : State) :
    s.drainOldWorker e r = { s with
      cluster := { s.cluster with workers := (s.drainOldWorker e r).cluster.workers }
      recycles := (s.drainOldWorker e r).recycles } := by
  unfold drainOldWorker
  split <;> rfl

theorem onReplacementOnline_eq (new : Nat) (s : State) :
    s.onReplacementOnline e new = { s with
      cluster := { s.cluster with workers := (s.onReplacementOnline e new).cluster.workers }
      recycles := (s.onReplacementOnline e new).recycles } := by
  unfold onReplacementOnline
  split
  · rfl
  · simp only
    split
    · rfl
    · rw [drainOldWorker_eq]
      rfl

/-- An online event: first the drain of the replaced worker, then the handler. -/
theorem workerOnline_cases {id : Nat} (h : s.workerOnline e id = some t) :
    s.alive id ∧ ∃ y : State,
      y = (s.modifyWorker id fun w => { w with online := true }).onReplacementOnline e id ∧
        (s.manager.disposed = true ∧ t = y ∨
          s.manager.disposed = false ∧ t = y.handleWorkerOnline e id) := by
  unfold workerOnline at h
  split at h
  · cases h
  · rename_i hcond
    rw [Bool.or_eq_true, not_or, Bool.not_eq_true] at hcond
    extract_lets x y at h
    have hy : y = _ := onReplacementOnline_eq (e := e) id x
    have hmanager : y.manager = s.manager := by rw [hy]; rfl
    refine ⟨hcond.1, y, rfl, ?_⟩
    rw [hmanager] at h
    split at h
    · rename_i hd
      exact .inl ⟨hd, (Option.some.inj h).symm⟩
    · rename_i hd
      exact .inr ⟨Bool.eq_false_iff.mpr hd, (Option.some.inj h).symm⟩

/-- What `handleWorkerOnline` makes of the state before it asks for the health of the fleet. -/
def State.onlineHandled (e : Host) (id : Nat) (s : State) : State :=
  { s with
    orch := { s.orch with onlineWorkerIds := insert id s.orch.onlineWorkerIds }
    restart := (s.restartOnWorkerOnline e).restart
    process := { s.process with
      exitCode := if s.resolveWorkerCount e ≤ s.metrics.activeWorkers then 0 else s.process.exitCode }
    events := .workerOnline id :: s.events }

theorem handleWorkerOnline_eq (id : Nat) (s : State) :
    s.handleWorkerOnline e id = (s.onlineHandled e id).recomputeFleetHealth e := by
  have hrestart : ((s.noteOnline id).restartOnWorkerOnline e).restart =
      (s.restartOnWorkerOnline e).restart := by
    unfold restartOnWorkerOnline scheduleBackoffReset
    simp only [apply_ite State.restart]
    rfl
  let z := (s.noteOnline id).restartOnWorkerOnline e
  have hz : z = { s.noteOnline id with restart := (s.restartOnWorkerOnline e).restart } := by
    rw [← hrestart]
    exact restartOnWorkerOnline_eq (s.noteOnline id)
  have hcleared : (if z.metrics.activeWorkers ≥ z.resolveWorkerCount e then z.setExitCode 0 else z).emit
      (.workerOnline id) = s.onlineHandled e id := by
    rw [hz]
    by_cases hfull : s.resolveWorkerCount e ≤ s.metrics.activeWorkers
    · rw [onlineHandled, if_pos hfull]
      exact congrArg (State.emit (.workerOnline id)) (if_pos hfull)
    · rw [onlineHandled, if_neg hfull]
      exact congrArg (State.emit (.workerOnline id)) (if_neg hfull)
  rw [← hcleared]
  rfl

/-- Up to its end, a shutdown changes its frame, the workers and the count of its kills. -/
theorem ShutdownMove.shape (h : ShutdownMove e s t) :
    t = { s with
      shutdown := t.shutdown
      cluster := { s.cluster with workers := t.cluster.workers }
      metrics := { s.metrics with forcedKills := t.metrics.forcedKills } } ∨
    s.shutdownResolved = some t ∨ s.shutdownExitElapsed = some t := by
  cases h with
  | ackSettled workers waits waits' hf => exact .inl rfl
  | disconnected id => exact .inl rfl
  | exitWait workers deadline hf => exact .inl rfl
  | exitWaitOver t ht =>
    unfold State.exitWaitOver at ht
    split at ht
    · split at ht
      · rw [← Option.some.inj ht]
        exact .inl rfl
      · cases ht
    · cases ht
  | killDelay id t ht =>
    unfold killDelayElapsed at ht
    split at ht
    · split at ht
      · split at ht
        · split at ht <;> (rw [← Option.some.inj ht]; exact .inl rfl)
        · cases ht
      · split at ht
        · simp only at ht
          split at ht <;> (rw [← Option.some.inj ht]; exact .inl rfl)
        · cases ht
      · cases ht
    · cases ht
  | callbacks workers deadline hf => exact .inl rfl
  | resolved t ht => exact .inr (.inl ht)
  | exited t ht => exact .inr (.inr ht)

/-- The promise of `shutdownPrimary` resolves. -/
theorem shutdownResolved_eq (h : s.shutdownResolved = some t) :
    t = (((s.emit (.shutdownComplete s.metrics)).dispose).setExitCode 0).setShutdownFrame
      .resolved := by
  unfold shutdownResolved at h
  split at h
  · exact (Option.some.inj h).symm
  · cases h

/-- The hard deadline of the shutdown. -/
theorem shutdownExitElapsed_eq (h : s.shutdownExitElapsed = some t) :
    t = { s with process := { s.process with exitCode := 1, exited := true } } := by
  unfold shutdownExitElapsed at h
  split at h
  · split at h
    · exact (Option.some.inj h).symm
    · cases h
  · cases h

theorem ShutdownMove.eq (h : ShutdownMove e s t) :
    t = { s with
      shutdown := t.shutdown
      cluster := { s.cluster with workers := t.cluster.workers }
      metrics := { s.metrics with forcedKills := t.metrics.forcedKills }
      manager := { t.manager with workerStartTimes := s.manager.workerStartTimes }
      process := { t.process with warnings := s.process.warnings }
      events := t.events } := by
  rcases h.shape with heq | hresolved | hexited
  · rw [heq]
  · rw [shutdownResolved_eq hresolved]
    rfl
  · rw [shutdownExitElapsed_eq hexited]

/-- No effect takes time. -/
theorem Effect.now_eq {a : Action} (h : Effect e a s t) : t.now = s.now := by
  cases h with
  | recomputed ha => rw [recomputeFleetHealth_eq]
  | degraded t ha ht => rw [degradedElapsed_eq ht]
  | backoffScheduled id ha hpos => rw [scheduleBackoffReset_eq]
  | backoffReset t ha ht => rw [backoffResetElapsed_eq ht]
  | attemptFailed entry ha hf => rw [restartFailed_eq]
  | drained r hr hd hs hwhy => rw [drainOldWorker_eq]
  | shutdown t hs hm => rw [hm.eq]
  | _ => rfl

end ClusterKit
