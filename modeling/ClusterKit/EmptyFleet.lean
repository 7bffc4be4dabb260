import ClusterKit.Slots

/-! The primary with an empty fleet: its exit code tells, or the hold keeps it running. -/

namespace ClusterKit

open State

variable {e : Host} {s t : State}

namespace State

/-- A restart is queued or waits in its backoff. -/
def restartPending (s : State) : Bool := !s.restart.pendingRestartQueue.isEmpty || s.inBackoff

/-- The hold is armed, or the exit code tells and no restart can get lost. -/
def notSilent (s : State) : Prop :=
  s.restart.emptyFleetHold = true ∨
    s.process.exitCode = 1 ∧ (s.restartPending = true → s.breakerTripped = true)

end State

/-- A started fleet that is empty is not silent. -/
def FleetHeard (s : State) : Prop :=
  s.orch.runPhase = .started → s.metrics.activeWorkers = 0 → s.notSilent

/-- The last live worker does not leave gracefully, and the breaker does not calm down over
an empty fleet that waits for a restart. -/
def staysHeard (s : State) : Action → Bool
  | .workerExit id _ _ =>
    s.isShuttingDown || decide (s.orch.runPhase ≠ .started) ||
      !(s.worker id).exitedAfterDisconnect || decide (1 < s.metrics.activeWorkers)
  | .tick ms =>
    s.isShuttingDown || decide (s.orch.runPhase ≠ .started) ||
      decide (0 < s.metrics.activeWorkers) || !s.restartPending || !s.breakerTripped ||
      s.restart.crashTracker.isTripped (s.now + ms)
  | _ => true

/-! ## Moves -/

theorem WellFormed.active_pos (hw : WellFormed s) {id : Nat} (hid : id ∈ s.tracked) :
    0 < s.metrics.activeWorkers := by
  rw [hw.active]
  exact Finset.card_pos.mpr ⟨id, hid⟩

namespace FleetHeard

theorem of_active (h : 0 < s.metrics.activeWorkers) : FleetHeard s := by
  intro _ hempty
  omega

theorem of_unstarted (h : s.orch.runPhase ≠ .started) : FleetHeard s := by
  intro hstarted
  exact absurd hstarted h

/-- No queue move loses a restart that was waiting for nothing but its turn. -/
theorem queueMove (h : FleetHeard s) {r : RestartCoordinator} (hm : QueueMove e s r) :
    FleetHeard { s with restart := r } := by
  intro hstarted hempty
  have hs := h hstarted hempty
  cases hm with
  | pruned =>
    refine hs.imp_right fun ⟨hcode, hpending⟩ => ⟨hcode, fun hp => ?_⟩
    exact (CrashTracker.isTripped_prune _ _).trans (hpending hp)
  | kicked hf => exact hs
  | resumed hf =>
    refine hs.imp_right fun ⟨hcode, hpending⟩ => ⟨hcode, fun hp => hpending ?_⟩
    simpa [restartPending, inBackoff, hf] using hp
  | dropped entry rest hq hm =>
    refine hs.imp_right fun ⟨hcode, hpending⟩ => ⟨hcode, fun _ => hpending ?_⟩
    simp [restartPending, hq]
  | taken entry rest delayMs since hq hm hf hr =>
    refine hs.imp_right fun ⟨hcode, hpending⟩ => ⟨hcode, fun _ => hpending ?_⟩
    simp [restartPending, hq]
  | done hf hwhy =>
    refine hs.imp_right fun ⟨hcode, hpending⟩ => ⟨hcode, fun hp => ?_⟩
    simp [restartPending, inBackoff] at hp
  | abandoned hf hwhy =>
    refine hs.imp_right fun ⟨hcode, hpending⟩ => ⟨hcode, fun _ => hpending ?_⟩
    simp [restartPending, hf]
  | requeued entry hf =>
    refine hs.imp_right fun ⟨hcode, hpending⟩ => ⟨hcode, fun _ => hpending ?_⟩
    simp [restartPending, hf]

theorem move (h : FleetHeard s) (hw : WellFormed s) (hm : Move e s t)
    (hs : s.isShuttingDown = false) : FleetHeard t := by
  cases hm with
  | exitCodeOne => exact fun hp ha => (h hp ha).imp_right fun hcode => ⟨rfl, hcode.2⟩
  | exitCodeZero hle =>
    have hpos := resolveWorkerCount_pos e s
    apply of_active
    show 0 < s.metrics.activeWorkers
    omega
  | holdReleased id ha =>
    apply of_active
    exact hw.active_pos (hw.alive_tracked id ha)
  | queue r hq => exact h.queueMove hq
  | gaveUp hf =>
    intro _ _
    refine .inr ⟨rfl, fun hp => ?_⟩
    simp [restartPending, giveUp, setExitCode, inBackoff] at hp
  | restarted hs' ht hf hok =>
    apply of_active
    show 0 < s.metrics.activeWorkers + 1
    omega
  | replaced call old hs' ha hc hok =>
    apply of_active
    show 0 < s.metrics.activeWorkers + 1
    omega
  | drained r hr hd hs' hwhy =>
    unfold drainOldWorker
    split
    · exact h
    · exact h
  | phase p hp =>
    apply of_unstarted
    show p ≠ .started
    rcases hp with ⟨-, rfl⟩ | ⟨-, rfl⟩ <;> decide
  | shutdown t hs' hm => exact absurd (hs.symm.trans hs') (by decide)
  | books | forkFailed | agedMarked | cameOnline | onlineNoted | replacementOnline | timers | killed
  | disconnected | roll => exact h

theorem moves (h : FleetHeard s) (hw : WellFormed s) (hm : Moves e s t)
    (ht : t.isShuttingDown = false) : FleetHeard t := by
  induction hm with
  | refl => exact h
  | tail hxy hyz ih =>
    have hy := hyz.later.not_shutting ht
    exact (ih hy).move (hw.moves hxy) hyz hy

/-! ## Segments -/

/-- A refill over an empty fleet arms the hold. -/
theorem queueRefill (hs : s.isShuttingDown = false) (count : Nat) :
    FleetHeard (s.queueRefill count) := by
  rw [queueRefill_eq]
  intro _ hempty
  have hempty : s.metrics.activeWorkers = 0 := hempty
  left
  simp [hempty, hs]

theorem refillMissing (hw : WellFormed s) (hs : s.isShuttingDown = false)
    (ht : (s.refillMissing e).isShuttingDown = false) : FleetHeard (s.refillMissing e) :=
  (queueRefill hs _).moves (hw.queueRefill _) (kickRestartQueue_moves (hw.queueRefill _)) ht

/-- So does the restart queued for a crash. -/
theorem queueCrash (hs : s.isShuttingDown = false) (entry : RestartQueueEntry) :
    FleetHeard (s.queueCrash entry) := by
  rw [queueCrash_eq]
  intro _ hempty
  have hempty : s.metrics.activeWorkers = 0 := hempty
  left
  simp [hempty, hs]

theorem workerExit (hw : WellFormed s) {id : Nat} {code : Option Int}
    {signal : Option String} (hact : s.act e (.workerExit id code signal) = some t)
    (hok : staysHeard s (.workerExit id code signal) = true)
    (ht : t.isShuttingDown = false) : FleetHeard t := by
  have hs := (act_pieces hw hact).later.not_shutting ht
  obtain ⟨m, hran, hout⟩ := workerExit_outcome hw hact
  have hsm : m.isShuttingDown = false := hran.same.shutting.trans hs
  have hwr := hran.wellFormed.removed hran.dead hran.tracked
  cases hout with
  | unheard hdisp =>
    exact absurd (hsm.symm.trans (hran.wellFormed.disposed hdisp)) (by decide)
  | drained t hwhy hq =>
    have hgr : (s.worker id).exitedAfterDisconnect = true := by
      rw [← hran.graceful]
      exact hwhy.resolve_left (by simp [hsm])
    obtain ⟨b, evs, -, rfl⟩ := hq
    -- it was not the last one
    intro hstarted hempty
    have hstarted : s.orch.runPhase = .started := by rw [← hran.same.orch]; exact hstarted
    have hempty : s.metrics.activeWorkers - 1 = 0 := by rw [← hran.same.metrics]; exact hempty
    have hothers : 1 < s.metrics.activeWorkers := by
      simpa [staysHeard, hs, hstarted, hgr] using hok
    omega
  | quarantined b hs' hq hg =>
    -- somebody else is online
    simp only [givesUpSlot, Bool.and_eq_true, decide_eq_true_eq] at hg
    obtain ⟨⟨⟨⟨-, hboot⟩, -⟩, j, hj⟩, -⟩ := hg
    have hne : j ≠ id := by
      rintro rfl
      exact hboot hj
    have hmem : j ∈ (m.removed id).tracked := by
      have htracked : (m.removed id).tracked = m.tracked.erase id := OrdMap.keySet_delete _ _
      rw [htracked]
      exact Finset.mem_erase.mpr ⟨hne, hran.wellFormed.online hj⟩
    have hpos := hwr.active_pos hmem
    obtain ⟨x, evs, -, rfl⟩ := hq
    exact of_active hpos
  | tripped b hs' hq hg htrip =>
    intro _ _
    right
    exact ⟨rfl, fun _ => htrip⟩
  | queued b entry hs' hq hg htrip =>
    have hsb : b.noteCrash.isShuttingDown = false := by
      obtain ⟨x, evs, -, rfl⟩ := hq
      rw [noteCrash_eq]
      exact hsm
    have hwq := ((hwr.of_quiet hq).noteCrash).queueCrash entry
    exact (queueCrash hsb entry).moves hwq (kickRestartQueue_moves hwq) ht

theorem startPrimary (s : State) : FleetHeard (s.startPrimary e (s.resolveWorkerCount e)) := by
  rcases startPrimary_outcome (e := e) (s.resolveWorkerCount e) s with ⟨-, heq⟩ | ⟨hok, hq⟩
  · rw [heq]
    apply of_unstarted
    simp [setRunPhase]
  · have hactive := forkWorkers_active hok
    have hpos := resolveWorkerCount_pos e s
    obtain ⟨b, evs, -, heq⟩ := hq
    rw [heq]
    apply of_active
    show 0 < (forkWorkers e (s.resolveWorkerCount e) s.forking).2.metrics.activeWorkers
    omega

theorem resetCircuitBreaker (hw : WellFormed s)
    (hs : (s.resetCircuitBreaker e).isShuttingDown = false) :
    FleetHeard (s.resetCircuitBreaker e) := by
  have hs₀ : s.isShuttingDown = false :=
    (act_pieces (e := e) (a := .resetCircuitBreaker) hw rfl).later.not_shutting hs
  have hwr : WellFormed s.breakerReset := { hw with }
  rcases resetCircuitBreaker_outcome (e := e) s with ⟨hs', -⟩ | ⟨-, ⟨hforked, heq⟩ | ⟨-, heq⟩⟩
  · exact absurd (hs₀.symm.trans hs') (by decide)
  · rw [heq]
    apply of_unstarted
    intro hstarted
    exact absurd (hforked.symm.trans (hwr.started hstarted)) (by decide)
  · rw [heq] at hs ⊢
    exact refillMissing hwr hs₀ hs

theorem rollReturned (h : FleetHeard s) (hw : WellFormed s) (hact : s.rollReturned e = some t)
    (hs : s.isShuttingDown = false) (ht : t.isShuttingDown = false) : FleetHeard t := by
  obtain ⟨r, hr, ⟨hf, rfl⟩ | ⟨hf, rfl⟩ | ⟨hf, rfl⟩⟩ := rollReturned_outcome hact
  · exact h
  · have hexit : FleetHeard (s.setExitCode 1) := h.move (e := e) hw (.exitCodeOne s) hs
    exact hexit
  · have hwc : WellFormed (s.rollCompleted r) := { hw with }
    exact refillMissing hwc hs ht

theorem step {a : Action} (h : FleetHeard s) (hw : WellFormed s) (hact : s.act e a = some t)
    (hok : staysHeard s a = true) (ht : t.isShuttingDown = false) : FleetHeard t := by
  have hs := (act_pieces hw hact).later.not_shutting ht
  cases hns : a.special with
  | false => exact h.moves hw (act_moves hw hns hact) ht
  | true =>
    cases a with
    | tick ms =>
      rw [← Option.some.inj hact]
      intro hstarted hempty
      have hstarted : s.orch.runPhase = .started := hstarted
      have hempty : s.metrics.activeWorkers = 0 := hempty
      refine (h hstarted hempty).imp_right fun ⟨hcode, hpending⟩ => ⟨hcode, fun hp => ?_⟩
      have hp : s.restartPending = true := hp
      have htripped : s.breakerTripped = true := hpending hp
      show s.restart.crashTracker.isTripped (s.now + ms) = true
      simpa [staysHeard, hs, hstarted, hempty, hp, htripped] using hok
    | pluginsInstalled =>
      obtain ⟨-, rfl⟩ := pluginsInstalled_outcome hact
      exact startPrimary s
    | overrideWorkerCount n =>
      rw [← Option.some.inj hact]
      rcases overrideWorkerCount_outcome n s with heq | ⟨-, count, heq⟩
      · rw [heq]
        exact h
      · rw [heq]
        exact h
    | patchWorkerEnv env =>
      rw [← Option.some.inj hact]
      rcases patchWorkerEnv_outcome env s with heq | ⟨-, heq⟩
      · rw [heq]
        exact h
      · rw [heq]
        exact h
    | restartWorkers opts =>
      rw [← Option.some.inj hact] at ht ⊢
      rcases restartWorkers_outcome (e := e) opts s with heq | ⟨hs', hr, hm⟩
      · rw [heq]
        exact h
      · have hbegun : FleetHeard (s.beginRoll opts (s.targetedWorkers opts)) := h
        exact hbegun.moves (hw.bit (e := e) (.rollStarted s opts hs' hr)) hm ht
    | resetCircuitBreaker =>
      rw [← Option.some.inj hact] at ht ⊢
      exact resetCircuitBreaker hw ht
    | shutdownPrimary signal =>
      rw [← Option.some.inj hact, isShuttingDown,
        (shutdownPrimary_entered signal hs).shutdown] at ht
      cases ht
    | workerExit id code signal => exact workerExit hw hact hok ht
    | workerSelfDisconnect id =>
      obtain ⟨-, rfl⟩ := workerSelfDisconnect_outcome hact
      exact h
    | timer timer =>
      cases timer with
      | recycleStagger id =>
        obtain ⟨-, hout⟩ := staggerElapsed_outcome hact
        cases hout with
        | dropped | unsafeEnv | forkFailed => exact h
        | recycled t ha hs' hforked hq =>
          obtain ⟨b, evs, -, rfl⟩ := hq
          apply of_active
          show 0 < s.metrics.activeWorkers + 1
          omega
      | _ => cases hns
    | resume c =>
      cases c with
      | rollReturned => exact h.rollReturned hw hact hs ht
      | _ => cases hns
    | _ => cases hns

end FleetHeard

/-- **An empty fleet is never silent**, as long as the last live worker does not leave
gracefully and the breaker does not calm down over it. -/
theorem empty_fleet_not_silent (e : Host) (count : WorkerCount) (env : ProcessEnv) (s : State)
    (hrun : (orchestrator e count env).Run (fun x a => staysHeard x a = true)
      (State.initial e count env) s)
    (hs : s.isShuttingDown = false) (hstarted : s.orch.runPhase = .started)
    (hempty : s.metrics.activeWorkers = 0) :
    (s.process.exitCode = 1 ∨ s.restart.emptyFleetHold = true) ∧
      (s.restart.pendingRestartQueue ≠ [] ∨ s.inBackoff = true → s.breakerTripped = false →
        s.restart.emptyFleetHold = true) := by
  have hheard : s.isShuttingDown = false → FleetHeard s := by
    refine run_preserves (P := fun x => x.isShuttingDown = false → FleetHeard x) hrun ?_ ?_
    · exact fun _ => FleetHeard.of_unstarted fun hstarted => by cases hstarted
    · intro x a y hw hx hok hact hsy
      have hsx := (act_pieces hw hact).later.not_shutting hsy
      exact (hx hsx).step hw hact hok hsy
  rcases hheard hs hstarted hempty with hhold | ⟨hcode, hpending⟩
  · exact ⟨.inr hhold, fun _ _ => hhold⟩
  · refine ⟨.inl hcode, fun hp htrip => ?_⟩
    have hp : s.restartPending = true := by simpa [restartPending] using hp
    exact absurd (htrip.symm.trans (hpending hp)) (by decide)

/-- The only worker crashes. -/
theorem empty_fleet_not_silent_one_worker :
    ∃ s : State, s.metrics.activeWorkers = 0 ∧ s.inBackoff = true ∧
      s.restart.emptyFleetHold = true := by
  obtain ⟨s, hrun, hq⟩ := StepSystem.exists_run_of_any (orchestrator {} (.fixed 1) fun _ => none)
    (State.initial {} (.fixed 1) fun _ => none) staysHeard
    [.tick 1, .run, .pluginsInstalled, .workerOnline 1, .workerExit 1 (some 1) none]
    (fun s => decide (s.metrics.activeWorkers = 0) && s.inBackoff && !s.isShuttingDown &&
      decide (s.orch.runPhase = .started) && !s.breakerTripped) (by decide +kernel)
  simp only [Bool.and_eq_true, decide_eq_true_eq, Bool.not_eq_true'] at hq
  obtain ⟨⟨⟨⟨hempty, hback⟩, hs⟩, hstarted⟩, htrip⟩ := hq
  have h := empty_fleet_not_silent {} _ _ s hrun hs hstarted hempty
  exact ⟨s, hempty, hback, h.2 (.inr hback) htrip⟩

/-- A roll over one worker: the replacement dies at boot while the old worker still counts,
and then the old worker, drained for it, leaves gracefully. -/
theorem empty_fleet_silent :
    ¬ ∀ (e : Host) (count : WorkerCount) (env : ProcessEnv) (s : State),
      (orchestrator e count env).Run (fun x a => x.drainedExit a = true)
        (State.initial e count env) s →
      s.isShuttingDown = false → s.orch.runPhase = .started → s.metrics.activeWorkers = 0 →
        (s.process.exitCode = 1 ∨ s.restart.emptyFleetHold = true) ∧
          (s.restart.pendingRestartQueue ≠ [] ∨ s.inBackoff = true → s.breakerTripped = false →
            s.restart.emptyFleetHold = true) := by
  intro h
  obtain ⟨s, hrun, hq⟩ := StepSystem.exists_run_of_any (orchestrator {} (.fixed 1) fun _ => none)
    (State.initial {} (.fixed 1) fun _ => none) State.drainedExit
    [.tick 1, .run, .pluginsInstalled, .workerOnline 1, .restartWorkers {},
      .workerExit 2 (some 1) none, .workerExit 1 (some 0) none]
    (fun s => !s.isShuttingDown && decide (s.orch.runPhase = .started) &&
      decide (s.metrics.activeWorkers = 0) && decide (s.process.exitCode = 0) &&
      !s.restart.emptyFleetHold) (by decide +kernel)
  simp only [Bool.and_eq_true, decide_eq_true_eq, Bool.not_eq_true'] at hq
  obtain ⟨⟨⟨⟨hs, hstarted⟩, hempty⟩, hcode⟩, hhold⟩ := hq
  rcases (h {} _ _ s hrun hs hstarted hempty).1 with hone | harmed
  · omega
  · exact absurd (hhold.symm.trans harmed) (by decide)

end ClusterKit
