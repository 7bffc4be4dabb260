import ClusterKit.Effect

/-! Every segment outside the listed exceptions is a chain of effects, hence of moves. -/

namespace ClusterKit

open State Relation

variable {e : Host} {a : Action} {s t : State}

/-! ## Forks -/

/-- `forkWorker` throws on an unsafe environment, throws in `cluster.fork`, or forks. -/
theorem forkWorker_cases (e : Host) (cause : ForkCause) (envOverlay : Option ProcessEnv)
    (s : State) :
    (isSafeEnvObject s.orch.env && envOverlay.all isSafeEnvObject) = false ∧
      forkWorker e cause envOverlay s = (none, s) ∨
    (s.forkCall e cause envOverlay).succeeded = false ∧
      forkWorker e cause envOverlay s = (none, clusterFork (s.forkCall e cause envOverlay) s) ∨
    (s.forkCall e cause envOverlay).succeeded = true ∧
      forkWorker e cause envOverlay s =
        (some (s.cluster.ids + 1), s.forked (s.forkCall e cause envOverlay)) := by
  unfold forkWorker
  split
  · rename_i henv
    refine .inl ⟨?_, rfl⟩
    rwa [← Bool.not_and, Bool.not_eq_true'] at henv
  · simp only
    split
    · rename_i hok
      exact .inr (.inr ⟨hok, rfl⟩)
    · rename_i hok
      exact .inr (.inl ⟨by simpa using hok, rfl⟩)

/-! ## The restart queue -/

theorem attemptRestart_effects (ha : a.runsQueue = true) (entry : RestartQueueEntry) (delayMs : ℚ)
    (hs : s.isShuttingDown = false) (hf : s.inBackoff = true) :
    Effects e a s (attemptRestart e entry delayMs s) := by
  refine .head (.pruned s) ?_
  unfold attemptRestart
  simp only
  split
  · rename_i ht
    exact .single (.queue _ _ ha (.abandoned hf (.inr ht)))
  · rename_i ht
    rcases forkWorker_cases e .restartQueue none s.pruneCrashes with ⟨-, h⟩ | ⟨hfail, h⟩ | ⟨hok, h⟩
    · rw [h]
      exact .single (.attemptFailed _ entry ha hf)
    · rw [h]
      exact .head (.forkFailed _ _ hs hs (fun _ => ha) hfail) (.single (.attemptFailed _ entry ha hf))
    · rw [h]
      exact .single (.attempted _ delayMs ha hs (by simpa using ht) hf hok)

/-- The attempt does not read where the loop was suspended. -/
theorem attemptRestart_setQueueFrame (entry : RestartQueueEntry) (delayMs : ℚ)
    (frame : Option QueueFrame) (s : State) :
    attemptRestart e entry delayMs (s.setQueueFrame frame) = attemptRestart e entry delayMs s := by
  have hfork (r : State) : forkWorker e .restartQueue none (r.setQueueFrame frame) =
      Prod.map id (setQueueFrame frame) (forkWorker e .restartQueue none r) := by
    unfold forkWorker
    simp only [apply_ite (Prod.map id (setQueueFrame frame))]
    rfl
  unfold attemptRestart
  have hprune : (s.setQueueFrame frame).pruneCrashes = s.pruneCrashes.setQueueFrame frame := rfl
  have htrip : (s.pruneCrashes.setQueueFrame frame).breakerTripped = s.pruneCrashes.breakerTripped :=
    rfl
  simp only [hprune, htrip, hfork]
  split
  · rfl
  · cases h : forkWorker e .restartQueue none s.pruneCrashes with
    | mk new r =>
      cases new with
      | none => rfl
      | some n => rfl

theorem restartWorkerWithBackoff_effects (ha : a.runsQueue = true) (entry : RestartQueueEntry)
    (rest : List RestartQueueEntry)
    (hq : s.restart.pendingRestartQueue = entry :: rest) (hs : s.isShuttingDown = false)
    (hm : s.missingWorkers e ≠ 0) (hf : s.restart.frame = none)
    (hr : s.restart.restartLoopRunning = true) :
    Effects e a s (restartWorkerWithBackoff e entry (s.setQueue rest)) := by
  unfold restartWorkerWithBackoff
  extract_lets delayMs
  split
  · exact .single (.queue s _ ha (.taken entry rest _ _ hq hm hf hr))
  · -- the backoff of a zero delay is entered and left in the same segment
    let waiting := (s.setQueue rest).setQueueFrame (some (.backoff entry delayMs s.now))
    have htaken : Effect e a s waiting :=
      .queue s _ ha (.taken entry rest delayMs s.now hq hm hf hr)
    rw [← attemptRestart_setQueueFrame entry delayMs (some (.backoff entry delayMs s.now))]
    exact .head htaken (attemptRestart_effects (s := waiting) ha entry delayMs hs rfl)

theorem queueLoop_effects (ha : a.runsQueue = true) (queue : List RestartQueueEntry) (s : State)
    (hq : s.restart.pendingRestartQueue = queue) (hf : s.restart.frame = none)
    (hr : s.restart.restartLoopRunning = true) : Effects e a s (queueLoop e queue s) := by
  induction queue generalizing s with
  | nil => exact .single (.queue s _ ha (.done hf (.inr (.inr hq))))
  | cons entry rest ih =>
    unfold queueLoop
    split
    · rename_i hs
      exact .single (.queue s _ ha (.done hf (.inl hs)))
    · rename_i hs
      refine .head (.pruned s) ?_
      simp only
      split
      · rename_i ht
        exact .single (.queue _ _ ha (.done hf (.inr (.inl ht))))
      · split
        · rename_i hm
          exact .head (.queue _ _ ha (.dropped entry rest hq hm)) (ih _ rfl hf hr)
        · rename_i hm
          have hs' : s.isShuttingDown = false := by simpa using hs
          exact restartWorkerWithBackoff_effects (s := s.pruneCrashes) ha entry rest hq hs' hm hf hr

theorem kickRestartQueue_effects (ha : a.runsQueue = true) (h : WellFormed s) :
    Effects e a s (s.kickRestartQueue e) := by
  unfold kickRestartQueue
  split
  · exact .refl
  · rename_i hr
    have hf := h.loop (by simpa using hr)
    exact .head (.queue s _ ha (.kicked hf)) (queueLoop_effects ha _ _ rfl hf rfl)

theorem kickRestartQueue_moves (h : WellFormed s) : Moves e s (s.kickRestartQueue e) :=
  Effects.moves (a := .resetCircuitBreaker) (kickRestartQueue_effects rfl h)

theorem backoffElapsed_effects (ha : a.runsQueue = true) (h : s.backoffElapsed e = some t) :
    Effects e a s t := by
  unfold backoffElapsed at h
  split at h
  · rename_i entry delayMs since hf
    have hback : s.inBackoff = true := by rw [inBackoff, hf]
    split at h
    · split at h
      · rename_i hs
        cases h
        exact .single (.queue s _ ha (.abandoned hback (.inl hs)))
      · rename_i hs
        cases h
        exact attemptRestart_effects ha entry delayMs (by simpa using hs) hback
    · cases h
  · cases h

theorem queueReturned_effects (ha : a.runsQueue = true) (hw : WellFormed s)
    (h : s.queueReturned e = some t) : Effects e a s t := by
  unfold queueReturned at h
  split at h
  · rename_i hf
    cases h
    have hr : s.restart.restartLoopRunning = true := by
      by_contra hr
      have := hw.loop (by simpa using hr)
      rw [hf] at this
      cases this
    exact .head (.queue s _ ha (.resumed hf)) (queueLoop_effects ha _ _ rfl rfl hr)
  · cases h

/-- `RestartCoordinator.onWorkerOnline` of a live worker. -/
theorem restartOnWorkerOnline_effects {id : Nat} (ha : a = .workerOnline id) (hl : s.alive id) :
    Effects e a s (s.restartOnWorkerOnline e) := by
  have hboots : Effects e a s { s with restart := { s.restart with consecutiveBootFailures := 0 } } :=
    Effects.of_notes rfl
  unfold restartOnWorkerOnline
  refine .trans hboots (.head (.holdReleased _ id hl) ?_)
  simp only
  split
  · rename_i hpos
    exact .single (.backoffScheduled _ id ha hpos)
  · exact .refl

/-! ## Drains -/

theorem mem_of_findRecycle {new : Nat} {r : Recycle} (h : s.findRecycle new = some r) :
    r ∈ s.recycles ∧ r.new = new :=
  ⟨List.mem_of_find?_eq_some h, by simpa using List.find?_some h⟩

/-- The replacement came online: its recycle drains the old worker at once. -/
theorem onReplacementOnline_effects {new : Nat} (ha : a = .workerOnline new)
    (hon : (s.worker new).online = true) :
    Effects e a s (s.onReplacementOnline e new) := by
  unfold onReplacementOnline
  split
  · exact .refl
  · rename_i r hfind
    obtain ⟨hr, rfl⟩ := mem_of_findRecycle hfind
    refine .head (.replacementOnline s r.new ha hon) ?_
    extract_lets s'
    split
    · exact .refl
    · rename_i hs
      by_cases hd : r.drained = true
      · rw [drainOldWorker, if_pos hd]
      · refine .single (.drained s' { r with replacementOnline := true } ?_ ?_ ?_ (.inl ⟨ha, hon, rfl⟩))
        · exact List.mem_map.mpr ⟨r, hr, if_pos rfl⟩
        · simpa using hd
        · simpa using hs

theorem onReplacementExit_effects {new : Nat} (hdead : s.isDead new = true) :
    Effects e a s (s.onReplacementExit e new) := by
  unfold onReplacementExit
  split
  · exact .refl
  · rename_i r hfind
    obtain ⟨hr, rfl⟩ := mem_of_findRecycle hfind
    split
    · exact .refl
    · rename_i h
      simp only [Bool.or_eq_true, not_or, Bool.not_eq_true] at h
      obtain ⟨⟨hd, hon⟩, hs⟩ := h
      exact .single (.drained s r hr hd hs (.inr ⟨hon, .inl hdead⟩))

/-- A drain clears the failsafe timer, fired or not. -/
theorem drainOldWorker_failsafe {r : Recycle} (hd : r.drained = false) :
    drainOldWorker e r (s.modifyRecycle r.new fun r => { r with drainFailsafeTimer := none }) =
      drainOldWorker e r s := by
  have hmap (f : Recycle → Recycle)
      (hf : ∀ r : Recycle, f { r with drainFailsafeTimer := none } = f r) :
      (s.modifyRecycle r.new fun r => { r with drainFailsafeTimer := none }).modifyRecycle r.new f =
        s.modifyRecycle r.new f := by
    unfold modifyRecycle
    simp only [List.map_map]
    congr 2
    funext c
    by_cases hc : c.new = r.new
    · simp only [Function.comp_apply, if_pos hc]
      exact hf c
    · simp only [Function.comp_apply, if_neg hc]
  unfold drainOldWorker
  simp only [hd, Bool.false_eq_true, if_false]
  exact congrArg (drainRecycledWorker r.old) (hmap _ fun _ => rfl)

theorem drainFailsafeElapsed_effects {new : Nat} (ha : a = .timer (.drainFailsafe new))
    (h : s.drainFailsafeElapsed e new = some t) : Effects e a s t := by
  unfold drainFailsafeElapsed at h
  split at h
  · cases h
  · rename_i r hfind
    obtain ⟨hr, rfl⟩ := mem_of_findRecycle hfind
    split at h
    · cases h
    · rename_i deadline htimer
      split at h
      · rename_i hdue
        simp only at h
        split at h
        · rename_i hidle
          rw [← Option.some.inj h]
          refine .single (.failsafeFired s r deadline ha hr htimer hdue ?_)
          simp only [Bool.or_eq_true] at hidle
          rcases hidle with (hon | hs) | hd
          · exact .inl hon
          · exact .inr (.inl hs)
          · exact .inr (.inr (.inl hd))
        · rename_i hcond
          rw [← Option.some.inj h]
          simp only [Bool.or_eq_true, not_or, Bool.not_eq_true] at hcond
          obtain ⟨⟨hon, hs⟩, -⟩ := hcond
          by_cases hd : r.drained = true
          · rw [drainOldWorker, if_pos hd]
            exact .single (.failsafeFired s r deadline ha hr htimer hdue (.inr (.inr (.inr hd))))
          · have hd' : r.drained = false := by simpa using hd
            rw [drainOldWorker_failsafe hd']
            exact .single (.drained s r hr hd' hs (.inr ⟨hon, .inr ⟨deadline, htimer, hdue⟩⟩))
      · cases h

theorem forceKillElapsed_effects (hw : WellFormed s) {new : Nat}
    (ha : a = .timer (.forceKill new)) (h : s.forceKillElapsed e new = some t) :
    Effects e a s t := by
  unfold forceKillElapsed at h
  split at h
  · cases h
  · rename_i r hfind
    obtain ⟨hr, rfl⟩ := mem_of_findRecycle hfind
    split at h
    · cases h
    · rename_i deadline htimer
      split at h
      · rename_i hdue
        simp only at h
        split at h
        · rename_i hidle
          rw [← Option.some.inj h]
          exact .single (.forceKillDropped s r hr (by simpa using hidle))
        · rename_i hcond
          rw [← Option.some.inj h]
          simp only [Bool.or_eq_true, not_or, Bool.not_eq_true] at hcond
          have hu (c : Recycle) (hc : c ∈ s.recycles) (hnew : c.new = r.new) : c = r :=
            hw.recycle_unique hc hr hnew
          exact .single (.forceKilled s r deadline ha hr hu htimer hdue hcond.1 hcond.2)
      · cases h

theorem sigkillElapsed_effects {new : Nat} (ha : a = .timer (.sigkill new))
    (h : s.sigkillElapsed new = some t) : Effects e a s t := by
  unfold sigkillElapsed at h
  split at h
  · cases h
  · rename_i r hfind
    obtain ⟨hr, rfl⟩ := mem_of_findRecycle hfind
    split at h
    · cases h
    · rename_i deadline htimer
      split at h
      · rename_i hdue
        simp only at h
        split at h
        · rename_i hidle
          rw [← Option.some.inj h]
          refine .single (.sigkillDropped s r hr ?_)
          rwa [Bool.or_eq_true] at hidle
        · rename_i hcond
          rw [← Option.some.inj h]
          simp only [Bool.or_eq_true, not_or, Bool.not_eq_true] at hcond
          exact .head (.sigkilled s r deadline ha hr htimer hdue hcond.1 hcond.2) (Effects.of_notes rfl)
      · cases h

/-! ## Single replacements -/

theorem State.mem_getActiveWorkers {id : Nat} :
    id ∈ s.getActiveWorkers ↔
      (1 ≤ id ∧ id ≤ s.cluster.ids) ∧ (s.worker id).listed = true ∧ s.alive id := by
  simp only [getActiveWorkers, List.mem_filter, List.mem_range'_1, Bool.and_eq_true,
    Bool.not_eq_true', alive]
  constructor
  · rintro ⟨⟨h1, h2⟩, h3⟩
    exact ⟨⟨h1, by omega⟩, h3⟩
  · rintro ⟨⟨h1, h2⟩, h3⟩
    exact ⟨⟨h1, by omega⟩, h3⟩

theorem State.unmark_mark {id : Nat} (hm : id ∉ s.manager.recyclingWorkerIds) :
    (s.markForRecycling id).unmarkForRecycling id = s := by
  simp only [unmarkForRecycling, markForRecycling, Finset.erase_insert hm]

theorem handleWorkerRecycle_noted (old new : Nat) (s : State) :
    Noted (s.recycle e old new) (s.handleWorkerRecycle e old new) := by
  let reason := (s.orch.recycleReasons.get? old).getD .maxAge
  exact ⟨s.handleWorkerRecycle e old new,
    [.workerRecycle old (s.getWorkerAge old) reason, .workerDraining old reason],
    by simp [Event.mundane, Event.plain], rfl⟩

theorem handleWorkerRecycle_quiet (old new : Nat) (s : State) :
    Quiet (s.recycle e old new) (s.handleWorkerRecycle e old new) :=
  (handleWorkerRecycle_noted old new s).quiet

theorem recycleWorkerNow_effects (id : Nat) : Effects e a s (s.recycleWorkerNow e id).2 := by
  unfold recycleWorkerNow
  split
  · exact .refl
  · rename_i hcond
    simp only [Bool.or_eq_true, not_or, Bool.not_eq_true, isMarkedForRecycling,
      decide_eq_false_iff_not] at hcond
    obtain ⟨hs, hm⟩ := hcond
    split
    · exact .refl
    · rename_i hact
      have ha : s.alive id := (mem_getActiveWorkers.mp (not_not.mp hact)).2.2
      simp only
      rcases forkWorker_cases e (.health id) none (s.markForRecycling id) with
        ⟨-, h⟩ | ⟨hfail, h⟩ | ⟨hok, h⟩
      · simp only [h, unmark_mark hm]
        exact .refl
      · simp only [h]
        have hunmark (call : ForkCall) : (clusterFork call (s.markForRecycling id)).unmarkForRecycling id
            = clusterFork call ((s.markForRecycling id).unmarkForRecycling id) := rfl
        rw [hunmark, unmark_mark hm]
        exact .single (.forkFailed s _ hs hs nofun hfail)
      · simp only [h]
        refine .head (.replaced s _ id hs ha (.health id hm) hok nofun) ?_
        exact .single (handleWorkerRecycle_noted id _ _).effect

theorem triggerWorkerRecycle_effects (id : Nat) (reason : RecycleReason) :
    Effects e a s (s.triggerWorkerRecycle e id reason) := by
  unfold triggerWorkerRecycle
  split
  · exact .refl
  · have hset : Effects e a s (s.setRecycleReason id reason) := Effects.of_notes rfl
    have hnow := hset.trans (recycleWorkerNow_effects (e := e) (s := s.setRecycleReason id reason) id)
    cases h : recycleWorkerNow e id (s.setRecycleReason id reason) with
    | mk done s' =>
      rw [h] at hnow
      cases done with
      | true => exact hnow
      | false => exact hnow.trans (Effects.of_notes rfl)

theorem armStaggerTimers_effects (ha : a = .timer .recycleSweep) (ids : List Nat) (idx : Nat)
    (s : State) (hnodup : ids.Nodup)
    (hs : s.isShuttingDown = false)
    (hids : ∀ id ∈ ids, s.alive id ∧ id ∉ s.manager.recyclingWorkerIds) :
    Effects e a s (armStaggerTimers idx ids s) := by
  induction ids generalizing idx s with
  | nil => exact .refl
  | cons id rest ih =>
    obtain ⟨hid, hrest⟩ := List.nodup_cons.mp hnodup
    obtain ⟨hl, hm⟩ := hids id List.mem_cons_self
    refine .head (.agedMarked s id _ ha hs hl hm) (ih _ _ hrest hs fun j hj => ?_)
    obtain ⟨ha', hm'⟩ := hids j (List.mem_cons_of_mem _ hj)
    refine ⟨ha', fun hmem => ?_⟩
    rcases Finset.mem_insert.mp hmem with rfl | hmem
    · exact hid hj
    · exact hm' hmem

theorem recycleSweep_effects (ha : a = .timer .recycleSweep) (h : s.recycleSweep e = some t) :
    Effects e a s t := by
  unfold recycleSweep at h
  split at h
  · cases h
  · split at h
    · extract_lets _ s' at h
      have hdue : Effects e a s s' := Effects.of_notes rfl
      split at h
      · rw [← Option.some.inj h]
        exact hdue
      · rename_i hs
        rw [← Option.some.inj h]
        refine hdue.trans (armStaggerTimers_effects ha _ _ _ ?_ (by simpa using hs) fun id hid => ?_)
        · exact ((List.nodup_range' (h := by decide)).filter _).filter _
        · obtain ⟨hact, hcond⟩ := List.mem_filter.mp hid
          refine ⟨(mem_getActiveWorkers.mp hact).2.2, ?_⟩
          simp only [isMarkedForRecycling, Bool.and_eq_true, Bool.not_eq_true',
            decide_eq_false_iff_not] at hcond
          exact hcond.1.1
    · cases h

/-! ## Health -/

theorem modifyHealth_effects (f : HealthMonitor → HealthMonitor) : Effects e a s (s.modifyHealth f) :=
  Effects.of_notes rfl

theorem checkRssLimit_effects (id : Nat) (report : WorkerHealthReport) :
    Effects e a s (s.checkRssLimit e id report) := by
  unfold checkRssLimit
  simp only
  split
  · exact .refl
  · split
    · exact .refl
    · split
      · exact .refl
      · exact .trans (modifyHealth_effects _) (triggerWorkerRecycle_effects id .rss)

theorem lagRecycle_effects (id : Nat) : Effects e a s (s.lagRecycle e id) :=
  .trans (modifyHealth_effects _) (triggerWorkerRecycle_effects id .lag)

theorem checkLagLimit_effects (id : Nat) (report : WorkerHealthReport) :
    Effects e a s (s.checkLagLimit e id report) := by
  unfold checkLagLimit
  simp only
  split
  · exact .refl
  · split
    · exact .refl
    · split
      · exact lagRecycle_effects id
      · split
        · exact .refl
        · split
          · split
            · exact modifyHealth_effects _
            · exact lagRecycle_effects id
          · exact modifyHealth_effects _

theorem onHealthMessage_effects (id : Nat) (msg : Option Message) :
    Effects e a s (s.onHealthMessage e id msg) := by
  unfold onHealthMessage
  split
  · exact .refl
  · split
    · exact .refl
    · split
      · extract_lets report s₁ s₂
        have hemit : Effects e a s₁ s₂ := emit_effects rfl
        refine (modifyHealth_effects _).trans (hemit.trans ?_)
        exact (checkRssLimit_effects id report).trans (checkLagLimit_effects id report)
      · exact .refl

theorem checkWedged_effects (id lastReport : Nat) : Effects e a s (s.checkWedged e id lastReport) := by
  unfold checkWedged
  simp only
  split
  · exact .refl
  · refine .trans (modifyHealth_effects fun h => { h with registry := h.registry.delete id }) ?_
    refine .trans ?_ (triggerWorkerRecycle_effects id .wedged)
    split
    · exact .refl
    · exact emit_effects rfl

theorem checkWedgedAll_effects (entries : List (Nat × Nat × WorkerHealthReport)) (s : State) :
    Effects e a s (checkWedgedAll e entries s) := by
  induction entries generalizing s with
  | nil => exact .refl
  | cons entry rest ih => exact .trans (checkWedged_effects entry.1 entry.2.1) (ih _)

theorem wedgedWatch_effects (h : s.wedgedWatch e = some t) : Effects e a s t := by
  unfold wedgedWatch at h
  split at h
  · cases h
  · split at h
    · simp only at h
      split at h
      · cases h; exact modifyHealth_effects _
      · cases h; exact .trans (modifyHealth_effects _) (checkWedgedAll_effects _ _)
    · cases h

/-! ## The roll -/

theorem State.modifyRoll_of_some {r : Roll} (hr : s.roll = some r) (f : Roll → Roll) :
    s.modifyRoll f = { s with roll := some (f r) } := by
  rw [modifyRoll, hr, Option.map_some]

theorem State.roll_modifyRoll {r : Roll} (hr : s.roll = some r) (f : Roll → Roll) :
    (s.modifyRoll f).roll = some (f r) := by
  rw [modifyRoll_of_some hr]

theorem rollEffect {r : Roll} (hr : s.roll = some r) {f : Roll → Roll} (h : RollMove e s r (f r))
    (hw : ∀ old deadline, (f r).frame = .exitWait old deadline →
      r.frame = .exitWait old deadline := by nofun) : Effects e a s (s.modifyRoll f) := by
  rw [modifyRoll_of_some hr]
  exact .single (.roll s r _ hr h fun old deadline hf hne => absurd (hw old deadline hf) hne)

theorem rollForked_effects {r : Roll} {old : Nat} {rest : List Nat} (hs : s.isShuttingDown = false)
    (hl : s.alive old) (hr : s.roll = some r) (hrem : r.remaining = old :: rest)
    (hf : r.frame = .running) (hok : (s.forkCall e (.roll old) r.opts.env).succeeded = true) :
    Effects e a s ((s.forked (s.forkCall e (.roll old) r.opts.env)).rollForked e old
      (s.cluster.ids + 1) rest) := by
  let call := s.forkCall e (.roll old) r.opts.env
  let s' := ((s.forked call).noteForkSuccess.markForRecycling old).handleWorkerRecycle e old
    (s.cluster.ids + 1)
  have hframe : s.rollFrame = some .running := by rw [rollFrame, hr, Option.map_some, hf]
  have hreplaced : Effects e a s s' := by
    have h : Effect e a s (s.replaceWorker e call old) :=
      .replaced s call old hs hl (.roll old rest r hr hrem) hok fun _ _ => hframe
    have hcounted : Effect e a (s.replaceWorker e call old)
        ((s.replaceWorker e call old).setForkFailures 0) :=
      .forkFailuresCounted _ 0 (Option.isSome_iff_exists.mpr ⟨r, hr⟩)
    have hnoted := handleWorkerRecycle_noted (e := e) old (s.cluster.ids + 1)
      ((s.forked call).noteForkSuccess.markForRecycling old)
    exact .head h (.head hcounted (.single hnoted.effect))
  have halive : s'.isDead old = false := (alive_forked s call old).mpr (.inr hl)
  have hnew : s'.worker (s.cluster.ids + 1) = _ := worker_forked_new s call
  have hforked : ((s.forked call).rollForked e old (s.cluster.ids + 1) rest) =
      s'.modifyRoll fun r => { r with
        remaining := rest, frame := .exitWait old (s'.now + e.cfg.workerDrainBudgetMs) } := by
    have hcond : ¬ s'.isDead old = true := by rw [halive]; decide
    exact congrArg (fun frame => s'.modifyRoll fun r => { r with remaining := rest, frame := frame })
      (if_neg hcond)
  have hfork : (s'.worker (s.cluster.ids + 1)).forkedAt = s'.now := congrArg Worker.forkedAt hnew
  have hcause : (s'.worker (s.cluster.ids + 1)).cause = .roll old := congrArg Worker.cause hnew
  rw [hforked, modifyRoll_of_some (s := s') hr]
  refine hreplaced.tail (.roll s' r _ hr (.waits old rest _ hs hrem hf ?_) ?_)
  · refine ⟨_, List.mem_cons_self, rfl, ?_⟩
    exact congrArg (· + e.cfg.workerDrainBudgetMs) hfork.symm
  · rintro _ _ ⟨⟩ -
    exact ⟨⟨_, _, rfl, rfl, rfl, hfork, hcause, rfl⟩, rfl⟩

theorem rollWorkers_effects (targeted : List Nat) (s : State) (r : Roll) (hr : s.roll = some r)
    (hrem : r.remaining = targeted) (hf : r.frame = .running) :
    Effects e a s (rollWorkers e targeted s) := by
  induction targeted generalizing s r with
  | nil =>
    rw [rollWorkers, setRollFrame]
    exact rollEffect hr (.completed hrem hf)
  | cons old rest ih =>
    -- the rest of the roll keeps the frame, which is not a wait
    have hkeep (old' deadline : Nat) (h : r.frame = .exitWait old' deadline) :
        r.frame = .exitWait old' deadline := h
    unfold rollWorkers
    split
    · rename_i hs
      rw [setRollFrame]
      exact rollEffect hr (.aborted hs (by simp [hrem]) hf)
    · rename_i hs
      have hs' : s.isShuttingDown = false := by simpa using hs
      split
      · rename_i hd
        have hskip : Effects e a s (s.setRemaining rest) :=
          rollEffect hr (.skipped old rest hs' hrem hd) hkeep
        refine hskip.trans (ih _ { r with remaining := rest } ?_ rfl hf)
        exact roll_modifyRoll hr _
      · rename_i hd
        have hl : s.alive old := Bool.eq_false_iff.mpr hd
        have henv : s.rollEnv = r.opts.env := by rw [rollEnv, hr, Option.bind_some]
        -- the loop after a fork that threw, from the state the throw left behind
        have hthrown (x : State) (hx : x.roll = some r) (hsx : x.isShuttingDown = false)
            (hm : Effects e a s x) :
            Effects e a s (if (x.rollForkFailed rest).isForkEnvUnrecoverable then
                (x.rollForkFailed rest).setRollFrame (.returned .forkBailout)
              else rollWorkers e rest (x.rollForkFailed rest)) := by
          let r' : Roll := { r with remaining := rest, forkFailed := true }
          have hx' : (x.rollForkFailed rest).roll = some r' :=
            roll_modifyRoll (s := x.noteForkFailure) hx _
          have hcounted : Effect e a x x.noteForkFailure :=
            .forkFailuresCounted x _ (Option.isSome_iff_exists.mpr ⟨r, hx⟩)
          have hfail : Effects e a x.noteForkFailure (x.rollForkFailed rest) :=
            rollEffect (s := x.noteForkFailure) hx (.failed old rest hsx hrem) hkeep
          refine hm.trans (.head hcounted (hfail.trans ?_))
          split
          · rw [setRollFrame]
            exact rollEffect hx' (.bailedOut rfl hf)
          · exact ih _ r' hx' rfl hf
        rw [henv]
        rcases forkWorker_cases e (.roll old) r.opts.env s with ⟨-, h⟩ | ⟨hfail, h⟩ | ⟨hok, h⟩
        · rw [h]
          exact hthrown s hr hs' .refl
        · rw [h]
          exact hthrown _ hr hs' (.single (.forkFailed s _ hs' hs' nofun hfail))
        · rw [h]
          exact rollForked_effects hs' hl hr hrem hf hok

theorem restartWorkers_ignored {opts : RestartOptions}
    (h : opts.env.all isSafeEnvObject = false ∨ s.isShuttingDown = true ∨ s.roll.isSome = true) :
    s.restartWorkers e opts = s := by
  unfold restartWorkers
  split
  · rfl
  · rename_i hsafe
    rw [if_pos]
    rw [Bool.or_eq_true]
    exact h.resolve_left fun henv => hsafe (by rw [henv]; rfl)

theorem restartWorkers_effects {opts : RestartOptions} (henv : opts.env.all isSafeEnvObject = true)
    (hs : s.isShuttingDown = false) (hr : s.roll = none) :
    Effects e a (s.beginRoll opts (s.targetedWorkers opts)) (s.restartWorkers e opts) := by
  unfold restartWorkers
  rw [if_neg (by simp [henv]), if_neg (by simp [hs, hr])]
  exact rollWorkers_effects _ _ _ rfl rfl rfl

theorem State.rollFrame_eq_some {frame : RollFrame} (h : s.rollFrame = some frame) :
    ∃ r, s.roll = some r ∧ r.frame = frame := by
  simpa [rollFrame] using h

theorem onRolledWorkerExit_effects {id : Nat} (hd : s.isDead id = true) :
    Effects e a s (s.onRolledWorkerExit id) := by
  unfold onRolledWorkerExit
  split
  · rename_i old deadline hframe
    obtain ⟨r, hr, hf⟩ := rollFrame_eq_some hframe
    split
    · rename_i heq
      subst heq
      exact rollEffect hr (.exitSeen old deadline (.inl ⟨hf, hd⟩))
    · exact .refl
  · rename_i old deadline hframe
    obtain ⟨r, hr, hf⟩ := rollFrame_eq_some hframe
    split
    · rename_i heq
      subst heq
      exact rollEffect hr (.exitSeen old deadline (.inr hf))
    · exact .refl
  · exact .refl

theorem exitWaitElapsed_effects (ha : a = .timer .exitWait) (h : s.exitWaitElapsed = some t) :
    Effects e a s t := by
  unfold exitWaitElapsed at h
  split at h
  · rename_i old deadline hframe
    obtain ⟨r, hr, hf⟩ := rollFrame_eq_some hframe
    split at h
    · rename_i hdue
      simp only at h
      split at h
      · rename_i hd
        rw [← Option.some.inj h]
        exact rollEffect hr (.graced old deadline _ hf (.inl hd))
      · rename_i hl
        rw [← Option.some.inj h]
        refine .head (.rollKilled s old deadline ha hframe hdue (Bool.eq_false_iff.mpr hl)) ?_
        let s' := (s.kill .SIGKILL old).countForcedKill
        have hcount : Effects e a (s.kill .SIGKILL old) s' := Effects.of_notes rfl
        refine hcount.trans (rollEffect (s := s') hr (.graced old deadline _ hf (.inr ?_)))
        have hkill : (s'.worker old).sent =
            (.kill .SIGKILL, s.now) :: (s.worker old).sent :=
          congrArg Worker.sent worker_modifyWorker_self
        rw [hkill]
        exact List.cons_ne_nil _ _
    · cases h
  · cases h

theorem exitGraceElapsed_effects (h : s.exitGraceElapsed = some t) : Effects e a s t := by
  unfold exitGraceElapsed at h
  split at h
  · rename_i old deadline hframe
    obtain ⟨r, hr, hf⟩ := rollFrame_eq_some hframe
    split at h
    · rw [← Option.some.inj h]
      exact rollEffect hr (.exitSeen old deadline (.inr hf))
    · cases h
  · cases h

/-- The roll goes on to its next worker. -/
theorem rollResumed_effects {r : Roll} (deadline : Nat) (hr : s.roll = some r)
    (hf : r.frame = .stagger deadline) :
    Effects e a s (rollWorkers e r.remaining (s.setRollFrame .running)) := by
  have hrun : Effects e a s (s.setRollFrame .running) := rollEffect hr (.resumed deadline hf)
  refine hrun.trans (rollWorkers_effects _ _ { r with frame := .running } ?_ rfl rfl)
  exact roll_modifyRoll hr _

theorem rollExited_effects (h : s.rollExited e = some t) : Effects e a s t := by
  unfold rollExited at h
  split at h
  · rename_i r hr
    split at h
    · rename_i old hf
      -- no stagger is a stagger that ends at once
      let counted (deadline : Nat) : Roll := { r with
        restartedWorkerIds := r.restartedWorkerIds ++ [old], frame := .stagger deadline }
      have hcounted (deadline : Nat) : Effects e a s { s with roll := some (counted deadline) } :=
        .single (.roll s r _ hr (.counted old deadline hf) nofun)
      have hmod (f g : Roll → Roll) : (s.modifyRoll f).modifyRoll g = { s with roll := some (g (f r)) } := by
        rw [modifyRoll_of_some hr, modifyRoll_of_some rfl]
      simp only at h
      split at h
      · rw [← Option.some.inj h, setRollFrame, hmod]
        exact hcounted _
      · rw [← Option.some.inj h, setRollFrame, hmod]
        have hresumed := rollResumed_effects (e := e) (a := a) (s := { s with roll := some (counted s.now) })
          s.now rfl rfl
        exact (hcounted s.now).trans hresumed
    · cases h
  · cases h

theorem rollStaggerElapsed_effects (h : s.rollStaggerElapsed e = some t) : Effects e a s t := by
  unfold rollStaggerElapsed at h
  split at h
  · rename_i r hr
    split at h
    · rename_i deadline hf
      split at h
      · rw [← Option.some.inj h]
        exact rollResumed_effects _ hr hf
      · cases h
    · cases h
  · cases h

/-! ## Shutdown frames -/

theorem WellFormed.shutting_of_frame (hw : WellFormed s) {frame : ShutdownFrame}
    (hf : s.shutdown.frame = frame) (hne : frame ≠ .idle) : s.isShuttingDown = true :=
  hw.frame fun h => hne (hf.symm.trans h)

theorem settleAck_effects (hw : WellFormed s) (id : Nat) : Effects e a s (s.settleAck id) := by
  unfold settleAck
  split
  · rename_i workers waits hf
    have hs := hw.shutting_of_frame hf (by simp)
    exact .single (.shutdown s _ hs (.ackSettled workers waits _ hf))
  · exact .refl

theorem settleAckDisconnecting_effects (hw : WellFormed s) (hs : s.isShuttingDown = true) (id : Nat) :
    Effects e a s (s.settleAckDisconnecting id) := by
  have hsettle := settleAck_effects (e := e) (a := a) hw id
  have hs' : (s.settleAck id).isShuttingDown = true := by
    unfold settleAck
    split <;> exact hs
  have hnow : (s.settleAck id).now = s.now := by
    unfold settleAck
    split <;> rfl
  refine hsettle.tail (.shutdown _ _ hs' ?_)
  rw [settleAckDisconnecting, ← hnow]
  exact .disconnected id

theorem onAckMessage_effects (hw : WellFormed s) (id : Nat) (msg : Option Message) :
    Effects e a s (s.onAckMessage e id msg) := by
  unfold onAckMessage
  split
  · rename_i hcond
    simp only [Bool.and_eq_true] at hcond
    have hs : s.isShuttingDown = true := by
      refine hw.frame fun hf => ?_
      rw [awaitsAck, hf] at hcond
      exact absurd hcond.1 Bool.false_ne_true
    exact settleAckDisconnecting_effects hw hs id
  · exact .refl

theorem ackTimeoutElapsed_effects (hw : WellFormed s) {id : Nat}
    (h : s.ackTimeoutElapsed id = some t) : Effects e a s t := by
  unfold ackTimeoutElapsed at h
  split at h
  · rename_i workers waits hf
    split at h
    · rw [← Option.some.inj h]
      exact settleAckDisconnecting_effects hw (hw.shutting_of_frame hf (by simp)) id
    · cases h
  · cases h

theorem acksSettled_effects (hw : WellFormed s) (h : s.acksSettled e = some t) : Effects e a s t := by
  unfold acksSettled at h
  split at h
  · rename_i workers hf
    rw [← Option.some.inj h]
    exact .single (.shutdown s _ (hw.shutting_of_frame hf (by simp)) (.exitWait workers _ hf))
  · cases h

theorem exitWaitOver_effects (hw : WellFormed s) (h : s.exitWaitOver e = some t) : Effects e a s t := by
  have hs : s.isShuttingDown = true := by
    refine hw.frame fun hf => ?_
    rw [exitWaitOver, hf] at h
    cases h
  exact .single (.shutdown s t hs (.exitWaitOver t h))

theorem killDelayElapsed_effects (hw : WellFormed s) {id : Nat}
    (h : s.killDelayElapsed e id = some t) : Effects e a s t := by
  have hs : s.isShuttingDown = true := by
    refine hw.frame fun hf => ?_
    rw [killDelayElapsed, hf] at h
    cases h
  exact .single (.shutdown s t hs (.killDelay id t h))

theorem killsDone_effects (hw : WellFormed s) (h : s.killsDone e = some t) : Effects e a s t := by
  unfold killsDone at h
  split at h
  · rename_i workers hf
    rw [← Option.some.inj h]
    exact .single (.shutdown s _ (hw.shutting_of_frame hf (by simp)) (.callbacks workers _ hf))
  · cases h

theorem shutdownExitElapsed_effects (hw : WellFormed s) (h : s.shutdownExitElapsed = some t) :
    Effects e a s t := by
  have hs : s.isShuttingDown = true := by
    refine hw.frame fun hf => ?_
    rw [shutdownExitElapsed, hf] at h
    cases h
  exact .single (.shutdown s t hs (.exited t h))

theorem shutdownResolved_effects (hw : WellFormed s) (h : s.shutdownResolved = some t) :
    Effects e a s t := by
  have hs : s.isShuttingDown = true := by
    refine hw.frame fun hf => ?_
    rw [shutdownResolved, hf] at h
    cases h
  exact .single (.shutdown s t hs (.resolved t h))

/-! ## The orchestrator -/

theorem handleWorkerOnline_effects {id : Nat} (ha : a = .workerOnline id) (hl : s.alive id) :
    Effects e a s (s.handleWorkerOnline e id) := by
  let s₁ := (s.noteOnline id).restartOnWorkerOnline e
  have h₁ : Effects e a s s₁ :=
    .head (.onlineNoted s id ha hl) (restartOnWorkerOnline_effects ha hl)
  have h₂ : Effects e a s₁ (if s₁.metrics.activeWorkers ≥ s₁.resolveWorkerCount e then s₁.setExitCode 0
      else s₁) := by
    split
    · rename_i hle
      exact .single (.exitCodeZero s₁ id ha hle)
    · exact .refl
  have h₃ (x : State) : Effects e a x ((x.emit (.workerOnline id)).recomputeFleetHealth e) :=
    (emit_effects rfl).tail (.recomputed _ (by rw [ha]; rfl))
  exact h₁.trans (h₂.trans (h₃ _))

theorem workerOnline_effects {id : Nat} (ha : a = .workerOnline id)
    (h : s.workerOnline e id = some t) : Effects e a s t := by
  obtain ⟨hl, y, rfl, hheard⟩ := workerOnline_cases h
  let x := s.modifyWorker id fun w => { w with online := true }
  have hon : (x.worker id).online = true := congrArg Worker.online worker_modifyWorker_self
  have hdrained : Effects e a s (x.onReplacementOnline e id) :=
    .head (.cameOnline s id ha hl) (onReplacementOnline_effects ha hon)
  rcases hheard with ⟨-, rfl⟩ | ⟨-, rfl⟩
  · exact hdrained
  · exact hdrained.trans (handleWorkerOnline_effects ha (hdrained.moves.alive hl))

theorem workerExitListeners_effects (hw : WellFormed s) {id : Nat} (hd : s.isDead id = true)
    (hid : id ≤ s.cluster.ids) : Effects e a s (s.workerExitListeners e id) := by
  have hdead {x : State} (h : Effects e a s x) : x.isDead id = true :=
    (h.moves.later.worker id hid).dead hd
  have h₁ : Effects e a s (s.onReplacementExit e id) := onReplacementExit_effects hd
  have h₂ := h₁.trans (onRolledWorkerExit_effects (hdead h₁))
  have h₃ : Effects e a s _ := h₂.tail (.killTimersCleared _ id (hdead h₂))
  exact h₃.trans (settleAck_effects (hw.moves h₃.moves) id)

theorem workerExitListeners_moves (hw : WellFormed s) {id : Nat} (hd : s.isDead id = true)
    (hid : id ≤ s.cluster.ids) : Moves e s (s.workerExitListeners e id) :=
  Effects.moves (a := .setReady) (workerExitListeners_effects hw hd hid)

theorem workerDisconnected_effects (hw : WellFormed s) {id : Nat}
    (h : s.workerDisconnected id = some t) : Effects e a s t := by
  unfold workerDisconnected at h
  split at h
  · rw [← Option.some.inj h]
    have h₁ : Effect e a s _ := .disconnected s id
    exact .head h₁ (settleAck_effects (hw.moves h₁.moves) id)
  · cases h

theorem workerMessage_effects (hw : WellFormed s) {id : Nat} {msg : Option Message}
    (h : s.workerMessage e id msg = some t) : Effects e a s t := by
  unfold workerMessage at h
  split at h
  · cases h
  · rw [← Option.some.inj h]
    have h₁ : Effects e a s (s.onHealthMessage e id msg) := onHealthMessage_effects id msg
    exact h₁.trans (onAckMessage_effects (hw.moves h₁.moves) id msg)

theorem crashCleanup_effects (h : s.crashCleanup = some t) : Effects e a s t := by
  unfold crashCleanup at h
  split at h
  · cases h
  · split at h
    · simp only at h
      split at h
      · rw [← Option.some.inj h]
        exact Effects.of_notes rfl
      · rw [← Option.some.inj h]
        exact (Effects.of_notes rfl).tail (.pruned _)
    · cases h

/-! ## The steps -/

/-- The segments that are not chains of moves: each of them is treated by hand. -/
def Action.special : Action → Bool
  | .tick _ => true
  | .pluginsInstalled => true
  | .overrideWorkerCount _ => true
  | .patchWorkerEnv _ => true
  | .resetCircuitBreaker => true
  | .restartWorkers _ => true
  | .shutdownPrimary _ => true
  | .workerExit .. => true
  | .workerSelfDisconnect _ => true
  | .timer (.recycleStagger _) => true
  | .resume .rollReturned => true
  | _ => false

theorem fire_effects (hw : WellFormed s) {timer : Timer} (hns : Action.special (.timer timer) = false)
    (h : s.fire e timer = some t) : Effects e (.timer timer) s t := by
  cases timer with
  | backoffWait => exact backoffElapsed_effects rfl h
  | backoffReset => exact .single (.backoffReset s t rfl h)
  | crashCleanup => exact crashCleanup_effects h
  | degraded => exact .single (.degraded s t rfl h)
  | recycleSweep => exact recycleSweep_effects rfl h
  | recycleStagger id => cases hns
  | wedgedWatch => exact wedgedWatch_effects h
  | drainFailsafe new => exact drainFailsafeElapsed_effects rfl h
  | forceKill new => exact forceKillElapsed_effects hw rfl h
  | sigkill new => exact sigkillElapsed_effects rfl h
  | exitWait => exact exitWaitElapsed_effects rfl h
  | exitGrace => exact exitGraceElapsed_effects h
  | rollStagger => exact rollStaggerElapsed_effects h
  | ackTimeout id => exact ackTimeoutElapsed_effects hw h
  | killDelay id => exact killDelayElapsed_effects hw h
  | shutdownExit => exact shutdownExitElapsed_effects hw h

theorem resume_effects (hw : WellFormed s) {c : Continuation}
    (hns : Action.special (.resume c) = false) (h : s.resume e c = some t) :
    Effects e (.resume c) s t := by
  cases c with
  | restartQueue => exact queueReturned_effects rfl hw h
  | rollExited => exact rollExited_effects h
  | rollReturned => cases hns
  | acksSettled => exact acksSettled_effects hw h
  | exitWaitOver => exact exitWaitOver_effects hw h
  | killsDone => exact killsDone_effects hw h
  | callbacksDone => exact shutdownResolved_effects hw h

theorem act_effects (hw : WellFormed s) (hns : a.special = false)
    (h : s.act e a = some t) : Effects e a s t := by
  cases a with
  | tick | pluginsInstalled | overrideWorkerCount | patchWorkerEnv | resetCircuitBreaker
  | restartWorkers | shutdownPrimary | workerExit | workerSelfDisconnect => cases hns
  | run =>
    rw [← Option.some.inj h]
    split
    · rename_i hidle
      exact .single (.phase s .installing (.inl ⟨hidle, rfl⟩))
    · exact .refl
  | pluginInstallFailed =>
    unfold act at h
    simp only at h
    split at h
    · rename_i hinst
      rw [← Option.some.inj h]
      exact .single (.phase s .rejected (.inr ⟨hinst, rfl⟩))
    · cases h
  | setReady =>
    rw [← Option.some.inj h]
    split
    · exact .refl
    · exact Effects.of_notes rfl
  | setNotReady =>
    rw [← Option.some.inj h]
    exact Effects.of_notes rfl
  | workerOnline id => exact workerOnline_effects rfl h
  | workerDisconnected id => exact workerDisconnected_effects hw h
  | workerMessage id msg => exact workerMessage_effects hw h
  | workerError id => exact Option.some.inj h ▸ settleAck_effects hw id
  | timer t => exact fire_effects hw hns h
  | resume c => exact resume_effects hw hns h

theorem act_moves (hw : WellFormed s) (hns : a.special = false) (h : s.act e a = some t) :
    Moves e s t :=
  (act_effects hw hns h).moves

end ClusterKit
