import ClusterKit.JournalKept
import Mathlib.Data.List.MinMax

/-! The segments that report an exit, an online event, a roll or a shutdown, and with them
every run: the journal replays whatever the primary emits. -/

namespace ClusterKit

open State StepSystem

variable {e : Host} {s t : State} {a : Action}

/-! ## The health of the fleet -/

theorem Owing.recomputed {o : Owed} (h : Owing o s)
    (ho : o = .nothing ∨ ∃ id code signal, o = .crash id code signal) :
    Owing o (s.recomputeFleetHealth e) := by
  unfold recomputeFleetHealth
  split
  · exact h
  · rename_i hcond
    simp only [Bool.or_eq_true, not_or, Bool.not_eq_true] at hcond
    extract_lets target recovered
    split
    · rename_i hfull
      cases hdeg : s.orch.fleetDegraded with
      | false =>
        refine h.mono fun j ⟨hj, howed⟩ => ⟨{ hj with degraded := ?_, armed := ?_ }, howed⟩
        · exact hj.degraded.trans hdeg
        · exact fun _ => rfl
      | true =>
        refine Records.cons (b := recovered) h fun j ⟨hj, howed⟩ => ?_
        have hmay : j.mayRecover = true := by
          rw [Journal.mayRecover, howed]
          rcases ho with rfl | ⟨_, _, _, rfl⟩ <;> rfl
        refine ⟨_, Journal.expect_eq_some.mpr ⟨⟨hmay, hj.serving hcond.1, ?_, hfull⟩, rfl⟩, ?_, howed⟩
        · exact hj.degraded.trans hdeg
        · exact { hj with degraded := rfl, armed := fun _ => rfl }
    · split
      · exact h
      · rename_i hidle
        simp only [Bool.or_eq_true, not_or, Bool.not_eq_true] at hidle
        exact h.mono fun j ⟨hj, howed⟩ => ⟨{ hj with armed := fun _ => hidle.1 }, howed⟩

theorem Kept.degradedElapsed (h : Kept s) : ∀ t ∈ s.degradedElapsed e, Kept t := by
  unfold State.degradedElapsed
  split
  · rintro _ ⟨⟩
  · rename_i deadline htimer
    split
    · dsimp only
      have hdisarmed : Kept { s with orch := { s.orch with degradedTimer := none } } :=
        h.mono fun j ⟨hj, hset⟩ =>
          ⟨{ hj with armed := fun harmed => absurd harmed Bool.false_ne_true }, hset⟩
      split
      · rintro _ ⟨⟩; exact hdisarmed
      · rename_i hs
        rintro _ ⟨⟩
        refine Records.cons h fun j ⟨hj, hset⟩ => ?_
        have hcalm : s.orch.fleetDegraded = false :=
          hj.armed (Option.isSome_iff_exists.mpr ⟨deadline, htimer⟩)
        refine ⟨_, Journal.expect_eq_some.mpr ⟨⟨hset, ?_, hj.degraded.trans hcalm⟩, rfl⟩, ?_, rfl⟩
        · exact hj.serving (Bool.eq_false_iff.mpr hs)
        · exact { hj with degraded := rfl, armed := fun harmed => absurd harmed Bool.false_ne_true }
    · rintro _ ⟨⟩

/-! ## Online -/

theorem Kept.handleWorkerOnline (h : Kept s) (hw : WellFormed s) {id : Nat} (ha : s.alive id)
    (hid : id ∉ s.orch.onlineWorkerIds) (hd : s.manager.disposed = false) :
    Kept (s.handleWorkerOnline e id) := by
  have htracked := hw.alive_tracked id ha
  have hhandled : Owing .nothing (s.onlineHandled e id) := by
    refine Records.cons (b := .workerOnline id) h fun j ⟨hj, hset⟩ => ?_
    refine ⟨_, Journal.expect_eq_some.mpr
      ⟨⟨hset, hj.online ▸ hid, hj.not_gone htracked, hj.listening hd⟩, rfl⟩, ?_, rfl⟩
    exact { hj with
      newest := max_le hj.newest (hw.tracked_bounded id htracked).2
      online := congrArg (insert id) hj.online }
  rw [handleWorkerOnline_eq]
  exact (hhandled.recomputed (.inl rfl)).kept (.inl rfl)

theorem Kept.workerOnline (h : Kept s) (hw : WellFormed s)
    (hseen : ∀ id ∈ s.orch.onlineWorkerIds, s.isOnline id) (id : Nat) :
    ∀ t ∈ s.workerOnline e id, Kept t := by
  intro t ht
  have hnew : id ∉ s.orch.onlineWorkerIds := by
    intro hmem
    unfold State.workerOnline at ht
    rw [if_pos (by rw [hseen id hmem, Bool.or_true])] at ht
    cases ht
  obtain ⟨ha, y, hy, ⟨-, rfl⟩ | ⟨hd, rfl⟩⟩ := workerOnline_cases ht
  · exact h.of_still (hy ▸ onReplacementOnline_still id _)
  · have hp : y.page = s.page := hy ▸ page_of_still (onReplacementOnline_still id _)
    have hwm : WellFormed (s.modifyWorker id fun w => { w with online := true }) :=
      hw.modifyWorker id fun _ => rfl
    have hlive : (s.modifyWorker id fun w => { w with online := true }).alive id :=
      (modifyWorker_field (f := fun w => { w with online := true }) Worker.dead fun _ => rfl).trans ha
    let marked := s.modifyWorker id fun w => { w with online := true }
    have hmoves : Effects e (.workerOnline id) marked (marked.onReplacementOnline e id) :=
      onReplacementOnline_effects rfl (congrArg Worker.online worker_modifyWorker_self)
    have hwy : WellFormed y := hy ▸ hwm.moves hmoves.moves
    have hay : y.alive id := hy ▸ hmoves.moves.alive hlive
    refine (h.of_page hp).handleWorkerOnline hwy hay ?_ ?_
    · rw [show y.orch.onlineWorkerIds = s.orch.onlineWorkerIds from
        congrArg Page.onlineWorkerIds hp]
      exact hnew
    · exact (congrArg Page.disposed hp).trans hd

/-! ## Exits -/

/-- What an exit owes. -/
def exitOwes (m : State) (id : Nat) (code : Option Int) (signal : Option String) : Owed :=
  if (m.worker id).exitedAfterDisconnect ∨ m.isShuttingDown then .nothing else .crash id code signal

/-- The exit is reported, and counted if it was graceful. -/
def exitCounted (m : State) (id : Nat) (code : Option Int) (signal : Option String) : State :=
  if (m.worker id).exitedAfterDisconnect then (m.exitReported id code signal).countGracefulShutdown
  else m.exitReported id code signal

theorem page_exitCounted (m : State) (id : Nat) (code : Option Int) (signal : Option String) :
    (exitCounted m id code signal).page =
      { m.page with
        tracked := m.tracked.erase id
        onlineWorkerIds := m.orch.onlineWorkerIds.erase id
        exitedWorkerIds := insert id m.health.exitedWorkerIds
        registered := m.health.registry.keySet.erase id
        tally := { m.metrics.tally with
          gracefulShutdowns := m.metrics.tally.gracefulShutdowns +
            if (m.worker id).exitedAfterDisconnect then 1 else 0 }
        events := .workerExit id code signal (m.worker id).exitedAfterDisconnect :: m.events } := by
  have htracked : (m.exitReported id code signal).tracked = m.tracked.erase id :=
    OrdMap.keySet_delete _ _
  have hregistered : (m.exitReported id code signal).health.registry.keySet =
      m.health.registry.keySet.erase id := OrdMap.keySet_delete _ _
  have hreported : (m.exitReported id code signal).page =
      { m.page with
        tracked := m.tracked.erase id
        onlineWorkerIds := m.orch.onlineWorkerIds.erase id
        exitedWorkerIds := insert id m.health.exitedWorkerIds
        registered := m.health.registry.keySet.erase id
        events := .workerExit id code signal (m.worker id).exitedAfterDisconnect :: m.events } := by
    unfold page
    rw [htracked, hregistered]
    rfl
  unfold exitCounted
  cases hg : (m.worker id).exitedAfterDisconnect with
  | false =>
    rw [hg] at hreported
    exact hreported
  | true =>
    rw [hg] at hreported
    exact congrArg (fun p : Page => { p with
      tally := { p.tally with gracefulShutdowns := p.tally.gracefulShutdowns + 1 } }) hreported

theorem Kept.exitCounted {m : State} (h : Kept m) (hd : m.manager.disposed = false) {id : Nat}
    (htracked : id ∈ m.tracked) (hid : 1 ≤ id ∧ id ≤ m.cluster.ids) (code : Option Int)
    (signal : Option String) :
    Owing (exitOwes m id code signal) (exitCounted m id code signal) := by
  rw [Owing, show (ClusterKit.exitCounted m id code signal).events =
    .workerExit id code signal (m.worker id).exitedAfterDisconnect :: m.events from
      congrArg Page.events (page_exitCounted m id code signal), page_exitCounted]
  refine Records.cons h fun j hjs => ?_
  obtain ⟨hj, hset⟩ := hjs
  refine ⟨_, Journal.expect_eq_some.mpr
    ⟨⟨hset, hj.not_gone htracked, hj.listening hd⟩, rfl⟩, ?_, ?_⟩
  · exact { hj with
      newest := max_le hj.newest hid.2
      online := congrArg (Finset.erase · id) hj.online
      gone := by
        show insert id j.gone = Finset.Icc 1 m.cluster.ids \ m.tracked.erase id
        rw [hj.gone, Finset.sdiff_erase (Finset.mem_Icc.mpr hid)]
        rfl
      silent := congrArg (insert id) hj.silent
      reporting := Finset.erase_subset_erase id hj.reporting
      tally := by
        show Tally.mk _ _ _ = _
        rw [hj.tally]
        rfl }
  · show (if _ then _ else _) = if _ then _ else _
    have hphase : j.phase ≠ .serving ↔ m.isShuttingDown = true := by
      have hph := hj.phase
      rw [show m.page.disposed = false from hd] at hph
      cases hs : m.isShuttingDown with
      | false => simp [hph, show m.page.isShuttingDown = false from hs]
      | true => simp [hph, show m.page.isShuttingDown = true from hs]
    simp only [hphase]

theorem Owing.crashed {id : Nat} {code : Option Int} {signal : Option String}
    (h : Owing (.crash id code signal) s) :
    Owing .verdict (s.cancelBackoffReset.emit (.workerCrash id code signal)) := by
  refine Records.cons h fun j ⟨hj, howed⟩ => ?_
  exact ⟨_, Journal.expect_eq_some.mpr ⟨howed, rfl⟩, { hj with }, rfl⟩

theorem Owing.tripped (h : Owing .verdict s) : Kept s.breakerTrip := by
  refine Records.cons h fun j ⟨hj, howed⟩ => ?_
  refine ⟨_, Journal.expect_eq_some.mpr ⟨howed, rfl⟩, { hj with tally := ?_ }, rfl⟩
  show Tally.mk _ _ _ = _
  rw [hj.tally]
  rfl

theorem Owing.quarantined (h : Owing .verdict s) (hon : s.orch.onlineWorkerIds.Nonempty) :
    Kept s.quarantineSlot := by
  refine Records.cons h fun j ⟨hj, howed⟩ => ?_
  exact ⟨_, Journal.expect_eq_some.mpr ⟨⟨howed, hj.online ▸ hon⟩, rfl⟩, { hj with }, rfl⟩

theorem Owing.crashRecorded (h : Owing .verdict s) (id : Nat) (code : Option Int)
    (signal : Option String) : Kept (s.crashRecorded e id code signal) := by
  have hnoted : Owing .verdict s.noteCrash := h.of_page (page_of_still (noteCrash_still s))
  unfold State.crashRecorded
  dsimp only
  split
  · exact hnoted.tripped
  · exact Kept.kickRestartQueue ((hnoted.kept (.inr rfl)).of_still (queueCrash_still _ _))

theorem Owing.onWorkerCrash (h : Owing .verdict s) (id : Nat) (code : Option Int)
    (signal : Option String) (bootFailed : Bool) :
    Kept (s.onWorkerCrash e id code signal bootFailed) := by
  have hcounted : Owing .verdict s.countBootFailure := h.of_page rfl
  unfold State.onWorkerCrash
  dsimp only
  split
  · rename_i hcond
    simp only [Bool.and_eq_true, decide_eq_true_eq] at hcond
    split
    · exact hcounted.quarantined hcond.2
    · exact hcounted.crashRecorded id code signal
  · exact h.crashRecorded id code signal

theorem countGracefulShutdown_recompute (s : State) :
    (s.recomputeFleetHealth e).countGracefulShutdown =
      s.countGracefulShutdown.recomputeFleetHealth e := by
  unfold recomputeFleetHealth
  simp only [apply_ite countGracefulShutdown]
  rfl

theorem handleWorkerExit_shutting {m : State} (hs : m.isShuttingDown = true) (id : Nat)
    (code : Option Int) (signal : Option String) :
    (m.cleanupWorker id).handleWorkerExit e id code signal = exitCounted m id code signal := by
  unfold handleWorkerExit
  dsimp only
  rw [if_pos (show ((m.cleanupWorker id).emit _).isShuttingDown = true from hs)]
  rfl

theorem Kept.handleWorkerExit {m : State} (h : Kept m) (hd : m.manager.disposed = false) {id : Nat}
    (htracked : id ∈ m.tracked) (hid : 1 ≤ id ∧ id ≤ m.cluster.ids) (code : Option Int)
    (signal : Option String) :
    Kept ((m.cleanupWorker id).handleWorkerExit e id code signal) := by
  have hcounted := h.exitCounted hd htracked hid code signal
  cases hs : m.isShuttingDown with
  | true =>
    rw [handleWorkerExit_shutting hs]
    exact hcounted.kept (.inl (if_pos (.inr hs)))
  | false =>
    have hhandled := handleWorkerExit_handled (e := e) m id code signal
    generalize (m.cleanupWorker id).handleWorkerExit e id code signal = t at hhandled ⊢
    cases hhandled with
    | shutting t hs' => exact absurd (hs.symm.trans hs') Bool.false_ne_true
    | graceful _ hg =>
      have howes : exitOwes m id code signal = .nothing := if_pos (.inl hg)
      have hstate : ClusterKit.exitCounted m id code signal =
          (m.exitReported id code signal).countGracefulShutdown := if_pos hg
      rw [howes, hstate] at hcounted
      rw [countGracefulShutdown_recompute]
      exact (hcounted.recomputed (.inl rfl)).kept (.inl rfl)
    | crashed _ hg =>
      have howes : exitOwes m id code signal = .crash id code signal := by
        refine if_neg ?_
        rw [hg, hs]
        decide
      have hstate : ClusterKit.exitCounted m id code signal = m.exitReported id code signal :=
        if_neg (by rw [hg]; decide)
      rw [howes, hstate] at hcounted
      exact (hcounted.recomputed (.inr ⟨_, _, _, rfl⟩)).crashed.onWorkerCrash id code signal _

theorem Kept.workerExit (h : Kept s) (hw : WellFormed s) (id : Nat) (code : Option Int)
    (signal : Option String) : ∀ t ∈ s.workerExit e id code signal, Kept t := by
  unfold State.workerExit
  split
  · rintro _ ⟨⟩
  · rename_i ha
    have hran := workerExitListeners_ran (e := e) hw (Bool.eq_false_iff.mpr ha)
    have hm : Kept ((s.markDead id).workerExitListeners e id) :=
      h.of_page (workerExitListeners_page id (s.markDead id))
    dsimp only
    generalize (s.markDead id).workerExitListeners e id = m at hran hm ⊢
    split
    · rintro _ ⟨⟩; exact hm
    · rename_i hd
      rintro _ ⟨⟩
      exact hm.handleWorkerExit (Bool.eq_false_iff.mpr hd) hran.tracked
        (hran.wellFormed.tracked_bounded id hran.tracked) code signal

/-! ## The roll -/

theorem page_roll {r : Roll} (hr : s.roll = some r) :
    s.page.roll = some (r.opts.reason, r.listed) := by
  show s.roll.map _ = _
  rw [hr]
  rfl

/-- The roll goes on with no more on its list. -/
theorem Kept.modifyRoll (h : Kept s) {r : Roll} (hr : s.roll = some r) {f : Roll → Roll}
    (hreason : (f r).opts.reason = r.opts.reason) (hlisted : (f r).listed.Sublist r.listed) :
    Kept (s.modifyRoll f) := by
  have hp : (s.modifyRoll f).page =
      { s.page with roll := some ((f r).opts.reason, (f r).listed) } := by
    rw [modifyRoll_of_some hr]
    rfl
  rw [Kept, hp]
  refine h.mono fun j hj => ⟨hj.1.shrink fun r' hr' => ?_, hj.2⟩
  obtain rfl := Option.some.inj hr'
  exact ⟨_, page_roll hr, hreason.symm, hlisted⟩

theorem Kept.rollForked (h : Kept s) (hw : WellFormed s) (hs : s.isShuttingDown = false) {r : Roll}
    (hr : s.roll = some r) (hf : r.frame = .running) {old : Nat} {rest : List Nat}
    (hrem : r.remaining = old :: rest) (ha : s.alive old) (call : ForkCall) (new : Nat) :
    Kept ((s.forked call).rollForked e old new rest) := by
  have hmarked : Kept (((s.forked call).noteForkSuccess.markForRecycling old).handleWorkerRecycle e
      old new) := by
    have htracked := hw.alive_tracked old ha
    have hm : Kept ((s.forked call).noteForkSuccess.markForRecycling old) :=
      (h.forked call).of_page rfl
    refine hm.handleWorkerRecycle hs ?_ (Nat.le_succ_of_le (hw.tracked_bounded old htracked).2) new
    show old ∈ (s.forked call).tracked
    rw [tracked_forked]
    exact Finset.mem_insert_of_mem htracked
  unfold State.rollForked
  dsimp only
  refine hmarked.modifyRoll (r := r) hr rfl ?_
  have hlisted : r.listed = r.restartedWorkerIds ++ (old :: rest) := by
    rw [Roll.listed, hf, hrem]
    rfl
  rw [hlisted]
  unfold Roll.listed
  dsimp only
  split <;> exact .refl _

theorem Kept.rollWorkers (targeted : List Nat) (h : Kept s) (hw : WellFormed s) {r : Roll}
    (hr : s.roll = some r) (hrem : r.remaining = targeted) (hf : r.frame = .running) :
    Kept (rollWorkers e targeted s) := by
  -- a turn that passes over a worker, or the end of the loop
  have hpass (x : State) (hx : Kept x) (r : Roll) (hr : x.roll = some r) (hf : r.frame = .running)
      (outcome : RollOutcome) : Kept (x.setRollFrame (.returned outcome)) := by
    refine hx.modifyRoll hr rfl ?_
    rw [Roll.listed, Roll.listed, hf]
    exact .refl _
  have hskip (x : State) (hx : Kept x) (r : Roll) (hr : x.roll = some r) {old : Nat}
      {rest : List Nat} (hrem : r.remaining = old :: rest) (forkFailed : Bool) :
      Kept (x.modifyRoll fun r => { r with remaining := rest, forkFailed := forkFailed }) := by
    refine hx.modifyRoll hr rfl ?_
    rw [Roll.listed, Roll.listed, hrem]
    exact ((List.sublist_cons_self old rest).append_left _).append_left _
  induction targeted generalizing s r with
  | nil =>
    rw [State.rollWorkers]
    exact hpass s h r hr hf .complete
  | cons old rest ih =>
    rw [State.rollWorkers]
    split
    · exact hpass s h r hr hf .abortedByShutdown
    · rename_i hs
      split
      · have hrest : s.setRemaining rest =
            s.modifyRoll fun r' => { r' with remaining := rest, forkFailed := r.forkFailed } := by
          rw [setRemaining, modifyRoll_of_some hr, modifyRoll_of_some hr]
        have hk := hskip s h r hr hrem r.forkFailed
        rw [← hrest] at hk
        exact ih hk { hw with } (roll_modifyRoll hr _) rfl hf
      · rename_i hd
        have hthrown (x : State) (hx : Kept x) (hwx : WellFormed x) (hr : x.roll = some r) :
            Kept (if (x.rollForkFailed rest).isForkEnvUnrecoverable then
                (x.rollForkFailed rest).setRollFrame (.returned .forkBailout)
              else State.rollWorkers e rest (x.rollForkFailed rest)) := by
          have hk : Kept (x.rollForkFailed rest) :=
            hskip x.noteForkFailure (hx.of_page rfl) r hr hrem true
          have hr' : (x.rollForkFailed rest).roll =
            some { r with remaining := rest, forkFailed := true } :=
            roll_modifyRoll (s := x.noteForkFailure) hr _
          split
          · exact hpass _ hk _ hr' hf .forkBailout
          · exact ih hk { hwx with } hr' rfl hf
        rcases forkWorker_cases e (.roll old) s.rollEnv s with ⟨-, hc⟩ | ⟨-, hc⟩ | ⟨-, hc⟩
        · rw [hc]
          exact hthrown s h hw hr
        · rw [hc]
          exact hthrown _ (h.of_page rfl) { hw with } hr
        · rw [hc]
          exact h.rollForked hw (Bool.eq_false_iff.mpr hs) hr hf hrem (Bool.eq_false_iff.mpr hd) _ _

theorem Kept.restartWorkers (h : Kept s) (hw : WellFormed s) (opts : RestartOptions) :
    Kept (s.restartWorkers e opts) := by
  unfold State.restartWorkers
  split
  · exact h
  · split
    · exact h
    · rename_i hcond
      simp only [Bool.or_eq_true, not_or, Bool.not_eq_true] at hcond
      dsimp only
      have htargeted : ∀ id ∈ s.targetedWorkers opts, id ∈ s.tracked := by
        intro id hid
        have hactive : id ∈ s.getActiveWorkers := by
          unfold targetedWorkers at hid
          split at hid
          · exact hid
          · exact (List.mem_filter.mp hid).1
        exact hw.alive_tracked id (mem_getActiveWorkers.mp hactive).2.2
      have hbegun : Kept (s.beginRoll opts (s.targetedWorkers opts)) := by
        refine Records.cons (b := .restartStart opts.reason (s.targetedWorkers opts)) h
          fun j ⟨hj, hset⟩ => ?_
        refine ⟨_, Journal.expect_eq_some.mpr ⟨⟨hset, hj.serving hcond.1,
          fun id hid => hj.not_gone (htargeted id hid)⟩, rfl⟩, ?_, rfl⟩
        have hbounded : ∀ id ∈ s.targetedWorkers opts, id ≤ s.cluster.ids := fun id hid =>
          (hw.tracked_bounded id (htargeted id hid)).2
        exact { hj with
          newest := max_le hj.newest (List.max_le_of_forall_le _ _ hbounded)
          roll := by
            rintro _ ⟨⟩
            exact ⟨_, rfl, .refl _⟩ }
      exact hbegun.rollWorkers _ { hw with } rfl rfl rfl

/-- The loop goes on behind a worker that exited. -/
theorem Kept.rollExited (h : Kept s) (hw : WellFormed s) : ∀ t ∈ s.rollExited e, Kept t := by
  unfold State.rollExited
  split
  · rename_i r hr
    split
    · rename_i old hf
      have hdone (frame : RollFrame) (hc : frame.current = []) :
          Kept ((s.modifyRoll fun r =>
            { r with restartedWorkerIds := r.restartedWorkerIds ++ [old] }).setRollFrame frame) := by
        have heq : (s.modifyRoll fun r =>
              { r with restartedWorkerIds := r.restartedWorkerIds ++ [old] }).setRollFrame frame =
            s.modifyRoll fun r =>
              { r with restartedWorkerIds := r.restartedWorkerIds ++ [old], frame := frame } := by
          rw [setRollFrame, modifyRoll_of_some (roll_modifyRoll hr _), modifyRoll_of_some hr,
            modifyRoll_of_some hr]
        rw [heq]
        refine h.modifyRoll hr rfl ?_
        rw [Roll.listed, Roll.listed, hf, hc]
        simp [RollFrame.current]
      dsimp only
      split
      · rintro _ ⟨⟩; exact hdone _ rfl
      · rintro _ ⟨⟩
        have hroll := roll_modifyRoll (roll_modifyRoll hr fun r =>
          { r with restartedWorkerIds := r.restartedWorkerIds ++ [old] })
            fun r => { r with frame := .running }
        exact (hdone .running rfl).rollWorkers _ { hw with } hroll rfl rfl
    · rintro _ ⟨⟩
  · rintro _ ⟨⟩

theorem Kept.rollStaggerElapsed (h : Kept s) (hw : WellFormed s) :
    ∀ t ∈ s.rollStaggerElapsed e, Kept t := by
  unfold State.rollStaggerElapsed
  split
  · rename_i r hr
    split
    · rename_i deadline hf
      split
      · rintro _ ⟨⟩
        have hrunning : Kept (s.setRollFrame .running) := by
          refine h.modifyRoll hr rfl ?_
          rw [Roll.listed, Roll.listed, hf]
          exact .refl _
        exact hrunning.rollWorkers _ { hw with } (roll_modifyRoll hr _) rfl rfl
      · rintro _ ⟨⟩
    · rintro _ ⟨⟩
  · rintro _ ⟨⟩

theorem Kept.endRoll (h : Kept s) : Kept s.endRoll :=
  h.mono fun j ⟨hj, hset⟩ => ⟨Page.Tells.shrink hj (by nofun), hset⟩

theorem Kept.rollCompleted (h : Kept s) {r : Roll} (hr : s.roll = some r) :
    Kept (s.rollCompleted r) := by
  refine Records.cons (b := .restartComplete r.restartedWorkerIds r.opts.reason) h
    fun j ⟨hj, hset⟩ => ?_
  obtain ⟨started, hstarted, hsub⟩ := hj.roll _ (page_roll hr)
  have hdone : r.restartedWorkerIds.Sublist started :=
    (List.sublist_append_left _ _).trans hsub
  refine ⟨_, Journal.expect_eq_some.mpr ⟨⟨hset, _, hstarted, rfl, hdone⟩, rfl⟩, ?_, rfl⟩
  exact { hj with roll := by nofun }

theorem Kept.rollReturned (h : Kept s) : ∀ t ∈ s.rollReturned e, Kept t := by
  intro t ht
  obtain ⟨r, hr, ⟨-, rfl⟩ | ⟨-, rfl⟩ | ⟨-, rfl⟩⟩ := rollReturned_outcome ht
  · exact h.endRoll
  · exact Kept.endRoll (s := s.setExitCode 1) (h.of_page rfl)
  · exact (h.rollCompleted hr).refillMissing

/-! ## The shutdown -/

theorem Kept.shutdownPrimary (h : Kept s) (signal : String) :
    Kept (s.shutdownPrimary e signal) := by
  cases hs : s.isShuttingDown with
  | true => rwa [shutdownPrimary_ignored signal hs]
  | false =>
    rw [shutdownPrimary_eq signal hs]
    refine Records.cons (b := .shutdownStart signal) h fun j ⟨hj, hset⟩ => ?_
    have hd : s.manager.disposed = false := Bool.eq_false_iff.mpr fun hd =>
      Bool.false_ne_true (hs.symm.trans (hj.disposed hd))
    refine ⟨_, Journal.expect_eq_some.mpr ⟨⟨hset, hj.serving hs⟩, rfl⟩, ?_, rfl⟩
    exact { hj with
      silent := rfl
      reporting := Finset.empty_subset _
      degraded := rfl
      armed := fun _ => rfl
      disposed := fun _ => rfl
      resolved := hd
      phase := by
        show Phase.shutting = if s.manager.disposed then Phase.over else _
        rw [hd]
        rfl }

theorem Kept.shutdownResolved (h : Kept s) (hw : WellFormed s) :
    ∀ t ∈ s.shutdownResolved, Kept t := by
  unfold State.shutdownResolved
  split
  · rename_i deadline hf
    rintro _ ⟨⟩
    have hs : s.isShuttingDown = true := hw.frame (by rw [hf]; nofun)
    refine Records.cons (b := .shutdownComplete s.metrics) h fun j ⟨hj, hset⟩ => ?_
    have hd : s.manager.disposed = false := hj.resolved.trans (by rw [page, hf]; rfl)
    have hphase : j.phase = .shutting := by
      rw [hj.phase, show s.page.disposed = false from hd, show s.page.isShuttingDown = true from hs]
      rfl
    refine ⟨_, Journal.expect_eq_some.mpr ⟨⟨hset, hphase, hj.tally.symm⟩, rfl⟩, ?_, rfl⟩
    exact { hj with disposed := fun _ => hs, resolved := rfl, phase := rfl }
  · rintro _ ⟨⟩

/-! ## Calls -/

theorem Kept.resetCircuitBreaker (h : Kept s) : Kept (s.resetCircuitBreaker e) := by
  unfold State.resetCircuitBreaker
  split
  · exact h.of_page rfl
  · have hreset : Kept s.breakerReset := h.of_page rfl
    dsimp only
    split
    · exact hreset.refillMissing
    · exact hreset

theorem Kept.startPrimary (h : Kept s) (count : Nat) : Kept (s.startPrimary e count) := by
  have hforks : Kept (State.forkWorkers e count s.forking).2 :=
    Kept.forkWorkers (s := s.forking) (h.of_page rfl) count
  unfold State.startPrimary
  dsimp only
  split <;> rename_i hfork
  · rw [forking, hfork] at hforks
    exact hforks.of_page rfl
  · rw [forking, hfork] at hforks
    refine Kept.of_page ?_ (startWedgedWatch_page _)
    refine Kept.of_still ?_ (startRecycling_still _)
    exact hforks.of_page rfl

/-! ## Segments -/

theorem Kept.fire (h : Kept s) (hw : WellFormed s) (timer : Timer) :
    ∀ t ∈ s.fire e timer, Kept t := by
  intro t ht
  cases timer with
  | backoffWait => exact h.backoffElapsed t ht
  | backoffReset => exact h.of_still (backoffResetElapsed_still t ht)
  | crashCleanup => exact h.of_still (crashCleanup_still t ht)
  | degraded => exact h.degradedElapsed t ht
  | recycleSweep => exact h.of_still (recycleSweep_still t ht)
  | recycleStagger id => exact h.staggerElapsed hw id t ht
  | wedgedWatch => exact h.wedgedWatch hw t ht
  | drainFailsafe new => exact h.of_still (drainFailsafeElapsed_still new t ht)
  | forceKill new => exact h.of_still (forceKillElapsed_still new t ht)
  | sigkill new => exact h.of_still (sigkillElapsed_still new t ht)
  | exitWait => exact h.of_page (exitWaitElapsed_rollWaits t ht).page
  | exitGrace => exact h.of_page (exitGraceElapsed_rollWaits t ht).page
  | rollStagger => exact h.rollStaggerElapsed hw t ht
  | ackTimeout id => exact h.of_page (ackTimeoutElapsed_waitsOn id t ht).page
  | killDelay id => exact h.of_page (killDelayElapsed_waitsOn id t ht).page
  | shutdownExit => exact h.of_page (shutdownExitElapsed_waitsOn t ht).page

theorem Kept.resume (h : Kept s) (hw : WellFormed s) (c : Continuation) :
    ∀ t ∈ s.resume e c, Kept t := by
  intro t ht
  cases c with
  | restartQueue => exact h.queueReturned t ht
  | rollExited => exact h.rollExited hw t ht
  | rollReturned => exact h.rollReturned t ht
  | acksSettled => exact h.of_page (acksSettled_waitsOn t ht).page
  | exitWaitOver => exact h.of_page (exitWaitOver_waitsOn t ht).page
  | killsDone => exact h.of_page (killsDone_waitsOn t ht).page
  | callbacksDone => exact h.shutdownResolved hw t ht

theorem Kept.workerMessage (h : Kept s) (hw : WellFormed s) (id : Nat) (msg : Option Message) :
    ∀ t ∈ s.workerMessage e id msg, Kept t := by
  unfold State.workerMessage
  split
  · rintro _ ⟨⟩
  · rename_i hid
    rw [not_or, not_lt] at hid
    rintro _ ⟨⟩
    exact (h.onHealthMessage hw hid.2 msg).of_page (onAckMessage_waitsOn id msg _).page

/-- **Step lemma.** Every segment keeps the promises. -/
theorem Kept.act (h : Kept s) (hw : WellFormed s)
    (hseen : ∀ id ∈ s.orch.onlineWorkerIds, s.isOnline id) (hact : s.act e a = some t) :
    Kept t := by
  have pure {u : State} (hu : Kept u) (h : some u = some t) : Kept t := Option.some.inj h ▸ hu
  cases a with
  | tick ms => exact pure (u := { s with now := s.now + ms }) (h.of_page rfl) hact
  | run =>
    refine pure (h.of_page ?_) hact
    split <;> rfl
  | pluginsInstalled =>
    obtain ⟨-, rfl⟩ := pluginsInstalled_outcome hact
    exact h.startPrimary _
  | pluginInstallFailed =>
    rw [State.act] at hact
    split at hact
    · exact pure (u := s.setRunPhase .rejected) (h.of_page rfl) hact
    · cases hact
  | overrideWorkerCount n => exact pure (h.of_still (overrideWorkerCount_still n s)) hact
  | patchWorkerEnv env => exact pure (h.of_still (patchWorkerEnv_still env s)) hact
  | setReady =>
    refine pure (h.of_page ?_) hact
    split <;> rfl
  | setNotReady => exact pure (u := s.setReady false) (h.of_page rfl) hact
  | resetCircuitBreaker => exact pure h.resetCircuitBreaker hact
  | restartWorkers opts => exact pure (h.restartWorkers hw opts) hact
  | shutdownPrimary signal => exact pure (h.shutdownPrimary signal) hact
  | workerOnline id => exact h.workerOnline hw hseen id t hact
  | workerExit id code signal => exact h.workerExit hw id code signal t hact
  | workerDisconnected id => exact h.of_page (workerDisconnected_waitsOn id t hact).page
  | workerSelfDisconnect id => exact h.of_still (workerSelfDisconnect_still id t hact)
  | workerMessage id msg => exact h.workerMessage hw id msg t hact
  | workerError id => exact pure (h.of_page (settleAck_waitsOn id s).page) hact
  | timer timer => exact h.fire hw timer t hact
  | resume c => exact h.resume hw c t hact

/-! ## Runs -/

theorem Effect.online_subset (ha : ∀ id, a ≠ .workerOnline id) (h : Effect e a s t) :
    t.orch.onlineWorkerIds ⊆ s.orch.onlineWorkerIds := by
  cases h with
  | recomputed ha' => exact (recomputeFleetHealth_keeps s).2.2.2.2.2.2.le
  | degraded t ha' h => rw [degradedElapsed_eq h]
  | backoffReset t ha' h => exact (online_of_still (backoffResetElapsed_still t h)).le
  | backoffScheduled id ha' h => exact absurd ha' (ha id)
  | onlineNoted id ha' hl => exact absurd ha' (ha id)
  | drained r hr hd hs h => rw [drainOldWorker_eq]
  | attemptFailed entry ha' hf => exact (online_of_still (restartFailed_still entry s)).le
  | shutdown t hs h => rw [h.keeps.orch]
  | _ => exact subset_rfl

theorem Bit.online_subset (h : Bit e a s t) :
    t.orch.onlineWorkerIds ⊆ s.orch.onlineWorkerIds := by
  cases h with
  | removed _ id code signal hd hid => exact Finset.erase_subset _ _
  | crashed => exact (online_of_still (noteCrash_still s)).le
  | queued _ _ _ _ entry => exact (online_of_still (queueCrash_still entry s)).le
  | resetRefilled _ count | rollRefilled _ count =>
    exact (online_of_still (queueRefill_still count s)).le
  | shutdownEntered _ signal hs => exact (shutdownPrimary_entered (e := e) signal hs).online.le
  | _ => exact subset_rfl

/-- Who is counted as online did come online. -/
def Seen (s : State) : Prop := ∀ id ∈ s.orch.onlineWorkerIds, s.isOnline id

theorem Seen.act (h : Seen s) (hw : WellFormed s) (hact : s.act e a = some t) : Seen t := by
  have hlater := (act_pieces hw hact).later
  have hstays {id : Nat} (hid : id ∈ s.orch.onlineWorkerIds) : t.isOnline id := by
    have hbounded := hw.tracked_bounded id (hw.online hid)
    exact (hlater.worker id hbounded.2).online (h id hid)
  intro id hid
  by_cases ha : ∀ id, a ≠ .workerOnline id
  · have hsub : t.orch.onlineWorkerIds ⊆ s.orch.onlineWorkerIds :=
      (act_turns hw hact).preserves (P := fun x => x.orch.onlineWorkerIds ⊆ s.orch.onlineWorkerIds)
        hw (fun _ _ _ hx ht => (ht.elim (Effect.online_subset ha) Bit.online_subset).trans hx)
        subset_rfl
    exact hstays (hsub hid)
  · simp only [ne_eq, not_forall, not_not] at ha
    obtain ⟨new, rfl⟩ := ha
    obtain ⟨hl, y, hy, hcase⟩ := workerOnline_cases hact
    have honline : y.orch.onlineWorkerIds = s.orch.onlineWorkerIds :=
      hy ▸ online_of_still (onReplacementOnline_still new _)
    have hon : y.isOnline new := by
      have hself : ((s.modifyWorker new fun w => { w with online := true }).worker new).online =
          true := congrArg Worker.online worker_modifyWorker_self
      have hmoves := onReplacementOnline_effects (e := e) (a := .workerOnline new) rfl hself
      have hle := (hw.tracked_bounded new (hw.alive_tracked new hl)).2
      exact hy ▸ (hmoves.moves.later.worker new hle).online hself
    rcases hcase with ⟨-, rfl⟩ | ⟨-, rfl⟩
    · exact hstays (honline.le hid)
    · rw [handleWorkerOnline_eq] at hid hstays ⊢
      have hkeeps := recomputeFleetHealth_keeps (e := e) (y.onlineHandled e new)
      rw [hkeeps.2.2.2.2.2.2] at hid
      rcases Finset.mem_insert.mp hid with rfl | hold
      · rw [isOnline, worker, hkeeps.2.2.2.2.1]
        exact hon
      · exact hstays (honline.le hold)

/-- The journal replays the events of every run, and the primary agrees with it. -/
theorem reachable_kept {count : WorkerCount} {env : ProcessEnv}
    (h : (orchestrator e count env).Reachable s) : Kept s := by
  have hboth : Kept s ∧ Seen s := by
    refine run_preserves (P := fun x => Kept x ∧ Seen x) h ⟨?_, ?_⟩ ?_
    · exact .nil ⟨⟨le_rfl, rfl, rfl, rfl, subset_rfl, rfl, nofun, nofun, rfl, rfl, rfl, nofun⟩, rfl⟩
    · exact fun _ hid => absurd hid (Finset.notMem_empty _)
    · exact fun x a y hw hx _ hact => ⟨hx.1.act hw hx.2 hact, hx.2.act hw hact⟩
  exact hboth.1

end ClusterKit
