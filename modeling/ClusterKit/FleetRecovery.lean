import ClusterKit.FleetEvents
import ClusterKit.Lib.Observer
import ClusterKit.Validation

/-! The signals of recovery. A cleared exit code and `fleet:recovered` are decided by
`activeWorkers`, which also counts who is booting and who is being replaced. -/

namespace ClusterKit

open State

variable {e : Host} {s t : State} {a : Action}

/-- No other event is asked about. -/
theorem recoveries_act (hw : WellFormed s) (hact : s.act e a = some t)
    (ha : a.recountsFleet = false) : t.recoveries = s.recoveries := by
  refine (act_turns hw hact).preserves (P := fun x => x.recoveries = s.recoveries) hw
    (fun x y _ hx hxy => ?_) rfl
  rw [← hx]
  cases hxy.fleetTurn with
  | kept _ hk => rw [recoveries, hk.signals, recoveries]
  | recomputed ha' => exact absurd (ha.symm.trans ha') Bool.false_ne_true
  | elapsed _ ha' ht =>
    obtain ⟨deadline, -, -, -, -, -, hsignals⟩ := degradedElapsed_cases ht
    rw [recoveries, hsignals]
    split
    · rfl
    · exact List.count_cons_of_ne (by decide)
  | stopped _ hsignals hs ht => rw [recoveries, hsignals, recoveries]

/-! ## When recovery is signalled, and when it is true -/

/-- An online event cleared a failed exit code, or `fleet:recovered` was emitted. -/
def recoverySignalled (s : State) (a : Action) (t : State) : Bool :=
  decide (s.recoveries < t.recoveries) ||
    match a with
    | .workerOnline _ => decide (s.process.exitCode ≠ 0) && decide (t.process.exitCode = 0)
    | _ => false

namespace State

/-- The live workers that do not serve when the event is heard: they boot or are being replaced. -/
def unready (s : State) : Action → Finset Nat
  | .workerOnline id => s.live.filter fun j =>
      ¬ ((j = id ∨ s.isOnline j) ∧ j ∉ s.manager.recyclingWorkerIds)
  | .workerExit id _ _ => (s.live.erase id).filter fun j =>
      ¬ (s.isOnline j ∧ j ∉ s.manager.recyclingWorkerIds)
  | _ => ∅

/-- The event finds `activeWorkers` at the target, with something to take back. -/
def announcesRecovery (e : Host) (s : State) : Action → Bool
  | .workerOnline _ => !s.manager.disposed &&
      decide (s.resolveWorkerCount e ≤ s.metrics.activeWorkers) &&
        (s.recovers e || decide (s.process.exitCode ≠ 0))
  | .workerExit .. =>
      s.recovers e && decide (s.resolveWorkerCount e ≤ s.metrics.activeWorkers - 1)
  | _ => false

/-- Nobody boots or is being replaced when the event announces a recovery. -/
def recoveryReady (e : Host) (s : State) (a : Action) : Bool :=
  !s.announcesRecovery e a || decide (s.unready a = ∅)

end State

theorem lt_add_ite_iff (n : Nat) (b : Bool) : decide (n < n + if b then 1 else 0) = b := by
  cases b with
  | true => exact decide_eq_true (Nat.lt_succ_self n)
  | false => exact decide_eq_false (Nat.lt_irrefl n)

theorem recoverySignalled_eq (hw : WellFormed s) (hact : s.act e a = some t) :
    recoverySignalled s a t = s.announcesRecovery e a := by
  have hother (ha : a.recountsFleet = false) : decide (s.recoveries < t.recoveries) = false := by
    rw [recoveries_act hw hact ha]
    exact decide_eq_false (Nat.lt_irrefl _)
  cases a with
  | workerOnline id =>
    cases hd : s.manager.disposed with
    | true =>
      obtain ⟨hrecoveries, hcode⟩ := workerOnline_unheard hd hact
      rw [recoverySignalled, hrecoveries, hcode, announcesRecovery, hd]
      by_cases hzero : s.process.exitCode = 0
      · simp [hzero]
      · simp [hzero]
    | false =>
      have hheard := workerOnline_heard hd hact
      rw [recoverySignalled, hheard.recoveries, lt_add_ite_iff, hheard.exitCode, announcesRecovery, hd]
      by_cases hfull : s.resolveWorkerCount e ≤ s.metrics.activeWorkers
      · simp [hfull]
      · simp [hfull]
  | workerExit id code signal =>
    have hheard := workerExit_heard hw hact
    show (decide (s.recoveries < t.recoveries) || false) = _
    rw [Bool.or_false, hheard.recoveries, lt_add_ite_iff, announcesRecovery]
  | _ => exact (Bool.or_false _).trans (hother rfl)

/-- Whoever is counted serves, or does not. -/
theorem serving_card (hstaffed : Staffed s) (hw : WellFormed s) (hact : s.act e a = some t)
    (h : s.announcesRecovery e a = true) :
    t.serving.card + (s.unready a).card = s.activeAfter a ∧
      t.resolveWorkerCount e = s.resolveWorkerCount e := by
  cases a with
  | workerOnline id =>
    have hd : s.manager.disposed = false := by
      rw [announcesRecovery, Bool.and_eq_true, Bool.and_eq_true, Bool.not_eq_true'] at h
      exact h.1.1
    have hheard := workerOnline_heard hd hact
    refine ⟨?_, resolveWorkerCount_congr hheard.count⟩
    have hserving : t.serving = s.live.filter fun j =>
        (j = id ∨ s.isOnline j) ∧ j ∉ s.manager.recyclingWorkerIds := by
      ext j
      rw [hheard.serving, Finset.mem_filter]
    rw [hserving, unready, Finset.card_filter_add_card_filter_not]
    exact (hstaffed.active hw hd).symm
  | workerExit id code signal =>
    rw [announcesRecovery, Bool.and_eq_true] at h
    have hs : s.isShuttingDown = false := by
      by_contra hs
      rw [Bool.not_eq_false] at hs
      exact Bool.false_ne_true ((recovers_shutting hs).symm.trans h.1)
    have hd : s.manager.disposed = false := by
      by_contra hd
      rw [Bool.not_eq_false] at hd
      exact Bool.false_ne_true (hs.symm.trans (hw.disposed hd))
    have hheard := workerExit_heard hw hact
    refine ⟨?_, resolveWorkerCount_congr hheard.count⟩
    have hserving : t.serving = (s.live.erase id).filter fun j =>
        s.isOnline j ∧ j ∉ s.manager.recyclingWorkerIds := by
      ext j
      rw [hheard.serving, Finset.mem_erase, mem_serving, Finset.mem_filter, Finset.mem_erase, and_assoc]
    have hid : id ∈ s.live := by
      obtain ⟨m, hran, -⟩ := workerExit_outcome hw hact
      have htracked := hw.alive_tracked id hran.alive
      exact mem_live.mpr ⟨hw.tracked_bounded id htracked, hran.alive⟩
    rw [hserving, unready, Finset.card_filter_add_card_filter_not, activeAfter,
      Finset.card_erase_of_mem hid, hstaffed.active hw hd]
  | _ => cases h

theorem announcesRecovery_active (h : s.announcesRecovery e a = true) :
    s.resolveWorkerCount e ≤ s.activeAfter a := by
  cases a with
  | workerOnline id =>
    rw [announcesRecovery, Bool.and_eq_true, Bool.and_eq_true, decide_eq_true_eq] at h
    exact h.1.2
  | workerExit id code signal =>
    rw [announcesRecovery, Bool.and_eq_true, decide_eq_true_eq] at h
    exact h.2
  | _ => cases h

/-- With nobody unready, those who are counted are those who serve. -/
theorem signal_sound (hstaffed : Staffed s) (hw : WellFormed s) (hact : s.act e a = some t)
    (h : recoverySignalled s a t = true) (hready : s.unready a = ∅) :
    t.resolveWorkerCount e ≤ t.serving.card := by
  rw [recoverySignalled_eq hw hact] at h
  obtain ⟨hcard, htarget⟩ := serving_card hstaffed hw hact h
  rw [hready, Finset.card_empty, Nat.add_zero] at hcard
  rw [htarget, hcard]
  exact announcesRecovery_active h

/-- With no more workers than the target, whoever is unready is missed. -/
theorem signal_unsound (hstaffed : Staffed s) (hw : WellFormed s) (hact : s.act e a = some t)
    (h : recoverySignalled s a t = true) (hfull : s.activeAfter a = s.resolveWorkerCount e)
    (hunready : s.unready a ≠ ∅) : t.serving.card < t.resolveWorkerCount e := by
  rw [recoverySignalled_eq hw hact] at h
  obtain ⟨hcard, htarget⟩ := serving_card hstaffed hw hact h
  have hpos : 0 < (s.unready a).card := Finset.card_pos.mpr (Finset.nonempty_of_ne_empty hunready)
  rw [htarget, ← hfull, ← hcard]
  exact Nat.lt_add_of_pos_right hpos

/-! ## Runs -/

/-- One signal of recovery, with what it was given for. -/
structure RecoveryReport where
  target : Nat
  serving : Nat

/-- The observer of the signals of recovery. -/
def noteRecovery (e : Host) (s : State) (a : Action) (t : State) (reports : List RecoveryReport) :
    List RecoveryReport :=
  if recoverySignalled s a t then
    { target := t.resolveWorkerCount e, serving := t.serving.card } :: reports
  else reports

/-- **Recovery signals**: in a run in which nobody boots or is being replaced when a recovery is
announced, each signal is given for as many serving workers as there should be; and wherever a
run may be, a signal given for no more workers than the target is true only then. -/
theorem recovery_signals_sound (e : Host) (count : WorkerCount) (env : ProcessEnv) :
    (∀ x : State × List RecoveryReport,
      ((orchestrator e count env).observed [] (noteRecovery e)).Run
        (fun y a => y.1.recoveryReady e a = true) (State.initial e count env, []) x →
      ∀ report ∈ x.2, report.target ≤ report.serving) ∧
    ∀ s a t, (orchestrator e count env).Reachable s → (orchestrator e count env).step s a = some t →
      recoverySignalled s a t = true → s.activeAfter a = s.resolveWorkerCount e →
      (t.resolveWorkerCount e ≤ t.serving.card ↔ s.unready a = ∅) := by
  refine ⟨fun x hrun => ?_, fun s a t hr hstep hsignal hfull => ?_⟩
  · refine hrun.observed_preserves (Q := (orchestrator e count env).Reachable)
      (P := fun x => ∀ report ∈ x.2, report.target ≤ report.serving) (fun s hs => hs) ?_ nofun
    rintro ⟨s, reports⟩ a t hr h hok hstep report hreport
    have hw := reachable_wellFormed hr
    have hact := orchestrator_step hstep
    simp only [noteRecovery] at hreport
    split at hreport
    · rename_i hsignal
      rcases List.mem_cons.mp hreport with rfl | hreport
      · rw [recoveryReady, ← recoverySignalled_eq hw hact, hsignal, Bool.not_true, Bool.false_or,
          decide_eq_true_eq] at hok
        exact signal_sound (reachable_staffed hr) hw hact hsignal hok
      · exact h report hreport
    · exact h report hreport
  · have hw := reachable_wellFormed hr
    have hstaffed := reachable_staffed hr
    have hact := orchestrator_step hstep
    refine ⟨fun hsound => ?_, signal_sound hstaffed hw hact hsignal⟩
    by_contra hunready
    have hshort := signal_unsound hstaffed hw hact hsignal hfull hunready
    omega

/-- Both workers crash, and both replacements serve before the exit code is cleared. -/
theorem recovery_signals_sound_two_crashes :
    ∃ x : State × List RecoveryReport, x.2.length = 1 ∧ x.1.process.exitCode = 0 ∧
      ∀ report ∈ x.2, report.target ≤ report.serving := by
  have hrun := StepSystem.exists_run_of_any
    ((orchestrator {} (.fixed 2) fun _ => none).observed [] (noteRecovery {}))
    (State.initial {} (.fixed 2) fun _ => none, []) (fun y a => y.1.recoveryReady {} a)
    [.run, .pluginsInstalled, .workerOnline 1, .workerOnline 2, .workerExit 1 (some 1) none,
      .workerExit 2 (some 1) none, .tick 1000, .timer .backoffWait, .workerOnline 3,
      .resume .restartQueue, .tick 2000, .timer .backoffWait, .workerOnline 4]
    (fun x => decide (x.2.length = 1) && decide (x.1.process.exitCode = 0)) (by decide +kernel)
  obtain ⟨x, hrun, hx⟩ := hrun
  rw [Bool.and_eq_true, decide_eq_true_eq, decide_eq_true_eq] at hx
  exact ⟨x, hx.1, hx.2, (recovery_signals_sound _ (.fixed 2) _).1 x hrun⟩

/-- Both workers crash. The first replacement boots slowly: when it comes online, the second has
been forked, and the exit code is cleared with one worker serving. -/
theorem exit_code_cleared_while_booting :
    Host.Accepted {} ∧
      ∃ x : State × List RecoveryReport,
        ((orchestrator {} (.fixed 2) fun _ => none).observed [] (noteRecovery {})).Reachable x ∧
        x.1.process.exitCode = 0 ∧ ¬ ∀ report ∈ x.2, report.target ≤ report.serving := by
  refine ⟨⟨{}, rfl⟩, ?_⟩
  have hrun := StepSystem.exists_reachable_of_any
    ((orchestrator {} (.fixed 2) fun _ => none).observed [] (noteRecovery {}))
    [.run, .pluginsInstalled, .workerOnline 1, .workerOnline 2, .workerExit 1 (some 1) none,
      .workerExit 2 (some 1) none, .tick 1000, .timer .backoffWait, .resume .restartQueue,
      .tick 2000, .timer .backoffWait, .workerOnline 3]
    (fun x => decide (x.1.process.exitCode = 0) &&
      x.2.any fun report => decide (report.serving < report.target)) (by decide +kernel)
  obtain ⟨x, hrun, hx⟩ := hrun
  rw [Bool.and_eq_true, decide_eq_true_eq] at hx
  obtain ⟨report, hreport, hfew⟩ := List.any_eq_true.mp hx.2
  refine ⟨x, hrun, hx.1, fun hsound => ?_⟩
  exact absurd (hsound report hreport) (Nat.not_le.mpr (of_decide_eq_true hfew))

end ClusterKit
