import ClusterKit.CrashHandling
import ClusterKit.Lib.Observer

/-! One warning for each trip of the breaker. Whether the breaker is tripped follows from
the crash window, whether a warning is due from a flag that only a crash of an untripped
breaker clears: it says how the newest recorded crash left the breaker, whatever has become
of the window since. -/

namespace ClusterKit

open State

variable {e : Host} {s t : State}

/-! ## Crashes on the record -/

/-- A recorded crash: whether the breaker was tripped before and after it, and the crash-loop
warnings emitted in between. -/
structure CrashRecord where
  trippedBefore : Bool
  trippedAfter : Bool
  warnings : Nat

/-- A crash that trips the breaker is worth one warning, a crash of a tripped breaker none. -/
def CrashRecord.Lawful (r : CrashRecord) : Prop :=
  (r.trippedBefore = false → r.trippedAfter = true → r.warnings = 1) ∧
    (r.trippedBefore = true → r.warnings = 0)

namespace State

def crashLoopWarnings (s : State) : Nat := s.process.warnings.count "ClusterKitCrashLoop"

/-- The breaker trips if a crash is recorded now. -/
def nextCrashTrips (s : State) : Bool := (s.restart.crashTracker.record s.now).isTripped s.now

end State

def crashRecord (s t : State) : CrashRecord where
  trippedBefore := s.breakerTripped
  trippedAfter := t.breakerTripped
  warnings := t.crashLoopWarnings - s.crashLoopWarnings

/-- The observer of the crashes that are recorded, newest first. -/
def noteCrashRecord (e : Host) (s : State) : Action → State → List CrashRecord → List CrashRecord
  | .workerExit id _ _, t, log => if s.recordsCrash e id then crashRecord s t :: log else log
  | _, _, log => log

/-- The newest crash on the record left the breaker tripped. -/
def leftTripped (log : List CrashRecord) : Bool := log.head?.any (·.trippedAfter)

/-- A crash that is about to trip the breaker follows one that left it untripped, or none. -/
def warnsNextTrip (e : Host) (x : State × List CrashRecord) : Action → Bool
  | .workerExit id _ _ =>
    !x.1.recordsCrash e id || x.1.breakerTripped || !x.1.nextCrashTrips || !leftTripped x.2
  | _ => true

/-! ## While the breaker is tripped, its warning is out -/

structure WarnedWhileTripped (s : State) : Prop where
  threshold : 0 < s.restart.crashTracker.threshold
  warned : s.breakerTripped = true → s.restart.breakerWarningEmitted = true

/-- What `t` shares with `s` for the breaker's warning. -/
structure SameBreaker (s t : State) : Prop where
  threshold : t.restart.crashTracker.threshold = s.restart.crashTracker.threshold
  tripped : t.breakerTripped = true → s.breakerTripped = true
  flag : t.restart.breakerWarningEmitted = s.restart.breakerWarningEmitted

namespace SameBreaker

theorem of_eq (hn : t.now = s.now) (ht : t.restart.crashTracker = s.restart.crashTracker)
    (hf : t.restart.breakerWarningEmitted = s.restart.breakerWarningEmitted) : SameBreaker s t := by
  refine ⟨by rw [ht], fun h => ?_, hf⟩
  rwa [breakerTripped, hn, ht] at h

theorem pruned (s : State) : SameBreaker s s.pruneCrashes :=
  ⟨rfl, fun h => (QueueRan.pruned s).tripped.symm.trans h, rfl⟩

theorem effect {a : Action} (h : Effect e a s t) : SameBreaker s t := by
  have hnow := h.now_eq
  cases h with
  | pruned => exact pruned s
  | queue r ha hq =>
    cases hq with
    | pruned => exact pruned s
    | _ => exact .of_eq rfl rfl rfl
  | recomputed ha => rw [recomputeFleetHealth_eq]; exact .of_eq rfl rfl rfl
  | degraded t ha ht => rw [degradedElapsed_eq ht]; exact .of_eq rfl rfl rfl
  | backoffScheduled id ha hpos => rw [scheduleBackoffReset_eq]; exact .of_eq rfl rfl rfl
  | backoffReset t ha ht => rw [backoffResetElapsed_eq ht]; exact .of_eq rfl rfl rfl
  | attemptFailed entry ha hf => rw [restartFailed_eq]; exact .of_eq rfl rfl rfl
  | drained r hr hd hs hwhy => rw [drainOldWorker_eq]; exact .of_eq rfl rfl rfl
  | shutdown t hs hm => rw [hm.eq]; exact .of_eq rfl rfl rfl
  | _ => exact .of_eq rfl rfl rfl

end SameBreaker

theorem WarnedWhileTripped.same (h : WarnedWhileTripped s) (hsame : SameBreaker s t) :
    WarnedWhileTripped t :=
  ⟨hsame.threshold ▸ h.threshold, fun ht => hsame.flag.trans (h.warned (hsame.tripped ht))⟩

/-- A reset empties the window. -/
theorem WarnedWhileTripped.reset (h : WarnedWhileTripped s) : WarnedWhileTripped s.resetRestart := by
  refine ⟨h.threshold, fun ht => ?_⟩
  have hfalse : s.resetRestart.breakerTripped = false :=
    CrashTracker.isTripped_reset s.now h.threshold
  exact absurd (hfalse.symm.trans ht) Bool.false_ne_true

/-! ## The crash that is recorded -/

/-- What recording a crash at `s` makes of the breaker. -/
structure CrashCounted (s t : State) : Prop where
  threshold : t.restart.crashTracker.threshold = s.restart.crashTracker.threshold
  tripped : t.breakerTripped = s.nextCrashTrips
  flag : t.restart.breakerWarningEmitted = s.nextCrashTrips
  warnings : t.process.warnings =
    if s.nextCrashTrips && !s.restart.breakerWarningEmitted then
      "ClusterKitCrashLoop" :: s.process.warnings
    else s.process.warnings

theorem crashRecorded_counted (id : Nat) (code : Option Int) (signal : Option String) (s : State) :
    CrashCounted s (s.crashRecorded e id code signal) := by
  have htripped : s.noteCrash.breakerTripped = s.nextCrashTrips := by
    rw [noteCrash_eq]
    exact CrashTracker.isTripped_prune s.now (s.restart.crashTracker.record s.now)
  have hthreshold : s.noteCrash.restart.crashTracker.threshold = s.restart.crashTracker.threshold := by
    rw [noteCrash_eq]
    exact CrashTracker.record_threshold s.now s.restart.crashTracker
  have hflag : s.noteCrash.restart.breakerWarningEmitted = s.restart.breakerWarningEmitted := by
    rw [noteCrash_eq]
  have hwarnings : s.noteCrash.process.warnings = s.process.warnings := by rw [noteCrash_eq]
  unfold crashRecorded
  simp only
  split
  · rename_i ht
    rw [htripped] at ht
    refine ⟨hthreshold, htripped, ht.symm, ?_⟩
    show (if s.noteCrash.restart.breakerWarningEmitted then _ else _) = _
    rw [hflag, hwarnings, ht, Bool.true_and]
    cases s.restart.breakerWarningEmitted <;> rfl
  · rename_i ht
    rw [htripped, Bool.not_eq_true] at ht
    let queued := s.noteCrash.queueCrash (.crash id code signal)
    have hqueued : queued = _ := queueCrash_eq (.crash id code signal) s.noteCrash
    have hran : QueueRan queued (queued.kickRestartQueue e) := .kickRestartQueue _
    constructor
    case threshold => rw [hran.threshold, hqueued]; exact hthreshold
    case tripped => rw [hran.tripped, hqueued]; exact htripped
    case flag => rw [hran.coordinator, hqueued, ht]
    case warnings => rw [hran.warnings, hqueued, ht]; exact hwarnings

theorem CrashSeen.counted {x : State} {id : Nat} (hx : CrashSeen s id x) (h : CrashCounted x t) :
    CrashCounted s t := by
  have hnext : x.nextCrashTrips = s.nextCrashTrips := by
    rw [nextCrashTrips, nextCrashTrips, hx.now, hx.restart]
  have hflag : x.restart.breakerWarningEmitted = s.restart.breakerWarningEmitted := by rw [hx.restart]
  refine ⟨?_, hnext ▸ h.tripped, hnext ▸ h.flag, ?_⟩
  · rw [h.threshold, hx.restart]
  · rw [h.warnings, hnext, hflag, hx.process]

/-- A recorded crash is reported lawfully unless it trips the breaker under an old warning. -/
theorem CrashCounted.lawful (h : CrashCounted s t) (hwarned : WarnedWhileTripped s) :
    (crashRecord s t).Lawful ↔
      s.breakerTripped = true ∨ s.nextCrashTrips = false ∨
        s.restart.breakerWarningEmitted = false := by
  have hcount : (crashRecord s t).warnings =
      if s.nextCrashTrips && !s.restart.breakerWarningEmitted then 1 else 0 := by
    show t.process.warnings.count _ - s.process.warnings.count _ = _
    rw [h.warnings]
    split
    · rw [List.count_cons_self, Nat.add_sub_cancel_left]
    · exact Nat.sub_self _
  unfold CrashRecord.Lawful
  rw [hcount]
  show (s.breakerTripped = false → t.breakerTripped = true → _) ∧ (s.breakerTripped = true → _) ↔ _
  rw [h.tripped]
  cases htripped : s.breakerTripped with
  | true =>
    have hflag := hwarned.warned htripped
    simp [hflag]
  | false =>
    cases s.nextCrashTrips <;> cases s.restart.breakerWarningEmitted <;> simp

/-! ## Runs -/

theorem WarnedWhileTripped.bit {a : Action} (hw : WarnedWhileTripped s)
    (ha : ∀ id code signal, a ≠ .workerExit id code signal) (h : Bit e a s t) :
    WarnedWhileTripped t := by
  cases h with
  | died _ id code signal | removed _ id code signal | quarantined _ id code signal
  | crashed _ id code signal | tripped _ id code signal | queued _ id code signal =>
    exact absurd rfl (ha id code signal)
  | tick _ ms =>
    have hlater := CrashTracker.isTripped_of_le (Nat.le_add_right s.now ms) s.restart.crashTracker
    exact ⟨hw.threshold, fun ht => hw.warned (hlater ht)⟩
  | resetShutting => exact hw.reset
  | breakerReset => exact hw.reset.same (.of_eq rfl rfl rfl)
  | resetRefilled | rollRefilled => rw [queueRefill_eq]; exact hw.same (.of_eq rfl rfl rfl)
  | shutdownEntered _ signal hs =>
    rw [shutdownPrimary_eq signal hs]
    exact hw.same (.of_eq rfl rfl rfl)
  | _ => exact hw.same (.of_eq rfl rfl rfl)

theorem WarnedWhileTripped.act {a : Action} (h : WarnedWhileTripped s) (hw : WellFormed s)
    (hact : s.act e a = some t) : WarnedWhileTripped t := by
  by_cases ha : ∃ id code signal, a = .workerExit id code signal
  · obtain ⟨id, code, signal, rfl⟩ := ha
    have hnow := act_now_eq hw (by simp) hact
    obtain ⟨-, hcrash⟩ := workerExit_crash hw hact
    cases hcrash with
    | uncounted t hc hr hp hm hcalls => exact h.same (.of_eq hnow (by rw [hr]) (by rw [hr]))
    | quarantined x hx hc hg =>
      exact h.same (.of_eq hx.now (congrArg (·.crashTracker) hx.restart)
        (congrArg (·.breakerWarningEmitted) hx.restart))
    | recorded x hx hc =>
      have hcounted := hx.counted (crashRecorded_counted (e := e) id code signal x)
      exact ⟨hcounted.threshold ▸ h.threshold, fun ht => hcounted.flag.trans (hcounted.tripped ▸ ht)⟩
  · have ha' (id : Nat) (code : Option Int) (signal : Option String) :
        a ≠ .workerExit id code signal := fun heq => ha ⟨id, code, signal, heq⟩
    refine (act_turns hw hact).preserves hw (fun x y _ hx ht => ?_) h
    exact ht.elim (fun heff => hx.same (.effect heff)) (hx.bit ha')

theorem reachable_warned {count : WorkerCount} {env : ProcessEnv}
    (h : (orchestrator e count env).Reachable s) : WarnedWhileTripped s := by
  refine run_preserves h ⟨e.cfg.restart.crashThreshold.pos, fun ht => ?_⟩ fun x a y hw hx _ hact =>
    hx.act hw hact
  have hfalse : (State.initial e count env).breakerTripped = false :=
    CrashTracker.isTripped_reset 0 (t := (RestartCoordinator.initial e).crashTracker)
      e.cfg.restart.crashThreshold.pos
  exact absurd (hfalse.symm.trans ht) Bool.false_ne_true

/-! ## The flag and the record -/

/-- Only an exit touches the flag. -/
theorem Bit.sameFlag {a : Action} (ha : ∀ id code signal, a ≠ .workerExit id code signal)
    (h : Bit e a s t) : t.restart.breakerWarningEmitted = s.restart.breakerWarningEmitted := by
  cases h with
  | died _ id code signal | removed _ id code signal | quarantined _ id code signal
  | crashed _ id code signal | tripped _ id code signal | queued _ id code signal =>
    exact absurd rfl (ha id code signal)
  | resetRefilled | rollRefilled => rw [queueRefill_eq]
  | shutdownEntered _ signal hs => rw [shutdownPrimary_eq signal hs]
  | _ => rfl

theorem act_sameFlag {a : Action} (hw : WellFormed s)
    (ha : ∀ id code signal, a ≠ .workerExit id code signal) (hact : s.act e a = some t) :
    t.restart.breakerWarningEmitted = s.restart.breakerWarningEmitted := by
  refine (act_turns hw hact).preserves
    (P := fun x => x.restart.breakerWarningEmitted = s.restart.breakerWarningEmitted) hw
    (fun x y _ hx ht => ?_) rfl
  exact ht.elim (fun heff => (SameBreaker.effect heff).flag.trans hx)
    fun hbit => (hbit.sameFlag ha).trans hx

/-- An exit keeps the flag in step with the record. -/
theorem workerExit_flag {id : Nat} {code : Option Int} {signal : Option String}
    {log : List CrashRecord} (hw : WellFormed s) (h : s.workerExit e id code signal = some t)
    (hlog : s.restart.breakerWarningEmitted = leftTripped log) :
    t.restart.breakerWarningEmitted =
      leftTripped (if s.recordsCrash e id then crashRecord s t :: log else log) := by
  obtain ⟨-, hcrash⟩ := workerExit_crash hw h
  cases hcrash with
  | uncounted t hquiet hr hp hm hcalls =>
    rw [recordsCrash, hquiet, Bool.false_and, if_neg Bool.false_ne_true, hr]
    exact hlog
  | quarantined x hx hcr hg =>
    rw [recordsCrash, hg, Bool.not_true, Bool.and_false, if_neg Bool.false_ne_true, ← hlog]
    exact congrArg (·.breakerWarningEmitted) hx.restart
  | recorded x hx hcr =>
    have hcounted := hx.counted (crashRecorded_counted (e := e) id code signal x)
    rw [if_pos hcr]
    exact hcounted.flag.trans hcounted.tripped.symm

/-- **The flag is the last line of the record**: it is set exactly while the newest recorded
crash is one that left the breaker tripped. -/
theorem reachable_flag {count : WorkerCount} {env : ProcessEnv} {x : State × List CrashRecord}
    (h : ((orchestrator e count env).observed [] (noteCrashRecord e)).Reachable x) :
    x.1.restart.breakerWarningEmitted = leftTripped x.2 := by
  refine h.observed_preserves
    (P := fun x => x.1.restart.breakerWarningEmitted = leftTripped x.2) (Q := WellFormed)
    (fun s => reachable_wellFormed) ?_ rfl
  rintro ⟨s, log⟩ a t hw hlog - hstep
  have hact := orchestrator_step hstep
  cases a with
  | workerExit id code signal => exact workerExit_flag hw hact hlog
  | _ => exact (act_sameFlag hw (by simp) hact).trans hlog

/-- A recorded crash is reported lawfully exactly when the condition holds. -/
theorem crashRecord_lawful_iff {log : List CrashRecord} {id : Nat} {code : Option Int}
    {signal : Option String} (hwarned : WarnedWhileTripped s)
    (hflag : s.restart.breakerWarningEmitted = leftTripped log) (hw : WellFormed s)
    (hc : s.recordsCrash e id = true) (h : s.workerExit e id code signal = some t) :
    (crashRecord s t).Lawful ↔ warnsNextTrip e (s, log) (.workerExit id code signal) = true := by
  obtain ⟨-, hcrash⟩ := workerExit_crash hw h
  cases hcrash with
  | uncounted t hquiet hr hp hm hcalls =>
    rw [recordsCrash, hquiet] at hc
    cases hc
  | quarantined x hx hcr hg =>
    rw [recordsCrash, hg, Bool.not_true, Bool.and_false] at hc
    cases hc
  | recorded x hx hcr =>
    rw [(hx.counted (crashRecorded_counted id code signal x)).lawful hwarned, warnsNextTrip, hc,
      hflag]
    simp [or_assoc]

/-- **One warning per trip**, as long as a crash that trips the breaker never follows one that
left it tripped: then every recorded crash is reported lawfully, and a crash that breaks the
condition is not. -/
theorem one_warning_per_trip (e : Host) (count : WorkerCount) (env : ProcessEnv)
    (x : State × List CrashRecord)
    (hrun : ((orchestrator e count env).observed [] (noteCrashRecord e)).Run
      (fun x a => warnsNextTrip e x a = true) (State.initial e count env, []) x) :
    (∀ r ∈ x.2, r.Lawful) ∧
      ∀ id code signal t, x.1.recordsCrash e id = true →
        (orchestrator e count env).step x.1 (.workerExit id code signal) = some t →
        warnsNextTrip e x (.workerExit id code signal) = false → ¬ (crashRecord x.1 t).Lawful := by
  constructor
  · refine hrun.preserves_of (P := fun x => ∀ r ∈ x.2, r.Lawful)
      (Q := fun x => WellFormed x.1 ∧ WarnedWhileTripped x.1 ∧
        x.1.restart.breakerWarningEmitted = leftTripped x.2) .refl (fun x hx => ?_) ?_
      fun r hr => absurd hr List.not_mem_nil
    · have hs : (orchestrator e count env).Reachable x.1 := hx.unobserved
      exact ⟨reachable_wellFormed hs, reachable_warned hs, reachable_flag hx⟩
    rintro ⟨s, log⟩ a ⟨t, log'⟩ ⟨hw, hwarned, hflag⟩ hlog hok hstep
    obtain ⟨hstep, hnote⟩ := StepSystem.observed_step hstep
    have hact := orchestrator_step hstep
    show ∀ r ∈ log', r.Lawful
    rw [show log' = noteCrashRecord e s a t log from hnote]
    cases a with
    | workerExit id code signal =>
      show ∀ r ∈ (if s.recordsCrash e id then crashRecord s t :: log else log), r.Lawful
      split
      · rename_i hc
        intro r hr
        rcases List.mem_cons.mp hr with rfl | hr
        · exact (crashRecord_lawful_iff hwarned hflag hw hc hact).mpr hok
        · exact hlog r hr
      · exact hlog
    | _ => exact hlog
  · intro id code signal t hc hstep hbad hlawful
    have hreach : (orchestrator e count env).Reachable x.1 := hrun.unobserved
    have hok := (crashRecord_lawful_iff (reachable_warned hreach) (reachable_flag hrun.reachable)
      (reachable_wellFormed hreach) hc (orchestrator_step hstep)).mp hlawful
    exact absurd (hbad.symm.trans hok) Bool.false_ne_true

/-- A threshold of two: the first crash trips nothing, the second trips the breaker and warns,
the third finds it tripped. -/
theorem one_warning_per_trip_three_crashes :
    ∃ x : State × List CrashRecord,
      x.2.map (fun r => (r.trippedBefore, r.trippedAfter, r.warnings)) =
        [(true, true, 0), (false, true, 1), (false, false, 0)] ∧ ∀ r ∈ x.2, r.Lawful := by
  let e : Host := { cfg := { restart := { crashThreshold := 2 } } }
  have hrun := StepSystem.exists_run_of_any
    ((orchestrator e (.fixed 3) fun _ => none).observed [] (noteCrashRecord e))
    (State.initial e (.fixed 3) fun _ => none, []) (warnsNextTrip e)
    [.run, .pluginsInstalled, .workerExit 1 (some 1) none, .workerExit 2 (some 1) none,
      .workerExit 3 (some 1) none]
    (fun x => decide (x.2.map (fun r => (r.trippedBefore, r.trippedAfter, r.warnings)) =
      [(true, true, 0), (false, true, 1), (false, false, 0)])) (by decide +kernel)
  obtain ⟨x, hrun, hx⟩ := hrun
  exact ⟨x, of_decide_eq_true hx, (one_warning_per_trip e _ _ x hrun).1⟩

/-- A threshold of one: a crash trips the breaker and warns, the operator resets it, and the
next crash trips it in silence. -/
theorem second_trip_in_silence :
    ¬ ∀ (e : Host) (count : WorkerCount) (env : ProcessEnv) (x : State × List CrashRecord),
      ((orchestrator e count env).observed [] (noteCrashRecord e)).Reachable x →
        ∀ r ∈ x.2, r.Lawful := by
  intro h
  let e : Host := { cfg := { restart := { crashThreshold := 1 } } }
  have hrun := StepSystem.exists_reachable_of_any
    ((orchestrator e (.fixed 2) fun _ => none).observed [] (noteCrashRecord e))
    [.run, .pluginsInstalled, .workerExit 1 (some 1) none, .resetCircuitBreaker,
      .workerExit 2 (some 1) none]
    (fun x => x.2.any fun r => !r.trippedBefore && r.trippedAfter && decide (r.warnings = 0))
    (by decide +kernel)
  obtain ⟨x, hx, hany⟩ := hrun
  obtain ⟨r, hr, hsilent⟩ := List.any_eq_true.mp hany
  simp only [Bool.and_eq_true, Bool.not_eq_true', decide_eq_true_eq] at hsilent
  have hone := (h e _ _ x hx r hr).1 hsilent.1.1 hsilent.1.2
  omega

end ClusterKit
