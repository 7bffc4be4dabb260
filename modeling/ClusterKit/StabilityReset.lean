import ClusterKit.Backoff

/-! The stability reset. An observer writes down when workers came online and forgets it when
a worker exits ungracefully; an armed stability timer is due one window after a time that is
still written down. -/

namespace ClusterKit

open State

variable {e : Host} {s t : State} {a : Action}

/-! ## Who arms the timer -/

/-- The timer of `t` is that of `s`, or cancelled. -/
def TimerKept (s t : State) : Prop :=
  t.restart.backoffResetTimer = s.restart.backoffResetTimer ∨ t.restart.backoffResetTimer = none

theorem TimerKept.trans {u : State} (h : TimerKept s t) (h' : TimerKept t u) : TimerKept s u := by
  rcases h' with h' | h'
  · rw [TimerKept, h']
    exact h
  · exact .inr h'

/-- Only online events arm the timer. -/
theorem TimerKept.effect (honline : ∀ id, a ≠ .workerOnline id) (h : Effect e a s t) :
    TimerKept s t := by
  cases h with
  | backoffScheduled id hid hpos => exact absurd hid (honline id)
  | backoffReset t hb ht => exact .inr (backoffResetElapsed_cases (e := e) ht).2.1
  | backoffCancelled => exact .inr rfl
  | queue r hq hm => cases hm <;> exact .inl rfl
  | attemptFailed entry hq hf => rw [restartFailed_eq]; exact .inl rfl
  | recomputed hf => rw [recomputeFleetHealth_eq]; exact .inl rfl
  | degraded t hd ht => rw [degradedElapsed_eq ht]; exact .inl rfl
  | drained r hr hd hs hwhy => rw [drainOldWorker_eq]; exact .inl rfl
  | shutdown t hs hm => rw [hm.eq]; exact .inl rfl
  | _ => exact .inl rfl

theorem TimerKept.bit (h : Bit e a s t) : TimerKept s t := by
  cases h with
  | crashed => rw [noteCrash_eq]; exact .inl rfl
  | queued => rw [queueCrash_eq]; exact .inl rfl
  | resetRefilled | rollRefilled => rw [queueRefill_eq]; exact .inl rfl
  | shutdownEntered _ signal hs =>
    rw [shutdownPrimary_eq signal hs]
    exact .inr rfl
  | _ => exact .inl rfl

theorem TimerKept.act (hw : WellFormed s) (honline : ∀ id, a ≠ .workerOnline id)
    (h : s.act e a = some t) : TimerKept s t :=
  (act_turns hw h).preserves (P := fun x => TimerKept s x) hw
    (fun _ _ _ hx ht => hx.trans (ht.elim (effect honline) bit)) (.inl rfl)

/-- A crash cancels the timer, whether it is recorded or gives up the slot. -/
theorem crash_cancels_timer {id : Nat} {code : Option Int} {signal : Option String}
    (hw : WellFormed s) (hc : s.crashes id = true) (h : s.workerExit e id code signal = some t) :
    t.restart.backoffResetTimer = none := by
  obtain ⟨-, hcrash⟩ := workerExit_crash hw h
  cases hcrash with
  | uncounted t hquiet => exact absurd (hquiet.symm.trans hc) Bool.false_ne_true
  | quarantined x hx hc hg => exact congrArg RestartCoordinator.backoffResetTimer hx.restart
  | recorded x hx hc =>
    have hnoted : x.noteCrash.restart.backoffResetTimer = none := by
      rw [noteCrash_eq]
      exact congrArg RestartCoordinator.backoffResetTimer hx.restart
    unfold crashRecorded
    simp only
    split
    · exact hnoted
    · rw [(QueueRan.kickRestartQueue _).coordinator, queueCrash_eq]
      exact hnoted

/-! ## What the delay does -/

/-- A positive delay stays positive in an attempt. -/
theorem Attempted.delay_pos {entry : RestartQueueEntry} {delayMs : ℚ} {v w : QueueView}
    (h : Attempted e entry delayMs s v w) (hcfg : BackoffAccepted e.cfg.restart)
    (hdelay : 0 < delayMs) (hpos : 0 < v.backoffDelay) : 0 < w.backoffDelay := by
  cases h with
  | restarted call hc hs ht hok =>
    have hgrown : 0 < delayMs * e.cfg.restart.backoffMultiplier :=
      mul_pos hdelay (lt_of_lt_of_le zero_lt_one hcfg.multiplier)
    have hcap : 0 < e.cfg.restart.maxBackoffMs := lt_of_lt_of_le (by norm_num) hcfg.max
    show 0 < nextBackoffDelay e delayMs
    rw [nextBackoffDelay, if_pos hdelay]
    exact lt_min hgrown hcap
  | stopped | requeued | gaveUp => exact hpos

/-- So it does in a run of the loop, which waits before it tries anything. -/
theorem LoopRan.delay_pos {v w : QueueView} (h : LoopRan e s v w)
    (hd : s.restartDelay e = v.restartDelay e) (hpos : 0 < v.backoffDelay) : 0 < w.backoffDelay := by
  cases h with
  | ended | waits => exact hpos
  | tried entry rest w hq hs hdelay ha =>
    rw [hd, QueueView.restartDelay, if_pos hpos] at hdelay
    exact absurd hpos hdelay

/-- The restart queue takes no delay back. -/
theorem delay_pos_of_runsQueue (hcfg : BackoffAccepted e.cfg.restart) (hw : WellFormed s)
    (hwaits : s.queueView.WaitsPositive) (ha : a.runsQueue = true) (hreset : a ≠ .resetCircuitBreaker)
    (hpos : 0 < s.restart.restartBackoffDelay) (h : s.act e a = some t) :
    0 < t.restart.restartBackoffDelay := by
  have hfound : foundQueue s a = s.queueView := by
    cases a with
    | resetCircuitBreaker => exact absurd rfl hreset
    | _ => rfl
  cases queueSegment_of_act hw ha h with
  | untouched a t harr hv =>
    rw [hfound] at hv
    exact hpos.trans_eq (congrArg QueueView.backoffDelay hv).symm
  | kicked a t x hx hs ht hk =>
    have hdelay : 0 < x.queueView.backoffDelay := by
      rw [hx, hfound]
      exact hpos
    rcases hk.cases with ⟨-, hv⟩ | ⟨-, hl⟩
    · exact hdelay.trans_eq (congrArg QueueView.backoffDelay hv).symm
    · exact hl.delay_pos rfl hdelay
  | abandoned t entry delayMs since hf hs hv =>
    exact hpos.trans_eq (congrArg QueueView.backoffDelay hv).symm
  | attempted t entry delayMs since hf hdue hs hatt =>
    exact hatt.delay_pos hcfg (hwaits entry delayMs since hf) hpos
  | resumed t hf hl => exact hl.delay_pos rfl hpos

/-- Whatever else takes a positive delay back is a reset. -/
theorem resets_of_delay_lost (hcfg : BackoffAccepted e.cfg.restart) (hw : WellFormed s)
    (hwaits : s.queueView.WaitsPositive) (hreset : a ≠ .resetCircuitBreaker)
    (hpos : 0 < s.restart.restartBackoffDelay) (h : s.act e a = some t)
    (hzero : t.restart.restartBackoffDelay = 0) : resetsBackoff e s a = true ∧ a.runsQueue = false := by
  cases ha : a.runsQueue with
  | true =>
    have hkept := delay_pos_of_runsQueue hcfg hw hwaits ha hreset hpos h
    exact absurd hzero hkept.ne'
  | false =>
    refine ⟨?_, rfl⟩
    have hdelay := backoffDelay_of_act hw ha h
    cases hr : resetsBackoff e s a with
    | true => rfl
    | false =>
      rw [hr, hzero] at hdelay
      exact absurd hdelay hpos.ne

/-! ## The observer -/

/-- When workers came online since the last ungraceful exit that was handled. -/
def noteStability (s : State) : Action → State → List Nat → List Nat
  | .workerOnline _, _, log => s.now :: log
  | .workerExit id _ _, _, log =>
    if !s.manager.disposed && !(s.worker id).exitedAfterDisconnect then [] else log
  | _, _, log => log

/-- Time does not pass an armed stability timer. -/
def stabilityPunctual (s : State) : Action → Bool
  | .tick ms => s.restart.backoffResetTimer.all fun deadline => decide (s.now + ms ≤ deadline)
  | _ => true

/-- An armed stability timer is due one window after a worker came online. -/
def TimerExplained (e : Host) (x : State × List Nat) : Prop :=
  x.1.isShuttingDown = false → ∀ deadline, x.1.restart.backoffResetTimer = some deadline →
    ∃ online ∈ x.2, online + e.cfg.restart.stabilityWindowMs = deadline

theorem noteStability_keeps {log : List Nat} (hw : WellFormed s) (h : s.act e a = some t)
    (ht : t.isShuttingDown = false) {deadline : Nat}
    (htimer : t.restart.backoffResetTimer = some deadline) {online : Nat} (hlog : online ∈ log) :
    online ∈ noteStability s a t log := by
  cases a with
  | workerOnline id => exact List.mem_cons_of_mem _ hlog
  | workerExit id code signal =>
    show online ∈ (if _ then [] else log)
    split
    · rename_i hcrash
      have hs : s.isShuttingDown = false := ((act_pieces hw h).later).not_shutting ht
      have hc : s.crashes id = true := by
        rw [Bool.and_eq_true] at hcrash
        rw [crashes, hs, hcrash.1, hcrash.2]
        rfl
      exact absurd (htimer.symm.trans (crash_cancels_timer hw hc h)) (Option.some_ne_none deadline)
    · exact hlog
  | _ => exact hlog

theorem TimerExplained.act {log : List Nat} (hx : TimerExplained e (s, log)) (hw : WellFormed s)
    (h : s.act e a = some t) : TimerExplained e (t, noteStability s a t log) := by
  intro ht deadline htimer
  have hs : s.isShuttingDown = false := ((act_pieces hw h).later).not_shutting ht
  have hkept (hsame : s.restart.backoffResetTimer = some deadline) :
      ∃ online ∈ noteStability s a t log,
        online + e.cfg.restart.stabilityWindowMs = deadline := by
    obtain ⟨online, hlog, hdue⟩ := hx hs deadline hsame
    exact ⟨online, noteStability_keeps hw h ht htimer hlog, hdue⟩
  by_cases honline : ∃ id, a = .workerOnline id
  · obtain ⟨id, rfl⟩ := honline
    have harmed := (workerOnline_backoff h).2
    rw [htimer] at harmed
    split at harmed
    · exact ⟨s.now, List.mem_cons_self, (Option.some.inj harmed).symm⟩
    · exact hkept harmed.symm
  · rcases TimerKept.act hw (fun id heq => honline ⟨id, heq⟩) h with hsame | hnone
    · exact hkept (hsame.symm.trans htimer)
    · exact absurd (htimer.symm.trans hnone) (Option.some_ne_none deadline)

/-- In a punctual run the timer is never late. -/
def TimerAhead (s : State) : Prop :=
  ∀ deadline, s.restart.backoffResetTimer = some deadline → s.now ≤ deadline

theorem TimerAhead.act (hx : TimerAhead s) (hw : WellFormed s) (hok : stabilityPunctual s a = true)
    (h : s.act e a = some t) : TimerAhead t := by
  intro deadline htimer
  by_cases htick : ∃ ms, a = .tick ms
  · obtain ⟨ms, rfl⟩ := htick
    rw [← Option.some.inj h] at htimer ⊢
    have htimer : s.restart.backoffResetTimer = some deadline := htimer
    rw [stabilityPunctual, htimer] at hok
    exact of_decide_eq_true hok
  rw [act_now_eq hw (fun ms heq => htick ⟨ms, heq⟩) h]
  by_cases honline : ∃ id, a = .workerOnline id
  · obtain ⟨id, rfl⟩ := honline
    have harmed := (workerOnline_backoff h).2
    rw [htimer] at harmed
    split at harmed
    · rw [Option.some.inj harmed]
      exact Nat.le_add_right _ _
    · exact hx deadline harmed.symm
  · rcases TimerKept.act hw (fun id heq => honline ⟨id, heq⟩) h with hsame | hnone
    · exact hx deadline (hsame.symm.trans htimer)
    · exact absurd (htimer.symm.trans hnone) (Option.some_ne_none deadline)

/-- **The stability reset is sound.** Only a reset by hand, an online event without a window,
or the stability timer takes a positive delay back; when the timer does, a worker came online
one window before the timer was due, and no worker has exited ungracefully since. In a run that
is punctual, the timer is due at that moment. -/
theorem stability_reset_sound (e : Host) (hcfg : e.Accepted) (count : WorkerCount)
    (env : ProcessEnv) (ok : State × List Nat → Action → Prop) (x : State × List Nat)
    (hrun : ((orchestrator e count env).observed [] noteStability).Run ok
      (State.initial e count env, []) x) (a : Action) (t : State)
    (hstep : (orchestrator e count env).step x.1 a = some t)
    (hpos : 0 < x.1.restart.restartBackoffDelay) (hzero : t.restart.restartBackoffDelay = 0) :
    a = .resetCircuitBreaker ∨
      (∃ id, a = .workerOnline id) ∧ e.cfg.restart.stabilityWindowMs = 0 ∨
      a = .timer .backoffReset ∧ ∃ online ∈ x.2,
        online + e.cfg.restart.stabilityWindowMs ≤ x.1.now ∧
          ((∀ y b, ok y b → stabilityPunctual y.1 b = true) →
            online + e.cfg.restart.stabilityWindowMs = x.1.now) := by
  have hreach : (orchestrator e count env).Reachable x.1 := hrun.unobserved
  have hw : WellFormed x.1 := reachable_wellFormed hreach
  have hact := orchestrator_step hstep
  by_cases hreset : a = .resetCircuitBreaker
  · exact .inl hreset
  obtain ⟨hresets, hruns⟩ := resets_of_delay_lost hcfg.backoff hw (reachable_waitsPositive hreach)
    hreset hpos hact hzero
  have hexplained : TimerExplained e x :=
    hrun.observed_preserves (P := TimerExplained e) (fun _ => reachable_wellFormed)
      (fun _ _ _ hw hx _ hs => hx.act hw (orchestrator_step hs))
      fun _ deadline htimer => absurd htimer.symm (Option.some_ne_none deadline)
  right
  cases a with
  | workerOnline id =>
    simp only [resetsBackoff, Bool.and_eq_true, decide_eq_true_eq] at hresets
    exact .inl ⟨⟨id, rfl⟩, hresets.1.2⟩
  | resetCircuitBreaker => exact absurd rfl hreset
  | timer timer =>
    cases timer with
    | backoffReset =>
      obtain ⟨deadline, htimer, hdue⟩ := (backoffResetElapsed_cases (e := e) hact).1
      have hs : x.1.isShuttingDown = false := by
        simp only [resetsBackoff, Bool.and_eq_true, Bool.not_eq_true'] at hresets
        exact hresets.1
      obtain ⟨online, hlog, heq⟩ := hexplained hs deadline htimer
      refine .inr ⟨rfl, online, hlog, heq ▸ hdue, fun hpunctual => ?_⟩
      have hahead : TimerAhead x.1 :=
        hrun.observed_preserves (P := fun y => TimerAhead y.1) (fun _ => reachable_wellFormed)
          (fun y b _ hw hx hok hs => hx.act hw (hpunctual y b hok) (orchestrator_step hs))
          fun deadline htimer => absurd htimer.symm (Option.some_ne_none deadline)
      rw [heq]
      exact Nat.le_antisymm hdue (hahead deadline htimer)
    | _ => cases hresets
  | _ => cases hresets

/-- A restart comes online, nothing crashes for a window, and the delay is taken back. -/
theorem stability_reset_sound_one_restart :
    ∃ x : State × List Nat, x.1.restart.restartBackoffDelay = 2000 ∧
      ∃ online ∈ x.2, online + 30000 = x.1.now := by
  let e : Host := {}
  let S := (orchestrator e (.fixed 2) fun _ => none).observed [] noteStability
  have hrun := StepSystem.exists_run_of_any S (State.initial e (.fixed 2) fun _ => none, [])
    (fun x a => stabilityPunctual x.1 a)
    [.run, .pluginsInstalled, .workerExit 1 (some 1) none, .tick 1000, .timer .backoffWait,
      .resume .restartQueue, .tick 50, .workerOnline 3, .tick 30000]
    (fun x => decide (x.1.restart.restartBackoffDelay = 2000) &&
      ((orchestrator e (.fixed 2) fun _ => none).step x.1 (.timer .backoffReset)).any
        fun t => decide (t.restart.restartBackoffDelay = 0)) (by decide +kernel)
  obtain ⟨x, hrun, hx⟩ := hrun
  rw [Bool.and_eq_true, decide_eq_true_eq] at hx
  obtain ⟨t, hstep, hzero⟩ := (Option.any_eq_true _ _).mp hx.2
  have hpos : 0 < x.1.restart.restartBackoffDelay := by
    rw [hx.1]
    norm_num
  rcases stability_reset_sound e ⟨{}, rfl⟩ _ _ _ x hrun _ t hstep hpos (of_decide_eq_true hzero) with
    hreset | ⟨⟨id, honline⟩, -⟩ | ⟨-, online, hlog, -, heq⟩
  · cases hreset
  · cases honline
  · exact ⟨x, hx.1, online, hlog, heq fun _ _ hok => hok⟩

end ClusterKit
