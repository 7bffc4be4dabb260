import ClusterKit.Outcome

/-! What a shutdown promises: nothing is forked after it, a roll that it interrupts is
not reported complete, and no worker outlives it unsignalled. -/

namespace ClusterKit

open State

variable {e : Host} {s t : State}

/-! ## No fork after shutdown begins -/

/-- `cluster.fork` was never called during a shutdown. -/
def NoLateFork (s : State) : Prop := ∀ call ∈ s.cluster.forkCalls, call.isShuttingDown = false

theorem NoLateFork.cons (h : NoLateFork s) (call : ForkCall) (hc : call.isShuttingDown = false) :
    NoLateFork (clusterFork call s) :=
  List.forall_mem_cons.mpr ⟨hc, h⟩

theorem NoLateFork.of_eq (h : NoLateFork s) (heq : t.cluster.forkCalls = s.cluster.forkCalls) :
    NoLateFork t := by
  rw [NoLateFork, heq]
  exact h

theorem NoLateFork.move (h : NoLateFork s) (hm : Move e s t) : NoLateFork t := by
  cases hm with
  | forkFailed call hs hc hfail => exact h.cons _ hc
  | restarted hs ht hf hok => exact h.cons _ hs
  | replaced call old hs ha hc hok =>
    have hcall : call.isShuttingDown = false := by
      cases hc <;> exact hs
    exact h.cons _ hcall
  | drained r hr hd hs hwhy =>
    unfold drainOldWorker
    split <;> exact h
  | shutdown t hs hm => exact h.of_eq hm.keeps.cluster.2
  | books | exitCodeOne | exitCodeZero | holdReleased | queue | gaveUp | agedMarked | cameOnline
  | onlineNoted | replacementOnline | timers | killed | disconnected | roll | phase => exact h

/-- No piece forks during a shutdown, the initial forks excepted. -/
theorem NoLateFork.piece {a : Action} (h : NoLateFork s) (ha : a ≠ .pluginsInstalled)
    (hp : Piece e a s t) : NoLateFork t := by
  rcases hp with hm | hb
  · exact h.move hm
  cases hb with
  | forking | initialFailed | initialForked | ran => exact absurd rfl ha
  | agedFailed _ id hid hs hfail => exact h.cons (s.agedCall e id) hs
  | agedRecycled _ id hid ha' hs hok => exact h.cons (s.agedCall e id) hs
  | crashed => rw [noteCrash_eq]; exact h
  | queued => rw [queueCrash_eq]; exact h
  | resetRefilled | rollRefilled => rw [queueRefill_eq]; exact h
  | shutdownEntered _ signal hs => exact h.of_eq (shutdownPrimary_entered signal hs).cluster.2
  | tick | died | removed | quarantined | tripped | selfDisconnected | agedDropped | resetShutting
  | breakerReset | rollEnded | rollCompleted | counted | patched | rollStarted => exact h

/-- The initial forks are not late when they start before the shutdown. -/
theorem NoLateFork.startPrimary (h : NoLateFork s) (hs : s.isShuttingDown = false) (count : Nat) :
    NoLateFork (s.startPrimary e count) := by
  have hforked : (forkWorkers e count s.forking).2.isShuttingDown = false ∧
      NoLateFork (forkWorkers e count s.forking).2 := by
    refine forkWorkers_preserves (P := fun x => x.isShuttingDown = false ∧ NoLateFork x)
      ?_ ?_ count s.forking ⟨hs, h⟩
    · exact fun x hx _ => ⟨hx.1, hx.2.cons _ hx.1⟩
    · exact fun x hx _ => ⟨hx.1, hx.2.cons (x.forkCall e .initial none) hx.1⟩
  rcases startPrimary_outcome (e := e) count s with ⟨_, heq⟩ | ⟨_, b, evs, _, heq⟩
  · rw [heq]; exact hforked.2
  · rw [heq]; exact hforked.2

/-- `startPrimary` does not run during a shutdown. -/
def startsInTime (s : State) : Action → Bool
  | .pluginsInstalled => !s.isShuttingDown
  | _ => true

/-- **No fork after shutdown begins**, when the shutdown does not land between the entry
of `run()` and `startPrimary`. -/
theorem no_fork_after_shutdown (e : Host) (count : WorkerCount) (env : ProcessEnv) (s : State)
    (hrun : (orchestrator e count env).Run (fun x a => startsInTime x a = true)
      (State.initial e count env) s) :
    ∀ call ∈ s.cluster.forkCalls, call.isShuttingDown = false := by
  refine run_preserves (P := NoLateFork) hrun (fun call h => absurd h List.not_mem_nil) ?_
  intro x a y hw hx hok hact
  by_cases ha : a = .pluginsInstalled
  · subst ha
    have hs : x.isShuttingDown = false := by simpa [startsInTime] using hok
    obtain ⟨-, rfl⟩ := pluginsInstalled_outcome hact
    exact hx.startPrimary hs _
  · exact (act_pieces hw hact).preserves hw (fun _ _ _ hz hp => hz.piece ha hp) hx

/-- A shutdown after the initial forks, with one worker. -/
theorem no_fork_after_shutdown_one_worker :
    ∃ s : State, s.isShuttingDown = true ∧ s.cluster.forkCalls.length = 1 ∧
      ∀ call ∈ s.cluster.forkCalls, call.isShuttingDown = false := by
  have hrun := StepSystem.exists_run_of_any (orchestrator {} (.fixed 1) fun _ => none)
    (State.initial {} (.fixed 1) fun _ => none) startsInTime
    [.run, .pluginsInstalled, .shutdownPrimary "SIGTERM"]
    (fun s => s.isShuttingDown && decide (s.cluster.forkCalls.length = 1)) (by decide +kernel)
  obtain ⟨s, hrun, hs⟩ := hrun
  rw [Bool.and_eq_true, decide_eq_true_eq] at hs
  exact ⟨s, hs.1, hs.2, no_fork_after_shutdown _ _ _ s hrun⟩

/-- A shutdown during the plugin installation does not stop the initial forks. -/
theorem forks_after_shutdown :
    ¬ ∀ (e : Host) (count : WorkerCount) (env : ProcessEnv) (s : State),
      (orchestrator e count env).Reachable s →
        ∀ call ∈ s.cluster.forkCalls, call.isShuttingDown = false := by
  intro h
  have hrun := StepSystem.exists_reachable_of_any (orchestrator {} (.fixed 1) fun _ => none)
    [.run, .shutdownPrimary "SIGTERM", .pluginsInstalled]
    (fun s => s.cluster.forkCalls.any fun call => call.isShuttingDown) (by decide +kernel)
  obtain ⟨s, hs, hany⟩ := hrun
  obtain ⟨call, hmem, hcall⟩ := List.any_eq_true.mp hany
  exact absurd ((h _ _ _ s hs call hmem).symm.trans hcall) (by decide)

/-! ## An interrupted roll is not complete -/

/-- Events, newest first: a roll is reported complete after a shutdown started. -/
def CompletesLate (events : List Event) : Prop :=
  ∃ newer older signal ids reason, events = newer ++ .shutdownStart signal :: older ∧
    .restartComplete ids reason ∈ newer

theorem CompletesLate.of_cons {ev : Event} {events : List Event} (h : CompletesLate (ev :: events)) :
    CompletesLate events ∨
      (∃ ids reason, ev = .restartComplete ids reason) ∧ ∃ signal, .shutdownStart signal ∈ events := by
  obtain ⟨newer, older, signal, ids, reason, heq, hmem⟩ := h
  cases newer with
  | nil => exact absurd hmem List.not_mem_nil
  | cons ev' newer =>
    obtain ⟨rfl, rfl⟩ := List.cons.inj heq
    rcases List.mem_cons.mp hmem with h | h
    · exact .inr ⟨⟨ids, reason, h.symm⟩, signal, by simp⟩
    · exact .inl ⟨newer, older, signal, ids, reason, rfl, h⟩

/-- The roll still has a worker to come, or has given up. -/
def Roll.unfinished (r : Roll) : Bool :=
  !r.remaining.isEmpty || decide (r.frame = .returned .forkBailout)

/-- What the reports of a roll rest on, while the shutdowns land in time. -/
structure RollReported (s : State) : Prop where
  unstarted : s.isShuttingDown = false → ∀ signal, .shutdownStart signal ∉ s.events
  timely : ¬ CompletesLate s.events
  complete : ∀ r, s.roll = some r → r.frame = .returned .complete → r.remaining = []
  interrupted : s.isShuttingDown = true → ∀ r, s.roll = some r → r.unfinished = true

namespace RollReported

theorem log (h : RollReported s) (evs : List Event) (hevs : ∀ ev ∈ evs, ev.plain = true) :
    RollReported (s.log evs) := by
  have hlist : (s.isShuttingDown = false → ∀ signal, .shutdownStart signal ∉ evs ++ s.events) ∧
      ¬ CompletesLate (evs ++ s.events) := by
    induction evs with
    | nil => exact ⟨h.unstarted, h.timely⟩
    | cons ev evs ih =>
      have hev := hevs ev List.mem_cons_self
      obtain ⟨ih₁, ih₂⟩ := ih fun x hx => hevs x (List.mem_cons_of_mem _ hx)
      refine ⟨fun hs signal hmem => ?_, fun hlate => ?_⟩
      · rcases List.mem_cons.mp hmem with rfl | hmem
        · cases hev
        · exact ih₁ hs signal hmem
      · rcases hlate.of_cons with hlate | ⟨⟨ids, reason, rfl⟩, _⟩
        · exact ih₂ hlate
        · cases hev
  exact { h with unstarted := hlist.1, timely := hlist.2 }

theorem rollMove (h : RollReported s) {r r' : Roll} (hr : s.roll = some r)
    (hm : RollMove e s r r') : RollReported { s with roll := some r' } := by
  have hwas (hs : s.isShuttingDown = true) := h.interrupted hs r hr
  -- a move that keeps what remains and does not start from a bailed-out roll
  have hkeep (hrem : r'.remaining = r.remaining) (hf : r.frame ≠ .returned .forkBailout)
      (hc : r'.frame = .returned .complete → r.remaining = []) :
      RollReported { s with roll := some r' } :=
    { h with
      complete := fun x hx hxf => by
        cases hx
        rw [hrem]
        exact hc hxf
      interrupted := fun hs x hx => by
        cases hx
        have := hwas hs
        simp only [Roll.unfinished, hf, decide_false, Bool.or_false] at this
        rw [Roll.unfinished, hrem, this, Bool.true_or] }
  -- a move that a shutdown would have prevented
  have hopen (hs : s.isShuttingDown = false)
      (hc : r'.frame = .returned .complete → r'.remaining = []) :
      RollReported { s with roll := some r' } :=
    { h with
      complete := fun x hx hxf => by
        cases hx
        exact hc hxf
      interrupted := fun hs' => absurd (hs.symm.trans hs') Bool.false_ne_true }
  cases hm with
  | skipped old rest hs hrem hd =>
    exact hopen hs fun hf => absurd (h.complete r hr hf) (by simp [hrem])
  | failed old rest hs hrem =>
    exact hopen hs fun hf => absurd (h.complete r hr hf) (by simp [hrem])
  | waits old rest deadline hs hrem hf hd => exact hopen hs fun hf => by cases hf
  | graced old deadline deadline' hf hd =>
    exact hkeep rfl (by simp [hf]) fun hf' => by cases hf'
  | exitSeen old deadline hd =>
    refine hkeep rfl ?_ fun hf' => by cases hf'
    rcases hd with ⟨hf, -⟩ | hf <;> simp [hf]
  | counted old deadline hf => exact hkeep rfl (by simp [hf]) fun hf' => by cases hf'
  | resumed deadline hf => exact hkeep rfl (by simp [hf]) fun hf' => by cases hf'
  | aborted hs hrem hf => exact hkeep rfl (by simp [hf]) fun hf' => by cases hf'
  | bailedOut hff hf =>
    exact { h with
      complete := fun x hx hxf => by cases hx; cases hxf
      interrupted := fun _ x hx => by cases hx; simp [Roll.unfinished] }
  | completed hrem hf => exact hkeep rfl (by simp [hf]) fun _ => hrem

theorem move (h : RollReported s) (hm : Move e s t) : RollReported t := by
  cases hm with
  | books b evs hevs =>
    have hb : RollReported (s.withBooks b) := { h with }
    exact hb.log evs hevs
  | drained r hr hd hs hwhy =>
    unfold drainOldWorker
    split
    · exact h
    · exact { h with }
  | roll r r' hr hm => exact h.rollMove hr hm
  | shutdown t hs hm =>
    have hk := hm.keeps
    obtain ⟨evs, hevs, heq⟩ := hk.events
    have hlog := h.log evs hevs
    exact
      { unstarted := fun hs' => absurd ((hk.shutting.trans hs).symm.trans hs') (by decide)
        timely := by rw [heq]; exact hlog.timely
        complete := by rw [hk.roll]; exact h.complete
        interrupted := fun _ => by rw [hk.roll]; exact h.interrupted hs }
  | exitCodeOne | exitCodeZero | holdReleased | queue | gaveUp | forkFailed | restarted | replaced
  | agedMarked | cameOnline | onlineNoted | replacementOnline | timers | killed | disconnected
  | phase => exact { h with }

end RollReported

/-- A shutdown that interrupts a roll finds a worker whose turn is still to come. -/
def interruptsInTime (s : State) : Action → Bool
  | .shutdownPrimary _ => s.isShuttingDown || s.roll.all Roll.unfinished
  | _ => true

namespace RollReported

/-- A roll that completes was not interrupted. -/
theorem not_shutting_of_complete (h : RollReported s) {r : Roll} (hr : s.roll = some r)
    (hf : r.frame = .returned .complete) : s.isShuttingDown = false := by
  cases hs : s.isShuttingDown with
  | false => rfl
  | true =>
    have hrem := h.complete r hr hf
    have := h.interrupted hs r hr
    simp [Roll.unfinished, hrem, hf] at this

theorem endRoll (h : RollReported s) : RollReported s.endRoll :=
  { h with
    complete := fun _ hr => by cases hr
    interrupted := fun _ _ hr => by cases hr }

theorem rollCompleted (h : RollReported s) {r : Roll} (hr : s.roll = some r)
    (hf : r.frame = .returned .complete) : RollReported (s.rollCompleted r) := by
  have hs := h.not_shutting_of_complete hr hf
  refine endRoll (s := s.emit _) { h with unstarted := ?_, timely := ?_ }
  · intro _ signal hmem
    rcases List.mem_cons.mp hmem with hmem | hmem
    · cases hmem
    · exact h.unstarted hs signal hmem
  · intro hlate
    rcases hlate.of_cons with hlate | ⟨_, signal, hmem⟩
    · exact h.timely hlate
    · exact h.unstarted hs signal hmem

theorem bit {a : Action} (h : RollReported s) (ha : ∀ signal, a ≠ .shutdownPrimary signal)
    (hb : Bit e a s t) : RollReported t := by
  cases hb with
  | quarantined =>
    have hb : RollReported { s with restart := s.quarantineSlot.restart } := { h with }
    exact hb.log [.workerQuarantined s.restart.consecutiveBootFailures] (by simp [Event.plain])
  | tripped =>
    have hb : RollReported { s.breakerTrip with events := s.events } := { h with }
    exact hb.log [.circuitBreakerTripped (s.restart.crashTracker.count s.now)
      s.restart.crashTracker.windowMs] (by simp [Event.plain])
  | crashed => rw [noteCrash_eq]; exact { h with }
  | queued => rw [queueCrash_eq]; exact { h with }
  | resetRefilled | rollRefilled => rw [queueRefill_eq]; exact { h with }
  | rollStarted _ opts hs hr =>
    exact { h with
      unstarted := fun hs' signal hmem => by
        rcases List.mem_cons.mp hmem with hmem | hmem
        · cases hmem
        · exact h.unstarted hs' signal hmem
      timely := fun hlate => by
        rcases hlate.of_cons with hlate | ⟨⟨ids, reason, heq⟩, _⟩
        · exact h.timely hlate
        · cases heq
      complete := fun r hr' hf => by cases hr'; cases hf
      interrupted := fun hs' => absurd (hs.symm.trans hs') Bool.false_ne_true }
  | rollEnded => exact h.endRoll
  | rollCompleted _ r hr hf => exact h.rollCompleted hr hf
  | shutdownEntered _ signal hs => exact absurd rfl (ha signal)
  | tick | forking | initialFailed | initialForked | ran | died | removed | selfDisconnected
  | agedDropped | agedFailed | agedRecycled | resetShutting | breakerReset | counted
  | patched => exact { h with }

/-- A shutdown that starts in time finds an unfinished roll, or none. -/
theorem shutdownPrimary (h : RollReported s) {signal : String}
    (hok : interruptsInTime s (.shutdownPrimary signal) = true) :
    RollReported (s.shutdownPrimary e signal) := by
  cases hs : s.isShuttingDown with
  | true => rw [shutdownPrimary_ignored signal hs]; exact h
  | false =>
    have he := shutdownPrimary_entered (e := e) signal hs
    have hshut : (s.shutdownPrimary e signal).isShuttingDown = true := by
      rw [isShuttingDown, he.shutdown]
    constructor
    case unstarted => exact fun hs' => absurd (hshut.symm.trans hs') (by decide)
    case timely =>
      intro hlate
      rw [he.events] at hlate
      rcases hlate.of_cons with hlate | ⟨⟨ids, reason, heq⟩, _⟩
      · exact h.timely hlate
      · cases heq
    case complete => rw [he.roll]; exact h.complete
    case interrupted =>
      intro _ r hr
      rw [he.roll] at hr
      rw [interruptsInTime, hs, hr] at hok
      exact hok

theorem initial (e : Host) (count : WorkerCount) (env : ProcessEnv) :
    RollReported (State.initial e count env) where
  unstarted := fun _ _ h => absurd h List.not_mem_nil
  timely := by
    rintro ⟨newer, older, signal, ids, reason, heq, -⟩
    exact absurd heq.symm (by simp [State.initial])
  complete := fun _ hr => by cases hr
  interrupted := fun _ _ hr => by cases hr

end RollReported

/-- **A roll interrupted by shutdown is never reported complete**, when the shutdown finds
the roll with a worker still to come. -/
theorem interrupted_roll_not_complete (e : Host) (count : WorkerCount) (env : ProcessEnv)
    (s : State) (hrun : (orchestrator e count env).Run (fun x a => interruptsInTime x a = true)
      (State.initial e count env) s) : ¬ CompletesLate s.events := by
  refine (run_preserves (P := RollReported) hrun (.initial e count env) ?_).timely
  intro x a y hw hx hok hact
  by_cases ha : ∃ signal, a = .shutdownPrimary signal
  · obtain ⟨signal, rfl⟩ := ha
    rw [← Option.some.inj hact]
    exact hx.shutdownPrimary hok
  · refine (act_pieces hw hact).preserves hw (fun _ _ _ hz hp => ?_) hx
    exact hp.elim hz.move (hz.bit fun signal hs => ha ⟨signal, hs⟩)

/-- Two workers, the shutdown during the wait for the first. -/
theorem interrupted_roll_not_complete_two_workers :
    ∃ s : State, s.isShuttingDown = true ∧ s.roll = none ∧ s.metrics.activeWorkers = 2 ∧
      ¬ CompletesLate s.events := by
  have hrun := StepSystem.exists_run_of_any (orchestrator {} (.fixed 2) fun _ => none)
    (State.initial {} (.fixed 2) fun _ => none) interruptsInTime
    [.tick 1, .run, .pluginsInstalled, .restartWorkers {}, .shutdownPrimary "SIGTERM",
      .workerExit 1 (some 0) none, .resume .rollExited, .tick 1000, .timer .rollStagger,
      .resume .rollReturned]
    (fun s => s.isShuttingDown && s.roll.isNone && decide (s.metrics.activeWorkers = 2))
    (by decide +kernel)
  obtain ⟨s, hrun, hs⟩ := hrun
  simp only [Bool.and_eq_true, decide_eq_true_eq, Option.isNone_iff_eq_none] at hs
  exact ⟨s, hs.1.1, hs.1.2, hs.2, interrupted_roll_not_complete _ _ _ s hrun⟩

/-- The last two events are a worker's exit and the completion of a roll, right after the start
of a shutdown. -/
def endsComplete : List Event → Bool
  | .restartComplete .. :: .workerExit .. :: .shutdownStart _ :: _ => true
  | _ => false

/-- After the last worker the roll does not ask for a shutdown any more. -/
theorem interrupted_roll_complete :
    ¬ ∀ (e : Host) (count : WorkerCount) (env : ProcessEnv) (s : State),
      (orchestrator e count env).Reachable s → ¬ CompletesLate s.events := by
  intro h
  have hrun := StepSystem.exists_reachable_of_any (orchestrator {} (.fixed 1) fun _ => none)
    [.tick 1, .run, .pluginsInstalled, .restartWorkers {}, .shutdownPrimary "SIGTERM",
      .workerExit 1 (some 0) none, .resume .rollExited, .tick 1000, .timer .rollStagger,
      .resume .rollReturned]
    (fun s => endsComplete s.events) (by decide +kernel)
  obtain ⟨s, hs, hq⟩ := hrun
  refine h _ _ _ s hs ?_
  rw [endsComplete.eq_def] at hq
  split at hq
  · rename_i ids reason id code signal graceful shutdownSignal older heq
    exact ⟨[_, _], older, shutdownSignal, ids, reason, heq, List.mem_cons_self⟩
  · cases hq

/-! ## No orphan -/

/-- The worker exited, or the primary sent it SIGKILL. -/
def Finished (s : State) (id : Nat) : Prop :=
  s.isDead id = true ∨ ∃ time, (.kill .SIGKILL, time) ∈ (s.worker id).sent

/-- The workers a shutdown still answers for. -/
def InCharge (id : Nat) : ShutdownFrame → Prop
  | .idle => False
  | .acks workers _ => id ∈ workers
  | .exitWait workers _ => id ∈ workers
  | .kills _ stages => ∃ stage, (id, stage) ∈ stages
  | .callbacks _ => False
  | .resolved => False

/-- Whoever was forked before the shutdown has finished, or the shutdown answers for it. -/
structure NoOrphan (s : State) : Prop where
  bounded : s.shutdown.forkedBefore ≤ s.cluster.ids
  covered : s.shutdown.frame ≠ .idle → ∀ id, 1 ≤ id → id ≤ s.shutdown.forkedBefore →
    Finished s id ∨ InCharge id s.shutdown.frame

theorem Finished.later {id : Nat} (h : Finished s id) (hl : s.Later t) (hid : id ≤ s.cluster.ids) :
    Finished t id := by
  have hg := hl.worker id hid
  rcases h with h | ⟨time, h⟩
  · exact .inl (hg.dead h)
  · exact .inr ⟨time, hg.sent.mem h⟩

namespace NoOrphan

theorem later (h : NoOrphan s) (hl : s.Later t) (heq : t.shutdown = s.shutdown) : NoOrphan t := by
  constructor
  case bounded => rw [heq]; exact h.bounded.trans hl.ids
  case covered =>
    rw [heq]
    intro hf id h1 hid
    exact (h.covered hf id h1 hid).imp_left fun hfin => hfin.later hl (hid.trans h.bounded)

/-- The frame moves on: whom it lets go has finished. -/
theorem step (h : NoOrphan s) (hl : s.Later t) (hf : s.shutdown.frame ≠ .idle)
    (hfb : t.shutdown.forkedBefore = s.shutdown.forkedBefore)
    (hgo : ∀ id ≤ s.cluster.ids, InCharge id s.shutdown.frame →
      Finished t id ∨ InCharge id t.shutdown.frame) : NoOrphan t := by
  constructor
  case bounded => rw [hfb]; exact h.bounded.trans hl.ids
  case covered =>
    rw [hfb]
    intro _ id h1 hid
    rcases h.covered hf id h1 hid with hfin | hc
    · exact .inl (hfin.later hl (hid.trans h.bounded))
    · exact hgo id (hid.trans h.bounded) hc

theorem exitWaitOver (h : NoOrphan s) (hl : s.Later t) (ht : s.exitWaitOver e = some t) :
    NoOrphan t := by
  unfold State.exitWaitOver at ht
  split at ht
  · rename_i workers deadline hf
    split at ht
    · rw [← Option.some.inj ht] at hl ⊢
      refine h.step hl (by simp [hf]) rfl fun id hid hc => ?_
      rw [hf] at hc
      cases hd : s.isDead id with
      | true => exact .inl (.inl ((hl.worker id hid).dead hd))
      | false =>
        refine .inr ⟨.afterSigterm (s.now + e.cfg.shutdown.sigtermDelayMs), ?_⟩
        exact List.mem_map.mpr ⟨id, List.mem_filter.mpr ⟨hc, by simp [hd]⟩, rfl⟩
    · cases ht
  · cases ht

/-- Only the worker whose delay elapsed may leave the kills, and it leaves finished. -/
theorem killDelay (h : NoOrphan s) (hl : s.Later t) {id : Nat}
    (ht : s.killDelayElapsed e id = some t) : NoOrphan t := by
  have hkeep {stages : List (Nat × KillStage)} {stage : KillStage} {j : Nat} (hne : j ≠ id)
      (hmem : (j, stage) ∈ stages) : (j, stage) ∈ dropStage stages id :=
    List.mem_filter.mpr ⟨hmem, by simpa using hne⟩
  unfold killDelayElapsed at ht
  split at ht
  · rename_i workers stages hf
    -- whoever is in charge before is in charge after, or is `id` and finished
    have hstep (hstages : ∃ stages', t.shutdown.frame = .kills workers stages' ∧
          ∀ p ∈ dropStage stages id, p ∈ stages')
        (hfb : t.shutdown.forkedBefore = s.shutdown.forkedBefore)
        (hid : Finished t id ∨ InCharge id t.shutdown.frame) : NoOrphan t := by
      refine h.step hl (by simp [hf]) hfb fun j _ hc => ?_
      by_cases hj : j = id
      · exact hj ▸ hid
      · rw [hf] at hc
        obtain ⟨stage, hstage⟩ := hc
        obtain ⟨stages', hf', hsub⟩ := hstages
        rw [hf']
        exact .inr ⟨stage, hsub _ (hkeep hj hstage)⟩
    split at ht
    · split at ht
      · split at ht
        · rename_i hd
          rw [← Option.some.inj ht] at hstep ⊢
          exact hstep ⟨_, rfl, fun p hp => hp⟩ rfl (.inl (.inl hd))
        · rw [← Option.some.inj ht] at hstep ⊢
          exact hstep ⟨_, rfl, fun p hp => List.mem_cons_of_mem _ hp⟩ rfl
            (.inr ⟨_, List.mem_cons_self⟩)
      · cases ht
    · split at ht
      · simp only at ht
        split at ht
        · rename_i hd
          rw [← Option.some.inj ht] at hstep ⊢
          exact hstep ⟨_, rfl, fun p hp => hp⟩ rfl (.inl (.inl hd))
        · rw [← Option.some.inj ht] at hstep ⊢
          refine hstep ⟨_, rfl, fun p hp => hp⟩ rfl (.inl (.inr ⟨s.now, ?_⟩))
          show _ ∈ ((s.kill .SIGKILL id).worker id).sent
          rw [kill, worker_modifyWorker_self]
          exact List.mem_cons_self
      · cases ht
    · cases ht
  · cases ht

theorem shutdownMove (h : NoOrphan s) (hm : ShutdownMove e s t) : NoOrphan t := by
  have hl := hm.later
  cases hm with
  | ackSettled workers waits waits' hf =>
    exact h.step hl (by simp [hf]) rfl fun id _ hc => .inr (by rw [hf] at hc; exact hc)
  | disconnected id => exact h.later hl rfl
  | exitWait workers deadline hf =>
    exact h.step hl (by simp [hf]) rfl fun id _ hc => .inr (by rw [hf] at hc; exact hc)
  | exitWaitOver t ht => exact h.exitWaitOver hl ht
  | killDelay id t ht => exact h.killDelay hl ht
  | callbacks workers deadline hf =>
    refine h.step hl (by simp [hf]) rfl fun id _ hc => ?_
    rw [hf] at hc
    obtain ⟨stage, hstage⟩ := hc
    cases hstage
  | resolved t ht =>
    unfold shutdownResolved at ht
    split at ht
    · rename_i deadline hf
      rw [← Option.some.inj ht] at hl ⊢
      refine h.step hl (by simp [hf]) rfl fun id _ hc => ?_
      rw [hf] at hc
      exact hc.elim
    · cases ht
  | exited t ht =>
    unfold shutdownExitElapsed at ht
    split at ht
    · split at ht
      · rw [← Option.some.inj ht] at hl ⊢
        exact h.later hl rfl
      · cases ht
    · cases ht

theorem move (h : NoOrphan s) (hm : Move e s t) : NoOrphan t := by
  have hl := hm.later
  cases hm with
  | shutdown t hs hm => exact h.shutdownMove hm
  | drained r hr hd hs hwhy =>
    refine h.later hl ?_
    unfold drainOldWorker
    split <;> rfl
  | books | exitCodeOne | exitCodeZero | holdReleased | queue | gaveUp | forkFailed | restarted
  | replaced | agedMarked | cameOnline | onlineNoted | replacementOnline | timers | killed
  | disconnected | roll | phase => exact h.later hl rfl

theorem bit {a : Action} (h : NoOrphan s) (ha : ∀ signal, a ≠ .shutdownPrimary signal)
    (hb : Bit e a s t) : NoOrphan t := by
  have hl := hb.later
  cases hb with
  | shutdownEntered _ signal hs => exact absurd rfl (ha signal)
  | crashed => exact h.later hl (by rw [noteCrash_eq])
  | queued => exact h.later hl (by rw [queueCrash_eq])
  | resetRefilled | rollRefilled => exact h.later hl (by rw [queueRefill_eq])
  | tick | forking | initialFailed | initialForked | ran | died | removed | quarantined | tripped
  | selfDisconnected | agedDropped | agedFailed | agedRecycled | resetShutting | breakerReset
  | rollEnded | rollCompleted | counted | patched | rollStarted => exact h.later hl rfl

end NoOrphan

/-- A shutdown starts while every live worker is in `cluster.workers`. -/
def shutsDownListed (s : State) : Action → Bool
  | .shutdownPrimary _ =>
    s.isShuttingDown || (List.range' 1 s.cluster.ids).all fun id =>
      s.isDead id || (s.worker id).listed
  | _ => true

theorem NoOrphan.shutdownPrimary (h : NoOrphan s) {signal : String}
    (hok : shutsDownListed s (.shutdownPrimary signal) = true) :
    NoOrphan (s.shutdownPrimary e signal) := by
  cases hs : s.isShuttingDown with
  | true => rw [shutdownPrimary_ignored signal hs]; exact h
  | false =>
    have he := shutdownPrimary_entered (e := e) signal hs
    constructor
    case bounded => rw [he.shutdown, he.cluster.1]
    case covered =>
      rw [he.shutdown]
      intro _ id h1 hid
      replace hid : id ≤ s.cluster.ids := hid
      simp only [shutsDownListed, hs, Bool.false_or, List.all_eq_true, Bool.or_eq_true] at hok
      rcases hok id (List.mem_range'_1.mpr ⟨h1, by omega⟩) with hd | hlisted
      · refine .inl (.inl ?_)
        rw [isDead, he.worker]
        split
        · exact (startAck_grows s id).2.trans hd
        · exact hd
      · cases hd : s.isDead id with
        | false => exact .inr (mem_getActiveWorkers.mpr ⟨⟨h1, hid⟩, hlisted, hd⟩)
        | true =>
          refine .inl (.inl ?_)
          rw [isDead, he.worker]
          split
          · exact (startAck_grows s id).2.trans hd
          · exact hd

/-- **Shutdown leaves no orphan** when it starts while every live worker is in
`cluster.workers`, that is, while no recycled worker is still draining. -/
theorem shutdown_leaves_no_orphan (e : Host) (count : WorkerCount) (env : ProcessEnv) (s : State)
    (hrun : (orchestrator e count env).Run (fun x a => shutsDownListed x a = true)
      (State.initial e count env) s) (hres : s.shutdown.frame = .resolved) :
    ∀ id, 1 ≤ id → id ≤ s.shutdown.forkedBefore → Finished s id := by
  have hinit : NoOrphan (State.initial e count env) := ⟨le_rfl, fun hf => absurd rfl hf⟩
  have h : NoOrphan s := by
    refine run_preserves hrun hinit ?_
    intro x a y hw hx hok hact
    by_cases ha : ∃ signal, a = .shutdownPrimary signal
    · obtain ⟨signal, rfl⟩ := ha
      rw [← Option.some.inj hact]
      exact hx.shutdownPrimary hok
    · refine (act_pieces hw hact).preserves hw (fun _ _ _ hz hp => ?_) hx
      exact hp.elim hz.move (hz.bit fun signal hs => ha ⟨signal, hs⟩)
  intro id h1 hid
  refine (h.covered (by simp [hres]) id h1 hid).resolve_right fun hc => ?_
  rw [hres] at hc
  exact hc

/-- One worker that ignores SIGTERM and SIGINT. -/
theorem shutdown_leaves_no_orphan_deaf :
    ∃ s : State, s.shutdown.frame = .resolved ∧ s.shutdown.forkedBefore = 1 ∧
      s.isDead 1 = false ∧ ∀ id, 1 ≤ id → id ≤ s.shutdown.forkedBefore → Finished s id := by
  have hrun := StepSystem.exists_run_of_any (orchestrator {} (.fixed 1) fun _ => none)
    (State.initial {} (.fixed 1) fun _ => none) shutsDownListed
    [.tick 1, .run, .pluginsInstalled, .shutdownPrimary "SIGTERM", .tick 3000,
      .timer (.ackTimeout 1), .resume .acksSettled, .tick 12000, .resume .exitWaitOver,
      .tick 2000, .timer (.killDelay 1), .tick 1000, .timer (.killDelay 1), .resume .killsDone,
      .resume .callbacksDone]
    (fun s => decide (s.shutdown.frame = .resolved) &&
      decide (s.shutdown.forkedBefore = 1) && !s.isDead 1)
    (by decide +kernel)
  obtain ⟨s, hrun, hs⟩ := hrun
  simp only [Bool.and_eq_true, decide_eq_true_eq, Bool.not_eq_true'] at hs
  obtain ⟨⟨hres, hforked⟩, halive⟩ := hs
  exact ⟨s, hres, hforked, halive, shutdown_leaves_no_orphan _ _ _ s hrun hres⟩

/-- A recycled worker that was disconnected before the shutdown is nobody's any more. -/
theorem shutdown_leaves_orphan :
    ¬ ∀ (e : Host) (count : WorkerCount) (env : ProcessEnv) (s : State),
      (orchestrator e count env).Reachable s → s.shutdown.frame = .resolved →
        ∀ id, 1 ≤ id → id ≤ s.shutdown.forkedBefore → Finished s id := by
  intro h
  have hrun := StepSystem.exists_reachable_of_any (orchestrator {} (.fixed 1) fun _ => none)
    [.tick 1, .run, .pluginsInstalled, .workerOnline 1, .restartWorkers {}, .workerOnline 2,
      .shutdownPrimary "SIGTERM", .workerMessage 2 (some { type := "__wm:shutdown-ack" }),
      .workerExit 2 (some 0) none, .resume .acksSettled, .resume .exitWaitOver, .tick 12000,
      .timer (.forceKill 2), .resume .killsDone, .resume .callbacksDone]
    (fun s => decide (s.shutdown.frame = .resolved) &&
      decide (1 ≤ s.shutdown.forkedBefore) && !s.isDead 1 &&
      (s.worker 1).sent.all fun p => decide (p.1 ≠ .kill .SIGKILL))
    (by decide +kernel)
  obtain ⟨s, hs, hq⟩ := hrun
  simp only [Bool.and_eq_true, decide_eq_true_eq, Bool.not_eq_true', List.all_eq_true] at hq
  obtain ⟨⟨⟨hres, hforked⟩, halive⟩, hsent⟩ := hq
  rcases h _ _ _ s hs hres 1 le_rfl hforked with hd | ⟨time, hmem⟩
  · exact absurd (halive.symm.trans hd) (by decide)
  · exact hsent _ hmem rfl

end ClusterKit
