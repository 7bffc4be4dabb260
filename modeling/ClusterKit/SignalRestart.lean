import ClusterKit.FileWatcher
import ClusterKit.HealthView

/-! The signal-restart plugin next to the primary. A signal calls `restartWorkers()`, and
the timestamp is set when the call has settled, whatever became of the roll. -/

namespace ClusterKit

open State

structure SignalRestartOptions where
  staggerMs : Nat := 1000
  reason : String := "signal:SIGHUP"

/-- *History*: `lastRestart` was set. -/
structure Advance where
  time : Nat
  /-- `restart:complete` was emitted for the roll that this signal's call started. -/
  completed : Bool
  deriving DecidableEq

structure SignalRestart where
  /-- `handler` is set. -/
  handler : Bool := false
  /-- Listeners of the signal that were not removed. -/
  listeners : Nat := 0
  /-- The roll under way is awaited by the call of `handleSignal` that started it. -/
  rolling : Bool := false
  /-- Calls of `handleSignal` whose `restartWorkers()` has settled and whose continuation is
  queued, each with *History*: its own roll emitted `restart:complete`. -/
  settled : List Bool := []
  lastRestart : Option Nat := none
  /-- *History*: newest first. -/
  advances : List Advance := []

/-- The primary and the plugin. -/
structure Signalled where
  primary : State
  plugin : SignalRestart := {}

def Event.isRestartComplete : Event → Bool
  | .restartComplete .. => true
  | _ => false

namespace State

def completions (s : State) : Nat := (s.events.filter Event.isRestartComplete).length

end State

namespace Signalled

def install (w : Signalled) : Signalled :=
  { w with plugin := { w.plugin with handler := true, listeners := w.plugin.listeners + 1 } }

/-- `process.off` removes the last listener. -/
def uninstall (w : Signalled) : Signalled :=
  if w.plugin.handler then
    { w with plugin := { w.plugin with handler := false, listeners := w.plugin.listeners - 1 } }
  else w

def restartOptions (o : SignalRestartOptions) : RestartOptions :=
  { staggerMs := o.staggerMs, reason := o.reason }

/-- `handleSignal` up to its `await`; a call of `restartWorkers()` that is ignored settles
at once. -/
def handleSignal (e : Host) (o : SignalRestartOptions) (w : Signalled) : Signalled :=
  { primary := w.primary.restartWorkers e (restartOptions o)
    plugin :=
      if w.primary.startsRoll (restartOptions o) then { w.plugin with rolling := true }
      else { w.plugin with settled := w.plugin.settled ++ [false] } }

/-- `handleSignal` after its `await`. -/
def signalHandled (w : Signalled) : Option Signalled :=
  match w.plugin.settled with
  | [] => none
  | completed :: rest =>
    some { w with plugin := { w.plugin with
      settled := rest
      lastRestart := some w.primary.now
      advances := ⟨w.primary.now, completed⟩ :: w.plugin.advances } }

/-- A segment of the primary took it to `s`; where it ends the roll, the promise of
`restartWorkers()` settles. -/
def follow (a : Action) (s : State) (w : Signalled) : Signalled :=
  match a with
  | .resume .rollReturned =>
    if w.plugin.rolling then
      { primary := s
        plugin := { w.plugin with
          rolling := false
          settled := w.plugin.settled ++ [decide (w.primary.completions < s.completions)] } }
    else { w with primary := s }
  | _ => { w with primary := s }

end Signalled

inductive SignalAction where
  /-- Anything that happens to the orchestrator, calls of `restartWorkers()` by others
  among it. -/
  | primary (a : Action)
  | install
  | uninstall
  /-- A listener hears the signal. -/
  | signal
  /-- The continuation of the oldest settled `handleSignal`. -/
  | handled

namespace Signalled

def act (e : Host) (o : SignalRestartOptions) (w : Signalled) : SignalAction → Option Signalled
  | .primary a => (w.primary.act e a).map fun s => w.follow a s
  | .install => some w.install
  | .uninstall => some w.uninstall
  | .signal => if 0 < w.plugin.listeners then some (w.handleSignal e o) else none
  | .handled => w.signalHandled

end Signalled

/-- The primary with the plugin as a step system. -/
def signalledOrchestrator (e : Host) (count : WorkerCount) (env : ProcessEnv)
    (o : SignalRestartOptions) : StepSystem Signalled SignalAction where
  init := { primary := .initial e count env }
  step w a := if w.primary.process.exited then none else w.act e o a

/-! ## When the loop of a roll gives up -/

namespace State

/-- The failing forks in a row that the roll does not survive. -/
def failuresToBailout (s : State) : Nat :=
  max 1 (MAX_CONSECUTIVE_FORK_FAILURES - s.restart.consecutiveForkFailures)

/-- The fork number `i` from here on throws. -/
def forkThrows (e : Host) (s : State) (i : Nat) : Bool :=
  !(isSafeEnvObject s.orch.env && s.rollEnv.all isSafeEnvObject) ||
    !e.forkOk (s.cluster.forkCalls.length + i)

/-- Of the workers to come, enough are alive and the forks for them all throw. -/
def bailsOut (e : Host) (targeted : List Nat) (s : State) : Bool :=
  decide (s.failuresToBailout ≤ (targeted.filter fun id => !s.isDead id).length) &&
    (List.range s.failuresToBailout).all (s.forkThrows e)

/-- The loop over `targeted` is not cut short where it goes on. -/
def loopGoesThrough (e : Host) (targeted : List Nat) (s : State) : Bool :=
  (targeted.isEmpty || !s.isShuttingDown) && !s.bailsOut e targeted

variable {e : Host} {s t : State} {targeted : List Nat}

/-- Which forks throw depends on the roll's options only. -/
theorem forkThrows_modifyRoll {f : Roll → Roll} (hf : ∀ r, (f r).opts = r.opts) :
    (s.modifyRoll f).forkThrows e = s.forkThrows e := by
  have henv : (s.modifyRoll f).rollEnv = s.rollEnv := by
    unfold modifyRoll rollEnv
    cases s.roll with
    | none => rfl
    | some r => exact congrArg RestartOptions.env (hf r)
  funext i
  rw [forkThrows, henv]
  rfl

theorem loopGoesThrough_modifyRoll {f : Roll → Roll} (hf : ∀ r, (f r).opts = r.opts) :
    (s.modifyRoll f).loopGoesThrough e targeted = s.loopGoesThrough e targeted := by
  rw [loopGoesThrough, bailsOut, forkThrows_modifyRoll hf]
  rfl

theorem bailsOut_dead {old : Nat} {rest : List Nat} (hd : s.isDead old = true) :
    (s.setRemaining rest).bailsOut e rest = s.bailsOut e (old :: rest) := by
  have hthrows : (s.setRemaining rest).forkThrows e = s.forkThrows e :=
    forkThrows_modifyRoll fun _ => rfl
  rw [bailsOut, bailsOut, hthrows, List.filter_cons_of_neg (by simp [hd])]
  rfl

/-- A fork that throws uses up one failure and one worker. -/
theorem bailsOut_failed {old : Nat} {rest : List Nat} {x : State} (hd : s.isDead old = false)
    (hthrew : s.forkThrows e 0 = true)
    (hfailed : x.restart.consecutiveForkFailures = s.restart.consecutiveForkFailures + 1)
    (hdead : ∀ id, x.isDead id = s.isDead id)
    (hthrows : ∀ i, x.forkThrows e i = s.forkThrows e (i + 1))
    (hlimit : x.isForkEnvUnrecoverable = false) :
    x.bailsOut e rest = s.bailsOut e (old :: rest) := by
  have hcount : s.failuresToBailout = x.failuresToBailout + 1 := by
    simp only [isForkEnvUnrecoverable, hfailed, decide_eq_false_iff_not,
      MAX_CONSECUTIVE_FORK_FAILURES] at hlimit
    simp only [failuresToBailout, hfailed, MAX_CONSECUTIVE_FORK_FAILURES]
    omega
  have hfilter : (rest.filter fun id => !x.isDead id) = rest.filter fun id => !s.isDead id :=
    List.filter_congr fun id _ => by rw [hdead]
  have hall : (List.range s.failuresToBailout).all (s.forkThrows e) =
      (List.range x.failuresToBailout).all (x.forkThrows e) := by
    rw [hcount, List.range_succ_eq_map, List.all_cons, hthrew, Bool.true_and, List.all_map]
    exact congrArg _ (funext fun i => (hthrows i).symm)
  rw [bailsOut, bailsOut, hall, hfilter, hcount, List.filter_cons_of_pos (by simp [hd]),
    List.length_cons]
  simp

/-- The last failure that the roll does not survive. -/
theorem bailsOut_last {old : Nat} {rest : List Nat} {x : State} (hd : s.isDead old = false)
    (hthrew : s.forkThrows e 0 = true)
    (hfailed : x.restart.consecutiveForkFailures = s.restart.consecutiveForkFailures + 1)
    (hlimit : x.isForkEnvUnrecoverable = true) : s.bailsOut e (old :: rest) = true := by
  have hcount : s.failuresToBailout = 1 := by
    simp only [isForkEnvUnrecoverable, hfailed, decide_eq_true_eq,
      MAX_CONSECUTIVE_FORK_FAILURES] at hlimit
    simp only [failuresToBailout, MAX_CONSECUTIVE_FORK_FAILURES]
    omega
  rw [bailsOut, hcount, List.filter_cons_of_pos (by simp [hd])]
  simp [hthrew]

/-- How a roll stands while nothing has cut it short. -/
def rollGoesWell (s : State) : Bool :=
  match s.rollView with
  | some (some outcome) => outcome = .complete
  | some none => true
  | none => false

theorem rollGoesWell_setRollFrame {frame : RollFrame} (hr : s.roll.isSome)
    (hf : frame.outcome = none ∨ frame.outcome = some .complete) :
    (s.setRollFrame frame).rollGoesWell = true := by
  obtain ⟨r, hr⟩ := Option.isSome_iff_exists.mp hr
  have hview : (s.setRollFrame frame).rollView = some frame.outcome := by
    simp [rollView, setRollFrame, modifyRoll, hr]
  rw [rollGoesWell, hview]
  rcases hf with hf | hf
  · rw [hf]
  · rw [hf]; rfl

theorem rollGoesWell_forked {old new : Nat} {rest : List Nat} (hr : s.roll.isSome) :
    (s.rollForked e old new rest).rollGoesWell = true := by
  obtain ⟨r, hr⟩ := Option.isSome_iff_exists.mp hr
  let x := (s.noteForkSuccess.markForRecycling old).handleWorkerRecycle e old new
  have hx : x.roll = some r := hr
  have hframe (frame : RollFrame) (hf : frame.outcome = none) :
      (x.modifyRoll fun r => { r with remaining := rest, frame := frame }).rollGoesWell = true := by
    simp [rollGoesWell, rollView, modifyRoll, hx, hf]
  unfold rollForked
  dsimp only
  split
  · exact hframe (.exited old) rfl
  · exact hframe (.exitWait old _) rfl

theorem loopGoesThrough_of (hs : s.isShuttingDown = false) (hbail : s.bailsOut e targeted = false) :
    s.loopGoesThrough e targeted = true := by
  rw [loopGoesThrough, hs, hbail, Bool.not_false, Bool.or_true, Bool.true_and]

/-- A fork that threw left `x` behind; the loop goes on unless this was the last. -/
theorem rollForkFailed_goesThrough {old : Nat} {rest : List Nat} {x : State}
    (hd : s.isDead old = false) (hbail : s.bailsOut e (old :: rest) = false)
    (hxs : x.isShuttingDown = false) (hthrew : s.forkThrows e 0 = true)
    (hcount : x.restart.consecutiveForkFailures = s.restart.consecutiveForkFailures)
    (hdead : ∀ id, x.isDead id = s.isDead id)
    (hthrows : ∀ i, x.forkThrows e i = s.forkThrows e (i + 1)) :
    (x.rollForkFailed rest).isForkEnvUnrecoverable = false ∧
      (x.rollForkFailed rest).loopGoesThrough e rest = true := by
  have hfailed : (x.rollForkFailed rest).restart.consecutiveForkFailures =
      s.restart.consecutiveForkFailures + 1 := congrArg (· + 1) hcount
  have hforks (i : Nat) : (x.rollForkFailed rest).forkThrows e i = s.forkThrows e (i + 1) := by
    have hsame : (x.rollForkFailed rest).forkThrows e = x.noteForkFailure.forkThrows e :=
      forkThrows_modifyRoll fun _ => rfl
    rw [hsame, ← hthrows]
    rfl
  cases hlimit : (x.rollForkFailed rest).isForkEnvUnrecoverable with
  | true =>
    rw [bailsOut_last hd hthrew hfailed hlimit] at hbail
    cases hbail
  | false =>
    refine ⟨rfl, loopGoesThrough_of hxs ?_⟩
    rw [bailsOut_failed hd hthrew hfailed hdead hforks hlimit]
    exact hbail

/-- **The loop.** It is not cut short where the guard admits it. By induction on the
workers to come; each failure leaves one less to survive. -/
theorem rollWorkers_goesWell (hr : s.roll.isSome) (hok : s.loopGoesThrough e targeted = true) :
    (rollWorkers e targeted s).rollGoesWell = true := by
  induction targeted generalizing s with
  | nil => exact rollGoesWell_setRollFrame hr (.inr rfl)
  | cons old rest ih =>
    simp only [loopGoesThrough, List.isEmpty_cons, Bool.false_or, Bool.and_eq_true,
      Bool.not_eq_true'] at hok
    obtain ⟨hs, hbail⟩ := hok
    have hsome {x : State} (hx : x.roll.isSome) (f : Roll → Roll) : (x.modifyRoll f).roll.isSome := by
      rw [modifyRoll, Option.isSome_map]
      exact hx
    rw [rollWorkers, if_neg (by simp [hs])]
    split
    · rename_i hd
      exact ih (hsome hr _) (loopGoesThrough_of hs ((bailsOut_dead hd).trans hbail))
    · rename_i hd
      have hd : s.isDead old = false := Bool.eq_false_iff.mpr hd
      rcases forkWorker_cases e (.roll old) s.rollEnv s with ⟨henv, h⟩ | ⟨hfail, h⟩ | ⟨-, h⟩
      · have hthrows (i : Nat) : s.forkThrows e i = true := by
          rw [forkThrows, henv, Bool.not_false, Bool.true_or]
        obtain ⟨hlimit, hgoes⟩ := rollForkFailed_goesThrough (x := s) hd hbail hs (hthrows 0) rfl
          (fun _ => rfl) fun i => (hthrows i).trans (hthrows (i + 1)).symm
        simp only [h, hlimit, Bool.false_eq_true, if_false]
        exact ih (hsome hr _) hgoes
      · have hok : e.forkOk s.cluster.forkCalls.length = false := hfail
        have hthrew : s.forkThrows e 0 = true := by
          rw [forkThrows, Nat.add_zero, hok, Bool.not_false, Bool.or_true]
        let x := clusterFork (s.forkCall e (.roll old) s.rollEnv) s
        have hthrows (i : Nat) : x.forkThrows e i = s.forkThrows e (i + 1) := by
          unfold forkThrows
          rw [Nat.add_comm i 1, ← Nat.add_assoc]
          rfl
        obtain ⟨hlimit, hgoes⟩ := rollForkFailed_goesThrough (x := x) hd hbail hs hthrew rfl
          (fun _ => rfl) hthrows
        simp only [h, x, hlimit, Bool.false_eq_true, if_false]
        exact ih (hsome hr _) hgoes
      · rw [h]
        exact rollGoesWell_forked hr

/-! ## `restart:complete` -/

theorem completions_log (evs : List Event) (s : State) :
    s.completions ≤ (s.log evs).completions := by
  rw [completions, completions, log, List.filter_append, List.length_append]
  exact Nat.le_add_left _ _

theorem completions_move (h : Move e s t) : s.completions ≤ t.completions := by
  cases h with
  | books b evs hevs => exact completions_log evs (s.withBooks b)
  | drained r hr hd hs hwhy =>
    unfold drainOldWorker
    split <;> exact Nat.le_refl _
  | shutdown t hs hm =>
    obtain ⟨evs, -, heq⟩ := hm.keeps.events
    have hlog : t.completions = (s.log evs).completions := by
      rw [completions, heq]
      rfl
    exact (completions_log evs s).trans hlog.ge
  | exitCodeOne | exitCodeZero | holdReleased | queue | gaveUp | forkFailed | restarted | replaced
  | agedMarked | cameOnline | onlineNoted | replacementOnline | timers | killed | disconnected
  | roll | phase => exact Nat.le_refl _

theorem completions_refillMissing (hw : WellFormed s) :
    s.completions ≤ (s.refillMissing e).completions := by
  have hqueued : (s.queueRefill (s.resolveWorkerCount e - s.metrics.activeWorkers)).completions =
      s.completions := by
    rw [queueRefill_eq]
    rfl
  rw [← hqueued]
  exact (kickRestartQueue_moves (hw.queueRefill _)).preserves
    (P := fun x => _ ≤ x.completions) (fun _ _ hx hm => hx.trans (completions_move hm)) (Nat.le_refl _)

/-- A roll that was not cut short ends with its report. -/
theorem rollReturned_completes (hw : WellFormed s) (hok : s.rollGoesWell = true)
    (h : s.rollReturned e = some t) : s.completions < t.completions := by
  obtain ⟨r, hr, ⟨hf, -⟩ | ⟨hf, -⟩ | ⟨-, rfl⟩⟩ := rollReturned_outcome h
  · simp [rollGoesWell, rollView, hr, hf, RollFrame.outcome] at hok
  · simp [rollGoesWell, rollView, hr, hf, RollFrame.outcome] at hok
  · have hwc : WellFormed (s.rollCompleted r) := { hw with }
    have hreport : (s.rollCompleted r).completions = s.completions + 1 := rfl
    exact hreport.symm.le.trans (completions_refillMissing hwc)

/-! ## The segments of a roll that goes well -/

/-- A roll is in progress, so the call is ignored. -/
theorem restartWorkers_goesWell (opts : RestartOptions) (h : s.rollGoesWell = true) :
    (s.restartWorkers e opts).rollGoesWell = true := by
  have hignored : s.startsRoll opts = false := by
    rw [rollGoesWell, rollView] at h
    cases hr : s.roll with
    | none => simp [hr] at h
    | some r => simp [startsRoll, hr]
  rw [restartWorkers_eq, hignored]
  exact h

theorem rollStaggerElapsed_goesWell
    (hok : (s.roll.all fun r => s.loopGoesThrough e r.remaining) = true)
    (h : s.rollStaggerElapsed e = some t) : t.rollGoesWell = true := by
  unfold rollStaggerElapsed at h
  split at h
  · rename_i r hr
    rw [hr, Option.all_some] at hok
    split at h
    · split at h
      · rw [← Option.some.inj h]
        refine rollWorkers_goesWell ?_ ((loopGoesThrough_modifyRoll ?_).trans hok)
        · rw [setRollFrame, modifyRoll, hr]
          rfl
        · exact fun _ => rfl
      · cases h
    · cases h
  · cases h

/-- The loop goes on only if there is no stagger. -/
theorem rollExited_goesWell
    (hok : (s.roll.all fun r =>
      decide (0 < r.opts.staggerMs) || s.loopGoesThrough e r.remaining) = true)
    (h : s.rollExited e = some t) : t.rollGoesWell = true := by
  unfold rollExited at h
  split at h
  · rename_i r hr
    rw [hr, Option.all_some] at hok
    split at h
    · rename_i old hf
      dsimp only at h
      split at h
      · rw [← Option.some.inj h]
        refine rollGoesWell_setRollFrame ?_ (.inl rfl)
        rw [modifyRoll, hr]
        rfl
      · rename_i hstagger
        rw [decide_eq_false hstagger, Bool.false_or] at hok
        rw [← Option.some.inj h]
        have hcounted : (s.modifyRoll fun r => { r with
            restartedWorkerIds := r.restartedWorkerIds ++ [old] }).loopGoesThrough e
              r.remaining = true :=
          (loopGoesThrough_modifyRoll ?_).trans hok
        · refine rollWorkers_goesWell ?_ ((loopGoesThrough_modifyRoll ?_).trans hcounted)
          · rw [setRollFrame, modifyRoll, modifyRoll, hr]
            rfl
          · exact fun _ => rfl
        · exact fun _ => rfl
    · cases h
  · cases h

end State

/-! ## What the timestamp says -/

/-- A signal finds its roll free to begin, and where the loop of the roll it began goes
on, neither a shutdown nor failing forks cut it short. -/
def rollsThrough (e : Host) (o : SignalRestartOptions) (w : Signalled) : SignalAction → Bool
  | .signal =>
    let targeted := w.primary.targetedWorkers (Signalled.restartOptions o)
    w.primary.startsRoll (Signalled.restartOptions o) &&
      (w.primary.beginRoll (Signalled.restartOptions o) targeted).loopGoesThrough e targeted
  | .primary (.resume .rollExited) =>
    !w.plugin.rolling || w.primary.roll.all fun r =>
      decide (0 < r.opts.staggerMs) || w.primary.loopGoesThrough e r.remaining
  | .primary (.timer .rollStagger) =>
    !w.plugin.rolling || w.primary.roll.all fun r => w.primary.loopGoesThrough e r.remaining
  | _ => true

/-- The plugin's timestamps are those of completed rolls, and the next one will be. -/
structure Truthful (w : Signalled) : Prop where
  rolling : w.plugin.rolling = true → w.primary.rollGoesWell = true
  settled : ∀ completed ∈ w.plugin.settled, completed = true
  advances : ∀ advance ∈ w.plugin.advances, advance.completed = true
  last : w.plugin.lastRestart = w.plugin.advances.head?.map Advance.time

namespace Truthful

variable {e : Host} {o : SignalRestartOptions} {w x : Signalled} {s : State} {a : Action}

theorem settle (h : Truthful w) {completed : Bool} (hc : completed = true) :
    ∀ c ∈ w.plugin.settled ++ [completed], c = true := by
  intro c hmem
  rcases List.mem_append.mp hmem with hmem | hmem
  · exact h.settled c hmem
  · exact (List.mem_singleton.mp hmem).trans hc

theorem handleSignal (h : Truthful w) (hok : rollsThrough e o w .signal = true) :
    Truthful (w.handleSignal e o) := by
  obtain ⟨hstarts, hloop⟩ := Bool.and_eq_true_iff.mp hok
  unfold Signalled.handleSignal
  rw [restartWorkers_eq, if_pos hstarts, if_pos hstarts]
  exact
    { rolling := fun _ => rollWorkers_goesWell rfl hloop
      settled := h.settled
      advances := h.advances
      last := h.last }

theorem signalHandled (h : Truthful w) (hact : w.signalHandled = some x) : Truthful x := by
  unfold Signalled.signalHandled at hact
  split at hact
  · cases hact
  · rename_i completed rest hsettled
    obtain rfl := Option.some.inj hact
    have hall := h.settled
    rw [hsettled] at hall
    refine { h with
      settled := fun c hc => hall c (List.mem_cons_of_mem _ hc), advances := ?_, last := rfl }
    intro advance hmem
    rcases List.mem_cons.mp hmem with rfl | hmem
    · exact hall completed List.mem_cons_self
    · exact h.advances advance hmem

/-- A segment of the primary that leaves the roll well. -/
theorem follow (h : Truthful w) (hne : a ≠ .resume .rollReturned)
    (hwell : w.plugin.rolling = true → s.rollGoesWell = true) : Truthful (w.follow a s) := by
  have hplain : w.follow a s = { w with primary := s } := by
    unfold Signalled.follow
    split
    · exact absurd rfl hne
    · rfl
  rw [hplain]
  exact { h with rolling := hwell }

/-- The segment that ends the roll settles the call that waits for it. -/
theorem followReturned (h : Truthful w) (hw : WellFormed w.primary)
    (hact : w.primary.rollReturned e = some s) : Truthful (w.follow (.resume .rollReturned) s) := by
  simp only [Signalled.follow]
  split
  · rename_i hrolling
    exact
      { rolling := fun hnone => by cases hnone
        settled := h.settle (decide_eq_true (rollReturned_completes hw (h.rolling hrolling) hact))
        advances := h.advances
        last := h.last }
  · rename_i hrolling
    exact { h with rolling := fun hr => absurd hr hrolling }

theorem primary (h : Truthful w) (hw : WellFormed w.primary) (hact : w.primary.act e a = some s)
    (hok : rollsThrough e o w (.primary a) = true) : Truthful (w.follow a s) := by
  by_cases hturns : a.turnsRoll = false
  · refine h.follow (fun ha => by rw [ha] at hturns; cases hturns) fun hrolling => ?_
    rw [rollGoesWell, act_rollView hturns hact]
    exact h.rolling hrolling
  · cases a with
    | restartWorkers opts =>
      refine h.follow (fun ha => by cases ha) fun hrolling => ?_
      exact Option.some.inj hact ▸ restartWorkers_goesWell opts (h.rolling hrolling)
    | timer timer =>
      cases timer with
      | rollStagger =>
        refine h.follow (fun ha => by cases ha) fun hrolling => ?_
        rw [rollsThrough, hrolling, Bool.not_true, Bool.false_or] at hok
        exact rollStaggerElapsed_goesWell hok hact
      | _ => exact absurd rfl hturns
    | resume c =>
      cases c with
      | rollExited =>
        refine h.follow (fun ha => by cases ha) fun hrolling => ?_
        rw [rollsThrough, hrolling, Bool.not_true, Bool.false_or] at hok
        exact rollExited_goesWell hok hact
      | rollReturned => exact h.followReturned hw hact
      | _ => exact absurd rfl hturns
    | _ => exact absurd rfl hturns

theorem step {a : SignalAction} (h : Truthful w) (hw : WellFormed w.primary)
    (hact : w.act e o a = some x) (hok : rollsThrough e o w a = true) : Truthful x := by
  cases a with
  | primary a =>
    obtain ⟨s, hs, rfl⟩ := Option.map_eq_some_iff.mp hact
    exact h.primary hw hs hok
  | install =>
    obtain rfl := Option.some.inj hact
    exact { h with }
  | uninstall =>
    obtain rfl := Option.some.inj hact
    unfold Signalled.uninstall
    split
    · exact { h with }
    · exact h
  | signal =>
    rw [Signalled.act] at hact
    split at hact
    · rw [← Option.some.inj hact]
      exact h.handleSignal hok
    · cases hact
  | handled => exact h.signalHandled hact

end Truthful

section

variable {e : Host} {count : WorkerCount} {env : ProcessEnv} {o : SignalRestartOptions}
  {w x : Signalled} {a : SignalAction}

theorem signalledOrchestrator_step (h : (signalledOrchestrator e count env o).step w a = some x) :
    w.primary.process.exited = false ∧ w.act e o a = some x := by
  simp only [signalledOrchestrator] at h
  split at h
  · cases h
  · rename_i hexited
    exact ⟨Bool.eq_false_iff.mpr hexited, h⟩

theorem Signalled.act_primary (h : w.act e o a = some x) :
    x.primary = w.primary ∨ ∃ a', w.primary.act e a' = some x.primary := by
  cases a with
  | primary a =>
    obtain ⟨s, hs, rfl⟩ := Option.map_eq_some_iff.mp h
    have hprimary : (w.follow a s).primary = s := by
      unfold Signalled.follow
      split
      · split <;> rfl
      · rfl
    exact .inr ⟨a, hprimary.symm ▸ hs⟩
  | install => exact .inl (Option.some.inj h ▸ rfl)
  | uninstall =>
    obtain rfl := Option.some.inj h
    unfold Signalled.uninstall
    split <;> exact .inl rfl
  | signal =>
    rw [Signalled.act] at h
    split at h
    · exact .inr ⟨.restartWorkers (Signalled.restartOptions o), Option.some.inj h ▸ rfl⟩
    · cases h
  | handled =>
    have h : w.signalHandled = some x := h
    unfold Signalled.signalHandled at h
    split at h
    · cases h
    · exact .inl (Option.some.inj h ▸ rfl)

/-- Next to the plugin the primary does what it can do without it. -/
theorem signalled_reachable (h : (signalledOrchestrator e count env o).Reachable w) :
    (orchestrator e count env).Reachable w.primary := by
  refine StepSystem.Reachable.induct
    (P := fun y : Signalled => (orchestrator e count env).Reachable y.primary) h .refl ?_
  intro x a y hx hstep
  obtain ⟨hexited, hact⟩ := signalledOrchestrator_step hstep
  rcases Signalled.act_primary hact with heq | ⟨a', ha'⟩
  · rw [heq]
    exact hx
  · refine hx.step (a := a') ?_
    rw [← ha']
    simp [orchestrator, hexited]

end

/-- **The timestamp tells the truth**, as long as every signal begins a roll and nothing
cuts that roll short: each advance is that of a roll which reported its completion. -/
theorem lastRestart_completed (e : Host) (count : WorkerCount) (env : ProcessEnv)
    (o : SignalRestartOptions) (w : Signalled)
    (hrun : (signalledOrchestrator e count env o).Run (fun x a => rollsThrough e o x a = true)
      { primary := .initial e count env } w) :
    w.plugin.lastRestart = w.plugin.advances.head?.map Advance.time ∧
      ∀ advance ∈ w.plugin.advances, advance.completed = true := by
  have h : Truthful w := by
    refine StepSystem.Run.preserves_of hrun .refl
      (fun x hx => reachable_wellFormed (signalled_reachable hx)) ?_ ?_
    · exact fun x a y hw hx hok hstep => hx.step hw (signalledOrchestrator_step hstep).2 hok
    · refine ⟨fun hrolling => ?_, List.forall_mem_nil _, List.forall_mem_nil _, rfl⟩
      cases hrolling
  exact ⟨h.last, h.advances⟩

/-- One worker is rolled at a signal, and the call of `handleSignal` goes on. -/
def rolledAtSignal : List SignalAction :=
  [.install, .primary .run, .primary .pluginsInstalled, .primary (.workerOnline 1), .signal,
    .primary (.workerOnline 2), .primary (.workerExit 1 (some 0) none),
    .primary (.resume .rollExited), .primary (.tick 1000), .primary (.timer .rollStagger),
    .primary (.resume .rollReturned), .handled]

theorem lastRestart_completed_one_worker :
    ∃ w : Signalled, w.plugin.lastRestart = some 1000 ∧
      ∀ advance ∈ w.plugin.advances, advance.completed = true := by
  obtain ⟨w, hrun, hq⟩ := StepSystem.exists_run_of_any
    (signalledOrchestrator {} (.fixed 1) (fun _ => none) {})
    { primary := .initial {} (.fixed 1) fun _ => none } (rollsThrough {} {}) rolledAtSignal
    (fun w => decide (w.plugin.lastRestart = some 1000)) (by decide +kernel)
  exact ⟨w, of_decide_eq_true hq, (lastRestart_completed {} _ _ {} w hrun).2⟩

/-- A signal comes during somebody else's roll: its call is ignored, the timestamp is set. -/
theorem lastRestart_without_completion :
    ¬ ∀ (e : Host) (count : WorkerCount) (env : ProcessEnv) (o : SignalRestartOptions)
      (w : Signalled), (signalledOrchestrator e count env o).Reachable w →
        ∀ advance ∈ w.plugin.advances, advance.completed = true := by
  intro h
  obtain ⟨w, hw, hq⟩ := StepSystem.exists_reachable_of_any
    (signalledOrchestrator {} (.fixed 1) (fun _ => none) {})
    [.install, .primary .run, .primary .pluginsInstalled, .primary (.workerOnline 1),
      .primary (.restartWorkers {}), .signal, .handled]
    (fun w => w.plugin.advances.any fun advance => !advance.completed) (by decide +kernel)
  obtain ⟨advance, hmem, hnot⟩ := List.any_eq_true.mp hq
  rw [h _ _ _ _ w hw advance hmem] at hnot
  cases hnot

end ClusterKit
