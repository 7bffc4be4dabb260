import ClusterKit.Lib.Countdown
import ClusterKit.Frames

/-! Every roll ends. Each of its workers costs it a drain, a grace and a stagger at most, and
its own timers take it through the fleet even if no worker reacts. -/

namespace ClusterKit

open State StepSystem

variable {e : Host} {s t : State} {a : Action} {r r' : Roll}

/-! ## What moves a roll on -/

/-- The loop of the roll ran at the time `now` over what remained: it waits for one of these
workers, or has returned. -/
def Roll.RanAt (e : Host) (now : Nat) (r r' : Roll) : Prop :=
  r'.opts = r.opts ∧
    ((∃ outcome, r'.frame = .returned outcome) ∨
      r'.remaining.length < r.remaining.length ∧ ∃ old,
        r'.frame = .exited old ∨ r'.frame = .exitWait old (now + e.cfg.workerDrainBudgetMs))

/-- One turn of a roll, at `s`. -/
inductive RollWaitTurn (e : Host) (s : State) (r : Roll) : Roll → Prop
  | exitSeen (old deadline : Nat)
      (hf : r.frame = .exitWait old deadline ∨ r.frame = .exitGrace old deadline) :
    RollWaitTurn e s r { r with frame := .exited old }
  | killed (old deadline : Nat) (hf : r.frame = .exitWait old deadline) (hdue : deadline ≤ s.now) :
    RollWaitTurn e s r { r with frame := .exitGrace old (s.now + EXIT_GRACE_MS) }
  | staggered (old : Nat) (hf : r.frame = .exited old) :
    RollWaitTurn e s r { r with
      restartedWorkerIds := r.restartedWorkerIds ++ [old]
      frame := .stagger (s.now + r.opts.staggerMs) }
  | resumed (r' : Roll)
      (hf : (∃ old, r.frame = .exited old) ∨ ∃ deadline, r.frame = .stagger deadline)
      (h : r.RanAt e s.now r') : RollWaitTurn e s r r'

/-- What a segment does to the roll: nothing, one turn, the end or the begin of it. -/
inductive RollMoves (e : Host) (s t : State) : Prop
  | kept (h : t.roll = s.roll)
  | turn (r r' : Roll) (hr : s.roll = some r) (hr' : t.roll = some r') (h : RollWaitTurn e s r r')
  | ended (r : Roll) (outcome : RollOutcome) (hr : s.roll = some r)
      (hf : r.frame = .returned outcome) (h : t.roll = none)
  | began (opts : RestartOptions) (targeted : List Nat) (r' : Roll) (hr : s.roll = none)
      (hr' : t.roll = some r')
      (h : Roll.RanAt e s.now { opts := opts, remaining := targeted, frame := .running } r')

/-- The loop forked a replacement for the next worker. -/
theorem rollForked_ran {old : Nat} {rest : List Nat} (new : Nat) (hr : s.roll = some r)
    (hrem : r.remaining = old :: rest) :
    ∃ r', (s.rollForked e old new rest).roll = some r' ∧ r'.opts = r.opts ∧
      r'.remaining.length < r.remaining.length ∧
      (r'.frame = .exited old ∨ r'.frame = .exitWait old (s.now + e.cfg.workerDrainBudgetMs)) := by
  unfold rollForked
  extract_lets x frame
  have hx : x.roll = some r := hr
  refine ⟨{ r with remaining := rest, frame := frame }, ?_, rfl, ?_, ?_⟩
  · simp [modifyRoll, hx]
  · rw [hrem]
    exact Nat.lt_succ_self _
  · by_cases hd : x.isDead old
    · exact .inl (if_pos hd)
    · exact .inr (if_neg hd)

/-- The loop runs up to its next suspension. -/
theorem rollWorkers_ran (targeted : List Nat) (s : State) {r : Roll} (hr : s.roll = some r)
    (hrem : r.remaining = targeted) :
    ∃ r', (rollWorkers e targeted s).roll = some r' ∧ r.RanAt e s.now r' := by
  induction targeted generalizing s r with
  | nil =>
    refine ⟨{ r with frame := .returned .complete }, ?_, rfl, .inl ⟨_, rfl⟩⟩
    simp [rollWorkers, setRollFrame, modifyRoll, hr]
  | cons old rest ih =>
    -- past `old`, the loop runs over the rest
    have hpast {x : State} {q : Roll} (hq : x.roll = some q) (hqrem : q.remaining = rest)
        (hopts : q.opts = r.opts) (hnow : x.now = s.now) :
        ∃ r', (rollWorkers e rest x).roll = some r' ∧ r.RanAt e s.now r' := by
      obtain ⟨r', hr', hopts', hwhere⟩ := ih x hq hqrem
      refine ⟨r', hr', hopts'.trans hopts, ?_⟩
      rcases hwhere with hret | ⟨hlt, hframe⟩
      · exact .inl hret
      · rw [hnow] at hframe
        refine .inr ⟨?_, hframe⟩
        rw [hqrem] at hlt
        rw [hrem]
        exact hlt.trans (Nat.lt_succ_self _)
    have hfork := forkWorker_suspended (e := e) (.roll old) s.rollEnv s
    unfold rollWorkers
    split
    · refine ⟨{ r with frame := .returned .abortedByShutdown }, ?_, rfl, .inl ⟨_, rfl⟩⟩
      simp [setRollFrame, modifyRoll, hr]
    · split
      · refine hpast (q := { r with remaining := rest }) ?_ rfl rfl rfl
        simp [setRemaining, modifyRoll, hr]
      · split <;> rename_i x heq <;> rw [heq] at hfork
        · have hx : x.roll = some r := (roll_of_suspended hfork).trans hr
          have hnow : x.now = s.now := congrArg Suspended.now hfork
          dsimp only
          split
          · let r' : Roll :=
              { r with remaining := rest, forkFailed := true, frame := .returned .forkBailout }
            refine ⟨r', ?_, rfl, .inl ⟨_, rfl⟩⟩
            show (x.roll.map _).map _ = some r'
            rw [hx]
            rfl
          · refine hpast (q := { r with remaining := rest, forkFailed := true }) ?_ rfl rfl hnow
            show x.roll.map _ = some _
            rw [hx]
            rfl
        · obtain ⟨r', hr', hopts, hlt, hframe⟩ := rollForked_ran (e := e) _
            ((roll_of_suspended hfork).trans hr) hrem
          refine ⟨r', hr', hopts, .inr ⟨hlt, old, ?_⟩⟩
          rwa [show x.now = s.now from congrArg Suspended.now hfork] at hframe

namespace RollMoves

theorem of_suspended (h : t.suspended = s.suspended) : RollMoves e s t :=
  .kept (roll_of_suspended h)

theorem of_eq {x : State} (h : RollMoves e s x) (heq : t.roll = x.roll) : RollMoves e s t := by
  cases h with
  | kept h => exact .kept (heq.trans h)
  | turn r r' hr hr' h => exact .turn r r' hr (heq.trans hr') h
  | ended r outcome hr hf h => exact .ended r outcome hr hf (heq.trans h)
  | began opts targeted r' hr hr' h => exact .began opts targeted r' hr (heq.trans hr') h

theorem onRolledWorkerExit {x : State} (hx : x.roll = s.roll) (id : Nat) :
    RollMoves e s (x.onRolledWorkerExit id) := by
  have hseen {old deadline : Nat} {frame : RollFrame} (hf : x.rollFrame = some frame)
      (hwait : frame = .exitWait old deadline ∨ frame = .exitGrace old deadline) :
      RollMoves e s (x.setRollFrame (.exited old)) := by
    obtain ⟨r, hr, rfl⟩ := Option.map_eq_some_iff.mp hf
    refine .turn r { r with frame := .exited old } (hx ▸ hr) ?_ (.exitSeen old deadline hwait)
    simp [setRollFrame, modifyRoll, hr]
  unfold State.onRolledWorkerExit
  split
  · rename_i old deadline hf
    split
    · exact hseen hf (.inl rfl)
    · exact .kept hx
  · rename_i old deadline hf
    split
    · exact hseen hf (.inr rfl)
    · exact .kept hx
  · exact .kept hx

theorem exitWaitElapsed : ∀ t ∈ s.exitWaitElapsed, RollMoves e s t := by
  unfold State.exitWaitElapsed
  split
  · rename_i old deadline hf
    obtain ⟨r, hr, hframe⟩ := Option.map_eq_some_iff.mp hf
    split
    · rename_i hdue
      have hkilled (x : State) (hx : x.roll = some r) :
          RollMoves e s (x.setRollFrame (.exitGrace old (s.now + EXIT_GRACE_MS))) := by
        refine .turn r _ hr ?_ (.killed old deadline hframe hdue)
        simp [setRollFrame, modifyRoll, hx]
      dsimp only
      split <;> rintro _ ⟨⟩
      · exact hkilled s hr
      · exact hkilled _ hr
    · rintro _ ⟨⟩
  · rintro _ ⟨⟩

theorem exitGraceElapsed : ∀ t ∈ s.exitGraceElapsed, RollMoves e s t := by
  unfold State.exitGraceElapsed
  split
  · rename_i old deadline hf
    obtain ⟨r, hr, hframe⟩ := Option.map_eq_some_iff.mp hf
    split <;> rintro _ ⟨⟩
    refine .turn r _ hr ?_ (.exitSeen old deadline (.inr hframe))
    simp [setRollFrame, modifyRoll, hr]
  · rintro _ ⟨⟩

/-- The loop goes on at the roll `q`, which has its turn behind it. -/
theorem resumed {q : Roll} (hr : s.roll = some r)
    (hf : (∃ old, r.frame = .exited old) ∨ ∃ deadline, r.frame = .stagger deadline)
    (hopts : q.opts = r.opts) (hrem : q.remaining = r.remaining) {x : State}
    (hx : x.roll = some q) (hnow : x.now = s.now) :
    RollMoves e s (rollWorkers e r.remaining x) := by
  obtain ⟨r', hr', hopts', hran⟩ := rollWorkers_ran (e := e) r.remaining x hx hrem
  refine .turn r r' hr hr' (.resumed r' hf ⟨hopts'.trans hopts, ?_⟩)
  rwa [hrem, hnow] at hran

theorem rollExited : ∀ t ∈ s.rollExited e, RollMoves e s t := by
  unfold State.rollExited
  split
  · rename_i r hr
    split
    · rename_i old hframe
      dsimp only
      split <;> rintro _ ⟨⟩
      · refine .turn r _ hr ?_ (.staggered old hframe)
        simp [setRollFrame, modifyRoll, hr]
      · refine resumed (q := { r with
          restartedWorkerIds := r.restartedWorkerIds ++ [old], frame := .running })
          hr (.inl ⟨old, hframe⟩) rfl rfl ?_ rfl
        simp [setRollFrame, modifyRoll, hr]
    · rintro _ ⟨⟩
  · rintro _ ⟨⟩

theorem rollStaggerElapsed : ∀ t ∈ s.rollStaggerElapsed e, RollMoves e s t := by
  unfold State.rollStaggerElapsed
  split
  · rename_i r hr
    split
    · rename_i deadline hframe
      split <;> rintro _ ⟨⟩
      refine resumed (q := { r with frame := .running }) hr (.inr ⟨deadline, hframe⟩) rfl rfl ?_ rfl
      simp [setRollFrame, modifyRoll, hr]
    · rintro _ ⟨⟩
  · rintro _ ⟨⟩

theorem rollReturned : ∀ t ∈ s.rollReturned e, RollMoves e s t := by
  unfold State.rollReturned
  split
  · rename_i r hr
    split <;> rintro _ ⟨⟩ <;> rename_i hframe <;> exact .ended r _ hr hframe rfl
  · rintro _ ⟨⟩

theorem restartWorkers (opts : RestartOptions) : RollMoves e s (s.restartWorkers e opts) := by
  unfold State.restartWorkers
  split
  · exact .kept rfl
  · split
    · exact .kept rfl
    · rename_i hfree
      simp only [Bool.or_eq_true, not_or, Option.isSome_iff_ne_none, not_not] at hfree
      have hbegun : (s.beginRoll opts (s.targetedWorkers opts)).roll =
          some { opts := opts, remaining := s.targetedWorkers opts, frame := .running,
                 clearedQuarantine := s.restart.quarantinedSlots } := rfl
      obtain ⟨r', hr', hran⟩ := rollWorkers_ran (e := e) _ _ hbegun rfl
      exact .began opts (s.targetedWorkers opts) r' hfree.2 hr' hran

theorem fire {timer : Timer} (h : s.fire e timer = some t) : RollMoves e s t := by
  cases fire_fired h with
  | aside hsame => exact of_suspended hsame
  | wedgedWatch hwatch => exact .kept hwatch.roll
  | exitWait => exact exitWaitElapsed t h
  | exitGrace => exact exitGraceElapsed t h
  | rollStagger => exact rollStaggerElapsed t h
  | ackTimeout _ hdown | killDelay _ hdown | shutdownExit hdown => exact .kept hdown.roll

theorem resume {c : Continuation} (h : s.resume e c = some t) : RollMoves e s t := by
  cases resume_resumed h with
  | restartQueue hsame => exact of_suspended hsame
  | rollExited => exact rollExited t h
  | rollReturned => exact rollReturned t h
  | acksSettled hdown | exitWaitOver hdown | killsDone hdown | callbacksDone hdown =>
    exact .kept hdown.roll

theorem workerExit {id : Nat} {code : Option Int} {signal : Option String}
    (h : s.workerExit e id code signal = some t) : RollMoves e s t := by
  unfold State.workerExit at h
  split at h
  · cases h
  · have hseen : RollMoves e s (((s.markDead id).onReplacementExit e id).onRolledWorkerExit id) :=
      onRolledWorkerExit (s := s)
        (roll_of_suspended (suspended_of_still (onReplacementExit_still id (s.markDead id)))) id
    -- the rest of the segment leaves the roll as the listener left it
    refine hseen.of_eq ?_
    dsimp only at h
    split at h <;> cases h
    · exact (settleAck_waitsOn id _).windsDown.roll
    · exact (handleWorkerExit_hearsOn id code signal _).roll.trans
        (settleAck_waitsOn id _).windsDown.roll

end RollMoves

theorem act_roll (h : s.act e a = some t) : RollMoves e s t := by
  cases act_acted h with
  | aside hsame => exact .of_suspended hsame
  | tick ms => cases h; exact .kept rfl
  | pluginsInstalled hwatch => exact .kept hwatch.roll
  | restartWorkers opts => cases h; exact .restartWorkers opts
  | shutdownPrimary signal => cases h; exact .kept (shutdownPrimary_roll signal s)
  | workerExit => exact .workerExit h
  | workerDisconnected _ hdown | workerError _ hdown => exact .kept hdown.roll
  | workerMessage id msg =>
    simp only [State.act, workerMessage] at h
    split at h <;> cases h
    exact .kept ((onAckMessage_waitsOn id msg _).windsDown.roll.trans
      (onHealthMessage_hearsOn id msg s).roll)
  | timer => exact .fire h
  | resume => exact .resume h

/-! ## What a roll waits for -/

/-- The longest that a roll takes for one worker. -/
def RestartOptions.workerMs (cfg : ResolvedConfig) (opts : RestartOptions) : Nat :=
  cfg.workerDrainBudgetMs + EXIT_GRACE_MS + opts.staggerMs

/-- The timer of a suspended roll, and what is still to come. -/
def Roll.countdown (cfg : ResolvedConfig) (r : Roll) : Countdown :=
  let rest := r.remaining.length * r.opts.workerMs cfg
  match r.frame with
  | .running => ⟨[], rest⟩
  | .exitWait _ deadline => ⟨[⟨deadline, 0⟩], EXIT_GRACE_MS + r.opts.staggerMs + rest⟩
  | .exitGrace _ deadline => ⟨[⟨deadline, 0⟩], r.opts.staggerMs + rest⟩
  | .exited _ => ⟨[], r.opts.staggerMs + rest⟩
  | .stagger deadline => ⟨[⟨deadline, 0⟩], rest⟩
  | .returned _ => ⟨[], 0⟩

/-- The longest that a roll takes from here on, whatever it waits for. -/
def Roll.dueMs (cfg : ResolvedConfig) (r : Roll) : Nat :=
  (r.remaining.length + 1) * r.opts.workerMs cfg

/-- A worker less remains. -/
theorem workerMs_mul_le {cfg : ResolvedConfig} {opts : RestartOptions} {n m : Nat} (h : n < m) :
    opts.workerMs cfg + n * opts.workerMs cfg ≤ m * opts.workerMs cfg := by
  have hle : (n + 1) * opts.workerMs cfg ≤ m * opts.workerMs cfg := Nat.mul_le_mul_right _ h
  rw [Nat.succ_mul] at hle
  omega

variable {T now : Nat}

/-- Whatever the roll waits for next fits into the time for the workers that remained. -/
theorem Roll.RanAt.overBy (h : r.RanAt e now r')
    (hT : now + r.remaining.length * r.opts.workerMs e.cfg ≤ T) :
    (r'.countdown e.cfg).OverBy now T := by
  obtain ⟨hopts, ⟨outcome, hf⟩ | ⟨hlt, old, hf⟩⟩ := h
  · refine ⟨?_, ?_⟩
    · simp only [Roll.countdown, hf]
      omega
    · simp [Roll.countdown, hf]
  · have hle : r.opts.workerMs e.cfg + r'.remaining.length * r.opts.workerMs e.cfg ≤
        r.remaining.length * r.opts.workerMs e.cfg := workerMs_mul_le hlt
    have hms : r.opts.workerMs e.cfg =
        e.cfg.workerDrainBudgetMs + EXIT_GRACE_MS + r.opts.staggerMs := rfl
    rcases hf with hf | hf
    · refine ⟨?_, ?_⟩
      · simp only [Roll.countdown, hf, hopts]
        omega
      · simp [Roll.countdown, hf]
    · refine ⟨?_, ?_⟩
      · simp only [Roll.countdown, hf, hopts]
        omega
      · simp only [Roll.countdown, hf, hopts, List.forall_mem_singleton]
        omega

/-- No turn of a roll puts its end off. -/
theorem RollWaitTurn.overBy (h : RollWaitTurn e s r r') (ho : (r.countdown e.cfg).OverBy s.now T) :
    (r'.countdown e.cfg).OverBy s.now T := by
  cases h with
  | exitSeen old deadline hf =>
    refine ho.next ?_ (by simp [Roll.countdown])
    rcases hf with hf | hf
    · simp only [Roll.countdown, hf]
      omega
    · simp only [Roll.countdown, hf]
      omega
  | killed old deadline hf hdue =>
    refine ho.next ?_ fun w hw => .inr (.inl ?_)
    · simp only [Roll.countdown, hf]
      omega
    · obtain rfl := List.mem_singleton.mp hw
      simp only [Roll.countdown, hf]
      omega
  | staggered old hf =>
    refine ho.next ?_ fun w hw => .inr (.inl ?_)
    · simp only [Roll.countdown, hf]
      omega
    · obtain rfl := List.mem_singleton.mp hw
      simp only [Roll.countdown, hf]
      omega
  | resumed r' hf hran =>
    refine hran.overBy (le_trans ?_ ho.1)
    rcases hf with ⟨old, hf⟩ | ⟨deadline, hf⟩
    · simp only [Roll.countdown, hf]
      omega
    · simp only [Roll.countdown, hf]
      exact le_rfl

/-- Suspended, and no timer is armed for longer than the configuration says. -/
def Roll.ArmedBy (e : Host) (now : Nat) (r : Roll) : Prop :=
  match r.frame with
  | .running => False
  | .exitWait _ deadline => deadline ≤ now + e.cfg.workerDrainBudgetMs
  | .exitGrace _ deadline => deadline ≤ now + EXIT_GRACE_MS
  | .exited _ => True
  | .stagger deadline => deadline ≤ now + r.opts.staggerMs
  | .returned _ => True

theorem Roll.ArmedBy.later (h : r.ArmedBy e now) {later : Nat} (hle : now ≤ later) :
    r.ArmedBy e later := by
  unfold Roll.ArmedBy at h ⊢
  split <;> rename_i hf <;> rw [hf] at h
  · exact h
  · exact h.trans (Nat.add_le_add_right hle _)
  · exact h.trans (Nat.add_le_add_right hle _)
  · trivial
  · exact h.trans (Nat.add_le_add_right hle _)
  · trivial

theorem Roll.RanAt.armedBy (h : r.RanAt e now r') : r'.ArmedBy e now := by
  obtain ⟨-, ⟨outcome, hf⟩ | ⟨-, old, hf | hf⟩⟩ := h
  · simp [Roll.ArmedBy, hf]
  · simp [Roll.ArmedBy, hf]
  · simp [Roll.ArmedBy, hf]

theorem RollWaitTurn.armedBy (h : RollWaitTurn e s r r') : r'.ArmedBy e s.now := by
  cases h with
  | exitSeen => trivial
  | killed => exact Nat.le_refl _
  | staggered => exact Nat.le_refl _
  | resumed r' hf hran => exact hran.armedBy

/-- What is armed fits into the time for one worker more than remain. -/
theorem Roll.ArmedBy.overBy (h : r.ArmedBy e now) :
    (r.countdown e.cfg).OverBy now (now + r.dueMs e.cfg) := by
  have hdue : r.dueMs e.cfg = r.remaining.length * r.opts.workerMs e.cfg +
      (e.cfg.workerDrainBudgetMs + EXIT_GRACE_MS + r.opts.staggerMs) := Nat.succ_mul _ _
  unfold Roll.ArmedBy at h
  split at h <;> rename_i hf <;> refine ⟨?_, ?_⟩ <;>
    simp only [Roll.countdown, hf, hdue, List.forall_mem_singleton, List.not_mem_nil,
      false_imp_iff, implies_true] <;> omega

/-- The roll under way is suspended at timers that its configuration arms. -/
def RollArmed (e : Host) (s : State) : Prop := ∀ r, s.roll = some r → r.ArmedBy e s.now

theorem RollArmed.act (h : RollArmed e s) (hw : WellFormed s) (hact : s.act e a = some t) :
    RollArmed e t := by
  have hle : s.now ≤ t.now := act_now_le hw hact
  intro r' hr'
  cases act_roll hact with
  | kept heq => exact (h r' (heq ▸ hr')).later hle
  | turn r q hr hq hturn =>
    obtain rfl := Option.some.inj (hq.symm.trans hr')
    exact hturn.armedBy.later hle
  | ended r outcome hr hf heq =>
    rw [heq] at hr'
    cases hr'
  | began opts targeted q hr hq hran =>
    obtain rfl := Option.some.inj (hq.symm.trans hr')
    exact hran.armedBy.later hle

theorem reachable_rollArmed {count : WorkerCount} {env : ProcessEnv}
    (h : (orchestrator e count env).Reachable s) : RollArmed e s :=
  run_preserves h (fun _ hr => by cases hr) fun _ _ _ hw hx _ => hx.act hw

/-! ## A roll is over in time -/

/-- No timer of the roll is late, and what it has to do at once it does at once. -/
def rollOnTime (e : Host) (s : State) : Action → Bool
  | .tick ms =>
    decide (ms = 0) || s.roll.all fun r => (r.countdown e.cfg).allows (s.now + ms)
  | _ => true

/-- The roll that is under way, if any, is over by the time `T`. -/
def RollDue (e : Host) (T : Nat) (s : State) : Prop :=
  ∀ r, s.roll = some r → (r.countdown e.cfg).OverBy s.now T

theorem RollDue.step (h : RollDue e T s) (hw : WellFormed s) (hroll : s.roll.isSome = true)
    (hok : rollOnTime e s a = true) (hact : s.act e a = some t) : RollDue e T t := by
  by_cases htick : ∃ ms, a = .tick ms
  · obtain ⟨ms, rfl⟩ := htick
    cases hact
    intro r hr
    replace hr : s.roll = some r := hr
    simp only [rollOnTime, hr, Option.all_some, Bool.or_eq_true, decide_eq_true_eq] at hok
    rcases hok with rfl | hok
    · exact h r hr
    · exact (h r hr).wait hok
  · have hnow : t.now = s.now := act_now_eq hw (fun ms ha => htick ⟨ms, ha⟩) hact
    intro r' hr'
    rw [hnow]
    cases act_roll hact with
    | kept heq => exact h r' (heq ▸ hr')
    | turn r q hr hq hturn =>
      obtain rfl := Option.some.inj (hq.symm.trans hr')
      exact hturn.overBy (h r hr)
    | ended r outcome hr hf heq =>
      rw [heq] at hr'
      cases hr'
    | began opts targeted q hr hq hran =>
      rw [hr] at hroll
      cases hroll

/-! ## A roll is not stuck -/

/-- The segments of the roll itself. -/
def Action.ofRoll : Action → Bool
  | .tick _ => true
  | .timer .exitWait => true
  | .timer .exitGrace => true
  | .timer .rollStagger => true
  | .resume .rollExited => true
  | .resume .rollReturned => true
  | _ => false

/-- The turns that a roll still takes, at most. -/
def Roll.turns (r : Roll) : Nat :=
  match r.frame with
  | .running => 0
  | .exitWait .. => 4 * r.remaining.length + 5
  | .exitGrace .. => 4 * r.remaining.length + 4
  | .exited _ => 4 * r.remaining.length + 3
  | .stagger _ => 4 * r.remaining.length + 2
  | .returned _ => 1

def State.rollTurns (s : State) : Nat := (s.roll.map Roll.turns).getD 0

theorem Roll.RanAt.turns_le (h : r.RanAt e now r') : r'.turns ≤ 4 * r.remaining.length + 1 := by
  obtain ⟨-, ⟨outcome, hf⟩ | ⟨hlt, old, hf | hf⟩⟩ := h
  · simp [Roll.turns, hf]
  · simp only [Roll.turns, hf]
    omega
  · simp only [Roll.turns, hf]
    omega

theorem RollWaitTurn.turns_lt (h : RollWaitTurn e s r r') : r'.turns < r.turns := by
  cases h with
  | exitSeen old deadline hf => rcases hf with hf | hf <;> simp [Roll.turns, hf]
  | killed old deadline hf hdue => simp [Roll.turns, hf]
  | staggered old hf => simp [Roll.turns, hf]
  | resumed r' hf hran =>
    refine hran.turns_le.trans_lt ?_
    rcases hf with ⟨old, hf⟩ | ⟨deadline, hf⟩ <;> simp [Roll.turns, hf]

/-- A segment that does not leave the roll as it was takes a turn of it. -/
theorem RollMoves.rollTurns_lt (h : RollMoves e s t) (hr : s.roll = some r)
    (hne : t.roll ≠ s.roll) : t.rollTurns < s.rollTurns := by
  cases h with
  | kept heq => exact absurd heq hne
  | turn q r' hq hr' hturn =>
    simp only [rollTurns, hq, hr', Option.map_some, Option.getD_some]
    exact hturn.turns_lt
  | ended q outcome hq hf heq => simp [rollTurns, heq, hq, Roll.turns, hf]
  | began opts targeted r' hnone => exact absurd (hnone.symm.trans hr) (by simp)

/-- The next turn of the roll is one of its own. -/
def RollTurnsOn (e : Host) (s : State) : Prop :=
  ∃ a t, a.ofRoll = true ∧ (∀ ms, a ≠ .tick ms) ∧ s.act e a = some t ∧
    t.process.exited = s.process.exited ∧ t.rollTurns < s.rollTurns

namespace RollTurnsOn

theorem of_roll (hr : s.roll = some r) (a : Action) (hown : a.ofRoll = true)
    (htick : ∀ ms, a ≠ .tick ms) (hact : s.act e a = some t) (hrolls : RollsOn s t)
    (hne : t.roll ≠ some r) : RollTurnsOn e s :=
  ⟨a, t, hown, htick, hact, hrolls.exited, (act_roll hact).rollTurns_lt hr (hr ▸ hne)⟩

/-- After the loop ran, the roll is not where it was. -/
theorem ne_of_ran {x : State} {q : Roll} (hx : x.roll = some q) (hrem : q.remaining = r.remaining)
    (hf : (∃ old, r.frame = .exited old) ∨ ∃ deadline, r.frame = .stagger deadline) :
    (rollWorkers e r.remaining x).roll ≠ some r := by
  obtain ⟨r', hr', -, hran⟩ := rollWorkers_ran (e := e) r.remaining x hx hrem
  rw [hr']
  intro heq
  obtain rfl := Option.some.inj heq
  rcases hran with ⟨outcome, hret⟩ | ⟨hlt, -⟩
  · rcases hf with ⟨old, hf⟩ | ⟨deadline, hf⟩ <;> rw [hf] at hret <;> cases hret
  · rw [hrem] at hlt
    exact lt_irrefl _ hlt

theorem exitWait (hr : s.roll = some r) {old deadline : Nat}
    (hf : r.frame = .exitWait old deadline) (hdue : deadline ≤ s.now) : RollTurnsOn e s := by
  have hframe : s.rollFrame = some (.exitWait old deadline) := by simp [rollFrame, hr, hf]
  obtain ⟨t, hact, hroll⟩ : ∃ t, s.exitWaitElapsed = some t ∧
      t.roll = some { r with frame := .exitGrace old (s.now + EXIT_GRACE_MS) } := by
    simp only [exitWaitElapsed, hframe, if_pos hdue]
    split
    · exact ⟨_, rfl, congrArg (Option.map _) hr⟩
    · exact ⟨_, rfl, congrArg (Option.map _) hr⟩
  have hrolls := (exitWaitElapsed_rollWaits _ hact).rollsOn
  refine of_roll hr (.timer .exitWait) rfl (by simp) hact hrolls ?_
  rw [hroll]
  intro heq
  have hsame := congrArg Roll.frame (Option.some.inj heq)
  rw [hf] at hsame
  cases hsame

theorem exitGrace (hr : s.roll = some r) {old deadline : Nat}
    (hf : r.frame = .exitGrace old deadline) (hdue : deadline ≤ s.now) : RollTurnsOn e s := by
  have hframe : s.rollFrame = some (.exitGrace old deadline) := by simp [rollFrame, hr, hf]
  have hact : s.exitGraceElapsed = some (s.setRollFrame (.exited old)) := by
    simp only [exitGraceElapsed, hframe, if_pos hdue]
  have hroll : (s.setRollFrame (.exited old)).roll = some { r with frame := .exited old } :=
    congrArg (Option.map _) hr
  have hrolls := (exitGraceElapsed_rollWaits _ hact).rollsOn
  refine of_roll hr (.timer .exitGrace) rfl (by simp) hact hrolls ?_
  rw [hroll]
  intro heq
  have hsame := congrArg Roll.frame (Option.some.inj heq)
  rw [hf] at hsame
  cases hsame

theorem stagger (hr : s.roll = some r) {deadline : Nat} (hf : r.frame = .stagger deadline)
    (hdue : deadline ≤ s.now) : RollTurnsOn e s := by
  have hact : s.rollStaggerElapsed e =
      some (rollWorkers e r.remaining (s.setRollFrame .running)) := by
    simp only [rollStaggerElapsed, hr, hf, if_pos hdue]
  have hroll : (s.setRollFrame .running).roll = some { r with frame := .running } :=
    congrArg (Option.map _) hr
  exact of_roll hr (.timer .rollStagger) rfl (by simp) hact (rollStaggerElapsed_rollsOn _ hact)
    (ne_of_ran hroll rfl (.inr ⟨deadline, hf⟩))

theorem exited (hr : s.roll = some r) {old : Nat} (hf : r.frame = .exited old) :
    RollTurnsOn e s := by
  obtain ⟨t, hact, hne⟩ : ∃ t, s.rollExited e = some t ∧ t.roll ≠ some r := by
    simp only [rollExited, hr, hf]
    split
    · refine ⟨_, rfl, fun heq => ?_⟩
      simp only [setRollFrame, modifyRoll, hr, Option.map_some] at heq
      have hsame := congrArg Roll.frame (Option.some.inj heq)
      rw [hf] at hsame
      cases hsame
    · refine ⟨_, rfl, ne_of_ran (q := { r with
        restartedWorkerIds := r.restartedWorkerIds ++ [old], frame := .running }) ?_ rfl
          (.inl ⟨old, hf⟩)⟩
      simp [setRollFrame, modifyRoll, hr]
  exact of_roll hr (.resume .rollExited) rfl (by simp) hact (rollExited_rollsOn t hact) hne

theorem returned (hr : s.roll = some r) {outcome : RollOutcome} (hf : r.frame = .returned outcome) :
    RollTurnsOn e s := by
  obtain ⟨t, hact, hroll⟩ : ∃ t, s.rollReturned e = some t ∧ t.roll = none := by
    simp only [rollReturned, hr, hf]
    cases outcome <;> exact ⟨_, rfl, rfl⟩
  refine of_roll hr (.resume .rollReturned) rfl (by simp) hact (rollReturned_rollsOn t hact) ?_
  rw [hroll]
  nofun

/-- The timer of a roll that is due moves it on. -/
theorem of_due (hr : s.roll = some r) {w : Wait} (hw : w ∈ (r.countdown e.cfg).waits)
    (hdue : w.deadline ≤ s.now) : RollTurnsOn e s := by
  cases hf : r.frame with
  | exitWait old deadline =>
    simp only [Roll.countdown, hf, List.mem_singleton] at hw
    subst hw
    exact exitWait hr hf hdue
  | exitGrace old deadline =>
    simp only [Roll.countdown, hf, List.mem_singleton] at hw
    subst hw
    exact exitGrace hr hf hdue
  | stagger deadline =>
    simp only [Roll.countdown, hf, List.mem_singleton] at hw
    subst hw
    exact stagger hr hf hdue
  | running | exited | returned => simp [Roll.countdown, hf] at hw

/-- A roll that waits for no timer has a continuation that is due. -/
theorem of_idle (hr : s.roll = some r) (harmed : r.ArmedBy e s.now)
    (hw : (r.countdown e.cfg).waits = []) : RollTurnsOn e s := by
  cases hf : r.frame with
  | running => simp [Roll.ArmedBy, hf] at harmed
  | exited old => exact exited hr hf
  | returned outcome => exact returned hr hf
  | exitWait | exitGrace | stagger => simp [Roll.countdown, hf] at hw

end RollTurnsOn

/-- **A roll is over in time.** From wherever it stands, and whatever the workers do: unless a
timer of the roll is late, it is over once what is left of the current wait is through, and
every worker that remains had its drain, its grace and its stagger. From whatever it waits for,
that is never more than the share of one worker more. -/
theorem roll_over_in_time (e : Host) (count : WorkerCount) (env : ProcessEnv) (s u : State)
    (r : Roll) (h : (orchestrator e count env).Reachable s) (hr : s.roll = some r)
    (hrun : (orchestrator e count env).Run
      (fun x a => x.roll.isSome = true ∧ rollOnTime e x a = true) s u)
    (hu : u.roll.isSome = true) :
    u.now ≤ (r.countdown e.cfg).endsBy s.now ∧
      (r.countdown e.cfg).endsBy s.now ≤ s.now + r.dueMs e.cfg := by
  let T := (r.countdown e.cfg).endsBy s.now
  have hdue : RollDue e T s := by
    intro q hq
    obtain rfl := Option.some.inj (hr.symm.trans hq)
    exact Countdown.overBy_iff.mpr le_rfl
  have hdue' : RollDue e T u :=
    run_preserves_from hrun h (fun x a y hw hx hok hact => hx.step hw hok.1 hok.2 hact) hdue
  obtain ⟨q, hq⟩ := Option.isSome_iff_exists.mp hu
  exact ⟨(hdue' q hq).now_le, Countdown.overBy_iff.mp (reachable_rollArmed h r hr).overBy⟩

/-- Two workers that never react, from five seconds into the first wait on: the bound is
reached, and it is those five seconds less than two whole shares. -/
theorem roll_over_in_time_two_workers : ∃ (s u : State) (r : Roll), s.roll = some r ∧
    u.roll.isSome = true ∧ u.now = (r.countdown {}).endsBy s.now ∧
    (r.countdown {}).endsBy s.now + 5000 = s.now + r.dueMs {} ∧
    u.now ≤ (r.countdown {}).endsBy s.now ∧
    (r.countdown {}).endsBy s.now ≤ s.now + r.dueMs {} := by
  let drainMs := ResolvedConfig.workerDrainBudgetMs {}
  obtain ⟨s, hs, htest⟩ := exists_reachable_of_any (orchestrator {} (.fixed 2) fun _ => none)
    [.run, .pluginsInstalled, .workerOnline 1, .workerOnline 2, .restartWorkers {}, .tick 5000]
    (fun s => s.roll.any fun r => ((orchestrator {} (.fixed 2) fun _ => none).exec
      (fun x a => x.roll.isSome && rollOnTime {} x a) s [.tick (drainMs - 5000), .timer .exitWait,
        .tick 2000, .timer .exitGrace, .resume .rollExited, .tick 1000, .timer .rollStagger,
        .tick drainMs, .timer .exitWait, .tick 2000, .timer .exitGrace, .resume .rollExited,
        .tick 1000]).any fun u : State =>
      u.roll.isSome && (decide (u.now = (r.countdown {}).endsBy s.now) &&
        decide ((r.countdown {}).endsBy s.now + 5000 = s.now + r.dueMs {}))) (by decide +kernel)
  obtain ⟨r, hr, hexec⟩ := (Option.any_eq_true _ _).mp htest
  obtain ⟨u, hrun, hu⟩ := exists_run_of_any _ s _ _ _ hexec
  obtain ⟨hroll, hrest⟩ := Bool.and_eq_true_iff.mp hu
  obtain ⟨hnow, hshare⟩ := Bool.and_eq_true_iff.mp hrest
  exact ⟨s, u, r, hr, hroll, of_decide_eq_true hnow, of_decide_eq_true hshare,
    roll_over_in_time {} (.fixed 2) (fun _ => none) s u r hs hr
      (hrun.mono fun _ _ hok => Bool.and_eq_true_iff.mp hok) hroll⟩

/-- **A roll is never stuck.** From wherever it stands, its own timers and continuations lead
it to its end, none of them late, without any worker or caller doing a thing. -/
theorem roll_never_stuck (e : Host) (count : WorkerCount) (env : ProcessEnv) (s : State)
    (h : (orchestrator e count env).Reachable s) (hs : s.process.exited = false) :
    ∃ u, (orchestrator e count env).Run
        (fun x a => a.ofRoll = true ∧ rollOnTime e x a = true) s u ∧ u.roll = none := by
  let ok (x : State) (a : Action) : Prop := a.ofRoll = true ∧ rollOnTime e x a = true
  let P (x : State) : Prop := (orchestrator e count env).Reachable x ∧ x.process.exited = false
  -- a turn of the roll is a step of the primary
  have hturn {x : State} (hx : P x) (ht : RollTurnsOn e x) :
      ∃ y, (orchestrator e count env).Run ok x y ∧ P y ∧ y.rollTurns < x.rollTurns := by
    obtain ⟨a, y, hown, htick, hact, hexit, hlt⟩ := ht
    have hstep : (orchestrator e count env).step x a = some y := by
      simp [orchestrator, hx.2, hact]
    have hontime : rollOnTime e x a = true := by
      cases a with
      | tick ms => exact absurd rfl (htick ms)
      | _ => rfl
    exact ⟨y, .tail .refl ⟨hown, hontime⟩ hstep, ⟨hx.1.step hstep, hexit.trans hx.2⟩, hlt⟩
  suffices hend : ∃ u, (orchestrator e count env).Run ok s u ∧ P u ∧ u.roll = none by
    obtain ⟨u, hrun, -, hover⟩ := hend
    exact ⟨u, hrun, hover⟩
  refine exists_run_over State.now State.rollTurns
    (fun x => (x.roll.map (Roll.countdown e.cfg)).getD ⟨[], 0⟩) ⟨h, hs⟩ ?_ ?_ ?_
  · intro x later hx hd hle hok
    obtain ⟨r, hr⟩ := Option.ne_none_iff_exists'.mp hd
    have hlater : x.now + (later - x.now) = later := by omega
    have hrun : (orchestrator e count env).Run ok x { x with now := later } := by
      refine .tail (a := .tick (later - x.now)) .refl ⟨rfl, ?_⟩ ?_
      · simp only [hr, Option.map_some, Option.getD_some] at hok
        simp [rollOnTime, hlater, hr, hok]
      · simp [orchestrator, hx.2, State.act, hlater]
    exact ⟨_, hrun, ⟨hrun.reachable_from hx.1, hx.2⟩, hd, rfl, rfl, rfl⟩
  · intro x w hx hd hw hdue
    obtain ⟨r, hr⟩ := Option.ne_none_iff_exists'.mp hd
    simp only [hr, Option.map_some, Option.getD_some] at hw
    exact hturn hx (RollTurnsOn.of_due hr hw hdue)
  · intro x hx hd hw
    obtain ⟨r, hr⟩ := Option.ne_none_iff_exists'.mp hd
    simp only [hr, Option.map_some, Option.getD_some] at hw
    exact hturn hx (RollTurnsOn.of_idle hr (reachable_rollArmed hx.1 r hr) hw)

theorem roll_never_stuck_two_workers : ∃ s u : State, s.roll.isSome = true ∧
    (orchestrator {} (.fixed 2) fun _ => none).Run
      (fun x a => a.ofRoll = true ∧ rollOnTime {} x a = true) s u ∧ u.roll = none := by
  obtain ⟨s, hs, htest⟩ := exists_reachable_of_any (orchestrator {} (.fixed 2) fun _ => none)
    [.run, .pluginsInstalled, .workerOnline 1, .workerOnline 2, .restartWorkers {}]
    (fun s => s.roll.isSome && !s.process.exited) (by decide +kernel)
  obtain ⟨hroll, hexited⟩ := Bool.and_eq_true_iff.mp htest
  obtain ⟨u, hrun, hu⟩ := roll_never_stuck {} (.fixed 2) (fun _ => none) s hs
    (by simpa using hexited)
  exact ⟨s, u, hroll, hrun, hu⟩

end ClusterKit
