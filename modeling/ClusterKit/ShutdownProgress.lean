import ClusterKit.Lib.Countdown
import ClusterKit.Frames

/-! Every shutdown ends. Its waits are bounded by timers of its own, so that it is over in a
time that its configuration fixes, whatever the workers do, and nothing leaves it stuck. -/

namespace ClusterKit

open State StepSystem

variable {e : Host} {s t : State} {a : Action}

/-! ## What moves a shutdown on -/

/-- One turn of a shutdown, from a frame at `s`. -/
inductive ShutdownTurn (e : Host) (s : State) : ShutdownFrame → ShutdownFrame → Prop
  | ackSettled (workers : List Nat) (waits : List (Nat × Nat)) (id : Nat) :
    ShutdownTurn e s (.acks workers waits) (.acks workers (waits.filter fun p => p.1 != id))
  | acksSettled (workers : List Nat) :
    ShutdownTurn e s (.acks workers []) (.exitWait workers (s.now + e.cfg.shutdown.timeoutMs))
  | exitWaitOver (workers : List Nat) (deadline : Nat)
      (h : workers.all s.isDead = true ∨ deadline ≤ s.now) :
    ShutdownTurn e s (.exitWait workers deadline)
      (.kills workers ((workers.filter fun id => !s.isDead id).map fun id =>
        (id, .afterSigterm (s.now + e.cfg.shutdown.sigtermDelayMs))))
  | killOver (workers : List Nat) (stages : List (Nat × KillStage)) (id : Nat) :
    ShutdownTurn e s (.kills workers stages) (.kills workers (dropStage stages id))
  | escalated (workers : List Nat) (stages : List (Nat × KillStage)) (id deadline : Nat)
      (h : stageOf stages id = some (.afterSigterm deadline)) (hdue : deadline ≤ s.now) :
    ShutdownTurn e s (.kills workers stages)
      (.kills workers ((id, .afterSigint (s.now + e.cfg.shutdown.sigintDelayMs)) ::
        dropStage stages id))
  | killsDone (workers : List Nat) :
    ShutdownTurn e s (.kills workers []) (.callbacks (s.now + e.cfg.shutdown.timeoutMs))
  | resolved (deadline : Nat) : ShutdownTurn e s (.callbacks deadline) .resolved

/-- A segment leaves the shutdown where it is, or takes one turn of it. -/
def ShutdownMoves (e : Host) (s t : State) : Prop :=
  t.shutdown = s.shutdown ∨
    ∃ frame, t.shutdown = { s.shutdown with frame := frame } ∧
      ShutdownTurn e s s.shutdown.frame frame

namespace ShutdownMoves

theorem turn {frame frame' : ShutdownFrame} (hf : s.shutdown.frame = frame)
    (ht : t.shutdown = { s.shutdown with frame := frame' }) (h : ShutdownTurn e s frame frame') :
    ShutdownMoves e s t :=
  .inr ⟨frame', ht, hf ▸ h⟩

theorem settleAck {x : State} (hx : x.shutdown = s.shutdown) (id : Nat) :
    ShutdownMoves e s (x.settleAck id) := by
  unfold State.settleAck
  split
  · rename_i workers waits hf
    refine .turn (hx ▸ hf) ?_ (.ackSettled workers waits id)
    rw [setShutdownFrame, hx]
  · exact .inl hx

theorem onAckMessage {x : State} (hx : x.shutdown = s.shutdown) (id : Nat) (msg : Option Message) :
    ShutdownMoves e s (x.onAckMessage e id msg) := by
  unfold State.onAckMessage
  split
  · exact settleAck hx id
  · exact .inl hx

theorem ackTimeoutElapsed (id : Nat) : ∀ t ∈ s.ackTimeoutElapsed id, ShutdownMoves e s t := by
  unfold State.ackTimeoutElapsed
  split
  · split
    · rintro _ ⟨⟩
      exact settleAck (s := s) rfl id
    · rintro _ ⟨⟩
  · rintro _ ⟨⟩

theorem acksSettled : ∀ t ∈ s.acksSettled e, ShutdownMoves e s t := by
  unfold State.acksSettled
  split
  · rename_i hf
    rintro _ ⟨⟩
    exact .turn hf rfl (.acksSettled _)
  · rintro _ ⟨⟩

theorem exitWaitOver : ∀ t ∈ s.exitWaitOver e, ShutdownMoves e s t := by
  unfold State.exitWaitOver
  split
  · rename_i hf
    split
    · rename_i hover
      rw [Bool.or_eq_true, decide_eq_true_eq] at hover
      rintro _ ⟨⟩
      exact .turn hf rfl (.exitWaitOver _ _ hover)
    · rintro _ ⟨⟩
  · rintro _ ⟨⟩

theorem killDelayElapsed (id : Nat) : ∀ t ∈ s.killDelayElapsed e id, ShutdownMoves e s t := by
  unfold State.killDelayElapsed
  split
  · rename_i workers stages hf
    split
    · rename_i deadline hstage
      split
      · rename_i hdue
        dsimp only
        split <;> rintro _ ⟨⟩
        · exact .turn hf rfl (.killOver workers stages id)
        · exact .turn hf rfl (.escalated workers stages id deadline hstage hdue)
      · rintro _ ⟨⟩
    · split
      · dsimp only
        split <;> rintro _ ⟨⟩ <;> exact .turn hf rfl (.killOver workers stages id)
      · rintro _ ⟨⟩
    · rintro _ ⟨⟩
  · rintro _ ⟨⟩

theorem killsDone : ∀ t ∈ s.killsDone e, ShutdownMoves e s t := by
  unfold State.killsDone
  split
  · rename_i hf
    rintro _ ⟨⟩
    exact .turn hf rfl (.killsDone _)
  · rintro _ ⟨⟩

theorem shutdownExitElapsed : ∀ t ∈ s.shutdownExitElapsed, ShutdownMoves e s t := by
  intro t ht
  rw [shutdownExitElapsed_eq ht]
  exact .inl rfl

theorem shutdownResolved : ∀ t ∈ s.shutdownResolved, ShutdownMoves e s t := by
  unfold State.shutdownResolved
  split
  · rename_i hf
    rintro _ ⟨⟩
    exact .turn hf rfl (.resolved _)
  · rintro _ ⟨⟩

theorem fire {timer : Timer} (h : s.fire e timer = some t) : ShutdownMoves e s t := by
  cases fire_fired h with
  | aside hsame => exact .inl (shutdown_of_suspended hsame)
  | wedgedWatch hwatch => exact .inl hwatch.shutdown
  | exitWait hwaits | exitGrace hwaits => exact .inl hwaits.rollsOn.shutdown
  | rollStagger hroll => exact .inl hroll.shutdown
  | ackTimeout id => exact ackTimeoutElapsed id t h
  | killDelay id => exact killDelayElapsed id t h
  | shutdownExit => exact shutdownExitElapsed t h

theorem resume {c : Continuation} (h : s.resume e c = some t) : ShutdownMoves e s t := by
  cases resume_resumed h with
  | restartQueue hsame => exact .inl (shutdown_of_suspended hsame)
  | rollExited hroll | rollReturned hroll => exact .inl hroll.shutdown
  | acksSettled => exact acksSettled t h
  | exitWaitOver => exact exitWaitOver t h
  | killsDone => exact killsDone t h
  | callbacksDone => exact shutdownResolved t h

theorem workerExit {id : Nat} {code : Option Int} {signal : Option String}
    (h : s.workerExit e id code signal = some t) : ShutdownMoves e s t := by
  unfold State.workerExit at h
  split at h
  · cases h
  · have hrolled : ((((s.markDead id).onReplacementExit e id).onRolledWorkerExit id).clearKillTimers
        id).shutdown = s.shutdown :=
      (onRolledWorkerExit_rollWaits id _).rollsOn.shutdown.trans
        (shutdown_of_suspended (suspended_of_still (onReplacementExit_still id (s.markDead id))))
    have hheard := settleAck (e := e) hrolled id
    dsimp only at h
    split at h <;> cases h
    · exact hheard
    · have hsame := (handleWorkerExit_hearsOn (e := e) id code signal
        (((s.markDead id).workerExitListeners e id).cleanupWorker id)).shutdown
      unfold ShutdownMoves
      rw [hsame]
      exact hheard

end ShutdownMoves

theorem act_shutdown (hs : ∀ signal, a = .shutdownPrimary signal → s.isShuttingDown = true)
    (h : s.act e a = some t) : ShutdownMoves e s t := by
  cases act_acted h with
  | aside hsame => exact .inl (shutdown_of_suspended hsame)
  | tick ms => cases h; exact .inl rfl
  | pluginsInstalled hwatch => exact .inl hwatch.shutdown
  | restartWorkers _ hroll => exact .inl hroll.shutdown
  | shutdownPrimary signal =>
    cases h
    rw [shutdownPrimary_ignored signal (hs signal rfl)]
    exact .inl rfl
  | workerExit => exact ShutdownMoves.workerExit h
  | workerDisconnected id =>
    simp only [State.act, workerDisconnected] at h
    split at h <;> cases h
    exact ShutdownMoves.settleAck (s := s) (x := s.modifyWorker id _) rfl id
  | workerMessage id msg =>
    simp only [State.act, workerMessage] at h
    split at h <;> cases h
    exact ShutdownMoves.onAckMessage (onHealthMessage_hearsOn id msg s).shutdown id msg
  | workerError id => cases h; exact ShutdownMoves.settleAck (s := s) rfl id
  | timer => exact ShutdownMoves.fire h
  | resume => exact ShutdownMoves.resume h

/-! ## What a shutdown waits for -/

/-- The longest a shutdown takes, as it is configured. -/
def ResolvedConfig.shutdownMs (cfg : ResolvedConfig) : Nat :=
  cfg.shutdown.ackTimeoutMs + cfg.shutdown.timeoutMs + cfg.shutdown.sigtermDelayMs +
    cfg.shutdown.sigintDelayMs + cfg.shutdown.timeoutMs

def KillStage.wait (cfg : ResolvedConfig) : KillStage → Wait
  | .afterSigterm deadline => ⟨deadline, cfg.shutdown.sigintDelayMs⟩
  | .afterSigint deadline => ⟨deadline, 0⟩

/-- The timers of a suspended shutdown, and what is still to come. -/
def ShutdownFrame.countdown (cfg : ResolvedConfig) : ShutdownFrame → Countdown
  | .idle => ⟨[], 0⟩
  | .acks _ waits =>
    ⟨waits.map fun p => ⟨p.2, 0⟩, cfg.shutdown.timeoutMs + cfg.shutdown.sigtermDelayMs +
      cfg.shutdown.sigintDelayMs + cfg.shutdown.timeoutMs⟩
  | .exitWait _ deadline =>
    ⟨[⟨deadline, 0⟩], cfg.shutdown.sigtermDelayMs + cfg.shutdown.sigintDelayMs +
      cfg.shutdown.timeoutMs⟩
  | .kills _ stages => ⟨stages.map fun p => p.2.wait cfg, cfg.shutdown.timeoutMs⟩
  | .callbacks deadline => ⟨[⟨deadline, 0⟩], 0⟩
  | .resolved => ⟨[], 0⟩

/-- No worker is waited for twice. -/
def ShutdownFrame.Distinct : ShutdownFrame → Prop
  | .acks workers _ => workers.Nodup
  | .exitWait workers _ => workers.Nodup
  | .kills _ stages => (stages.map Prod.fst).Nodup
  | .idle => True
  | .callbacks _ => True
  | .resolved => True

namespace ShutdownTurn

variable {frame frame' : ShutdownFrame} {T : Nat}

/-- No turn of a shutdown puts its end off. -/
theorem overBy (h : ShutdownTurn e s frame frame')
    (ho : (frame.countdown e.cfg).OverBy s.now T) : (frame'.countdown e.cfg).OverBy s.now T := by
  cases h with
  | ackSettled workers waits id =>
    refine ho.next le_rfl fun w hw => .inl ?_
    obtain ⟨p, hp, rfl⟩ := List.mem_map.mp hw
    exact List.mem_map.mpr ⟨p, List.mem_of_mem_filter hp, rfl⟩
  | acksSettled workers =>
    refine ho.next (by simp only [ShutdownFrame.countdown]; omega) fun w hw => .inr (.inl ?_)
    obtain rfl := List.mem_singleton.mp hw
    simp only [ShutdownFrame.countdown]
    omega
  | exitWaitOver workers deadline hover =>
    refine ho.next (by simp [ShutdownFrame.countdown]) fun w hw => .inr (.inl ?_)
    obtain ⟨p, hp, rfl⟩ := List.mem_map.mp hw
    obtain ⟨id, -, rfl⟩ := List.mem_map.mp hp
    simp [ShutdownFrame.countdown, KillStage.wait]
    omega
  | killOver workers stages id =>
    refine ho.next le_rfl fun w hw => .inl ?_
    obtain ⟨p, hp, rfl⟩ := List.mem_map.mp hw
    exact List.mem_map.mpr ⟨p, List.mem_of_mem_filter hp, rfl⟩
  | escalated workers stages id deadline hstage hdue =>
    refine ho.next le_rfl fun w hw => ?_
    obtain ⟨p, hp, rfl⟩ := List.mem_map.mp hw
    rcases List.mem_cons.mp hp with rfl | hp
    · -- the second delay was counted behind the first
      obtain ⟨q, hq, hstage⟩ := Option.map_eq_some_iff.mp hstage
      refine .inr (.inr ⟨_, List.mem_map.mpr ⟨q, List.mem_of_find?_eq_some hq, rfl⟩, ?_⟩)
      simp [ShutdownFrame.countdown, KillStage.wait, hstage]
    · exact .inl (List.mem_map.mpr ⟨p, List.mem_of_mem_filter hp, rfl⟩)
  | killsDone workers =>
    refine ho.next (by simp [ShutdownFrame.countdown]) fun w hw => .inr (.inl ?_)
    obtain rfl := List.mem_singleton.mp hw
    simp [ShutdownFrame.countdown]
  | resolved deadline => exact ho.next le_rfl fun w hw => absurd hw List.not_mem_nil

theorem ne_idle (h : ShutdownTurn e s frame frame') : frame' ≠ .idle := by
  cases h <;> nofun

theorem distinct (h : ShutdownTurn e s frame frame') (hd : frame.Distinct) : frame'.Distinct := by
  have hdrop {stages : List (Nat × KillStage)} (hn : (stages.map Prod.fst).Nodup) (id : Nat) :
      ((dropStage stages id).map Prod.fst).Nodup :=
    hn.sublist (List.filter_sublist.map Prod.fst)
  cases h with
  | ackSettled => exact hd
  | acksSettled => exact hd
  | exitWaitOver workers deadline hover =>
    have hsame : ((workers.filter fun id => !s.isDead id).map fun id =>
        (id, KillStage.afterSigterm (s.now + e.cfg.shutdown.sigtermDelayMs))).map Prod.fst =
          workers.filter fun id => !s.isDead id := by
      rw [List.map_map]
      exact List.map_id _
    show (List.map Prod.fst _).Nodup
    rw [hsame]
    exact hd.filter _
  | killOver workers stages id => exact hdrop hd id
  | escalated workers stages id deadline hstage hdue =>
    refine List.nodup_cons.mpr ⟨fun hmem => ?_, hdrop hd id⟩
    obtain ⟨p, hp, hid⟩ := List.mem_map.mp hmem
    simpa [hid] using (List.mem_filter.mp hp).2
  | killsDone => trivial
  | resolved => trivial

end ShutdownTurn

/-- A shutdown has begun, waits for each worker once, and is over in `shutdownMs`. -/
structure ShutdownBounded (e : Host) (s : State) : Prop where
  begun : s.isShuttingDown = true → s.shutdown.frame ≠ .idle
  distinct : s.shutdown.frame.Distinct
  overBy : (s.shutdown.frame.countdown e.cfg).OverBy s.now (s.now + e.cfg.shutdownMs)

namespace ShutdownBounded

theorem moves (h : ShutdownBounded e s) (hnow : t.now = s.now) (hm : ShutdownMoves e s t) :
    ShutdownBounded e t := by
  rcases hm with heq | ⟨frame, heq, hturn⟩
  · constructor
    case begun => rw [isShuttingDown, heq]; exact h.begun
    case distinct => rw [heq]; exact h.distinct
    case overBy => rw [heq, hnow]; exact h.overBy
  · constructor
    case begun =>
      rw [heq]
      exact fun _ => hturn.ne_idle
    case distinct => rw [heq]; exact hturn.distinct h.distinct
    case overBy => rw [heq, hnow]; exact hturn.overBy h.overBy

theorem later (h : ShutdownBounded e s) (ms : Nat) :
    ShutdownBounded e { s with now := s.now + ms } :=
  ⟨h.begun, h.distinct, h.overBy.late (Nat.le_add_right _ _)⟩

theorem entered (signal : String) (hs : s.isShuttingDown = false) :
    ShutdownBounded e (s.shutdownPrimary e signal) := by
  have he := shutdownPrimary_entered (e := e) signal hs
  constructor
  case begun => rw [he.shutdown]; nofun
  case distinct =>
    rw [he.shutdown]
    exact (List.nodup_range' 1).filter _
  case overBy =>
    rw [he.shutdown, shutdownPrimary_eq signal hs]
    refine ⟨?_, fun w hw => ?_⟩
    · simp only [ShutdownFrame.countdown, ResolvedConfig.shutdownMs]
      omega
    · obtain ⟨p, hp, rfl⟩ := List.mem_map.mp hw
      obtain ⟨id, -, rfl⟩ := List.mem_map.mp hp
      simp only [ShutdownFrame.countdown, ResolvedConfig.shutdownMs]
      omega

theorem act (h : ShutdownBounded e s) (hw : WellFormed s) (hact : s.act e a = some t) :
    ShutdownBounded e t := by
  by_cases htick : ∃ ms, a = .tick ms
  · obtain ⟨ms, rfl⟩ := htick
    cases hact
    exact h.later ms
  by_cases henter : ∃ signal, a = .shutdownPrimary signal ∧ s.isShuttingDown = false
  · obtain ⟨signal, rfl, hs⟩ := henter
    cases hact
    exact entered signal hs
  · have hnow := act_now_eq hw (fun ms ha => htick ⟨ms, ha⟩) hact
    refine h.moves hnow (act_shutdown (fun signal ha => ?_) hact)
    cases hs : s.isShuttingDown with
    | true => rfl
    | false => exact absurd ⟨signal, ha, hs⟩ henter

end ShutdownBounded

theorem reachable_shutdownBounded {count : WorkerCount} {env : ProcessEnv}
    (h : (orchestrator e count env).Reachable s) : ShutdownBounded e s := by
  refine run_preserves h ⟨nofun, trivial, ?_⟩ fun x a y hw hx _ => hx.act hw
  exact ⟨Nat.le_add_right _ _, fun w hw => absurd hw List.not_mem_nil⟩

/-! ## A shutdown is over in time -/

/-- No timer of the shutdown is late, and what it has to do at once it does at once. -/
def shutdownOnTime (e : Host) (s : State) : Action → Bool
  | .tick ms =>
    decide (ms = 0) || decide (s.shutdown.frame = .resolved) ||
      (s.shutdown.frame.countdown e.cfg).allows (s.now + ms)
  | _ => true

/-- The shutdown that is under way is over by the time `T`. -/
def ShutdownDue (e : Host) (T : Nat) (s : State) : Prop :=
  s.isShuttingDown = true ∧
    (s.shutdown.frame ≠ .resolved → (s.shutdown.frame.countdown e.cfg).OverBy s.now T)

theorem ShutdownMoves.shutting (h : ShutdownMoves e s t) : t.isShuttingDown = s.isShuttingDown := by
  rcases h with heq | ⟨frame, heq, -⟩ <;> rw [isShuttingDown, heq] <;> rfl

theorem ShutdownDue.step {T : Nat} (h : ShutdownDue e T s) (hw : WellFormed s)
    (hok : shutdownOnTime e s a = true) (hact : s.act e a = some t) : ShutdownDue e T t := by
  have hmoves := act_shutdown (fun _ _ => h.1) hact
  refine ⟨hmoves.shutting.trans h.1, fun hres => ?_⟩
  by_cases htick : ∃ ms, a = .tick ms
  · obtain ⟨ms, rfl⟩ := htick
    cases hact
    replace hres : s.shutdown.frame ≠ .resolved := hres
    simp only [shutdownOnTime, Bool.or_eq_true, decide_eq_true_eq] at hok
    rcases hok with (rfl | hdone) | hok
    · exact h.2 hres
    · exact absurd hdone hres
    · exact (h.2 hres).wait hok
  · have hnow : t.now = s.now := act_now_eq hw (fun ms ha => htick ⟨ms, ha⟩) hact
    rcases hmoves with heq | ⟨frame, heq, hturn⟩
    · rw [heq] at hres ⊢
      rw [hnow]
      exact h.2 hres
    · rw [heq, hnow]
      refine hturn.overBy (h.2 fun hdone => ?_)
      rw [hdone] at hturn
      cases hturn

/-! ## A shutdown is not stuck -/

/-- The segments of the shutdown itself, callbacks that return excepted. -/
def Action.ofShutdown : Action → Bool
  | .tick _ => true
  | .timer (.ackTimeout _) => true
  | .timer (.killDelay _) => true
  | .timer .shutdownExit => true
  | .resume .acksSettled => true
  | .resume .exitWaitOver => true
  | .resume .killsDone => true
  | _ => false

def State.shutdownOver (s : State) : Prop :=
  s.process.exited = true ∨ s.shutdown.frame = .resolved

def KillStage.turns : KillStage → Nat
  | .afterSigterm _ => 2
  | .afterSigint _ => 1

def stageTurns (stages : List (Nat × KillStage)) : Nat := (stages.map fun p => p.2.turns).sum

/-- The turns that a shutdown still takes, at most. -/
def ShutdownFrame.turns : ShutdownFrame → Nat
  | .idle => 0
  | .acks workers waits => waits.length + (2 * workers.length + 4)
  | .exitWait workers _ => 2 * workers.length + 3
  | .kills _ stages => stageTurns stages + 2
  | .callbacks _ => 1
  | .resolved => 0

def State.shutdownTurns (s : State) : Nat :=
  if s.process.exited then 0 else s.shutdown.frame.turns

theorem stageTurns_dropStage_le (stages : List (Nat × KillStage)) (id : Nat) :
    stageTurns (dropStage stages id) ≤ stageTurns stages := by
  induction stages with
  | nil => exact le_rfl
  | cons q stages ih =>
    unfold dropStage at ih ⊢
    rw [List.filter_cons]
    split <;> simp only [stageTurns, List.map_cons, List.sum_cons] at ih ⊢ <;> omega

theorem stageTurns_dropStage {stages : List (Nat × KillStage)} {p : Nat × KillStage}
    (hp : p ∈ stages) : stageTurns (dropStage stages p.1) + p.2.turns ≤ stageTurns stages := by
  induction stages with
  | nil => cases hp
  | cons q stages ih =>
    by_cases hq : q.1 = p.1
    · have hdrop : dropStage (q :: stages) p.1 = dropStage stages p.1 := by
        simp [dropStage, hq]
      have hle := stageTurns_dropStage_le stages p.1
      rw [hdrop]
      rcases List.mem_cons.mp hp with rfl | hp
      · simp only [stageTurns, List.map_cons, List.sum_cons] at hle ⊢
        omega
      · have hrest := ih hp
        simp only [stageTurns, List.map_cons, List.sum_cons] at hrest ⊢
        omega
    · have hdrop : dropStage (q :: stages) p.1 = q :: dropStage stages p.1 := by
        simp [dropStage, hq]
      have hrest := ih ((List.mem_cons.mp hp).resolve_left fun h => hq (h ▸ rfl))
      rw [hdrop]
      simp only [stageTurns, List.map_cons, List.sum_cons] at hrest ⊢
      omega

/-- The stage of a worker that is waited for once. -/
theorem stageOf_eq {stages : List (Nat × KillStage)} (hn : (stages.map Prod.fst).Nodup)
    {p : Nat × KillStage} (hp : p ∈ stages) : stageOf stages p.1 = some p.2 := by
  induction stages with
  | nil => cases hp
  | cons q stages ih =>
    obtain ⟨hfresh, hn⟩ := List.nodup_cons.mp hn
    unfold stageOf at ih ⊢
    rcases List.mem_cons.mp hp with rfl | hp
    · simp
    · have hne : q.1 ≠ p.1 := fun h => hfresh (h ▸ List.mem_map.mpr ⟨p, hp, rfl⟩)
      simpa [List.find?_cons, hne] using ih hn hp

/-- The next turn of the shutdown is one of its own. -/
def TurnsOn (e : Host) (s : State) : Prop :=
  ∃ a t, a.ofShutdown = true ∧ (∀ ms, a ≠ .tick ms) ∧ s.act e a = some t ∧
    t.shutdownTurns < s.shutdownTurns

namespace TurnsOn

theorem of_frame (hx : s.process.exited = false) (a : Action) (hown : a.ofShutdown = true)
    (htick : ∀ ms, a ≠ .tick ms) (hact : s.act e a = some t)
    (hlt : t.shutdown.frame.turns < s.shutdown.frame.turns) : TurnsOn e s := by
  refine ⟨a, t, hown, htick, hact, ?_⟩
  simp only [shutdownTurns, hx]
  split
  · exact (Nat.zero_le _).trans_lt hlt
  · exact hlt

theorem acks (hx : s.process.exited = false) {workers : List Nat} {waits : List (Nat × Nat)}
    (hf : s.shutdown.frame = .acks workers waits) {p : Nat × Nat} (hp : p ∈ waits)
    (hdue : p.2 ≤ s.now) : TurnsOn e s := by
  have hany : (waits.any fun q => q.1 == p.1 && decide (q.2 ≤ s.now)) = true :=
    List.any_eq_true.mpr ⟨p, hp, by simpa using hdue⟩
  have hact : s.act e (.timer (.ackTimeout p.1)) = some (s.settleAckDisconnecting p.1) := by
    show s.ackTimeoutElapsed p.1 = _
    simp only [ackTimeoutElapsed, hf, if_pos hany]
  have hframe : (s.settleAckDisconnecting p.1).shutdown.frame =
      .acks workers (waits.filter fun q => q.1 != p.1) := by
    simp only [settleAckDisconnecting, settleAck, hf]
    rfl
  have hlt : (waits.filter fun q => q.1 != p.1).length < waits.length :=
    List.length_filter_lt_length_iff_exists.mpr ⟨p, hp, by simp⟩
  refine of_frame hx (.timer (.ackTimeout p.1)) rfl (by simp) hact ?_
  rw [hframe, hf]
  exact Nat.add_lt_add_right hlt _

theorem exitWait (hx : s.process.exited = false) {workers : List Nat} {deadline : Nat}
    (hf : s.shutdown.frame = .exitWait workers deadline) (hdue : deadline ≤ s.now) :
    TurnsOn e s := by
  have hover : (workers.all s.isDead || decide (deadline ≤ s.now)) = true := by
    simpa using .inr hdue
  obtain ⟨t, hact, hframe⟩ : ∃ t, s.exitWaitOver e = some t ∧
      t.shutdown.frame = .kills workers ((workers.filter fun id => !s.isDead id).map fun id =>
        (id, .afterSigterm (s.now + e.cfg.shutdown.sigtermDelayMs))) := by
    simp only [exitWaitOver, hf, if_pos hover]
    exact ⟨_, rfl, rfl⟩
  have htwice (survivors : List Nat) (d : Nat) :
      stageTurns (survivors.map fun id => (id, .afterSigterm d)) = 2 * survivors.length := by
    induction survivors with
    | nil => rfl
    | cons id rest ih =>
      simp only [stageTurns, List.map_cons, List.sum_cons, List.length_cons,
        KillStage.turns] at ih ⊢
      omega
  have hle := List.length_filter_le (fun id => !s.isDead id) workers
  refine of_frame hx (.resume .exitWaitOver) rfl (by simp) hact ?_
  rw [hframe, hf]
  simp only [ShutdownFrame.turns, htwice]
  omega

theorem kills (hx : s.process.exited = false) {workers : List Nat}
    {stages : List (Nat × KillStage)} (hf : s.shutdown.frame = .kills workers stages)
    (hn : (stages.map Prod.fst).Nodup) {p : Nat × KillStage} (hp : p ∈ stages)
    (hdue : (p.2.wait e.cfg).deadline ≤ s.now) : TurnsOn e s := by
  have hstage := stageOf_eq hn hp
  have hdrop := stageTurns_dropStage hp
  obtain ⟨id, stage⟩ := p
  obtain ⟨t, stages', hact, hframe, hlt⟩ : ∃ t stages', s.killDelayElapsed e id = some t ∧
      t.shutdown.frame = .kills workers stages' ∧ stageTurns stages' < stageTurns stages := by
    cases stage with
    | afterSigterm deadline =>
      replace hdue : deadline ≤ s.now := hdue
      simp only [killDelayElapsed, hf, hstage, if_pos hdue]
      split
      · refine ⟨_, dropStage stages id, rfl, rfl, ?_⟩
        simp only [KillStage.turns] at hdrop
        omega
      · refine ⟨_, (id, .afterSigint (s.now + e.cfg.shutdown.sigintDelayMs)) ::
          dropStage stages id, rfl, rfl, ?_⟩
        simp only [stageTurns, List.map_cons, List.sum_cons, KillStage.turns] at hdrop ⊢
        omega
    | afterSigint deadline =>
      replace hdue : deadline ≤ s.now := hdue
      simp only [killDelayElapsed, hf, hstage, if_pos hdue]
      simp only [KillStage.turns] at hdrop
      split <;> exact ⟨_, dropStage stages id, rfl, rfl, by omega⟩
  refine of_frame hx (.timer (.killDelay id)) rfl (by simp) hact ?_
  rw [hframe, hf]
  exact Nat.add_lt_add_right hlt _

theorem callbacks (hx : s.process.exited = false) {deadline : Nat}
    (hf : s.shutdown.frame = .callbacks deadline) (hdue : deadline ≤ s.now) : TurnsOn e s := by
  have hact : s.shutdownExitElapsed =
      some { s with process := { s.process with exitCode := 1, exited := true } } := by
    simp only [shutdownExitElapsed, hf, if_pos hdue]
  refine ⟨.timer .shutdownExit, _, rfl, by simp, hact, ?_⟩
  simp [shutdownTurns, hx, hf, ShutdownFrame.turns]

/-- A timer of the shutdown that is due moves it on. -/
theorem of_due (hb : ShutdownBounded e s) (hx : s.process.exited = false) {w : Wait}
    (hw : w ∈ (s.shutdown.frame.countdown e.cfg).waits) (hdue : w.deadline ≤ s.now) :
    TurnsOn e s := by
  have hn := hb.distinct
  cases hf : s.shutdown.frame with
  | idle | resolved =>
    rw [hf] at hw
    cases hw
  | acks workers waits =>
    rw [hf] at hw
    obtain ⟨p, hp, rfl⟩ := List.mem_map.mp hw
    exact acks hx hf hp hdue
  | exitWait workers deadline =>
    rw [hf] at hw
    obtain rfl := List.mem_singleton.mp hw
    exact exitWait hx hf hdue
  | kills workers stages =>
    rw [hf] at hw hn
    obtain ⟨p, hp, rfl⟩ := List.mem_map.mp hw
    exact kills hx hf hn hp hdue
  | callbacks deadline =>
    rw [hf] at hw
    obtain rfl := List.mem_singleton.mp hw
    exact callbacks hx hf hdue

/-- A shutdown that waits for no timer has a continuation that is due. -/
theorem of_idle (hb : ShutdownBounded e s) (hs : s.isShuttingDown = true) (hd : ¬s.shutdownOver)
    (hw : (s.shutdown.frame.countdown e.cfg).waits = []) : TurnsOn e s := by
  obtain ⟨hx, hres⟩ := not_or.mp hd
  replace hx := Bool.not_eq_true _ ▸ hx
  cases hf : s.shutdown.frame with
  | idle => exact absurd hf (hb.begun hs)
  | resolved => exact absurd hf hres
  | exitWait | callbacks =>
    rw [hf] at hw
    cases hw
  | acks workers waits =>
    rw [hf] at hw
    obtain rfl := List.map_eq_nil_iff.mp hw
    obtain ⟨t, hact, hframe⟩ : ∃ t, s.acksSettled e = some t ∧
        t.shutdown.frame = .exitWait workers (s.now + e.cfg.shutdown.timeoutMs) := by
      simp only [acksSettled, hf]
      exact ⟨_, rfl, rfl⟩
    refine of_frame hx (.resume .acksSettled) rfl (by simp) hact ?_
    rw [hframe, hf]
    simp [ShutdownFrame.turns]
  | kills workers stages =>
    rw [hf] at hw
    obtain rfl := List.map_eq_nil_iff.mp hw
    obtain ⟨t, hact, hframe⟩ : ∃ t, s.killsDone e = some t ∧
        t.shutdown.frame = .callbacks (s.now + e.cfg.shutdown.timeoutMs) := by
      simp only [killsDone, hf]
      exact ⟨_, rfl, rfl⟩
    refine of_frame hx (.resume .killsDone) rfl (by simp) hact ?_
    rw [hframe, hf]
    simp [ShutdownFrame.turns]

end TurnsOn

/-- Time that the shutdown allows passes. -/
theorem exists_shutdown_wait {count : WorkerCount} {env : ProcessEnv} {later : Nat}
    (hd : ¬s.shutdownOver) (hle : s.now ≤ later)
    (hok : (s.shutdown.frame.countdown e.cfg).allows later = true) :
    (orchestrator e count env).Run (fun x a => a.ofShutdown = true ∧ shutdownOnTime e x a = true)
      s { s with now := later } := by
  have hx : s.process.exited = false := by simpa using (not_or.mp hd).1
  have hlater : s.now + (later - s.now) = later := by omega
  refine .tail (a := .tick (later - s.now)) .refl ⟨rfl, ?_⟩ ?_
  · simp [shutdownOnTime, hlater, hok]
  · simp [orchestrator, hx, State.act, hlater]

/-- **A shutdown is over in time.** From wherever it stands, and whatever the cluster and the
callers do meanwhile: unless a timer of the shutdown is late, it has resolved or exited the
process once `shutdownMs` are over. -/
theorem shutdown_over_in_time (e : Host) (count : WorkerCount) (env : ProcessEnv) (s u : State)
    (h : (orchestrator e count env).Reachable s) (hs : s.isShuttingDown = true)
    (hrun : (orchestrator e count env).Run (fun x a => shutdownOnTime e x a = true) s u)
    (hres : u.shutdown.frame ≠ .resolved) : u.now ≤ s.now + e.cfg.shutdownMs := by
  have hdue : ShutdownDue e (s.now + e.cfg.shutdownMs) s :=
    ⟨hs, fun _ => (reachable_shutdownBounded h).overBy⟩
  have hdue' : ShutdownDue e (s.now + e.cfg.shutdownMs) u :=
    run_preserves_from hrun h (fun x a y hw hx hok hact => hx.step hw hok hact) hdue
  exact (hdue'.2 hres).now_le

/-- A worker that never reacts, and callbacks that never return: the bound is reached. -/
theorem shutdown_over_in_time_deaf : ∃ s u : State, s.isShuttingDown = true ∧
    u.shutdown.frame ≠ .resolved ∧ u.now = s.now + ResolvedConfig.shutdownMs {} ∧
    u.now ≤ s.now + ResolvedConfig.shutdownMs {} := by
  obtain ⟨s, hs, htest⟩ := exists_reachable_of_any (orchestrator {} (.fixed 1) fun _ => none)
    [.run, .pluginsInstalled, .workerOnline 1, .shutdownPrimary "SIGTERM"]
    (fun s => s.isShuttingDown && (((orchestrator {} (.fixed 1) fun _ => none).exec
      (shutdownOnTime {}) s [.tick 3000, .timer (.ackTimeout 1), .resume .acksSettled, .tick 12000,
        .resume .exitWaitOver, .tick 2000, .timer (.killDelay 1), .tick 1000,
        .timer (.killDelay 1), .resume .killsDone, .tick 12000]).any fun u : State =>
      decide (u.shutdown.frame ≠ .resolved) &&
        decide (u.now = s.now + ResolvedConfig.shutdownMs {}))) (by decide +kernel)
  obtain ⟨hshut, hrun⟩ := Bool.and_eq_true_iff.mp htest
  obtain ⟨u, hrun, hu⟩ := exists_run_of_any _ s (shutdownOnTime {}) _ _ hrun
  obtain ⟨hres, hnow⟩ := Bool.and_eq_true_iff.mp hu
  exact ⟨s, u, hshut, of_decide_eq_true hres, of_decide_eq_true hnow,
    shutdown_over_in_time {} (.fixed 1) (fun _ => none) s u hs hshut hrun (of_decide_eq_true hres)⟩

/-- **A shutdown is never stuck.** From wherever it stands, its own timers and continuations
lead it to its end, none of them late, without any worker, callback or caller doing a thing. -/
theorem shutdown_never_stuck (e : Host) (count : WorkerCount) (env : ProcessEnv) (s : State)
    (h : (orchestrator e count env).Reachable s) (hs : s.isShuttingDown = true) :
    ∃ u, (orchestrator e count env).Run
        (fun x a => a.ofShutdown = true ∧ shutdownOnTime e x a = true) s u ∧
      (u.process.exited = true ∨ u.shutdown.frame = .resolved) := by
  let P (x : State) : Prop := (orchestrator e count env).Reachable x ∧ x.isShuttingDown = true
  -- a turn of the shutdown is a step of the primary
  have hturn {x : State} (hx : P x) (hd : ¬x.shutdownOver) (ht : TurnsOn e x) :
      ∃ y, (orchestrator e count env).Run
          (fun x a => a.ofShutdown = true ∧ shutdownOnTime e x a = true) x y ∧
        P y ∧ y.shutdownTurns < x.shutdownTurns := by
    obtain ⟨a, y, hown, htick, hact, hlt⟩ := ht
    have hstep : (orchestrator e count env).step x a = some y := by
      simp [orchestrator, (not_or.mp hd).1, hact]
    have hontime : shutdownOnTime e x a = true := by
      cases a with
      | tick ms => exact absurd rfl (htick ms)
      | _ => rfl
    have hshut := (act_shutdown (fun _ _ => hx.2) hact).shutting.trans hx.2
    exact ⟨y, .tail .refl ⟨hown, hontime⟩ hstep, ⟨hx.1.step hstep, hshut⟩, hlt⟩
  suffices hend : ∃ u, (orchestrator e count env).Run
      (fun x a => a.ofShutdown = true ∧ shutdownOnTime e x a = true) s u ∧ P u ∧ u.shutdownOver by
    obtain ⟨u, hrun, -, hover⟩ := hend
    exact ⟨u, hrun, hover⟩
  refine exists_run_over State.now State.shutdownTurns
    (fun x => x.shutdown.frame.countdown e.cfg) ⟨h, hs⟩ ?_ ?_ ?_
  · intro x later hx hd hle hok
    have hrun : (orchestrator e count env).Run
        (fun x a => a.ofShutdown = true ∧ shutdownOnTime e x a = true) x { x with now := later } :=
      exists_shutdown_wait hd hle hok
    exact ⟨_, hrun, ⟨hrun.reachable_from hx.1, hx.2⟩, hd, rfl, rfl, rfl⟩
  · intro x w hx hd hw hdue
    have hexit : x.process.exited = false := by simpa using (not_or.mp hd).1
    exact hturn hx hd (TurnsOn.of_due (reachable_shutdownBounded hx.1) hexit hw hdue)
  · intro x hx hd hw
    exact hturn hx hd (TurnsOn.of_idle (reachable_shutdownBounded hx.1) hx.2 hd hw)

theorem shutdown_never_stuck_one_worker : ∃ s u : State, s.isShuttingDown = true ∧
    (orchestrator {} (.fixed 1) fun _ => none).Run
      (fun x a => a.ofShutdown = true ∧ shutdownOnTime {} x a = true) s u ∧
    (u.process.exited = true ∨ u.shutdown.frame = .resolved) := by
  obtain ⟨s, hs, hshut⟩ := exists_reachable_of_any (orchestrator {} (.fixed 1) fun _ => none)
    [.run, .pluginsInstalled, .shutdownPrimary "SIGTERM"] State.isShuttingDown (by decide +kernel)
  obtain ⟨u, hrun, hover⟩ := shutdown_never_stuck {} (.fixed 1) (fun _ => none) s hs hshut
  exact ⟨s, u, hshut, hrun, hover⟩

end ClusterKit
