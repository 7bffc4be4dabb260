import ClusterKit.WorkerShutdown

/-! Laws of every run of a worker process: which callbacks are called, how long a shutdown
may take, and what the heartbeats report. -/

namespace ClusterKit

namespace WorkerProcess

variable {cfg : ResolvedConfig} {now k : Nat} {p q : WorkerProcess}

/-! ## Callbacks -/

/-- The first `k` callbacks are registered, and called once the loop is through. -/
def Heard (k : Nat) (p : WorkerProcess) : Prop :=
  if p.frame = .returned then k ≤ p.calls.length else k ≤ p.shutdownCallbacks

theorem Heard.step (h : Heard k p) (hsound : Sound cfg now p) (hp : p.ended = none)
    (hs : ShutdownStep cfg now p q) : Heard k q := by
  unfold Heard at h ⊢
  cases hs with
  | kept q hk =>
    rw [hk.frame, hk.calls]
    split
    · rename_i hf
      rwa [if_pos hf] at h
    · rename_i hf
      rw [if_neg hf] at h
      exact h.trans hk.callbacks
  | begins m signal hk hm hl hin =>
    have hidle : m.frame = .idle := by
      have hmid : Sound cfg now m := hsound.keeps hp hk
      cases hb : m.began with
      | none => exact (hmid.unbegun hb).frame
      | some b =>
        have hbegun : m.Begun cfg now b.1 b.2 := hmid.begun hb
        rw [hbegun.inProgress] at hin
        cases hin
    have hle := hk.callbacks
    rw [← hk.frame, hidle, if_neg (by simp)] at h
    have hin' : m.stopWorkerReporting.localShutdownInProgress = false := hin
    simp only [handleShutdown, hin', Bool.false_eq_true, if_false, reduceCtorEq]
    exact h.trans hle
  | called signal next registers frame hf hn hnext =>
    rw [hf, if_neg (by simp)] at h
    have hframe : frame ≠ .returned := by
      rcases hnext with rfl | rfl <;> simp
    rw [if_neg hframe]
    exact h.trans (Nat.le_add_right _ _)
  | finished signal next hf hn =>
    obtain ⟨signal', time, -, hbegun⟩ := hsound.exists_begun fun hu => by simp [hu.frame] at hf
    rw [hf, if_neg (by simp)] at h
    rw [if_pos rfl]
    show k ≤ p.calls.length
    have hnext : next = p.calls.length := by
      rcases hbegun.frame with hframe | hframe | hframe <;> rw [hf] at hframe <;> cases hframe
      rfl
    omega
  | settled signal next hf =>
    rw [hf, if_neg (by simp)] at h
    rw [if_neg (by simp)]
    exact h
  | through hf => exact h
  | forced deadline ht hd => exact h

/-- Calls are only added, and a shutdown that began stays the one that began. -/
structure Grown (now : Nat) (p q : WorkerProcess) : Prop where
  calls : p.calls <+: q.calls
  began : ∀ b, p.began = some b → q.began = some b
  fresh : p.began = none → ∀ b, q.began = some b → b.2 = now

theorem Grown.step (hsound : Sound cfg now p) (hp : p.ended = none)
    (hs : ShutdownStep cfg now p q) : Grown now p q := by
  have hsame : ∀ q : WorkerProcess, q.began = p.began →
      p.began = none → ∀ b, q.began = some b → b.2 = now := by
    intro q heq hnone b hb
    rw [heq, hnone] at hb
    cases hb
  cases hs with
  | kept q hk =>
    exact ⟨hk.calls ▸ List.prefix_rfl, fun b hb => hk.began.trans hb, hsame q hk.began⟩
  | begins m signal hk hm hl hin =>
    have hmid : Sound cfg now m := hsound.keeps hp hk
    have hnone : m.began = none := by
      cases hb : m.began with
      | none => rfl
      | some b =>
        have hbegun : m.Begun cfg now b.1 b.2 := hmid.begun hb
        rw [hbegun.inProgress] at hin
        cases hin
    have hcalls : p.calls = [] := hk.calls.symm.trans (hmid.unbegun hnone).calls
    refine ⟨hcalls ▸ List.nil_prefix, fun b hb => ?_, fun _ b hb => ?_⟩
    · rw [← hk.began, hnone] at hb
      cases hb
    · have hbegan : (m.handleShutdown cfg now signal).began = some (signal, now) :=
        ((hmid.unbegun hnone).handleShutdown hm hl signal).1
      rw [hbegan] at hb
      cases hb
      rfl
  | called => exact ⟨List.prefix_append _ _, fun _ hb => hb, hsame _ rfl⟩
  | finished | settled | through | forced => exact ⟨List.prefix_rfl, fun _ hb => hb, hsame _ rfl⟩

end WorkerProcess

/-- **Callbacks.** Each is called at most once, in the order of registration and with the
signal that began the shutdown; a process that exits after its shutdown has called every one
that was registered before the loop was through. -/
theorem shutdown_callbacks_called (cfg : ResolvedConfig) (x y : ClockedWorker)
    (hx : (workerProcess cfg).Reachable x)
    (hrun : (workerProcess cfg).Run (fun _ _ => True) x y) :
    (∀ c ∈ y.process.calls, ∃ time, y.process.began = some (c.2, time)) ∧
      y.process.calls.map Prod.fst = List.range y.process.calls.length ∧
      x.process.calls <+: y.process.calls ∧
      (x.process.frame ≠ .returned → y.process.ended = some .shutdownComplete →
        x.process.shutdownCallbacks ≤ y.process.calls.length) := by
  have hy : y.Sound cfg := ClockedWorker.sound_of_reachable (hrun.reachable_from hx)
  have hgrown : x.process.calls <+: y.process.calls ∧
      (x.process.frame ≠ .returned → y.process.Heard x.process.shutdownCallbacks) := by
    refine hrun.preserves_of (P := fun z => x.process.calls <+: z.process.calls ∧
      (x.process.frame ≠ .returned → z.process.Heard x.process.shutdownCallbacks)) hx
      (fun z hz => ClockedWorker.sound_of_reachable hz) ?_ ⟨List.prefix_rfl, fun hne => ?_⟩
    · rintro u (ms | a) v hu ⟨hcalls, hheard⟩ - hs
      · cases hs
        exact ⟨hcalls, hheard⟩
      · obtain ⟨hended, -, hstep⟩ := hu.shutdownStep hs
        exact ⟨hcalls.trans (WorkerProcess.Grown.step hu hended hstep).calls,
          fun hne => (hheard hne).step hu hended hstep⟩
    · rw [WorkerProcess.Heard, if_neg hne]
  obtain ⟨hcalled, hheard⟩ := hgrown
  cases hb : y.process.began with
  | none =>
    have hu := WorkerProcess.Sound.unbegun hy hb
    rw [hu.calls] at hcalled ⊢
    exact ⟨by simp, rfl, hcalled, fun _ hc => absurd hc hu.completed⟩
  | some b =>
    have hbegun : y.process.Begun cfg y.now b.1 b.2 := WorkerProcess.Sound.begun hy hb
    refine ⟨fun c hc => ?_, ?_, hcalled, fun hne hc => ?_⟩
    · rw [hbegun.calls, List.mem_map] at hc
      obtain ⟨i, -, rfl⟩ := hc
      exact ⟨b.2, rfl⟩
    · conv_lhs => rw [hbegun.calls]
      rw [List.map_map]
      exact List.map_id _
    · have h := hheard hne
      rwa [WorkerProcess.Heard, if_pos (hbegun.through hc)] at h

/-- Two callbacks: the first throws, the second is awaited. -/
theorem shutdown_callbacks_called_two : ∃ y : ClockedWorker,
    y.process.ended = some .shutdownComplete ∧ 2 ≤ y.process.calls.length := by
  let x : ClockedWorker := { process := { runPhase := .started, shutdownCallbacks := 2 } }
  have hx : (workerProcess {}).Reachable x :=
    (StepSystem.exec_run (show (workerProcess {}).exec (fun _ _ => true) (workerProcess {}).init
      [.act .registerOnShutdown, .act .run, .act .pluginsInstalled, .act .registerOnShutdown] =
        some x from rfl)).reachable
  obtain ⟨y, hrun, hq⟩ := StepSystem.exists_run_of_any (workerProcess {}) x (fun _ _ => true)
    [.act (.signal .SIGTERM), .act (.callNext true 0), .act (.callNext false 0), .tick 5,
      .act .callbackSettled, .act .callsOver, .act .callbacksReturned]
    (fun y => decide (y.process.ended = some .shutdownComplete)) (by decide)
  rw [decide_eq_true_eq] at hq
  have hlaw := shutdown_callbacks_called {} x y hx (hrun.mono fun _ _ _ => trivial)
  exact ⟨y, hq, hlaw.2.2.2 (by decide) hq⟩

namespace WorkerProcess

variable {cfg : ResolvedConfig} {now : Nat} {p q : WorkerProcess} {msg : Message} {exact : Prop}

/-! ## Deadlines -/

/-- No armed timer of a running process is overdue at `time`. -/
def inTime (p : WorkerProcess) (time : Nat) : Bool :=
  p.ended.isSome ||
    p.exitTimer.all (fun deadline => decide (time ≤ deadline)) &&
      p.reportTimer.all (fun due => decide (time ≤ due))

theorem inTime_exitTimer (h : p.inTime now = true) (hp : p.ended = none) {deadline : Nat}
    (ht : p.exitTimer = some deadline) : now ≤ deadline := by
  simp only [inTime, hp, ht, Option.isSome_none, Bool.false_or, Bool.and_eq_true,
    Option.all_some, decide_eq_true_eq] at h
  exact h.1

theorem inTime_reportTimer (h : p.inTime now = true) (hp : p.ended = none) {due : Nat}
    (ht : p.reportTimer = some due) : now ≤ due := by
  simp only [inTime, hp, ht, Option.isSome_none, Bool.false_or, Bool.and_eq_true,
    Option.all_some, decide_eq_true_eq] at h
  exact h.2

/-! ## Heartbeats -/

def isHeartbeat (cfg : ResolvedConfig) (m : Message × Nat) : Bool :=
  decide (m.1.type = cfg.shutdown.heartbeatType)

def isAck (cfg : ResolvedConfig) (m : Message × Nat) : Bool :=
  decide (m.1.type = cfg.shutdown.shutdownAckType)

/-- The heartbeats sent, newest first. -/
def heartbeats (cfg : ResolvedConfig) (p : WorkerProcess) : List (Message × Nat) :=
  p.sent.filter (isHeartbeat cfg)

/-- A heartbeat after another: at least an interval later, and its lag is what is more. -/
def BeatAfter (cfg : ResolvedConfig) (newer older : Message × Nat) : Prop :=
  older.2 + cfg.health.heartbeatMs ≤ newer.2 ∧
    newer.1.eventLoopLagMs = some ((newer.2 - older.2 - cfg.health.heartbeatMs : Nat) : Int)

/-- What a process has sent, and when it reports next; `exact` if no timer was ever late. -/
structure Reporting (cfg : ResolvedConfig) (exact : Prop) (now : Nat) (p : WorkerProcess) :
    Prop where
  spaced : (p.heartbeats cfg).IsChain (BeatAfter cfg)
  fresh : p.listening = false → p.heartbeats cfg = []
  armed : ∀ due, p.reportTimer = some due →
    due = p.lastBeat + cfg.health.heartbeatMs ∧ p.lastBeat ≤ now ∧ p.listening = true
  last : p.reportTimer ≠ none → p.connected = true →
    ∀ b ∈ (p.heartbeats cfg).head?, b.2 = p.lastBeat
  past : ∀ m ∈ p.sent, m.2 ≤ now
  unasked : p.began = none → ∀ m ∈ p.sent, isAck cfg m = false
  silent : p.began ≠ none → p.reportTimer = none
  quiet : ∀ signal time, p.began = some (signal, time) → ∀ b ∈ p.heartbeats cfg, b.2 ≤ time
  order : p.sent.Pairwise fun newer older =>
    isHeartbeat cfg newer = true → isAck cfg older = false
  prompt : exact → p.ended = none → ∀ due, p.reportTimer = some due → now ≤ due
  lags : exact → ∀ b ∈ p.heartbeats cfg, b.1.eventLoopLagMs = some 0

theorem Reporting.initial : Reporting cfg exact now {} where
  spaced := .nil
  fresh _ := rfl
  armed _ h := by cases h
  last h := absurd rfl h
  past _ h := by cases h
  unasked _ _ h := by cases h
  silent h := absurd rfl h
  quiet _ _ h := by cases h
  order := .nil
  prompt _ _ _ h := by cases h
  lags _ _ h := by cases h

theorem Reporting.later (h : Reporting cfg exact now p) {later : Nat} (hle : now ≤ later)
    (hin : exact → p.inTime later = true) : Reporting cfg exact later p where
  __ := h
  armed due hd := ⟨(h.armed due hd).1, (h.armed due hd).2.1.trans hle, (h.armed due hd).2.2⟩
  past m hm := (h.past m hm).trans hle
  prompt hexact hp _ hd := inTime_reportTimer (hin hexact) hp hd

theorem heartbeats_cons_of_not (hm : isHeartbeat cfg (msg, now) = false) :
    heartbeats cfg { p with sent := (msg, now) :: p.sent } = p.heartbeats cfg := by
  simp [heartbeats, hm]

/-- A message of another kind goes out; acknowledgements only once a shutdown began. -/
theorem Reporting.send (h : Reporting cfg exact now p) (hbeat : isHeartbeat cfg (msg, now) = false)
    (hack : p.began = none → isAck cfg (msg, now) = false) :
    Reporting cfg exact now (p.send now msg) := by
  unfold WorkerProcess.send
  split
  · have hsame := heartbeats_cons_of_not (p := p) hbeat
    constructor
    case spaced => rw [hsame]; exact h.spaced
    case fresh => rw [hsame]; exact h.fresh
    case armed => exact h.armed
    case last => rw [hsame]; exact h.last
    case past =>
      intro m hm
      rcases List.mem_cons.mp hm with rfl | hm
      · exact le_rfl
      · exact h.past m hm
    case unasked =>
      intro hb m hm
      rcases List.mem_cons.mp hm with rfl | hm
      · exact hack hb
      · exact h.unasked hb m hm
    case silent => exact h.silent
    case quiet => rw [hsame]; exact h.quiet
    case order =>
      refine List.pairwise_cons.mpr ⟨fun m _ hnew => ?_, h.order⟩
      rw [hbeat] at hnew
      cases hnew
    case prompt => exact h.prompt
    case lags => rw [hsame]; exact h.lags
  · exact h

theorem handleShutdown_send (signal : String) :
    (p.send now msg).handleShutdown cfg now signal =
      (p.handleShutdown cfg now signal).send now msg := by
  cases hc : p.connected <;> cases hin : p.localShutdownInProgress <;>
    simp [WorkerProcess.send, handleShutdown, stopWorkerReporting, hc, hin]

/-- A shutdown is under way afterwards, and nothing was sent. -/
theorem Reporting.handleShutdown (h : Reporting cfg exact now p) (hsound : Sound cfg now p)
    (hp : p.ended = none) (hl : p.listening = true) (signal : String) :
    (p.handleShutdown cfg now signal).began ≠ none ∧
      Reporting cfg exact now (p.handleShutdown cfg now signal) := by
  cases hb : p.began with
  | none =>
    have hu := hsound.unbegun hb
    obtain ⟨hbegan, hbegun⟩ : (p.handleShutdown cfg now signal).began = some (signal, now) ∧
        (p.handleShutdown cfg now signal).Begun cfg now signal now :=
      hu.handleShutdown hp hl signal
    have hsent : (p.handleShutdown cfg now signal).sent = p.sent := by
      simp [WorkerProcess.handleShutdown, stopWorkerReporting, hu.inProgress]
    have hbeats : (p.handleShutdown cfg now signal).heartbeats cfg = p.heartbeats cfg := by
      rw [heartbeats, hsent, heartbeats]
    refine ⟨by simp [hbegan], ?_⟩
    constructor
    case spaced => rw [hbeats]; exact h.spaced
    case fresh => simp [hbegun.listening]
    case armed => simp [hbegun.silent]
    case last => exact fun hne => absurd hbegun.silent hne
    case past => rw [hsent]; exact h.past
    case unasked => simp [hbegan]
    case silent => exact fun _ => hbegun.silent
    case quiet =>
      intro signal' time hb' b hmem
      rw [hbegan] at hb'
      cases hb'
      rw [hbeats] at hmem
      exact h.past b (List.mem_of_mem_filter hmem)
    case order => rw [hsent]; exact h.order
    case prompt => exact fun _ _ _ hd => absurd (hbegun.silent.symm.trans hd) (by simp)
    case lags => rw [hbeats]; exact h.lags
  | some b =>
    have hbegun : p.Begun cfg now b.1 b.2 := hsound.begun hb
    have hsame : p.handleShutdown cfg now signal = p.stopWorkerReporting := by
      simp [WorkerProcess.handleShutdown, stopWorkerReporting, hbegun.inProgress]
    rw [hsame]
    refine ⟨by simp [stopWorkerReporting, hb],
      { h with armed := ?_, last := ?_, silent := ?_, prompt := ?_ }⟩
    · exact fun _ hd => by cases hd
    · exact fun hne => absurd rfl hne
    · exact fun _ => rfl
    · exact fun _ _ _ hd => by cases hd

theorem heartbeat_isHeartbeat (rss heapUsed : Int) (time : Nat) :
    isHeartbeat cfg (p.heartbeat cfg now rss heapUsed, time) = true := by
  simp [isHeartbeat, heartbeat]

/-- The next heartbeat of a process that listens and is not shutting down. -/
theorem Reporting.report (h : Reporting cfg exact now p) (hp : p.ended = none) (rss heapUsed : Int)
    (hr : p.report cfg now rss heapUsed = some q) : Reporting cfg exact now q := by
  unfold WorkerProcess.report at hr
  split at hr
  · cases hr
  · rename_i due hdue
    split at hr
    · rename_i hnow
      cases hr
      obtain ⟨hdue', hlast, hl⟩ := h.armed due hdue
      have hnone : p.began = none := by
        by_contra hb
        rw [h.silent hb] at hdue
        cases hdue
      have harmed : ∀ d, some (now + cfg.health.heartbeatMs) = some d →
          d = now + cfg.health.heartbeatMs ∧ now ≤ now ∧ p.listening = true := by
        rintro _ ⟨⟩
        exact ⟨rfl, le_rfl, hl⟩
      have hprompt : ∀ d, some (now + cfg.health.heartbeatMs) = some d → now ≤ d := by
        rintro _ ⟨⟩
        exact Nat.le_add_right _ _
      unfold WorkerProcess.send
      split
      · rename_i hc
        have hbeat : isHeartbeat cfg (p.heartbeat cfg now rss heapUsed, now) = true :=
          heartbeat_isHeartbeat rss heapUsed now
        have hcons : heartbeats cfg { p with
            lastBeat := now, reportTimer := some (now + cfg.health.heartbeatMs)
            sent := (p.heartbeat cfg now rss heapUsed, now) :: p.sent } =
            (p.heartbeat cfg now rss heapUsed, now) :: p.heartbeats cfg := by
          simp [heartbeats, hbeat]
        have hnotack : isAck cfg (p.heartbeat cfg now rss heapUsed, now) = false := by
          simp [isAck, heartbeat, cfg.shutdown.heartbeatType_ne_shutdownAckType]
        constructor
        case spaced =>
          rw [hcons]
          refine h.spaced.cons fun older ho => ?_
          have htime := h.last (by simp [hdue]) hc older ho
          exact ⟨by rw [htime]; omega, by rw [htime]; rfl⟩
        case fresh => exact fun hf => absurd (hf.symm.trans hl) (by simp)
        case armed => exact harmed
        case last =>
          rw [hcons]
          rintro - - b ⟨⟩
          rfl
        case past =>
          intro m hm
          rcases List.mem_cons.mp hm with rfl | hm
          · exact le_rfl
          · exact h.past m hm
        case unasked =>
          intro hb m hm
          rcases List.mem_cons.mp hm with rfl | hm
          · exact hnotack
          · exact h.unasked hb m hm
        case silent => exact fun hb => absurd hnone hb
        case quiet => exact fun _ _ hb => absurd (hnone.symm.trans hb) (by simp)
        case order => exact List.pairwise_cons.mpr ⟨fun m hm _ => h.unasked hnone m hm, h.order⟩
        case prompt => exact fun _ _ => hprompt
        case lags =>
          intro hexact b hb
          rw [hcons] at hb
          rcases List.mem_cons.mp hb with rfl | hb
          · have hle := h.prompt hexact hp due hdue
            have hzero : now - p.lastBeat - cfg.health.heartbeatMs = 0 := by omega
            simp [heartbeat, hzero]
          · exact h.lags hexact b hb
      · rename_i hc
        exact { h with
          armed := harmed, last := fun _ hc' => absurd hc' hc, silent := fun hb => absurd hnone hb
          prompt := fun _ _ => hprompt }
    · cases hr

theorem Reporting.onMessage (h : Reporting cfg exact now p) (hsound : Sound cfg now p)
    (hp : p.ended = none) (hl : p.listening = true) (m : Option Message) :
    Reporting cfg exact now (p.onMessage cfg now m) := by
  unfold WorkerProcess.onMessage
  split
  · obtain ⟨hbegan, hrep⟩ := h.handleShutdown hsound hp hl "IPC"
    rw [handleShutdown_send]
    refine hrep.send ?_ fun hb => absurd hb hbegan
    simp [isHeartbeat, cfg.shutdown.heartbeatType_ne_shutdownAckType.symm]
  · exact h

theorem Reporting.act (h : Reporting cfg exact now p) (hsound : Sound cfg now p) (hp : p.ended = none)
    {a : WorkerAction} (hact : p.act cfg now a = some q) : Reporting cfg exact now q := by
  have hidle (hl : p.listening = false) : p.reportTimer = none := by
    by_contra hne
    obtain ⟨due, hdue⟩ := Option.ne_none_iff_exists'.mp hne
    rw [(h.armed due hdue).2.2] at hl
    cases hl
  cases a with
  | run =>
    cases hact
    split
    · rename_i hphase
      have hl : p.listening = false := by simp [listening, hphase]
      exact { h with
        fresh := fun _ => h.fresh hl, armed := fun due hd => by simp [hidle hl] at hd }
    · exact h
  | pluginsInstalled =>
    simp only [WorkerProcess.act] at hact
    split at hact
    · rename_i hphase
      have hl : p.listening = false := by simp [listening, hphase]
      have hbeats : p.heartbeats cfg = [] := h.fresh hl
      have hnone : p.began = none := by
        by_contra hb
        obtain ⟨b, hb⟩ := Option.ne_none_iff_exists'.mp hb
        have hbegun : p.Begun cfg now b.1 b.2 := hsound.begun hb
        rw [hbegun.listening] at hl
        cases hl
      cases hact
      unfold startWorkerReporting
      split
      · exact { h with
          fresh := fun _ => hbeats, armed := fun due hd => by simp [hidle hl] at hd }
      · refine { h with
          fresh := fun _ => hbeats, armed := ?_, last := ?_, silent := ?_, prompt := ?_ }
        · rintro _ ⟨⟩
          exact ⟨rfl, le_rfl, rfl⟩
        · intro _ _ b hb
          have hb' : b ∈ (p.heartbeats cfg).head? := hb
          rw [hbeats] at hb'
          cases hb'
        · exact fun hb => absurd hnone hb
        · rintro _ _ _ ⟨⟩
          exact Nat.le_add_right _ _
    · cases hact
  | pluginInstallFailed =>
    simp only [WorkerProcess.act] at hact
    split at hact
    · rename_i hphase
      have hl : p.listening = false := by simp [listening, hphase]
      cases hact
      exact { h with
        fresh := fun _ => h.fresh hl, armed := fun due hd => by simp [hidle hl] at hd }
    · cases hact
  | registerOnShutdown | setNotReady =>
    cases hact
    exact { h with }
  | applicationEnds code =>
    cases hact
    exact { h with prompt := fun _ hp' => by cases hp' }
  | setReady =>
    cases hact
    split
    · exact h
    · exact { h with }
  | applicationSends m =>
    simp only [WorkerProcess.act] at hact
    split at hact
    · cases hact
    · rename_i hfree
      simp only [isReserved, Bool.or_eq_true, decide_eq_true_eq, not_or] at hfree
      cases hact
      exact h.send (by simpa [isHeartbeat] using hfree.2)
        fun _ => by simpa [isAck] using hfree.1
  | message m =>
    simp only [WorkerProcess.act] at hact
    split at hact
    · rename_i hguard
      rw [Bool.and_eq_true] at hguard
      cases hact
      exact h.onMessage hsound hp hguard.2 m
    · cases hact
  | signal signal =>
    cases hact
    unfold onSignal
    split
    · rename_i hguard
      rw [Bool.and_eq_true] at hguard
      exact (h.handleShutdown hsound hp hguard.1 signal.name).2
    · exact { h with prompt := fun _ hp' => by cases hp' }
  | disconnected asked =>
    simp only [WorkerProcess.act] at hact
    split at hact
    · cases hact
      split
      · exact { h with last := fun _ hc => by cases hc }
      · exact { h with
          last := fun _ hc => by cases hc
          prompt := fun _ hp' => by cases hp' }
    · cases hact
  | report rss heapUsed => exact h.report hp rss heapUsed hact
  | callNext throws registers =>
    simp only [WorkerProcess.act, callNext] at hact
    split at hact
    · split at hact
      · cases hact
        exact { h with }
      · cases hact
    · cases hact
  | callsOver =>
    simp only [WorkerProcess.act, callsOver] at hact
    split at hact
    · split at hact
      · cases hact
      · cases hact
        exact { h with }
    · cases hact
  | callbackSettled =>
    simp only [WorkerProcess.act, callbackSettled] at hact
    split at hact
    · cases hact
      exact { h with }
    · cases hact
  | callbacksReturned =>
    simp only [WorkerProcess.act, callbacksReturned] at hact
    split at hact
    · cases hact
      exact { h with prompt := fun _ hp' => by cases hp' }
    · cases hact
  | exitElapsed =>
    simp only [WorkerProcess.act, exitElapsed] at hact
    split at hact
    · cases hact
    · split at hact
      · cases hact
        exact { h with prompt := fun _ hp' => by cases hp' }
      · cases hact

end WorkerProcess

/-- Time never passes a deadline of the process. -/
def onTime (x : ClockedWorker) : WorkerInput → Bool
  | .tick ms => x.process.inTime (x.now + ms)
  | .act _ => true

namespace ClockedWorker

open WorkerProcess

variable {cfg : ResolvedConfig} {x : ClockedWorker}
  {ok : ClockedWorker → WorkerInput → Prop}

/-- A shutdown that began on a process that is never late is over by its deadline. -/
def WithinTimeout (cfg : ResolvedConfig) (x : ClockedWorker) : Prop :=
  ∀ b, x.process.began = some b → x.process.ended = none → x.now ≤ b.2 + cfg.shutdown.timeoutMs

structure Lawful (cfg : ResolvedConfig) (exact : Prop) (x : ClockedWorker) : Prop where
  reporting : x.process.Reporting cfg exact x.now
  within : exact → x.WithinTimeout cfg

theorem lawful_of_run (exact : Prop) (hok : ∀ x i, ok x i → exact → onTime x i = true)
    (hrun : (workerProcess cfg).Run ok (workerProcess cfg).init x) : x.Lawful cfg exact := by
  refine hrun.preserves_of (P := Lawful cfg exact) .refl (fun z hz => sound_of_reachable hz) ?_
    ⟨.initial, fun _ _ h => by cases h⟩
  rintro u (ms | a) v hu h hi hs
  · cases hs
    have hin : exact → u.process.inTime (u.now + ms) = true := hok u (.tick ms) hi
    refine ⟨h.reporting.later (Nat.le_add_right _ _) hin, fun hexact b hb hended => ?_⟩
    have hbegun : u.process.Begun cfg u.now b.1 b.2 := WorkerProcess.Sound.begun hu hb
    have hne : u.process.ended ≠ some .shutdownComplete := by
      rw [show u.process.ended = none from hended]
      simp
    exact inTime_exitTimer (hin hexact) hended (hbegun.exitTimer hne)
  · obtain ⟨hended, hnow, hstep⟩ := hu.shutdownStep hs
    have hgrown := Grown.step hu hended hstep
    obtain ⟨q, hq, rfl⟩ := Option.map_eq_some_iff.mp hs
    obtain ⟨-, -, hact⟩ := step_act hq
    refine ⟨h.reporting.act hu hended hact, fun hexact b hb _ => ?_⟩
    cases hb' : u.process.began with
    | none =>
      have htime : b.2 = u.now := hgrown.fresh hb' b hb
      show u.now ≤ _
      omega
    | some b' =>
      have hsame := hgrown.began b' hb'
      rw [hb] at hsame
      cases hsame
      exact h.within hexact b hb' hended

end ClockedWorker

open WorkerProcess in
/-- **Heartbeats.** In every run they are an interval or more apart and report exactly the
excess; none is sent after a shutdown began, hence none after an acknowledgement. -/
theorem heartbeats_spaced_until_shutdown (cfg : ResolvedConfig) (x : ClockedWorker)
    (hx : (workerProcess cfg).Reachable x) :
    (x.process.heartbeats cfg).IsChain (BeatAfter cfg) ∧
      (∀ b, x.process.began = some b → ∀ m ∈ x.process.heartbeats cfg, m.2 ≤ b.2) ∧
      x.process.sent.Pairwise fun newer older =>
        isHeartbeat cfg newer = true → isAck cfg older = false := by
  have h := ClockedWorker.lawful_of_run False (fun _ _ _ hf => hf.elim) hx
  exact ⟨h.reporting.spaced, fun b hb m hm => h.reporting.quiet b.1 b.2 hb m hm, h.reporting.order⟩

open WorkerProcess in
/-- Two heartbeats, the second of them late, and then a shutdown message. -/
theorem heartbeats_spaced_until_shutdown_late :
    let cfg : ResolvedConfig := { health := { heartbeatMs := 100 } }
    ∃ x : ClockedWorker, x.process.sent.length = 3 ∧
      (x.process.heartbeats cfg).IsChain (BeatAfter cfg) := by
  intro cfg
  obtain ⟨x, hx, hq⟩ := StepSystem.exists_reachable_of_any (workerProcess cfg)
    [.act .run, .act .pluginsInstalled, .tick 100, .act (.report 1 1), .tick 130,
      .act (.report 1 1), .act (.message (some { type := "__wm:shutdown" }))]
    (fun x => decide (x.process.sent.length = 3)) (by decide +kernel)
  rw [decide_eq_true_eq] at hq
  exact ⟨x, hq, (heartbeats_spaced_until_shutdown cfg x hx).1⟩

/-- **Worker deadlines.** A process whose timers fire on time reports no lag, and does not
run on once `timeoutMs` passed since its shutdown began; the exit timer never ends it earlier. -/
theorem worker_gone_by_timeout (cfg : ResolvedConfig) (x : ClockedWorker)
    (hrun : (workerProcess cfg).Run (fun x i => onTime x i = true) (workerProcess cfg).init x) :
    (∀ m ∈ x.process.heartbeats cfg, m.1.eventLoopLagMs = some 0) ∧
      ∀ b, x.process.began = some b →
        (x.process.ended = none → x.now ≤ b.2 + cfg.shutdown.timeoutMs) ∧
          (x.process.ended = some .forcedExit → b.2 + cfg.shutdown.timeoutMs ≤ x.now) := by
  have h := ClockedWorker.lawful_of_run True (fun _ _ hi _ => hi) hrun
  have hsound := ClockedWorker.sound_of_reachable hrun.reachable
  refine ⟨h.reporting.lags trivial, fun b hb => ⟨h.within trivial b hb, fun hf => ?_⟩⟩
  have hbegun : x.process.Begun cfg x.now b.1 b.2 := WorkerProcess.Sound.begun hsound hb
  exact hbegun.forced hf

/-- A callback that never settles. -/
theorem worker_gone_by_timeout_hanging : ∃ x : ClockedWorker,
    x.process.ended = some .forcedExit ∧ ∃ b, x.process.began = some b ∧ b.2 + 12000 ≤ x.now := by
  obtain ⟨x, hrun, hq⟩ := StepSystem.exists_run_of_any (workerProcess {}) (workerProcess {}).init
    (fun x i => onTime x i)
    [.act .registerOnShutdown, .act .run, .act .pluginsInstalled, .tick 7,
      .act (.signal .SIGTERM), .act (.callNext false 0), .tick 12000, .act .exitElapsed]
    (fun x => decide (x.process.ended = some .forcedExit) &&
      decide (x.process.began = some ("SIGTERM", 7))) (by decide +kernel)
  simp only [Bool.and_eq_true, decide_eq_true_eq] at hq
  exact ⟨x, hq.1, _, hq.2, ((worker_gone_by_timeout {} x hrun).2 _ hq.2).2 hq.1⟩

end ClusterKit
