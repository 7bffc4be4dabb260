import ClusterKit.Lib.Observer
import ClusterKit.Lib.RetryQueue
import ClusterKit.QueueSegment
import Mathlib.Algebra.Order.Archimedean.Basic

/-! The discipline of the restart queue: one restart in flight, requests tried in the order
they arrived, forks only while the breaker allows them, and an end to every run of the
processor. -/

namespace ClusterKit

open State

variable {e : Host} {s t : State} {a : Action} {v w : QueueView}

/-! ## The ledger of the requests -/

/-- The restart in flight. -/
def QueueView.flying (v : QueueView) : List RestartQueueEntry :=
  match v.frame with
  | some (.backoff entry _ _) => [entry]
  | _ => []

/-- The loop takes up its work in a segment of `a`, if there is any. -/
def takesUp (s : State) : Action → Bool
  | .resume .restartQueue => true
  | .workerExit .. => !s.restart.restartLoopRunning
  | .resetCircuitBreaker => !s.restart.restartLoopRunning
  | .resume .rollReturned => !s.restart.restartLoopRunning
  | _ => false

/-- What the ledger makes of a run of the loop that ends in `v`. -/
def noteLoop (v : QueueView) (l : RetryLedger RestartQueueEntry) : RetryLedger RestartQueueEntry :=
  match v.frame with
  | none => l.drop
  | some (.backoff ..) => l.take
  | some .returned => l.take.settle v.queue.length

/-- The observer of the requests. -/
def noteRequests (e : Host) (s : State) (a : Action) (t : State)
    (l : RetryLedger RestartQueueEntry) : RetryLedger RestartQueueEntry :=
  let l := l.arrive (arrivals e s a t)
  match a with
  | .timer .backoffWait => l.settle t.queueView.queue.length
  | a => if takesUp s a then noteLoop t.queueView l else l

/-- The ledger knows the queue, and what it knows is in order. -/
structure RequestsTracked (v : QueueView) (l : RetryLedger RestartQueueEntry) : Prop where
  entries : l.entries = v.queue
  inFlight : l.inFlight.map Prod.snd = v.flying
  fifo : l.Fifo
  idle : v.frame = none → v.running = false ∧ v.queue = []

namespace RequestsTracked

variable {l : RetryLedger RestartQueueEntry}

theorem of_same (h : RequestsTracked v l) (hr : w.running = v.running) (hf : w.frame = v.frame)
    (hq : w.queue = v.queue) : RequestsTracked w l := by
  refine ⟨h.entries.trans hq.symm, ?_, h.fifo, fun hw => ?_⟩
  · rw [QueueView.flying, hf]
    exact h.inFlight
  · obtain ⟨hrun, hqueue⟩ := h.idle (hf ▸ hw)
    exact ⟨hr.trans hrun, hq.trans hqueue⟩

/-- A try is over. -/
theorem settled {entry : RestartQueueEntry} {delayMs : ℚ} (hentries : l.entries = v.queue)
    (hflight : l.inFlight.map Prod.snd = [entry]) (hfifo : l.Fifo)
    (ha : Attempted e entry delayMs s v w) : RequestsTracked w (l.settle w.queue.length) := by
  have hframe := ha.frame
  have hfate : w.queue = l.entries ∨ w.queue = [] ∨ w.queue = l.entries ++ [entry] := by
    rw [hentries]
    cases ha with
    | stopped | restarted => exact .inl rfl
    | requeued => exact .inr (.inr rfl)
    | gaveUp => exact .inr (.inl rfl)
  refine ⟨RetryLedger.entries_settle hflight hfate, ?_, hfifo.settle _, fun h => ?_⟩
  · rw [QueueView.flying, hframe]
    rfl
  · exact absurd (hframe.symm.trans h) nofun

/-- The loop runs where no restart is in flight. -/
theorem looped (hentries : l.entries = v.queue) (hflight : l.inFlight = []) (hfifo : l.Fifo)
    (h : LoopRan e s v w) : RequestsTracked w (noteLoop w l) := by
  cases h with
  | ended h => exact ⟨rfl, congrArg (List.map Prod.snd) hflight, hfifo.drop, fun _ => ⟨rfl, rfl⟩⟩
  | waits entry rest hq hs hdelay =>
    obtain ⟨htaken, hflying⟩ := RetryLedger.entries_take (hentries.trans hq)
    rw [hflight] at hflying
    exact ⟨htaken, hflying, hfifo.take, nofun⟩
  | tried entry rest w hq hs hdelay ha =>
    obtain ⟨htaken, hflying⟩ := RetryLedger.entries_take (hentries.trans hq)
    rw [hflight] at hflying
    have hsettled := settled (v := { v with queue := rest }) htaken hflying hfifo.take ha
    rwa [noteLoop, ha.frame]

/-- Requests arrive, and the loop runs if it was not running. -/
theorem kicked (h : RequestsTracked v l) (hloop : v.running = false → v.frame = none) {x : State}
    {arrived : List RestartQueueEntry} (hx : x.queueView = { v with queue := v.queue ++ arrived })
    (hk : Kicked e x w) :
    RequestsTracked w (if !v.running then noteLoop w (l.arrive arrived) else l.arrive arrived) := by
  have hentries : (l.arrive arrived).entries = x.queueView.queue := by
    rw [hx, RetryLedger.entries_arrive, h.entries]
  have hflight : (l.arrive arrived).inFlight.map Prod.snd = v.flying := h.inFlight
  have hfifo := h.fifo.arrive arrived
  have hrunning : x.queueView.running = v.running := by rw [hx]
  have hframe : x.queueView.frame = v.frame := by rw [hx]
  rcases hk.cases with ⟨hr, rfl⟩ | ⟨hr, hl⟩
  · have hr : v.running = true := hrunning.symm.trans hr
    rw [hr]
    refine ⟨hentries, hflight.trans ?_, hfifo, fun hnone => ?_⟩
    · rw [QueueView.flying, QueueView.flying, hframe]
    · have hidle := (h.idle (hframe ▸ hnone)).1
      exact absurd (hidle.symm.trans hr) Bool.false_ne_true
  · have hr : v.running = false := hrunning.symm.trans hr
    have hnone : v.flying = [] := by rw [QueueView.flying, hloop hr]
    rw [hr]
    exact looped (v := { x.queueView with running := true }) hentries
      (List.map_eq_nil_iff.mp (hflight.trans hnone)) hfifo hl

/-- Nothing arrives and nothing happens. -/
theorem untouched (h : RequestsTracked v l) (hloop : v.running = false → v.frame = none)
    (hr : w.running = v.running) (hf : w.frame = v.frame) (hq : w.queue = v.queue) :
    RequestsTracked w (if !v.running then noteLoop w l else l) := by
  have hsame : RequestsTracked w l := h.of_same hr hf hq
  cases hrun : v.running with
  | true => exact hsame
  | false =>
    have hnone : w.frame = none := hf.trans (hloop hrun)
    have hempty : w.queue = [] := (hsame.idle hnone).2
    show RequestsTracked w (noteLoop w l)
    rw [noteLoop, hnone]
    exact ⟨hempty.symm, hsame.inFlight, h.fifo.drop, hsame.idle⟩

theorem arrive_nil (l : RetryLedger RestartQueueEntry) : l.arrive [] = l := by
  rw [RetryLedger.arrive, RetryLedger.tickets, List.append_nil]
  rfl

/-- Segments that may kick the loop. -/
theorem exited (h : RequestsTracked s.queueView l) (hw : WellFormed s)
    (hwait : a ≠ .timer .backoffWait) (hreturned : a ≠ .resume .restartQueue)
    (hseg : QueueSegment e s a t) :
    RequestsTracked t.queueView (if !s.restart.restartLoopRunning then
      noteLoop t.queueView (l.arrive (arrivals e s a t)) else l.arrive (arrivals e s a t)) := by
  have hfound : RequestsTracked (foundQueue s a) l := by
    cases a with
    | resetCircuitBreaker => exact h.of_same rfl rfl rfl
    | _ => exact h
  have hrunning : (foundQueue s a).running = s.restart.restartLoopRunning := by cases a <;> rfl
  have hframe : (foundQueue s a).frame = s.restart.frame := by cases a <;> rfl
  have hqueue : (foundQueue s a).queue = s.restart.pendingRestartQueue := by cases a <;> rfl
  have hloop : (foundQueue s a).running = false → (foundQueue s a).frame = none := fun hr =>
    hframe.trans (hw.loop (hrunning.symm.trans hr))
  rw [← hrunning]
  cases hseg with
  | untouched a t harr hv =>
    rw [harr, arrive_nil, hv]
    exact hfound.untouched hloop rfl rfl rfl
  | kicked a t x hx hs ht hk => exact hfound.kicked hloop (by rw [hqueue]; exact hx) hk
  | abandoned | attempted => exact absurd rfl hwait
  | resumed => exact absurd rfl hreturned

theorem act (h : RequestsTracked s.queueView l) (hw : WellFormed s) (hact : s.act e a = some t) :
    RequestsTracked t.queueView (noteRequests e s a t l) := by
  cases ha : a.runsQueue with
  | false =>
    have hkept : QueueKept s t := .act hw ha hact
    have hquiet : noteRequests e s a t l = l.arrive [] := by
      cases a with
      | timer timer =>
        cases timer with
        | backoffWait => cases ha
        | _ => rfl
      | resume c =>
        cases c with
        | restartQueue | rollReturned => cases ha
        | _ => rfl
      | workerExit | resetCircuitBreaker => cases ha
      | _ => rfl
    rw [hquiet, arrive_nil]
    exact h.of_same hkept.running hkept.frame hkept.queue
  | true =>
    have hseg := queueSegment_of_act hw ha hact
    cases a with
    | workerExit | resetCircuitBreaker => exact h.exited hw nofun nofun hseg
    | timer timer =>
      cases timer with
      | backoffWait =>
        obtain ⟨entry, delayMs, since, hf, -, hend⟩ := backoffElapsed_cases hact
        have hflight : l.inFlight.map Prod.snd = [entry] := by
          rw [h.inFlight, QueueView.flying]
          show (match s.restart.frame with | some (.backoff entry ..) => [entry] | _ => []) = _
          rw [hf]
        show RequestsTracked t.queueView ((l.arrive []).settle t.queueView.queue.length)
        rw [arrive_nil]
        rcases hend with ⟨-, hv⟩ | ⟨-, hatt⟩
        · refine ⟨?_, ?_, h.fifo.settle _, fun hnone => ?_⟩
          · rw [hv]
            exact RetryLedger.entries_settle hflight (.inl h.entries.symm)
          · rw [hv]
            rfl
          · rw [hv] at hnone
            cases hnone
        · exact settled h.entries hflight h.fifo hatt
      | _ => cases ha
    | resume c =>
      cases c with
      | restartQueue =>
        obtain ⟨hf, hran⟩ := queueReturned_cases hact
        have hnone : s.queueView.flying = [] := by
          rw [QueueView.flying]
          show (match s.restart.frame with | some (.backoff entry ..) => [entry] | _ => []) = _
          rw [hf]
        show RequestsTracked t.queueView (noteLoop t.queueView (l.arrive []))
        rw [arrive_nil]
        exact looped (v := { s.queueView with frame := none }) h.entries
          (List.map_eq_nil_iff.mp (h.inFlight.trans hnone)) h.fifo hran
      | rollReturned => exact h.exited hw nofun nofun hseg
      | _ => cases ha
    | _ => cases ha

end RequestsTracked

/-! ## When the queue forks -/

theorem Attempted.forkCalls {entry : RestartQueueEntry} {delayMs : ℚ}
    (h : Attempted e entry delayMs s v w) :
    ∃ calls, w.forkCalls = calls ++ v.forkCalls ∧
      ∀ c ∈ calls, c.isShuttingDown = s.isShuttingDown ∧ s.breakerTripped = false := by
  cases h with
  | stopped ht => exact ⟨[], rfl, nofun⟩
  | restarted call hc hs ht hok =>
    refine ⟨[call], rfl, fun c hmem => ?_⟩
    rw [List.mem_singleton.mp hmem]
    exact ⟨hs, ht⟩
  | requeued calls hc ht => exact ⟨calls, rfl, fun c hmem => ⟨(hc c hmem).2, ht⟩⟩
  | gaveUp calls hc ht => exact ⟨calls, rfl, fun c hmem => ⟨(hc c hmem).2, ht⟩⟩

theorem LoopRan.forkCalls (h : LoopRan e s v w) :
    ∃ calls, w.forkCalls = calls ++ v.forkCalls ∧
      ∀ c ∈ calls, c.isShuttingDown = false ∧ s.breakerTripped = false := by
  cases h with
  | ended | waits => exact ⟨[], rfl, nofun⟩
  | tried entry rest w hq hs hdelay ha =>
    obtain ⟨calls, hcalls, hallowed⟩ := ha.forkCalls
    exact ⟨calls, hcalls, fun c hc => ⟨(hallowed c hc).1.trans hs, (hallowed c hc).2⟩⟩

/-- What a segment adds to the calls of `cluster.fork` for the queue. -/
theorem queueForks_allowed (hw : WellFormed s) (hact : s.act e a = some t) :
    ∃ calls, t.queueForkCalls = calls ++ s.queueForkCalls ∧
      ∀ c ∈ calls, c.isShuttingDown = false ∧ t.breakerTripped = false := by
  have hfiltered (calls : List ForkCall) (heq : t.queueView.forkCalls = calls ++ s.queueView.forkCalls)
      (hall : ∀ c ∈ calls, c.isShuttingDown = false ∧ t.breakerTripped = false) :
      ∃ calls, t.queueForkCalls = calls ++ s.queueForkCalls ∧
        ∀ c ∈ calls, c.isShuttingDown = false ∧ t.breakerTripped = false := by
    refine ⟨calls.filter fun c => decide (c.cause = .restartQueue), ?_, fun c hc => ?_⟩
    · rw [queueForkCalls, queueForkCalls, ← List.filter_append]
      exact congrArg _ heq
    · exact hall c (List.mem_filter.mp hc).1
  have hnone : ∀ c ∈ ([] : List ForkCall), c.isShuttingDown = false ∧ t.breakerTripped = false :=
    fun c hc => absurd hc List.not_mem_nil
  cases ha : a.runsQueue with
  | false => exact ⟨[], (QueueKept.act hw ha hact).forkCalls, hnone⟩
  | true =>
    have hfound : (foundQueue s a).forkCalls = s.queueView.forkCalls := by cases a <;> rfl
    cases queueSegment_of_act hw ha hact with
    | untouched a t harr hv =>
      exact hfiltered [] ((congrArg QueueView.forkCalls hv).trans hfound) hnone
    | kicked a t x hx hs ht hk =>
      have hcalls : x.queueView.forkCalls = s.queueView.forkCalls :=
        (congrArg QueueView.forkCalls hx).trans hfound
      rcases hk.cases with ⟨-, hv⟩ | ⟨-, hl⟩
      · exact hfiltered [] ((congrArg QueueView.forkCalls hv).trans hcalls) hnone
      · obtain ⟨calls, heq, hall⟩ := hl.forkCalls
        refine hfiltered calls (heq.trans (congrArg (calls ++ ·) hcalls)) fun c hc => ?_
        exact ⟨(hall c hc).1, ht.symm.trans (hall c hc).2⟩
    | abandoned t entry delayMs since hf hs hv =>
      exact hfiltered [] (by rw [hv]; rfl) hnone
    | attempted t entry delayMs since hf hdue hs hatt =>
      have htripped : t.breakerTripped = s.breakerTripped := (QueueRan.backoffElapsed hact).tripped
      obtain ⟨calls, heq, hall⟩ := hatt.forkCalls
      exact hfiltered calls heq fun c hc => ⟨(hall c hc).1.trans hs, htripped.trans (hall c hc).2⟩
    | resumed t hf hl =>
      have htripped : t.breakerTripped = s.breakerTripped := (QueueRan.queueReturned hact).tripped
      obtain ⟨calls, heq, hall⟩ := hl.forkCalls
      exact hfiltered calls heq fun c hc => ⟨(hall c hc).1, htripped.trans (hall c hc).2⟩

/-! ## When the queue is given up -/

theorem Attempted.limit {entry : RestartQueueEntry} {delayMs : ℚ}
    (h : Attempted e entry delayMs s v w) (hnew : w.forkFailures ≠ v.forkFailures)
    (hlimit : MAX_CONSECUTIVE_FORK_FAILURES ≤ w.forkFailures) : w.queue = [] := by
  cases h with
  | stopped => exact absurd rfl hnew
  | restarted => exact absurd hlimit (Nat.not_succ_le_zero 2)
  | requeued calls hc ht hok hunder => exact absurd hlimit (Nat.not_le.mpr hunder)
  | gaveUp => rfl

theorem LoopRan.limit (h : LoopRan e s v w) (hnew : w.forkFailures ≠ v.forkFailures)
    (hlimit : MAX_CONSECUTIVE_FORK_FAILURES ≤ w.forkFailures) : w.queue = [] := by
  cases h with
  | ended | waits => exact absurd rfl hnew
  | tried entry rest w hq hs hdelay ha =>
    exact Attempted.limit (v := { v with queue := rest }) ha hnew hlimit

/-- An attempt that reaches the limit leaves an empty queue. -/
theorem limit_empties (hw : WellFormed s) (ha : a.runsQueue = true) (hact : s.act e a = some t)
    (hnew : s.restart.consecutiveForkFailures < t.restart.consecutiveForkFailures)
    (hlimit : MAX_CONSECUTIVE_FORK_FAILURES ≤ t.restart.consecutiveForkFailures) :
    t.restart.pendingRestartQueue = [] := by
  have hfound : (foundQueue s a).forkFailures ≤ s.restart.consecutiveForkFailures := by
    cases a with
    | resetCircuitBreaker => exact Nat.zero_le _
    | _ => exact Nat.le_refl _
  have hmore {n : Nat} (hn : n ≤ s.restart.consecutiveForkFailures) :
      t.queueView.forkFailures ≠ n := by
    show t.restart.consecutiveForkFailures ≠ n
    omega
  cases queueSegment_of_act hw ha hact with
  | untouched a t harr hv =>
    exact absurd (congrArg QueueView.forkFailures hv) (hmore hfound)
  | kicked a t x hx hs ht hk =>
    have hx : x.queueView.forkFailures = (foundQueue s a).forkFailures := by rw [hx]
    rcases hk.cases with ⟨-, hv⟩ | ⟨-, hl⟩
    · exact absurd ((congrArg QueueView.forkFailures hv).trans hx) (hmore hfound)
    · exact hl.limit (hmore (hx.trans_le hfound)) hlimit
  | abandoned t entry delayMs since hf hs hv =>
    exact absurd (congrArg QueueView.forkFailures hv) (hmore (Nat.le_refl _))
  | attempted t entry delayMs since hf hdue hs hatt =>
    exact hatt.limit (hmore (Nat.le_refl _)) hlimit
  | resumed t hf hl => exact hl.limit (hmore (Nat.le_refl _)) hlimit

/-! ## A run of the processor ends -/

/-- The attempts that `n` requests can cost after `failures` forks that threw in a row: three
each, and fewer for the first. -/
def attemptsLeft (n failures : Nat) : Nat := 3 * n - min failures 2

/-- The segments of the processor that are still to come. -/
def QueueView.turnsLeft (v : QueueView) : Nat :=
  match v.frame with
  | none => 0
  | some (.backoff ..) => 2 * attemptsLeft (v.queue.length + 1) v.forkFailures
  | some .returned => 2 * attemptsLeft v.queue.length v.forkFailures + 1

theorem QueueView.turnsLeft_backoff {entry : RestartQueueEntry} {delayMs : ℚ} {since : Nat}
    (hf : v.frame = some (.backoff entry delayMs since)) :
    v.turnsLeft = 2 * attemptsLeft (v.queue.length + 1) v.forkFailures := by
  rw [turnsLeft, hf]

theorem QueueView.turnsLeft_returned (hf : v.frame = some .returned) :
    v.turnsLeft = 2 * attemptsLeft v.queue.length v.forkFailures + 1 := by
  rw [turnsLeft, hf]

theorem Attempted.turnsLeft {entry : RestartQueueEntry} {delayMs : ℚ}
    (h : Attempted e entry delayMs s v w) :
    w.turnsLeft < 2 * attemptsLeft (v.queue.length + 1) v.forkFailures := by
  rw [QueueView.turnsLeft_returned h.frame]
  unfold attemptsLeft
  cases h with
  | stopped | restarted => dsimp only; omega
  | requeued calls hc ht hok hlimit =>
    rw [List.length_append, List.length_singleton]
    dsimp only
    unfold MAX_CONSECUTIVE_FORK_FAILURES at hlimit
    omega
  | gaveUp =>
    rw [List.length_nil]
    dsimp only
    omega

theorem LoopRan.turnsLeft (h : LoopRan e s v w) :
    w.turnsLeft ≤ 2 * attemptsLeft v.queue.length v.forkFailures := by
  cases h with
  | ended => exact Nat.zero_le _
  | waits entry rest hq hs hdelay =>
    rw [hq]
    exact Nat.le_refl _
  | tried entry rest w hq hs hdelay ha =>
    rw [hq]
    exact Nat.le_of_lt (Attempted.turnsLeft (v := { v with queue := rest }) ha)

/-- Every segment of the processor uses one of its turns. -/
theorem turnsLeft_wait (hact : s.backoffElapsed e = some t) :
    t.queueView.turnsLeft < s.queueView.turnsLeft := by
  obtain ⟨entry, delayMs, since, hf, -, hend⟩ := backoffElapsed_cases hact
  rw [QueueView.turnsLeft_backoff (v := s.queueView) hf]
  rcases hend with ⟨-, hv⟩ | ⟨-, hatt⟩
  · rw [hv, QueueView.turnsLeft_returned rfl]
    dsimp only
    unfold attemptsLeft
    omega
  · exact hatt.turnsLeft

theorem turnsLeft_resume (hact : s.queueReturned e = some t) :
    t.queueView.turnsLeft < s.queueView.turnsLeft := by
  obtain ⟨hf, hran⟩ := queueReturned_cases hact
  rw [QueueView.turnsLeft_returned (v := s.queueView) hf]
  exact Nat.lt_succ_of_le hran.turnsLeft

/-- A segment of the processor. -/
def Action.processesQueue : Action → Bool
  | .timer .backoffWait => true
  | .resume .restartQueue => true
  | _ => false

/-- No request arrives in the segment of `a`, the breaker is not reset, and no roll runs. -/
def queueLeftAlone (e : Host) (s : State) (a : Action) : Prop :=
  s.roll = none ∧ (∀ opts, a ≠ .restartWorkers opts) ∧ a ≠ .resetCircuitBreaker ∧
    ∀ t, s.act e a = some t → arrivals e s a t = []

/-- Only the queue, a roll and a reset count fork failures. -/
theorem forkFailures_kept (hw : WellFormed s) (ha : a.runsQueue = false) (hroll : s.roll = none)
    (hstart : ∀ opts, a ≠ .restartWorkers opts) (hact : s.act e a = some t) :
    t.restart.consecutiveForkFailures = s.restart.consecutiveForkFailures := by
  have hruns {P : Prop} (h : a.runsQueue = true) : P := absurd (ha.symm.trans h) Bool.false_ne_true
  have hboth : t.roll = none ∧
      t.restart.consecutiveForkFailures = s.restart.consecutiveForkFailures := by
    refine (act_turns hw hact).preserves (P := fun x => x.roll = none ∧
      x.restart.consecutiveForkFailures = s.restart.consecutiveForkFailures) hw ?_ ⟨hroll, rfl⟩
    rintro x y - ⟨hnone, hx⟩ (h | h)
    · cases h with
      | queue r hq hm => exact hruns hq
      | attemptFailed entry hq hf => exact hruns hq
      | attempted delayMs hq hs ht hf hok => exact hruns hq
      | forkFailuresCounted n hr => rw [hnone] at hr; cases hr
      | roll r r' hr hm => exact absurd (hnone.symm.trans hr) nofun
      | recomputed hf => rw [recomputeFleetHealth_eq]; exact ⟨hnone, hx⟩
      | degraded y hd ht => rw [degradedElapsed_eq ht]; exact ⟨hnone, hx⟩
      | backoffScheduled id hid hpos => rw [scheduleBackoffReset_eq]; exact ⟨hnone, hx⟩
      | backoffReset y hb ht => rw [backoffResetElapsed_eq ht]; exact ⟨hnone, hx⟩
      | drained r hr hd hs hwhy => rw [drainOldWorker_eq]; exact ⟨hnone, hx⟩
      | shutdown y hs hm => rw [hm.eq]; exact ⟨hnone, hx⟩
      | _ => exact ⟨hnone, hx⟩
    · cases h with
      | died | removed | quarantined | crashed | tripped | queued | resetShutting | breakerReset
      | resetRefilled | rollEnded | rollCompleted | rollRefilled => cases ha
      | rollStarted _ opts => exact absurd rfl (hstart opts)
      | shutdownEntered _ signal hs =>
        rw [shutdownPrimary_eq signal hs]
        exact ⟨hnone, hx⟩
      | _ => exact ⟨hnone, hx⟩
  exact hboth.2

/-- A queue that is left alone only loses turns, and one with every segment of the processor. -/
theorem turnsLeft_act (hidle : s.restart.frame = none → s.restart.pendingRestartQueue = [])
    (hw : WellFormed s) (halone : queueLeftAlone e s a) (hact : s.act e a = some t) :
    t.queueView.turnsLeft + (if a.processesQueue then 1 else 0) ≤ s.queueView.turnsLeft := by
  obtain ⟨hroll, hstart, hreset, harrivals⟩ := halone
  have harr := harrivals t hact
  have hsame {x y : QueueView} (hf : x.frame = y.frame) (hq : x.queue = y.queue)
      (hfail : x.forkFailures = y.forkFailures) : x.turnsLeft ≤ y.turnsLeft := by
    rw [QueueView.turnsLeft, QueueView.turnsLeft, hf, hq, hfail]
  cases hp : a.processesQueue with
  | true =>
    cases a with
    | timer timer =>
      cases timer with
      | backoffWait => exact turnsLeft_wait hact
      | _ => cases hp
    | resume c =>
      cases c with
      | restartQueue => exact turnsLeft_resume hact
      | _ => cases hp
    | _ => cases hp
  | false =>
    show t.queueView.turnsLeft ≤ s.queueView.turnsLeft
    cases ha : a.runsQueue with
    | false =>
      have hkept : QueueKept s t := .act hw ha hact
      exact hsame hkept.frame hkept.queue (forkFailures_kept hw ha hroll hstart hact)
    | true =>
      have hfound : foundQueue s a = s.queueView := by
        cases a with
        | resetCircuitBreaker => exact absurd rfl hreset
        | _ => rfl
      cases queueSegment_of_act hw ha hact with
      | untouched a t _ hv =>
        rw [hv, hfound]
      | kicked a t x hx hs ht hk =>
        rw [hfound, harr, List.append_nil] at hx
        have hx : x.queueView = s.queueView := hx
        rcases hk.cases with ⟨-, hv⟩ | ⟨hr, hl⟩
        · rw [hv, hx]
        · have hrunning : s.restart.restartLoopRunning = false :=
            (congrArg QueueView.running hx).symm.trans hr
          have hempty : s.queueView.queue = [] := hidle (hw.loop hrunning)
          rw [hx] at hl
          have hzero : t.queueView.turnsLeft ≤
              2 * attemptsLeft s.queueView.queue.length s.queueView.forkFailures := hl.turnsLeft
          rw [hempty, List.length_nil, attemptsLeft] at hzero
          omega
      | abandoned | attempted | resumed => cases hp

theorem QueueView.turnsLeft_le (v : QueueView) : v.turnsLeft ≤ 6 * (v.queue.length + 1) := by
  unfold turnsLeft attemptsLeft
  split <;> omega

/-- While a processor is suspended, it will be able to go on. -/
theorem processor_goes_on (hframe : s.restart.frame ≠ none) :
    ∃ ms a t, a.processesQueue = true ∧ ({ s with now := s.now + ms } : State).act e a = some t := by
  cases hf : s.restart.frame with
  | none => exact absurd hf hframe
  | some frame =>
    cases frame with
    | returned =>
      refine ⟨0, .resume .restartQueue, queueLoop e s.restart.pendingRestartQueue
        (({ s with now := s.now + 0 } : State).setQueueFrame none), rfl, ?_⟩
      show ({ s with now := s.now + 0 } : State).queueReturned e = _
      unfold queueReturned
      rw [hf]
    | backoff entry delayMs since =>
      obtain ⟨ms, hms⟩ := exists_nat_ge delayMs
      let late : State := { s with now := s.now + (since + ms) }
      have hdue : delayMs ≤ ((late.now - since : Nat) : ℚ) := by
        have hlate : ms ≤ late.now - since := by
          show ms ≤ s.now + (since + ms) - since
          omega
        exact hms.trans (by exact_mod_cast hlate)
      have hsome : (late.backoffElapsed e).isSome = true := by
        unfold backoffElapsed
        rw [show late.restart.frame = some (.backoff entry delayMs since) from hf]
        simp only
        rw [if_pos hdue]
        split <;> rfl
      obtain ⟨t, ht⟩ := Option.isSome_iff_exists.mp hsome
      exact ⟨since + ms, .timer .backoffWait, t, rfl, ht⟩

/-! ## Runs -/

/-- The observer of the segments of the processor. -/
def noteTurn (_ : State) (a : Action) (_ : State) (turns : Nat) : Nat :=
  turns + if a.processesQueue then 1 else 0

/-- What the restart queue keeps in every reachable state, next to the ledger of its
requests. -/
structure QueueDisciplined (e : Host) (count : WorkerCount) (env : ProcessEnv)
    (x : State × RetryLedger RestartQueueEntry) : Prop where
  waiting : x.2.entries = x.1.restart.pendingRestartQueue
  inFlight : x.2.inFlight.map Prod.snd = x.1.queueView.flying
  oneInFlight : x.2.inFlight.length ≤ 1
  /-- Tickets count the arrivals; the first tries are in the order of the tickets. -/
  firstTries : x.2.firstTries.Pairwise (· > ·)
  forks : ∀ a t, (orchestrator e count env).step x.1 a = some t →
    ∃ calls, t.queueForkCalls = calls ++ x.1.queueForkCalls ∧
      ∀ c ∈ calls, c.isShuttingDown = false ∧ t.breakerTripped = false
  limit : ∀ a t, (orchestrator e count env).step x.1 a = some t → a.runsQueue = true →
    x.1.restart.consecutiveForkFailures < t.restart.consecutiveForkFailures →
    MAX_CONSECUTIVE_FORK_FAILURES ≤ t.restart.consecutiveForkFailures →
      t.restart.pendingRestartQueue = []
  ends : ∀ y turns, ((orchestrator e count env).observed 0 noteTurn).Run
      (fun y a => queueLeftAlone e y.1 a) (x.1, 0) (y, turns) →
    turns ≤ 6 * (x.1.restart.pendingRestartQueue.length + 1)
  goesOn : x.1.restart.frame ≠ none → x.1.process.exited = false →
    ∃ ms late a t, a.processesQueue = true ∧
      (orchestrator e count env).step x.1 (.tick ms) = some late ∧
      (orchestrator e count env).step late a = some t
  idle : x.1.restart.frame = none →
    x.1.restart.restartLoopRunning = false ∧ x.1.restart.pendingRestartQueue = []

section Runs

variable {count : WorkerCount} {env : ProcessEnv}

theorem observed_tracked {x : State × RetryLedger RestartQueueEntry}
    (hrun : ((orchestrator e count env).observed {} (noteRequests e)).Reachable x) :
    RequestsTracked x.1.queueView x.2 :=
  hrun.observed_preserves (P := fun x => RequestsTracked x.1.queueView x.2)
    (fun _ => reachable_wellFormed)
    (fun _ _ _ hw hx _ hs => hx.act hw (orchestrator_step hs))
    ⟨rfl, rfl, .empty, fun _ => ⟨rfl, rfl⟩⟩

theorem reachable_idle (h : (orchestrator e count env).Reachable s) (hf : s.restart.frame = none) :
    s.restart.pendingRestartQueue = [] := by
  have hobserved : ∃ l, ((orchestrator e count env).observed {} (noteRequests e)).Run
      (fun _ _ => True) (State.initial e count env, {}) (s, l) :=
    h.observed _
  obtain ⟨l, hrun⟩ := hobserved
  exact ((observed_tracked hrun).idle hf).2

/-- A run that leaves the queue alone has as many turns as are left, and no more. -/
theorem turns_bounded (h : (orchestrator e count env).Reachable s) {y : State} {turns : Nat}
    (hrun : ((orchestrator e count env).observed 0 noteTurn).Run
      (fun y a => queueLeftAlone e y.1 a) (s, 0) (y, turns)) :
    turns + y.queueView.turnsLeft ≤ s.queueView.turnsLeft := by
  have hboth : (orchestrator e count env).Reachable y ∧
      turns + y.queueView.turnsLeft ≤ s.queueView.turnsLeft := by
    refine hrun.preserves (P := fun y => (orchestrator e count env).Reachable y.1 ∧
      y.2 + y.1.queueView.turnsLeft ≤ s.queueView.turnsLeft) ?_ ⟨h, (Nat.zero_add _).le⟩
    rintro ⟨y, turns⟩ a ⟨z, turns'⟩ ⟨hreach, hle⟩ halone hstep
    obtain ⟨hstep, hnote⟩ := StepSystem.observed_step hstep
    have hnote : turns' = turns + if a.processesQueue then 1 else 0 := hnote
    have hfewer : z.queueView.turnsLeft + (if a.processesQueue then 1 else 0) ≤
        y.queueView.turnsLeft :=
      turnsLeft_act (reachable_idle hreach) (reachable_wellFormed hreach) halone
        (orchestrator_step hstep)
    refine ⟨hreach.step hstep, ?_⟩
    show turns' + z.queueView.turnsLeft ≤ s.queueView.turnsLeft
    have hle : turns + y.queueView.turnsLeft ≤ s.queueView.turnsLeft := hle
    omega
  exact hboth.2

/-- **The restart queue is disciplined** in every reachable state. -/
theorem restart_queue_disciplined (e : Host) (count : WorkerCount) (env : ProcessEnv)
    (x : State × RetryLedger RestartQueueEntry)
    (hrun : ((orchestrator e count env).observed {} (noteRequests e)).Reachable x) :
    QueueDisciplined e count env x := by
  have htracked : RequestsTracked x.1.queueView x.2 := observed_tracked hrun
  have hreach : (orchestrator e count env).Reachable x.1 := hrun.unobserved
  have hw : WellFormed x.1 := reachable_wellFormed hreach
  constructor
  case waiting => exact htracked.entries
  case inFlight => exact htracked.inFlight
  case oneInFlight =>
    have hlength := congrArg List.length htracked.inFlight
    rw [List.length_map] at hlength
    rw [hlength, QueueView.flying]
    split
    · exact Nat.le_refl 1
    · exact Nat.zero_le 1
  case firstTries => exact htracked.fifo.tries
  case forks => exact fun a t hstep => queueForks_allowed hw (orchestrator_step hstep)
  case limit => exact fun a t hstep ha => limit_empties hw ha (orchestrator_step hstep)
  case ends =>
    intro y turns hy
    have hbound := turns_bounded hreach hy
    exact (Nat.le_add_right _ _).trans (hbound.trans (QueueView.turnsLeft_le x.1.queueView))
  case goesOn =>
    intro hframe halive
    obtain ⟨ms, a, t, ha, hact⟩ := processor_goes_on (e := e) hframe
    refine ⟨ms, { x.1 with now := x.1.now + ms }, a, t, ha, ?_, ?_⟩
    · simp only [orchestrator]
      rw [if_neg (by simp [halive])]
      rfl
    · simp only [orchestrator]
      rw [if_neg (by simp [halive])]
      exact hact
  case idle => exact htracked.idle

/-- A second crash arrives while the first restart waits; its restart is tried next. -/
theorem restart_queue_disciplined_two_crashes :
    ∃ x : State × RetryLedger RestartQueueEntry, x.2.firstTries = [1, 0] ∧
      QueueDisciplined {} (.fixed 3) (fun _ => none) x := by
  have hrun := StepSystem.exists_reachable_of_any
    ((orchestrator {} (.fixed 3) fun _ => none).observed {} (noteRequests {}))
    [.run, .pluginsInstalled, .workerExit 1 (some 1) none, .workerExit 2 (some 1) none,
      .tick 1000, .timer .backoffWait, .resume .restartQueue]
    (fun x => decide (x.2.firstTries = [1, 0])) (by decide +kernel)
  obtain ⟨x, hrun, hx⟩ := hrun
  exact ⟨x, of_decide_eq_true hx, restart_queue_disciplined {} _ _ x hrun⟩

end Runs

end ClusterKit
