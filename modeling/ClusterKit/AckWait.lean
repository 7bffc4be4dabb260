import ClusterKit.ShutdownCoordinator

/-! `waitForWorkerAck` of `ShutdownCoordinator`, one wait by itself: the listeners it
registers, its timer, and everything that can settle it. A step is one event of the
worker, the timer, or a change of the worker that no event has announced yet. -/

namespace ClusterKit

/-- The closure of one `waitForWorkerAck(worker)`. -/
structure AckWait where
  worker : Worker
  now : Nat
  onMessage : Bool := false
  onExit : Bool := false
  onDisconnect : Bool := false
  onError : Bool := false
  /-- The deadline of the armed timer. -/
  ackTimeoutId : Option Nat := none
  /-- *History*: the calls of `resolve`, newest first, with the worker as it was. -/
  resolved : List (Bool × Worker) := []

inductive AckEvent where
  | tick (ms : Nat)
  /-- The process is gone, its `exit` is still to be emitted. -/
  | died
  /-- The channel is closed, its `disconnect` is still to be emitted. -/
  | channelClosed
  | message (msg : Option Message)
  | exit
  | disconnect
  | error
  | timeout

namespace AckWait

def cleanup (s : AckWait) : AckWait :=
  { s with
    onMessage := false, onExit := false, onDisconnect := false, onError := false
    ackTimeoutId := none }

def disconnectWorker (s : AckWait) : AckWait :=
  { s with worker := State.disconnectIfConnected s.now s.worker }

def resolve (acked : Bool) (s : AckWait) : AckWait :=
  { s with resolved := (acked, s.worker) :: s.resolved }

def errorHandler (s : AckWait) : AckWait := s.cleanup.resolve false

/-- `worker.send` threw. -/
def sendFailed (s : AckWait) : AckWait := (s.cleanup.disconnectWorker).resolve false

def sendShutdown (throws : Bool) (s : AckWait) : AckWait :=
  if throws then s.sendFailed else { s with worker := s.worker.send s.now }

def ackHandler (e : Host) (msg : Option Message) (s : AckWait) : AckWait :=
  if isTypedMessage msg (e.cfg.shutdown.messagePrefix ++ ":shutdown-ack") then
    (s.cleanup.disconnectWorker).resolve true
  else s

def terminalHandler (s : AckWait) : AckWait := s.cleanup.resolve false

/-- The callback of the timer. -/
def timeoutHandler (s : AckWait) : AckWait := (s.cleanup.disconnectWorker).resolve false

/-- The listeners and the timer are set up. -/
def register (e : Host) (s : AckWait) : AckWait :=
  { s with
    onMessage := true, onExit := true, onDisconnect := true, onError := true
    ackTimeoutId := some (s.now + e.cfg.shutdown.ackTimeoutMs) }

/-- `waitForWorkerAck(worker)` up to its suspension. -/
def start (e : Host) (throws : Bool) (now : Nat) (w : Worker) : AckWait :=
  let s : AckWait := { worker := w, now := now }
  if w.dead || !w.connected then s.resolve true
  else (s.register e).sendShutdown throws

/-- A `once` listener is removed before it runs. -/
def act (e : Host) (s : AckWait) : AckEvent → Option AckWait
  | .tick ms => some { s with now := s.now + ms }
  | .died => some { s with worker := { s.worker with dead := true } }
  | .channelClosed => some { s with worker := { s.worker with connected := false } }
  | .message msg => some (if s.onMessage then s.ackHandler e msg else s)
  | .exit =>
    if s.worker.dead then
      some (if s.onExit then { s with onExit := false }.terminalHandler else s)
    else none
  | .disconnect =>
    if s.worker.connected then none
    else some (if s.onDisconnect then { s with onDisconnect := false }.terminalHandler else s)
  | .error => some (if s.onError then s.errorHandler else s)
  | .timeout =>
    match s.ackTimeoutId with
    | none => none
    | some deadline => if deadline ≤ s.now then some s.timeoutHandler else none

end AckWait

/-- One wait as a step system. -/
def ackWait (e : Host) (throws : Bool) (now : Nat) (w : Worker) : StepSystem AckWait AckEvent where
  init := AckWait.start e throws now w
  step := AckWait.act e

namespace AckWait

variable {e : Host} {throws : Bool} {now : Nat} {w : Worker} {s t : AckWait}

/-! ## The wait inside the orchestrator -/

/-- The orchestrator's step does to the worker what the wait does. -/
theorem start_worker (e : Host) (s : State) (id : Nat) :
    (start e (e.sendThrows id) s.now (s.worker id)).worker = s.startAck e id := by
  unfold start State.startAck sendShutdown
  dsimp only
  split
  · rfl
  · split <;> rfl

/-- And it goes on waiting for the workers whose wait is pending. -/
theorem start_pending (e : Host) (s : State) (id : Nat) :
    (start e (e.sendThrows id) s.now (s.worker id)).resolved = [] ↔ s.waitsForAck e id = true := by
  unfold start State.waitsForAck State.isDead sendShutdown
  dsimp only
  cases (s.worker id).dead <;> cases (s.worker id).connected <;> cases e.sendThrows id <;>
    simp [resolve, register, sendFailed, disconnectWorker, cleanup]

/-! ## What holds at any time -/

/-- Pending, with everything registered, or settled once, with nothing left. -/
inductive Phase (s : AckWait) : Prop
  | pending (deadline : Nat) (hr : s.resolved = []) (hm : s.onMessage = true)
      (hx : s.onExit = true) (hd : s.onDisconnect = true) (he : s.onError = true)
      (ht : s.ackTimeoutId = some deadline)
  | settled (r : Bool × Worker) (hr : s.resolved = [r]) (hm : s.onMessage = false)
      (hx : s.onExit = false) (hd : s.onDisconnect = false) (he : s.onError = false)
      (ht : s.ackTimeoutId = none)

theorem settled_cleanup (acked : Bool) (hr : s.resolved = []) : (s.cleanup.resolve acked).Phase :=
  .settled (acked, s.worker) (congrArg (_ :: ·) hr) rfl rfl rfl rfl rfl

theorem settled_disconnecting (acked : Bool) (hr : s.resolved = []) :
    (s.cleanup.disconnectWorker.resolve acked).Phase :=
  .settled (acked, State.disconnectIfConnected s.now s.worker) (congrArg (_ :: ·) hr)
    rfl rfl rfl rfl rfl

theorem start_phase : (start e throws now w).Phase := by
  unfold start
  dsimp only
  split
  · exact .settled (true, w) rfl rfl rfl rfl rfl rfl
  · unfold sendShutdown
    split
    · exact settled_disconnecting false rfl
    · exact .pending _ rfl rfl rfl rfl rfl rfl

/-- The worker accepts no new connections: it is dead, disconnected, or was told to
disconnect. -/
def closing (w : Worker) : Bool :=
  w.dead || !w.connected || w.sent.any fun p => p.1 == .disconnect

theorem closing_disconnectIfConnected (now : Nat) (w : Worker) :
    closing (State.disconnectIfConnected now w) = true := by
  unfold State.disconnectIfConnected
  split
  · simp [closing, Worker.disconnect]
  · rename_i h
    unfold closing
    cases hd : w.dead with
    | true => rfl
    | false =>
      rw [hd, Bool.not_false, Bool.true_and] at h
      simp [Bool.eq_false_iff.mpr h]

/-- What one step does: nothing to the wait, or it settles a pending one. The `error`
listener alone settles without a look at the worker. -/
inductive StepCase (a : AckEvent) (s t : AckWait) : Prop
  | kept (hk : a = .error → s.resolved ≠ []) (hr : t.resolved = s.resolved) (hp : t.Phase)
  | settled (r : Bool × Worker) (hs : s.resolved = []) (hr : t.resolved = [r]) (hp : t.Phase)
      (hc : a ≠ .error ∧ closing r.2 = true ∨ a = .error ∧ r.2 = s.worker)

/-- A change of the worker or the clock. -/
theorem Phase.moved (hp : s.Phase) (w : Worker) (now : Nat) :
    Phase { s with worker := w, now := now } := by
  cases hp with
  | pending deadline hr hm hx hd he ht => exact .pending deadline hr hm hx hd he ht
  | settled r hr hm hx hd he ht => exact .settled r hr hm hx hd he ht

theorem Phase.resolved_nil (hp : s.Phase)
    (h : s.onMessage = true ∨ s.onExit = true ∨ s.onDisconnect = true ∨ s.onError = true ∨
      s.ackTimeoutId ≠ none) : s.resolved = [] := by
  cases hp with
  | pending deadline hr hm hx hd he ht => exact hr
  | settled r hr hm hx hd he ht =>
    rw [hm, hx, hd, he, ht] at h
    simp at h

theorem Phase.resolved_ne_nil (hp : s.Phase) (h : s.onError = false) : s.resolved ≠ [] := by
  cases hp with
  | pending deadline hr hm hx hd he ht =>
    rw [he] at h
    cases h
  | settled r hr hm hx hd he ht =>
    rw [hr]
    exact List.cons_ne_nil r []

theorem act_cases {a : AckEvent} (hp : s.Phase) (h : s.act e a = some t) : StepCase a s t := by
  cases a with
  | tick ms =>
    obtain rfl := Option.some.inj h
    exact .kept (by simp) rfl (hp.moved _ _)
  | died =>
    obtain rfl := Option.some.inj h
    exact .kept (by simp) rfl (hp.moved _ _)
  | channelClosed =>
    obtain rfl := Option.some.inj h
    exact .kept (by simp) rfl (hp.moved _ _)
  | message msg =>
    obtain rfl := Option.some.inj h
    split
    · rename_i hm
      have hr := hp.resolved_nil (Or.inl hm)
      unfold ackHandler
      split
      · exact .settled _ hr (congrArg (_ :: ·) hr) (settled_disconnecting true hr)
          (Or.inl ⟨by simp, closing_disconnectIfConnected _ _⟩)
      · exact .kept (by simp) rfl hp
    · exact .kept (by simp) rfl hp
  | exit =>
    rw [act] at h
    split at h
    · rename_i hdead
      obtain rfl := Option.some.inj h
      split
      · rename_i hx
        have hr := hp.resolved_nil (Or.inr (Or.inl hx))
        exact .settled (false, s.worker) hr (congrArg (_ :: ·) hr)
          (settled_cleanup (s := { s with onExit := false }) false hr)
          (Or.inl ⟨by simp, by simp [closing, hdead]⟩)
      · exact .kept (by simp) rfl hp
    · cases h
  | disconnect =>
    rw [act] at h
    split at h
    · cases h
    · rename_i hconn
      obtain rfl := Option.some.inj h
      split
      · rename_i hd
        have hr := hp.resolved_nil (Or.inr (Or.inr (Or.inl hd)))
        exact .settled (false, s.worker) hr (congrArg (_ :: ·) hr)
          (settled_cleanup (s := { s with onDisconnect := false }) false hr)
          (Or.inl ⟨by simp, by simp [closing, hconn]⟩)
      · exact .kept (by simp) rfl hp
  | error =>
    obtain rfl := Option.some.inj h
    split
    · rename_i he
      have hr := hp.resolved_nil (Or.inr (Or.inr (Or.inr (Or.inl he))))
      exact .settled (false, s.worker) hr (congrArg (_ :: ·) hr) (settled_cleanup false hr)
        (Or.inr ⟨rfl, rfl⟩)
    · rename_i he
      exact .kept (fun _ => hp.resolved_ne_nil (Bool.eq_false_iff.mpr he)) rfl hp
  | timeout =>
    rw [act] at h
    split at h
    · cases h
    · rename_i deadline ht
      have hr := hp.resolved_nil (Or.inr (Or.inr (Or.inr (Or.inr (by rw [ht]; simp)))))
      split at h
      · obtain rfl := Option.some.inj h
        exact .settled _ hr (congrArg (_ :: ·) hr) (settled_disconnecting false hr)
          (Or.inl ⟨by simp, closing_disconnectIfConnected _ _⟩)
      · cases h

theorem reachable_phase (h : (ackWait e throws now w).Reachable s) : s.Phase := by
  apply StepSystem.Reachable.induct h start_phase
  intro x a y hx hs
  cases act_cases hx hs with
  | kept hk hr hp => exact hp
  | settled r hs hr hp hc => exact hp

/-! ## The law -/

/-- What a wait promises: it settles once at most, and while it is pending its timer is
still to settle it; once settled it holds no listener and no timer; and the worker was
closing when it settled. -/
structure Settles (e : Host) (s : AckWait) : Prop where
  once : s.resolved.length ≤ 1
  timed : s.resolved = [] → ∃ ms x t, s.act e (.tick ms) = some x ∧ x.act e .timeout = some t ∧
    t.resolved.length = 1
  released : s.resolved ≠ [] → s.onMessage = false ∧ s.onExit = false ∧ s.onDisconnect = false ∧
    s.onError = false ∧ s.ackTimeoutId = none
  closed : ∀ r ∈ s.resolved, closing r.2 = true

theorem Phase.settles_iff (hp : s.Phase) :
    s.Settles e ↔ ∀ r ∈ s.resolved, closing r.2 = true := by
  refine ⟨Settles.closed, fun hc => ?_⟩
  cases hp with
  | pending deadline hr hm hx hd he ht =>
    constructor
    case once => rw [hr]; exact Nat.zero_le 1
    case timed =>
      intro _
      let x : AckWait := { s with now := s.now + deadline }
      refine ⟨deadline, x, x.timeoutHandler, rfl, ?_, congrArg (·.length + 1) hr⟩
      rw [act, show x.ackTimeoutId = some deadline from ht]
      exact if_pos (Nat.le_add_left deadline s.now)
    case released => exact fun h => absurd hr h
    case closed => exact hc
  | settled r hr hm hx hd he ht =>
    constructor
    case once => rw [hr]; exact Nat.le_refl 1
    case timed =>
      intro h
      rw [hr] at h
      cases h
    case released => exact fun _ => ⟨hm, hx, hd, he, ht⟩
    case closed => exact hc

/-- An `error` of a worker that is alive, connected and not told to disconnect, while the
wait is pending. -/
def openError (s : AckWait) : AckEvent → Bool
  | .error => s.resolved.isEmpty && !closing s.worker
  | _ => false

/-- **Step lemma.** A step keeps the promise exactly if it is not such an error. -/
theorem act_settles_iff {a : AckEvent} (hp : s.Phase) (h : s.act e a = some t) :
    t.Settles e ↔ s.Settles e ∧ (!s.openError a) = true := by
  cases act_cases hp h with
  | kept hk hr hp' =>
    have ho : s.openError a = false := by
      cases a with
      | error =>
        rw [openError, List.isEmpty_eq_false_iff.mpr (hk rfl)]
        rfl
      | _ => rfl
    rw [hp'.settles_iff, hp.settles_iff, hr, ho]
    exact (and_iff_left rfl).symm
  | settled r hs hr hp' hc =>
    rw [hp'.settles_iff, hp.settles_iff, hr, hs, List.forall_mem_singleton]
    have hnil : ∀ r ∈ ([] : List (Bool × Worker)), closing r.2 = true :=
      fun r hr => absurd hr List.not_mem_nil
    rw [and_iff_right hnil]
    rcases hc with ⟨ha, hc⟩ | ⟨rfl, hw⟩
    · have ho : s.openError a = false := by
        cases a with
        | error => exact absurd rfl ha
        | _ => rfl
      rw [hc, ho]
      exact Iff.rfl
    · rw [hw, openError, hs, List.isEmpty_nil, Bool.true_and, Bool.not_not]

theorem start_closed (e : Host) (throws : Bool) (now : Nat) (w : Worker) :
    ∀ r ∈ (start e throws now w).resolved, closing r.2 = true := by
  unfold start
  dsimp only
  split
  · rename_i h
    show ∀ r ∈ [(true, w)], closing r.2 = true
    rw [List.forall_mem_singleton, closing, h]
    exact Bool.true_or _
  · unfold sendShutdown
    split
    · rw [sendFailed]
      exact List.forall_mem_singleton.mpr (closing_disconnectIfConnected _ _)
    · exact fun r hr => absurd hr List.not_mem_nil

/-- **An ACK wait, exactly.** In every order of events, a wait settles once, leaves no
listener and no timer behind and settles on a worker that is closing, exactly if no step
was an `error` of an open worker during the wait. -/
theorem waitForWorkerAck_iff (e : Host) (throws : Bool) (now : Nat) (w : Worker)
    (as : List AckEvent) (s : AckWait)
    (h : (ackWait e throws now w).exec (fun _ _ => true) (start e throws now w) as = some s) :
    s.Settles e ↔
      (ackWait e throws now w).exec (fun s a => !s.openError a) (start e throws now w) as =
        some s := by
  have hstep : ∀ x a y, (ackWait e throws now w).Reachable x →
      (ackWait e throws now w).step x a = some y →
        (y.Settles e ↔ x.Settles e ∧ (!x.openError a) = true) :=
    fun x a y hx hs => act_settles_iff (reachable_phase hx) hs
  rw [StepSystem.exec_guard_iff hstep as .refl h]
  exact and_iff_right (start_phase.settles_iff.mpr (start_closed e throws now w))

/-- The ACK arrives, then the timer would have been due and an error comes. -/
theorem waitForWorkerAck_acked :
    ∃ s : AckWait, s.resolved.length = 1 ∧ s.Settles {} := by
  let as : List AckEvent := [.message (some ⟨"__wm:shutdown-ack", none, none, none⟩), .tick 4000,
    .error, .channelClosed, .disconnect, .died, .exit]
  let S := ackWait {} false 0 {}
  have hrun : (S.exec (fun s a => !s.openError a) (start {} false 0 {}) as).any
      (fun s => decide (s.resolved.length = 1)) = true := by decide
  obtain ⟨s, hs, hlen⟩ := (Option.any_eq_true ..).mp hrun
  have hiff := waitForWorkerAck_iff {} false 0 {} as s (StepSystem.exec_weaken hs)
  exact ⟨s, of_decide_eq_true hlen, hiff.mpr hs⟩

/-- An `error` event of a live, connected worker: the wait settles and the worker is never
told to disconnect. -/
theorem waitForWorkerAck_error :
    ¬ ∀ (e : Host) (throws : Bool) (now : Nat) (w : Worker) (s : AckWait),
      (ackWait e throws now w).Reachable s → s.Settles e := by
  intro h
  have hrun := StepSystem.exists_reachable_of_any (ackWait {} false 0 {}) [.error]
    (fun s => s.resolved.any fun r => !closing r.2) (by decide)
  obtain ⟨s, hreach, hq⟩ := hrun
  obtain ⟨r, hr, hopen⟩ := List.any_eq_true.mp hq
  rw [(h _ _ _ _ s hreach).closed r hr] at hopen
  cases hopen

end AckWait

end ClusterKit
