import ClusterKit.Outcome

/-! What the parts of a segment do to the recycles and to what the workers were sent, outside
a shutdown: a recycle begins, a timer of one is fired or cleared, a drain begins, or a signal
is sent. All the rest keeps them. -/

namespace ClusterKit

open State Relation

variable {e : Host} {s t : State} {a : Action}

/-- No worker of `s` was sent anything on the way to `t`, nor was a new one; who was
disconnected stays so. -/
def SentKept (s t : State) : Prop :=
  ∀ id, (t.worker id).sent = (s.worker id).sent ∧ ((s.worker id).exitedAfterDisconnect = true →
    (t.worker id).exitedAfterDisconnect = true) ∨ s.cluster.ids < id ∧ (t.worker id).sent = []

/-- What happens to one recycle while no drain begins and no signal is sent. -/
inductive Retimed (a : Action) (s : State) (r : Recycle) : Recycle → Prop
  | kept : Retimed a s r r
  | online (ha : a = .workerOnline r.new) : Retimed a s r { r with replacementOnline := true }
  | failsafe (deadline : Nat) (ha : a = .timer (.drainFailsafe r.new))
      (hdue : r.drainFailsafeTimer = some deadline)
      (h : r.replacementOnline = true ∨ s.isDead r.old = true ∨ r.drained = true) :
    Retimed a s r { r with drainFailsafeTimer := none }
  | cleared (r' : Recycle) (hd : s.isDead r.old = true)
      (hr : r' = { r with forceKillTimer := r'.forceKillTimer, sigkillTimer := r'.sigkillTimer })
      (hf : r'.forceKillTimer = r.forceKillTimer ∨ r'.forceKillTimer = none)
      (hs : r'.sigkillTimer = r.sigkillTimer ∨ r'.sigkillTimer = none) : Retimed a s r r'

/-- A turn of a segment outside a shutdown, as far as the drains go. -/
inductive DrainTurn (e : Host) (a : Action) (s : State) : State → Prop
  | kept (t : State) (hr : t.recycles = s.recycles) (h : SentKept s t) : DrainTurn e a s t
  | begun (t : State) (old : Nat) (hl : s.alive old)
      (hr : t.recycles =
        { old := old, new := s.cluster.ids + 1,
          drainFailsafeTimer := some (s.now + e.cfg.workerDrainBudgetMs) } :: s.recycles)
      (hf : (t.worker (s.cluster.ids + 1)).forkedAt = s.now) (h : SentKept s t) :
    DrainTurn e a s t
  | retimed (t : State) (f : Recycle → Recycle) (hr : t.recycles = s.recycles.map f)
      (hf : ∀ r ∈ s.recycles, Retimed a s r (f r)) (h : SentKept s t) : DrainTurn e a s t
  | drained (r : Recycle) (hr : r ∈ s.recycles) (hd : r.drained = false)
      (h : a = .workerOnline r.new ∧ r.replacementOnline = true ∨
        r.replacementOnline = false ∧
          (s.isDead r.new = true ∨ ∃ deadline, r.drainFailsafeTimer = some deadline ∧
            deadline ≤ s.now)) :
    DrainTurn e a s (s.drainOldWorker e r)
  | sigterm (r : Recycle) (deadline : Nat) (ha : a = .timer (.forceKill r.new))
      (hr : r ∈ s.recycles) (ht : r.forceKillTimer = some deadline) (hdue : deadline ≤ s.now)
      (hl : s.alive r.old) :
    DrainTurn e a s ((s.modifyRecycle r.new fun r => { r with
      forceKillTimer := none
      sigkillTimer := some (s.now + (e.cfg.shutdown.sigtermDelayMs + e.cfg.shutdown.sigintDelayMs))
      }).kill .SIGTERM r.old)
  | sigkill (r : Recycle) (deadline : Nat) (ha : a = .timer (.sigkill r.new))
      (hr : r ∈ s.recycles) (ht : r.sigkillTimer = some deadline) (hdue : deadline ≤ s.now)
      (hl : s.alive r.old) :
    DrainTurn e a s
      ((s.modifyRecycle r.new fun r => { r with sigkillTimer := none }).kill .SIGKILL r.old)
  | rollKill (old deadline : Nat) (ha : a = .timer .exitWait)
      (hf : s.rollFrame = some (.exitWait old deadline)) (hdue : deadline ≤ s.now)
      (hl : s.alive old) : DrainTurn e a s (s.kill .SIGKILL old)

namespace SentKept

theorem sent (h : SentKept s t) (id : Nat) : (t.worker id).sent = (s.worker id).sent ∨
    s.cluster.ids < id ∧ (t.worker id).sent = [] :=
  (h id).imp_left And.left

theorem of_workers (h : t.cluster.workers = s.cluster.workers) : SentKept s t := by
  intro id
  have hworker : t.worker id = s.worker id := congrFun h id
  rw [hworker]
  exact .inl ⟨rfl, fun hleft => hleft⟩

theorem modifyWorker (s : State) (id : Nat) {f : Worker → Worker} (hf : ∀ w, (f w).sent = w.sent)
    (hl : ∀ w : Worker, w.exitedAfterDisconnect = true → (f w).exitedAfterDisconnect = true) :
    SentKept s (s.modifyWorker id f) := by
  intro j
  left
  by_cases h : j = id
  · rw [h, worker_modifyWorker_self]
    exact ⟨hf _, hl _⟩
  · rw [worker_modifyWorker_of_ne h]
    exact ⟨rfl, fun hleft => hleft⟩

theorem forked (s : State) (call : ForkCall) : SentKept s (s.forked call) := by
  intro id
  by_cases h : id = s.cluster.ids + 1
  · right
    rw [h, worker_forked_new]
    exact ⟨Nat.lt_succ_self _, rfl⟩
  · left
    rw [worker_forked_of_ne s call h]
    exact ⟨rfl, fun hleft => hleft⟩

theorem then_eq {u : State} (h : SentKept s t) (hu : u.cluster.workers = t.cluster.workers) :
    SentKept s u := by
  intro id
  have hworker : u.worker id = t.worker id := congrFun hu id
  rw [hworker]
  exact h id

end SentKept

/-- What a drain does to the worker. -/
def Worker.drain (now : Nat) (w : Worker) : Worker :=
  if w.dead then w.send now else (w.send now).disconnect now

/-- The drain of `c` begins at `s`. -/
def Recycle.drain (e : Host) (s : State) (c : Recycle) : Recycle :=
  { c with
    drained := true
    drainFailsafeTimer := none
    forceKillTimer := if s.isDead c.old then none else some (s.now + e.cfg.shutdown.timeoutMs) }

theorem State.drainOldWorker_undrained {r : Recycle} (hd : r.drained = false) :
    s.drainOldWorker e r =
      (s.modifyRecycle r.new (Recycle.drain e s)).modifyWorker r.old (Worker.drain s.now) := by
  unfold State.drainOldWorker
  rw [hd]
  rfl

/-- A map that changes the recycle of one replacement. -/
theorem modifyRecycle_retimed {new : Nat} {f : Recycle → Recycle}
    (hf : ∀ r ∈ s.recycles, r.new = new → Retimed a s r (f r)) :
    DrainTurn e a s (s.modifyRecycle new f) := by
  refine .retimed _ _ rfl (fun r hr => ?_) (.of_workers rfl)
  split
  · rename_i hnew
    exact hf r hr hnew
  · exact .kept

/-- Outside a shutdown an effect is a turn of the drains. -/
theorem Effect.drainTurn (hw : WellFormed s) (hs : s.isShuttingDown = false)
    (h : Effect e a s t) : DrainTurn e a s t := by
  have hshut {P : Prop} (h : s.isShuttingDown = true) : P :=
    absurd (hs.symm.trans h) Bool.false_ne_true
  cases h with
  | recomputed ha => rw [recomputeFleetHealth_eq]; exact .kept _ rfl (.of_workers rfl)
  | degraded t ha ht => rw [degradedElapsed_eq ht]; exact .kept _ rfl (.of_workers rfl)
  | backoffScheduled id ha hpos =>
    rw [scheduleBackoffReset_eq]
    exact .kept _ rfl (.of_workers rfl)
  | backoffReset t ha ht => rw [backoffResetElapsed_eq ht]; exact .kept _ rfl (.of_workers rfl)
  | attemptFailed entry ha hf => rw [restartFailed_eq]; exact .kept _ rfl (.of_workers rfl)
  | attempted delayMs ha hs ht hf hok => exact .kept _ rfl ((SentKept.forked s _).then_eq rfl)
  | replaced call old hs hl hc hok =>
    refine .begun _ old hl rfl ?_ ((SentKept.forked s call).then_eq rfl)
    exact congrArg Worker.forkedAt (worker_forked_new s call)
  | cameOnline id ha hl => exact .kept _ rfl (.modifyWorker s id (fun _ => rfl) fun _ h => h)
  | disconnected id => exact .kept _ rfl (.modifyWorker s id (fun _ => rfl) fun _ h => h)
  | replacementOnline new ha hon =>
    exact modifyRecycle_retimed fun r _ hnew => .online (hnew ▸ ha)
  | drained r hr hd hs' hwhy => exact .drained r hr hd (hwhy.imp_left fun h => ⟨h.1, h.2.2⟩)
  | failsafeFired r deadline ha hr ht hdue hidle =>
    refine modifyRecycle_retimed fun c hc hnew => ?_
    rw [hw.recycle_unique hc hr hnew]
    refine .failsafe deadline ha ht ?_
    rcases hidle with hon | hs' | hrest
    · exact .inl hon
    · exact hshut hs'
    · exact .inr hrest
  | forceKillDropped r hr hidle =>
    refine modifyRecycle_retimed fun c hc hnew => ?_
    rw [hw.recycle_unique hc hr hnew]
    exact .cleared _ (hidle.resolve_right fun h => hshut h) rfl (.inr rfl) (.inl rfl)
  | sigkillDropped r hr hidle =>
    refine modifyRecycle_retimed fun c hc hnew => ?_
    rw [hw.recycle_unique hc hr hnew]
    exact .cleared _ (hidle.resolve_right fun h => hshut h) rfl (.inl rfl) (.inr rfl)
  | killTimersCleared old hd =>
    refine .retimed _ _ rfl (fun r hr => ?_) (.of_workers rfl)
    split
    · rename_i hold
      exact .cleared _ (hold ▸ hd) rfl (.inr rfl) (.inr rfl)
    · exact .kept
  | forceKilled r deadline ha hr hu ht hdue hl hs' => exact .sigterm r deadline ha hr ht hdue hl
  | sigkilled r deadline ha hr ht hdue hl hs' => exact .sigkill r deadline ha hr ht hdue hl
  | rollKilled old deadline ha hf hdue hl => exact .rollKill old deadline ha hf hdue hl
  | shutdown t hs' hm => exact hshut hs'
  | _ => exact .kept _ rfl (.of_workers rfl)

/-- So is a bit that does not enter one. -/
theorem Bit.drainTurn (h : Bit e a s t) (ht : t.isShuttingDown = false) : DrainTurn e a s t := by
  cases h with
  | initialForked hok => exact .kept _ rfl (.forked s _)
  | died _ id code signal ha => exact .kept _ rfl (.modifyWorker s id (fun _ => rfl) fun _ h => h)
  | selfDisconnected _ id ha =>
    exact .kept _ rfl (.modifyWorker s id (fun _ => rfl) fun _ _ => rfl)
  | agedRecycled _ id hid hl hs hok =>
    refine .begun _ id hl rfl ?_ ((SentKept.forked s (s.agedCall e id)).then_eq rfl)
    exact congrArg Worker.forkedAt (worker_forked_new s (s.agedCall e id))
  | shutdownEntered _ signal hs =>
    have hentered : (s.shutdownPrimary e signal).isShuttingDown = true := by
      rw [shutdownPrimary_eq signal hs]
      rfl
    exact absurd (ht.symm.trans hentered) Bool.false_ne_true
  | crashed => rw [noteCrash_eq]; exact .kept _ rfl (.of_workers rfl)
  | queued => rw [queueCrash_eq]; exact .kept _ rfl (.of_workers rfl)
  | resetRefilled | rollRefilled => rw [queueRefill_eq]; exact .kept _ rfl (.of_workers rfl)
  | _ => exact .kept _ rfl (.of_workers rfl)

/-- **Quiet rule.** Outside a shutdown, what every turn preserves, a segment preserves; the turns
are later and later states. -/
theorem act_preserves_outside {P : State → Prop} (hw : WellFormed s) (h : s.act e a = some t)
    (ht : t.isShuttingDown = false)
    (hturn : ∀ x y, WellFormed x → x.isShuttingDown = false → y.isShuttingDown = false →
      x.Later y → P x → Turn e a x y → P y)
    (hs : P s) : P t := by
  have hboth : t.isShuttingDown = false → P t := by
    refine (act_turns hw h).preserves (P := fun x => x.isShuttingDown = false → P x) hw ?_
      fun _ => hs
    intro x y hx hPx hxy hy
    have hlater : x.Later y := hxy.elim (fun h => h.moves.later) Bit.later
    have hxs := hlater.not_shutting hy
    exact hturn x y hx hxs hy hlater (hPx hxs) hxy
  exact hboth ht

theorem Turn.now_eq (ha : ∀ ms, a ≠ .tick ms) (h : Turn e a s t) : t.now = s.now :=
  h.elim Effect.now_eq (Bit.now_eq ha)

/-- **Drain rule.** What every turn of the drains preserves, a segment preserves; they are turns at
one moment unless time passes. -/
theorem act_preserves_drains {P : State → Prop} (hw : WellFormed s) (h : s.act e a = some t)
    (ht : t.isShuttingDown = false)
    (hturn : ∀ x y, WellFormed x → x.isShuttingDown = false → x.Later y → P x →
      DrainTurn e a x y → ((∀ ms, a ≠ .tick ms) → y.now = x.now) → P y)
    (hs : P s) : P t := by
  refine act_preserves_outside hw h ht (fun x y hx hxs hys hlater hPx hxy => ?_) hs
  refine hturn x y hx hxs hlater hPx ?_ fun ha => hxy.now_eq ha
  exact hxy.elim (fun h => h.drainTurn hx hxs) fun h => h.drainTurn hys

end ClusterKit
