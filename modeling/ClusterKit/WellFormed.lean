import ClusterKit.Move

/-! The bookkeeping that every reachable state keeps: who is tracked, marked, timed
and recycled. -/

namespace ClusterKit

open State

namespace State

/-- The workers the manager tracks. -/
def tracked (s : State) : Finset Nat := s.manager.workerStartTimes.keySet

/-- The workers a replacement was forked for. -/
def recycledOld (s : State) : Finset Nat := (s.recycles.map Recycle.old).toFinset

@[simp] theorem mem_recycledOld (s : State) (id : Nat) :
    id ∈ s.recycledOld ↔ ∃ r ∈ s.recycles, r.old = id := by
  simp [recycledOld]

end State

structure WellFormed (s : State) : Prop where
  alive_tracked : ∀ id, s.alive id → id ∈ s.tracked
  tracked_bounded : ∀ id ∈ s.tracked, 1 ≤ id ∧ id ≤ s.cluster.ids
  active : s.metrics.activeWorkers = s.tracked.card
  marked : s.manager.recyclingWorkerIds ⊆ s.tracked
  timed : s.manager.pendingRecycleTimers.keySet ⊆ s.manager.recyclingWorkerIds
  online : s.orch.onlineWorkerIds ⊆ s.tracked
  recycled : ∀ r ∈ s.recycles, r.old < r.new ∧ r.new ≤ s.cluster.ids
  ordered : s.recycles.Pairwise fun a b => b.new < a.new
  loop : s.restart.restartLoopRunning = false → s.restart.frame = none
  frame : s.shutdown.frame ≠ .idle → s.isShuttingDown = true
  disposed : s.manager.disposed = true → s.isShuttingDown = true
  started : s.orch.runPhase = .started → s.orch.hasForked = true

/-! ## What the parts of a move leave alone -/

theorem State.resolveWorkerCount_congr {e : Host} {s t : State}
    (h : t.orch.count = s.orch.count) : t.resolveWorkerCount e = s.resolveWorkerCount e := by
  unfold resolveWorkerCount
  rw [h]

theorem State.resolveWorkerCount_pos (e : Host) (s : State) : 0 < s.resolveWorkerCount e := by
  unfold resolveWorkerCount
  split
  · exact PNat.pos _
  · exact PNat.pos _

section Workers

variable {s : State} {i j : Nat} {f : Worker → Worker}

theorem State.worker_modifyWorker_self : (s.modifyWorker i f).worker i = f (s.worker i) := by
  simp [modifyWorker, Cluster.modify, worker]

theorem State.worker_modifyWorker_of_ne (h : j ≠ i) :
    (s.modifyWorker i f).worker j = s.worker j := by
  simp [modifyWorker, Cluster.modify, worker, Function.update_of_ne h]

theorem State.worker_forked_new (s : State) (call : ForkCall) :
    (s.forked call).worker (s.cluster.ids + 1) =
      { env := workerEnv s.orch.env call.envOverlay, cause := call.cause, forkedAt := s.now } :=
  Function.update_self _ _ _

theorem State.worker_forked_of_ne (s : State) (call : ForkCall) {id : Nat}
    (h : id ≠ s.cluster.ids + 1) : (s.forked call).worker id = s.worker id :=
  Function.update_of_ne h _ _

theorem State.alive_forked (s : State) (call : ForkCall) (id : Nat) :
    (s.forked call).alive id ↔ id = s.cluster.ids + 1 ∨ s.alive id := by
  by_cases h : id = s.cluster.ids + 1
  · rw [h, alive, isDead, worker_forked_new]
    simp
  · rw [alive, isDead, worker_forked_of_ne s call h]
    simp [h, alive, isDead]

theorem State.tracked_forked (s : State) (call : ForkCall) :
    (s.forked call).tracked = insert (s.cluster.ids + 1) s.tracked := by
  simp [forked, trackWorker, clusterFork, tracked]

/-- A restart in its backoff is not `none`. -/
theorem State.frame_ne_none (h : s.inBackoff = true) : s.restart.frame ≠ none := by
  intro hf
  rw [inBackoff, hf] at h
  cases h

/-- A field that `f` does not touch is untouched by `modifyWorker`. -/
theorem State.modifyWorker_field {β : Type*} (g : Worker → β) (hf : ∀ w, g (f w) = g w) :
    g ((s.modifyWorker i f).worker j) = g (s.worker j) := by
  by_cases h : j = i
  · subst h
    rw [worker_modifyWorker_self, hf]
  · rw [worker_modifyWorker_of_ne h]

end Workers

theorem Worker.disconnectIfConnected_dead (now : Nat) (w : Worker) :
    (disconnectIfConnected now w).dead = w.dead := by
  unfold disconnectIfConnected
  split <;> rfl

/-- What a move of the shutdown leaves alone. -/
structure ShutdownKeeps (s t : State) : Prop where
  shutting : t.isShuttingDown = s.isShuttingDown
  cluster : t.cluster.ids = s.cluster.ids ∧ t.cluster.forkCalls = s.cluster.forkCalls
  dead : ∀ id, t.isDead id = s.isDead id
  active : t.metrics.activeWorkers = s.metrics.activeWorkers
  tracked : t.tracked = s.tracked
  marks : t.manager.recyclingWorkerIds = s.manager.recyclingWorkerIds ∧
      t.manager.pendingRecycleTimers = s.manager.pendingRecycleTimers ∨
    t.manager.recyclingWorkerIds = ∅ ∧ t.manager.pendingRecycleTimers = .empty
  orch : t.orch = s.orch
  recycles : t.recycles = s.recycles
  restart : t.restart = s.restart
  roll : t.roll = s.roll
  events : ∃ evs : List Event, (∀ ev ∈ evs, ev.plain = true) ∧ t.events = evs ++ s.events

section Shutdown

variable {e : Host} {s t : State}

theorem ShutdownKeeps.frame (s : State) (frame : ShutdownFrame) :
    ShutdownKeeps s (s.setShutdownFrame frame) :=
  ⟨rfl, ⟨rfl, rfl⟩, fun _ => rfl, rfl, rfl, .inl ⟨rfl, rfl⟩, rfl, rfl, rfl, rfl, [], by simp, rfl⟩

theorem ShutdownKeeps.workers (s : State) (ws : Nat → Worker)
    (h : ∀ id, (ws id).dead = s.isDead id) (frame : ShutdownFrame) (forcedKills : Nat) :
    ShutdownKeeps s { s with
      cluster := { s.cluster with workers := ws }
      shutdown := { s.shutdown with frame := frame }
      metrics := { s.metrics with forcedKills := forcedKills } } :=
  ⟨rfl, ⟨rfl, rfl⟩, h, rfl, rfl, .inl ⟨rfl, rfl⟩, rfl, rfl, rfl, rfl, [], by simp, rfl⟩

theorem ShutdownMove.keeps (h : ShutdownMove e s t) : ShutdownKeeps s t := by
  cases h with
  | ackSettled workers waits waits' hf => exact .frame s _
  | disconnected id =>
    refine .workers s _ (fun j => ?_) s.shutdown.frame s.metrics.forcedKills
    exact modifyWorker_field (j := j) Worker.dead fun w => Worker.disconnectIfConnected_dead s.now w
  | exitWait workers deadline hf => exact .frame s _
  | exitWaitOver t ht =>
    unfold State.exitWaitOver at ht
    split at ht
    · split at ht
      · cases ht
        refine .workers s _ (fun j => ?_) _ s.metrics.forcedKills
        split <;> rfl
      · cases ht
    · cases ht
  | killDelay id t ht =>
    have hkill (signal : Signal) (j : Nat) : ((s.kill signal id).worker j).dead = s.isDead j :=
      modifyWorker_field Worker.dead fun w => rfl
    unfold killDelayElapsed at ht
    split at ht
    · split at ht
      · split at ht
        · split at ht
          · cases ht; exact .frame s _
          · cases ht; exact .workers s _ (hkill .SIGINT) _ s.metrics.forcedKills
        · cases ht
      · split at ht
        · simp only at ht
          split at ht
          · cases ht; exact .frame s _
          · cases ht; exact .workers s _ (hkill .SIGKILL) _ _
        · cases ht
      · cases ht
    · cases ht
  | callbacks workers deadline hf => exact .frame s _
  | resolved t ht =>
    unfold shutdownResolved at ht
    split at ht
    · cases ht
      exact ⟨rfl, ⟨rfl, rfl⟩, fun _ => rfl, rfl, rfl, .inr ⟨rfl, rfl⟩, rfl, rfl, rfl, rfl,
        [.shutdownComplete s.metrics], by simp [Event.plain], rfl⟩
    · cases ht
  | exited t ht =>
    unfold shutdownExitElapsed at ht
    split at ht
    · split at ht
      · cases ht
        exact ⟨rfl, ⟨rfl, rfl⟩, fun _ => rfl, rfl, rfl, .inl ⟨rfl, rfl⟩, rfl, rfl, rfl, rfl,
          [], by simp, rfl⟩
      · cases ht
    · cases ht

end Shutdown

/-! ## Every move keeps the bookkeeping -/

namespace WellFormed

variable {e : Host} {s t : State}

/-- Worker records may change as long as nobody dies or rises. -/
theorem workers (h : WellFormed s) (ws : Nat → Worker) (hd : ∀ id, (ws id).dead = s.isDead id) :
    WellFormed { s with cluster := { s.cluster with workers := ws } } :=
  { h with alive_tracked := fun id ha => h.alive_tracked id ((hd id).symm.trans ha) }

theorem modifyWorker (h : WellFormed s) (id : Nat) {f : Worker → Worker}
    (hf : ∀ w, (f w).dead = w.dead) : WellFormed (s.modifyWorker id f) :=
  h.workers _ fun j => modifyWorker_field (i := id) (j := j) Worker.dead hf

theorem mapRecycles (h : WellFormed s) (f : Recycle → Recycle)
    (hf : ∀ r ∈ s.recycles, (f r).old = r.old ∧ (f r).new = r.new) :
    WellFormed { s with recycles := s.recycles.map f } :=
  { h with
    recycled := fun r hr => by
      obtain ⟨r', hr', rfl⟩ := List.mem_map.mp hr
      rw [(hf r' hr').1, (hf r' hr').2]
      exact h.recycled r' hr'
    ordered := by
      refine List.pairwise_map.mpr (h.ordered.imp_of_mem fun {a b} ha hb hab => ?_)
      rw [(hf a ha).2, (hf b hb).2]
      exact hab }

theorem modifyRecycle (h : WellFormed s) (new : Nat) {f : Recycle → Recycle}
    (hf : ∀ r, (f r).old = r.old ∧ (f r).new = r.new) : WellFormed (s.modifyRecycle new f) := by
  refine h.mapRecycles _ fun r _ => ?_
  split
  · exact hf r
  · exact ⟨rfl, rfl⟩

theorem fresh (h : WellFormed s) : s.cluster.ids + 1 ∉ s.tracked := by
  intro hmem
  have := h.tracked_bounded _ hmem
  omega

theorem forked (h : WellFormed s) (call : ForkCall) : WellFormed (s.forked call) := by
  have hsub : s.tracked ⊆ (s.forked call).tracked := by
    rw [tracked_forked]
    exact Finset.subset_insert _ _
  constructor
  case alive_tracked =>
    intro id ha
    rw [tracked_forked, Finset.mem_insert]
    exact ((alive_forked s call id).mp ha).imp_right (h.alive_tracked id)
  case tracked_bounded =>
    intro id hid
    show 1 ≤ id ∧ id ≤ s.cluster.ids + 1
    rw [tracked_forked, Finset.mem_insert] at hid
    rcases hid with rfl | hid
    · omega
    · have := h.tracked_bounded id hid
      omega
  case active =>
    rw [tracked_forked, Finset.card_insert_of_notMem h.fresh, ← h.active]
    rfl
  case marked => exact h.marked.trans hsub
  case timed => exact h.timed
  case online => exact h.online.trans hsub
  case recycled =>
    intro r hr
    have := h.recycled r hr
    exact ⟨this.1, this.2.trans (Nat.le_succ _)⟩
  case ordered => exact h.ordered
  case loop => exact h.loop
  case frame => exact h.frame
  case disposed => exact h.disposed
  case started => exact h.started

theorem markForRecycling (h : WellFormed s) {id : Nat} (hid : id ∈ s.tracked) :
    WellFormed (s.markForRecycling id) :=
  { h with
    marked := Finset.insert_subset hid h.marked
    timed := h.timed.trans (Finset.subset_insert _ _) }

theorem recycle (h : WellFormed s) {old new : Nat} (hlt : old < new) (hle : new ≤ s.cluster.ids)
    (hnew : ∀ r ∈ s.recycles, r.new < new) : WellFormed (s.recycle e old new) :=
  { h with
    recycled := fun r hr => by
      rcases List.mem_cons.mp hr with rfl | hr
      · exact ⟨hlt, hle⟩
      · exact h.recycled r hr
    ordered := List.pairwise_cons.mpr ⟨hnew, h.ordered⟩ }

theorem replaceWorker (h : WellFormed s) (call : ForkCall) {old : Nat} (hold : s.alive old) :
    WellFormed (s.replaceWorker e call old) := by
  have hmem := h.alive_tracked old hold
  have hmem' : old ∈ (s.forked call).tracked := by
    rw [tracked_forked]
    exact Finset.mem_insert_of_mem hmem
  refine ((h.forked call).markForRecycling hmem').recycle ?_ le_rfl fun r hr => ?_
  · exact Nat.lt_succ_of_le (h.tracked_bounded old hmem).2
  · exact Nat.lt_succ_of_le (h.recycled r hr).2

/-- An id that was not given out yet was not recycled. -/
theorem fresh_not_recycled (hw : WellFormed s) : s.cluster.ids + 1 ∉ s.recycledOld := by
  intro hmem
  obtain ⟨r, hr, hold⟩ := (mem_recycledOld s _).mp hmem
  have := hw.recycled r hr
  omega

/-- A replacement belongs to one recycle. -/
theorem recycle_unique (h : WellFormed s) {r r' : Recycle} (hr : r ∈ s.recycles)
    (hr' : r' ∈ s.recycles) (hnew : r.new = r'.new) : r = r' := by
  have hnodup : (s.recycles.map Recycle.new).Nodup :=
    List.pairwise_map.mpr (h.ordered.imp fun hab => Nat.ne_of_gt hab)
  exact List.inj_on_of_nodup_map hnodup hr hr' hnew

theorem drainOldWorker (h : WellFormed s) (r : Recycle) : WellFormed (s.drainOldWorker e r) := by
  unfold State.drainOldWorker
  split
  · exact h
  · refine (h.modifyRecycle r.new ?_).modifyWorker r.old fun w => ?_
    · exact fun _ => ⟨rfl, rfl⟩
    · split <;> rfl

theorem queueMove (h : WellFormed s) {r : RestartCoordinator} (hm : QueueMove e s r) :
    WellFormed { s with restart := r } := by
  cases hm with
  | pruned => exact { h with }
  | kicked hf => exact { h with loop := fun _ => hf }
  | resumed hf => exact { h with loop := fun _ => rfl }
  | dropped entry rest hq hm => exact { h with }
  | taken entry rest delayMs since hq hm hf hr =>
    exact { h with loop := fun hr' => absurd (hr.symm.trans hr') (by decide) }
  | done hf h' => exact { h with loop := fun _ => rfl }
  | abandoned hf h' => exact { h with loop := fun hr => absurd (h.loop hr) (frame_ne_none hf) }
  | requeued entry hf => exact { h with loop := fun hr => absurd (h.loop hr) (frame_ne_none hf) }

theorem move (h : WellFormed s) (hm : Move e s t) : WellFormed t := by
  cases hm with
  | books b evs hevs => exact { h with }
  | exitCodeOne => exact { h with }
  | exitCodeZero hle => exact { h with }
  | holdReleased id ha => exact { h with }
  | queue r hr => exact h.queueMove hr
  | gaveUp hf => exact { h with loop := fun hr => absurd (h.loop hr) (frame_ne_none hf) }
  | forkFailed call hs hc hfail => exact { h with }
  | restarted hs ht hf hok =>
    exact { h.forked _ with loop := fun hr => absurd (h.loop hr) (frame_ne_none hf) }
  | replaced call old hs ha hc hok => exact h.replaceWorker call ha
  | agedMarked id deadline hs ha hm =>
    refine { h.markForRecycling (h.alive_tracked id ha) with timed := ?_ }
    show (s.manager.pendingRecycleTimers.set id deadline).keySet ⊆ _
    rw [OrdMap.keySet_set]
    exact Finset.insert_subset_insert _ h.timed
  | cameOnline id ha => exact h.modifyWorker id fun _ => rfl
  | onlineNoted id ha =>
    exact { h with online := Finset.insert_subset (h.alive_tracked id ha) h.online }
  | replacementOnline new hn => exact h.modifyRecycle new fun _ => ⟨rfl, rfl⟩
  | timers f hf => exact h.mapRecycles f fun r hr => ⟨(hf r hr).old, (hf r hr).new⟩
  | drained r hr hd hs hwhy => exact h.drainOldWorker r
  | killed signal id hwhy => exact h.modifyWorker id fun _ => rfl
  | disconnected id => exact h.modifyWorker id fun _ => rfl
  | roll r r' hr hm => exact { h with }
  | phase p hp =>
    have hp' : p ≠ .started := by rcases hp with ⟨-, rfl⟩ | ⟨-, rfl⟩ <;> decide
    exact { h with started := fun hstarted => absurd hstarted hp' }
  | shutdown t hs hm =>
    have hk := hm.keeps
    have hcut : t.manager.recyclingWorkerIds ⊆ t.tracked ∧
        t.manager.pendingRecycleTimers.keySet ⊆ t.manager.recyclingWorkerIds := by
      rcases hk.marks with ⟨hm, ht⟩ | ⟨hm, ht⟩
      · rw [hm, ht, hk.tracked]
        exact ⟨h.marked, h.timed⟩
      · rw [hm, ht]
        exact ⟨Finset.empty_subset _, Finset.Subset.refl _⟩
    constructor
    case alive_tracked =>
      intro id ha
      rw [hk.tracked]
      exact h.alive_tracked id ((hk.dead id).symm.trans ha)
    case tracked_bounded => rw [hk.tracked, hk.cluster.1]; exact h.tracked_bounded
    case active => rw [hk.active, hk.tracked]; exact h.active
    case marked => exact hcut.1
    case timed => exact hcut.2
    case online => rw [hk.orch, hk.tracked]; exact h.online
    case recycled => rw [hk.recycles, hk.cluster.1]; exact h.recycled
    case ordered => rw [hk.recycles]; exact h.ordered
    case loop => rw [hk.restart]; exact h.loop
    case frame => exact fun _ => hk.shutting.trans hs
    case disposed => exact fun _ => hk.shutting.trans hs
    case started => rw [hk.orch]; exact h.started

theorem moves (h : WellFormed s) (hm : Moves e s t) : WellFormed t :=
  hm.preserves (fun _ _ hx hxy => hx.move hxy) h

end WellFormed

/-! ## What happened to a worker stays -/

/-- `w'` is a later record of the process of `w`. -/
structure Worker.Grows (w w' : Worker) : Prop where
  env : w'.env = w.env
  cause : w'.cause = w.cause
  forkedAt : w'.forkedAt = w.forkedAt
  online : w.online = true → w'.online = true
  dead : w.dead = true → w'.dead = true
  sent : w.sent <:+ w'.sent
  listed : w'.listed = false → w.listed = false ∨ w'.dead = true ∨ w'.sent ≠ []

namespace Worker.Grows

variable {w w' w'' : Worker}

theorem refl (w : Worker) : w.Grows w := ⟨rfl, rfl, rfl, id, id, List.suffix_rfl, .inl⟩

/-- Nobody comes back to life. -/
theorem alive (h : w.Grows w') (ha : w'.dead = false) : w.dead = false := by
  cases hd : w.dead with
  | false => rfl
  | true => exact absurd (ha.symm.trans (h.dead hd)) (by decide)

/-- What was sent stays sent. -/
theorem sent_ne_nil (h : w.Grows w') (hsent : w.sent ≠ []) : w'.sent ≠ [] := by
  intro hnil
  have hsuffix := h.sent
  rw [hnil, List.suffix_nil] at hsuffix
  exact hsent hsuffix

theorem trans (h : w.Grows w') (h' : w'.Grows w'') : w.Grows w'' where
  env := h'.env.trans h.env
  cause := h'.cause.trans h.cause
  forkedAt := h'.forkedAt.trans h.forkedAt
  online := h'.online ∘ h.online
  dead := h'.dead ∘ h.dead
  sent := h.sent.trans h'.sent
  listed hl := by
    rcases h'.listed hl with hl | hgone
    · rcases h.listed hl with hl | hdead | hsent
      · exact .inl hl
      · exact .inr (.inl (h'.dead hdead))
      · exact .inr (.inr (h'.sent_ne_nil hsent))
    · exact .inr hgone

theorem disconnect (now : Nat) (w : Worker) : w.Grows (w.disconnect now) :=
  ⟨rfl, rfl, rfl, id, id, List.suffix_cons _ _, fun _ => .inr (.inr (List.cons_ne_nil _ _))⟩

theorem send (now : Nat) (w : Worker) : w.Grows (w.send now) :=
  ⟨rfl, rfl, rfl, id, id, List.suffix_cons _ _, .inl⟩

theorem kill (signal : Signal) (now : Nat) (w : Worker) : w.Grows (w.kill signal now) :=
  ⟨rfl, rfl, rfl, id, id, List.suffix_cons _ _, .inl⟩

theorem cameOnline (w : Worker) : w.Grows { w with online := true } :=
  ⟨rfl, rfl, rfl, fun _ => rfl, id, List.suffix_rfl, .inl⟩

theorem selfDisconnected (w : Worker) : w.Grows { w with exitedAfterDisconnect := true } :=
  ⟨rfl, rfl, rfl, id, id, List.suffix_rfl, .inl⟩

theorem died (w : Worker) : w.Grows { w with dead := true, listed := w.listed && w.connected } :=
  ⟨rfl, rfl, rfl, id, fun _ => rfl, List.suffix_rfl, fun _ => .inr (.inl rfl)⟩

theorem disconnected (w : Worker) :
    w.Grows { w with connected := false, listed := w.listed && !w.dead } := by
  refine ⟨rfl, rfl, rfl, id, id, List.suffix_rfl, fun hl => ?_⟩
  rcases Bool.and_eq_false_iff.mp hl with hl | hdead
  · exact .inl hl
  · exact .inr (.inl (by simpa using hdead))

theorem disconnectIfConnected (now : Nat) (w : Worker) : w.Grows (disconnectIfConnected now w) := by
  unfold State.disconnectIfConnected
  split
  · exact .disconnect now w
  · exact .refl w

end Worker.Grows

namespace State

/-- `t` comes after `s`: ids and fork calls are only added, no known worker's record
shrinks, and a shutdown is not taken back. -/
structure Later (s t : State) : Prop where
  ids : s.cluster.ids ≤ t.cluster.ids
  worker : ∀ id ≤ s.cluster.ids, (s.worker id).Grows (t.worker id)
  forkCalls : s.cluster.forkCalls <:+ t.cluster.forkCalls
  shutting : s.isShuttingDown = true → t.isShuttingDown = true

namespace Later

variable {s t u : State}

theorem of_eq (hc : t.cluster = s.cluster) (hs : t.isShuttingDown = s.isShuttingDown) :
    s.Later t := by
  have hworker (id : Nat) : t.worker id = s.worker id := congrArg (Cluster.workers · id) hc
  refine ⟨hc ▸ le_rfl, fun id _ => ?_, hc ▸ List.suffix_rfl, fun h => hs.trans h⟩
  rw [hworker]
  exact .refl _

theorem refl (s : State) : s.Later s := .of_eq rfl rfl

theorem trans (h : s.Later t) (h' : t.Later u) : s.Later u :=
  ⟨h.ids.trans h'.ids, fun id hid => (h.worker id hid).trans (h'.worker id (hid.trans h.ids)),
    h.forkCalls.trans h'.forkCalls, h'.shutting ∘ h.shutting⟩

theorem modifyWorker (s : State) (id : Nat) {f : Worker → Worker}
    (hf : ∀ w : Worker, w.Grows (f w)) : s.Later (s.modifyWorker id f) := by
  refine ⟨le_rfl, fun j _ => ?_, List.suffix_rfl, fun h => h⟩
  by_cases h : j = id
  · subst h
    rw [worker_modifyWorker_self]
    exact hf _
  · rw [worker_modifyWorker_of_ne h]
    exact .refl _

theorem clusterFork (s : State) (call : ForkCall) : s.Later (clusterFork call s) :=
  ⟨le_rfl, fun _ _ => .refl _, List.suffix_cons _ _, fun h => h⟩

theorem forked (s : State) (call : ForkCall) : s.Later (s.forked call) := by
  refine ⟨Nat.le_succ _, fun id hid => ?_, List.suffix_cons _ _, fun h => h⟩
  rw [worker_forked_of_ne s call (by omega)]
  exact .refl _

/-- No shutdown later, none before. -/
theorem not_shutting (h : s.Later t) (ht : t.isShuttingDown = false) :
    s.isShuttingDown = false := by
  cases hs : s.isShuttingDown with
  | false => rfl
  | true => exact absurd (ht.symm.trans (h.shutting hs)) Bool.false_ne_true

/-- Afterwards, a segment changes nothing a later state is compared by. -/
theorem then_eq (h : s.Later t) (hc : u.cluster = t.cluster)
    (hs : u.isShuttingDown = t.isShuttingDown) : s.Later u :=
  h.trans (.of_eq hc hs)

end Later

end State

theorem ShutdownMove.later {e : Host} {s t : State} (h : ShutdownMove e s t) : s.Later t := by
  cases h with
  | ackSettled workers waits waits' hf => exact .of_eq rfl rfl
  | disconnected id => exact .modifyWorker s id (Worker.Grows.disconnectIfConnected s.now)
  | exitWait workers deadline hf => exact .of_eq rfl rfl
  | exitWaitOver t ht =>
    unfold State.exitWaitOver at ht
    split at ht
    · split at ht
      · cases ht
        refine ⟨le_rfl, fun id _ => ?_, List.suffix_rfl, fun h => h⟩
        show (s.worker id).Grows (if _ then _ else _)
        split
        · exact .kill .SIGTERM s.now _
        · exact .refl _
      · cases ht
    · cases ht
  | killDelay id t ht =>
    have hkill (signal : Signal) : s.Later (s.kill signal id) :=
      .modifyWorker s id (Worker.Grows.kill signal s.now)
    unfold killDelayElapsed at ht
    split at ht
    · split at ht
      · split at ht
        · split at ht
          · cases ht; exact .of_eq rfl rfl
          · cases ht; exact (hkill .SIGINT).then_eq rfl rfl
        · cases ht
      · split at ht
        · simp only at ht
          split at ht
          · cases ht; exact .of_eq rfl rfl
          · cases ht; exact (hkill .SIGKILL).then_eq rfl rfl
        · cases ht
      · cases ht
    · cases ht
  | callbacks workers deadline hf => exact .of_eq rfl rfl
  | resolved t ht =>
    unfold shutdownResolved at ht
    split at ht
    · cases ht; exact .of_eq rfl rfl
    · cases ht
  | exited t ht =>
    unfold shutdownExitElapsed at ht
    split at ht
    · split at ht
      · cases ht; exact .of_eq rfl rfl
      · cases ht
    · cases ht

theorem Move.later {e : Host} {s t : State} (h : Move e s t) : s.Later t := by
  cases h with
  | forkFailed call hs hc hfail => exact .clusterFork s call
  | restarted hs ht hf hok => exact (Later.forked s _).then_eq rfl rfl
  | replaced call old hs ha hc hok => exact (Later.forked s call).then_eq rfl rfl
  | cameOnline id ha =>
    exact .modifyWorker s id Worker.Grows.cameOnline
  | drained r hr hd hs hwhy =>
    unfold State.drainOldWorker
    split
    · exact .refl s
    · have h : s.Later (s.drainRecycledWorker r.old) := by
        refine .modifyWorker s r.old fun w => ?_
        split
        · exact .send s.now w
        · exact (Worker.Grows.send s.now w).trans (.disconnect s.now _)
      exact h.then_eq rfl rfl
  | killed signal id hwhy => exact .modifyWorker s id (Worker.Grows.kill signal s.now)
  | disconnected id =>
    exact .modifyWorker s id Worker.Grows.disconnected
  | shutdown t hs hm => exact hm.later
  | books | exitCodeOne | exitCodeZero | holdReleased | queue | gaveUp | agedMarked | onlineNoted
  | replacementOnline | timers | roll | phase => exact .of_eq rfl rfl

theorem Moves.later {e : Host} {s t : State} (h : Moves e s t) : s.Later t :=
  h.preserves (P := fun x => s.Later x) (fun _ _ hx hm => hx.trans hm.later) (.refl s)

/-- Nobody dies in a move. -/
theorem Move.alive {e : Host} {s t : State} {id : Nat} (h : Move e s t) (ha : s.alive id) :
    t.alive id := by
  have hmod (id' : Nat) {f : Worker → Worker} (hf : ∀ w, (f w).dead = w.dead) :
      (s.modifyWorker id' f).alive id :=
    (modifyWorker_field (i := id') (j := id) Worker.dead hf).trans ha
  cases h with
  | restarted hs ht hf hok => exact (alive_forked s _ id).mpr (.inr ha)
  | replaced call old hs ha' hc hok => exact (alive_forked s call id).mpr (.inr ha)
  | cameOnline id' ha' => exact hmod id' fun _ => rfl
  | drained r hr hd hs hwhy =>
    unfold State.drainOldWorker
    split
    · exact ha
    · exact hmod r.old fun w => by split <;> rfl
  | killed signal id' hwhy => exact hmod id' fun _ => rfl
  | disconnected id' => exact hmod id' fun _ => rfl
  | shutdown t hs hm => exact (hm.keeps.dead id).trans ha
  | books | exitCodeOne | exitCodeZero | holdReleased | queue | gaveUp | forkFailed | agedMarked
  | onlineNoted | replacementOnline | timers | roll | phase => exact ha

theorem Moves.alive {e : Host} {s t : State} {id : Nat} (h : Moves e s t) (ha : s.alive id) :
    t.alive id :=
  h.preserves (P := fun x => x.alive id) (fun _ _ hx hm => hm.alive hx) ha

/-- No move starts or ends a shutdown. -/
theorem Move.shutting_eq {e : Host} {s t : State} (h : Move e s t) :
    t.isShuttingDown = s.isShuttingDown := by
  cases h with
  | drained r hr hd hs hwhy =>
    unfold State.drainOldWorker
    split <;> rfl
  | shutdown t hs hm => exact hm.keeps.shutting
  | books | exitCodeOne | exitCodeZero | holdReleased | queue | gaveUp | forkFailed | restarted
  | replaced | agedMarked | cameOnline | onlineNoted | replacementOnline | timers | killed
  | disconnected | roll | phase => rfl

/-- Moves only add to the tracked workers. -/
theorem Move.tracked_subset {e : Host} {s t : State} (h : Move e s t) : s.tracked ⊆ t.tracked := by
  have hforked (call : ForkCall) : s.tracked ⊆ (s.forked call).tracked := by
    rw [tracked_forked]
    exact Finset.subset_insert _ _
  cases h with
  | restarted hs ht hf hok => exact hforked _
  | replaced call old hs ha hc hok => exact hforked call
  | drained r hr hd hs hwhy =>
    unfold State.drainOldWorker
    split <;> exact Finset.Subset.refl _
  | shutdown t hs hm => exact hm.keeps.tracked.symm.subset
  | books | exitCodeOne | exitCodeZero | holdReleased | queue | gaveUp | forkFailed | agedMarked
  | cameOnline | onlineNoted | replacementOnline | timers | killed | disconnected | roll
  | phase => exact Finset.Subset.refl _

theorem Moves.tracked_subset {e : Host} {s t : State} (h : Moves e s t) : s.tracked ⊆ t.tracked :=
  h.preserves (P := fun x => s.tracked ⊆ x.tracked) (fun _ _ hx hm => hx.trans hm.tracked_subset)
    (Finset.Subset.refl _)

/-- Moves only add to the workers a replacement was forked for. -/
theorem Move.recycledOld_subset {e : Host} {s t : State} (h : Move e s t) :
    s.recycledOld ⊆ t.recycledOld := by
  have hmap (f : Recycle → Recycle) (hf : ∀ r ∈ s.recycles, (f r).old = r.old) :
      s.recycledOld ⊆ State.recycledOld { s with recycles := s.recycles.map f } := by
    intro id hid
    obtain ⟨r, hr, rfl⟩ := (mem_recycledOld s id).mp hid
    exact (mem_recycledOld _ _).mpr ⟨f r, List.mem_map_of_mem hr, hf r hr⟩
  cases h with
  | replaced call old hs ha hc hok =>
    intro id hid
    obtain ⟨r, hr, hold⟩ := (mem_recycledOld s id).mp hid
    exact (mem_recycledOld _ _).mpr ⟨r, List.mem_cons_of_mem _ hr, hold⟩
  | replacementOnline new hn => exact hmap _ fun r _ => by split <;> rfl
  | timers f hf => exact hmap f fun r hr => (hf r hr).old
  | drained r hr hd hs hwhy =>
    unfold State.drainOldWorker
    split
    · exact Finset.Subset.refl _
    · exact hmap _ fun r _ => by split <;> rfl
  | shutdown t hs hm =>
    rw [State.recycledOld, State.recycledOld, hm.keeps.recycles]
  | books | exitCodeOne | exitCodeZero | holdReleased | queue | gaveUp | forkFailed | restarted
  | agedMarked | cameOnline | onlineNoted | killed | disconnected | roll
  | phase => exact Finset.Subset.refl _

theorem Moves.recycledOld_subset {e : Host} {s t : State} (h : Moves e s t) :
    s.recycledOld ⊆ t.recycledOld :=
  h.preserves (P := fun x => s.recycledOld ⊆ x.recycledOld)
    (fun _ _ hx hm => hx.trans hm.recycledOld_subset) (Finset.Subset.refl _)

end ClusterKit
