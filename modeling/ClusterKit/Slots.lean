import ClusterKit.Outcome

/-! Who answers for each slot of the fleet: a worker without a replacement, the restart
queue, the quarantine, or a roll that forgot quarantined slots and will refill them. -/

namespace ClusterKit

open State

variable {e : Host} {s t : State} {d : Nat}

/-! ## The account -/

namespace State

/-- Live workers whose replacement was already forked. -/
def replacedLive (s : State) : Finset Nat := s.tracked ∩ s.recycledOld

/-- Slots that were given up or wait for a restart. -/
def openSlots (s : State) : Nat :=
  s.restart.quarantinedSlots + s.restart.pendingRestartQueue.length + s.inBackoff.toNat

/-- Slots the roll in progress took out of the quarantine. -/
def clearedQuarantine (s : State) : Nat := (s.roll.map Roll.clearedQuarantine).getD 0

/-- With `refill` more restarts, every slot of the target is answered for. -/
def slotsMet (e : Host) (refill : Nat) (s : State) : Prop :=
  s.resolveWorkerCount e + s.replacedLive.card ≤ s.metrics.activeWorkers + s.openSlots + refill

/-- How many restarts `refillMissing` asks for. -/
def refill (e : Host) (s : State) : Nat := s.resolveWorkerCount e - s.metrics.activeWorkers

/-- The fleet was started, and the queue restarts what is missing. -/
def restarting (s : State) : Bool :=
  decide (s.orch.runPhase = .started) && !s.restart.trippedSinceReset && !s.restart.gaveUp

/-- A `forkWorker` without overlay would succeed. -/
def canFork (e : Host) (s : State) : Bool :=
  isSafeEnvObject s.orch.env && e.forkOk s.cluster.forkCalls.length

/-- A worker that exits gracefully was disconnected by the drain coordinator. -/
def drainedExit (s : State) : Action → Bool
  | .workerExit id _ _ =>
    !(s.worker id).exitedAfterDisconnect || s.recycles.any fun r => r.old == id && r.drained
  | _ => true

end State

/-- No slot is handed to a worker that already has a replacement: when slots are refilled, no
more such workers are live than there are slots open, no roll bails out on slots it took out of
the quarantine, and no stagger timer unmarks such a worker because its fork failed. -/
def handsSlotsOver (e : Host) (s : State) : Action → Bool
  | .resetCircuitBreaker =>
    !s.restart.trippedSinceReset || s.restart.gaveUp ||
      decide (s.replacedLive.card ≤ s.openSlots + s.clearedQuarantine)
  | .resume .rollReturned =>
    decide (s.clearedQuarantine = 0) || !s.restarting ||
      decide (s.rollFrame = some (.returned .complete)) &&
        decide (s.replacedLive.card ≤ s.openSlots)
  | .timer (.recycleStagger id) => decide (id ∉ s.recycledOld) || !s.isDead id && s.canFork e
  | _ => true

/-- The account of slots, up to a debt that the segment in progress still pays back. -/
structure SlotsKept (e : Host) (debt : Nat) (s : State) : Prop where
  threshold : 0 < s.restart.crashTracker.threshold
  untripped : s.restart.trippedSinceReset = false → s.breakerTripped = false
  replaced : s.replacedLive ⊆ s.manager.recyclingWorkerIds
  met : s.restarting = true → s.slotsMet e (s.clearedQuarantine + debt)

/-! ## What changes the replaced workers -/

theorem State.replacedLive_forked (hw : WellFormed s) (call : ForkCall) :
    (s.forked call).replacedLive = s.replacedLive := by
  have hfresh : s.cluster.ids + 1 ∉ (s.forked call).recycledOld := hw.fresh_not_recycled
  rw [replacedLive, tracked_forked, Finset.insert_inter_of_notMem hfresh]
  rfl

theorem State.replacedLive_recycle (s : State) (old new : Nat) :
    (s.recycle e old new).replacedLive ⊆ insert old s.replacedLive := by
  intro id hid
  simp only [replacedLive, Finset.mem_inter, mem_recycledOld, recycle, List.mem_cons] at hid
  obtain ⟨htracked, r, rfl | hr, rfl⟩ := hid
  · exact Finset.mem_insert_self _ _
  · refine Finset.mem_insert_of_mem (Finset.mem_inter.mpr ⟨htracked, ?_⟩)
    exact (mem_recycledOld s _).mpr ⟨r, hr, rfl⟩

theorem State.recycledOld_recycle (s : State) (old new : Nat) :
    (s.recycle e old new).recycledOld = insert old s.recycledOld := by
  ext id
  simp [recycle, eq_comm]

theorem State.recycledOld_map (s : State) (f : Recycle → Recycle)
    (hf : ∀ r ∈ s.recycles, (f r).old = r.old) :
    State.recycledOld { s with recycles := s.recycles.map f } = s.recycledOld := by
  refine congrArg List.toFinset ?_
  rw [List.map_map]
  exact List.map_congr_left hf

/-! ## What a mark stands for -/

/-- Whoever is marked waits for its replacement or has one. -/
def MarksAccounted (s : State) : Prop :=
  s.manager.recyclingWorkerIds ⊆ s.manager.pendingRecycleTimers.keySet ∪ s.recycledOld

namespace MarksAccounted

theorem of_marks (h : MarksAccounted s)
    (hm : t.manager.recyclingWorkerIds = s.manager.recyclingWorkerIds)
    (ht : t.manager.pendingRecycleTimers = s.manager.pendingRecycleTimers)
    (hold : s.recycledOld ⊆ t.recycledOld) : MarksAccounted t := by
  unfold MarksAccounted
  rw [hm, ht]
  exact h.trans (Finset.union_subset_union_right hold)

theorem of_unmarked (h : t.manager.recyclingWorkerIds = ∅) : MarksAccounted t := by
  unfold MarksAccounted
  rw [h]
  exact Finset.empty_subset _

/-- The mark of `id` goes, with its timer. -/
theorem unmark (h : MarksAccounted s) (id : Nat) :
    s.manager.recyclingWorkerIds.erase id ⊆
      (s.manager.pendingRecycleTimers.delete id).keySet ∪ s.recycledOld := by
  rw [OrdMap.keySet_delete]
  intro j hj
  obtain ⟨hne, hj⟩ := Finset.mem_erase.mp hj
  rcases Finset.mem_union.mp (h hj) with hj | hj
  · exact Finset.mem_union_left _ (Finset.mem_erase.mpr ⟨hne, hj⟩)
  · exact Finset.mem_union_right _ hj

theorem move (h : MarksAccounted s) (hm : Move e s t) : MarksAccounted t := by
  have hold := hm.recycledOld_subset
  cases hm with
  | replaced call old hs ha hc hok =>
    show insert old s.manager.recyclingWorkerIds ⊆ _ ∪ (s.replaceWorker e call old).recycledOld
    rw [replaceWorker, recycledOld_recycle]
    refine Finset.insert_subset ?_ (h.trans ?_)
    · exact Finset.mem_union_right _ (Finset.mem_insert_self _ _)
    · exact Finset.union_subset_union_right (Finset.subset_insert _ _)
  | agedMarked id deadline hs ha hm =>
    show insert id s.manager.recyclingWorkerIds ⊆
      (s.manager.pendingRecycleTimers.set id deadline).keySet ∪ s.recycledOld
    rw [OrdMap.keySet_set, Finset.insert_union]
    exact Finset.insert_subset_insert id h
  | drained r hr hd hs hwhy =>
    have hmanager : (s.drainOldWorker e r).manager = s.manager := by
      unfold drainOldWorker
      split <;> rfl
    exact h.of_marks (by rw [hmanager]) (by rw [hmanager]) hold
  | shutdown t hs hm =>
    rcases hm.keeps.marks with ⟨hmarks, htimers⟩ | ⟨hmarks, -⟩
    · exact h.of_marks hmarks htimers hold
    · exact of_unmarked hmarks
  | _ => exact h.of_marks rfl rfl hold

theorem bit {a : Action} (h : MarksAccounted s) (hb : Bit e a s t) : MarksAccounted t := by
  cases hb with
  | removed | agedDropped | agedFailed => exact h.unmark _
  | agedRecycled _ id ht ha hs hok =>
    have hold : (s.agedRecycled e id).recycledOld = insert id s.recycledOld :=
      recycledOld_recycle ((s.deleteRecycleTimer id).forked (s.agedCall e id)) id _
    show s.manager.recyclingWorkerIds ⊆ (s.manager.pendingRecycleTimers.delete id).keySet ∪ _
    rw [OrdMap.keySet_delete, hold]
    intro j hj
    rcases Finset.mem_union.mp (h hj) with hj | hj
    · by_cases hid : j = id
      · simp [hid]
      · simp [hid, hj]
    · simp [(mem_recycledOld s j).mp hj]
  | crashed =>
    rw [noteCrash_eq]
    exact h
  | queued =>
    rw [queueCrash_eq]
    exact h
  | resetRefilled | rollRefilled =>
    rw [queueRefill_eq]
    exact h
  | shutdownEntered _ signal hs =>
    exact of_unmarked (shutdownPrimary_entered signal hs).marks.1
  | _ => exact h

/-- Marked workers have a pending timer or a replacement. -/
theorem card_le (h : MarksAccounted s) (hw : WellFormed s) :
    s.manager.recyclingWorkerIds.card ≤
      s.manager.pendingRecycleTimers.size + s.replacedLive.card := by
  have hsub : s.manager.recyclingWorkerIds ⊆
      s.manager.pendingRecycleTimers.keySet ∪ s.replacedLive := by
    intro id hid
    rcases Finset.mem_union.mp (h hid) with ht | hold
    · exact Finset.mem_union_left _ ht
    · exact Finset.mem_union_right _ (Finset.mem_inter.mpr ⟨hw.marked hid, hold⟩)
  rw [← OrdMap.card_keySet]
  exact (Finset.card_le_card hsub).trans (Finset.card_union_le _ _)

end MarksAccounted

theorem reachable_marksAccounted {count : WorkerCount} {env : ProcessEnv}
    (h : (orchestrator e count env).Reachable s) : MarksAccounted s := by
  refine run_preserves h (Finset.empty_subset _) fun x a y hw hx _ hact => ?_
  exact (act_pieces hw hact).preserves hw (fun _ _ _ hx hp => hp.elim hx.move hx.bit) hx

namespace SlotsKept

theorem mono {d' : Nat} (h : SlotsKept e d s) (hd : d ≤ d') : SlotsKept e d' s :=
  { h with
    met := fun hr => by
      have := h.met hr
      unfold slotsMet at this ⊢
      omega }

/-- The restart coordinator may change as long as the slots stay answered for. -/
theorem withRestart (h : SlotsKept e d s) (r : RestartCoordinator)
    (htracker : r.crashTracker = s.restart.crashTracker)
    (htrip : r.trippedSinceReset = s.restart.trippedSinceReset)
    (hgave : r.gaveUp = s.restart.gaveUp)
    (hmet : s.restarting = true →
      State.slotsMet e (s.clearedQuarantine + d) { s with restart := r }) :
    SlotsKept e d { s with restart := r } := by
  have hrestarting : State.restarting { s with restart := r } = s.restarting := by
    simp [restarting, htrip, hgave]
  constructor
  case threshold => rw [htracker]; exact h.threshold
  case untripped =>
    intro ht
    rw [breakerTripped, htracker]
    exact h.untripped (htrip ▸ ht)
  case replaced => exact h.replaced
  case met => rw [hrestarting]; exact hmet

theorem mapRecycles (h : SlotsKept e d s) (f : Recycle → Recycle)
    (hf : ∀ r ∈ s.recycles, (f r).old = r.old) :
    SlotsKept e d { s with recycles := s.recycles.map f } := by
  have hold := recycledOld_map s f hf
  have hlive : State.replacedLive { s with recycles := s.recycles.map f } = s.replacedLive :=
    congrArg (s.tracked ∩ ·) hold
  exact { h with
    replaced := by rw [hlive]; exact h.replaced
    met := fun hr => by
      have := h.met hr
      unfold slotsMet at this ⊢
      rwa [hlive] }

/-! ## The restart queue -/

/-- A breaker that was not tripped since its reset stops nothing. -/
theorem not_tripped (h : SlotsKept e d s) (hr : s.restarting = true) :
    s.breakerTripped = false := by
  simp only [restarting, Bool.and_eq_true, Bool.not_eq_true'] at hr
  exact h.untripped hr.1.2

theorem queueMove (h : SlotsKept e d s) (hs : s.isShuttingDown = false) {r : RestartCoordinator}
    (hm : QueueMove e s r) : SlotsKept e d { s with restart := r } := by
  cases hm with
  | pruned =>
    exact { h with
      untripped := fun ht => (CrashTracker.isTripped_prune _ _).trans (h.untripped ht) }
  | kicked hf => exact h.withRestart _ rfl rfl rfl h.met
  | resumed hf =>
    refine h.withRestart _ rfl rfl rfl fun hr => ?_
    have := h.met hr
    simp [slotsMet, openSlots, inBackoff, hf] at this ⊢
    exact this
  | dropped entry rest hq hm =>
    -- enough unmarked workers are live, and the replaced ones are all marked
    refine h.withRestart _ rfl rfl rfl fun _ => ?_
    have hmarks := Finset.card_le_card h.replaced
    have hsettled : (s.resolveWorkerCount e : Int) ≤
        s.metrics.activeWorkers - s.manager.recyclingWorkerIds.card := by
      unfold missingWorkers settledWorkers getRecyclingCount at hm
      omega
    show s.resolveWorkerCount e + s.replacedLive.card ≤ _
    show _ ≤ s.metrics.activeWorkers + _ + _
    omega
  | taken entry rest delayMs since hq hm hf hr =>
    refine h.withRestart _ rfl rfl rfl fun hr => ?_
    have := h.met hr
    simp only [slotsMet, openSlots, inBackoff, hf, hq, List.length_cons, Bool.toNat_false,
      Bool.toNat_true] at this ⊢
    show s.resolveWorkerCount e + s.replacedLive.card ≤ s.metrics.activeWorkers + _ + _
    omega
  | done hf hwhy =>
    refine h.withRestart _ rfl rfl rfl fun hr => ?_
    rcases hwhy with hwhy | hwhy | hwhy
    · exact absurd (hs.symm.trans hwhy) (by decide)
    · exact absurd ((h.not_tripped hr).symm.trans hwhy) (by decide)
    · have := h.met hr
      simp only [slotsMet, openSlots, inBackoff, hf, hwhy] at this ⊢
      exact this
  | abandoned hf hwhy =>
    refine h.withRestart _ rfl rfl rfl fun hr => ?_
    rcases hwhy with hwhy | hwhy
    · exact absurd (hs.symm.trans hwhy) (by decide)
    · exact absurd ((h.not_tripped hr).symm.trans hwhy) (by decide)
  | requeued entry hf =>
    refine h.withRestart _ rfl rfl rfl fun hr => ?_
    have := h.met hr
    rw [slotsMet, openSlots, hf] at this
    simp only [slotsMet, openSlots, inBackoff, List.length_append, List.length_singleton,
      Bool.toNat_false, Bool.toNat_true] at this ⊢
    show s.resolveWorkerCount e + s.replacedLive.card ≤ s.metrics.activeWorkers + _ + _
    omega

/-! ## Forks -/

/-- A fork without a slot of its own fills one that was owed. -/
theorem forked (h : SlotsKept e d s) (hw : WellFormed s) (call : ForkCall) :
    SlotsKept e (d - 1) (s.forked call) := by
  have hlive := replacedLive_forked hw call
  exact { h with
    replaced := by rw [hlive]; exact h.replaced
    met := fun hr => by
      have := h.met hr
      unfold slotsMet at this ⊢
      rw [hlive]
      show s.resolveWorkerCount e + _ ≤ s.metrics.activeWorkers + 1 + s.openSlots +
        (s.clearedQuarantine + (d - 1))
      omega }

theorem restarted (h : SlotsKept e d s) (hw : WellFormed s) (hf : s.inBackoff = true)
    (call : ForkCall) :
    SlotsKept e d ((s.forked call).setQueueFrame (some .returned)) := by
  have hforked := (h.mono (Nat.le_succ d)).forked hw call
  refine hforked.withRestart _ rfl rfl rfl fun hr => ?_
  have hmet := h.met hr
  have hlive := replacedLive_forked hw call
  rw [slotsMet, openSlots, hf] at hmet
  show s.resolveWorkerCount e + (s.forked call).replacedLive.card ≤
    s.metrics.activeWorkers + 1 + (s.restart.quarantinedSlots +
      s.restart.pendingRestartQueue.length + 0) + (s.clearedQuarantine + d)
  rw [hlive]
  simp only [Bool.toNat_true] at hmet
  omega

/-- A worker gets a replacement: one more fork, and at most one more replaced worker. -/
theorem met_recycled (h : SlotsKept e d s) (hw : WellFormed s) (call : ForkCall) (old new : Nat)
    (hr : s.restarting = true) :
    ((s.forked call).recycle e old new).slotsMet e (s.clearedQuarantine + d) := by
  have hmet := h.met hr
  have hsub := replacedLive_recycle (e := e) (s.forked call) old new
  rw [replacedLive_forked hw call] at hsub
  have hcard := (Finset.card_le_card hsub).trans (Finset.card_insert_le _ _)
  unfold slotsMet at hmet ⊢
  show s.resolveWorkerCount e + _ ≤ s.metrics.activeWorkers + 1 + s.openSlots +
    (s.clearedQuarantine + d)
  omega

theorem workerReplaced (h : SlotsKept e d s) (hw : WellFormed s) (call : ForkCall) (old : Nat) :
    SlotsKept e d (s.replaceWorker e call old) := by
  have hsub := replacedLive_recycle (e := e) (s.forked call) old (s.cluster.ids + 1)
  rw [replacedLive_forked hw call] at hsub
  constructor
  case threshold => exact h.threshold
  case untripped => exact h.untripped
  case replaced => exact hsub.trans (Finset.insert_subset_insert _ h.replaced)
  case met => exact fun hr => h.met_recycled hw call old _ hr

theorem agedRecycled (h : SlotsKept e d s) (hw : WellFormed s) {id : Nat}
    (ht : id ∈ s.manager.pendingRecycleTimers.keySet) : SlotsKept e d (s.agedRecycled e id) := by
  have hsub := replacedLive_recycle (e := e) (s.forked (s.agedCall e id)) id (s.cluster.ids + 1)
  rw [replacedLive_forked hw (s.agedCall e id)] at hsub
  constructor
  case threshold => exact h.threshold
  case untripped => exact h.untripped
  case replaced => exact hsub.trans (Finset.insert_subset (hw.timed ht) h.replaced)
  case met => exact fun hr => h.met_recycled hw (s.agedCall e id) id _ hr

/-- The timer of an aged worker is gone, and so is its mark. -/
theorem agedDropped (h : SlotsKept e d s) {id : Nat} (hid : id ∉ s.recycledOld) :
    SlotsKept e d (s.agedDropped id) :=
  { h with
    replaced := by
      intro j hj
      refine Finset.mem_erase.mpr ⟨?_, h.replaced hj⟩
      rintro rfl
      exact hid (Finset.mem_inter.mp hj).2 }

/-- A worker is forgotten: a slot is owed unless its replacement was forked before. -/
theorem removed (h : SlotsKept e d s) (hw : WellFormed s) {id : Nat} (hid : id ∈ s.tracked) :
    SlotsKept e (d + if id ∈ s.recycledOld then 0 else 1) (s.removed id) := by
  have htracked : (s.removed id).tracked = s.tracked.erase id := OrdMap.keySet_delete _ _
  have hlive : (s.removed id).replacedLive = s.replacedLive.erase id := by
    rw [replacedLive, htracked, Finset.erase_inter]
    rfl
  constructor
  case threshold => exact h.threshold
  case untripped => exact h.untripped
  case replaced => rw [hlive]; exact Finset.erase_subset_erase id h.replaced
  case met =>
    intro hr
    have hmet := h.met hr
    have hactive : 0 < s.metrics.activeWorkers := by
      rw [hw.active]
      exact Finset.card_pos.mpr ⟨id, hid⟩
    unfold slotsMet at hmet ⊢
    rw [hlive]
    show s.resolveWorkerCount e + _ ≤ s.metrics.activeWorkers - 1 + s.openSlots +
      (s.clearedQuarantine + _)
    by_cases hold : id ∈ s.recycledOld
    · have hmem : id ∈ s.replacedLive := Finset.mem_inter.mpr ⟨hid, hold⟩
      have hpos := Finset.card_pos.mpr ⟨id, hmem⟩
      rw [Finset.card_erase_of_mem hmem, if_pos hold]
      omega
    · have hle := Finset.card_erase_le (s := s.replacedLive) (a := id)
      rw [if_neg hold]
      omega

/-! ## Moves -/

theorem beginRoll (h : SlotsKept e d s) (hr : s.roll = none) (opts : RestartOptions)
    (targeted : List Nat) : SlotsKept e d (s.beginRoll opts targeted) :=
  { h with
    met := fun hrestarting => by
      have := h.met hrestarting
      simp only [slotsMet, openSlots, State.clearedQuarantine, hr, Option.map_none,
        Option.getD_none] at this
      show s.resolveWorkerCount e + s.replacedLive.card ≤ s.metrics.activeWorkers +
        (0 + s.restart.pendingRestartQueue.length + s.inBackoff.toNat) +
        (s.restart.quarantinedSlots + d)
      omega }

theorem rollMove (h : SlotsKept e d s) {r r' : Roll} (hr : s.roll = some r)
    (hm : RollMove e s r r') : SlotsKept e d { s with roll := some r' } := by
  have hsame : r'.clearedQuarantine = r.clearedQuarantine := by cases hm <;> rfl
  exact { h with
    met := fun hrestarting => by
      have hmet := h.met hrestarting
      simp only [State.clearedQuarantine, hr, Option.map_some, Option.getD_some] at hmet ⊢
      rw [hsame]
      exact hmet }

theorem move (h : SlotsKept e d s) (hw : WellFormed s) (hm : Move e s t)
    (hs : s.isShuttingDown = false) : SlotsKept e d t := by
  cases hm with
  | queue r hq => exact h.queueMove hs hq
  | gaveUp hf =>
    exact { h with met := fun hr => by simp [restarting, giveUp, setExitCode] at hr }
  | restarted hs' ht hf hok => exact h.restarted hw hf _
  | replaced call old hs' ha hc hok => exact h.workerReplaced hw call old
  | agedMarked id deadline hs' ha hm =>
    exact { h with replaced := h.replaced.trans (Finset.subset_insert _ _) }
  | replacementOnline new hn => exact h.mapRecycles _ fun r _ => by split <;> rfl
  | timers f hf => exact h.mapRecycles f fun r hr => (hf r hr).old
  | drained r hr hd hs' hwhy =>
    unfold drainOldWorker
    split
    · exact h
    · have hmap : SlotsKept e d (s.modifyRecycle r.new fun r => { r with
          drained := true
          drainFailsafeTimer := none
          forceKillTimer := if s.isDead r.old then none else
            some (s.now + e.cfg.shutdown.timeoutMs) }) :=
        h.mapRecycles _ fun r _ => by split <;> rfl
      exact { hmap with }
  | roll r r' hr hm => exact h.rollMove hr hm
  | phase p hp =>
    have hp' : p ≠ .started := by rcases hp with ⟨-, rfl⟩ | ⟨-, rfl⟩ <;> decide
    exact { h with
      met := fun hr => by simp [restarting, setRunPhase, hp'] at hr }
  | shutdown t hs' hm => exact absurd (hs.symm.trans hs') (by decide)
  | books | exitCodeOne | exitCodeZero | holdReleased | forkFailed | cameOnline | onlineNoted
  | killed | disconnected => exact { h with }

theorem moves (h : SlotsKept e d s) (hw : WellFormed s) (hm : Moves e s t)
    (ht : t.isShuttingDown = false) : SlotsKept e d t := by
  induction hm with
  | refl => exact h
  | tail hxy hyz ih =>
    have hy := hyz.later.not_shutting ht
    exact (ih hy).move (hw.moves hxy) hyz hy

/-! ## Segments -/

theorem queueRefill {count : Nat} (h : SlotsKept e (d + count) s) :
    SlotsKept e d (s.queueRefill count) := by
  rw [queueRefill_eq]
  exact { h with
    met := fun hr => by
      have hmet := h.met hr
      unfold slotsMet openSlots at hmet ⊢
      simp only [List.length_append, List.length_replicate]
      show s.resolveWorkerCount e + s.replacedLive.card ≤ s.metrics.activeWorkers +
        (_ + (_ + count) + s.inBackoff.toNat) + (s.clearedQuarantine + d)
      omega }

theorem quarantineSlot (h : SlotsKept e (d + 1) s) : SlotsKept e d s.quarantineSlot :=
  { h with
    met := fun hr => by
      have hmet := h.met hr
      unfold slotsMet at hmet ⊢
      show s.resolveWorkerCount e + s.replacedLive.card ≤ s.metrics.activeWorkers +
        (s.restart.quarantinedSlots + 1 + s.restart.pendingRestartQueue.length +
          s.inBackoff.toNat) + (s.clearedQuarantine + d)
      unfold openSlots at hmet
      omega }

/-- The crash of a worker is noted and its restart queued. -/
theorem queueCrash (h : SlotsKept e (d + 1) s) (entry : RestartQueueEntry)
    (ht : s.noteCrash.breakerTripped = false) :
    SlotsKept e d (s.noteCrash.queueCrash entry) := by
  rw [queueCrash_eq]
  rw [noteCrash_eq] at ht ⊢
  exact { h with
    threshold := by simpa using h.threshold
    untripped := fun _ => ht
    met := fun hr => by
      have hmet := h.met hr
      unfold slotsMet openSlots at hmet ⊢
      simp only [List.length_append, List.length_singleton]
      show s.resolveWorkerCount e + s.replacedLive.card ≤ s.metrics.activeWorkers +
        (_ + (_ + 1) + s.inBackoff.toNat) + (s.clearedQuarantine + d)
      omega }

/-- Once the breaker tripped, nothing is promised. -/
theorem breakerTrip (h : SlotsKept e (d + 1) s) : SlotsKept e d s.noteCrash.breakerTrip := by
  rw [noteCrash_eq]
  exact { h with
    threshold := by simpa [State.breakerTrip] using h.threshold
    untripped := fun ht => by simp [State.breakerTrip] at ht
    met := fun hr => by simp [restarting, State.breakerTrip] at hr }

theorem of_quiet (h : SlotsKept e d s) (hw : WellFormed s) (hq : Quiet s t)
    (hs : s.isShuttingDown = false) : SlotsKept e d t :=
  h.move hw hq.move hs

theorem refillMissing (h : SlotsKept e (s.refill e) s) (hw : WellFormed s)
    (hs : (s.refillMissing e).isShuttingDown = false) : SlotsKept e 0 (s.refillMissing e) := by
  have hqueued : SlotsKept e 0 (s.queueRefill (s.refill e)) :=
    queueRefill (by simpa using h)
  have hwq := hw.queueRefill (s.refill e)
  exact hqueued.moves hwq (kickRestartQueue_moves hwq) hs

theorem workerExit (h : SlotsKept e 0 s) (hw : WellFormed s) {id : Nat} {code : Option Int}
    {signal : Option String} (hact : s.act e (.workerExit id code signal) = some t)
    (hgraceful : s.drainedExit (.workerExit id code signal) = true)
    (ht : t.isShuttingDown = false) : SlotsKept e 0 t := by
  have hlater := (act_pieces hw hact).later
  obtain ⟨m, hran, hout⟩ := workerExit_outcome hw hact
  have hs := hlater.not_shutting ht
  have hsm : m.isShuttingDown = false := hran.same.shutting.trans hs
  have hwd := hw.markDead id
  have hdied : SlotsKept e 0 (s.markDead id) := { h with }
  have hm : SlotsKept e 0 m := hdied.moves hwd hran.moves hsm
  have hremoved := hm.removed hran.wellFormed hran.tracked
  have hwr := hran.wellFormed.removed hran.dead hran.tracked
  have howed : SlotsKept e 1 (m.removed id) :=
    hremoved.mono (by split <;> omega)
  cases hout with
  | unheard hdisp =>
    exact absurd (hsm.symm.trans (hran.wellFormed.disposed hdisp)) (by decide)
  | drained t hwhy hq =>
    -- a graceful exit is the end of a drain, so the replacement was forked before
    have hgr : (s.worker id).exitedAfterDisconnect = true := by
      rw [← hran.graceful]
      exact hwhy.resolve_left (by simp [hsm])
    have hold : id ∈ m.recycledOld := by
      apply hran.moves.recycledOld_subset
      simp only [drainedExit, hgr, Bool.not_true, Bool.false_or, List.any_eq_true,
        Bool.and_eq_true, beq_iff_eq] at hgraceful
      obtain ⟨r, hr, hrold, -⟩ := hgraceful
      exact (mem_recycledOld s id).mpr ⟨r, hr, hrold⟩
    rw [if_pos hold] at hremoved
    exact hremoved.of_quiet hwr hq hsm
  | quarantined b hs' hq hg => exact (howed.of_quiet hwr hq hsm).quarantineSlot
  | tripped b hs' hq hg htrip => exact (howed.of_quiet hwr hq hsm).breakerTrip
  | queued b entry hs' hq hg htrip =>
    have hqueued := (howed.of_quiet hwr hq hsm).queueCrash entry htrip
    have hwq := ((hwr.of_quiet hq).noteCrash).queueCrash entry
    exact hqueued.moves hwq (kickRestartQueue_moves hwq) ht

theorem clusterFork (h : SlotsKept e d s) (call : ForkCall) :
    SlotsKept e d (State.clusterFork call s) := { h with }

theorem overrideWorkerCount (h : SlotsKept e d s) (hw : WellFormed s) (n : Nat) :
    SlotsKept e d (s.overrideWorkerCount n) := by
  rcases overrideWorkerCount_outcome n s with heq | ⟨hforked, count, heq⟩
  · rw [heq]
    exact h
  · rw [heq]
    exact { h with
      met := fun hr => by
        simp only [restarting, setCount, Bool.and_eq_true] at hr
        exact absurd (hforked.symm.trans (hw.started (of_decide_eq_true hr.1.1))) (by decide) }

theorem patchWorkerEnv (h : SlotsKept e d s) (env : ProcessEnv) :
    SlotsKept e d (s.patchWorkerEnv env) := by
  rcases patchWorkerEnv_outcome env s with heq | ⟨-, heq⟩
  · rw [heq]
    exact h
  · rw [heq]
    exact { h with }

theorem restartWorkers (h : SlotsKept e d s) (hw : WellFormed s) (opts : RestartOptions)
    (ht : (s.restartWorkers e opts).isShuttingDown = false) :
    SlotsKept e d (s.restartWorkers e opts) := by
  rcases restartWorkers_outcome (e := e) opts s with heq | ⟨hs, hr, hm⟩
  · rw [heq]
    exact h
  · exact (h.beginRoll hr opts _).moves (hw.bit (e := e) (.rollStarted s opts hs hr)) hm ht

theorem startPrimary (h : SlotsKept e 0 s) (hw : WellFormed s) (hs : s.isShuttingDown = false) :
    SlotsKept e 0 (s.startPrimary e (s.resolveWorkerCount e)) := by
  let target := s.resolveWorkerCount e
  let y := (State.forkWorkers e target s.forking).2
  have hforking : SlotsKept e 0 s.forking := { h with }
  have horch : y.orch = s.forking.orch := forkWorkers_orch target s.forking
  -- the forks do not change who has a replacement
  obtain ⟨hwy, hsy, hy, hlive⟩ : WellFormed y ∧ y.isShuttingDown = false ∧ SlotsKept e 0 y ∧
      y.replacedLive = s.replacedLive := by
    refine forkWorkers_preserves (P := fun x => WellFormed x ∧ x.isShuttingDown = false ∧
      SlotsKept e 0 x ∧ x.replacedLive = s.replacedLive) ?_ ?_ target s.forking ?_
    · intro x ⟨hwx, hsx, hx, hl⟩ hfail
      exact ⟨{ hwx with }, hsx, hx.clusterFork _, hl⟩
    · intro x ⟨hwx, hsx, hx, hl⟩ hok
      exact ⟨hwx.forked _, hsx, hx.forked hwx _, (replacedLive_forked hwx _).trans hl⟩
    · exact ⟨hw.forking, hs, hforking, rfl⟩
  rcases startPrimary_outcome (e := e) target s with ⟨-, heq⟩ | ⟨hok, hq⟩
  · rw [heq]
    exact { hy with
      met := fun hr => by simp [restarting, setRunPhase] at hr }
  · have hactive := forkWorkers_active hok
    have hstarted : SlotsKept e 0 (y.setRunPhase .started) :=
      { hy with
        met := fun _ => by
          have htarget : (y.setRunPhase .started).resolveWorkerCount e = target :=
            resolveWorkerCount_congr (by rw [setRunPhase, horch]; rfl)
          have hle : s.replacedLive.card ≤ s.metrics.activeWorkers := by
            rw [hw.active]
            exact Finset.card_le_card Finset.inter_subset_left
          unfold slotsMet
          rw [htarget]
          show target + y.replacedLive.card ≤ y.metrics.activeWorkers + _ + _
          rw [hlive, hactive]
          show _ ≤ s.metrics.activeWorkers + target + _ + _
          omega }
    have hforked : y.orch.hasForked = true := by rw [horch]; rfl
    exact hstarted.of_quiet { hwy with started := fun _ => hforked } hq hsy

/-- The stagger timer of an aged worker fires. -/
theorem staggerElapsed (h : SlotsKept e 0 s) (hw : WellFormed s) {id : Nat}
    (hact : s.staggerElapsed e id = some t)
    (hok : handsSlotsOver e s (.timer (.recycleStagger id)) = true)
    (hs : s.isShuttingDown = false) : SlotsKept e 0 t := by
  obtain ⟨htimer, hout⟩ := staggerElapsed_outcome hact
  -- the mark goes without a fork only if nobody was forked for this worker before
  have hdropped (hfail : (!s.isDead id && s.canFork e) = false) :
      SlotsKept e 0 (s.agedDropped id) := by
    refine h.agedDropped ?_
    simpa [handsSlotsOver, hfail] using hok
  cases hout with
  | dropped hwhy =>
    refine hdropped ?_
    rw [hwhy.resolve_right (by simp [hs])]
    rfl
  | unsafeEnv ha hs' henv => exact hdropped (by simp [canFork, henv])
  | forkFailed ha hs' hfail =>
    refine (hdropped ?_).clusterFork _
    have hfail : e.forkOk s.cluster.forkCalls.length = false := hfail
    simp [canFork, hfail]
  | recycled t ha hs' hforked hq =>
    exact (h.agedRecycled hw htimer).of_quiet (hw.agedRecycled ha) hq hs

theorem resetCircuitBreaker (h : SlotsKept e 0 s) (hw : WellFormed s)
    (hok : handsSlotsOver e s .resetCircuitBreaker = true)
    (hs : (s.resetCircuitBreaker e).isShuttingDown = false) :
    SlotsKept e 0 (s.resetCircuitBreaker e) := by
  have hs₀ : s.isShuttingDown = false :=
    (act_pieces (e := e) (a := .resetCircuitBreaker) hw rfl).later.not_shutting hs
  have hreset : SlotsKept e (s.refill e) s.breakerReset :=
    { h with
      untripped := fun _ => CrashTracker.isTripped_reset _ h.threshold
      met := fun hr => by
        simp only [restarting, State.breakerReset, setExitCode, resetRestart, Bool.and_eq_true,
          Bool.not_eq_true', Bool.not_false, Bool.and_true] at hr
        by_cases htrip : s.restart.trippedSinceReset = true
        · have hfew : s.replacedLive.card ≤ s.openSlots + s.clearedQuarantine := by
            simpa [handsSlotsOver, htrip, hr.2] using hok
          have hmet : s.slotsMet e (s.clearedQuarantine + s.refill e) := by
            unfold slotsMet refill
            omega
          exact hmet
        · have hmet := h.met (by simp [restarting, htrip, hr.2, of_decide_eq_true hr.1])
          have hmet : s.slotsMet e (s.clearedQuarantine + s.refill e) := by
            unfold slotsMet at hmet ⊢
            omega
          exact hmet }
  have hwr : WellFormed s.breakerReset := { hw with }
  rcases resetCircuitBreaker_outcome (e := e) s with ⟨hs', -⟩ | ⟨-, ⟨hforked, heq⟩ | ⟨-, heq⟩⟩
  · exact absurd (hs₀.symm.trans hs') (by decide)
  · rw [heq]
    -- nothing was started yet
    exact { hreset with
      met := fun hr => by
        have hstarted : s.breakerReset.orch.runPhase = .started := by
          simp only [restarting, Bool.and_eq_true] at hr
          exact of_decide_eq_true hr.1.1
        exact absurd (hforked.symm.trans (hwr.started hstarted)) (by decide) }
  · rw [heq] at hs ⊢
    exact hreset.refillMissing hwr hs

/-- A roll ends: the slots it took out of the quarantine are owed to nobody any more. -/
theorem rollEnded (h : SlotsKept e 0 s)
    (hok : handsSlotsOver e s (.resume .rollReturned) = true) :
    SlotsKept e (if s.rollFrame = some (.returned .complete) then s.refill e else 0) s.endRoll := by
  let d := if s.rollFrame = some (.returned .complete) then s.refill e else 0
  have hmet (hr : s.restarting = true) : s.slotsMet e d := by
    simp only [handsSlotsOver, hr, Bool.not_true, Bool.or_false, Bool.or_eq_true, Bool.and_eq_true,
      decide_eq_true_eq] at hok
    rcases hok with hzero | ⟨hcomplete, hfew⟩
    · have hmet := h.met hr
      unfold slotsMet at hmet ⊢
      omega
    · have hrefill : d = s.refill e := if_pos hcomplete
      rw [hrefill]
      unfold slotsMet refill
      omega
  exact { h with
    met := fun hr => by
      have hmet := hmet hr
      unfold slotsMet at hmet ⊢
      show _ ≤ s.metrics.activeWorkers + s.openSlots + (0 + d)
      rw [Nat.zero_add]
      exact hmet }

theorem rollReturned (h : SlotsKept e 0 s) (hw : WellFormed s)
    (hact : s.rollReturned e = some t)
    (hok : handsSlotsOver e s (.resume .rollReturned) = true)
    (hs : t.isShuttingDown = false) : SlotsKept e 0 t := by
  have hended := h.rollEnded hok
  obtain ⟨r, hr, ⟨hf, rfl⟩ | ⟨hf, rfl⟩ | ⟨hf, rfl⟩⟩ := rollReturned_outcome hact
  · simp only [rollFrame, hr, Option.map_some, hf] at hended
    exact hended
  · simp only [rollFrame, hr, Option.map_some, hf] at hended
    exact { hended with }
  · simp only [rollFrame, hr, Option.map_some, hf, if_pos] at hended
    have hcompleted : SlotsKept e (s.refill e) (s.rollCompleted r) := { hended with }
    exact hcompleted.refillMissing { hw with } hs

theorem initial (e : Host) (count : WorkerCount) (env : ProcessEnv) :
    SlotsKept e 0 (State.initial e count env) where
  threshold := e.cfg.restart.crashThreshold.pos
  untripped := fun _ =>
    CrashTracker.isTripped_reset 0 (t := (RestartCoordinator.initial e).crashTracker)
    e.cfg.restart.crashThreshold.pos
  replaced := Finset.Subset.refl _
  met := fun h => by cases h

theorem step {a : Action} (h : SlotsKept e 0 s) (hw : WellFormed s) (hact : s.act e a = some t)
    (hgraceful : s.drainedExit a = true) (hok : handsSlotsOver e s a = true)
    (ht : t.isShuttingDown = false) : SlotsKept e 0 t := by
  have hs := (act_pieces hw hact).later.not_shutting ht
  cases hns : a.special with
  | false => exact h.moves hw (act_moves hw hns hact) ht
  | true =>
    cases a with
    | tick ms =>
      rw [← Option.some.inj hact]
      exact { h with
        untripped := fun htrip => by
          by_contra hlater
          rw [Bool.not_eq_false] at hlater
          have hnow := CrashTracker.isTripped_of_le (Nat.le_add_right s.now ms) _ hlater
          exact absurd ((h.untripped htrip).symm.trans hnow) (by decide) }
    | pluginsInstalled =>
      obtain ⟨-, rfl⟩ := pluginsInstalled_outcome hact
      exact h.startPrimary hw hs
    | overrideWorkerCount n =>
      rw [← Option.some.inj hact]
      exact h.overrideWorkerCount hw n
    | patchWorkerEnv env =>
      rw [← Option.some.inj hact]
      exact h.patchWorkerEnv env
    | restartWorkers opts =>
      rw [← Option.some.inj hact] at ht ⊢
      exact h.restartWorkers hw opts ht
    | resetCircuitBreaker =>
      rw [← Option.some.inj hact] at ht ⊢
      exact h.resetCircuitBreaker hw hok ht
    | shutdownPrimary signal =>
      rw [← Option.some.inj hact, isShuttingDown,
        (shutdownPrimary_entered signal hs).shutdown] at ht
      cases ht
    | workerExit id code signal => exact h.workerExit hw hact hgraceful ht
    | workerSelfDisconnect id =>
      obtain ⟨-, rfl⟩ := workerSelfDisconnect_outcome hact
      exact { h with }
    | timer timer =>
      cases timer with
      | recycleStagger id => exact h.staggerElapsed hw hact hok hs
      | _ => cases hns
    | resume c =>
      cases c with
      | rollReturned => exact h.rollReturned hw hact hok ht
      | _ => cases hns
    | _ => cases hns

end SlotsKept

/-- **No lost slot**, as long as no slot is handed to a worker that already has a
replacement: the unmarked workers, the quarantine, the pending stagger timers, the queue
and the restart in flight add up to the target. -/
theorem slots_answered (e : Host) (count : WorkerCount) (env : ProcessEnv) (s : State)
    (hrun : (orchestrator e count env).Run
      (fun x a => x.drainedExit a = true ∧ handsSlotsOver e x a = true)
      (State.initial e count env) s)
    (hs : s.isShuttingDown = false) (hstarted : s.orch.runPhase = .started) (hroll : s.roll = none)
    (htrip : s.restart.trippedSinceReset = false) (hgave : s.restart.gaveUp = false) :
    s.resolveWorkerCount e ≤ s.settledWorkers + s.restart.quarantinedSlots +
      s.manager.pendingRecycleTimers.size + s.restart.pendingRestartQueue.length +
      s.inBackoff.toNat := by
  have hkept : s.isShuttingDown = false → SlotsKept e 0 s := by
    refine run_preserves (P := fun x => x.isShuttingDown = false → SlotsKept e 0 x) hrun
      (fun _ => .initial e count env) ?_
    intro x a y hw hx ⟨hgraceful, hok⟩ hact hsy
    have hsx := (act_pieces hw hact).later.not_shutting hsy
    exact (hx hsx).step hw hact hgraceful hok hsy
  have h := hkept hs
  have hmet := h.met (by simp [restarting, hstarted, htrip, hgave])
  have hmarked := (reachable_marksAccounted hrun.reachable).card_le
    (reachable_wellFormed hrun.reachable)
  have hcleared : s.clearedQuarantine = 0 := by simp [State.clearedQuarantine, hroll]
  unfold slotsMet openSlots at hmet
  rw [hcleared] at hmet
  unfold settledWorkers getRecyclingCount
  omega

/-- Two workers, one of which crashes and waits for its restart. -/
theorem slots_answered_two_workers :
    ∃ s : State, s.inBackoff = true ∧ s.metrics.activeWorkers = 1 ∧
      2 ≤ s.settledWorkers + s.restart.quarantinedSlots + s.manager.pendingRecycleTimers.size +
        s.restart.pendingRestartQueue.length + s.inBackoff.toNat := by
  obtain ⟨s, hrun, hq⟩ := StepSystem.exists_run_of_any (orchestrator {} (.fixed 2) fun _ => none)
    (State.initial {} (.fixed 2) fun _ => none) (fun x a => x.drainedExit a && handsSlotsOver {} x a)
    [.tick 1, .run, .pluginsInstalled, .workerOnline 1, .workerOnline 2,
      .workerExit 1 (some 1) none]
    (fun s => s.inBackoff && decide (s.metrics.activeWorkers = 1) &&
      decide (s.resolveWorkerCount {} = 2) && !s.isShuttingDown && s.restarting && s.roll.isNone)
    (by decide +kernel)
  simp only [Bool.and_eq_true, decide_eq_true_eq, Bool.not_eq_true', Option.isNone_iff_eq_none,
    restarting] at hq
  obtain ⟨⟨⟨⟨⟨hback, hactive⟩, htarget⟩, hs⟩, ⟨hstarted, htrip⟩, hgave⟩, hroll⟩ := hq
  have h := slots_answered {} _ _ s (hrun.mono fun x a hok => Bool.and_eq_true_iff.mp hok) hs
    hstarted hroll htrip hgave
  rw [htarget] at h
  exact ⟨s, hback, hactive, h⟩

/-- A reset while a recycled worker is still draining: the refill takes it for a worker
that stays, and nobody answers for the crashed one. -/
theorem slot_lost_at_reset :
    ¬ ∀ (e : Host) (count : WorkerCount) (env : ProcessEnv) (s : State),
      (orchestrator e count env).Run (fun x a => x.drainedExit a = true)
        (State.initial e count env) s →
      s.isShuttingDown = false → s.orch.runPhase = .started → s.roll = none →
      s.restart.trippedSinceReset = false → s.restart.gaveUp = false →
        s.resolveWorkerCount e ≤ s.settledWorkers + s.restart.quarantinedSlots +
          s.manager.pendingRecycleTimers.size + s.restart.pendingRestartQueue.length +
          s.inBackoff.toNat := by
  intro h
  let e : Host := { cfg := { restart := { crashThreshold := 1 }, workers := { maxRssMb := 1 } } }
  let heartbeat : Message :=
    { type := "__wm:hb", rss := some 2000000, heapUsed := some 0, eventLoopLagMs := some 0 }
  obtain ⟨s, hrun, hq⟩ := StepSystem.exists_run_of_any (orchestrator e (.fixed 2) fun _ => none)
    (State.initial e (.fixed 2) fun _ => none) State.drainedExit
    [.tick 1, .run, .pluginsInstalled, .workerOnline 1, .workerOnline 2,
      .workerExit 2 (some 1) none,
      .workerMessage 1 (some heartbeat), .workerOnline 3, .resetCircuitBreaker]
    (fun s => !s.isShuttingDown && s.restarting && s.roll.isNone &&
      decide (s.resolveWorkerCount e = 2) &&
      decide (s.settledWorkers + s.restart.quarantinedSlots + s.manager.pendingRecycleTimers.size +
        s.restart.pendingRestartQueue.length + s.inBackoff.toNat = 1)) (by decide +kernel)
  simp only [Bool.and_eq_true, decide_eq_true_eq, Bool.not_eq_true', Option.isNone_iff_eq_none,
    restarting] at hq
  obtain ⟨⟨⟨⟨hs, ⟨hstarted, htrip⟩, hgave⟩, hroll⟩, htarget⟩, hsum⟩ := hq
  have hle := h e _ _ s hrun hs hstarted hroll htrip hgave
  rw [hsum, htarget] at hle
  exact absurd hle (by decide)

end ClusterKit
