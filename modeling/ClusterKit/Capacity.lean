import ClusterKit.Lib.Handover
import ClusterKit.Lib.Observer
import ClusterKit.Slots

/-! How many workers the fleet has: never more than the target. A restart is asked for a slot
that is free then; as long as nothing else fills that slot, the restart queue could fork without
a look at the fleet. Where it is filled otherwise, the queue's own check keeps the account, but
it does not see a replacement that waits on a stagger timer. -/

namespace ClusterKit

open State

variable {e : Host} {s t : State}

/-! ## The fleet as a handover of slots -/

def State.handover (s : State) (hw : WellFormed s) : Handover Nat :=
  ⟨s.tracked, s.manager.recyclingWorkerIds, s.manager.pendingRecycleTimers.keySet, hw.marked,
    hw.timed⟩

/-- Slots that are taken, or promised to the replacement of an aged worker. -/
def State.load (s : State) : Int :=
  s.tracked.card - s.manager.recyclingWorkerIds.card + s.manager.pendingRecycleTimers.keySet.card

theorem State.load_handover (hw : WellFormed s) : (s.handover hw).load = s.load := rfl

theorem State.settledWorkers_le_load (hw : WellFormed s) : s.settledWorkers ≤ s.load := by
  rw [settledWorkers, getRecyclingCount, hw.active]
  exact (s.handover hw).settled_le_load

namespace State

/-- Restarts that were asked for and are not forked yet. -/
def restartsDue (s : State) : Nat := s.restart.pendingRestartQueue.length + s.inBackoff.toNat

/-- A restart is asked for a slot that is filled or asked for already: a worker crashes after
its replacement was forked, or a refill does not count the restarts that are due. -/
def doublesRestart (e : Host) (s : State) : Action → Bool
  | .workerExit id _ _ => !(s.worker id).exitedAfterDisconnect && decide (id ∈ s.recycledOld)
  | .resetCircuitBreaker =>
    decide (0 < s.restartsDue) && decide (s.metrics.activeWorkers < s.resolveWorkerCount e)
  | .resume .rollReturned =>
    decide (s.rollFrame = some (.returned .complete)) &&
      (decide (0 < s.restartsDue) && decide (s.metrics.activeWorkers < s.resolveWorkerCount e))
  | _ => false

/-- The restart queue may take up a restart: its loop goes on, or is kicked while it is idle. -/
def takesRestart (s : State) : Action → Bool
  | .resume .restartQueue => true
  | .workerExit .. => !s.restart.restartLoopRunning
  | .resetCircuitBreaker => !s.restart.restartLoopRunning
  | .resume .rollReturned => !s.restart.restartLoopRunning
  | _ => false

end State

/-- The observer of the restart queue: among the restarts that are due, one was asked for a slot
that was filled or asked for already. -/
def noteDoubled (e : Host) (s : State) (a : Action) (t : State) (doubled : Bool) : Bool :=
  decide (0 < t.restartsDue) && (doubled || s.doublesRestart e a)

/-- No roll completes before the initial forks, and as long as a doubled restart is due the queue
takes up none with a stagger timer pending. -/
def restartsInOrder (e : Host) (x : State × Bool) (a : Action) : Bool :=
  (match a with
    | .resume .rollReturned =>
      x.1.orch.hasForked || decide (x.1.rollFrame ≠ some (.returned .complete))
    | _ => true) &&
  (!x.1.takesRestart a || !(x.2 || x.1.doublesRestart e a) ||
    decide (x.1.manager.pendingRecycleTimers.size = 0))

/-- A roll forks for a worker that nobody has marked before. -/
def ForkCall.replacesUnmarked (call : ForkCall) : Bool :=
  match call.cause with
  | .roll old => decide (old ∉ call.recyclingWorkerIds)
  | _ => true

/-- Outside a shutdown, with every roll fork so far for an unmarked worker. -/
structure InOrder (s : State) : Prop where
  shutting : s.isShuttingDown = false
  rolls : ∀ call ∈ s.cluster.forkCalls, call.succeeded = true → call.replacesUnmarked = true

theorem InOrder.earlier (h : InOrder t) (hl : s.Later t) : InOrder s :=
  ⟨hl.not_shutting h.shutting, fun call hc => h.rolls call (hl.forkCalls.mem hc)⟩

/-- A fork of the restart queue had a free slot. -/
def ForkCall.Filled (call : ForkCall) : Prop :=
  call.cause = .restartQueue → call.succeeded = true →
    call.activeWorkers < call.target + call.recyclingWorkerIds.card

theorem ForkCall.filled_of_cause {call : ForkCall} (h : call.cause ≠ .restartQueue) : call.Filled :=
  fun hcause => absurd hcause h

/-- The account of slots. The restart in flight has its slot, and so has every restart that is due
unless one of them is doubled. -/
structure Capacity (e : Host) (doubled : Bool) (s : State) : Prop where
  empty : s.orch.hasForked = false → s.tracked = ∅
  unrecycled : s.orch.hasForked = false → s.recycles = []
  unasked : s.orch.hasForked = false → s.restartsDue = 0
  phase : s.orch.runPhase = .idle ∨ s.orch.runPhase = .installing → s.orch.hasForked = false
  room : s.load + s.inBackoff.toNat ≤ s.resolveWorkerCount e
  booked : doubled = false → s.load + s.restartsDue ≤ s.resolveWorkerCount e
  marked : ∀ id ∈ s.recycledOld, id ∈ s.tracked → id ∈ s.manager.recyclingWorkerIds
  untimed : ∀ id ∈ s.recycledOld, id ∉ s.manager.pendingRecycleTimers.keySet
  once : (s.recycles.map Recycle.old).Nodup
  filled : ∀ call ∈ s.cluster.forkCalls, call.Filled

namespace Capacity

variable {d : Bool} {a : Action}

theorem hasForked (h : Capacity e d s) {id : Nat} (hid : id ∈ s.tracked) :
    s.orch.hasForked = true := by
  cases hf : s.orch.hasForked with
  | true => rfl
  | false =>
    rw [h.empty hf] at hid
    exact absurd hid (Finset.notMem_empty _)

/-- An unmarked worker has no replacement yet. -/
theorem not_recycled (h : Capacity e d s) {id : Nat} (hid : id ∈ s.tracked)
    (hm : id ∉ s.manager.recyclingWorkerIds) : id ∉ s.recycledOld :=
  fun hr => hm (h.marked id hr hid)

theorem mapRecycles (h : Capacity e d s) (f : Recycle → Recycle)
    (hf : ∀ r ∈ s.recycles, (f r).old = r.old) :
    Capacity e d { s with recycles := s.recycles.map f } := by
  have hmap : (s.recycles.map f).map Recycle.old = s.recycles.map Recycle.old := by
    rw [List.map_map]
    exact List.map_congr_left hf
  have hold : State.recycledOld { s with recycles := s.recycles.map f } = s.recycledOld :=
    congrArg List.toFinset hmap
  exact { h with
    unrecycled := fun hf => by rw [h.unrecycled hf, List.map_nil]
    marked := by rw [hold]; exact h.marked
    untimed := by rw [hold]; exact h.untimed
    once := by rw [hmap]; exact h.once }

/-- One account of fewer promises. -/
theorem doubled (h : Capacity e d s) (b : Bool) : Capacity e (d || b) s :=
  { h with booked := fun hd => h.booked (Bool.or_eq_false_iff.mp hd).1 }

/-- When nothing is due, nothing is doubled. -/
theorem settled (h : Capacity e d s) : Capacity e (decide (0 < s.restartsDue) && d) s := by
  refine { h with booked := fun hd => ?_ }
  rcases Bool.and_eq_false_iff.mp hd with hzero | hd
  · have hroom := h.room
    have hdue : s.restartsDue = 0 := Nat.eq_zero_of_not_pos (of_decide_eq_false hzero)
    omega
  · exact h.booked hd

theorem withRestart {d' : Bool} (h : Capacity e d s) (r : RestartCoordinator)
    (hasked : s.orch.hasForked = false → State.restartsDue { s with restart := r } = 0)
    (hroom : s.load + (State.inBackoff { s with restart := r }).toNat ≤ s.resolveWorkerCount e)
    (hbooked : d' = false →
      s.load + State.restartsDue { s with restart := r } ≤ s.resolveWorkerCount e) :
    Capacity e d' { s with restart := r } :=
  { h with unasked := hasked, room := hroom, booked := hbooked }

/-! ## The restart queue -/

/-- The check of the queue finds a slot that is free and not promised, if no stagger timer is
pending. -/
theorem room_of_missing (hw : WellFormed s)
    (htimers : s.manager.pendingRecycleTimers.keySet = ∅) (hm : s.missingWorkers e ≠ 0) :
    s.load + 1 ≤ s.resolveWorkerCount e := by
  have hsettled : s.load = s.settledWorkers := by
    unfold State.load settledWorkers getRecyclingCount
    rw [htimers, Finset.card_empty, hw.active]
    omega
  unfold missingWorkers at hm
  omega

theorem queueMove (h : Capacity e d s) (hw : WellFormed s)
    (hfree : s.restart.frame = none → d = false ∨ s.manager.pendingRecycleTimers.keySet = ∅)
    {r : RestartCoordinator} (hm : QueueMove e s r) : Capacity e d { s with restart := r } := by
  have hroom := h.room
  cases hm with
  | pruned => exact { h with }
  | kicked hf => exact { h with }
  | resumed hf =>
    have hback : s.inBackoff = false := by rw [inBackoff, hf]
    have hdue : State.restartsDue { s with restart := { s.restart with frame := none } } =
        s.restartsDue := by
      rw [State.restartsDue, State.restartsDue, hback]
      rfl
    refine h.withRestart _ (fun hf' => hdue.trans (h.unasked hf')) ?_ fun hd => ?_
    · rw [hback] at hroom
      exact hroom
    · rw [hdue]
      exact h.booked hd
  | dropped entry rest hq hm =>
    have hdue : State.restartsDue { s with restart := { s.restart with
        pendingRestartQueue := rest } } + 1 = s.restartsDue := by
      unfold State.restartsDue
      rw [hq, List.length_cons]
      show rest.length + s.inBackoff.toNat + 1 = _
      omega
    refine h.withRestart _ (fun hf' => ?_) hroom fun hd => ?_
    · have := h.unasked hf'
      omega
    · have := h.booked hd
      omega
  | taken entry rest delayMs since hq hm hf hr =>
    have hdue : s.restartsDue = rest.length + 1 := by
      rw [State.restartsDue, hq, inBackoff, hf]
      rfl
    refine h.withRestart _ (fun hf' => ?_) ?_ fun hd => ?_
    · have := h.unasked hf'
      omega
    · show s.load + 1 ≤ s.resolveWorkerCount e
      rcases hfree hf with hd | htimers
      · have := h.booked hd
        omega
      · exact room_of_missing hw htimers hm
    · have := h.booked hd
      show s.load + (rest.length + 1 : Nat) ≤ s.resolveWorkerCount e
      omega
  | done hf hwhy =>
    have hload : s.load + (0 : Nat) ≤ s.resolveWorkerCount e := by
      have : (0 : Int) ≤ s.inBackoff.toNat := Int.natCast_nonneg _
      omega
    exact h.withRestart _ (fun _ => rfl) hload fun _ => hload
  | abandoned hf hwhy =>
    have hdue : s.restartsDue = s.restart.pendingRestartQueue.length + 1 := by
      rw [State.restartsDue, hf]
      rfl
    rw [hf] at hroom
    refine h.withRestart _ (fun hf' => ?_) ?_ fun hd => ?_
    · have := h.unasked hf'
      omega
    · show s.load + (0 : Nat) ≤ s.resolveWorkerCount e
      have hroom : s.load + (1 : Nat) ≤ s.resolveWorkerCount e := hroom
      omega
    · have := h.booked hd
      show s.load + (s.restart.pendingRestartQueue.length : Nat) ≤ s.resolveWorkerCount e
      omega
  | requeued entry hf =>
    have hdue : s.restartsDue = s.restart.pendingRestartQueue.length + 1 := by
      rw [State.restartsDue, hf]
      rfl
    have hdue' : State.restartsDue { s with restart := { s.restart with
        pendingRestartQueue := s.restart.pendingRestartQueue ++ [entry], frame := some .returned } } =
        s.restartsDue := by
      rw [hdue, State.restartsDue, List.length_append]
      rfl
    rw [hf] at hroom
    refine h.withRestart _ (fun hf' => hdue'.trans (h.unasked hf')) ?_ fun hd => ?_
    · show s.load + (0 : Nat) ≤ s.resolveWorkerCount e
      have hroom : s.load + (1 : Nat) ≤ s.resolveWorkerCount e := hroom
      omega
    · rw [hdue']
      exact h.booked hd

/-- The restart in flight becomes a worker. -/
theorem restarted (h : Capacity e d s) (hw : WellFormed s) (hf : s.inBackoff = true) :
    Capacity e d ((s.forked (s.forkCall e .restartQueue none)).setQueueFrame (some .returned)) := by
  have hload : (s.forked (s.forkCall e .restartQueue none)).load = s.load + 1 :=
    (congrArg (fun x : Finset Nat => (x.card : Int) - _ + _) (tracked_forked s _)).trans
      ((s.handover hw).load_join hw.fresh)
  have hdue : s.restartsDue = s.restart.pendingRestartQueue.length + 1 := by
    rw [State.restartsDue, hf]
    rfl
  have hroom : s.load + (1 : Nat) ≤ s.resolveWorkerCount e := by
    have := h.room
    rwa [hf] at this
  constructor
  case empty =>
    intro hf'
    have := h.unasked hf'
    omega
  case unrecycled => exact h.unrecycled
  case unasked =>
    intro hf'
    have := h.unasked hf'
    omega
  case phase => exact h.phase
  case room =>
    show (s.forked _).load + (0 : Nat) ≤ s.resolveWorkerCount e
    rw [hload]
    omega
  case booked =>
    intro hd
    have := h.booked hd
    show (s.forked _).load + (s.restart.pendingRestartQueue.length : Nat) ≤ s.resolveWorkerCount e
    rw [hload]
    omega
  case marked =>
    intro id hid hmem
    have hmem : id ∈ (s.forked (s.forkCall e .restartQueue none)).tracked := hmem
    rw [tracked_forked, Finset.mem_insert] at hmem
    rcases hmem with rfl | hmem
    · exact absurd hid (hw.fresh_not_recycled)
    · exact h.marked id hid hmem
  case untimed => exact h.untimed
  case once => exact h.once
  case filled =>
    intro call hc
    rcases List.mem_cons.mp hc with rfl | hc
    · intro _ _
      have hactive := hw.active
      show s.metrics.activeWorkers < s.resolveWorkerCount e + s.manager.recyclingWorkerIds.card
      unfold State.load at hroom
      omega
    · exact h.filled call hc

/-! ## Workers that are replaced -/

/-- A live unmarked worker is replaced. -/
theorem replaced (h : Capacity e d s) (hw : WellFormed s) {call : ForkCall} {old : Nat}
    (hcall : call.Filled) (ha : s.alive old) (hm : old ∉ s.manager.recyclingWorkerIds) :
    Capacity e d (s.replaceWorker e call old) := by
  have hid := hw.alive_tracked old ha
  have hold := h.not_recycled hid hm
  have htracked : (s.replaceWorker e call old).tracked = insert (s.cluster.ids + 1) s.tracked :=
    tracked_forked s call
  have hload : (s.replaceWorker e call old).load = s.load :=
    (congrArg (fun x : Finset Nat => (x.card : Int) - _ + _) htracked).trans
      ((s.handover hw).load_replace hw.fresh hid hm)
  have hrecycled (id : Nat) : id ∈ (s.replaceWorker e call old).recycledOld ↔
      id = old ∨ id ∈ s.recycledOld := by
    simp [replaceWorker, recycle, State.recycledOld, markForRecycling, forked, trackWorker,
      clusterFork, eq_comm]
  constructor
  case empty => exact fun hf => absurd ((h.hasForked hid).symm.trans hf) (by decide)
  case unrecycled => exact fun hf => absurd ((h.hasForked hid).symm.trans hf) (by decide)
  case unasked => exact h.unasked
  case phase => exact h.phase
  case room => rw [hload]; exact h.room
  case booked => rw [hload]; exact h.booked
  case marked =>
    intro id hr hmem
    rw [htracked, Finset.mem_insert] at hmem
    rw [hrecycled] at hr
    refine Finset.mem_insert.mpr (hr.imp_right fun hr => ?_)
    rcases hmem with rfl | hmem
    · exact absurd hr (hw.fresh_not_recycled)
    · exact h.marked id hr hmem
  case untimed =>
    intro id hr
    rcases (hrecycled id).mp hr with rfl | hr
    · exact fun ht => hm (hw.timed ht)
    · exact h.untimed id hr
  case once =>
    refine List.nodup_cons.mpr ⟨fun hmem => hold ?_, h.once⟩
    exact List.mem_toFinset.mpr hmem
  case filled => exact List.forall_mem_cons.mpr ⟨hcall, h.filled⟩

theorem agedMarked (h : Capacity e d s) (hw : WellFormed s) {id deadline : Nat} (ha : s.alive id)
    (hm : id ∉ s.manager.recyclingWorkerIds) :
    Capacity e d ((s.markForRecycling id).setRecycleTimer id deadline) := by
  have hid := hw.alive_tracked id ha
  have htimers : (s.manager.pendingRecycleTimers.set id deadline).keySet =
      insert id s.manager.pendingRecycleTimers.keySet := OrdMap.keySet_set _ _ _
  have hload : ((s.markForRecycling id).setRecycleTimer id deadline).load = s.load :=
    (congrArg (fun x : Finset Nat => _ - _ + (x.card : Int)) htimers).trans
      ((s.handover hw).load_schedule hid hm)
  exact { h with
    room := by rw [hload]; exact h.room
    booked := by rw [hload]; exact h.booked
    marked := fun j hr hmem => Finset.mem_insert_of_mem (h.marked j hr hmem)
    untimed := fun j hr => by
      show j ∉ (s.manager.pendingRecycleTimers.set id deadline).keySet
      rw [htimers, Finset.mem_insert, not_or]
      refine ⟨?_, h.untimed j hr⟩
      rintro rfl
      exact h.not_recycled hid hm hr }

theorem agedDropped (h : Capacity e d s) (hw : WellFormed s) {id : Nat}
    (ht : id ∈ s.manager.pendingRecycleTimers.keySet) : Capacity e d (s.agedDropped id) := by
  have htimers : (s.manager.pendingRecycleTimers.delete id).keySet =
      s.manager.pendingRecycleTimers.keySet.erase id := OrdMap.keySet_delete _ _
  have hload : (s.agedDropped id).load = s.load :=
    (congrArg (fun x : Finset Nat => _ - _ + (x.card : Int)) htimers).trans
      ((s.handover hw).load_drop ht)
  exact { h with
    room := by rw [hload]; exact h.room
    booked := by rw [hload]; exact h.booked
    marked := fun j hr hmem => by
      refine Finset.mem_erase.mpr ⟨?_, h.marked j hr hmem⟩
      rintro rfl
      exact h.untimed j hr ht
    untimed := fun j hr hmem => by
      rw [show (s.agedDropped id).manager.pendingRecycleTimers.keySet = _ from htimers] at hmem
      exact h.untimed j hr (Finset.mem_of_mem_erase hmem) }

theorem agedRecycled (h : Capacity e d s) (hw : WellFormed s) {id : Nat}
    (ht : id ∈ s.manager.pendingRecycleTimers.keySet) : Capacity e d (s.agedRecycled e id) := by
  have hm := hw.timed ht
  have hid := hw.marked hm
  have htimers : (s.agedRecycled e id).manager.pendingRecycleTimers.keySet =
      s.manager.pendingRecycleTimers.keySet.erase id := OrdMap.keySet_delete _ _
  have htracked : (s.agedRecycled e id).tracked = insert (s.cluster.ids + 1) s.tracked :=
    tracked_forked (s.deleteRecycleTimer id) _
  have hload : (s.agedRecycled e id).load = s.load := by
    rw [← load_handover hw, ← (s.handover hw).load_fulfil hw.fresh ht]
    unfold State.load
    rw [htracked, htimers]
    rfl
  have hrecycled (j : Nat) : j ∈ (s.agedRecycled e id).recycledOld ↔
      j = id ∨ j ∈ s.recycledOld := by
    simp [State.agedRecycled, recycle, State.recycledOld, forked, trackWorker, clusterFork,
      deleteRecycleTimer, eq_comm]
  constructor
  case empty => exact fun hf => absurd ((h.hasForked hid).symm.trans hf) (by decide)
  case unrecycled => exact fun hf => absurd ((h.hasForked hid).symm.trans hf) (by decide)
  case unasked => exact h.unasked
  case phase => exact h.phase
  case room => rw [hload]; exact h.room
  case booked => rw [hload]; exact h.booked
  case marked =>
    intro j hr hmem
    rw [htracked, Finset.mem_insert] at hmem
    rcases (hrecycled j).mp hr with rfl | hr
    · exact hm
    rcases hmem with rfl | hmem
    · exact absurd hr (hw.fresh_not_recycled)
    · exact h.marked j hr hmem
  case untimed =>
    intro j hr
    rw [htimers, Finset.mem_erase, not_and]
    rcases (hrecycled j).mp hr with rfl | hr
    · exact fun hne => absurd rfl hne
    · exact fun _ => h.untimed j hr
  case once =>
    refine List.nodup_cons.mpr ⟨fun hmem => ?_, h.once⟩
    exact h.untimed id (List.mem_toFinset.mpr hmem) ht
  case filled =>
    have hother : (s.agedCall e id).Filled := ForkCall.filled_of_cause (by simp [agedCall, forkCall])
    exact List.forall_mem_cons.mpr ⟨hother, h.filled⟩

theorem load_removed_le (hw : WellFormed s) {id : Nat} (hid : id ∈ s.tracked) :
    (s.removed id).load ≤ s.load := by
  have htracked : (s.removed id).tracked = s.tracked.erase id := OrdMap.keySet_delete _ _
  have htimers : (s.removed id).manager.pendingRecycleTimers.keySet =
      s.manager.pendingRecycleTimers.keySet.erase id := OrdMap.keySet_delete _ _
  refine le_trans (le_of_eq ?_) ((s.handover hw).load_leave_le hid)
  unfold State.load
  rw [htracked, htimers]
  rfl

/-- Who leaves and was not replaced before frees its slot. -/
theorem load_removed (hw : WellFormed s) (hmarks : MarksAccounted s) {id : Nat}
    (hid : id ∈ s.tracked) (hold : id ∉ s.recycledOld) : (s.removed id).load = s.load - 1 := by
  have htracked : (s.removed id).tracked = s.tracked.erase id := OrdMap.keySet_delete _ _
  have htimers : (s.removed id).manager.pendingRecycleTimers.keySet =
      s.manager.pendingRecycleTimers.keySet.erase id := OrdMap.keySet_delete _ _
  have htimed (hm : id ∈ s.manager.recyclingWorkerIds) :
      id ∈ s.manager.pendingRecycleTimers.keySet :=
    (Finset.mem_union.mp (hmarks hm)).resolve_right hold
  rw [← load_handover hw, ← (s.handover hw).load_leave hid htimed]
  unfold State.load
  rw [htracked, htimers]
  rfl

theorem load_removed_congr {m : State} (hm : m.manager = s.manager) (id : Nat) :
    (m.removed id).load = (s.removed id).load := by
  have hsame : (m.removed id).manager = (s.removed id).manager := by
    simp only [State.removed, State.cleanupWorker, State.forgetWorker, hm]
    rfl
  unfold State.load State.tracked
  rw [hsame]

theorem removed (h : Capacity e d s) (hw : WellFormed s) {id : Nat} (hid : id ∈ s.tracked) :
    Capacity e d (s.removed id) := by
  have htracked : (s.removed id).tracked = s.tracked.erase id := OrdMap.keySet_delete _ _
  have htimers : (s.removed id).manager.pendingRecycleTimers.keySet =
      s.manager.pendingRecycleTimers.keySet.erase id := OrdMap.keySet_delete _ _
  have hload := load_removed_le hw hid
  constructor
  case empty => exact fun hf => absurd ((h.hasForked hid).symm.trans hf) (by decide)
  case unrecycled => exact fun hf => absurd ((h.hasForked hid).symm.trans hf) (by decide)
  case unasked => exact h.unasked
  case phase => exact h.phase
  case room => exact (Int.add_le_add_right hload _).trans h.room
  case booked => exact fun hd => (Int.add_le_add_right hload _).trans (h.booked hd)
  case marked =>
    intro j hr hmem
    rw [htracked, Finset.mem_erase] at hmem
    exact Finset.mem_erase.mpr ⟨hmem.1, h.marked j hr hmem.2⟩
  case untimed =>
    intro j hr
    rw [htimers]
    exact fun hmem => h.untimed j hr (Finset.mem_of_mem_erase hmem)
  case once => exact h.once
  case filled => exact h.filled

/-! ## Segments -/

/-- The recycles of one replacement change, but not whom they replace. -/
theorem modifyRecycle (h : Capacity e d s) (new : Nat) {f : Recycle → Recycle}
    (hf : ∀ r, (f r).old = r.old) : Capacity e d (s.modifyRecycle new f) := by
  refine h.mapRecycles _ fun r _ => ?_
  split
  · exact hf r
  · rfl

theorem drainOldWorker (h : Capacity e d s) (r : Recycle) : Capacity e d (s.drainOldWorker e r) := by
  unfold State.drainOldWorker
  split
  · exact h
  · have hdrained : Capacity e d (s.modifyRecycle r.new fun r => { r with
        drained := true
        drainFailsafeTimer := none
        forceKillTimer := if s.isDead r.old then none else
          some (s.now + e.cfg.shutdown.timeoutMs) }) := h.modifyRecycle r.new fun _ => rfl
    exact { hdrained with }

theorem kill (h : Capacity e d s) (signal : Signal) (id : Nat) : Capacity e d (s.kill signal id) :=
  { h with }

theorem clearKillTimers (h : Capacity e d s) (old : Nat) : Capacity e d (s.clearKillTimers old) := by
  refine h.mapRecycles _ fun r _ => ?_
  split <;> rfl

theorem restartFailed (h : Capacity e d s) (hw : WellFormed s) (entry : RestartQueueEntry)
    (hf : s.inBackoff = true) : Capacity e d (State.restartFailed entry s) := by
  unfold State.restartFailed
  simp only
  split
  · -- the queue is given up
    have hload : s.load + (0 : Nat) ≤ s.resolveWorkerCount e := by
      have hroom := h.room
      have : (0 : Int) ≤ s.inBackoff.toNat := Int.natCast_nonneg _
      omega
    exact { h with unasked := fun _ => rfl, room := hload, booked := fun _ => hload }
  · have hnone : s.restart.frame ≠ none := by
      intro hnone
      rw [inBackoff, hnone] at hf
      cases hf
    have hrequeued := h.queueMove hw (fun hnone' => absurd hnone' hnone) (.requeued entry hf)
    exact { hrequeued with }

theorem effect (h : Capacity e d s) (hw : WellFormed s) (heff : Effect e a s t)
    (hfree : a.runsQueue = true → s.restart.frame = none →
      d = false ∨ s.manager.pendingRecycleTimers.keySet = ∅)
    (ht : InOrder t) : Capacity e d t := by
  cases heff with
  | queue r ha hm => exact h.queueMove hw (hfree ha) hm
  | pruned => exact { h with }
  | attemptFailed entry ha hf => exact h.restartFailed hw entry hf
  | attempted delayMs ha hs hb hf hok => exact { h.restarted hw hf with }
  | forkFailed call hs hc hq hfail =>
    have hfilled : call.Filled := fun _ hok => absurd (hfail.symm.trans hok) Bool.false_ne_true
    exact { h with filled := List.forall_mem_cons.mpr ⟨hfilled, h.filled⟩ }
  | replaced call old hs ha hc hok =>
    cases hc with
    | health _ hm => exact h.replaced hw (ForkCall.filled_of_cause (by simp [forkCall])) ha hm
    | roll _ rest r hr hrem =>
      have hm := ht.rolls _ List.mem_cons_self hok
      exact h.replaced hw (ForkCall.filled_of_cause (by simp [forkCall])) ha (of_decide_eq_true hm)
  | agedMarked id deadline ha hs hl hm => exact h.agedMarked hw hl hm
  | drained r hr hd hs hwhy => exact h.drainOldWorker r
  | replacementOnline new => exact h.modifyRecycle new fun _ => rfl
  | failsafeFired r => exact h.modifyRecycle r.new fun _ => rfl
  | forceKillDropped r => exact h.modifyRecycle r.new fun _ => rfl
  | sigkillDropped r => exact h.modifyRecycle r.new fun _ => rfl
  | forceKilled r =>
    refine kill (h.modifyRecycle r.new ?_) _ _
    exact fun _ => rfl
  | sigkilled r =>
    refine kill (h.modifyRecycle r.new ?_) _ _
    exact fun _ => rfl
  | killTimersCleared old => exact h.clearKillTimers old
  | phase p hp =>
    refine { h with phase := fun hp' => ?_ }
    rcases hp with ⟨hidle, rfl⟩ | ⟨hinst, rfl⟩
    · exact h.phase (.inl hidle)
    · exact hp'.elim (fun h => by cases h) (fun h => by cases h)
  | recomputed => rw [recomputeFleetHealth_eq]; exact { h with }
  | degraded t ha ht => rw [degradedElapsed_eq ht]; exact { h with }
  | backoffScheduled => rw [scheduleBackoffReset_eq]; exact { h with }
  | backoffReset t ha ht => rw [backoffResetElapsed_eq ht]; exact { h with }
  | shutdown t hs hm =>
    exact absurd ((hm.keeps.shutting.trans hs).symm.trans ht.shutting) (by decide)
  | _ => exact { h with }

/-- The segments that run the queue arm no stagger timer. -/
theorem timers_effect (ha : a.runsQueue = true) (heff : Effect e a s t)
    (h : s.manager.pendingRecycleTimers.keySet = ∅) :
    t.manager.pendingRecycleTimers.keySet = ∅ := by
  cases heff with
  | agedMarked id deadline ha' hs hl hm => rw [ha'] at ha; cases ha
  | shutdown t hs hm =>
    rcases hm.keeps.marks with ⟨-, htimers⟩ | ⟨-, htimers⟩
    · rw [htimers]
      exact h
    · rw [htimers]
      rfl
  | recomputed => rw [recomputeFleetHealth_eq]; exact h
  | degraded t ha ht => rw [degradedElapsed_eq ht]; exact h
  | backoffScheduled => rw [scheduleBackoffReset_eq]; exact h
  | backoffReset t ha ht => rw [backoffResetElapsed_eq ht]; exact h
  | attemptFailed => rw [restartFailed_eq]; exact h
  | drained => rw [drainOldWorker_eq]; exact h
  | _ => exact h

/-- A run of the queue, if nothing is doubled or no stagger timer is pending. -/
theorem effects (h : InOrder s → Capacity e d s) (hw : WellFormed s) (ha : a.runsQueue = true)
    (hfree : d = false ∨ s.manager.pendingRecycleTimers.keySet = ∅) (heffs : Effects e a s t)
    (ht : InOrder t) : Capacity e d t := by
  have hboth : WellFormed t ∧ (InOrder t → Capacity e d t) ∧
      (d = false ∨ t.manager.pendingRecycleTimers.keySet = ∅) := by
    induction heffs with
    | refl => exact ⟨hw, h, hfree⟩
    | @tail x y _ hxy ih =>
      have hlater := hxy.moves.later
      obtain ⟨hwx, hx, hfreex⟩ := ih (ht.earlier hlater)
      refine ⟨hwx.moves hxy.moves, fun hy => ?_, hfreex.imp_right (timers_effect ha hxy)⟩
      exact (hx (hy.earlier hlater)).effect hwx hxy (fun _ _ => hfreex) hy
  exact hboth.2.1 ht

/-- Segments that do not run the queue. -/
theorem bit (h : Capacity e d s) (hw : WellFormed s) (ha : a ≠ .pluginsInstalled)
    (hq : a.runsQueue = false) (hb : Bit e a s t) (ht : InOrder t) : Capacity e d t := by
  cases hb with
  | forking | initialFailed | initialForked | ran => exact absurd rfl ha
  | died | removed | quarantined | crashed | tripped | queued | resetShutting | breakerReset
  | resetRefilled | rollEnded | rollCompleted | rollRefilled => cases hq
  | agedDropped _ id htimer => exact h.agedDropped hw htimer
  | agedFailed _ id htimer hs hfail =>
    have hdropped := h.agedDropped hw htimer
    have hother : (s.agedCall e id).Filled := ForkCall.filled_of_cause (by simp [agedCall, forkCall])
    exact { hdropped with filled := List.forall_mem_cons.mpr ⟨hother, h.filled⟩ }
  | agedRecycled _ id htimer hl hs hok => exact h.agedRecycled hw htimer
  | shutdownEntered _ signal hs =>
    have hentered := shutdownPrimary_entered (e := e) signal hs
    have hshutting := ht.shutting
    rw [isShuttingDown, hentered.shutdown] at hshutting
    cases hshutting
  | counted _ n count hf =>
    have htracked := h.empty hf
    have htimers : s.manager.pendingRecycleTimers.keySet = ∅ :=
      Finset.subset_empty.mp ((hw.timed.trans hw.marked).trans htracked.subset)
    have hdue := h.unasked hf
    have hload : s.load + s.restartsDue ≤ 0 := by
      rw [State.load, htracked, htimers, Finset.card_empty, hdue]
      omega
    have hroom : s.load + s.inBackoff.toNat ≤ 0 := by
      rw [State.restartsDue] at hdue hload
      omega
    exact { h with
      room := hroom.trans (Int.natCast_nonneg _)
      booked := fun _ => hload.trans (Int.natCast_nonneg _) }
  | tick | selfDisconnected | patched | rollStarted => exact { h with }

theorem turns (h : Capacity e d s) (hw : WellFormed s) (ha : a ≠ .pluginsInstalled)
    (hq : a.runsQueue = false) (hturns : Turns e a s t) (ht : InOrder t) : Capacity e d t := by
  have hkept := hturns.preserves (P := fun x => InOrder x → Capacity e d x) hw
    (fun x y hwx hx hxy hy => ?_) fun _ => h
  · exact hkept ht
  · have hcap := hx (hy.earlier hxy.pieces.later)
    exact hxy.elim
      (fun heff => hcap.effect hwx heff (fun hq' => absurd (hq.symm.trans hq') (by decide)) hy)
      fun hb => hcap.bit hwx ha hq hb hy

/-- The initial forks take one slot each. -/
theorem forkWorkers_load (count : Nat) (x : State) (hw : WellFormed x) :
    (forkWorkers e count x).2.load ≤ x.load + count := by
  induction count generalizing x with
  | zero => simp [forkWorkers]
  | succ count ih =>
    have hload : (x.forked (x.forkCall e .initial none)).load = x.load + 1 :=
      (congrArg (fun y : Finset Nat => (y.card : Int) - _ + _) (tracked_forked x _)).trans
        ((x.handover hw).load_join hw.fresh)
    rw [forkWorkers]
    rcases forkWorker_cases e .initial none x with ⟨-, h⟩ | ⟨hf, h⟩ | ⟨hok, h⟩
    · rw [h]
      push_cast
      omega
    · rw [h]
      show x.load ≤ _
      push_cast
      omega
    · rw [h]
      have hrest := ih _ (hw.forked (x.forkCall e .initial none))
      rw [hload] at hrest
      push_cast
      omega

theorem startPrimary (h : Capacity e d s) (hw : WellFormed s) (hi : s.orch.runPhase = .installing) :
    Capacity e d (s.startPrimary e (s.resolveWorkerCount e)) := by
  have hforked := h.phase (.inr hi)
  have htracked := h.empty hforked
  have htimers : s.manager.pendingRecycleTimers.keySet = ∅ :=
    Finset.subset_empty.mp ((hw.timed.trans hw.marked).trans htracked.subset)
  have hempty : s.load ≤ 0 := by
    unfold State.load
    rw [htracked, htimers, Finset.card_empty]
    omega
  have horch := forkWorkers_orch (e := e) (s.resolveWorkerCount e) s.forking
  have hload := forkWorkers_load (e := e) (s.resolveWorkerCount e) s.forking hw.forking
  have hload : (forkWorkers e (s.resolveWorkerCount e) s.forking).2.load ≤
      s.resolveWorkerCount e := by
    have : s.forking.load = s.load := rfl
    omega
  have hinitial (x : State) : (x.forkCall e .initial none).Filled :=
    ForkCall.filled_of_cause (by simp [forkCall])
  obtain ⟨hrec, hrestart, hfilled⟩ :
      (forkWorkers e (s.resolveWorkerCount e) s.forking).2.recycles = [] ∧
      (forkWorkers e (s.resolveWorkerCount e) s.forking).2.restart = s.restart ∧
      ∀ call ∈ (forkWorkers e (s.resolveWorkerCount e) s.forking).2.cluster.forkCalls, call.Filled :=
    forkWorkers_preserves (P := fun x => x.recycles = [] ∧ x.restart = s.restart ∧
        ∀ call ∈ x.cluster.forkCalls, call.Filled)
      (fun x hx _ => ⟨hx.1, hx.2.1, List.forall_mem_cons.mpr ⟨hinitial x, hx.2.2⟩⟩)
      (fun x hx _ => ⟨hx.1, hx.2.1, List.forall_mem_cons.mpr ⟨hinitial x, hx.2.2⟩⟩) _ _
      ⟨h.unrecycled hforked, rfl, h.filled⟩
  have hdue := h.unasked hforked
  -- the state after the forks, in either final phase
  have hphase (phase : RunPhase) (hp : phase = .rejected ∨ phase = .started) :
      Capacity e d ((forkWorkers e (s.resolveWorkerCount e) s.forking).2.setRunPhase phase) := by
    have htarget : ((forkWorkers e (s.resolveWorkerCount e) s.forking).2.setRunPhase
        phase).resolveWorkerCount e = s.resolveWorkerCount e := by
      apply resolveWorkerCount_congr
      rw [setRunPhase, horch]
      rfl
    have hdue : ((forkWorkers e (s.resolveWorkerCount e) s.forking).2.setRunPhase
        phase).restartsDue = 0 := by
      unfold State.restartsDue inBackoff at hdue ⊢
      rw [setRunPhase, hrestart]
      exact hdue
    constructor
    case empty =>
      intro hf
      rw [setRunPhase, horch] at hf
      cases hf
    case unrecycled => exact fun _ => hrec
    case unasked => exact fun _ => hdue
    case phase =>
      rintro (hp' | hp')
      · rcases hp with rfl | rfl <;> cases hp'
      · rcases hp with rfl | rfl <;> cases hp'
    case room =>
      rw [htarget]
      unfold State.restartsDue at hdue
      show (forkWorkers e (s.resolveWorkerCount e) s.forking).2.load + _ ≤ _
      omega
    case booked =>
      intro _
      rw [htarget, hdue]
      show (forkWorkers e (s.resolveWorkerCount e) s.forking).2.load + (0 : Nat) ≤ _
      omega
    case marked =>
      intro id hid
      rw [setRunPhase, State.recycledOld, hrec] at hid
      exact absurd hid (Finset.notMem_empty _)
    case untimed =>
      intro id hid
      rw [setRunPhase, State.recycledOld, hrec] at hid
      exact absurd hid (Finset.notMem_empty _)
    case once =>
      rw [setRunPhase, hrec]
      exact List.nodup_nil
    case filled => exact hfilled
  rcases startPrimary_outcome (e := e) (s.resolveWorkerCount e) s with ⟨_, heq⟩ | ⟨_, b, evs, _, heq⟩
  · rw [heq]
    exact hphase .rejected (.inl rfl)
  · rw [heq]
    exact { hphase .started (.inr rfl) with }

/-- The kick of the queue behind a request. -/
theorem kickRestartQueue (h : InOrder s → Capacity e d s) (hw : WellFormed s)
    (hfree : s.restart.restartLoopRunning = false →
      d = false ∨ s.manager.pendingRecycleTimers.keySet = ∅)
    (ht : InOrder (s.kickRestartQueue e)) : Capacity e d (s.kickRestartQueue e) := by
  cases hr : s.restart.restartLoopRunning with
  | true =>
    have hkick : s.kickRestartQueue e = s := if_pos hr
    rw [hkick] at ht ⊢
    exact h ht
  | false =>
    exact effects (a := .resetCircuitBreaker) h hw rfl (hfree hr) (kickRestartQueue_effects rfl hw) ht

/-- A refill asks for no more than what is free, unless it doubles restarts that are due. -/
theorem refillMissing (h : Capacity e d s) (hw : WellFormed s) (hforked : s.orch.hasForked = true)
    (hdouble : d = false → s.restartsDue = 0 ∨ s.resolveWorkerCount e ≤ s.metrics.activeWorkers)
    (hfree : s.restart.restartLoopRunning = false →
      d = false ∨ s.manager.pendingRecycleTimers.keySet = ∅)
    (ht : InOrder (s.refillMissing e)) : Capacity e d (s.refillMissing e) := by
  let count := s.resolveWorkerCount e - s.metrics.activeWorkers
  have hload : s.load ≤ s.metrics.activeWorkers := by
    have hle := Finset.card_le_card hw.timed
    rw [State.load, hw.active]
    omega
  have hrefilled : Capacity e d (s.queueRefill count) := by
    rw [queueRefill_eq]
    refine h.withRestart _ (fun hf => absurd (hforked.symm.trans hf) (by decide)) h.room fun hd => ?_
    have hdue : State.restartsDue { s with restart := { s.restart with
        pendingRestartQueue := s.restart.pendingRestartQueue ++ List.replicate count .refill
        emptyFleetHold := s.restart.emptyFleetHold ||
          (decide (s.metrics.activeWorkers = 0) && !s.isShuttingDown) } } =
        s.restartsDue + count := by
      unfold State.restartsDue
      rw [List.length_append, List.length_replicate]
      show _ + _ + s.inBackoff.toNat = _
      omega
    have hbooked := h.booked hd
    rw [hdue]
    rcases hdouble hd with hzero | hfull
    · omega
    · omega
  have hfree' : (s.queueRefill count).restart.restartLoopRunning = false →
      d = false ∨ (s.queueRefill count).manager.pendingRecycleTimers.keySet = ∅ := by
    rw [queueRefill_eq]
    exact hfree
  exact kickRestartQueue (fun _ => hrefilled) (hw.queueRefill _) hfree' ht

theorem attemptRestart (h : Capacity e d s) (hw : WellFormed s) (hf : s.inBackoff = true)
    (entry : RestartQueueEntry) (delayMs : ℚ) :
    Capacity e d (State.attemptRestart e entry delayMs s) := by
  have hpruned : Capacity e d s.pruneCrashes := { h with }
  have hwp : WellFormed s.pruneCrashes := { hw with }
  have hnone (hnone : s.restart.frame = none) :
      d = false ∨ s.manager.pendingRecycleTimers.keySet = ∅ := by
    rw [inBackoff, hnone] at hf
    cases hf
  unfold State.attemptRestart
  simp only
  split
  · rename_i ht
    exact hpruned.queueMove hwp hnone (.abandoned hf (.inr ht))
  · rcases forkWorker_cases e .restartQueue none s.pruneCrashes with ⟨-, h'⟩ | ⟨hfail, h'⟩ | ⟨-, h'⟩
    · rw [h']
      exact hpruned.restartFailed hwp entry hf
    · rw [h']
      have hfilled : (s.pruneCrashes.forkCall e .restartQueue none).Filled :=
        fun _ hok => absurd (hfail.symm.trans hok) Bool.false_ne_true
      have hcalled : Capacity e d (clusterFork (s.pruneCrashes.forkCall e .restartQueue none)
          s.pruneCrashes) :=
        { hpruned with filled := List.forall_mem_cons.mpr ⟨hfilled, h.filled⟩ }
      exact hcalled.restartFailed { hwp with } entry hf
    · rw [h']
      exact { hpruned.restarted hwp hf with }

theorem backoffElapsed (h : Capacity e d s) (hw : WellFormed s)
    (hact : s.backoffElapsed e = some t) (ht : InOrder t) : Capacity e d t := by
  have hs := (Effects.moves (a := .timer .backoffWait)
    (backoffElapsed_effects rfl hact)).later.not_shutting ht.shutting
  unfold State.backoffElapsed at hact
  split at hact
  · rename_i entry delayMs since hf
    have hback : s.inBackoff = true := by rw [inBackoff, hf]
    rw [hs] at hact
    split at hact
    · rw [if_neg Bool.false_ne_true] at hact
      rw [← Option.some.inj hact]
      exact h.attemptRestart hw hback entry delayMs
    · cases hact
  · cases hact

/-- What the exit of `id` leaves of the account, up to the queue. -/
theorem exited (h : Capacity e d s) (hw : WellFormed s) {id : Nat} {m : State}
    (hran : ListenersRan e s id m) (hm : m = (s.markDead id).workerExitListeners e id)
    (ht : InOrder m) : Capacity e d (m.removed id) := by
  have hdied : Capacity e d (s.markDead id) := { h with }
  have hid := hw.alive_tracked id hran.alive
  have hle := (hw.tracked_bounded id hid).2
  have heffs : Effects e .setReady (s.markDead id) m :=
    hm ▸ workerExitListeners_effects (hw.markDead id) (isDead_markDead s id) hle
  have hother : Action.setReady ≠ .pluginsInstalled := by simp
  have hlistened := hdied.turns (hw.markDead id) hother rfl heffs.turns ht
  exact hlistened.removed hran.wellFormed hran.tracked

theorem of_quiet (h : Capacity e d s) (hq : Quiet s t) : Capacity e d t := by
  obtain ⟨b, evs, -, rfl⟩ := hq
  exact { h with }

/-- The restart of a crashed worker is asked for the slot it leaves. -/
theorem crashQueued (h : Capacity e d s) (hforked : s.orch.hasForked = true)
    {d' : Bool} (hd' : d' = false → s.load + s.restartsDue + 1 ≤ s.resolveWorkerCount e)
    (entry : RestartQueueEntry) : Capacity e d' (s.noteCrash.queueCrash entry) := by
  have hnoted : Capacity e d s.noteCrash := by
    rw [noteCrash_eq]
    exact { h with }
  rw [queueCrash_eq]
  rw [noteCrash_eq] at hnoted ⊢
  refine hnoted.withRestart _ (fun hf => absurd (hforked.symm.trans hf) (by decide)) h.room
    fun hd => ?_
  have hbooked := hd' hd
  unfold State.restartsDue at hbooked ⊢
  show s.load + ((s.restart.pendingRestartQueue ++ [entry]).length + s.inBackoff.toNat : Nat) ≤
    s.resolveWorkerCount e
  rw [List.length_append, List.length_singleton]
  omega

theorem workerExit (h : Capacity e d s) (hw : WellFormed s) (hmarks : MarksAccounted s) {id : Nat}
    {code : Option Int} {signal : Option String} (hact : s.workerExit e id code signal = some t)
    (hfree : s.restart.restartLoopRunning = false →
      (d || s.doublesRestart e (.workerExit id code signal)) = false ∨
        s.manager.pendingRecycleTimers.keySet = ∅)
    (ht : InOrder t) :
    Capacity e (d || s.doublesRestart e (.workerExit id code signal)) t := by
  obtain ⟨m, hm, hran, ⟨hdisposed, rfl⟩ | ⟨-, hhandled⟩⟩ := workerExit_ran hw hact
  · have hs : t.isShuttingDown = true := hran.wellFormed.disposed hdisposed
    exact absurd (ht.shutting.symm.trans hs) (by decide)
  have hturns := handleWorkerExit_turns hran.wellFormed hran.dead hran.tracked hhandled
  have hmo : InOrder m := ht.earlier hturns.pieces.later
  have hcap := h.exited hw hran hm hmo
  have hwr := hran.wellFormed.removed hran.dead hran.tracked
  have hid := hw.alive_tracked id hran.alive
  have hquiet : Quiet (m.removed id) t ∨ (s.worker id).exitedAfterDisconnect = false := by
    have hreported : Quiet (m.removed id) (m.exitReported id code signal) := .of_event _ rfl rfl
    cases hhandled with
    | shutting t hs => exact absurd (hmo.shutting.symm.trans hs) (by decide)
    | graceful hs hg => exact .inl ((hreported.trans recomputeFleetHealth_quiet).trans (.of_eq rfl))
    | crashed hs hg => exact .inr (hran.graceful.symm.trans hg)
  rcases hquiet with hq | hgraceful
  · exact (hcap.of_quiet hq).doubled _
  cases handleWorkerExit_outcome hhandled with
  | unheard hd => exact absurd (hmo.shutting.symm.trans (hran.wellFormed.disposed hd)) (by decide)
  | drained t hwhy hq => exact (hcap.of_quiet hq).doubled _
  | quarantined b hs hq hg => exact { (hcap.of_quiet hq).doubled _ with }
  | tripped b hs hq hg htrip =>
    rw [noteCrash_eq]
    exact { (hcap.of_quiet hq).doubled _ with }
  | queued b entry hs hq hg htrip =>
    have hb := hcap.of_quiet hq
    have hwb := (((hwr.of_quiet hq).noteCrash).queueCrash entry)
    -- what `b` shares with the state before the exit
    obtain ⟨hforked, hdue, htarget, hload, hrunning, htimers⟩ : b.orch.hasForked = true ∧
        b.restartsDue = s.restartsDue ∧ b.resolveWorkerCount e = s.resolveWorkerCount e ∧
        b.load = (s.removed id).load ∧
        b.restart.restartLoopRunning = s.restart.restartLoopRunning ∧
        b.manager.pendingRecycleTimers.keySet = s.manager.pendingRecycleTimers.keySet.erase id := by
      have hforked := h.hasForked hid
      obtain ⟨x, evs, -, rfl⟩ := hq
      obtain ⟨-, hmanager, -, hrestart, -, horch, -⟩ := hran.same
      refine ⟨?_, ?_, ?_, load_removed_congr hmanager id, ?_, ?_⟩
      · rw [← horch] at hforked
        exact hforked
      · unfold State.restartsDue inBackoff
        rw [← hrestart]
        rfl
      · exact resolveWorkerCount_congr (congrArg Orchestrator.count horch :)
      · rw [← hrestart]
        rfl
      · rw [← hmanager]
        exact OrdMap.keySet_delete _ _
    have hqueued : Capacity e (d || s.doublesRestart e (.workerExit id code signal))
        (b.noteCrash.queueCrash entry) := by
      refine hb.crashQueued hforked (fun hd => ?_) entry
      obtain ⟨hd, hsingle⟩ := Bool.or_eq_false_iff.mp hd
      have hold : id ∉ s.recycledOld := by
        simpa [State.doublesRestart, hgraceful] using hsingle
      have hbooked := h.booked hd
      rw [hdue, htarget, hload, load_removed hw hmarks hid hold]
      omega
    have hfree' : (b.noteCrash.queueCrash entry).restart.restartLoopRunning = false →
        (d || s.doublesRestart e (.workerExit id code signal)) = false ∨
          (b.noteCrash.queueCrash entry).manager.pendingRecycleTimers.keySet = ∅ := by
      rw [queueCrash_eq, noteCrash_eq]
      show b.restart.restartLoopRunning = false →
        _ ∨ b.manager.pendingRecycleTimers.keySet = ∅
      rw [hrunning, htimers]
      refine fun hr => (hfree hr).imp_right fun hnone => ?_
      rw [hnone]
      rfl
    exact kickRestartQueue (fun _ => hqueued) hwb hfree' ht

theorem initial (e : Host) (count : WorkerCount) (env : ProcessEnv) :
    Capacity e false (State.initial e count env) where
  empty := fun _ => rfl
  unrecycled := fun _ => rfl
  unasked := fun _ => rfl
  phase := fun _ => rfl
  room := Int.natCast_nonneg _
  booked := fun _ => Int.natCast_nonneg _
  marked := fun _ h => absurd h (Finset.notMem_empty _)
  untimed := fun _ h => absurd h (Finset.notMem_empty _)
  once := List.nodup_nil
  filled := fun _ h => absurd h List.not_mem_nil

end Capacity

namespace Capacity

variable {d : Bool} {a : Action}

/-- What a segment that refills is asked. -/
theorem not_doubled (hd : (d || (decide (0 < s.restartsDue) &&
      decide (s.metrics.activeWorkers < s.resolveWorkerCount e))) = false) :
    s.restartsDue = 0 ∨ s.resolveWorkerCount e ≤ s.metrics.activeWorkers := by
  rw [Bool.or_eq_false_iff, Bool.and_eq_false_iff, decide_eq_false_iff_not,
    decide_eq_false_iff_not] at hd
  exact hd.2.imp Nat.eq_zero_of_not_pos Nat.not_lt.mp

theorem resetCircuitBreaker (h : Capacity e d s) (hw : WellFormed s)
    (hfree : s.restart.restartLoopRunning = false →
      (d || s.doublesRestart e .resetCircuitBreaker) = false ∨
        s.manager.pendingRecycleTimers.keySet = ∅)
    (ht : InOrder (s.resetCircuitBreaker e)) :
    Capacity e (d || s.doublesRestart e .resetCircuitBreaker) (s.resetCircuitBreaker e) := by
  have hs := (act_pieces (e := e) (a := .resetCircuitBreaker) hw rfl).later.not_shutting ht.shutting
  have hreset : Capacity e (d || s.doublesRestart e .resetCircuitBreaker) s.breakerReset :=
    { h.doubled _ with }
  rcases resetCircuitBreaker_outcome (e := e) s with ⟨hs', -⟩ | ⟨-, ⟨-, heq⟩ | ⟨hforked, heq⟩⟩
  · exact absurd (hs.symm.trans hs') (by decide)
  · rw [heq]
    exact hreset
  · rw [heq] at ht ⊢
    exact hreset.refillMissing { hw with } hforked not_doubled hfree ht

theorem rollReturned (h : Capacity e d s) (hw : WellFormed s) (hact : s.rollReturned e = some t)
    (hforked : s.rollFrame = some (.returned .complete) → s.orch.hasForked = true)
    (hfree : s.restart.restartLoopRunning = false →
      (d || s.doublesRestart e (.resume .rollReturned)) = false ∨
        s.manager.pendingRecycleTimers.keySet = ∅)
    (ht : InOrder t) : Capacity e (d || s.doublesRestart e (.resume .rollReturned)) t := by
  have hdoubled := h.doubled (s.doublesRestart e (.resume .rollReturned))
  obtain ⟨r, hr, ⟨-, rfl⟩ | ⟨-, rfl⟩ | ⟨hf, rfl⟩⟩ := rollReturned_outcome hact
  · exact { hdoubled with }
  · exact { hdoubled with }
  · have hframe : s.rollFrame = some (.returned .complete) := by
      rw [rollFrame, hr, Option.map_some, hf]
    have hcompleted : Capacity e (d || s.doublesRestart e (.resume .rollReturned))
        (s.rollCompleted r) := { hdoubled with }
    refine hcompleted.refillMissing { hw with } (hforked hframe) (fun hd => ?_) hfree ht
    rw [State.doublesRestart, decide_eq_true hframe, Bool.true_and] at hd
    exact not_doubled hd

/-- The condition at a segment that may take up a restart. -/
theorem free_of_order (hok : restartsInOrder e (s, d) a = true) (htakes : s.takesRestart a = true) :
    (d || s.doublesRestart e a) = false ∨ s.manager.pendingRecycleTimers.keySet = ∅ := by
  have hfree := (Bool.and_eq_true_iff.mp hok).2
  rw [htakes, Bool.not_true, Bool.false_or, Bool.or_eq_true, Bool.not_eq_true',
    decide_eq_true_eq] at hfree
  refine hfree.imp_right fun hzero => ?_
  rw [← Finset.card_eq_zero, OrdMap.card_keySet]
  exact hzero

/-- **Segment rule.** -/
theorem act (h : Capacity e d s) (hw : WellFormed s) (hmarks : MarksAccounted s)
    (hact : s.act e a = some t) (hok : restartsInOrder e (s, d) a = true) (ht : InOrder t) :
    Capacity e (noteDoubled e s a t d) t := by
  suffices hdoubled : Capacity e (d || s.doublesRestart e a) t from hdoubled.settled
  by_cases hplug : a = .pluginsInstalled
  · subst hplug
    obtain ⟨hi, rfl⟩ := pluginsInstalled_outcome hact
    exact (h.startPrimary hw hi).doubled _
  cases hq : a.runsQueue with
  | false => exact (h.turns hw hplug hq (act_turns hw hact) ht).doubled _
  | true =>
    have hidle {P : Prop} (hrun : s.restart.restartLoopRunning = false)
        (htakes : s.takesRestart a = !s.restart.restartLoopRunning)
        (hP : (d || s.doublesRestart e a) = false ∨ s.manager.pendingRecycleTimers.keySet = ∅ → P) :
        P := hP (free_of_order hok (by rw [htakes, hrun]; rfl))
    cases a with
    | workerExit id code signal =>
      exact h.workerExit hw hmarks hact (fun hrun => hidle hrun rfl fun hfree => hfree) ht
    | resetCircuitBreaker =>
      obtain rfl := Option.some.inj hact
      exact h.resetCircuitBreaker hw (fun hrun => hidle hrun rfl fun hfree => hfree) ht
    | timer timer =>
      cases timer with
      | backoffWait => exact (h.backoffElapsed hw hact ht).doubled _
      | _ => cases hq
    | resume c =>
      cases c with
      | restartQueue =>
        have hfree := free_of_order hok rfl
        exact effects (fun _ => h.doubled _) hw hq hfree (queueReturned_effects hq hw hact) ht
      | rollReturned =>
        refine h.rollReturned hw hact (fun hframe => ?_)
          (fun hrun => hidle hrun rfl fun hfree => hfree) ht
        have horder := (Bool.and_eq_true_iff.mp hok).1
        simpa [hframe] using horder
      | _ => cases hq
    | _ => cases hq

end Capacity

/-- **No over-capacity**, as long as no roll forks for a marked worker or completes before the
initial forks, and no restart is taken up with a stagger timer pending while a doubled one is
due: the settled workers never exceed the target, no worker gets a second replacement, and the
restart queue forks only for a slot that is missing. -/
theorem settled_le_target (e : Host) (count : WorkerCount) (env : ProcessEnv) (x : State × Bool)
    (hrun : ((orchestrator e count env).observed false (noteDoubled e)).Run
      (fun y a => restartsInOrder e y a = true) (State.initial e count env, false) x)
    (hs : x.1.isShuttingDown = false)
    (hrolls : ∀ call ∈ x.1.cluster.forkCalls, call.succeeded = true →
      call.replacesUnmarked = true) :
    x.1.settledWorkers ≤ x.1.resolveWorkerCount e ∧ (x.1.recycles.map Recycle.old).Nodup ∧
      ∀ call ∈ x.1.cluster.forkCalls, call.cause = .restartQueue → call.succeeded = true →
        call.activeWorkers < call.target + call.recyclingWorkerIds.card := by
  have hcap : InOrder x.1 → Capacity e x.2 x.1 := by
    refine hrun.observed_preserves (P := fun y => InOrder y.1 → Capacity e y.2 y.1)
      (Q := fun s => WellFormed s ∧ MarksAccounted s)
      (fun s hs => ⟨reachable_wellFormed hs, reachable_marksAccounted hs⟩) ?_
      fun _ => .initial e count env
    rintro ⟨s, d⟩ a t ⟨hw, hmarks⟩ h hok hstep ht
    have hact := orchestrator_step hstep
    exact (h (ht.earlier (act_pieces hw hact).later)).act hw hmarks hact hok ht
  have h := hcap ⟨hs, hrolls⟩
  have hroom := h.room
  have hsettled := settledWorkers_le_load (reachable_wellFormed hrun.unobserved)
  have hback : (0 : Int) ≤ x.1.inBackoff.toNat := Int.natCast_nonneg _
  exact ⟨by omega, h.once, fun call hc hcause hok => h.filled call hc hcause hok⟩

/-- One worker that is rolled once. -/
theorem settled_le_target_one_worker :
    ∃ x : State × Bool, x.1.cluster.forkCalls.length = 2 ∧ x.1.settledWorkers ≤ 1 ∧
      (x.1.recycles.map Recycle.old).Nodup := by
  have hrun := StepSystem.exists_run_of_any
    ((orchestrator {} (.fixed 1) fun _ => none).observed false (noteDoubled {}))
    (State.initial {} (.fixed 1) fun _ => none, false) (restartsInOrder {})
    [.tick 1, .run, .pluginsInstalled, .workerOnline 1, .restartWorkers {}]
    (fun x => decide (x.1.cluster.forkCalls.length = 2) && !x.1.isShuttingDown &&
      decide (x.1.resolveWorkerCount {} = 1) &&
      x.1.cluster.forkCalls.all fun call => call.replacesUnmarked) (by decide +kernel)
  obtain ⟨x, hrun, hq⟩ := hrun
  simp only [Bool.and_eq_true, decide_eq_true_eq, Bool.not_eq_true', List.all_eq_true] at hq
  obtain ⟨⟨⟨hlen, hs⟩, htarget⟩, hrolls⟩ := hq
  have h := settled_le_target {} _ _ x hrun hs fun call hc _ => hrolls call hc
  rw [htarget] at h
  exact ⟨x, hlen, h.1, h.2.1⟩

/-- A roll that hits a worker whose aged recycle already forked a replacement. -/
theorem settled_exceeds_target :
    ¬ ∀ (e : Host) (count : WorkerCount) (env : ProcessEnv) (s : State),
      (orchestrator e count env).Reachable s → s.isShuttingDown = false →
        s.settledWorkers ≤ s.resolveWorkerCount e := by
  intro h
  let e : Host := { cfg := { workers := { maxAgeMs := 1000 } } }
  have hrun := StepSystem.exists_reachable_of_any (orchestrator e (.fixed 1) fun _ => none)
    [.tick 1, .run, .pluginsInstalled, .workerOnline 1, .tick 61000, .timer .recycleSweep,
      .tick 1, .timer (.recycleStagger 1), .restartWorkers {}]
    (fun s => !s.isShuttingDown && decide (s.settledWorkers = 2) &&
      decide (s.resolveWorkerCount e = 1)) (by decide +kernel)
  obtain ⟨s, hreach, hq⟩ := hrun
  simp only [Bool.and_eq_true, decide_eq_true_eq, Bool.not_eq_true'] at hq
  obtain ⟨⟨hs, hsettled⟩, htarget⟩ := hq
  have hle := h e _ _ s hreach hs
  rw [hsettled, htarget] at hle
  exact absurd hle (by decide)

end ClusterKit
