import ClusterKit.Lib.StepSystem
import ClusterKit.Segment

/-! The worker manager on its own: its operations in any order, also orders that the
orchestrator never takes, with the exit of each worker delivered once. Four pieces of
state agree throughout on who is there. -/

namespace ClusterKit

open State

/-- The manager's operations, and what the cluster module and the clock do around them. -/
inductive ManagerAction where
  | tick (ms : Nat)
  /-- From here on `isShuttingDown()` answers `true`. -/
  | shuttingDown
  | forkWorker (cause : ForkCause) (envOverlay : Option ProcessEnv)
  | startRecycling
  | recycleSweep
  /-- The stagger timer of a worker. -/
  | stagger (id : Nat)
  | recycleWorkerNow (id : Nat)
  /-- On a live worker. -/
  | markForRecycling (id : Nat)
  | stopRecycling
  /-- A worker closes its channel; a dead one leaves the table. -/
  | disconnected (id : Nat)
  /-- The process of a worker is gone; its exit is still to be delivered. -/
  | died (id : Nat)
  | exit (id : Nat)

structure Managed where
  primary : State
  /-- *History*: the workers whose exit was handled. -/
  handled : Finset Nat := ∅

namespace Managed

/-- The forked workers whose exit has not been handled. -/
def unhandled (m : Managed) : Finset Nat := m.primary.workerIds \ m.handled

/-- Change the state of the primary only. -/
def andThen (m : Managed) (s : State) : Managed := { m with primary := s }

def act (e : Host) (m : Managed) : ManagerAction → Option Managed
  | .tick ms => some (m.andThen { m.primary with now := m.primary.now + ms })
  | .shuttingDown => some (m.andThen { m.primary with
      shutdown := { m.primary.shutdown with isShuttingDown := true } })
  | .forkWorker cause envOverlay =>
    some (m.andThen (State.forkWorker e cause envOverlay m.primary).2)
  | .startRecycling => some (m.andThen (m.primary.startRecycling e))
  | .recycleSweep => (m.primary.recycleSweep e).map m.andThen
  | .stagger id => (m.primary.staggerElapsed e id).map m.andThen
  | .recycleWorkerNow id => some (m.andThen (State.recycleWorkerNow e id m.primary).2)
  | .markForRecycling id =>
    if m.primary.alive id then some (m.andThen (m.primary.markForRecycling id)) else none
  | .stopRecycling => some (m.andThen m.primary.stopRecycling)
  | .disconnected id => some (m.andThen (m.primary.modifyWorker id fun w =>
      { w with connected := false, listed := w.listed && !w.dead }))
  | .died id => some (m.andThen (m.primary.markDead id))
  | .exit id =>
    if id ∈ m.unhandled then
      some { primary := (m.primary.markDead id).cleanupWorker id, handled := insert id m.handled }
    else none

end Managed

/-- The manager as a step system. -/
def workerManager (e : Host) (count : WorkerCount) (env : ProcessEnv) :
    StepSystem Managed ManagerAction where
  init := { primary := .initial e count env }
  step m a := m.act e a

/-- **The invariant.** The tracked workers are the unhandled ones, and the count, the marks
and the timers follow them. -/
structure Represented (handled : Finset Nat) (s : State) : Prop where
  tracked : s.tracked = s.workerIds \ handled
  forked : handled ⊆ s.workerIds
  active : s.metrics.activeWorkers = s.tracked.card
  marked : s.manager.recyclingWorkerIds ⊆ s.tracked
  timed : s.manager.pendingRecycleTimers.keySet ⊆ s.manager.recyclingWorkerIds
  alive : ∀ id, s.alive id → id ∈ s.tracked

namespace Represented

variable {e : Host} {s t : State} {handled : Finset Nat} {id : Nat}

theorem initial (e : Host) (count : WorkerCount) (env : ProcessEnv) :
    Represented ∅ (State.initial e count env) where
  tracked := rfl
  forked := Finset.empty_subset _
  active := rfl
  marked := Finset.empty_subset _
  timed := Finset.empty_subset _
  alive _ ha := by cases ha

/-! ## One lemma for each kind of write -/

theorem forked_call (h : Represented handled s) (call : ForkCall) :
    Represented handled (s.forked call) := by
  have hids : (s.forked call).workerIds = insert (s.cluster.ids + 1) s.workerIds := by
    ext j
    show j ∈ Finset.Icc 1 (s.cluster.ids + 1) ↔ j ∈ insert (s.cluster.ids + 1) (Finset.Icc 1 _)
    simp only [Finset.mem_Icc, Finset.mem_insert]
    omega
  have hnew : s.cluster.ids + 1 ∉ s.workerIds := by simp [workerIds]
  have hunhandled : s.cluster.ids + 1 ∉ handled := fun hmem => hnew (h.forked hmem)
  have hsub : s.tracked ⊆ (s.forked call).tracked := by
    rw [tracked_forked]
    exact Finset.subset_insert _ _
  constructor
  case tracked => rw [tracked_forked, hids, Finset.insert_sdiff_of_notMem _ hunhandled, h.tracked]
  case forked =>
    rw [hids]
    exact h.forked.trans (Finset.subset_insert _ _)
  case active =>
    have hfresh : s.cluster.ids + 1 ∉ s.tracked := by
      rw [h.tracked]
      exact fun hmem => hnew (Finset.mem_sdiff.mp hmem).1
    rw [tracked_forked, Finset.card_insert_of_notMem hfresh, ← h.active]
    rfl
  case marked => exact h.marked.trans hsub
  case timed => exact h.timed
  case alive =>
    intro j hj
    rw [tracked_forked, Finset.mem_insert]
    exact ((alive_forked s call j).mp hj).imp_right (h.alive j)

/-- A fork that throws changes nothing that counts. -/
theorem forkWorker (h : Represented handled s) (cause : ForkCause)
    (envOverlay : Option ProcessEnv) :
    Represented handled (State.forkWorker e cause envOverlay s).2 := by
  rcases forkWorker_cases e cause envOverlay s with ⟨-, heq⟩ | ⟨-, heq⟩ | ⟨-, heq⟩
  · rw [heq]
    exact h
  · rw [heq]
    exact { h with }
  · rw [heq]
    exact h.forked_call _

theorem markForRecycling (h : Represented handled s) (hid : id ∈ s.tracked) :
    Represented handled (s.markForRecycling id) :=
  { h with
    marked := Finset.insert_subset hid h.marked
    timed := h.timed.trans (Finset.subset_insert _ _) }

/-- A mark goes only when no timer is left that rests on it. -/
theorem unmarkForRecycling (h : Represented handled s)
    (hid : id ∉ s.manager.pendingRecycleTimers.keySet) :
    Represented handled (s.unmarkForRecycling id) :=
  { h with
    marked := (Finset.erase_subset _ _).trans h.marked
    timed := Finset.subset_erase.mpr ⟨h.timed, hid⟩ }

theorem setRecycleTimer (h : Represented handled s) (deadline : Nat)
    (hid : id ∈ s.manager.recyclingWorkerIds) :
    Represented handled (s.setRecycleTimer id deadline) where
  __ := h
  timed := by
    show (s.manager.pendingRecycleTimers.set id deadline).keySet ⊆ _
    rw [OrdMap.keySet_set]
    exact Finset.insert_subset hid h.timed

theorem deleteRecycleTimer (h : Represented handled s) (id : Nat) :
    Represented handled (s.deleteRecycleTimer id) where
  __ := h
  timed := by
    show (s.manager.pendingRecycleTimers.delete id).keySet ⊆ _
    rw [OrdMap.keySet_delete]
    exact (Finset.erase_subset _ _).trans h.timed

theorem stopRecycling (h : Represented handled s) : Represented handled s.stopRecycling :=
  { h with
    marked := Finset.empty_subset _
    timed := Finset.empty_subset _ }

theorem modifyWorker (h : Represented handled s) {f : Worker → Worker}
    (hf : ∀ w, (f w).dead = false → w.dead = false) : Represented handled (s.modifyWorker id f) where
  __ := h
  alive j hj := by
    refine h.alive j ?_
    by_cases hji : j = id
    · subst hji
      rw [State.alive, isDead, worker_modifyWorker_self] at hj
      exact hf _ hj
    · rw [State.alive, isDead, worker_modifyWorker_of_ne hji] at hj
      exact hj

theorem markDead (h : Represented handled s) (id : Nat) : Represented handled (s.markDead id) :=
  h.modifyWorker fun _ hdead => by cases hdead

/-- An exit that is handled for the first time takes one worker out of all four. -/
theorem exit (h : Represented handled s) (hid : id ∈ s.workerIds \ handled) :
    Represented (insert id handled) ((s.markDead id).cleanupWorker id) := by
  have hd := h.markDead id
  have htracked : ((s.markDead id).cleanupWorker id).tracked = s.tracked.erase id :=
    OrdMap.keySet_delete _ _
  have hmem : id ∈ s.tracked := h.tracked ▸ hid
  constructor
  case tracked =>
    rw [htracked, h.tracked]
    exact (Finset.sdiff_insert _ _ _).symm
  case forked => exact Finset.insert_subset (Finset.mem_sdiff.mp hid).1 h.forked
  case active =>
    rw [htracked, Finset.card_erase_of_mem hmem, ← h.active]
    rfl
  case marked =>
    rw [htracked]
    exact Finset.erase_subset_erase _ h.marked
  case timed =>
    show (s.manager.pendingRecycleTimers.delete id).keySet ⊆ s.manager.recyclingWorkerIds.erase id
    rw [OrdMap.keySet_delete]
    exact Finset.erase_subset_erase _ h.timed
  case alive =>
    intro j hj
    rw [htracked, Finset.mem_erase]
    refine ⟨?_, hd.alive j hj⟩
    rintro rfl
    have hdead : ((s.markDead j).cleanupWorker j).isDead j = true := by
      show ((s.markDead j).worker j).dead = true
      rw [State.markDead, worker_modifyWorker_self]
    exact absurd (hdead.symm.trans hj) (by decide)

/-! ## The operations -/

theorem startRecycling (h : Represented handled s) : Represented handled (s.startRecycling e) := by
  unfold State.startRecycling
  split
  · exact h
  · exact { h with }

/-- The `forEach` of the sweep, by induction on the workers due: each of them is alive. -/
theorem armStaggerTimers (ids : List Nat) (h : Represented handled s) (hids : ∀ id ∈ ids, s.alive id)
    (idx : Nat) : Represented handled (State.armStaggerTimers idx ids s) := by
  induction ids generalizing idx s with
  | nil => exact h
  | cons id rest ih =>
    have hmark := h.markForRecycling (h.alive id (hids id List.mem_cons_self))
    have harmed := hmark.setRecycleTimer (s.now + max 1 (idx * RECYCLE_STAGGER_MS))
      (Finset.mem_insert_self id _)
    exact ih harmed (fun j hj => hids j (List.mem_cons_of_mem _ hj)) (idx + 1)

theorem recycleSweep (h : Represented handled s) (hact : s.recycleSweep e = some t) :
    Represented handled t := by
  unfold State.recycleSweep at hact
  split at hact
  · cases hact
  · split at hact
    · dsimp only at hact
      split at hact
      · rw [← Option.some.inj hact]
        exact { h with }
      · rw [← Option.some.inj hact]
        have hticked : Represented handled { s with manager := { s.manager with
            recycleInterval := some (s.now + RECYCLE_SWEEP_MS) } } := { h with }
        refine hticked.armStaggerTimers _ (fun id hid => ?_) 0
        exact (mem_getActiveWorkers.mp (List.mem_filter.mp hid).1).2.2
    · cases hact

/-- The timer's own entry goes first, so the mark may go after it. -/
theorem staggerElapsed (h : Represented handled s) (hact : s.staggerElapsed e id = some t) :
    Represented handled t := by
  have hdeleted := h.deleteRecycleTimer id
  have hgone {x : State} (hx : x.manager = (s.deleteRecycleTimer id).manager) :
      id ∉ x.manager.pendingRecycleTimers.keySet := by
    rw [hx]
    show id ∉ (s.manager.pendingRecycleTimers.delete id).keySet
    rw [OrdMap.keySet_delete]
    exact Finset.notMem_erase _ _
  unfold State.staggerElapsed at hact
  split at hact
  · cases hact
  · split at hact
    · dsimp only at hact
      split at hact
      · rw [← Option.some.inj hact]
        exact hdeleted.unmarkForRecycling (hgone rfl)
      · have hforked := hdeleted.forkWorker (e := e) (.aged id) none
        rcases forkWorker_cases e (.aged id) none (s.deleteRecycleTimer id) with
          ⟨-, heq⟩ | ⟨-, heq⟩ | ⟨-, heq⟩
        · rw [heq] at hact hforked
          rw [← Option.some.inj hact]
          exact hforked.unmarkForRecycling (hgone rfl)
        · rw [heq] at hact hforked
          rw [← Option.some.inj hact]
          exact hforked.unmarkForRecycling (hgone rfl)
        · rw [heq] at hact hforked
          rw [← Option.some.inj hact]
          exact { hforked with }
    · cases hact

/-- It unmarks only what it has marked itself, and that had no timer. -/
theorem recycleWorkerNow (h : Represented handled s) (id : Nat) :
    Represented handled (State.recycleWorkerNow e id s).2 := by
  unfold State.recycleWorkerNow
  split
  · exact h
  · rename_i hguard
    split
    · exact h
    · rename_i hactive
      have ha : s.alive id := (mem_getActiveWorkers.mp (not_not.mp hactive)).2.2
      have hunmarked : id ∉ s.manager.recyclingWorkerIds := by
        intro hmem
        exact hguard (by simp [isMarkedForRecycling, hmem])
      have huntimed : id ∉ s.manager.pendingRecycleTimers.keySet := fun hmem =>
        hunmarked (h.timed hmem)
      have hmark := h.markForRecycling (h.alive id ha)
      have hforked := hmark.forkWorker (e := e) (.health id) none
      dsimp only
      rcases forkWorker_cases e (.health id) none (s.markForRecycling id) with
        ⟨-, heq⟩ | ⟨-, heq⟩ | ⟨-, heq⟩
      · rw [heq] at hforked ⊢
        exact hforked.unmarkForRecycling huntimed
      · rw [heq] at hforked ⊢
        exact hforked.unmarkForRecycling huntimed
      · rw [heq] at hforked ⊢
        exact { hforked with }

end Represented

/-- **Step.** Every operation keeps the invariant. -/
theorem Managed.step_represented {e : Host} {m n : Managed} {a : ManagerAction}
    (h : Represented m.handled m.primary) (hact : m.act e a = some n) :
    Represented n.handled n.primary := by
  cases a with
  | tick ms => exact Option.some.inj hact ▸ { h with }
  | shuttingDown => exact Option.some.inj hact ▸ { h with }
  | forkWorker cause envOverlay => exact Option.some.inj hact ▸ h.forkWorker cause envOverlay
  | startRecycling => exact Option.some.inj hact ▸ h.startRecycling
  | recycleSweep =>
    obtain ⟨t, ht, rfl⟩ := Option.map_eq_some_iff.mp hact
    exact h.recycleSweep ht
  | stagger id =>
    obtain ⟨t, ht, rfl⟩ := Option.map_eq_some_iff.mp hact
    exact h.staggerElapsed ht
  | recycleWorkerNow id => exact Option.some.inj hact ▸ h.recycleWorkerNow id
  | markForRecycling id =>
    rw [Managed.act] at hact
    split at hact
    · rename_i ha
      exact Option.some.inj hact ▸ h.markForRecycling (h.alive id ha)
    · cases hact
  | stopRecycling => exact Option.some.inj hact ▸ h.stopRecycling
  | disconnected id =>
    exact Option.some.inj hact ▸ h.modifyWorker fun _ hdead => hdead
  | died id => exact Option.some.inj hact ▸ h.markDead id
  | exit id =>
    rw [Managed.act] at hact
    split at hact
    · rename_i hid
      exact Option.some.inj hact ▸ h.exit hid
    · cases hact

/-- **The counts agree.** In every reachable state `activeWorkers` is the number of start
times and of unhandled workers, the exit of any of them lowers it by one without the
clamp, the marks are on unhandled workers, and the timers are on marked ones. -/
theorem manager_counts_agree (e : Host) (count : WorkerCount) (env : ProcessEnv) (m : Managed)
    (h : (workerManager e count env).Reachable m) :
    m.primary.metrics.activeWorkers = m.primary.manager.workerStartTimes.size ∧
      m.primary.metrics.activeWorkers = m.unhandled.card ∧
      (∀ id ∈ m.unhandled, ((m.primary.cleanupWorker id).metrics.activeWorkers : Int) =
        m.primary.metrics.activeWorkers - 1) ∧
      m.primary.manager.recyclingWorkerIds ⊆ m.unhandled ∧
      ∀ id deadline, m.primary.manager.pendingRecycleTimers.get? id = some deadline →
        id ∈ m.primary.manager.recyclingWorkerIds := by
  have hrep : Represented m.handled m.primary := h.induct
    (P := fun m : Managed => Represented m.handled m.primary) (.initial e count env)
    fun _ _ _ hx hstep => Managed.step_represented hx hstep
  have hcard : m.primary.metrics.activeWorkers = m.unhandled.card := by
    rw [hrep.active, hrep.tracked, Managed.unhandled]
  refine ⟨hrep.active.trans (OrdMap.card_keySet _), hcard, fun id hid => ?_, ?_, ?_⟩
  · have hpos : 0 < m.primary.metrics.activeWorkers := by
      rw [hcard]
      exact Finset.card_pos.mpr ⟨id, hid⟩
    show ((m.primary.metrics.activeWorkers - 1 : Nat) : Int) = _
    omega
  · exact hrep.marked.trans hrep.tracked.subset
  · intro id deadline htimer
    refine hrep.timed ((OrdMap.get?_isSome _ _).mp ?_)
    rw [htimer]
    rfl

/-- Two workers; the first is marked, replaced, and gone. -/
def oneReplaced : List ManagerAction :=
  [.forkWorker .initial none, .forkWorker .initial none, .recycleWorkerNow 1, .died 1, .exit 1]

theorem manager_counts_agree_one_replaced :
    ∃ m : Managed, m.handled = {1} ∧ m.primary.metrics.activeWorkers = m.unhandled.card := by
  obtain ⟨m, hm, hq⟩ := StepSystem.exists_reachable_of_any
    (workerManager {} (.fixed 2) fun _ => none) oneReplaced (fun m => decide (m.handled = {1}))
    (by decide +kernel)
  exact ⟨m, of_decide_eq_true hq, (manager_counts_agree {} _ _ m hm).2.1⟩

end ClusterKit
