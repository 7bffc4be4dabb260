import ClusterKit.Frames
import ClusterKit.LagPolicy

/-! The primary keeps the promises of the journal: whatever it emits the journal expects,
and what the journal knows by then is what the primary knows. -/

namespace ClusterKit

open State StepSystem

/-- The journal and the page agree. -/
structure Page.Tells (p : Page) (j : Journal) : Prop where
  newest : j.newest ≤ p.ids
  online : j.online = p.onlineWorkerIds
  gone : j.gone = Finset.Icc 1 p.ids \ p.tracked
  silent : j.silent = p.exitedWorkerIds
  reporting : p.registered ⊆ j.reporting
  degraded : j.degraded = p.fleetDegraded
  armed : p.degradedArmed = true → p.fleetDegraded = false
  disposed : p.disposed = true → p.isShuttingDown = true
  resolved : p.disposed = p.resolved
  phase : j.phase =
    if p.disposed then .over else if p.isShuttingDown then .shutting else .serving
  tally : j.tally = p.tally
  roll : ∀ r ∈ p.roll, ∃ started, j.roll = some (r.1, started) ∧ r.2.Sublist started

/-- The journal replays the events, agrees with the page, and knows that `o` is owed. -/
def Owing (o : Owed) (s : State) : Prop :=
  journal.Records s.events fun j => s.page.Tells j ∧ j.owed = o

/-- The journal replays the events, agrees with the page, and nothing has to come next. -/
def Kept (s : State) : Prop :=
  journal.Records s.events fun j => s.page.Tells j ∧ j.settled = true

variable {e : Host} {s t : State}

theorem Owing.kept {o : Owed} (h : Owing o s) (ho : o = .nothing ∨ o = .verdict) : Kept s := by
  refine h.mono fun j hj => ⟨hj.1, ?_⟩
  rw [Journal.settled, hj.2]
  rcases ho with rfl | rfl <;> rfl

theorem events_of_page (h : t.page = s.page) : t.events = s.events := congrArg Page.events h

theorem Kept.of_page (h : Kept s) (hp : t.page = s.page) : Kept t := by
  rw [Kept, events_of_page hp, hp]
  exact h

theorem Kept.of_still (h : Kept s) (hs : t.still = s.still) : Kept t := h.of_page (page_of_still hs)

theorem Owing.of_page {o : Owed} (h : Owing o s) (hp : t.page = s.page) : Owing o t := by
  rw [Owing, events_of_page hp, hp]
  exact h

namespace Page.Tells

variable {p q : Page} {j : Journal}

theorem serving (h : p.Tells j) (hs : p.isShuttingDown = false) : j.phase = .serving := by
  have hd : p.disposed = false := Bool.eq_false_iff.mpr fun hd =>
    Bool.false_ne_true (hs.symm.trans (h.disposed hd))
  rw [h.phase, hd, hs]
  rfl

theorem listening (h : p.Tells j) (hd : p.disposed = false) : j.phase ≠ .over := by
  rw [h.phase, hd]
  cases p.isShuttingDown <;> decide

theorem not_gone (h : p.Tells j) {id : Nat} (hid : id ∈ p.tracked) : id ∉ j.gone := by
  rw [h.gone, Finset.mem_sdiff]
  exact fun hgone => hgone.2 hid

/-- A fork is not an event; the next worker is tracked. -/
theorem forked (h : p.Tells j) :
    Page.Tells { p with ids := p.ids + 1, tracked := insert (p.ids + 1) p.tracked } j :=
  { h with
    newest := Nat.le_succ_of_le h.newest
    gone := by
      rw [h.gone]
      ext id
      simp only [Finset.mem_sdiff, Finset.mem_Icc, Finset.mem_insert, not_or]
      constructor
      · rintro ⟨hid, hnot⟩
        exact ⟨⟨hid.1, by omega⟩, by omega, hnot⟩
      · rintro ⟨hid, hne, hnot⟩
        exact ⟨⟨hid.1, by omega⟩, hnot⟩ }

/-- Less of the roll is left. -/
theorem shrink (h : p.Tells j) {roll : Option (String × List Nat)}
    (hroll : ∀ r ∈ roll, ∃ r' ∈ p.roll, r'.1 = r.1 ∧ r.2.Sublist r'.2) :
    Page.Tells { p with roll := roll } j :=
  { h with
    roll := fun r hr => by
      obtain ⟨r', hr', hreason, hsub⟩ := hroll r hr
      obtain ⟨started, hstarted, hsub'⟩ := h.roll r' hr'
      exact ⟨started, by rw [hstarted, hreason], hsub.trans hsub'⟩ }

end Page.Tells

/-! ## Forks and the restart queue -/

theorem page_forked (s : State) (call : ForkCall) :
    (s.forked call).page =
      { s.page with ids := s.page.ids + 1, tracked := insert (s.page.ids + 1) s.page.tracked } := by
  have htracked := tracked_forked s call
  unfold page
  rw [htracked]
  rfl

theorem Kept.forked (h : Kept s) (call : ForkCall) : Kept (s.forked call) := by
  rw [Kept, page_forked]
  exact h.mono fun j hj => ⟨hj.1.forked, hj.2⟩

theorem Kept.forkWorkers (h : Kept s) (count : Nat) : Kept (forkWorkers e count s).2 :=
  forkWorkers_preserves (fun _ hx _ => hx.of_page rfl) (fun _ hx _ => hx.forked _) count s h

theorem Kept.restartSucceeded (h : Kept s) (hs : s.isShuttingDown = false) (call : ForkCall)
    (delayMs : ℚ) :
    Kept ((s.forked call).restartSucceeded e delayMs (s.cluster.ids + 1)) := by
  let t := (s.forked call).restartSucceeded e delayMs (s.cluster.ids + 1)
  have hp : t.page =
      { (s.forked call).page with
        tally := { s.metrics.tally with workerRestarts := s.metrics.workerRestarts + 1 }
        events := .workerRestart (s.cluster.ids + 1) :: s.events } := rfl
  refine Records.cons (b := .workerRestart (s.cluster.ids + 1)) h fun j ⟨hj, hset⟩ => ?_
  refine ⟨_, Journal.expect_eq_some.mpr ⟨⟨hset, Nat.lt_succ_of_le hj.newest, hj.serving hs⟩, rfl⟩,
    ?_, rfl⟩
  show t.page.Tells _
  rw [hp, page_forked]
  exact { hj.forked with
    newest := max_le (Nat.le_succ_of_le hj.newest) le_rfl
    tally := by rw [hj.tally]; rfl }

theorem Kept.attemptRestart (h : Kept s) (hs : s.isShuttingDown = false)
    (entry : RestartQueueEntry) (delayMs : ℚ) : Kept (attemptRestart e entry delayMs s) := by
  unfold State.attemptRestart
  dsimp only
  split
  · exact h.of_page rfl
  · rcases forkWorker_cases e .restartQueue none s.pruneCrashes with ⟨-, hf⟩ | ⟨-, hf⟩ | ⟨-, hf⟩
    · rw [hf]; exact h.of_still (restartFailed_still entry _)
    · rw [hf]; exact h.of_still (restartFailed_still entry _)
    · rw [hf]
      exact Kept.restartSucceeded (s := s.pruneCrashes) (h.of_page rfl) hs _ delayMs

theorem Kept.restartWorkerWithBackoff (h : Kept s) (hs : s.isShuttingDown = false)
    (entry : RestartQueueEntry) : Kept (restartWorkerWithBackoff e entry s) := by
  unfold State.restartWorkerWithBackoff
  extract_lets delayMs
  split
  · exact h.of_page rfl
  · exact h.attemptRestart hs entry delayMs

theorem Kept.queueLoop (queue : List RestartQueueEntry) (h : Kept s) :
    Kept (queueLoop e queue s) := by
  induction queue generalizing s with
  | nil => exact h.of_page rfl
  | cons entry rest ih =>
    rw [State.queueLoop]
    split
    · exact h.of_page rfl
    · rename_i hs
      dsimp only
      split
      · exact h.of_page rfl
      · have hrest : Kept (s.pruneCrashes.setQueue rest) := h.of_page rfl
        split
        · exact ih hrest
        · exact hrest.restartWorkerWithBackoff (Bool.eq_false_iff.mpr hs) entry

theorem Kept.kickRestartQueue (h : Kept s) : Kept (s.kickRestartQueue e) := by
  unfold State.kickRestartQueue
  split
  · exact h
  · exact Kept.queueLoop _ (h.of_page rfl)

theorem Kept.refillMissing (h : Kept s) : Kept (s.refillMissing e) :=
  Kept.kickRestartQueue (h.of_still (queueRefill_still _ s))

theorem Kept.backoffElapsed (h : Kept s) : ∀ t ∈ s.backoffElapsed e, Kept t := by
  unfold State.backoffElapsed
  split
  · split
    · split
      · rintro _ ⟨⟩; exact h.of_page rfl
      · rename_i hs
        rintro _ ⟨⟩; exact h.attemptRestart (Bool.eq_false_iff.mpr hs) _ _
    · rintro _ ⟨⟩
  · rintro _ ⟨⟩

theorem Kept.queueReturned (h : Kept s) : ∀ t ∈ s.queueReturned e, Kept t := by
  unfold State.queueReturned
  split
  · rintro _ ⟨⟩; exact Kept.queueLoop _ (h.of_page rfl)
  · rintro _ ⟨⟩

/-! ## Recycles -/

/-- Draining and recycle are reported together, for a worker that is not gone. -/
theorem Kept.handleWorkerRecycle (h : Kept s) (hs : s.isShuttingDown = false) {old : Nat}
    (hold : old ∈ s.tracked) (hle : old ≤ s.cluster.ids) (new : Nat) :
    Kept (s.handleWorkerRecycle e old new) := by
  let reason := (s.orch.recycleReasons.get? old).getD .maxAge
  have hdraining : journal.Records (.workerDraining old reason :: s.events) fun j =>
      s.page.Tells j ∧ j.owed = .recycle old reason := by
    refine Records.cons h fun j ⟨hj, hset⟩ => ?_
    refine ⟨_, Journal.expect_eq_some.mpr ⟨⟨hset, hj.not_gone hold, hj.serving hs⟩, rfl⟩, ?_, rfl⟩
    exact { hj with newest := max_le hj.newest hle }
  refine Records.cons (b := .workerRecycle old (s.getWorkerAge old) reason) hdraining
    fun j ⟨hj, howed⟩ => ?_
  exact ⟨_, Journal.expect_eq_some.mpr ⟨howed, rfl⟩, { hj with }, rfl⟩

theorem Kept.recycleForked (h : Kept s) (hs : s.isShuttingDown = false) (hw : WellFormed s)
    {old : Nat} (ha : s.alive old) (call : ForkCall) (new : Nat) :
    Kept ((s.forked call).handleWorkerRecycle e old new) := by
  have hold := hw.alive_tracked old ha
  refine (h.forked call).handleWorkerRecycle hs ?_ ?_ new
  · rw [tracked_forked]
    exact Finset.mem_insert_of_mem hold
  · exact Nat.le_succ_of_le (hw.tracked_bounded old hold).2

theorem Kept.recycleWorkerNow (h : Kept s) (hw : WellFormed s) (id : Nat) :
    Kept (s.recycleWorkerNow e id).2 := by
  unfold State.recycleWorkerNow
  split
  · exact h
  · rename_i hs
    rw [Bool.or_eq_true, not_or] at hs
    split
    · exact h
    · rename_i hactive
      have ha : s.alive id := (mem_getActiveWorkers.mp (not_not.mp hactive)).2.2
      have hm : Kept (s.markForRecycling id) := h.of_page rfl
      have hwm : WellFormed (s.markForRecycling id) :=
        hw.markForRecycling (hw.alive_tracked id ha)
      dsimp only
      rcases forkWorker_cases e (.health id) none (s.markForRecycling id) with
        ⟨-, hf⟩ | ⟨-, hf⟩ | ⟨-, hf⟩
      · rw [hf]; exact hm.of_page rfl
      · rw [hf]; exact hm.of_page rfl
      · rw [hf]
        exact hm.recycleForked (Bool.eq_false_iff.mpr hs.1) hwm ha _ _

theorem Kept.triggerWorkerRecycle (h : Kept s) (hw : WellFormed s) (id : Nat)
    (reason : RecycleReason) : Kept (s.triggerWorkerRecycle e id reason) := by
  unfold State.triggerWorkerRecycle
  split
  · exact h
  · have hk := Kept.recycleWorkerNow (e := e) (s := s.setRecycleReason id reason)
      (h.of_page rfl) { hw with } id
    generalize State.recycleWorkerNow e id (s.setRecycleReason id reason) = r at hk ⊢
    obtain ⟨_ | _, t⟩ := r
    · exact hk.of_page rfl
    · exact hk

theorem Kept.staggerElapsed (h : Kept s) (hw : WellFormed s) (id : Nat) :
    ∀ t ∈ s.staggerElapsed e id, Kept t := by
  unfold State.staggerElapsed
  split
  · rintro _ ⟨⟩
  · split
    · dsimp only
      split
      · rintro _ ⟨⟩; exact h.of_page rfl
      · rename_i hcond
        simp only [Bool.or_eq_true, not_or, Bool.not_eq_true] at hcond
        have hd : Kept (s.deleteRecycleTimer id) := h.of_page rfl
        rcases forkWorker_cases e (.aged id) none (s.deleteRecycleTimer id) with
          ⟨-, hf⟩ | ⟨-, hf⟩ | ⟨-, hf⟩
        · rw [hf]; rintro _ ⟨⟩; exact hd.of_page rfl
        · rw [hf]; rintro _ ⟨⟩; exact hd.of_page rfl
        · rw [hf]
          rintro _ ⟨⟩
          exact hd.recycleForked hcond.2 (hw.deleteRecycleTimer id) hcond.1 _ _
    · rintro _ ⟨⟩

/-! ## Heartbeats -/

theorem Kept.checkRssLimit (h : Kept s) (hw : WellFormed s) (id : Nat)
    (report : WorkerHealthReport) : Kept (s.checkRssLimit e id report) := by
  unfold State.checkRssLimit
  extract_lets limitMb
  split
  · exact h
  · split
    · exact h
    · split
      · exact h
      · exact Kept.triggerWorkerRecycle (s := s.modifyHealth _) (h.of_page rfl) { hw with } id .rss

theorem Kept.lagRecycle (h : Kept s) (hw : WellFormed s) (id : Nat) :
    Kept (s.lagRecycle e id) :=
  Kept.triggerWorkerRecycle (s := s.modifyHealth _) (h.of_page rfl) { hw with } id .lag

theorem Kept.checkLagLimit (h : Kept s) (hw : WellFormed s) (id : Nat)
    (report : WorkerHealthReport) : Kept (s.checkLagLimit e id report) := by
  unfold State.checkLagLimit
  dsimp only
  split
  · exact h
  · split
    · exact h
    · split
      · exact h.lagRecycle hw id
      · split
        · exact h
        · split
          · split
            · exact h.of_page rfl
            · exact h.lagRecycle hw id
          · exact h.of_page rfl

/-- A report is read, from a worker the journal still hears. -/
theorem Kept.healthReported (h : Kept s) (report : WorkerHealthReport)
    (hsilent : report.workerId ∉ s.health.exitedWorkerIds) (hle : report.workerId ≤ s.cluster.ids) :
    Kept ((s.modifyHealth fun m => { m with
      registry := m.registry.set report.workerId (s.now, report) }).emit (.workerHealth report)) := by
  refine Records.cons h fun j ⟨hj, hset⟩ => ?_
  refine ⟨_, Journal.expect_eq_some.mpr ⟨⟨hset, hj.silent ▸ hsilent⟩, rfl⟩, ?_, rfl⟩
  exact { hj with
    newest := max_le hj.newest hle
    reporting := by
      show (s.health.registry.set report.workerId (s.now, report)).keySet ⊆ _
      rw [OrdMap.keySet_set]
      exact Finset.insert_subset_insert _ hj.reporting }

theorem Kept.onHealthMessage (h : Kept s) (hw : WellFormed s) {id : Nat}
    (hle : id ≤ s.cluster.ids) (msg : Option Message) : Kept (s.onHealthMessage e id msg) := by
  unfold State.onHealthMessage
  split
  · exact h
  · split
    · exact h
    · rename_i hsilent
      split
      · rename_i rss heapUsed lag _
        have hr := h.healthReported
          { workerId := id, rss := rss, heapUsed := heapUsed, eventLoopLagMs := lag } hsilent hle
        have hwr : WellFormed ((s.modifyHealth fun m => { m with
          registry := m.registry.set id (s.now, ⟨id, rss, heapUsed, lag⟩) }).emit
            (.workerHealth ⟨id, rss, heapUsed, lag⟩)) := { hw with }
        exact (hr.checkRssLimit hwr id _).checkLagLimit
          (hwr.moves (checkRssLimit_effects (a := .tick 0) id _).moves) id _
      · exact h

theorem Kept.wedged (h : Kept s) (hs : s.isShuttingDown = false) {id : Nat}
    (hid : id ∈ s.health.registry.keySet) (silentMs : Nat) :
    Kept ((s.modifyHealth fun m => { m with registry := m.registry.delete id }).emit
      (.workerWedged id silentMs)) := by
  refine Records.cons h fun j ⟨hj, hset⟩ => ?_
  refine ⟨_, Journal.expect_eq_some.mpr ⟨⟨hset, hj.reporting hid, hj.serving hs⟩, rfl⟩, ?_, rfl⟩
  exact { hj with
    reporting := by
      show (s.health.registry.delete id).keySet ⊆ _
      rw [OrdMap.keySet_delete]
      exact Finset.erase_subset_erase id hj.reporting }

theorem Kept.unregistered (h : Kept s) (id : Nat) :
    Kept (s.modifyHealth fun m => { m with registry := m.registry.delete id }) := by
  refine h.mono fun j ⟨hj, hset⟩ => ⟨{ hj with reporting := ?_ }, hset⟩
  show (s.health.registry.delete id).keySet ⊆ _
  rw [OrdMap.keySet_delete]
  exact (Finset.erase_subset _ _).trans hj.reporting

/-- A recycle does not touch the monitor. -/
theorem triggerWorkerRecycle_health (id : Nat) (reason : RecycleReason) (s : State) :
    (s.triggerWorkerRecycle e id reason).health = s.health := by
  have h : s.triggerWorkerRecycle e id reason =
      (s.triggerWorkerRecycle e id reason).modifyHealth fun _ => s.health :=
    triggerWorkerRecycle_modifyHealth e id reason (fun _ => s.health) s
  rw [h]
  rfl

/-- The check of one worker leaves everybody else registered. -/
theorem checkWedged_registry (id lastReport : Nat) (s : State) :
    s.health.registry.keySet.erase id ⊆
      (s.checkWedged e id lastReport).health.registry.keySet := by
  have hdelete : s.health.registry.keySet.erase id ⊆ (s.health.registry.delete id).keySet :=
    (OrdMap.keySet_delete _ _).ge
  unfold State.checkWedged
  dsimp only
  split
  · exact Finset.erase_subset _ _
  · rw [triggerWorkerRecycle_health]
    split <;> exact hdelete

theorem checkWedged_isShuttingDown (id lastReport : Nat) (s : State) :
    (s.checkWedged e id lastReport).isShuttingDown = s.isShuttingDown := by
  unfold State.checkWedged
  dsimp only
  split
  · rfl
  · rw [triggerWorkerRecycle_isShuttingDown]
    split <;> rfl

theorem Kept.checkWedged (h : Kept s) (hw : WellFormed s) (hs : s.isShuttingDown = false)
    {id : Nat} (hid : id ∈ s.health.registry.keySet) (lastReport : Nat) :
    Kept (s.checkWedged e id lastReport) := by
  unfold State.checkWedged
  dsimp only
  split
  · exact h
  · split
    · exact (h.unregistered id).triggerWorkerRecycle { hw with } id .wedged
    · exact (h.wedged hs hid _).triggerWorkerRecycle { hw with } id .wedged

theorem Kept.checkWedgedAll (entries : List (Nat × Nat × WorkerHealthReport)) (h : Kept s)
    (hw : WellFormed s) (hs : s.isShuttingDown = false) (hnodup : (entries.map Prod.fst).Nodup)
    (hreg : ∀ entry ∈ entries, entry.1 ∈ s.health.registry.keySet) :
    Kept (checkWedgedAll e entries s) := by
  induction entries generalizing s with
  | nil => exact h
  | cons entry rest ih =>
    obtain ⟨id, lastReport, report⟩ := entry
    obtain ⟨hid, hnodup⟩ := List.nodup_cons.mp hnodup
    rw [State.checkWedgedAll]
    refine ih (h.checkWedged hw hs (hreg _ List.mem_cons_self) lastReport)
      (hw.moves (checkWedged_effects (a := .tick 0) id lastReport).moves) ?_ hnodup ?_
    · rw [checkWedged_isShuttingDown]
      exact hs
    · intro entry hentry
      refine checkWedged_registry id lastReport s (Finset.mem_erase.mpr ⟨?_, ?_⟩)
      · intro heq
        have hmem : entry.1 ∈ rest.map Prod.fst := List.mem_map_of_mem hentry
        exact hid (heq ▸ hmem)
      · exact hreg entry (List.mem_cons_of_mem _ hentry)

theorem Kept.wedgedWatch (h : Kept s) (hw : WellFormed s) : ∀ t ∈ s.wedgedWatch e, Kept t := by
  unfold State.wedgedWatch
  split
  · rintro _ ⟨⟩
  · split
    · dsimp only
      split
      · rintro _ ⟨⟩; exact h.of_page rfl
      · rename_i hs
        rintro _ ⟨⟩
        refine Kept.checkWedgedAll (s := s.modifyHealth _) _ (h.of_page rfl) { hw with }
          (Bool.eq_false_iff.mpr hs) s.health.registry.nodup fun entry hentry => ?_
        exact (OrdMap.mem_keySet_iff _ _).mpr ⟨entry.2, hentry⟩
    · rintro _ ⟨⟩

end ClusterKit
