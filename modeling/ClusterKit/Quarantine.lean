import ClusterKit.Slots

/-! Boot-loop quarantine: when a slot is given up, and who serves at that moment. -/

namespace ClusterKit

open State

variable {e : Host} {s t : State}

/-- Every slot was given up while some online worker was not marked for recycling. -/
def QuarantinesServed (s : State) : Prop :=
  ∀ q ∈ s.restart.quarantines, ∃ id ∈ q.onlineWorkerIds, id ∉ q.recyclingWorkerIds

/-- Who is being recycled when `id` exits: a replacement waits on a stagger timer, or was forked
for a worker that is still alive. -/
def State.beingRecycled (id : Nat) (s : State) : Finset Nat :=
  (s.manager.pendingRecycleTimers.keySet ∪ s.replacedLive).erase id

/-- A slot is given up while fewer workers are being recycled than are online. -/
def quarantinesServing (e : Host) (s : State) : Action → Bool
  | .workerExit id _ _ =>
    !s.givesUpSlot e id || decide ((s.beingRecycled id).card < s.orch.onlineWorkerIds.card)
  | _ => true

/-! ## Only an exit gives up a slot -/

theorem quarantines_move (h : Move e s t) : t.restart.quarantines = s.restart.quarantines := by
  cases h with
  | queue r hr => cases hr <;> rfl
  | drained =>
    unfold drainOldWorker
    split <;> rfl
  | shutdown t hs hm => rw [hm.keeps.restart]
  | books | exitCodeOne | exitCodeZero | holdReleased | gaveUp | forkFailed | restarted | replaced
  | agedMarked | cameOnline | onlineNoted | replacementOnline | timers | killed | disconnected
  | roll | phase => rfl

theorem quarantines_moves (h : Moves e s t) : t.restart.quarantines = s.restart.quarantines :=
  h.preserves (P := fun x => x.restart.quarantines = s.restart.quarantines)
    (fun _ _ hx hm => (quarantines_move hm).trans hx) rfl

theorem quarantines_bit {a : Action} (ha : ∀ id code signal, a ≠ .workerExit id code signal)
    (h : Bit e a s t) : t.restart.quarantines = s.restart.quarantines := by
  cases h with
  | died _ id code signal | removed _ id code signal | quarantined _ id code signal
  | crashed _ id code signal | tripped _ id code signal | queued _ id code signal =>
    exact absurd rfl (ha id code signal)
  | resetRefilled | rollRefilled => rw [queueRefill_eq]
  | shutdownEntered _ signal hs =>
    rw [shutdownPrimary_eq signal hs]
  | tick | forking | initialFailed | initialForked | ran | selfDisconnected | agedDropped
  | agedFailed | agedRecycled | resetShutting | breakerReset | rollEnded | rollCompleted | counted
  | patched | rollStarted => rfl

theorem quarantines_pieces {a : Action} (ha : ∀ id code signal, a ≠ .workerExit id code signal)
    (hw : WellFormed s) (h : Pieces e a s t) : t.restart.quarantines = s.restart.quarantines :=
  h.preserves (P := fun x => x.restart.quarantines = s.restart.quarantines) hw
    (fun _ _ _ hx hp => (hp.elim quarantines_move (quarantines_bit ha)).trans hx) rfl

/-! ## The exit that gives up a slot -/

/-- An exit gives up at most the slot of its worker, exactly when `givesUpSlot` says so. -/
theorem quarantines_exit (hw : WellFormed s) {id : Nat} {code : Option Int}
    {signal : Option String} (h : s.act e (.workerExit id code signal) = some t) :
    t.restart.quarantines =
      if s.givesUpSlot e id then
        ⟨s.orch.onlineWorkerIds, s.manager.recyclingWorkerIds.erase id⟩ :: s.restart.quarantines
      else s.restart.quarantines := by
  obtain ⟨m, hran, hout⟩ := workerExit_outcome hw h
  have hsame := hran.same
  have hgive : m.givesUpSlot e id = s.givesUpSlot e id := by
    simp only [givesUpSlot, hsame.shutting, hsame.orch, hsame.restart, hran.graceful]
  have hbook {b : State} (hq : Quiet (m.removed id) b) :
      b.restart.quarantines = s.restart.quarantines ∧
        b.orch.onlineWorkerIds = s.orch.onlineWorkerIds.erase id ∧
        b.manager.recyclingWorkerIds = s.manager.recyclingWorkerIds.erase id := by
    obtain ⟨x, evs, -, rfl⟩ := hq
    rw [← hsame.restart, ← hsame.orch, ← hsame.manager]
    exact ⟨rfl, rfl, rfl⟩
  cases hout with
  | unheard hd =>
    have hs : s.isShuttingDown = true := hw.disposed (hsame.manager ▸ hd)
    rw [if_neg (by simp [givesUpSlot, hs]), hsame.restart]
  | drained t hg hq =>
    have hnot : s.givesUpSlot e id = false := by
      rw [← hgive, givesUpSlot]
      rcases hg with hg | hg <;> simp [hg]
    rw [hnot, if_neg Bool.false_ne_true]
    exact (hbook hq).1
  | quarantined b hs hq hg =>
    rw [← hgive, if_pos hg]
    obtain ⟨hquar, honline, hmarks⟩ := hbook hq
    have hboot : id ∉ s.orch.onlineWorkerIds := by
      rw [hgive] at hg
      simp only [givesUpSlot, Bool.and_eq_true, decide_eq_true_eq] at hg
      exact hg.1.1.1.2
    rw [Finset.erase_eq_of_notMem hboot] at honline
    rw [← hquar, ← honline, ← hmarks]
    rfl
  | tripped b hs hq hg ht =>
    rw [← hgive, hg, if_neg Bool.false_ne_true, noteCrash_eq]
    exact (hbook hq).1
  | queued b entry hs hq hg ht =>
    rw [← hgive, hg, if_neg Bool.false_ne_true]
    have hqueued : ((b.noteCrash.queueCrash entry).restart.quarantines) = s.restart.quarantines := by
      rw [queueCrash_eq, noteCrash_eq]
      exact (hbook hq).1
    have hwb : WellFormed (b.noteCrash.queueCrash entry) :=
      (((hran.wellFormed.removed hran.dead hran.tracked).of_quiet hq).noteCrash).queueCrash entry
    exact (quarantines_moves (kickRestartQueue_moves hwb)).trans hqueued

/-- Who is marked when `id` exits is being recycled. -/
theorem MarksAccounted.subset_beingRecycled (h : MarksAccounted s) (hw : WellFormed s) (id : Nat) :
    s.manager.recyclingWorkerIds.erase id ⊆ s.beingRecycled id := by
  refine Finset.erase_subset_erase id fun j hj => ?_
  rcases Finset.mem_union.mp (h hj) with ht | hold
  · exact Finset.mem_union_left _ ht
  · exact Finset.mem_union_right _ (Finset.mem_inter.mpr ⟨hw.marked hj, hold⟩)

/-- Every slot was given up for the right reason before, hence so after a spared step. -/
theorem QuarantinesServed.step {a : Action} (hserved : QuarantinesServed s) (hw : WellFormed s)
    (hmarks : MarksAccounted s) (hok : quarantinesServing e s a = true) (h : s.act e a = some t) :
    QuarantinesServed t := by
  by_cases ha : ∃ id code signal, a = .workerExit id code signal
  · obtain ⟨id, code, signal, rfl⟩ := ha
    have hq := quarantines_exit hw h
    cases hg : s.givesUpSlot e id with
    | false =>
      rw [hg, if_neg Bool.false_ne_true] at hq
      rw [QuarantinesServed, hq]
      exact hserved
    | true =>
      rw [hg, if_pos rfl] at hq
      have hfew : (s.beingRecycled id).card < s.orch.onlineWorkerIds.card := by
        simpa [quarantinesServing, hg] using hok
      have hmarked := Finset.card_le_card (hmarks.subset_beingRecycled hw id)
      rw [QuarantinesServed, hq, List.forall_mem_cons]
      exact ⟨Finset.exists_mem_notMem_of_card_lt_card (hmarked.trans_lt hfew), hserved⟩
  · have ha' (id : Nat) (code : Option Int) (signal : Option String) :
        a ≠ .workerExit id code signal := fun heq => ha ⟨id, code, signal, heq⟩
    rw [QuarantinesServed, quarantines_pieces ha' hw (act_pieces hw h)]
    exact hserved

/-- **Quarantine safety**, when a slot is only given up while fewer workers are being recycled
than are online: then somebody online and unmarked serves at each quarantine. -/
theorem quarantine_spares_a_server (e : Host) (count : WorkerCount) (env : ProcessEnv) (s : State)
    (hrun : (orchestrator e count env).Run (fun x a => quarantinesServing e x a = true)
      (State.initial e count env) s) :
    ∀ q ∈ s.restart.quarantines, ∃ id ∈ q.onlineWorkerIds, id ∉ q.recyclingWorkerIds := by
  refine hrun.preserves_of (P := QuarantinesServed) (Q := fun x => WellFormed x ∧ MarksAccounted x)
    .refl (fun x hx => ⟨reachable_wellFormed hx, reachable_marksAccounted hx⟩) ?_
    fun _ h => absurd h List.not_mem_nil
  intro x a y ⟨hw, hmarks⟩ hx hok hstep
  exact hx.step hw hmarks hok (orchestrator_step hstep)

/-- Two workers and a limit of one: a replacement that dies at boot while worker 2 serves. -/
theorem quarantine_spares_a_server_two_workers :
    ∃ s : State, s.restart.quarantines.length = 1 ∧
      ∀ q ∈ s.restart.quarantines, ∃ id ∈ q.onlineWorkerIds, id ∉ q.recyclingWorkerIds := by
  let e : Host := { cfg := { restart := { bootFailQuarantine := 1 } } }
  have hrun := StepSystem.exists_run_of_any (orchestrator e (.fixed 2) fun _ => none)
    (State.initial e (.fixed 2) fun _ => none) (quarantinesServing e)
    [.tick 1, .run, .pluginsInstalled, .workerOnline 1, .workerOnline 2,
      .restartWorkers {}, .workerExit 3 (some 1) none]
    (fun s => decide (s.restart.quarantines.length = 1)) (by decide +kernel)
  obtain ⟨s, hrun, hs⟩ := hrun
  exact ⟨s, of_decide_eq_true hs, quarantine_spares_a_server e _ _ s hrun⟩

/-- One worker: its replacement dies at boot, and the slot is given up although the only
online worker is the one that is being recycled. -/
theorem quarantine_gives_up_last_server :
    ¬ ∀ (e : Host) (count : WorkerCount) (env : ProcessEnv) (s : State),
      (orchestrator e count env).Reachable s →
        ∀ q ∈ s.restart.quarantines, ∃ id ∈ q.onlineWorkerIds, id ∉ q.recyclingWorkerIds := by
  intro h
  let e : Host := { cfg := { restart := { bootFailQuarantine := 1 } } }
  have hrun := StepSystem.exists_reachable_of_any (orchestrator e (.fixed 1) fun _ => none)
    [.tick 1, .run, .pluginsInstalled, .workerOnline 1, .restartWorkers {},
      .workerExit 2 (some 1) none]
    (fun s => s.restart.quarantines.any fun q =>
      decide (q.onlineWorkerIds ⊆ q.recyclingWorkerIds)) (by decide +kernel)
  obtain ⟨s, hs, hany⟩ := hrun
  obtain ⟨q, hq, hsub⟩ := List.any_eq_true.mp hany
  obtain ⟨id, hon, hmark⟩ := h e _ _ s hs q hq
  exact hmark (of_decide_eq_true hsub hon)

end ClusterKit
