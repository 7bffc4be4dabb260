import ClusterKit.Outcome

/-! The books and the workers. As long as the manager listens, it tracks exactly the workers
that live, and `activeWorkers` is their number. -/

namespace ClusterKit

open State Relation

variable {e : Host} {s t : State} {a : Action}

def State.live (s : State) : Finset Nat := s.workerIds.filter fun id => s.alive id

theorem State.mem_live {id : Nat} : id ∈ s.live ↔ (1 ≤ id ∧ id ≤ s.cluster.ids) ∧ s.alive id := by
  rw [live, Finset.mem_filter, workerIds, Finset.mem_Icc]

/-- While the manager listens, nobody it tracks is dead. -/
def Staffed (s : State) : Prop := s.manager.disposed = false → ∀ id ∈ s.tracked, s.alive id

/-! ## What a turn tracks -/

/-- The manager was not disposed before, and tracks nobody else, or somebody who lives. -/
structure TracksLiving (s t : State) : Prop where
  undisposed : t.manager.disposed = false → s.manager.disposed = false
  tracked : ∀ id ∈ t.tracked, id ∈ s.tracked ∨ t.alive id

namespace TracksLiving

theorem of_eq (hm : t.manager.workerStartTimes = s.manager.workerStartTimes)
    (hd : t.manager.disposed = s.manager.disposed) : TracksLiving s t := by
  refine ⟨fun h => hd.symm.trans h, fun id hid => .inl ?_⟩
  rwa [State.tracked, hm] at hid

theorem forked (s : State) (call : ForkCall) : TracksLiving s (s.forked call) := by
  refine ⟨fun h => h, fun id hid => ?_⟩
  rw [tracked_forked, Finset.mem_insert] at hid
  rcases hid with rfl | hid
  · exact .inr ((alive_forked s call _).mpr (.inl rfl))
  · exact .inl hid

/-- Behind a fork. -/
theorem of_forked {call : ForkCall}
    (hm : t.manager.workerStartTimes = (s.forked call).manager.workerStartTimes)
    (hd : t.manager.disposed = s.manager.disposed)
    (hw : t.cluster.workers = (s.forked call).cluster.workers) : TracksLiving s t := by
  refine ⟨fun h => hd.symm.trans h, fun id hid => ?_⟩
  have halive : t.alive id ↔ (s.forked call).alive id := by
    rw [alive, isDead, worker, hw]
    exact Iff.rfl
  rw [halive]
  refine (forked s call).tracked id ?_
  rwa [State.tracked, hm] at hid

theorem shutdown (h : ShutdownMove e s t) : TracksLiving s t := by
  refine ⟨fun hd => ?_, fun id hid => .inl (h.keeps.tracked ▸ hid)⟩
  rcases h.shape with heq | hresolved | hexited
  · rw [heq] at hd
    exact hd
  · rw [shutdownResolved_eq hresolved] at hd
    cases hd
  · rw [shutdownExitElapsed_eq hexited] at hd
    exact hd

end TracksLiving

theorem Move.tracksLiving (h : Move e s t) : TracksLiving s t := by
  cases h with
  | restarted hs ht hf hok => exact .of_forked rfl rfl rfl
  | replaced call old hs ha hc hok => exact .of_forked rfl rfl rfl
  | drained r hr hd hs hwhy => rw [drainOldWorker_eq]; exact .of_eq rfl rfl
  | shutdown t hs hm => exact .shutdown hm
  | _ => exact .of_eq rfl rfl

theorem Bit.tracksLiving (h : Bit e a s t) : TracksLiving s t := by
  cases h with
  | initialForked _ hok => exact .forked s _
  | agedRecycled _ id hid ha hs hok => exact .of_forked rfl rfl rfl
  | removed _ id code signal hd hid =>
    refine ⟨fun h => h, fun j hj => .inl ?_⟩
    rw [show (s.removed id).tracked = s.tracked.erase id from OrdMap.keySet_delete _ _] at hj
    exact Finset.mem_of_mem_erase hj
  | crashed => rw [noteCrash_eq]; exact .of_eq rfl rfl
  | queued => rw [queueCrash_eq]; exact .of_eq rfl rfl
  | resetRefilled | rollRefilled => rw [queueRefill_eq]; exact .of_eq rfl rfl
  | shutdownEntered _ signal hs =>
    have hentered := shutdownPrimary_entered (e := e) signal hs
    exact ⟨fun h => hentered.disposed.symm.trans h, fun id hid => .inl (hentered.tracked ▸ hid)⟩
  | _ => exact .of_eq rfl rfl

/-- Only an exit kills. -/
theorem Bit.alive (ha : ∀ id code signal, a ≠ .workerExit id code signal) (h : Bit e a s t)
    {id : Nat} (hl : s.alive id) : t.alive id := by
  cases h with
  | initialForked _ hok => exact (alive_forked s _ id).mpr (.inr hl)
  | agedRecycled _ id' hid ha' hs hok => exact (alive_forked _ _ id).mpr (.inr hl)
  | selfDisconnected _ id' ha' =>
    refine (modifyWorker_field Worker.dead fun w => ?_).trans hl
    rfl
  | resetRefilled | rollRefilled => rw [queueRefill_eq]; exact hl
  | shutdownEntered _ signal hs =>
    have hentered := shutdownPrimary_entered (e := e) signal hs
    rw [State.alive, isDead, hentered.worker]
    split
    · exact (startAck_grows s id).2.trans hl
    · exact hl
  | died _ id' code signal | removed _ id' code signal | quarantined _ id' code signal
  | crashed _ id' code signal | tripped _ id' code signal | queued _ id' code signal =>
    exact absurd rfl (ha id' code signal)
  | _ => exact hl

/-! ## Every segment -/

namespace Staffed

theorem of_tracksLiving (h : Staffed s) (hl : ∀ id, s.alive id → t.alive id)
    (ht : TracksLiving s t) : Staffed t := by
  intro hd id hid
  rcases ht.tracked id hid with hid | halive
  · exact hl id (h (ht.undisposed hd) id hid)
  · exact halive

theorem move (h : Staffed s) (hm : Move e s t) : Staffed t :=
  h.of_tracksLiving (fun _ ha => hm.alive ha) hm.tracksLiving

theorem piece (h : Staffed s) (ha : ∀ id code signal, a ≠ .workerExit id code signal)
    (hp : Piece e a s t) : Staffed t :=
  hp.elim h.move fun hb => h.of_tracksLiving (fun _ hl => hb.alive ha hl) hb.tracksLiving

/-- The dead worker is the only one whom the listeners on it leave tracked and dead. -/
theorem removed (h : Staffed s) {id : Nat} {m : State} (hran : ListenersRan e s id m) :
    Staffed (m.removed id) := by
  have hothers : m.manager.disposed = false → ∀ j ∈ m.tracked, j ≠ id → m.alive j := by
    refine hran.moves.preserves
      (P := fun x => x.manager.disposed = false → ∀ j ∈ x.tracked, j ≠ id → x.alive j) ?_ ?_
    · intro x y hx hm hd j hj hne
      rcases hm.tracksLiving.tracked j hj with hj | halive
      · exact hm.alive (hx (hm.tracksLiving.undisposed hd) j hj hne)
      · exact halive
    · intro hd j hj hne
      exact (isDead_markDead_of_ne s hne).trans (h hd j hj)
  intro hd j hj
  rw [show (m.removed id).tracked = m.tracked.erase id from OrdMap.keySet_delete _ _,
    Finset.mem_erase] at hj
  exact hothers hd j hj.2 hj.1

theorem workerExit (h : Staffed s) (hw : WellFormed s) {id : Nat} {code : Option Int}
    {signal : Option String} (ht : s.workerExit e id code signal = some t) : Staffed t := by
  obtain ⟨m, hran, hout⟩ := workerExit_outcome hw ht
  have hremoved := h.removed hran
  have hquiet {b : State} (hq : Quiet (m.removed id) b) : Staffed b := hremoved.move (e := e) hq.move
  have hnoted {b : State} (hq : Quiet (m.removed id) b) : Staffed b.noteCrash := by
    have hb := hquiet hq
    rw [noteCrash_eq]
    exact hb
  cases hout with
  | unheard hd => exact fun hd' => absurd (hd'.symm.trans hd) Bool.false_ne_true
  | drained t hwhy hq => exact hquiet hq
  | quarantined b hs hq hg =>
    have hb := hquiet hq
    exact hb
  | tripped b hs hq hg htrip =>
    have hb := hnoted hq
    exact hb
  | queued b entry hs hq hg htrip =>
    have hb := hnoted hq
    have hqueued : Staffed (b.noteCrash.queueCrash entry) := by
      rw [queueCrash_eq]
      exact hb
    have hwf : WellFormed (b.noteCrash.queueCrash entry) :=
      (((hran.wellFormed.removed hran.dead hran.tracked).of_quiet hq).noteCrash).queueCrash entry
    exact (kickRestartQueue_moves hwf).preserves (fun _ _ hx hm => hx.move hm) hqueued

theorem act (h : Staffed s) (hw : WellFormed s) (hact : s.act e a = some t) : Staffed t := by
  by_cases ha : ∃ id code signal, a = .workerExit id code signal
  · obtain ⟨id, code, signal, rfl⟩ := ha
    exact h.workerExit hw hact
  · have hne : ∀ id code signal, a ≠ .workerExit id code signal :=
      fun id code signal heq => ha ⟨id, code, signal, heq⟩
    exact (act_pieces hw hact).preserves hw (fun _ _ _ hx hp => hx.piece hne hp) h

end Staffed

theorem reachable_staffed {count : WorkerCount} {env : ProcessEnv}
    (h : (orchestrator e count env).Reachable s) : Staffed s :=
  run_preserves h (fun _ id hid => absurd hid (Finset.notMem_empty id))
    fun _ _ _ hw hx _ hact => hx.act hw hact

/-- The counter counts the workers that live. -/
theorem Staffed.active (h : Staffed s) (hw : WellFormed s) (hd : s.manager.disposed = false) :
    s.metrics.activeWorkers = s.live.card := by
  rw [hw.active]
  refine congrArg Finset.card (Finset.ext fun id => ⟨fun hid => ?_, fun hid => ?_⟩)
  · exact mem_live.mpr ⟨hw.tracked_bounded id hid, h hd id hid⟩
  · exact hw.alive_tracked id (mem_live.mp hid).2

end ClusterKit
