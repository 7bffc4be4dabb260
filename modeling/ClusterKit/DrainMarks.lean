import ClusterKit.Slots
import ClusterKit.Staffing
import ClusterKit.ZeroDowntime

/-! Who was told to go has a replacement, and is marked for as long as it is tracked: no
health policy takes a draining worker for one that has failed. -/

namespace ClusterKit

open State

variable {e : Host} {s t : State} {a : Action}

/-- No stagger timer unmarks a worker that has a replacement because its fork failed. -/
def keepsMarks (e : Host) (s : State) : Action → Bool
  | .shutdownPrimary _ => false
  | .timer (.recycleStagger id) => decide (id ∉ s.recycledOld) || s.canFork e
  | _ => true

structure DrainsMarked (s : State) : Prop where
  shutting : s.isShuttingDown = false
  drained : ∀ id, s.drainSent id → id ∈ s.recycledOld
  waits : ∀ old deadline, s.rollFrame = some (.exitWait old deadline) → old ∈ s.recycledOld
  marked : s.replacedLive ⊆ s.manager.recyclingWorkerIds

namespace DrainsMarked

theorem initial (e : Host) (count : WorkerCount) (env : ProcessEnv) :
    DrainsMarked (State.initial e count env) where
  shutting := rfl
  drained := fun _ hsent => absurd rfl hsent
  waits := fun _ _ hframe => by cases hframe
  marked := fun _ hid => by cases (Finset.mem_inter.mp hid).1

/-- A worker is written to only if it has a replacement. -/
theorem modifyWorker (h : DrainsMarked s) (id : Nat) {f : Worker → Worker}
    (hf : (∀ w : Worker, (f w).sent = w.sent) ∨ id ∈ s.recycledOld) :
    DrainsMarked (s.modifyWorker id f) := by
  refine { h with drained := fun j hj => ?_ }
  by_cases hid : j = id
  · subst hid
    rcases hf with hsame | hold
    · rw [drainSent, worker_modifyWorker_self, hsame] at hj
      exact h.drained j hj
    · exact hold
  · rw [drainSent, worker_modifyWorker_of_ne hid] at hj
    exact h.drained j hj

theorem mapRecycles (h : DrainsMarked s) (f : Recycle → Recycle)
    (hf : ∀ r ∈ s.recycles, (f r).old = r.old) :
    DrainsMarked { s with recycles := s.recycles.map f } := by
  have hold := recycledOld_map s f hf
  constructor
  case shutting => exact h.shutting
  case drained =>
    rw [hold]
    exact h.drained
  case waits =>
    rw [hold]
    exact h.waits
  case marked =>
    rw [replacedLive, hold]
    exact h.marked

theorem forked (h : DrainsMarked s) (hw : WellFormed s) (call : ForkCall) :
    DrainsMarked (s.forked call) where
  shutting := h.shutting
  drained id hid := by
    by_cases hfresh : id = s.cluster.ids + 1
    · subst hfresh
      rw [drainSent, worker_forked_new] at hid
      exact absurd rfl hid
    · rw [drainSent, worker_forked_of_ne s call hfresh] at hid
      exact h.drained id hid
  waits := h.waits
  marked := by
    rw [replacedLive_forked hw call]
    exact h.marked

/-- A marked worker is put up for a new one. -/
theorem recycle (h : DrainsMarked s) {old new : Nat}
    (hm : old ∈ s.manager.recyclingWorkerIds) : DrainsMarked (s.recycle e old new) := by
  have hold := recycledOld_recycle (e := e) s old new
  constructor
  case shutting => exact h.shutting
  case drained =>
    intro id hid
    rw [hold]
    exact Finset.mem_insert_of_mem (h.drained id hid)
  case waits =>
    intro id deadline hframe
    rw [hold]
    exact Finset.mem_insert_of_mem (h.waits id deadline hframe)
  case marked =>
    exact (replacedLive_recycle s old new).trans (Finset.insert_subset hm h.marked)

theorem markForRecycling (h : DrainsMarked s) (id : Nat) : DrainsMarked (s.markForRecycling id) :=
  { h with marked := h.marked.trans (Finset.subset_insert _ _) }

theorem drainOldWorker (h : DrainsMarked s) {r : Recycle} (hr : r ∈ s.recycles) :
    DrainsMarked (s.drainOldWorker e r) := by
  unfold State.drainOldWorker
  split
  · exact h
  · have hold : r.old ∈ s.recycledOld := (mem_recycledOld s r.old).mpr ⟨r, hr, rfl⟩
    have hdrained : DrainsMarked (s.drainRecycledWorker r.old) := h.modifyWorker r.old (.inr hold)
    refine hdrained.mapRecycles _ fun r' hr' => ?_
    split <;> rfl

theorem rollMove (h : DrainsMarked s) {r r' : Roll} (hr : s.roll = some r)
    (hm : RollMove e s r r') : DrainsMarked { s with roll := some r' } := by
  refine { h with waits := fun old deadline hframe => ?_ }
  have hframe : r'.frame = .exitWait old deadline := by simpa [rollFrame] using hframe
  have hkeep (hsame : r.frame = .exitWait old deadline) : old ∈ s.recycledOld := by
    apply h.waits old deadline
    simp [rollFrame, hr, hsame]
  cases hm with
  | skipped | failed => exact hkeep hframe
  | waits old' rest deadline' hs hrem hf hd =>
    obtain ⟨rfl, rfl⟩ := RollFrame.exitWait.inj hframe
    obtain ⟨c, hc, hold, -⟩ := hd
    exact (mem_recycledOld s old').mpr ⟨c, hc, hold⟩
  | graced | exitSeen | counted | resumed | aborted | bailedOut | completed => cases hframe

theorem move (h : DrainsMarked s) (hw : WellFormed s) (hm : Move e s t) : DrainsMarked t := by
  cases hm with
  | restarted hs' ht hf hok => exact { h.forked hw _ with }
  | replaced call old hs' ha hc hok =>
    exact ((h.forked hw call).markForRecycling old).recycle (Finset.mem_insert_self _ _)
  | agedMarked id deadline => exact { h.markForRecycling id with }
  | cameOnline id ha => exact h.modifyWorker id (.inl fun _ => rfl)
  | replacementOnline new hn =>
    refine h.mapRecycles _ fun r _ => ?_
    split <;> rfl
  | timers f hf => exact h.mapRecycles f fun r hr => (hf r hr).old
  | drained r hr hd hs' hwhy => exact h.drainOldWorker hr
  | killed signal id hwhy =>
    refine h.modifyWorker id (.inr ?_)
    rcases hwhy with ⟨r, hr, hold, -⟩ | ⟨deadline, hframe, -⟩
    · exact (mem_recycledOld s id).mpr ⟨r, hr, hold⟩
    · exact h.waits id deadline hframe
  | disconnected id => exact h.modifyWorker id (.inl fun _ => rfl)
  | roll r r' hr hm => exact h.rollMove hr hm
  | shutdown t hs' hm => exact absurd (h.shutting.symm.trans hs') (by decide)
  | books | exitCodeOne | exitCodeZero | holdReleased | queue | gaveUp | forkFailed | onlineNoted
  | phase => exact { h with }

theorem endRoll (h : DrainsMarked s) : DrainsMarked s.endRoll :=
  { h with waits := fun old deadline hframe => by simp [rollFrame, State.endRoll] at hframe }

/-- The timer of an aged worker without a replacement is gone, and so is its mark. -/
theorem agedDropped (h : DrainsMarked s) {id : Nat} (hid : id ∉ s.recycledOld) :
    DrainsMarked (s.agedDropped id) := by
  refine { h with marked := fun j hj => Finset.mem_erase.mpr ⟨?_, h.marked hj⟩ }
  rintro rfl
  exact hid (Finset.mem_inter.mp hj).2

theorem removed (h : DrainsMarked s) (id : Nat) : DrainsMarked (s.removed id) := by
  have htracked : (s.removed id).tracked = s.tracked.erase id := OrdMap.keySet_delete _ _
  have hlive : (s.removed id).replacedLive = s.replacedLive.erase id := by
    rw [replacedLive, htracked, Finset.erase_inter]
    rfl
  refine { h with marked := ?_ }
  rw [hlive]
  exact Finset.erase_subset_erase id h.marked

theorem bit (h : DrainsMarked s) (hw : WellFormed s) (hb : Bit e a s t)
    (ha : ∀ id, a ≠ .timer (.recycleStagger id)) (hs : ∀ signal, a ≠ .shutdownPrimary signal) :
    DrainsMarked t := by
  cases hb with
  | initialForked _ hok => exact h.forked hw _
  | died _ id code signal => exact h.modifyWorker id (.inl fun _ => rfl)
  | removed _ id code signal => exact h.removed id
  | selfDisconnected _ id => exact h.modifyWorker id (.inl fun _ => rfl)
  | agedDropped _ id | agedFailed _ id | agedRecycled _ id => exact absurd rfl (ha id)
  | crashed => rw [noteCrash_eq]; exact { h with }
  | queued => rw [queueCrash_eq]; exact { h with }
  | resetRefilled | rollRefilled => rw [queueRefill_eq]; exact { h with }
  | rollStarted _ opts hs' hr =>
    refine { h with waits := fun old deadline hframe => ?_ }
    simp [rollFrame, beginRoll] at hframe
  | rollEnded _ r hr hf => exact h.endRoll
  | rollCompleted _ r hr hf => exact { h.endRoll with }
  | shutdownEntered _ signal => exact absurd rfl (hs signal)
  | tick | forking | initialFailed | ran | quarantined | tripped | resetShutting | breakerReset
  | counted | patched => exact { h with }

theorem staggerElapsed (h : DrainsMarked s) (hw : WellFormed s) (hst : Staffed s) {id : Nat}
    (hact : s.staggerElapsed e id = some t)
    (hok : keepsMarks e s (.timer (.recycleStagger id)) = true) : DrainsMarked t := by
  obtain ⟨htimer, hout⟩ := staggerElapsed_outcome hact
  have hdropped (hfail : s.canFork e = false) : DrainsMarked (s.agedDropped id) := by
    refine h.agedDropped ?_
    simpa [keepsMarks, hfail] using hok
  have hs : ¬ s.isShuttingDown = true := by simp [h.shutting]
  cases hout with
  | dropped hgone =>
    -- whoever is tracked lives
    have hdisposed : s.manager.disposed = false :=
      Bool.eq_false_iff.mpr fun hd => hs (hw.disposed hd)
    have halive := hst hdisposed id (hw.marked (hw.timed htimer))
    exact absurd (halive.symm.trans (hgone.resolve_right hs)) (by decide)
  | unsafeEnv ha hs' henv => exact hdropped (by simp [canFork, henv])
  | forkFailed ha hs' hfail =>
    have hfail : e.forkOk s.cluster.forkCalls.length = false := hfail
    exact { hdropped (by simp [canFork, hfail]) with }
  | recycled t ha hs' hforked hq =>
    have hforked' : DrainsMarked ((s.deleteRecycleTimer id).forked (s.agedCall e id)) :=
      { h.forked hw (s.agedCall e id) with }
    have hrecycled : DrainsMarked (s.agedRecycled e id) := hforked'.recycle (hw.timed htimer)
    exact hrecycled.move (hw.agedRecycled ha) (hq.move (e := e))

theorem step (h : DrainsMarked s) (hw : WellFormed s) (hst : Staffed s)
    (hact : s.act e a = some t) (hok : keepsMarks e s a = true) : DrainsMarked t := by
  by_cases ha : ∃ id, a = .timer (.recycleStagger id)
  · obtain ⟨id, rfl⟩ := ha
    exact h.staggerElapsed hw hst hact hok
  · refine (act_pieces hw hact).preserves hw (fun x y hwx hx hp => ?_) h
    rcases hp with hm | hb
    · exact hx.move hwx hm
    · refine hx.bit hwx hb (fun id heq => ha ⟨id, heq⟩) fun signal heq => ?_
      subst heq
      cases hok

/-- A worker that lives and was told to go is marked. -/
theorem isMarked (h : DrainsMarked s) (hw : WellFormed s) {id : Nat} (ha : s.alive id)
    (hsent : s.drainSent id) : s.isMarkedForRecycling id = true :=
  decide_eq_true (h.marked (Finset.mem_inter.mpr ⟨hw.alive_tracked id ha, h.drained id hsent⟩))

end DrainsMarked

end ClusterKit
