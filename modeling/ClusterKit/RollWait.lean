import ClusterKit.DrainTurn

/-! The bounded wait of a roll next to the recycles. A roll waits for the worker of the recycle
it has just begun, as long as that recycle's failsafe; while it waits it begins no other. -/

namespace ClusterKit

open State Relation

variable {e : Host} {s t : State} {a : Action}

/-- Who is replaced, and by whom. -/
def Recycle.parties (r : Recycle) : Nat × Nat := (r.old, r.new)

namespace State

def parties (s : State) : List (Nat × Nat) := s.recycles.map Recycle.parties

/-- The time at which the failsafe of the replacement `new` is due. -/
def budgetEnd (e : Host) (new : Nat) (s : State) : Nat :=
  (s.worker new).forkedAt + e.cfg.workerDrainBudgetMs

end State

/-- A turn of a segment outside a shutdown, as far as the wait of the roll goes. -/
inductive WaitTurn (e : Host) (s : State) : State → Prop
  | kept (t : State) (hp : t.parties = s.parties) (hf : t.rollFrame = s.rollFrame) : WaitTurn e s t
  | begun (t : State) (old : Nat) (hp : t.parties = (old, s.cluster.ids + 1) :: s.parties)
      (hf : t.rollFrame = s.rollFrame) (hfork : (t.worker (s.cluster.ids + 1)).forkedAt = s.now)
      (hcause : ∀ id, (t.worker (s.cluster.ids + 1)).cause = .roll id →
        s.rollFrame = some .running) : WaitTurn e s t
  | framed (t : State) (hp : t.parties = s.parties)
      (hf : ∀ old deadline, t.rollFrame = some (.exitWait old deadline) →
        s.rollFrame = some (.exitWait old deadline) ∨
          ∃ new, (old, new) ∈ s.parties ∧ (s.worker new).cause = .roll old ∧
            (s.worker new).forkedAt = s.now ∧ deadline = s.now + e.cfg.workerDrainBudgetMs) :
    WaitTurn e s t

theorem parties_map (s : State) {f : Recycle → Recycle}
    (hf : ∀ r, (f r).old = r.old ∧ (f r).new = r.new) :
    (s.recycles.map f).map Recycle.parties = s.parties := by
  rw [List.map_map]
  refine List.map_congr_left fun r _ => ?_
  show ((f r).old, (f r).new) = (r.old, r.new)
  rw [(hf r).1, (hf r).2]

theorem parties_modifyRecycle (s : State) (new : Nat) {f : Recycle → Recycle}
    (hf : ∀ r, (f r).old = r.old ∧ (f r).new = r.new) :
    (s.modifyRecycle new f).parties = s.parties := by
  refine parties_map s (f := fun r => if r.new = new then f r else r) fun r => ?_
  split
  · exact hf r
  · exact ⟨rfl, rfl⟩

/-- Outside a shutdown an effect is a turn of the wait. -/
theorem Effect.waitTurn (hs : s.isShuttingDown = false) (h : Effect e a s t) : WaitTurn e s t := by
  cases h with
  | recomputed ha => rw [recomputeFleetHealth_eq]; exact .kept _ rfl rfl
  | degraded t ha ht => rw [degradedElapsed_eq ht]; exact .kept _ rfl rfl
  | backoffScheduled id ha hpos => rw [scheduleBackoffReset_eq]; exact .kept _ rfl rfl
  | backoffReset t ha ht => rw [backoffResetElapsed_eq ht]; exact .kept _ rfl rfl
  | attemptFailed entry ha hf => rw [restartFailed_eq]; exact .kept _ rfl rfl
  | attempted delayMs ha hs ht hf hok => exact .kept _ rfl rfl
  | replaced call old hs hl hc hok hrunning =>
    refine .begun _ old rfl rfl ?_ fun id hcause => hrunning id ?_
    · exact congrArg Worker.forkedAt (worker_forked_new s call)
    · exact (congrArg Worker.cause (worker_forked_new s call)).symm.trans hcause
  | replacementOnline new ha hon =>
    exact .kept _ (parties_modifyRecycle s new fun r => ⟨rfl, rfl⟩) rfl
  | drained r hr hd hs hwhy =>
    rw [drainOldWorker_undrained hd]
    exact .kept _ (parties_modifyRecycle s r.new fun c => ⟨rfl, rfl⟩) rfl
  | failsafeFired r deadline ha hr ht hdue hidle =>
    exact .kept _ (parties_modifyRecycle s r.new fun c => ⟨rfl, rfl⟩) rfl
  | forceKillDropped r hr hidle =>
    exact .kept _ (parties_modifyRecycle s r.new fun c => ⟨rfl, rfl⟩) rfl
  | forceKilled r deadline ha hr hu ht hdue hl hs =>
    exact .kept _ (parties_modifyRecycle s r.new fun c => ⟨rfl, rfl⟩) rfl
  | sigkillDropped r hr hidle =>
    exact .kept _ (parties_modifyRecycle s r.new fun c => ⟨rfl, rfl⟩) rfl
  | sigkilled r deadline ha hr ht hdue hl hs =>
    exact .kept _ (parties_modifyRecycle s r.new fun c => ⟨rfl, rfl⟩) rfl
  | killTimersCleared old hd =>
    refine .kept _ (parties_map s fun r => ?_) rfl
    split <;> exact ⟨rfl, rfl⟩
  | roll r r' hr hm hw =>
    refine .framed _ rfl fun old deadline hf => ?_
    have hf : r'.frame = .exitWait old deadline := Option.some.inj hf
    by_cases hsame : r.frame = .exitWait old deadline
    · left
      rw [rollFrame, hr, Option.map_some, hsame]
    · right
      obtain ⟨⟨c, rest, hrec, hold, -, hfork, hcause, -⟩, hdeadline⟩ := hw old deadline hf hsame
      refine ⟨c.new, ?_, hcause, hfork, hdeadline⟩
      rw [parties, hrec, ← hold]
      exact List.mem_cons_self
  | shutdown t hs' hm => exact absurd (hs.symm.trans hs') Bool.false_ne_true
  | _ => exact .kept _ rfl rfl

/-- So is a bit. -/
theorem Bit.waitTurn (ht : t.isShuttingDown = false) (h : Bit e a s t) : WaitTurn e s t := by
  cases h with
  | crashed => rw [noteCrash_eq]; exact .kept _ rfl rfl
  | queued => rw [queueCrash_eq]; exact .kept _ rfl rfl
  | resetRefilled | rollRefilled => rw [queueRefill_eq]; exact .kept _ rfl rfl
  | agedRecycled _ id hid hl hs hok =>
    refine .begun _ id rfl rfl ?_ fun id' hcause => ?_
    · exact congrArg Worker.forkedAt (worker_forked_new s (s.agedCall e id))
    · cases (congrArg Worker.cause (worker_forked_new s (s.agedCall e id))).symm.trans hcause
  | rollStarted | rollEnded | rollCompleted => exact .framed _ rfl nofun
  | shutdownEntered _ signal hs =>
    have hentered := shutdownPrimary_entered (e := e) signal hs
    rw [isShuttingDown, hentered.shutdown] at ht
    cases ht
  | _ => exact .kept _ rfl rfl

/-! ## The wait -/

/-- The wait of the roll is as long as the failsafe of a recycle of the roll, the newest one. -/
structure WaitsBacked (e : Host) (s : State) : Prop where
  past : ∀ p ∈ s.parties, (s.worker p.2).forkedAt ≤ s.now
  backed : ∀ old deadline, s.rollFrame = some (.exitWait old deadline) →
    ∃ new, (old, new) ∈ s.parties ∧ (s.worker new).cause = .roll old ∧ deadline = s.budgetEnd e new
  newest : ∀ old deadline, s.rollFrame = some (.exitWait old deadline) →
    ∀ p ∈ s.parties, ∀ id, (s.worker p.2).cause = .roll id → s.budgetEnd e p.2 ≤ deadline

theorem WellFormed.parties_bounded (hw : WellFormed s) {p : Nat × Nat} (hp : p ∈ s.parties) :
    p.1 < p.2 ∧ p.2 ≤ s.cluster.ids := by
  obtain ⟨r, hr, rfl⟩ := List.mem_map.mp hp
  exact hw.recycled r hr

namespace WaitsBacked

theorem turn (h : WaitsBacked e s) (hw : WellFormed s) (hl : s.Later t) (hnow : t.now = s.now)
    (hturn : WaitTurn e s t) : WaitsBacked e t := by
  have hworker {p : Nat × Nat} (hp : p ∈ s.parties) : (s.worker p.2).Grows (t.worker p.2) :=
    hl.worker p.2 (hw.parties_bounded hp).2
  have hend {p : Nat × Nat} (hp : p ∈ s.parties) : t.budgetEnd e p.2 = s.budgetEnd e p.2 := by
    rw [budgetEnd, (hworker hp).forkedAt, budgetEnd]
  have hpast {p : Nat × Nat} (hp : p ∈ s.parties) : (t.worker p.2).forkedAt ≤ t.now := by
    rw [(hworker hp).forkedAt, hnow]
    exact h.past p hp
  cases hturn with
  | kept hp hf =>
    refine ⟨fun p hmem => hpast (hp ▸ hmem), fun old deadline hframe => ?_,
      fun old deadline hframe p hmem id hcause => ?_⟩
    · obtain ⟨new, hmem, hcause, hdeadline⟩ := h.backed old deadline (hf ▸ hframe)
      exact ⟨new, hp ▸ hmem, (hworker hmem).cause.trans hcause, hdeadline.trans (hend hmem).symm⟩
    · rw [hp] at hmem
      rw [hend hmem]
      exact h.newest old deadline (hf ▸ hframe) p hmem id ((hworker hmem).cause.symm.trans hcause)
  | begun old hp hf hfork hcause =>
    refine ⟨fun p hmem => ?_, fun old' deadline hframe => ?_,
      fun old' deadline hframe p hmem id hcaused => ?_⟩
    · rw [hp] at hmem
      rcases List.mem_cons.mp hmem with rfl | hmem
      · exact hfork.le.trans hnow.ge
      · exact hpast hmem
    · obtain ⟨new, hmem, hcaused, hdeadline⟩ := h.backed old' deadline (hf ▸ hframe)
      refine ⟨new, hp ▸ List.mem_cons_of_mem _ hmem, (hworker hmem).cause.trans hcaused, ?_⟩
      exact hdeadline.trans (hend hmem).symm
    · rw [hp] at hmem
      rw [hf] at hframe
      rcases List.mem_cons.mp hmem with rfl | hmem
      · cases (hcause id hcaused).symm.trans hframe
      · rw [hend hmem]
        exact h.newest old' deadline hframe p hmem id ((hworker hmem).cause.symm.trans hcaused)
  | framed hp hf =>
    refine ⟨fun p hmem => hpast (hp ▸ hmem), fun old deadline hframe => ?_,
      fun old deadline hframe p hmem id hcause => ?_⟩
    · rcases hf old deadline hframe with hsame | ⟨new, hmem, hcause, hfork, hdeadline⟩
      · obtain ⟨new, hmem, hcause, hdeadline⟩ := h.backed old deadline hsame
        exact ⟨new, hp ▸ hmem, (hworker hmem).cause.trans hcause, hdeadline.trans (hend hmem).symm⟩
      · refine ⟨new, hp ▸ hmem, (hworker hmem).cause.trans hcause, ?_⟩
        rw [hend hmem, budgetEnd, hfork]
        exact hdeadline
    · rw [hp] at hmem
      rw [hend hmem]
      rcases hf old deadline hframe with hsame | ⟨new, hnew, -, -, hdeadline⟩
      · exact h.newest old deadline hsame p hmem id ((hworker hmem).cause.symm.trans hcause)
      · rw [hdeadline]
        exact Nat.add_le_add_right (h.past p hmem) _

theorem act (h : WaitsBacked e s) (hw : WellFormed s) (hact : s.act e a = some t)
    (ht : t.isShuttingDown = false) : WaitsBacked e t := by
  by_cases htick : ∃ ms, a = .tick ms
  · obtain ⟨ms, rfl⟩ := htick
    rw [← Option.some.inj hact]
    exact ⟨fun p hp => (h.past p hp).trans (Nat.le_add_right _ _), h.backed, h.newest⟩
  · refine act_preserves_outside hw hact ht (fun x y hx hxs hys hl hPx hxy => ?_) h
    refine hPx.turn hx hl (hxy.now_eq fun ms heq => htick ⟨ms, heq⟩) ?_
    exact hxy.elim (Effect.waitTurn hxs) (Bit.waitTurn hys)

end WaitsBacked

theorem reachable_waitsBacked {count : WorkerCount} {env : ProcessEnv}
    (h : (orchestrator e count env).Reachable s) (hs : s.isShuttingDown = false) :
    WaitsBacked e s := by
  refine run_preserves (P := fun s => s.isShuttingDown = false → WaitsBacked e s) h ?_ ?_ hs
  · exact fun _ => ⟨nofun, nofun, nofun⟩
  · intro x a y hw hx _ hact hy
    have hxs := ((act_pieces hw hact).later).not_shutting hy
    exact (hx hxs).act hw hact hy

end ClusterKit
