import ClusterKit.Lib.Succession
import ClusterKit.Outcome
import Mathlib.Order.Interval.Finset.Nat

/-! Zero-downtime replacement: a worker is drained only once its replacement is online or
was drained for the next one, so each initial worker has a descendant of its own that
serves. -/

namespace ClusterKit

open State

variable {e : Host} {s t : State}

/-! ## Who serves -/

namespace State

def initialWorkers (s : State) : Finset Nat :=
  s.workerIds.filter fun id => (s.worker id).cause = .initial

/-- The live workers that are online and to which no drain was sent. -/
def servingWorkers (s : State) : Finset Nat :=
  s.workerIds.filter fun id => s.alive id ∧ s.isOnline id ∧ ¬ s.drainSent id

/-- The drain budget of a worker, measured from its fork, ends here. -/
def drainDeadline (e : Host) (s : State) (id : Nat) : Nat :=
  (s.worker id).forkedAt + e.cfg.workerDrainBudgetMs

end State

/-- No shutdown, nobody exits undrained, and every replacement is online before its drain
deadline, unless it is drained itself by then. -/
def orderly (e : Host) (s : State) : Action → Bool
  | .shutdownPrimary _ => false
  | .workerExit id _ _ => decide (s.drainSent id)
  | .tick ms => s.recycles.all fun r =>
    decide (s.isOnline r.new) || decide (s.drainSent r.new) ||
      decide (s.now + ms < s.drainDeadline e r.new)
  | _ => true

structure Succeeded (e : Host) (s : State) : Prop where
  ready : ∀ r ∈ s.recycles,
    s.isOnline r.new ∨ s.drainSent r.new ∨ s.now < s.drainDeadline e r.new
  failsafe : ∀ r ∈ s.recycles, ∀ deadline, r.drainFailsafeTimer = some deadline →
    deadline = s.drainDeadline e r.new
  escalated : ∀ r ∈ s.recycles, r.escalating = true → s.drainSent r.old
  waits : ∀ old deadline, s.rollFrame = some (.exitWait old deadline) →
    ∃ r ∈ s.recycles, r.old = old ∧ deadline = s.drainDeadline e r.new
  exited : ∀ id ∈ s.workerIds, s.isDead id = true → s.drainSent id
  relieved : ∀ id, s.drainSent id →
    ∃ r ∈ s.recycles, r.old = id ∧ (s.isOnline r.new ∨ s.drainSent r.new)
  replacements : ∀ r ∈ s.recycles, (s.worker r.new).cause ≠ .initial

namespace Succeeded

/-- A replacement past its deadline is online, or drained. -/
theorem relieves (h : Succeeded e s) {r : Recycle} (hr : r ∈ s.recycles)
    (hlate : s.drainDeadline e r.new ≤ s.now) : s.isOnline r.new ∨ s.drainSent r.new := by
  rcases h.ready r hr with honline | hsent | hsoon
  · exact .inl honline
  · exact .inr hsent
  · omega

/-- The record of a worker grows; it is drained only if it was relieved. -/
theorem modifyWorker (h : Succeeded e s) (id : Nat) {f : Worker → Worker}
    (hf : ∀ w : Worker, w.Grows (f w)) (hdead : ∀ w : Worker, (f w).dead = true → w.dead = true ∨
      (s.worker id).sent ≠ [])
    (hwhy : (∀ w : Worker, (f w).sent = w.sent) ∨
      ∃ r ∈ s.recycles, r.old = id ∧ (s.isOnline r.new ∨ s.drainSent r.new)) :
    Succeeded e (s.modifyWorker id f) := by
  have hgrow (j : Nat) : (s.worker j).Grows ((s.modifyWorker id f).worker j) := by
    by_cases hj : j = id
    · subst hj
      rw [worker_modifyWorker_self]
      exact hf _
    · rw [worker_modifyWorker_of_ne hj]
      exact .refl _
  have honline (j : Nat) (hj : s.isOnline j) : (s.modifyWorker id f).isOnline j :=
    (hgrow j).online hj
  have hsent (j : Nat) (hj : s.drainSent j) : (s.modifyWorker id f).drainSent j :=
    (hgrow j).sent_ne_nil hj
  have hdeadline (j : Nat) : (s.modifyWorker id f).drainDeadline e j = s.drainDeadline e j := by
    rw [drainDeadline, (hgrow j).forkedAt]
    rfl
  constructor
  case ready =>
    intro r hr
    rw [hdeadline]
    exact (h.ready r hr).imp (honline _) (Or.imp_left (hsent _))
  case failsafe =>
    intro r hr deadline ht
    rw [hdeadline]
    exact h.failsafe r hr deadline ht
  case escalated => exact fun r hr hesc => hsent _ (h.escalated r hr hesc)
  case waits =>
    intro old deadline hframe
    obtain ⟨r, hr, hold, hd⟩ := h.waits old deadline hframe
    exact ⟨r, hr, hold, hd.trans (hdeadline _).symm⟩
  case exited =>
    intro j hj hd
    by_cases hid : j = id
    · subst hid
      rw [isDead, worker_modifyWorker_self] at hd
      exact hsent _ ((hdead _ hd).elim (h.exited j hj) fun hdrained => hdrained)
    · rw [isDead, worker_modifyWorker_of_ne hid] at hd
      exact hsent _ (h.exited j hj hd)
  case relieved =>
    intro j hj
    have hreason : ∃ r ∈ s.recycles, r.old = j ∧ (s.isOnline r.new ∨ s.drainSent r.new) := by
      by_cases hid : j = id
      · subst hid
        rcases hwhy with hsame | hwhy
        · rw [drainSent, worker_modifyWorker_self, hsame] at hj
          exact h.relieved j hj
        · exact hwhy
      · rw [drainSent, worker_modifyWorker_of_ne hid] at hj
        exact h.relieved j hj
    obtain ⟨r, hr, hold, hup⟩ := hreason
    exact ⟨r, hr, hold, hup.imp (honline _) (hsent _)⟩
  case replacements =>
    intro r hr
    rw [(hgrow r.new).cause]
    exact h.replacements r hr

/-- Timers of a recycle fire, are cleared, or are armed by the drain. -/
theorem mapRecycles (h : Succeeded e s) (f : Recycle → Recycle)
    (hf : ∀ r ∈ s.recycles, (f r).old = r.old ∧ (f r).new = r.new ∧
      ((f r).drainFailsafeTimer = r.drainFailsafeTimer ∨ (f r).drainFailsafeTimer = none) ∧
      ((f r).escalating = true → r.escalating = true ∨ s.drainSent r.old)) :
    Succeeded e { s with recycles := s.recycles.map f } := by
  have hlift {P : Recycle → Prop} (hP : ∃ r ∈ s.recycles, P (f r)) :
      ∃ r ∈ s.recycles.map f, P r := by
    obtain ⟨r, hr, hPr⟩ := hP
    exact ⟨f r, List.mem_map_of_mem hr, hPr⟩
  constructor
  case ready =>
    intro r' hr'
    obtain ⟨r, hr, rfl⟩ := List.mem_map.mp hr'
    rw [(hf r hr).2.1]
    exact h.ready r hr
  case failsafe =>
    intro r' hr' deadline ht
    obtain ⟨r, hr, rfl⟩ := List.mem_map.mp hr'
    obtain ⟨-, hnew, hsafe, -⟩ := hf r hr
    rw [hnew]
    rcases hsafe with hsafe | hsafe
    · exact h.failsafe r hr deadline (hsafe ▸ ht)
    · rw [hsafe] at ht
      cases ht
  case escalated =>
    intro r' hr' hesc
    obtain ⟨r, hr, rfl⟩ := List.mem_map.mp hr'
    obtain ⟨hold, -, -, hkeeps⟩ := hf r hr
    rw [hold]
    exact (hkeeps hesc).elim (h.escalated r hr) fun hsent => hsent
  case waits =>
    intro old deadline hframe
    obtain ⟨r, hr, hold, hd⟩ := h.waits old deadline hframe
    refine hlift ⟨r, hr, (hf r hr).1.trans hold, ?_⟩
    rw [(hf r hr).2.1]
    exact hd
  case exited => exact h.exited
  case relieved =>
    intro id hid
    obtain ⟨r, hr, hold, hup⟩ := h.relieved id hid
    refine hlift ⟨r, hr, (hf r hr).1.trans hold, ?_⟩
    rw [(hf r hr).2.1]
    exact hup
  case replacements =>
    intro r' hr'
    obtain ⟨r, hr, rfl⟩ := List.mem_map.mp hr'
    rw [(hf r hr).2.1]
    exact h.replacements r hr

/-! ## Forks -/

/-- A fork changes nothing about the workers there were. -/
theorem forked (h : Succeeded e s) (hw : WellFormed s) (call : ForkCall) :
    Succeeded e (s.forked call) := by
  have hold {id : Nat} (hid : id ≤ s.cluster.ids) : (s.forked call).worker id = s.worker id :=
    worker_forked_of_ne s call (by omega)
  have hnew {r : Recycle} (hr : r ∈ s.recycles) :
      (s.forked call).worker r.new = s.worker r.new := hold (hw.recycled r hr).2
  have hdeadline {r : Recycle} (hr : r ∈ s.recycles) :
      (s.forked call).drainDeadline e r.new = s.drainDeadline e r.new := by
    rw [drainDeadline, hnew hr]
    rfl
  constructor
  case ready =>
    intro r hr
    rw [isOnline, drainSent, hnew hr, hdeadline hr]
    exact h.ready r hr
  case failsafe =>
    intro r hr deadline ht
    rw [hdeadline hr]
    exact h.failsafe r hr deadline ht
  case escalated =>
    intro r hr hesc
    have hle := hw.recycled r hr
    rw [drainSent, hold (by omega)]
    exact h.escalated r hr hesc
  case waits =>
    intro old deadline hframe
    obtain ⟨r, hr, hrold, hd⟩ := h.waits old deadline hframe
    exact ⟨r, hr, hrold, hd.trans (hdeadline hr).symm⟩
  case exited =>
    intro id hid hd
    by_cases hfresh : id = s.cluster.ids + 1
    · rw [isDead, hfresh, worker_forked_new] at hd
      cases hd
    · have hid' : id ∈ s.workerIds := by
        have hid : 1 ≤ id ∧ id ≤ s.cluster.ids + 1 := Finset.mem_Icc.mp hid
        exact Finset.mem_Icc.mpr ⟨hid.1, by omega⟩
      rw [isDead, worker_forked_of_ne s call hfresh] at hd
      rw [drainSent, worker_forked_of_ne s call hfresh]
      exact h.exited id hid' hd
  case relieved =>
    intro id hid
    have hne : id ≠ s.cluster.ids + 1 := by
      rintro rfl
      rw [drainSent, worker_forked_new] at hid
      exact hid rfl
    rw [drainSent, worker_forked_of_ne s call hne] at hid
    obtain ⟨r, hr, hrold, hup⟩ := h.relieved id hid
    refine ⟨r, hr, hrold, ?_⟩
    rw [isOnline, drainSent, hnew hr]
    exact hup
  case replacements =>
    intro r hr
    rw [hnew hr]
    exact h.replacements r hr

/-- The worker just forked is put up for another one. -/
theorem recycle (h : Succeeded e s) {old new : Nat} (hat : (s.worker new).forkedAt = s.now)
    (hcause : (s.worker new).cause ≠ .initial) : Succeeded e (s.recycle e old new) := by
  have hdeadline : s.now + e.cfg.workerDrainBudgetMs = s.drainDeadline e new := by
    rw [drainDeadline, hat]
  constructor
  case ready =>
    intro r hr
    rcases List.mem_cons.mp hr with rfl | hr
    · refine .inr (.inr ?_)
      show s.now < s.drainDeadline e new
      rw [← hdeadline]
      unfold ResolvedConfig.workerDrainBudgetMs
      omega
    · exact h.ready r hr
  case failsafe =>
    intro r hr deadline ht
    rcases List.mem_cons.mp hr with rfl | hr
    · exact (Option.some.inj ht).symm.trans hdeadline
    · exact h.failsafe r hr deadline ht
  case escalated =>
    intro r hr hesc
    rcases List.mem_cons.mp hr with rfl | hr
    · cases hesc
    · exact h.escalated r hr hesc
  case waits =>
    intro old' deadline hframe
    obtain ⟨r, hr, hrold, hd⟩ := h.waits old' deadline hframe
    exact ⟨r, List.mem_cons_of_mem _ hr, hrold, hd⟩
  case exited => exact h.exited
  case relieved =>
    intro id hid
    obtain ⟨r, hr, hrold, hup⟩ := h.relieved id hid
    exact ⟨r, List.mem_cons_of_mem _ hr, hrold, hup⟩
  case replacements =>
    intro r hr
    rcases List.mem_cons.mp hr with rfl | hr
    · exact hcause
    · exact h.replacements r hr

theorem replaced (h : Succeeded e s) (hw : WellFormed s) {call : ForkCall}
    (hcause : call.cause ≠ .initial) (old : Nat) :
    Succeeded e ((s.forked call).recycle e old (s.cluster.ids + 1)) := by
  apply (h.forked hw call).recycle
  · rw [worker_forked_new]
    rfl
  · rw [worker_forked_new]
    exact hcause

/-! ## Moves -/

/-- The drain of a worker starts: its replacement relieves it. -/
theorem drainOldWorker (h : Succeeded e s) (hw : WellFormed s) {r : Recycle} (hr : r ∈ s.recycles)
    (hup : s.isOnline r.new ∨ s.drainSent r.new) : Succeeded e (s.drainOldWorker e r) := by
  unfold State.drainOldWorker
  split
  · exact h
  · have hdrained : Succeeded e (s.drainRecycledWorker r.old) := by
      refine h.modifyWorker r.old (fun w => ?_) (fun w hd => ?_) (.inr ⟨r, hr, rfl, hup⟩)
      · split
        · exact .send s.now w
        · exact (Worker.Grows.send s.now w).trans (.disconnect s.now _)
      · left
        split at hd
        · assumption
        · exact hd
    have hsent : (s.drainRecycledWorker r.old).drainSent r.old := by
      rw [drainSent, drainRecycledWorker, worker_modifyWorker_self]
      split
      · exact List.cons_ne_nil _ _
      · exact List.cons_ne_nil _ _
    refine hdrained.mapRecycles _ fun r' hr' => ?_
    split
    · rename_i hnew
      have heq := hw.recycle_unique hr' hr hnew
      subst heq
      exact ⟨rfl, rfl, .inr rfl, fun _ => .inr hsent⟩
    · exact ⟨rfl, rfl, .inl rfl, fun hesc => .inl hesc⟩

theorem rollMove (h : Succeeded e s) {r r' : Roll} (hr : s.roll = some r)
    (hm : RollMove e s r r') : Succeeded e { s with roll := some r' } := by
  refine { h with waits := fun old deadline hframe => ?_ }
  have hframe : r'.frame = .exitWait old deadline := by simpa [rollFrame] using hframe
  have hkeep (hsame : r.frame = .exitWait old deadline) :
      ∃ r ∈ s.recycles, r.old = old ∧ deadline = s.drainDeadline e r.new := by
    apply h.waits old deadline
    simp [rollFrame, hr, hsame]
  cases hm with
  | skipped old rest hs hrem hd => exact hkeep hframe
  | failed old rest hs hrem => exact hkeep hframe
  | waits old' rest deadline' hs hrem hf hd =>
    obtain ⟨rfl, rfl⟩ := RollFrame.exitWait.inj hframe
    obtain ⟨c, hc, hold, hdeadline⟩ := hd
    exact ⟨c, hc, hold, hdeadline⟩
  | graced | exitSeen | counted | resumed | aborted | bailedOut | completed => cases hframe

theorem move (h : Succeeded e s) (hw : WellFormed s) (hm : Move e s t)
    (hs : s.isShuttingDown = false) : Succeeded e t := by
  cases hm with
  | restarted hs' ht hf hok => exact { h.forked hw _ with }
  | replaced call old hs' ha hc hok =>
    have hcause : call.cause ≠ .initial := by
      cases hc with
      | health => simp [forkCall]
      | roll => simp [forkCall]
    exact { h.replaced hw hcause old with }
  | cameOnline id ha =>
    apply h.modifyWorker id
    · exact Worker.Grows.cameOnline
    · exact fun _ hd => .inl hd
    · exact .inl fun _ => rfl
  | replacementOnline new hn =>
    refine h.mapRecycles _ fun r _ => ?_
    split
    · exact ⟨rfl, rfl, .inl rfl, fun hesc => .inl hesc⟩
    · exact ⟨rfl, rfl, .inl rfl, fun hesc => .inl hesc⟩
  | timers f hf =>
    refine h.mapRecycles f fun r hr => ?_
    have hk := hf r hr
    exact ⟨hk.old, hk.new, hk.failsafe, fun hesc => .inl (hk.escalating hesc)⟩
  | drained r hr hd hs' hwhy =>
    apply h.drainOldWorker hw hr
    rcases hwhy with honline | ⟨-, hdead | ⟨deadline, ht, hlate⟩⟩
    · exact .inl honline
    · -- the replacement is gone, so it was drained
      have hb := hw.recycled r hr
      exact .inr (h.exited r.new (Finset.mem_Icc.mpr ⟨by omega, hb.2⟩) hdead)
    · rw [h.failsafe r hr deadline ht] at hlate
      exact h.relieves hr hlate
  | killed signal id hwhy =>
    apply h.modifyWorker id (Worker.Grows.kill signal s.now) (fun _ hd => .inl hd)
    right
    rcases hwhy with ⟨r, hr, rfl, hesc⟩ | ⟨deadline, hframe, hlate⟩
    · exact h.relieved r.old (h.escalated r hr hesc)
    · obtain ⟨r, hr, hold, rfl⟩ := h.waits id deadline hframe
      exact ⟨r, hr, hold, h.relieves hr hlate⟩
  | disconnected id =>
    apply h.modifyWorker id
    · exact Worker.Grows.disconnected
    · exact fun _ hd => .inl hd
    · exact .inl fun _ => rfl
  | roll r r' hr hm => exact h.rollMove hr hm
  | shutdown t hs' hm => exact absurd (hs.symm.trans hs') (by decide)
  | books | exitCodeOne | exitCodeZero | holdReleased | queue | gaveUp | forkFailed | agedMarked
  | onlineNoted | phase => exact { h with }

theorem endRoll (h : Succeeded e s) : Succeeded e s.endRoll :=
  { h with waits := fun old deadline hframe => by simp [rollFrame, State.endRoll] at hframe }

theorem bit {a : Action} (h : Succeeded e s) (hw : WellFormed s) (hb : Bit e a s t)
    (hs : t.isShuttingDown = false) (htick : ∀ ms, a ≠ .tick ms)
    (hexit : ∀ id code signal, a = .workerExit id code signal → s.drainSent id) :
    Succeeded e t := by
  cases hb with
  | tick _ ms => exact absurd rfl (htick ms)
  | initialForked _ hok => exact h.forked hw _
  | died _ id code signal ha =>
    have hsent : s.drainSent id := hexit id code signal rfl
    apply h.modifyWorker id
    · exact Worker.Grows.died
    · exact fun _ _ => .inr hsent
    · exact .inl fun _ => rfl
  | selfDisconnected _ id ha =>
    apply h.modifyWorker id
    · exact Worker.Grows.selfDisconnected
    · exact fun _ hd => .inl hd
    · exact .inl fun _ => rfl
  | agedRecycled _ id hid ha hs' hok =>
    have hcause : (s.agedCall e id).cause ≠ .initial := by simp [agedCall, forkCall]
    exact { h.replaced hw hcause id with }
  | crashed => rw [noteCrash_eq]; exact { h with }
  | queued => rw [queueCrash_eq]; exact { h with }
  | resetRefilled | rollRefilled => rw [queueRefill_eq]; exact { h with }
  | rollStarted _ opts hs' hr =>
    refine { h with waits := fun old deadline hframe => ?_ }
    simp [rollFrame, beginRoll] at hframe
  | rollEnded _ r hr hf => exact h.endRoll
  | rollCompleted _ r hr hf => exact { h.endRoll with }
  | shutdownEntered _ signal hs' =>
    rw [isShuttingDown, (shutdownPrimary_entered signal hs').shutdown] at hs
    cases hs
  | forking | initialFailed | ran | removed | quarantined | tripped | agedDropped | agedFailed
  | resetShutting | breakerReset | counted | patched => exact { h with }

/-! ## Steps -/

theorem tick (h : Succeeded e s) {ms : Nat} (hok : orderly e s (.tick ms) = true) :
    Succeeded e { s with now := s.now + ms } := by
  refine { h with ready := fun r hr => ?_ }
  simp only [orderly, List.all_eq_true, Bool.or_eq_true, decide_eq_true_eq] at hok
  rcases hok r hr with (honline | hsent) | hsoon
  · exact .inl honline
  · exact .inr (.inl hsent)
  · exact .inr (.inr hsoon)

theorem step {a : Action} (h : Succeeded e s) (hw : WellFormed s) (hact : s.act e a = some t)
    (hok : orderly e s a = true) (hs : s.isShuttingDown = false) :
    t.isShuttingDown = false ∧ Succeeded e t := by
  have hnoshut (signal : String) : a ≠ .shutdownPrimary signal := by
    rintro rfl
    cases hok
  by_cases ha : ∃ ms, a = .tick ms
  · obtain ⟨ms, rfl⟩ := ha
    rw [← Option.some.inj hact]
    exact ⟨hs, h.tick hok⟩
  · have hle (id : Nat) (code : Option Int) (signal : Option String)
        (heq : a = .workerExit id code signal) : id ≤ s.cluster.ids := by
      subst heq
      obtain ⟨m, hran, -⟩ := workerExit_outcome hw hact
      exact (hw.tracked_bounded id (hw.alive_tracked id hran.alive)).2
    have hall : s.Later t ∧ t.isShuttingDown = false ∧ Succeeded e t := by
      refine (act_pieces hw hact).preserves (P := fun x => s.Later x ∧
        x.isShuttingDown = false ∧ Succeeded e x) hw ?_ ⟨.refl s, hs, h⟩
      intro x y hwx ⟨hl, hsx, hx⟩ hp
      have hsy := (hp.shutting_eq hnoshut).trans hsx
      refine ⟨hl.trans hp.later, hsy, ?_⟩
      rcases hp with hm | hb
      · exact hx.move hwx hm hsx
      · refine hx.bit hwx hb hsy (fun ms heq => ha ⟨ms, heq⟩) fun id code signal heq => ?_
        subst heq
        -- the worker that exits was drained before the segment
        have hsent : s.drainSent id := of_decide_eq_true hok
        exact (hl.worker id (hle id code signal rfl)).sent_ne_nil hsent
    exact hall.2

theorem initial (e : Host) (count : WorkerCount) (env : ProcessEnv) :
    Succeeded e (State.initial e count env) where
  ready := fun _ hr => absurd hr List.not_mem_nil
  failsafe := fun _ hr => absurd hr List.not_mem_nil
  escalated := fun _ hr => absurd hr List.not_mem_nil
  waits := fun _ _ hframe => by cases hframe
  exited := fun id hid => by simp [workerIds, State.initial] at hid
  relieved := fun _ hsent => absurd rfl hsent
  replacements := fun _ hr => absurd hr List.not_mem_nil

/-- The workers as a succession. -/
def succession (h : Succeeded e s) (hw : WellFormed s) : Succession Nat where
  members := s.workerIds
  next a b := ∃ r ∈ s.recycles, r.old = a ∧ r.new = b
  up := s.isOnline
  retired := s.drainSent
  lt_of_next := by
    rintro _ _ ⟨r, hr, rfl, rfl⟩
    exact (hw.recycled r hr).1
  mem_of_next := by
    rintro _ _ ⟨r, hr, rfl, rfl⟩
    have hb := hw.recycled r hr
    exact Finset.mem_Icc.mpr ⟨by omega, hb.2⟩
  unique := by
    rintro _ _ _ ⟨r, hr, rfl, hnew⟩ ⟨r', hr', rfl, hnew'⟩
    rw [hw.recycle_unique hr hr' (hnew.trans hnew'.symm)]
  succeeded := by
    intro id hid
    obtain ⟨r, hr, hold, hup⟩ := h.relieved id hid
    exact ⟨r.new, ⟨r, hr, hold, rfl⟩, hup⟩

/-- Initial workers that all came online never outnumber those that serve. -/
theorem card_initialWorkers_le (h : Succeeded e s) (hw : WellFormed s)
    (honline : ∀ id ∈ s.initialWorkers, s.isOnline id) :
    s.initialWorkers.card ≤ s.servingWorkers.card := by
  classical
  have hsub : s.initialWorkers ⊆ (h.succession hw).members := Finset.filter_subset _ _
  have hfounders (id : Nat) (hid : id ∈ s.initialWorkers) : (h.succession hw).Founder id := by
    rintro old ⟨r, hr, -, rfl⟩
    exact h.replacements r hr (Finset.mem_filter.mp hid).2
  have hle := Succession.card_founders_le hsub hfounders fun id hid => .inl (honline id hid)
  refine hle.trans (Finset.card_le_card fun id hid => ?_)
  obtain ⟨hmem, honline, hsent⟩ := Finset.mem_filter.mp hid
  refine Finset.mem_filter.mpr ⟨hmem, ?_, honline, hsent⟩
  -- the dead were all drained
  cases hd : s.isDead id with
  | false => exact hd
  | true => exact absurd (h.exited id hmem hd) hsent

end Succeeded

/-! ## The initial workers -/

theorem State.initialWorkers_forked (s : State) {call : ForkCall} (hc : call.cause = .initial) :
    (s.forked call).initialWorkers = insert (s.cluster.ids + 1) s.initialWorkers := by
  ext id
  have hids : (s.forked call).cluster.ids = s.cluster.ids + 1 := rfl
  by_cases hid : id = s.cluster.ids + 1
  · subst hid
    simp [initialWorkers, workerIds, worker_forked_new, hc, hids]
  · simp [initialWorkers, workerIds, worker_forked_of_ne s call hid, hids, hid]
    omega

theorem State.Later.initialWorkers_subset (h : s.Later t) :
    s.initialWorkers ⊆ t.initialWorkers := by
  intro id hid
  obtain ⟨hmem, hcause⟩ := Finset.mem_filter.mp hid
  obtain ⟨hpos, hle⟩ := Finset.mem_Icc.mp hmem
  have hmem' : id ∈ t.workerIds := Finset.mem_Icc.mpr ⟨hpos, hle.trans h.ids⟩
  exact Finset.mem_filter.mpr ⟨hmem', (h.worker id hle).cause.trans hcause⟩

/-- The initial forks, if they all succeed. -/
theorem forkWorkers_initialWorkers {count : Nat} (h : (forkWorkers e count s).1 = true) :
    count ≤ (forkWorkers e count s).2.initialWorkers.card := by
  have hadded : s.initialWorkers.card + count ≤ (forkWorkers e count s).2.initialWorkers.card := by
    induction count generalizing s with
    | zero => exact le_rfl
    | succ count ih =>
      rw [forkWorkers] at h ⊢
      rcases forkWorker_cases e .initial none s with ⟨-, hf⟩ | ⟨-, hf⟩ | ⟨-, hf⟩
      · rw [hf] at h
        cases h
      · rw [hf] at h
        cases h
      · rw [hf] at h ⊢
        have hrest := ih h
        have hnew : s.cluster.ids + 1 ∉ s.initialWorkers := by
          simp [initialWorkers, workerIds]
        rw [initialWorkers_forked s rfl, Finset.card_insert_of_notMem hnew] at hrest
        simp only
        omega
  omega

/-- Once started, the fleet has its initial workers. -/
def InitiallyFilled (e : Host) (s : State) : Prop :=
  s.orch.runPhase = .started → s.resolveWorkerCount e ≤ s.initialWorkers.card

/-- Outside the initial forks nothing starts the fleet or changes the target of a started one. -/
theorem Piece.started_target {a : Action} (hw : WellFormed s) (ha : a ≠ .pluginsInstalled)
    (h : Piece e a s t) (hstarted : t.orch.runPhase = .started) :
    s.orch.runPhase = .started ∧ t.resolveWorkerCount e = s.resolveWorkerCount e := by
  rcases h with hm | hb
  · cases hm with
    | drained r hr hd hs hwhy =>
      unfold State.drainOldWorker at hstarted ⊢
      split at hstarted
      · exact ⟨hstarted, by split <;> rfl⟩
      · exact ⟨hstarted, by split <;> rfl⟩
    | phase p hp =>
      have hp' : p = .started := hstarted
      rcases hp with ⟨-, rfl⟩ | ⟨-, rfl⟩ <;> cases hp'
    | shutdown t hs hm =>
      rw [hm.keeps.orch] at hstarted
      exact ⟨hstarted, resolveWorkerCount_congr (by rw [hm.keeps.orch])⟩
    | books | exitCodeOne | exitCodeZero | holdReleased | queue | gaveUp | forkFailed | restarted
    | replaced | agedMarked | cameOnline | onlineNoted | replacementOnline | timers | killed
    | disconnected | roll => exact ⟨hstarted, rfl⟩
  · cases hb with
    | forking | initialFailed | initialForked | ran => exact absurd rfl ha
    | crashed => rw [noteCrash_eq] at hstarted ⊢; exact ⟨hstarted, rfl⟩
    | queued => rw [queueCrash_eq] at hstarted ⊢; exact ⟨hstarted, rfl⟩
    | resetRefilled | rollRefilled =>
      rw [queueRefill_eq] at hstarted ⊢
      exact ⟨hstarted, rfl⟩
    | counted _ n count hf => exact absurd (hf.symm.trans (hw.started hstarted)) (by decide)
    | shutdownEntered _ signal hs =>
      have he := shutdownPrimary_entered (e := e) signal hs
      exact ⟨he.phase.1.symm.trans hstarted, resolveWorkerCount_congr he.count⟩
    | tick | died | removed | quarantined | tripped | selfDisconnected | agedDropped | agedFailed
    | agedRecycled | resetShutting | breakerReset | patched | rollStarted | rollEnded
    | rollCompleted => exact ⟨hstarted, rfl⟩

theorem InitiallyFilled.step {a : Action} (h : InitiallyFilled e s) (hw : WellFormed s)
    (hact : s.act e a = some t) : InitiallyFilled e t := by
  have hpieces := act_pieces hw hact
  by_cases ha : a = .pluginsInstalled
  · subst ha
    obtain ⟨-, rfl⟩ := pluginsInstalled_outcome hact
    intro hstarted
    have htarget : (s.startPrimary e (s.resolveWorkerCount e)).resolveWorkerCount e =
        s.resolveWorkerCount e := startPrimary_target _ s
    rw [htarget]
    rcases startPrimary_outcome (e := e) (s.resolveWorkerCount e) s with ⟨-, heq⟩ | ⟨hok, hq⟩
    · rw [heq] at hstarted
      simp [setRunPhase] at hstarted
    · have hfilled := forkWorkers_initialWorkers hok
      obtain ⟨b, evs, -, heq⟩ := hq
      rw [heq]
      exact hfilled
  · refine hpieces.preserves hw (fun x y hwx hx hp hstarted => ?_) h
    obtain ⟨hstarted', htarget⟩ := hp.started_target hwx ha hstarted
    rw [htarget]
    exact (hx hstarted').trans (Finset.card_le_card hp.later.initialWorkers_subset)

/-- **Zero-downtime replacement.** Without crashes and without a shutdown, and with
replacements that come online in time, the workers that serve never fall below the target
once all initial workers were online. -/
theorem replacement_keeps_target (e : Host) (count : WorkerCount) (env : ProcessEnv) (s : State)
    (hrun : (orchestrator e count env).Run (fun x a => orderly e x a = true)
      (State.initial e count env) s)
    (hstarted : s.orch.runPhase = .started) (honline : ∀ id ∈ s.initialWorkers, s.isOnline id) :
    s.resolveWorkerCount e ≤ s.servingWorkers.card := by
  have hall : (s.isShuttingDown = false ∧ Succeeded e s) ∧ InitiallyFilled e s := by
    refine run_preserves (P := fun x => (x.isShuttingDown = false ∧ Succeeded e x) ∧
      InitiallyFilled e x) hrun ?_ ?_
    · exact ⟨⟨rfl, .initial e count env⟩, fun hp => by cases hp⟩
    · intro x a y hw ⟨⟨hsx, hx⟩, hfilled⟩ hok hact
      exact ⟨hx.step hw hact hok hsx, hfilled.step hw hact⟩
  obtain ⟨⟨-, h⟩, hfilled⟩ := hall
  have hw := reachable_wellFormed hrun.reachable
  exact (hfilled hstarted).trans (h.card_initialWorkers_le hw honline)

/-- One worker, rolled until its replacement is online. -/
theorem replacement_keeps_target_one_worker :
    ∃ s : State, s.drainSent 1 ∧ 1 ≤ s.servingWorkers.card := by
  obtain ⟨s, hrun, hq⟩ := StepSystem.exists_run_of_any (orchestrator {} (.fixed 1) fun _ => none)
    (State.initial {} (.fixed 1) fun _ => none) (orderly {})
    [.tick 1, .run, .pluginsInstalled, .workerOnline 1, .restartWorkers {}, .tick 1000,
      .workerOnline 2]
    (fun s => decide (s.drainSent 1) && decide (s.orch.runPhase = .started) &&
      decide (s.resolveWorkerCount {} = 1) &&
      decide (∀ id ∈ s.initialWorkers, s.isOnline id)) (by decide +kernel)
  simp only [Bool.and_eq_true, decide_eq_true_eq] at hq
  obtain ⟨⟨⟨hsent, hstarted⟩, htarget⟩, honline⟩ := hq
  have h := replacement_keeps_target {} _ _ s hrun hstarted honline
  rw [htarget] at h
  exact ⟨s, hsent, h⟩

end ClusterKit
