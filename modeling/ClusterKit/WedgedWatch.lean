import ClusterKit.LagPolicy
import ClusterKit.Lib.Projection
import ClusterKit.Lib.Watchdog
import ClusterKit.Frames
import ClusterKit.ZeroDowntime

/-! The watch for wedged workers is a watchdog whose wards are the workers: a heartbeat is a
beat, an exit is forgotten, and workers that are marked for recycling are excused. Nothing
else that the primary does reaches it. -/

namespace ClusterKit

open State StepSystem

variable {e : Host} {a : Action} {s t : State}

def Watch.watchdog (now : Nat) (v : Watch) : Watchdog Nat where
  now := now
  seen id := (v.registry.get? id).map Prod.fst
  due := v.wedgedTimer
  alarms id := v.alarms.filterMap fun p => if p.1 = id then some p.2 else none

/-- The watchdog that the primary runs. -/
def State.watchdog (s : State) : Watchdog Nat := s.watch.watchdog s.now

/-- What an action is to the watchdog. A look during a shutdown only arms the next one. -/
inductive Feeds (e : Host) (s : State) : Action → WatchdogInput Nat → Prop
  | tick (ms : Nat) : Feeds e s (.tick ms) (.tick ms)
  | started (hi : s.orch.runPhase = .installing) (hon : e.cfg.health.wedgedTimeoutMs ≠ 0) :
    Feeds e s .pluginsInstalled .start
  | rearmed (hs : s.isShuttingDown = true) (hdue : s.health.wedgedTimer ≠ none) :
    Feeds e s (.timer .wedgedWatch) .start
  | stopped (signal : String) (hs : s.isShuttingDown = false) :
    Feeds e s (.shutdownPrimary signal) .stop
  | heard (id : Nat) (msg : Option Message) (hm : heartbeatLag e.cfg msg ≠ none) :
    Feeds e s (.workerMessage id msg) (.beat id)
  | left (id : Nat) (code : Option Int) (signal : Option String) :
    Feeds e s (.workerExit id code signal) (.forget id)
  | looked (hs : s.isShuttingDown = false) :
    Feeds e s (.timer .wedgedWatch) (.look s.isMarkedForRecycling)

/-! ## A look -/

theorem recycleWorkerNow_marks (id : Nat) {j : Nat} (hj : j ≠ id) (s : State) :
    (recycleWorkerNow e id s).2.isMarkedForRecycling j = s.isMarkedForRecycling j := by
  unfold recycleWorkerNow
  split
  · rfl
  · split
    · rfl
    · dsimp only
      rcases forkWorker_cases e (.health id) none (s.markForRecycling id) with
        ⟨-, h⟩ | ⟨-, h⟩ | ⟨-, h⟩
      · rw [h]
        simp [isMarkedForRecycling, unmarkForRecycling, markForRecycling, hj]
      · rw [h]
        simp [isMarkedForRecycling, unmarkForRecycling, clusterFork, markForRecycling, hj]
      · rw [h]
        simp [isMarkedForRecycling, handleWorkerRecycle, State.recycle, forked, trackWorker,
          clusterFork, markForRecycling, hj]

theorem triggerWorkerRecycle_marks (id : Nat) (reason : RecycleReason) {j : Nat} (hj : j ≠ id)
    (s : State) :
    (s.triggerWorkerRecycle e id reason).isMarkedForRecycling j = s.isMarkedForRecycling j := by
  have hrecycle := recycleWorkerNow_marks (e := e) id hj (s.setRecycleReason id reason)
  unfold triggerWorkerRecycle
  split
  · rfl
  · split
    · rename_i heq
      rw [heq] at hrecycle
      exact hrecycle
    · rename_i heq
      rw [heq] at hrecycle
      exact hrecycle

/-- The watch after one entry of the registry was looked at. -/
theorem checkWedged_suspended (id lastReport : Nat) (s : State) :
    (s.checkWedged e id lastReport).suspended =
      if e.cfg.health.wedgedTimeoutMs < s.now - lastReport then
        { s.suspended with
          watch := { s.watch.left id with
            alarms := if s.isMarkedForRecycling id then s.watch.alarms
              else (id, s.now - lastReport) :: s.watch.alarms } }
      else s.suspended := by
  unfold checkWedged
  dsimp only
  by_cases hlong : e.cfg.health.wedgedTimeoutMs < s.now - lastReport
  · rw [if_pos hlong, if_neg (by omega), triggerWorkerRecycle_suspended]
    split
    · rename_i hm
      rw [if_pos (show s.isMarkedForRecycling id = true from hm)]
      rfl
    · rename_i hm
      rw [if_neg (show ¬ s.isMarkedForRecycling id = true from hm)]
      rfl
  · rw [if_neg hlong, if_pos (by omega)]

theorem checkWedged_marks (id lastReport : Nat) {j : Nat} (hj : j ≠ id) (s : State) :
    (s.checkWedged e id lastReport).isMarkedForRecycling j = s.isMarkedForRecycling j := by
  unfold checkWedged
  dsimp only
  split
  · rfl
  · rw [triggerWorkerRecycle_marks id .wedged hj]
    split <;> rfl

/-- A worker that is found registered is looked at. -/
theorem checkWedged_look {id lastReport : Nat} (hseen : s.watchdog.seen id = some lastReport)
    (j : Nat) :
    let w := s.watchdog.look e.cfg.health.wedgedTimeoutMs e.cfg.health.heartbeatMs
      s.isMarkedForRecycling
    (s.checkWedged e id lastReport).watchdog.seen j =
        (if j = id then w.seen j else s.watchdog.seen j) ∧
      (s.checkWedged e id lastReport).watchdog.alarms j =
        (if j = id then w.alarms j else s.watchdog.alarms j) := by
  intro w
  have hsilence : s.watchdog.silence e.cfg.health.wedgedTimeoutMs id =
      if e.cfg.health.wedgedTimeoutMs < s.now - lastReport then some (s.now - lastReport)
        else none :=
    Watchdog.silence_of_seen hseen
  have hchecked := checkWedged_suspended (e := e) id lastReport s
  split at hchecked
  · rename_i hlong
    rw [if_pos hlong] at hsilence
    have hwatch := congrArg (fun z : Suspended => z.watch.watchdog z.now) hchecked
    replace hwatch : (s.checkWedged e id lastReport).watchdog =
        Watch.watchdog s.now { s.watch.left id with
          alarms := if s.isMarkedForRecycling id then s.watch.alarms
            else (id, s.now - lastReport) :: s.watch.alarms } := hwatch
    rw [hwatch]
    by_cases hj : j = id
    · subst hj
      rw [if_pos rfl, if_pos rfl]
      refine ⟨?_, ?_⟩
      · simp [w, Watch.watchdog, Watch.left, OrdMap.get?_delete, Watchdog.look, hsilence]
      · show _ = if s.isMarkedForRecycling j then s.watchdog.alarms j
          else (s.watchdog.silence e.cfg.health.wedgedTimeoutMs j).toList ++ s.watchdog.alarms j
        rw [hsilence]
        by_cases hm : s.isMarkedForRecycling j
        · rw [if_pos hm, if_pos hm]
          rfl
        · rw [if_neg hm, if_neg hm]
          simp [Watch.watchdog, State.watchdog]
    · rw [if_neg hj, if_neg hj]
      refine ⟨?_, ?_⟩
      · simp [Watch.watchdog, Watch.left, OrdMap.get?_delete, hj, State.watchdog]
      · by_cases hm : s.isMarkedForRecycling id <;>
          simp [Watch.watchdog, hm, State.watchdog, Ne.symm hj]
  · rename_i hshort
    rw [if_neg hshort] at hsilence
    have hwatch : (s.checkWedged e id lastReport).watchdog = s.watchdog :=
      congrArg (fun z : Suspended => z.watch.watchdog z.now) hchecked
    rw [hwatch]
    by_cases hj : j = id
    · subst hj
      simp [w, Watchdog.look, hsilence]
    · rw [if_neg hj, if_neg hj]
      exact ⟨rfl, rfl⟩

/-- All entries of the registry are looked at, each as if it were the only one. -/
theorem checkWedgedAll_look (entries : List (Nat × Nat × WorkerHealthReport))
    (hn : (entries.map Prod.fst).Nodup) (s : State)
    (hreg : ∀ p ∈ entries, s.watchdog.seen p.1 = some p.2.1) (j : Nat) :
    let w := s.watchdog.look e.cfg.health.wedgedTimeoutMs e.cfg.health.heartbeatMs
      s.isMarkedForRecycling
    (checkWedgedAll e entries s).watchdog.seen j =
        (if j ∈ entries.map Prod.fst then w.seen j else s.watchdog.seen j) ∧
      (checkWedgedAll e entries s).watchdog.alarms j =
        (if j ∈ entries.map Prod.fst then w.alarms j else s.watchdog.alarms j) := by
  induction entries generalizing s with
  | nil => exact ⟨rfl, rfl⟩
  | cons entry rest ih =>
    obtain ⟨id, lastReport, report⟩ := entry
    rw [List.map_cons, List.nodup_cons] at hn
    obtain ⟨hfresh, hrest⟩ := hn
    intro w
    let x := s.checkWedged e id lastReport
    have hlook := checkWedged_look (e := e) (hreg _ (List.mem_cons_self ..))
    have hsame {k : Nat} (hk : k ≠ id) : x.watchdog.seen k = s.watchdog.seen k ∧
        x.watchdog.alarms k = s.watchdog.alarms k := by
      have h := hlook k
      simp only [if_neg hk] at h
      exact h
    have hnow : x.now = s.now := by
      have h := congrArg Suspended.now (checkWedged_suspended (e := e) id lastReport s)
      split at h <;> exact h
    have hreg' : ∀ p ∈ rest, x.watchdog.seen p.1 = some p.2.1 := by
      intro p hp
      have hmem : p.1 ∈ rest.map Prod.fst := List.mem_map_of_mem hp
      have hne : p.1 ≠ id := fun heq => hfresh (heq ▸ hmem)
      rw [(hsame hne).1]
      exact hreg p (List.mem_cons_of_mem _ hp)
    obtain ⟨hseen, halarms⟩ := ih hrest x hreg'
    show (checkWedgedAll e rest x).watchdog.seen j = _ ∧
      (checkWedgedAll e rest x).watchdog.alarms j = _
    by_cases hj : j = id
    · subst hj
      rw [if_neg hfresh] at hseen halarms
      have hself := hlook j
      simp only [↓reduceIte] at hself
      have hin : j ∈ ((j, lastReport, report) :: rest).map Prod.fst := List.mem_cons_self ..
      rw [if_pos hin, if_pos hin, hseen, halarms]
      exact hself
    · have hmem : (j ∈ id :: rest.map Prod.fst) ↔ j ∈ rest.map Prod.fst := by simp [hj]
      have hmarks : x.isMarkedForRecycling j = s.isMarkedForRecycling j :=
        checkWedged_marks id lastReport hj s
      have hlater := Watchdog.look_congr e.cfg.health.wedgedTimeoutMs e.cfg.health.heartbeatMs
        hnow (hsame hj).1 (hsame hj).2 hmarks
      simp only [List.map_cons, hmem]
      rw [hseen, halarms, hlater.1, hlater.2, (hsame hj).1, (hsame hj).2]
      exact ⟨rfl, rfl⟩

theorem watchdog_of_suspended (h : t.suspended = s.suspended) : t.watchdog = s.watchdog :=
  congrArg (fun z : Suspended => z.watch.watchdog z.now) h

theorem checkWedgedAll_clock (entries : List (Nat × Nat × WorkerHealthReport)) (s : State) :
    (checkWedgedAll e entries s).watchdog.now = s.watchdog.now ∧
      (checkWedgedAll e entries s).watchdog.due = s.watchdog.due := by
  induction entries generalizing s with
  | nil => exact ⟨rfl, rfl⟩
  | cons entry rest ih =>
    obtain ⟨id, lastReport, report⟩ := entry
    have hchecked := congrArg (fun z : Suspended => z.watch.watchdog z.now)
      (checkWedged_suspended (e := e) id lastReport s)
    replace hchecked : (s.checkWedged e id lastReport).watchdog = _ := hchecked
    rw [checkWedgedAll, (ih _).1, (ih _).2, hchecked]
    split <;> exact ⟨rfl, rfl⟩

theorem seen_eq_some {id lastReport : Nat} {report : WorkerHealthReport}
    (h : (id, lastReport, report) ∈ s.health.registry.entries) :
    s.watchdog.seen id = some lastReport :=
  congrArg (Option.map Prod.fst) ((OrdMap.get?_eq_some ..).mpr h)

theorem seen_eq_none {id : Nat} (h : id ∉ s.health.registry.keys) :
    s.watchdog.seen id = none := by
  refine Option.map_eq_none_iff.mpr (Option.eq_none_iff_forall_not_mem.mpr fun v hv => h ?_)
  exact List.mem_map_of_mem ((OrdMap.get?_eq_some ..).mp hv)

theorem wedgedWatch_watchdog (h : s.wedgedWatch e = some t) :
    ∃ input, Feeds e s (.timer .wedgedWatch) input ∧
      s.watchdog.step e.cfg.health.wedgedTimeoutMs e.cfg.health.heartbeatMs input =
        some t.watchdog := by
  unfold wedgedWatch at h
  split at h
  · cases h
  · rename_i due htimer
    split at h
    · rename_i hdue
      let x := s.modifyHealth fun h => { h with
        wedgedTimer := some (s.now + e.cfg.health.heartbeatMs) }
      dsimp only at h
      split at h <;> cases h
      · rename_i hs
        exact ⟨.start, .rearmed hs (by rw [htimer]; exact Option.some_ne_none due), rfl⟩
      · rename_i hs
        refine ⟨_, .looked (Bool.eq_false_iff.mpr hs), ?_⟩
        have hstep : s.watchdog.step e.cfg.health.wedgedTimeoutMs e.cfg.health.heartbeatMs
            (.look s.isMarkedForRecycling) = some (s.watchdog.look e.cfg.health.wedgedTimeoutMs
              e.cfg.health.heartbeatMs s.isMarkedForRecycling) := by
          have hwhen : s.watchdog.due = some due := htimer
          simp only [Watchdog.step, hwhen]
          exact if_pos hdue
        have hlooked (j : Nat) := checkWedgedAll_look (e := e) s.health.registry.entries
          s.health.registry.nodup x (fun p hp => seen_eq_some hp) j
        have hward (j : Nat) : (checkWedgedAll e s.health.registry.entries x).watchdog.seen j =
              (s.watchdog.look e.cfg.health.wedgedTimeoutMs e.cfg.health.heartbeatMs
                s.isMarkedForRecycling).seen j ∧
            (checkWedgedAll e s.health.registry.entries x).watchdog.alarms j =
              (s.watchdog.look e.cfg.health.wedgedTimeoutMs e.cfg.health.heartbeatMs
                s.isMarkedForRecycling).alarms j := by
          obtain ⟨hseen, halarms⟩ := hlooked j
          by_cases hj : j ∈ s.health.registry.entries.map Prod.fst
          · rw [if_pos hj] at hseen halarms
            rw [hseen, halarms]
            exact Watchdog.look_congr _ _ rfl rfl rfl rfl
          · rw [if_neg hj] at hseen halarms
            have hunseen : s.watchdog.seen j = none := seen_eq_none hj
            have hquiet := Watchdog.look_unwatched e.cfg.health.wedgedTimeoutMs
              e.cfg.health.heartbeatMs s.isMarkedForRecycling hunseen
            rw [hseen, halarms, hquiet.1, hquiet.2]
            exact ⟨hunseen, rfl⟩
        rw [hstep]
        refine congrArg some (Watchdog.ext ?_ ?_ ?_ ?_).symm
        · exact (checkWedgedAll_clock _ x).1
        · exact funext fun j => (hward j).1
        · exact (checkWedgedAll_clock _ x).2
        · exact funext fun j => (hward j).2
    · cases h

/-! ## Every action -/

theorem watchdog_left (id now : Nat) (v : Watch) : (v.left id).watchdog now =
    { v.watchdog now with seen := Function.update (v.watchdog now).seen id none } := by
  refine Watchdog.ext rfl (funext fun j => ?_) rfl rfl
  by_cases hj : j = id
  · subst hj
    simp [Watch.watchdog, Watch.left, OrdMap.get?_delete]
  · simp [Watch.watchdog, Watch.left, OrdMap.get?_delete, hj]

theorem watchdog_heard (id now : Nat) (report : WorkerHealthReport) (v : Watch) :
    (v.heard id now report).watchdog now =
      { v.watchdog now with seen := Function.update (v.watchdog now).seen id (some now) } := by
  refine Watchdog.ext rfl (funext fun j => ?_) rfl rfl
  by_cases hj : j = id
  · subst hj
    simp [Watch.watchdog, Watch.heard, OrdMap.get?_set]
  · simp [Watch.watchdog, Watch.heard, OrdMap.get?_set, hj]

theorem watchdog_of_watch (hnow : t.now = s.now) (hwatch : t.watch = s.watch) :
    t.watchdog = s.watchdog := by
  unfold State.watchdog
  rw [hnow, hwatch]

theorem State.RollsOn.watchdog (h : RollsOn s t) : t.watchdog = s.watchdog :=
  watchdog_of_watch (congrArg Suspended.now h) (congrArg Suspended.watch h)

theorem State.WindsDown.watchdog (h : WindsDown s t) : t.watchdog = s.watchdog :=
  watchdog_of_watch (congrArg Suspended.now h) (congrArg Suspended.watch h)

/-- A heartbeat of a worker that has not exited is heard. -/
theorem onHealthMessage_heard {id : Nat} {msg : Option Message}
    (hm : heartbeatLag e.cfg msg ≠ none) (hx : id ∉ s.health.exitedWorkerIds) :
    ∃ report, (s.onHealthMessage e id msg).watch = s.watch.heard id s.now report ∧
      (s.onHealthMessage e id msg).now = s.now := by
  obtain ⟨rss, heapUsed, lag, hmsg⟩ := heartbeatLag_ne_none hm
  rcases onHealthMessage_cases (e := e) id msg s with ⟨-, hignored⟩ | ⟨_, _, _, -, -, h⟩
  · exact absurd (hignored _ _ _ hmsg) hx
  · exact ⟨_, congrArg Suspended.watch h, congrArg Suspended.now h⟩

theorem workerExitListeners_watchdog (id : Nat) (s : State) :
    (s.workerExitListeners e id).watchdog = s.watchdog := by
  have hreplaced := watchdog_of_suspended
    (suspended_of_still (onReplacementExit_still (e := e) id s))
  have hrolled := (onRolledWorkerExit_rollWaits id (s.onReplacementExit e id)).rollsOn.watchdog
  have hsettled := (settleAck_waitsOn id
    (((s.onReplacementExit e id).onRolledWorkerExit id).clearKillTimers id)).windsDown.watchdog
  exact hsettled.trans (hrolled.trans hreplaced)

/-- The watch forgets who exits, as long as the manager listens. -/
theorem workerExit_watchdog {id : Nat} {code : Option Int} {signal : Option String}
    (h : s.workerExit e id code signal = some t) :
    ((s.markDead id).workerExitListeners e id).manager.disposed = true ∧
        t.watchdog = s.watchdog ∨
      t.watchdog = { s.watchdog with seen := Function.update s.watchdog.seen id none } := by
  unfold State.workerExit at h
  split at h
  · cases h
  · have hlisteners := workerExitListeners_watchdog (e := e) id (s.markDead id)
    dsimp only at h
    split at h <;> cases h
    · rename_i hdisposed
      exact .inl ⟨hdisposed, hlisteners⟩
    · obtain ⟨graceful, hhandled⟩ := handleWorkerExit_suspended (e := e) id code signal
        (((s.markDead id).workerExitListeners e id).cleanupWorker id)
      have hleft := congrArg (fun z : Suspended => z.watch.watchdog z.now) hhandled
      refine .inr (hleft.trans ((watchdog_left ..).trans ?_))
      have hbefore : s.watchdog = ((s.markDead id).workerExitListeners e id).watchdog :=
        hlisteners.symm
      rw [hbefore]
      rfl

/-- A message is a beat exactly if it is a heartbeat and the monitor has not noted the
worker's exit. -/
theorem workerMessage_watchdog {id : Nat} {msg : Option Message}
    (h : s.workerMessage e id msg = some t) :
    (heartbeatLag e.cfg msg = none ∨ id ∈ s.health.exitedWorkerIds) ∧ t.watchdog = s.watchdog ∨
      heartbeatLag e.cfg msg ≠ none ∧ id ∉ s.health.exitedWorkerIds ∧ t.watchdog =
        { s.watchdog with seen := Function.update s.watchdog.seen id (some s.watchdog.now) } := by
  unfold State.workerMessage at h
  split at h
  · cases h
  · cases h
    rw [(onAckMessage_waitsOn (e := e) id msg (s.onHealthMessage e id msg)).windsDown.watchdog]
    by_cases hig : heartbeatLag e.cfg msg = none ∨ id ∈ s.health.exitedWorkerIds
    · refine .inl ⟨hig, ?_⟩
      rw [onHealthMessage_eq, HealthMonitor.onWorkerMessage_ignored hig]
      rfl
    · obtain ⟨hm, hx⟩ := not_or.mp hig
      refine .inr ⟨hm, hx, ?_⟩
      obtain ⟨report, hheard, hnow⟩ := onHealthMessage_heard hm hx
      refine Eq.trans ?_ (watchdog_heard id s.now report s.watch)
      rw [State.watchdog, hheard, hnow]

/-- What an action does to the watchdog: nothing, or what it is to it. -/
def Watches (e : Host) (a : Action) (s t : State) : Prop :=
  t.watchdog = s.watchdog ∨ ∃ input, Feeds e s a input ∧
    s.watchdog.step e.cfg.health.wedgedTimeoutMs e.cfg.health.heartbeatMs input = some t.watchdog

namespace Watches

theorem fire {timer : Timer} (h : s.fire e timer = some t) : Watches e (.timer timer) s t := by
  cases fire_fired h with
  | aside hsame => exact .inl (watchdog_of_suspended hsame)
  | wedgedWatch => exact .inr (wedgedWatch_watchdog h)
  | exitWait hwaits | exitGrace hwaits => exact .inl hwaits.rollsOn.watchdog
  | rollStagger hroll => exact .inl hroll.watchdog
  | ackTimeout _ hdown | killDelay _ hdown | shutdownExit hdown => exact .inl hdown.watchdog

theorem resume {c : Continuation} (h : s.resume e c = some t) : Watches e (.resume c) s t := by
  cases resume_resumed h with
  | restartQueue hsame => exact .inl (watchdog_of_suspended hsame)
  | rollExited hroll | rollReturned hroll => exact .inl hroll.watchdog
  | acksSettled hdown | exitWaitOver hdown | killsDone hdown | callbacksDone hdown =>
    exact .inl hdown.watchdog

theorem workerExit {id : Nat} {code : Option Int} {signal : Option String}
    (h : s.workerExit e id code signal = some t) :
    Watches e (.workerExit id code signal) s t := by
  rcases workerExit_watchdog h with ⟨-, hsame⟩ | hleft
  · exact .inl hsame
  · exact .inr ⟨.forget id, .left id code signal, congrArg some hleft.symm⟩

theorem shutdownPrimary (signal : String) : Watches e (.shutdownPrimary signal) s
    (s.shutdownPrimary e signal) := by
  unfold State.shutdownPrimary
  split
  · exact .inl rfl
  · rename_i hs
    refine .inr ⟨.stop, .stopped signal (Bool.eq_false_iff.mpr hs), ?_⟩
    rfl

theorem workerMessage {id : Nat} {msg : Option Message} (h : s.workerMessage e id msg = some t) :
    Watches e (.workerMessage id msg) s t := by
  rcases workerMessage_watchdog h with ⟨-, hsame⟩ | ⟨hm, -, hbeat⟩
  · exact .inl hsame
  · exact .inr ⟨.beat id, .heard id msg hm, congrArg some hbeat.symm⟩

theorem pluginsInstalled (h : s.act e .pluginsInstalled = some t) :
    Watches e .pluginsInstalled s t := by
  obtain ⟨hi, rfl⟩ := pluginsInstalled_outcome h
  rcases startPrimary_suspended (e := e) (s.resolveWorkerCount e) s with
    ⟨hsame, -⟩ | ⟨hon, harmed⟩
  · exact .inl (watchdog_of_suspended hsame)
  · refine .inr ⟨.start, .started hi hon, congrArg some ?_⟩
    exact (congrArg (fun z : Suspended => z.watch.watchdog z.now) harmed).symm

end Watches

/-- **Refinement.** Every segment of the primary is a step of its watchdog, or none. -/
theorem act_watches (h : s.act e a = some t) : Watches e a s t := by
  cases act_acted h with
  | aside hsame => exact .inl (watchdog_of_suspended hsame)
  | tick ms => cases h; exact .inr ⟨.tick ms, .tick ms, rfl⟩
  | pluginsInstalled => exact .pluginsInstalled h
  | restartWorkers _ hroll => exact .inl hroll.watchdog
  | shutdownPrimary signal => cases h; exact .shutdownPrimary signal
  | workerExit => exact .workerExit h
  | workerDisconnected _ hdown | workerError _ hdown => exact .inl hdown.watchdog
  | workerMessage => exact .workerMessage h
  | timer => exact .fire h
  | resume => exact .resume h

/-! ## Who falls silent -/

/-- A fleet that has started stays started. -/
theorem Piece.stays_started (ha : a ≠ .pluginsInstalled) (h : Piece e a s t)
    (hstarted : s.orch.runPhase = .started) : t.orch.runPhase = .started := by
  rcases h with hm | hb
  · cases hm with
    | drained r hr hd hs hwhy =>
      rw [drainOldWorker_eq]
      exact hstarted
    | phase p hp =>
      rcases hp with ⟨hp, -⟩ | ⟨hp, -⟩ <;> cases hstarted.symm.trans hp
    | shutdown t hs hm =>
      rw [hm.keeps.orch]
      exact hstarted
    | _ => exact hstarted
  · cases hb with
    | forking | initialFailed | initialForked | ran => exact absurd rfl ha
    | crashed => rw [noteCrash_eq]; exact hstarted
    | queued => rw [queueCrash_eq]; exact hstarted
    | resetRefilled | rollRefilled => rw [queueRefill_eq]; exact hstarted
    | shutdownEntered _ signal hs =>
      exact (shutdownPrimary_entered (e := e) signal hs).phase.1.trans hstarted
    | _ => exact hstarted

theorem act_stays_started (hw : WellFormed s) (h : s.act e a = some t)
    (hstarted : s.orch.runPhase = .started) : t.orch.runPhase = .started := by
  by_cases ha : a = .pluginsInstalled
  · subst ha
    obtain ⟨hi, -⟩ := pluginsInstalled_outcome h
    cases hi.symm.trans hstarted
  · exact (act_pieces hw h).preserves hw (fun _ _ _ hx hp => hp.stays_started ha hx) hstarted

/-- Started, not shutting down, and the watch runs. -/
structure OnWatch (s : State) : Prop where
  started : s.orch.runPhase = .started
  shutting : s.isShuttingDown = false
  armed : s.health.wedgedTimer ≠ none

theorem act_shutting_eq (hw : WellFormed s) (ha : ∀ signal, a ≠ .shutdownPrimary signal)
    (h : s.act e a = some t) : t.isShuttingDown = s.isShuttingDown :=
  (act_pieces hw h).preserves (P := fun x => x.isShuttingDown = s.isShuttingDown) hw
    (fun _ _ _ hx hp => (hp.shutting_eq ha).trans hx) rfl

theorem Feeds.keeps_due {input : WatchdogInput Nat} (h : Feeds e s a input)
    (ha : ∀ signal, a ≠ .shutdownPrimary signal)
    (hstep : s.watchdog.step e.cfg.health.wedgedTimeoutMs e.cfg.health.heartbeatMs input =
      some t.watchdog) (harmed : s.health.wedgedTimer ≠ none) : t.health.wedgedTimer ≠ none := by
  show t.watchdog.due ≠ none
  cases h with
  | stopped signal => exact absurd rfl (ha signal)
  | tick | heard | left =>
    rw [← Option.some.inj hstep]
    exact harmed
  | started | rearmed =>
    rw [← Option.some.inj hstep]
    exact Option.some_ne_none _
  | looked =>
    simp only [Watchdog.step] at hstep
    split at hstep
    · cases hstep
    · split at hstep
      · rw [← Option.some.inj hstep]
        exact Option.some_ne_none _
      · cases hstep

theorem OnWatch.act (h : OnWatch s) (hw : WellFormed s)
    (ha : ∀ signal, a ≠ .shutdownPrimary signal) (hact : s.act e a = some t) : OnWatch t where
  started := act_stays_started hw hact h.started
  shutting := (act_shutting_eq hw ha hact).trans h.shutting
  armed := by
    rcases act_watches hact with heq | ⟨input, hfeeds, hstep⟩
    · show t.watchdog.due ≠ none
      rw [heq]
      exact h.armed
    · exact hfeeds.keeps_due ha hstep h.armed

/-- The watch of a started fleet runs until the shutdown, if it is configured. -/
theorem onWatch_of_started {count : WorkerCount} {env : ProcessEnv}
    (h : (orchestrator e count env).Reachable s) (hon : e.cfg.health.wedgedTimeoutMs ≠ 0)
    (hstarted : s.orch.runPhase = .started) (hs : s.isShuttingDown = false) : OnWatch s := by
  refine run_preserves (P := fun x => x.orch.runPhase = .started → x.isShuttingDown = false →
    OnWatch x) h (fun hp => by cases hp) (fun x a y hw hx _ hact hstarted hs => ?_) hstarted hs
  by_cases ha : a = .pluginsInstalled
  · subst ha
    obtain ⟨-, rfl⟩ := pluginsInstalled_outcome hact
    refine ⟨hstarted, hs, ?_⟩
    rcases startPrimary_suspended (e := e) (x.resolveWorkerCount e) x with ⟨-, hoff⟩ | ⟨-, harmed⟩
    · exact absurd (hoff hstarted) hon
    · have htimer := congrArg (fun z : Suspended => z.watch.wedgedTimer) harmed
      exact fun hnone => Option.some_ne_none _ (htimer.symm.trans hnone)
  · have hbefore : x.orch.runPhase = .started := by
      by_contra hne
      exact (act_pieces hw hact).preserves (P := fun z => z.orch.runPhase ≠ .started) hw
        (fun _ _ hwz hz hp hy => hz (hp.started_target hwz ha hy).1) hne hstarted
    have hx' : OnWatch x := hx hbefore ((act_pieces hw hact).later.not_shutting hs)
    refine hx'.act hw (fun signal heq => ?_) hact
    subst heq
    cases hact
    have hentered := shutdownPrimary_entered (e := e) signal hx'.shutting
    rw [State.isShuttingDown, hentered.shutdown] at hs
    cases hs

/-- A look for wedged workers is not late. -/
def State.watchOnTime (s : State) : Action → Bool
  | .tick ms => s.health.wedgedTimer.all fun due => decide (s.now + ms ≤ due)
  | _ => true

/-- The worker `id` neither reports nor exits, nobody recycles it when the watch looks at it,
and the primary does not shut down. -/
def State.fallsSilent (e : Host) (id : Nat) (s : State) : Action → Bool
  | .shutdownPrimary _ => false
  | .workerExit j _ _ => decide (j ≠ id)
  | .workerMessage j msg => decide (j ≠ id) || (heartbeatLag e.cfg msg).isNone
  | .timer .wedgedWatch => !s.isMarkedForRecycling id
  | _ => true

theorem Feeds.onTime {input : WatchdogInput Nat} (h : Feeds e s a input)
    (hok : s.watchOnTime a = true) : s.watchdog.onTime input = true := by
  cases h with
  | tick ms => exact hok
  | _ => rfl

theorem Feeds.silentOn {input : WatchdogInput Nat} {id : Nat} (h : Feeds e s a input)
    (hx : OnWatch s) (hok : s.fallsSilent e id a = true) :
    Watchdog.silentOn id input = true := by
  cases h with
  | tick => rfl
  | started hi => cases hi.symm.trans hx.started
  | rearmed hs => cases hs.symm.trans hx.shutting
  | stopped => cases hok
  | heard j msg hm =>
    simp only [State.fallsSilent, Option.isNone_iff_eq_none, Bool.or_eq_true] at hok
    exact hok.resolve_right hm
  | left => exact hok
  | looked => exact hok

/-- **Completeness of the watch.** A worker that has just reported and falls silent is
reported as wedged exactly once, within the timeout and one period of the watch. -/
theorem silent_worker_reported (e : Host) (count : WorkerCount) (env : ProcessEnv) (s u : State)
    (id : Nat) (h : (orchestrator e count env).Run (fun x a => x.watchOnTime a = true)
      (State.initial e count env) s)
    (hon : e.cfg.health.wedgedTimeoutMs ≠ 0) (hstarted : s.orch.runPhase = .started)
    (hs : s.isShuttingDown = false) (hheard : s.watchdog.seen id = some s.now)
    (hrun : (orchestrator e count env).Run
      (fun x a => x.fallsSilent e id a = true ∧ x.watchOnTime a = true) s u)
    (hlate : s.now + e.cfg.health.wedgedTimeoutMs + e.cfg.health.heartbeatMs < u.now) :
    ∃ ms, u.watchdog.alarms id = ms :: s.watchdog.alarms id ∧
      e.cfg.health.wedgedTimeoutMs < ms ∧
      ms ≤ e.cfg.health.wedgedTimeoutMs + e.cfg.health.heartbeatMs := by
  have hx : OnWatch s := onWatch_of_started h.reachable hon hstarted hs
  obtain ⟨due, hdue⟩ := Option.ne_none_iff_exists'.mp hx.armed
  -- the watchdog runs on time up to `s`
  have hbefore : (watchdog Nat e.cfg.health.wedgedTimeoutMs e.cfg.health.heartbeatMs).Run
      (fun w input => w.onTime input = true)
      (watchdog Nat e.cfg.health.wedgedTimeoutMs e.cfg.health.heartbeatMs).init s.watchdog := by
    refine Run.project (f := State.watchdog) h fun x a y hok hstep => ?_
    rcases act_watches (orchestrator_step hstep) with heq | ⟨input, hfeeds, hinput⟩
    · rw [heq]
      exact .refl
    · exact .single (hfeeds.onTime hok) hinput
  have hsoon := Watchdog.due_soon hbefore hdue
  -- the watch goes on to `u`
  have hwatched : (orchestrator e count env).Run (fun x a =>
      (x.fallsSilent e id a = true ∧ x.watchOnTime a = true) ∧ OnWatch x) s u := by
    refine hrun.recall fun x hrunx => ?_
    refine hrunx.preserves_of (P := OnWatch) (Q := WellFormed) h.reachable
      (fun _ hy => reachable_wellFormed hy) (fun y a z hw hy hok hstep => ?_) hx
    refine hy.act hw (fun signal heq => ?_) (orchestrator_step hstep)
    subst heq
    cases hok.1
  have hafter : (watchdog Nat e.cfg.health.wedgedTimeoutMs e.cfg.health.heartbeatMs).Run
      (fun w input => Watchdog.silentOn id input = true ∧ w.onTime input = true)
      s.watchdog u.watchdog := by
    refine Run.project (f := State.watchdog) hwatched fun x a y hok hstep => ?_
    rcases act_watches (orchestrator_step hstep) with heq | ⟨input, hfeeds, hinput⟩
    · rw [heq]
      exact .refl
    · exact .single ⟨hfeeds.silentOn hok.2 hok.1.1, hfeeds.onTime hok.1.2⟩ hinput
  exact Watchdog.silent_reported hheard hdue hsoon.1 hsoon.2 hafter hlate

/-- A worker reports once; the fourth look finds it silent. -/
theorem silent_worker_reported_at_fourth_look :
    let e : Host := { cfg := { health := { heartbeatMs := 100, wedgedTimeoutMs := 250 } } }
    ∃ s u : State, ∃ ms, u.watchdog.alarms 1 = ms :: s.watchdog.alarms 1 ∧
      e.cfg.health.wedgedTimeoutMs < ms ∧ ms ≤ 350 := by
  intro e
  obtain ⟨s, hs, htest⟩ := StepSystem.exists_run_of_any (orchestrator e (.fixed 1) fun _ => none)
    (State.initial e (.fixed 1) fun _ => none) State.watchOnTime
    [.run, .pluginsInstalled, .workerOnline 1, .tick 50,
      .workerMessage 1 (some ⟨"__wm:hb", some 1, some 1, some 0⟩)]
    (fun s => decide (s.orch.runPhase = .started) && !s.isShuttingDown &&
      decide (s.watchdog.seen 1 = some s.now) &&
      ((orchestrator e (.fixed 1) fun _ => none).exec
        (fun x a => x.fallsSilent e 1 a && x.watchOnTime a) s
        [.tick 50, .timer .wedgedWatch, .tick 100, .timer .wedgedWatch, .tick 100,
          .timer .wedgedWatch, .tick 100, .timer .wedgedWatch, .tick 1]).any
        fun u => decide (s.now + 350 < u.now)) (by decide +kernel)
  simp only [Bool.and_eq_true, decide_eq_true_eq, Bool.not_eq_true'] at htest
  obtain ⟨⟨⟨hstarted, hshutting⟩, hheard⟩, hrest⟩ := htest
  obtain ⟨u, hu, hlate⟩ := StepSystem.exists_run_of_any _ s _ _ _ hrest
  rw [decide_eq_true_eq] at hlate
  have hrun := hu.mono fun x a hok => Bool.and_eq_true_iff.mp hok
  exact ⟨s, u, silent_worker_reported e _ _ s u 1 hs (by decide) hstarted hshutting hheard hrun
    (by show s.now + 250 + 100 < u.now; omega)⟩

end ClusterKit
