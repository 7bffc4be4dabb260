import ClusterKit.HealthView
import ClusterKit.LagPolicy

/-! When a `worker:health` event can follow the `worker:exit` of the same worker. The
monitor remembers the workers whose exit it has seen, and `stop()` makes it forget them
while messages still come in: the set it holds is what the event log says happened since
the start of the shutdown. -/

namespace ClusterKit

open State

variable {e : Host} {s t : State} {id : Nat}

/-! ## What the event log says -/

/-- `worker:exit` was emitted for the worker. -/
def exitEmitted (id : Nat) (events : List Event) : Bool :=
  events.any fun
    | .workerExit workerId .. => workerId == id
    | _ => false

/-- It was emitted before a shutdown started. -/
def exitedBeforeShutdown (id : Nat) : List Event → Bool
  | [] => false
  | .shutdownStart _ :: earlier => exitEmitted id earlier
  | _ :: earlier => exitedBeforeShutdown id earlier

/-- No `worker:health` event follows the `worker:exit` of its worker. -/
def QuietAfterExit : List Event → Prop
  | [] => True
  | .workerHealth report :: earlier =>
    exitEmitted report.workerId earlier = false ∧ QuietAfterExit earlier
  | _ :: earlier => QuietAfterExit earlier

/-- The workers whose exit was emitted since the last shutdown started. -/
def exitsNoted : List Event → Finset Nat
  | [] => ∅
  | .workerExit workerId .. :: earlier => insert workerId (exitsNoted earlier)
  | .shutdownStart _ :: _ => ∅
  | _ :: earlier => exitsNoted earlier

theorem exitEmitted_cons (ev : Event) (earlier : List Event) :
    exitEmitted id (ev :: earlier) =
      ((match ev with
        | .workerExit workerId .. => workerId == id
        | _ => false) || exitEmitted id earlier) := rfl

/-- Only the viewed events matter. -/
theorem exitEmitted_filter (id : Nat) (events : List Event) :
    exitEmitted id (events.filter Event.viewed) = exitEmitted id events := by
  induction events with
  | nil => rfl
  | cons ev earlier ih =>
    rw [exitEmitted_cons, ← ih]
    cases ev <;> rfl

theorem exitedBeforeShutdown_filter (id : Nat) (events : List Event) :
    exitedBeforeShutdown id (events.filter Event.viewed) = exitedBeforeShutdown id events := by
  induction events with
  | nil => rfl
  | cons ev earlier ih =>
    cases ev with
    | shutdownStart => exact exitEmitted_filter id earlier
    | _ => exact ih

theorem quietAfterExit_filter (events : List Event) :
    QuietAfterExit (events.filter Event.viewed) ↔ QuietAfterExit events := by
  induction events with
  | nil => exact Iff.rfl
  | cons ev earlier ih =>
    cases ev with
    | workerHealth report =>
      show _ ∧ _ ↔ _ ∧ _
      rw [exitEmitted_filter, ih]
    | _ => exact ih

/-- An emitted exit is noted, or it was emitted before the shutdown. -/
theorem exitEmitted_iff (id : Nat) (events : List Event) :
    exitEmitted id events = true → id ∈ exitsNoted events ∨ exitedBeforeShutdown id events = true := by
  induction events with
  | nil => exact fun h => absurd h Bool.false_ne_true
  | cons ev earlier ih =>
    intro h
    rw [exitEmitted_cons] at h
    cases ev with
    | workerExit workerId code signal graceful =>
      rcases Bool.or_eq_true_iff.mp h with h | h
      · exact Or.inl (Finset.mem_insert.mpr (Or.inl (beq_iff_eq.mp h).symm))
      · exact (ih h).imp (Finset.mem_insert_of_mem) fun h => h
    | shutdownStart => exact Or.inr h
    | _ => exact ih h

theorem exitedBeforeShutdown_emitted {events : List Event}
    (h : exitedBeforeShutdown id events = true) : exitEmitted id events = true := by
  induction events with
  | nil => exact absurd h Bool.false_ne_true
  | cons ev earlier ih =>
    rw [exitEmitted_cons]
    cases ev with
    | shutdownStart => exact h
    | workerExit workerId code signal graceful => simp [ih h]
    | _ => exact ih h

/-! ## The three segments that write the view -/

namespace HealthView

def stop (signal : String) (v : HealthView) : HealthView :=
  { exitedWorkerIds := ∅, isShuttingDown := true, events := .shutdownStart signal :: v.events }

end HealthView

/-- A message emits a health event exactly if it is a heartbeat and the monitor has not
noted the worker's exit. -/
theorem workerMessage_view {msg : Option Message} (h : s.workerMessage e id msg = some t) :
    (heartbeatLag e.cfg msg = none ∨ id ∈ s.health.exitedWorkerIds) ∧
        t.healthView = s.healthView ∨
      heartbeatLag e.cfg msg ≠ none ∧ id ∉ s.health.exitedWorkerIds ∧
        ∃ r : WorkerHealthReport, r.workerId = id ∧ t.healthView = s.healthView.report r := by
  rw [workerMessage] at h
  split at h
  · cases h
  · obtain rfl := Option.some.inj h
    rw [healthView_eq (onAckMessage_waitsOn (e := e) id msg _).windsDown.views]
    by_cases hig : heartbeatLag e.cfg msg = none ∨ id ∈ s.health.exitedWorkerIds
    · rw [onHealthMessage_eq, HealthMonitor.onWorkerMessage_ignored hig]
      exact Or.inl ⟨hig, rfl⟩
    · obtain ⟨hm, hx⟩ := not_or.mp hig
      obtain ⟨rss, heapUsed, lag, hmsg⟩ := heartbeatLag_ne_none hm
      rcases onHealthMessage_cases (e := e) id msg s with ⟨-, hignored⟩ | ⟨_, _, _, -, -, h⟩
      · exact absurd (hignored _ _ _ hmsg) hx
      · exact Or.inr ⟨hm, hx, _, rfl, congrArg Suspended.health h⟩

/-- An exit is emitted and noted, unless the manager has been disposed of. -/
theorem workerExit_view {code : Option Int} {signal : Option String}
    (h : s.workerExit e id code signal = some t) :
    s.alive id ∧ (((s.markDead id).workerExitListeners e id).manager.disposed = true ∧
        t.healthView = s.healthView ∨
      ∃ graceful, t.healthView = s.healthView.exit id code signal graceful) := by
  rw [workerExit] at h
  split at h
  · cases h
  · rename_i hd
    refine ⟨Bool.eq_false_iff.mpr hd, ?_⟩
    have hm : ((s.markDead id).workerExitListeners e id).healthView = s.healthView :=
      healthView_eq (workerExitListeners_views id (s.markDead id))
    dsimp only at h
    split at h <;> cases h
    · rename_i hdisposed
      exact Or.inl ⟨hdisposed, hm⟩
    · obtain ⟨graceful, hhandled⟩ := handleWorkerExit_suspended (e := e) id code signal
        (((s.markDead id).workerExitListeners e id).cleanupWorker id)
      refine Or.inr ⟨graceful, (congrArg Suspended.health hhandled).trans ?_⟩
      exact congrArg (HealthView.exit id code signal graceful) hm

theorem shutdownPrimary_view (signal : String) (s : State) :
    (s.isShuttingDown = true ∧ (s.shutdownPrimary e signal).healthView = s.healthView) ∨
      s.isShuttingDown = false ∧
        (s.shutdownPrimary e signal).healthView = s.healthView.stop signal := by
  unfold shutdownPrimary
  split
  · rename_i hs
    exact Or.inl ⟨hs, rfl⟩
  · rename_i hs
    exact Or.inr ⟨Bool.eq_false_iff.mpr hs, rfl⟩

/-! ## What the monitor has noted -/

/-- The monitor's set is what the log says, and so is a shutdown; a worker whose exit was
emitted is gone, and its exit is not emitted again. -/
structure HealthView.Followed (gone : Nat → Prop) (v : HealthView) : Prop where
  noted : v.exitedWorkerIds = exitsNoted v.events
  dead : ∀ id, exitEmitted id v.events = true → gone id
  once : ∀ id, exitedBeforeShutdown id v.events = true → id ∉ exitsNoted v.events

namespace HealthView.Followed

variable {gone gone' : Nat → Prop} {v : HealthView}

theorem mono (h : v.Followed gone) (hg : ∀ id, gone id → gone' id) : v.Followed gone' :=
  { h with dead := fun id hid => hg id (h.dead id hid) }

theorem report (h : v.Followed gone) (r : WorkerHealthReport) : (v.report r).Followed gone :=
  ⟨h.noted, h.dead, h.once⟩

theorem exit (h : v.Followed gone) (hg : ∀ id, gone id → gone' id) (hid : ¬ gone id)
    (hid' : gone' id) (code : Option Int) (signal : Option String) (graceful : Bool) :
    (v.exit id code signal graceful).Followed gone' where
  noted := congrArg (insert id) h.noted
  dead j hj := by
    rcases Bool.or_eq_true_iff.mp hj with hj | hj
    · exact beq_iff_eq.mp hj ▸ hid'
    · exact hg j (h.dead j hj)
  once j hj := by
    have hne : j ≠ id := fun heq =>
      hid (h.dead id (exitedBeforeShutdown_emitted (heq ▸ hj)))
    exact fun hin => (Finset.mem_insert.mp hin).elim hne (h.once j hj)

theorem stop (h : v.Followed gone) (signal : String) : (v.stop signal).Followed gone where
  noted := rfl
  dead := h.dead
  once _ _ := Finset.notMem_empty _

end HealthView.Followed

theorem act_followed (hw : WellFormed s) {a : Action} (hf : s.healthView.Followed s.gone)
    (h : s.act e a = some t) : t.healthView.Followed t.gone := by
  have hg : ∀ id, s.gone id → t.gone id := ((act_pieces hw h).later).gone
  cases hv : a.changesView with
  | false =>
    rw [act_view hv h]
    exact hf.mono hg
  | true =>
    cases a with
    | workerMessage id msg =>
      rcases workerMessage_view h with ⟨-, heq⟩ | ⟨-, -, r, -, heq⟩
      · rw [heq]
        exact hf.mono hg
      · rw [heq]
        exact (hf.mono hg).report r
    | workerExit id code signal =>
      obtain ⟨ha, ⟨-, heq⟩ | ⟨graceful, heq⟩⟩ := workerExit_view h
      · rw [heq]
        exact hf.mono hg
      · rw [heq]
        exact hf.exit hg (fun hid => absurd (ha.symm.trans hid.2) Bool.false_ne_true)
          (workerExit_gone hw h) code signal graceful
    | shutdownPrimary signal =>
      obtain rfl := Option.some.inj h
      rcases shutdownPrimary_view (e := e) signal s with ⟨-, heq⟩ | ⟨-, heq⟩
      · rw [heq]
        exact hf.mono hg
      · rw [heq]
        exact (hf.mono hg).stop signal
    | _ => cases hv

theorem reachable_followed {count : WorkerCount} {env : ProcessEnv}
    (h : (orchestrator e count env).Reachable s) : s.healthView.Followed s.gone := by
  apply run_preserves (P := fun s => s.healthView.Followed s.gone) h
  · exact ⟨rfl, fun _ h => absurd h Bool.false_ne_true, fun _ h => absurd h Bool.false_ne_true⟩
  · intro x a y hw hx _ hs
    exact act_followed hw hx hs

/-! ## The law -/

/-- A heartbeat of a worker whose exit was emitted before the shutdown started. -/
def lateHeartbeat (e : Host) (s : State) : Action → Bool
  | .workerMessage id msg => (heartbeatLag e.cfg msg).isSome && exitedBeforeShutdown id s.events
  | _ => false

/-- **Step lemma.** A segment keeps the log quiet exactly if it is not a late heartbeat. -/
theorem act_quiet_iff {a : Action} (hf : s.healthView.Followed s.gone) (h : s.act e a = some t) :
    QuietAfterExit t.events ↔ QuietAfterExit s.events ∧ (!lateHeartbeat e s a) = true := by
  rw [← quietAfterExit_filter t.events, ← quietAfterExit_filter s.events]
  show QuietAfterExit t.healthView.events ↔ QuietAfterExit s.healthView.events ∧ _
  have quiet (hl : lateHeartbeat e s a = false)
      (heq : QuietAfterExit t.healthView.events ↔ QuietAfterExit s.healthView.events) :
      QuietAfterExit t.healthView.events ↔
        QuietAfterExit s.healthView.events ∧ (!lateHeartbeat e s a) = true := by
    rw [hl, heq]
    exact (and_iff_left rfl).symm
  cases hv : a.changesView with
  | false =>
    have hl : lateHeartbeat e s a = false := by cases a <;> first | rfl | cases hv
    exact quiet hl (by rw [act_view hv h])
  | true =>
    cases a with
    | workerMessage id msg =>
      have hlate : lateHeartbeat e s (.workerMessage id msg) =
          ((heartbeatLag e.cfg msg).isSome && exitedBeforeShutdown id s.healthView.events) :=
        congrArg (_ && ·) (exitedBeforeShutdown_filter id s.events).symm
      have hnoted : s.health.exitedWorkerIds = exitsNoted s.healthView.events := hf.noted
      rcases workerMessage_view h with ⟨hig, heq⟩ | ⟨hm, hx, r, hr, heq⟩
      · refine quiet ?_ (by rw [heq])
        rw [hlate]
        rcases hig with hm | hx
        · rw [hm]
          rfl
        · rw [hnoted] at hx
          cases hb : exitedBeforeShutdown id s.healthView.events with
          | false => exact Bool.and_false _
          | true => exact absurd hx (hf.once id hb)
      · rw [hnoted] at hx
        have hemitted : exitEmitted id s.healthView.events =
            exitedBeforeShutdown id s.healthView.events := by
          rw [Bool.eq_iff_iff]
          exact ⟨fun h => (exitEmitted_iff id _ h).resolve_left hx, exitedBeforeShutdown_emitted⟩
        have hbeat : (heartbeatLag e.cfg msg).isSome = true := Option.isSome_iff_ne_none.mpr hm
        rw [heq, hlate, hbeat, Bool.true_and, ← hemitted, ← hr]
        show exitEmitted r.workerId s.healthView.events = false ∧ _ ↔ _
        rw [and_comm, Bool.not_eq_true']
    | workerExit id code signal =>
      obtain ⟨-, ⟨-, heq⟩ | ⟨graceful, heq⟩⟩ := workerExit_view h
      · exact quiet rfl (by rw [heq])
      · exact quiet rfl (by rw [heq]; rfl)
    | shutdownPrimary signal =>
      obtain rfl := Option.some.inj h
      rcases shutdownPrimary_view (e := e) signal s with ⟨-, heq⟩ | ⟨-, heq⟩
      · exact quiet rfl (by rw [heq])
      · exact quiet rfl (by rw [heq]; rfl)
    | _ => cases hv

/-- **No health event after the exit, exactly when.** A run of the primary leaves a log in
which no `worker:health` event follows the `worker:exit` of its worker exactly if none of
its segments was a heartbeat of a worker whose exit was emitted before the shutdown
started. -/
theorem quietAfterExit_iff (e : Host) (count : WorkerCount) (env : ProcessEnv)
    (as : List Action) (s : State)
    (h : (orchestrator e count env).exec (fun _ _ => true) (State.initial e count env) as = some s) :
    QuietAfterExit s.events ↔
      (orchestrator e count env).exec (fun s a => !lateHeartbeat e s a) (State.initial e count env)
        as = some s := by
  have hstep : ∀ x a y, (orchestrator e count env).Reachable x →
      (orchestrator e count env).step x a = some y →
        (QuietAfterExit y.events ↔ QuietAfterExit x.events ∧ (!lateHeartbeat e x a) = true) :=
    fun x a y hx hs => act_quiet_iff (reachable_followed hx) (orchestrator_step hs)
  rw [StepSystem.exec_guard_iff (P := fun s : State => QuietAfterExit s.events) hstep as .refl h]
  exact and_iff_right trivial

/-- A heartbeat, then the exit, then a heartbeat that the monitor drops. -/
theorem quietAfterExit_one_worker :
    ∃ s : State, s.events.length = 4 ∧ QuietAfterExit s.events := by
  let beat : Option Message := some ⟨"__wm:hb", some 1, some 1, some 1⟩
  let S := orchestrator {} (.fixed 1) fun _ => none
  let as : List Action := [.run, .pluginsInstalled, .workerOnline 1, .workerMessage 1 beat,
    .workerExit 1 (some 1) none, .workerMessage 1 beat]
  have hrun : (S.exec (fun s a => !lateHeartbeat {} s a) S.init as).any
      (fun s => decide (s.events.length = 4)) = true := by decide +kernel
  obtain ⟨s, hs, hlen⟩ := (Option.any_eq_true ..).mp hrun
  have hquiet := quietAfterExit_iff {} (.fixed 1) (fun _ => none) as s (StepSystem.exec_weaken hs)
  exact ⟨s, of_decide_eq_true hlen, hquiet.mpr hs⟩

/-- The last event reports the health of a worker that is out. -/
def endsLate : List Event → Bool
  | .workerHealth report :: earlier => exitEmitted report.workerId earlier
  | _ => false

/-- The worker crashes, the shutdown starts, and a heartbeat it had sent is delivered. -/
theorem health_after_exit :
    ¬ ∀ (e : Host) (count : WorkerCount) (env : ProcessEnv) (s : State),
      (orchestrator e count env).Reachable s → QuietAfterExit s.events := by
  intro h
  have hrun := StepSystem.exists_reachable_of_any (orchestrator {} (.fixed 1) fun _ => none)
    [.run, .pluginsInstalled, .workerOnline 1, .workerExit 1 (some 1) none,
      .shutdownPrimary "SIGTERM", .workerMessage 1 (some ⟨"__wm:hb", some 1, some 1, some 1⟩)]
    (fun s => endsLate s.events) (by decide +kernel)
  obtain ⟨s, hreach, hq⟩ := hrun
  have hquiet := h _ _ _ s hreach
  revert hq hquiet
  cases s.events with
  | nil => simp [endsLate]
  | cons ev earlier => cases ev <;> simp +contextual [endsLate, QuietAfterExit]

end ClusterKit
