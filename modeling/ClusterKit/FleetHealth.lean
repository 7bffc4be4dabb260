import ClusterKit.FleetProtocol
import ClusterKit.HealthEvents

/-! Heartbeats from end to end: a `worker:health` event of the primary reports a heartbeat
that the worker sent. The channel keeps the order, the monitor reports each heartbeat it
reads once, and it drops none while the worker's exit has not been emitted. -/

namespace ClusterKit

open State

variable {e : Host} {s t : State} {id : Nat}

/-! ## What the primary reports -/

/-- The report that the monitor reads out of a message, if it is a heartbeat. -/
def Message.report (cfg : ResolvedConfig) (id : Nat) (msg : Message) :
    Option WorkerHealthReport :=
  if msg.type = cfg.shutdown.heartbeatType then
    match msg.rss, msg.heapUsed, msg.eventLoopLagMs with
    | some rss, some heapUsed, some lag =>
      some { workerId := id, rss := rss, heapUsed := heapUsed, eventLoopLagMs := lag }
    | _, _, _ => none
  else none

theorem Message.report_workerId {cfg : ResolvedConfig} {msg : Message} {r : WorkerHealthReport}
    (h : msg.report cfg id = some r) : r.workerId = id := by
  unfold Message.report at h
  split at h
  · split at h
    · cases h
      rfl
    · cases h
  · cases h

/-- The health reports about a worker, newest first. -/
def healthReports (id : Nat) (events : List Event) : List WorkerHealthReport :=
  events.filterMap fun
    | .workerHealth report => if report.workerId = id then some report else none
    | _ => none

theorem healthReports_filter (id : Nat) (events : List Event) :
    healthReports id (events.filter Event.viewed) = healthReports id events := by
  induction events with
  | nil => rfl
  | cons ev earlier ih =>
    unfold healthReports at ih ⊢
    cases ev <;> simp [List.filter_cons, Event.viewed, List.filterMap_cons, ih]

theorem healthReports_cons_self {r : WorkerHealthReport} (hr : r.workerId = id)
    (events : List Event) :
    healthReports id (.workerHealth r :: events) = r :: healthReports id events := by
  simp [healthReports, hr]

theorem healthReports_cons_of_ne {r : WorkerHealthReport} (hr : r.workerId ≠ id)
    (events : List Event) :
    healthReports id (.workerHealth r :: events) = healthReports id events := by
  simp [healthReports, hr]

/-- Who was noted as gone had its exit emitted. -/
theorem exitsNoted_emitted {events : List Event} (h : id ∈ exitsNoted events) :
    exitEmitted id events = true := by
  induction events with
  | nil => cases h
  | cons ev earlier ih =>
    rw [exitEmitted_cons]
    cases ev with
    | workerExit workerId code signal graceful =>
      rcases Finset.mem_insert.mp h with rfl | h
      · simp
      · simp [ih h]
    | shutdownStart => cases h
    | _ => exact ih h

/-- The monitor reports a message that is a heartbeat, unless it has noted the exit. -/
theorem workerMessage_report {msg : Message} (h : s.workerMessage e id (some msg) = some t) :
    (t.healthView = s.healthView ∧
        (msg.report e.cfg id = none ∨ id ∈ s.health.exitedWorkerIds)) ∨
      ∃ r, msg.report e.cfg id = some r ∧ t.healthView = s.healthView.report r := by
  rw [workerMessage] at h
  split at h
  · cases h
  · obtain rfl := Option.some.inj h
    rw [healthView_eq (onAckMessage_waitsOn (e := e) id _ _).windsDown.views]
    rcases onHealthMessage_cases (e := e) id (some msg) s with ⟨h, hignored⟩ |
      ⟨rss, heapUsed, lag, hmsg, -, h⟩
    · refine .inl ⟨by rw [h], ?_⟩
      by_contra hboth
      obtain ⟨hreport, hnoted⟩ := not_or.mp hboth
      obtain ⟨type, _ | rss, _ | heapUsed, _ | lag⟩ := msg
      case some.some.some =>
        obtain rfl : type = e.cfg.shutdown.heartbeatType := by
          by_contra hne
          exact hreport (if_neg hne)
        exact hnoted (hignored rss heapUsed lag rfl)
      all_goals exact hreport (by simp [Message.report])
    · obtain rfl := Option.some.inj hmsg
      exact .inr ⟨_, if_pos rfl, congrArg Suspended.health h⟩

/-- What a segment adds to the viewed events. -/
inductive ViewStep (e : Host) (a : Action) (s t : State) : Prop
  | same (h : t.healthView.events = s.healthView.events)
    (ha : ∀ id msg, a = .workerMessage id (some msg) →
      msg.report e.cfg id = none ∨ id ∈ s.health.exitedWorkerIds)
  | health (id : Nat) (msg : Message) (r : WorkerHealthReport)
    (ha : a = .workerMessage id (some msg)) (hr : msg.report e.cfg id = some r)
    (h : t.healthView.events = .workerHealth r :: s.healthView.events)
  | other (ev : Event) (h : t.healthView.events = ev :: s.healthView.events)
    (hev : ∀ r, ev ≠ .workerHealth r) (ha : ∀ id msg, a ≠ .workerMessage id msg)

theorem act_viewStep {a : Action} (h : s.act e a = some t) : ViewStep e a s t := by
  cases hv : a.changesView with
  | false =>
    refine .same (congrArg HealthView.events (act_view hv h)) fun id msg ha => ?_
    subst ha
    cases hv
  | true =>
    cases a with
    | workerMessage id msg =>
      cases msg with
      | none =>
        rcases workerMessage_view h with ⟨-, heq⟩ | ⟨hm, -, -, -, -⟩
        · exact .same (congrArg HealthView.events heq) fun _ _ ha => by cases ha
        · exact absurd rfl hm
      | some msg =>
        rcases workerMessage_report h with ⟨heq, hwhy⟩ | ⟨r, hr, heq⟩
        · refine .same (congrArg HealthView.events heq) fun _ _ ha => ?_
          cases ha
          exact hwhy
        · exact .health id msg r rfl hr (congrArg HealthView.events heq)
    | workerExit id code signal =>
      obtain ⟨-, ⟨-, heq⟩ | ⟨graceful, heq⟩⟩ := workerExit_view h
      · exact .same (congrArg HealthView.events heq) fun _ _ ha => by cases ha
      · exact .other _ (congrArg HealthView.events heq) (fun _ => by simp) fun _ _ => by simp
    | shutdownPrimary signal =>
      obtain rfl := Option.some.inj h
      rcases shutdownPrimary_view (e := e) signal s with ⟨-, heq⟩ | ⟨-, heq⟩
      · exact .same (congrArg HealthView.events heq) fun _ _ ha => by cases ha
      · exact .other _ (congrArg HealthView.events heq) (fun _ => by simp) fun _ _ => by simp
    | _ => cases hv

/-! ## The law -/

namespace Fleet

variable {f g : Fleet} {b : FleetAction}

/-- The heartbeats of a worker that the primary has read, oldest first. -/
def heardReports (e : Host) (f : Fleet) (id : Nat) : List WorkerHealthReport :=
  ((f.messages id).take (f.heard id)).filterMap (Message.report e.cfg id)

/-- What was reported of a worker is what was read, up to what was dropped after its exit. -/
structure Reported (e : Host) (f : Fleet) (id : Nat) : Prop where
  sound : (healthReports id f.primary.healthView.events).reverse.Sublist (f.heardReports e id)
  complete : exitEmitted id f.primary.healthView.events = false →
    (healthReports id f.primary.healthView.events).reverse = f.heardReports e id

theorem heardReports_hear {msg : Message} (h : (f.messages id)[f.heard id]? = some msg)
    (s : State) (leaving : Nat → Bool) :
    heardReports e { f with
        primary := s, heard := Function.update f.heard id (f.heard id + 1), leaving := leaving } id =
      f.heardReports e id ++ (msg.report e.cfg id).toList := by
  have htake : (f.messages id).take (f.heard id + 1) =
      (f.messages id).take (f.heard id) ++ [msg] := by
    rw [List.take_add_one, h]
    rfl
  show ((f.messages id).take (Function.update f.heard id (f.heard id + 1) id)).filterMap _ = _
  rw [Function.update_self, htake, List.filterMap_append, heardReports]
  cases hr : msg.report e.cfg id <;> simp [hr]

theorem Reported.primary (h : Reported e f id) (hfollowed : f.primary.healthView.Followed
    f.primary.gone) {a : Action} {s : State} (hact : f.primary.act e a = some s)
    {heard : Nat → Nat} {leaving : Nat → Bool} (hb : f.PrimaryCause b a heard leaving) :
    Reported e { f with primary := s, heard := heard, leaving := leaving } id := by
  -- the segments that read no message of this worker
  have hquiet (hheard : heard id = f.heard id)
      (hreports : healthReports id s.healthView.events =
        healthReports id f.primary.healthView.events)
      (hemitted : exitEmitted id s.healthView.events = false →
        exitEmitted id f.primary.healthView.events = false) :
      Reported e { f with primary := s, heard := heard, leaving := leaving } id := by
    have hsame : heardReports e { f with primary := s, heard := heard, leaving := leaving } id =
        f.heardReports e id := by
      show ((f.messages id).take (heard id)).filterMap _ = _
      rw [hheard, heardReports]
    refine ⟨?_, fun hout => ?_⟩
    · rw [hsame, hreports]
      exact h.sound
    · rw [hsame, hreports]
      exact h.complete (hemitted hout)
  have hother : ∀ ev earlier, exitEmitted id (ev :: earlier) = false →
      exitEmitted id earlier = false := by
    intro ev earlier hout
    rw [exitEmitted_cons, Bool.or_eq_false_iff] at hout
    exact hout.2
  have hstep := act_viewStep hact
  have hsilent (hne : ∀ j msg, a ≠ .workerMessage j msg) (hheard : heard id = f.heard id) :
      Reported e { f with primary := s, heard := heard, leaving := leaving } id := by
    cases hstep with
    | same heq _ => exact hquiet hheard (by rw [heq]) (by rw [heq]; exact fun hout => hout)
    | health j msg r ha hr heq => exact absurd ha (hne j (some msg))
    | other ev heq hev ha =>
      refine hquiet hheard ?_ ?_
      · rw [heq]
        cases ev <;> first | rfl | exact absurd rfl (hev _)
      · rw [heq]
        exact hother _ _
  cases hb with
  | hear j msg hmsg =>
    by_cases hid : id = j
    · subst hid
      have hheard := heardReports_hear (e := e) hmsg s f.leaving
      cases hstep with
      | same heq hwhy =>
        rcases hwhy id msg rfl with hnone | hnoted
        · rw [hnone, Option.toList_none, List.append_nil] at hheard
          refine ⟨?_, fun hout => ?_⟩
          · rw [hheard, heq]
            exact h.sound
          · rw [hheard, heq]
            rw [heq] at hout
            exact h.complete hout
        · refine ⟨?_, fun hout => ?_⟩
          · rw [hheard, heq]
            exact h.sound.trans (List.sublist_append_left _ _)
          · have hnoted' : id ∈ exitsNoted f.primary.healthView.events := by
              rw [← hfollowed.noted]
              exact hnoted
            rw [heq, exitsNoted_emitted hnoted'] at hout
            cases hout
      | health _ _ r ha hr heq =>
        cases ha
        have hreports : (healthReports id s.healthView.events).reverse =
            (healthReports id f.primary.healthView.events).reverse ++ [r] := by
          rw [heq, healthReports_cons_self (Message.report_workerId hr), List.reverse_cons]
        rw [hr] at hheard
        refine ⟨?_, fun hout => ?_⟩
        · rw [hheard, hreports]
          exact h.sound.append (List.Sublist.refl _)
        · rw [hheard, hreports]
          rw [heq] at hout
          rw [h.complete (hother _ _ hout)]
          rfl
      | other ev heq hev ha => exact absurd rfl (ha id (some msg))
    · have hheard : Function.update f.heard j (f.heard j + 1) id = f.heard id :=
        Function.update_of_ne hid _ _
      cases hstep with
      | same heq _ => exact hquiet hheard (by rw [heq]) (by rw [heq]; exact fun hout => hout)
      | health _ _ r ha hr heq =>
        cases ha
        have hne : r.workerId ≠ id := by
          rw [Message.report_workerId hr]
          exact Ne.symm hid
        refine hquiet hheard ?_ ?_
        · rw [heq, healthReports_cons_of_ne hne]
        · rw [heq]
          exact hother _ _
      | other ev heq hev ha => exact absurd rfl (ha j (some msg))
  | own _ ha => exact hsilent (by rintro j msg rfl; cases ha) rfl
  | online | exited | closed | error | leave => exact hsilent (fun _ _ => by simp) rfl

theorem Reported.step (h : Reported e f id) (hc : Conversed e f id)
    (hfollowed : f.primary.healthView.Followed f.primary.gone) (hm : Moved e f b g) :
    Reported e g id := by
  cases hm with
  | ticked ms =>
    have hview : (f.tick ms).primary.healthView = f.primary.healthView := by
      unfold tick
      dsimp only
      split <;> rfl
    constructor
    · rw [hview]
      exact h.sound
    · rw [hview]
      exact h.complete
  | primary a s heard leaving hx hact hb => exact h.primary hfollowed hact hb
  | worker j a p reached signals hf hstep hb =>
    have hsame : heardReports e { f with
        processes := Function.update f.processes j p, reached := reached, signals := signals } id =
        f.heardReports e id := by
      by_cases hid : id = j
      · subst hid
        obtain ⟨-, -, hact⟩ := WorkerProcess.step_act hstep
        obtain ⟨l, hl⟩ := (WorkerProcess.act_told hact).suffix
        show (((Function.update f.processes id p id).sent.map Prod.fst).reverse.take
          (f.heard id)).filterMap _ = _
        have hle : f.heard id ≤ ((f.processes id).sent.map Prod.fst).reverse.length := hc.heard
        rw [Function.update_self, ← hl, List.map_append, List.reverse_append,
          List.take_append_of_le_length hle]
        rfl
      · show (((Function.update f.processes j p id).sent.map Prod.fst).reverse.take
          (f.heard id)).filterMap _ = _
        rw [Function.update_of_ne hid]
        rfl
    constructor
    · rw [hsame]
      exact h.sound
    · rw [hsame]
      exact h.complete

end Fleet

/-- **Health reports, end to end.** The `worker:health` events of a worker are, in order and
each at most once, heartbeats that its process sent and the primary has read; until the exit
of the worker is emitted they are all of those. -/
theorem health_events_are_heartbeats (e : Host) (count : WorkerCount) (env : ProcessEnv)
    (f : Fleet) (h : (fleet e count env).Reachable f) (id : Nat) :
    (healthReports id f.primary.events).reverse.Sublist (f.heardReports e id) ∧
      (exitEmitted id f.primary.events = false →
        (healthReports id f.primary.events).reverse = f.heardReports e id) ∧
      (f.heardReports e id).Sublist ((f.messages id).filterMap (Message.report e.cfg id)) := by
  have hreported : Fleet.Reported e f id :=
    StepSystem.Run.preserves_of (P := fun f => Fleet.Reported e f id)
      (Q := fun f => (fleet e count env).Reachable f) h .refl (fun _ hx => hx)
      (fun x b _ hx hp _ hs => hp.step (fleet_conversed hx id)
        (reachable_followed (fleet_sides hx).1) (Fleet.step_moved hs))
      ⟨List.Sublist.refl _, fun _ => rfl⟩
  have hsound := hreported.sound
  have hcomplete := hreported.complete
  simp only [healthView, healthReports_filter, exitEmitted_filter] at hsound hcomplete
  exact ⟨hsound, hcomplete, (List.take_sublist _ _).filterMap _⟩

/-- A heartbeat is read and reported; a second one is still on its way. -/
theorem health_events_are_heartbeats_two_beats :
    let e : Host := { cfg := { health := { heartbeatMs := 100 } } }
    ∃ f : Fleet, (healthReports 1 f.primary.events).length = 1 ∧ (f.messages 1).length = 2 ∧
      (healthReports 1 f.primary.events).reverse = f.heardReports e 1 := by
  intro e
  obtain ⟨f, hf, hq⟩ := StepSystem.exists_reachable_of_any (fleet e (.fixed 1) fun _ => none)
    [.primary .run, .primary .pluginsInstalled, .worker 1 .run, .worker 1 .pluginsInstalled,
      .online 1, .tick 100, .worker 1 (.report 5 5), .hear 1, .tick 100, .worker 1 (.report 6 6)]
    (fun f => decide ((healthReports 1 f.primary.events).length = 1) &&
      decide ((f.messages 1).length = 2) && !exitEmitted 1 f.primary.events) (by decide +kernel)
  simp only [Bool.and_eq_true, decide_eq_true_eq, Bool.not_eq_true'] at hq
  obtain ⟨⟨hreports, hmessages⟩, hout⟩ := hq
  exact ⟨f, hreports, hmessages, (health_events_are_heartbeats e _ _ f hf 1).2.1 hout⟩

end ClusterKit
