import ClusterKit.FleetProtocol
import ClusterKit.ZeroDowntime

/-! Zero downtime, seen from the processes. In a fleet whose workers end only when they are
told to, as many processes run undisturbed as the target asks for, through every recycle
and roll. -/

namespace ClusterKit

open State

variable {e : Host} {count : WorkerCount} {env : ProcessEnv} {f : Fleet}

namespace Fleet

/-- The processes that came online and neither end nor shut down. -/
def runningWorkers (f : Fleet) : Finset Nat :=
  f.primary.workerIds.filter fun id => f.primary.isOnline id ∧
    (f.processes id).ended = none ∧ (f.processes id).localShutdownInProgress = false

end Fleet

/-- No shutdown, workers left alone, and replacements that come online before their drain
deadline. -/
def calm (e : Host) (f : Fleet) (b : FleetAction) : Bool :=
  leftAlone f b &&
    match b with
    | .primary (.shutdownPrimary _) => false
    | .tick ms => orderly e f.primary (.tick ms)
    | _ => true

/-- The primary of a calm fleet runs orderly: it learns only of exits that it caused. -/
theorem calm_primary_run
    (h : (fleet e count env).Run (fun x b => calm e x b = true) (fleet e count env).init f) :
    (orchestrator e count env).Run (fun s a => orderly e s a = true)
      (State.initial e count env) f.primary := by
  have hleft : ∀ x b, calm e x b = true → leftAlone x b = true :=
    fun x b hb => (Bool.and_eq_true_iff.mp hb).1
  refine fleet_primary_run (h.recall fun x hx id =>
    And.intro (fleet_caused hleft hx id) (fleet_conversed hx.reachable id)) ?_
  rintro x b a ⟨hcalm, hknown⟩ hx ha
  have hrest := (Bool.and_eq_true_iff.mp hcalm).2
  cases b with
  | tick ms =>
    cases ha
    exact hrest
  | exited id =>
    obtain ⟨y, hy, rfl⟩ := Option.map_eq_some_iff.mp ha
    obtain ⟨hcaused, hconversed⟩ := hknown id
    exact decide_eq_true (hcaused.drainSent_of_ended hconversed (by simp [hy]) hx)
  | primary own =>
    simp only [Fleet.primaryAction] at ha
    split at ha
    · rename_i hown
      cases ha
      cases a with
      | shutdownPrimary => cases hrest
      | tick | workerExit => cases hown
      | _ => rfl
    · cases ha
  | hear id =>
    obtain ⟨msg, -, rfl⟩ := Option.map_eq_some_iff.mp ha
    rfl
  | online | channelClosed | error | leave => cases ha; rfl
  | worker | reach | signal | left | orphaned => cases ha

/-- The serving workers of an orderly run are as many as the target. -/
theorem orderly_serving {s : State}
    (hrun : (orchestrator e count env).Run (fun x a => orderly e x a = true)
      (State.initial e count env) s)
    (hstarted : s.orch.runPhase = .started) (honline : ∀ id ∈ s.initialWorkers, s.isOnline id) :
    s.resolveWorkerCount e ≤ s.servingWorkers.card := by
  have hw := reachable_wellFormed hrun.reachable
  have hsucceeded : s.isShuttingDown = false ∧ Succeeded e s :=
    run_preserves (P := fun x => x.isShuttingDown = false ∧ Succeeded e x) hrun
      ⟨rfl, .initial e count env⟩
      fun x a y hwx ⟨hs, hx⟩ hok hact => hx.step hwx hact hok hs
  have hfilled : InitiallyFilled e s :=
    run_preserves hrun (fun hp => by cases hp) fun x a y hwx hx _ hact => hx.step hwx hact
  exact (hfilled hstarted).trans (hsucceeded.2.card_initialWorkers_le hw honline)

/-- A serving worker of a fleet whose workers are left alone is a running process. -/
theorem servingWorkers_subset_running {ok : Fleet → FleetAction → Prop}
    (hok : ∀ x b, ok x b → leftAlone x b = true)
    (h : (fleet e count env).Run ok (fleet e count env).init f)
    (hx : f.primary.process.exited = false) :
    f.primary.servingWorkers ⊆ f.runningWorkers := by
  intro id hid
  simp only [servingWorkers, Finset.mem_filter] at hid
  obtain ⟨hforked, -, honline, hdrain⟩ := hid
  have hcaused := fleet_caused hok h id
  have hconversed := fleet_conversed h.reachable id
  obtain ⟨hsound, -⟩ := Fleet.process_lawful h.reachable id
  have hended : (f.processes id).ended = none := by
    by_contra hne
    exact hdrain (hcaused.drainSent_of_ended hconversed hne hx)
  have hbegan : (f.processes id).began = none := by
    by_contra hne
    exact hdrain (hcaused.drainSent_of_began hconversed hne)
  have hidle := (WorkerProcess.Sound.unbegun hsound hbegan).inProgress
  exact Finset.mem_filter.mpr ⟨hforked, honline, hended, hidle⟩

/-- Only a shutdown calls `process.exit`. -/
theorem Piece.exited {s t : State} {a : Action} (h : Piece e a s t)
    (hx : s.process.exited = true → s.isShuttingDown = true) :
    t.process.exited = true → t.isShuttingDown = true := by
  have hshutting := h.later.shutting
  intro hexited
  rcases h with hm | hb
  · cases hm with
    | drained r hr hd hs hwhy =>
      rw [drainOldWorker_eq] at hexited
      exact hshutting (hx hexited)
    | shutdown t hs hm => exact hshutting hs
    | _ => exact hshutting (hx hexited)
  · cases hb with
    | crashed => rw [noteCrash_eq] at hexited; exact hshutting (hx hexited)
    | queued => rw [queueCrash_eq] at hexited; exact hshutting (hx hexited)
    | resetRefilled | rollRefilled =>
      rw [queueRefill_eq] at hexited
      exact hshutting (hx hexited)
    | shutdownEntered _ signal hs =>
      rw [State.isShuttingDown, (shutdownPrimary_entered (e := e) signal hs).shutdown]
    | _ => exact hshutting (hx hexited)

theorem exited_shutting {s : State} (h : (orchestrator e count env).Reachable s) :
    s.process.exited = true → s.isShuttingDown = true :=
  run_preserves (P := fun s => s.process.exited = true → s.isShuttingDown = true) h
    (fun hx => by cases hx) fun _ _ _ hw hx _ hact =>
      (act_pieces hw hact).preserves hw (fun _ _ _ hx hp => hp.exited hx) hx

/-- **Zero downtime, for the processes.** In a fleet without crashes and without a shutdown,
whose replacements come online in time, the processes that run undisturbed never fall below
the target once all initial workers were online. -/
theorem fleet_keeps_serving (e : Host) (count : WorkerCount) (env : ProcessEnv) (f : Fleet)
    (hrun : (fleet e count env).Run (fun x b => calm e x b = true) (fleet e count env).init f)
    (hstarted : f.primary.orch.runPhase = .started)
    (honline : ∀ id ∈ f.primary.initialWorkers, f.primary.isOnline id) :
    f.primary.resolveWorkerCount e ≤ f.runningWorkers.card := by
  have hprimary := calm_primary_run hrun
  have hshutting : f.primary.isShuttingDown = false :=
    run_preserves (P := fun s => s.isShuttingDown = false ∧ Succeeded e s) hprimary
      ⟨rfl, .initial e count env⟩ (fun _ _ _ hw ⟨hs, hx⟩ hok hact => hx.step hw hact hok hs) |>.1
  have hx : f.primary.process.exited = false := by
    by_contra hne
    have h := exited_shutting hprimary.reachable (Bool.eq_true_of_not_eq_false hne)
    rw [hshutting] at h
    cases h
  have hleft : ∀ x b, calm e x b = true → leftAlone x b = true :=
    fun x b hb => (Bool.and_eq_true_iff.mp hb).1
  exact (orderly_serving hprimary hstarted honline).trans
    (Finset.card_le_card (servingWorkers_subset_running hleft hrun hx))

/-- One worker, rolled: the replacement comes online, the old worker answers and exits. -/
theorem fleet_keeps_serving_one_worker : ∃ f : Fleet,
    (f.processes 1).ended = some .shutdownComplete ∧ 1 ≤ f.runningWorkers.card := by
  obtain ⟨f, hrun, hq⟩ := StepSystem.exists_run_of_any (fleet {} (.fixed 1) fun _ => none)
    (fleet {} (.fixed 1) fun _ => none).init (calm {})
    [.tick 1, .primary .run, .primary .pluginsInstalled, .worker 1 .run,
      .worker 1 .pluginsInstalled, .online 1, .primary (.restartWorkers {}), .tick 1000,
      .worker 2 .run, .worker 2 .pluginsInstalled, .online 2, .reach 1,
      .worker 1 .callsOver, .hear 1, .worker 1 .callbacksReturned, .exited 1]
    (fun f => decide ((f.processes 1).ended = some .shutdownComplete) &&
      decide (f.primary.orch.runPhase = .started) &&
      decide (f.primary.resolveWorkerCount {} = 1) &&
      decide (∀ id ∈ f.primary.initialWorkers, f.primary.isOnline id)) (by decide +kernel)
  simp only [Bool.and_eq_true, decide_eq_true_eq] at hq
  obtain ⟨⟨⟨hended, hstarted⟩, htarget⟩, honline⟩ := hq
  have h := fleet_keeps_serving {} _ _ f hrun hstarted honline
  rw [htarget] at h
  exact ⟨f, hended, h⟩

end ClusterKit
