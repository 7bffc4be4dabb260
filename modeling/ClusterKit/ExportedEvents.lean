import ClusterKit.Exporters
import ClusterKit.Lib.Projection
import ClusterKit.Staffing

/-! What the exporters export: counts of the events since they were installed, and the last
report of every worker that has not exited since. -/

universe u v

namespace ClusterKit

open State StepSystem

variable {e : Host} {s : State} {count : WorkerCount} {env : ProcessEnv}

section Listening

variable {μ : Type u} {x : Exporter μ} {y z : Exported μ}

/-- Seen from the primary, a step of the whole is a segment or nothing. -/
theorem exported_primary {b : ExportAction} (h : Exported.step x e y b = some z) :
    (orchestrator e count env).Run (fun _ _ => True) y.primary z.primary := by
  cases b with
  | primary a =>
    rw [Exported.step] at h
    split at h
    · cases h
    · rename_i hexited
      obtain ⟨t, ht, rfl⟩ := Option.map_eq_some_iff.mp h
      refine .single (a := a) trivial ?_
      show (if y.primary.process.exited then none else y.primary.act e a) = some t
      rw [if_neg hexited, ht]
  | install =>
    rw [Exported.step] at h
    split at h <;> cases h
    exact .refl
  | uninstall =>
    rw [Exported.step] at h
    split at h <;> cases h
    exact .refl

theorem exported_reachable (h : (exported x e count env).Reachable y) :
    (orchestrator e count env).Reachable y.primary :=
  Reachable.project h rfl fun _ _ _ hs => exported_primary hs

/-- An exporter that was never installed has heard nothing. -/
theorem exported_fresh (h : (exported x e count env).Reachable y) (hi : y.installed = false) :
    y.metrics = x.fresh ∧ y.bound = false := by
  refine Reachable.induct (P := fun y => y.installed = false → y.metrics = x.fresh ∧ y.bound = false)
    h (fun _ => ⟨rfl, rfl⟩) ?_ hi
  intro y b z hy hs hz
  cases b with
  | primary a =>
    change Exported.step x e y (.primary a) = some z at hs
    rw [Exported.step] at hs
    split at hs
    · cases hs
    · obtain ⟨t, -, rfl⟩ := Option.map_eq_some_iff.mp hs
      obtain ⟨hm, hb⟩ := hy hz
      refine ⟨?_, hb⟩
      dsimp only
      rw [hb]
      exact hm
  | install =>
    change Exported.step x e y .install = some z at hs
    rw [Exported.step] at hs
    split at hs <;> cases hs
    cases hz
  | uninstall =>
    change Exported.step x e y .uninstall = some z at hs
    rw [Exported.step] at hs
    split at hs <;> cases hs
    exact ⟨absurd (hy hz).2 (by simp_all), rfl⟩

/-- **Listener rule.** What every listener keeps about the events since the installation
holds as long as the exporter is bound. -/
theorem Exporter.hears {P : List Event → μ → Prop} (hinstall : ∀ m, P [] (x.install m x.fresh))
    (hlisten : ∀ now m ev log μ, P log μ → P (ev :: log) (x.listen now m ev μ))
    (h : (exported x e count env).Reachable y) (hb : y.bound = true) :
    ∃ new, y.primary.events = new ++ y.before ∧ P new y.metrics := by
  have hall : (exported x e count env).Reachable y ∧
      (y.bound = true → ∃ new, y.primary.events = new ++ y.before ∧ P new y.metrics) := by
    refine Run.preserves_of (Q := fun y => (exported x e count env).Reachable y)
      (P := fun y => (exported x e count env).Reachable y ∧ (y.bound = true →
        ∃ new, y.primary.events = new ++ y.before ∧ P new y.metrics)) h .refl (fun _ h => h) ?_
      ⟨.refl, nofun⟩
    intro y b z hreach hy _ hs
    refine ⟨hreach.step hs, fun hz => ?_⟩
    cases b with
    | primary a =>
      change Exported.step x e y (.primary a) = some z at hs
      rw [Exported.step] at hs
      split at hs
      · cases hs
      · obtain ⟨t, ht, rfl⟩ := Option.map_eq_some_iff.mp hs
        obtain ⟨new, hnew, hP⟩ := hy.2 hz
        have hsuffix := act_events_suffix (reachable_wellFormed (exported_reachable hreach)) ht
        refine ⟨newEvents y.primary t ++ new, ?_, ?_⟩
        · rw [List.append_assoc, ← hnew, newEvents_append hsuffix]
        · have hb : y.bound = true := hz
          dsimp only
          rw [if_pos hb, Exported.hear]
          generalize newEvents y.primary t = evs
          induction evs with
          | nil => exact hP
          | cons ev evs ih => exact hlisten _ _ _ _ _ ih
    | install =>
      change Exported.step x e y .install = some z at hs
      rw [Exported.step] at hs
      split at hs
      · rename_i hcond
        cases hs
        refine ⟨[], rfl, ?_⟩
        dsimp only
        rw [(exported_fresh hreach hcond.2).1]
        exact hinstall _
      · cases hs
    | uninstall =>
      change Exported.step x e y .uninstall = some z at hs
      rw [Exported.step] at hs
      split at hs <;> cases hs
      cases hz
  exact hall.2 hb

end Listening

/-! ## What the events say -/

namespace Event

def isCrash : Event → Bool
  | .workerCrash .. => true
  | _ => false

def isRecycle (reason : RecycleReason) : Event → Bool
  | .workerRecycle _ _ r => r == reason
  | _ => false

def isWedged : Event → Bool
  | .workerWedged .. => true
  | _ => false

def recoveredIn : Event → Option Nat
  | .fleetRecovered _ _ degradedDurationMs => some degradedDurationMs
  | _ => none

end Event

/-- The last report of `id`, unless its exit came after it. -/
def lastReport (id : Nat) : List Event → Option WorkerHealthReport
  | [] => none
  | .workerHealth report :: past =>
    if report.workerId = id then some report else lastReport id past
  | .workerExit workerId .. :: past => if workerId = id then none else lastReport id past
  | _ :: past => lastReport id past

/-- A map that keeps a part of the last report of every worker. -/
def Samples {β : Type*} (f : WorkerHealthReport → β) (log : List Event) (m : OrdMap β) : Prop :=
  ∀ id, m.get? id = (lastReport id log).map f

namespace Samples

variable {β : Type*} {f : WorkerHealthReport → β} {log : List Event} {m : OrdMap β}

theorem nil : Samples f [] .empty := fun _ => rfl

theorem health (h : Samples f log m) (report : WorkerHealthReport) :
    Samples f (.workerHealth report :: log) (m.set report.workerId (f report)) := by
  intro id
  rw [OrdMap.get?_set, lastReport]
  by_cases hid : report.workerId = id
  · rw [if_pos hid.symm, if_pos hid]
    rfl
  · rw [if_neg (Ne.symm hid), if_neg hid]
    exact h id

theorem exit (h : Samples f log m) (workerId : Nat) (code : Option Int) (signal : Option String)
    (graceful : Bool) :
    Samples f (.workerExit workerId code signal graceful :: log) (m.delete workerId) := by
  intro id
  rw [OrdMap.get?_delete, lastReport]
  by_cases hid : workerId = id
  · rw [if_pos hid.symm, if_pos hid]
    rfl
  · rw [if_neg (Ne.symm hid), if_neg hid]
    exact h id

end Samples

theorem countP_next {p : Event → Bool} {log : List Event} {n : Nat} (h : n = log.countP p)
    {ev : Event} (hev : p ev = true) : n + 1 = (ev :: log).countP p := by
  rw [List.countP_cons_of_pos hev, h]

/-- The counter of recycles, one per reason. -/
theorem recycles_next {log : List Event} {c : RecycleReason → Nat}
    (h : ∀ reason, c reason = log.countP (Event.isRecycle reason)) (workerId ageMs : Nat)
    (reason : RecycleReason) (r : RecycleReason) :
    Function.update c reason (c reason + 1) r =
      (Event.workerRecycle workerId ageMs reason :: log).countP (Event.isRecycle r) := by
  by_cases hr : r = reason
  · subst hr
    rw [Function.update_self]
    exact countP_next (h r) (beq_self_eq_true r)
  · rw [Function.update_of_ne hr, List.countP_cons_of_neg, h r]
    exact fun heq => hr (beq_iff_eq.mp heq).symm

/-! ## The instruments -/

/-- The instruments of the prometheus plugin say what the events say. -/
structure PrometheusMetrics.Reports (log : List Event) (m : PrometheusMetrics) : Prop where
  workerRestarts : m.workerRestarts = log.countP Event.isRestart
  workerCrashes : m.workerCrashes = log.countP Event.isCrash
  circuitBreakerTrips : m.circuitBreakerTrips = log.countP Event.isTrip
  workerRecycles : ∀ reason, m.workerRecycles reason = log.countP (Event.isRecycle reason)
  wedgedKills : m.wedgedKills = log.countP Event.isWedged
  recoveryDuration : m.recoveryDuration = log.findSome? Event.recoveredIn
  workerRss : Samples WorkerHealthReport.rss log m.workerRss
  workerHeap : Samples WorkerHealthReport.heapUsed log m.workerHeap
  workerLag : Samples WorkerHealthReport.eventLoopLagMs log m.workerLag
  lastReports : m.lastReports.keySet = m.workerRss.keySet

theorem PrometheusMetrics.Reports.fresh (metrics : WorkerMetrics) :
    Reports [] (syncActiveWorkers metrics {}) :=
  ⟨rfl, rfl, rfl, fun _ => rfl, rfl, rfl, .nil, .nil, .nil, rfl⟩

/-- **Step lemma.** The listeners of the plugin keep up with the events. -/
theorem PrometheusMetrics.Reports.listen {log : List Event} {m : PrometheusMetrics}
    (h : m.Reports log) (now : Nat) (metrics : WorkerMetrics) (ev : Event) :
    Reports (ev :: log) (m.listen now metrics ev) := by
  cases ev with
  | workerOnline _ => exact { h with }
  | workerCrash _ _ _ => exact { h with workerCrashes := countP_next h.workerCrashes rfl }
  | workerRestart _ => exact { h with workerRestarts := countP_next h.workerRestarts rfl }
  | circuitBreakerTripped _ _ =>
    exact { h with circuitBreakerTrips := countP_next h.circuitBreakerTrips rfl }
  | workerRecycle workerId ageMs reason =>
    exact { h with workerRecycles := recycles_next h.workerRecycles workerId ageMs reason }
  | workerWedged _ _ => exact { h with wedgedKills := countP_next h.wedgedKills rfl }
  | fleetRecovered _ _ _ => exact { h with recoveryDuration := rfl }
  | workerHealth report =>
    exact { h with
      workerRss := h.workerRss.health report
      workerHeap := h.workerHeap.health report
      workerLag := h.workerLag.health report
      lastReports := by
        show (m.lastReports.set report.workerId now).keySet =
          (m.workerRss.set report.workerId report.rss).keySet
        rw [OrdMap.keySet_set, OrdMap.keySet_set, h.lastReports] }
  | workerExit workerId code signal graceful =>
    exact { h with
      workerRss := h.workerRss.exit workerId code signal graceful
      workerHeap := h.workerHeap.exit workerId code signal graceful
      workerLag := h.workerLag.exit workerId code signal graceful
      lastReports := by
        show (m.lastReports.delete workerId).keySet = (m.workerRss.delete workerId).keySet
        rw [OrdMap.keySet_delete, OrdMap.keySet_delete, h.lastReports] }
  | _ => exact { h with }

def WorkerHealthSample.values (s : WorkerHealthSample) : Int × Int × Int :=
  (s.rss, s.heapUsed, s.eventLoopLagMs)

def WorkerHealthReport.values (r : WorkerHealthReport) : Int × Int × Int :=
  (r.rss, r.heapUsed, r.eventLoopLagMs)

/-- The instruments of the OTLP plugin say what the events say. -/
structure OtlpMetrics.Reports (log : List Event) (m : OtlpMetrics) : Prop where
  workerRestarts : m.workerRestartsCounter = log.countP Event.isRestart
  workerCrashes : m.workerCrashesCounter = log.countP Event.isCrash
  circuitBreakerTrips : m.circuitBreakerTripsCounter = log.countP Event.isTrip
  workerRecycles : ∀ reason, m.workerRecyclesCounter reason = log.countP (Event.isRecycle reason)
  wedgedKills : m.wedgedKillsCounter = log.countP Event.isWedged
  recoveryDuration : m.recoveryDurationGauge = log.findSome? Event.recoveredIn
  workerHealth : ∀ id, (m.workerHealth.get? id).map WorkerHealthSample.values =
    (lastReport id log).map WorkerHealthReport.values

theorem OtlpMetrics.Reports.listen {log : List Event} {m : OtlpMetrics} (h : m.Reports log)
    (now : Nat) (metrics : WorkerMetrics) (ev : Event) :
    Reports (ev :: log) (m.listen now metrics ev) := by
  cases ev with
  | workerCrash _ _ _ => exact { h with workerCrashes := countP_next h.workerCrashes rfl }
  | workerRestart _ => exact { h with workerRestarts := countP_next h.workerRestarts rfl }
  | circuitBreakerTripped _ _ =>
    exact { h with circuitBreakerTrips := countP_next h.circuitBreakerTrips rfl }
  | workerRecycle workerId ageMs reason =>
    exact { h with workerRecycles := recycles_next h.workerRecycles workerId ageMs reason }
  | workerWedged _ _ => exact { h with wedgedKills := countP_next h.wedgedKills rfl }
  | fleetRecovered _ _ _ => exact { h with recoveryDuration := rfl }
  | workerHealth report =>
    refine { h with workerHealth := fun id => ?_ }
    show ((m.workerHealth.set _ _).get? id).map _ = _
    rw [OrdMap.get?_set, lastReport]
    by_cases hid : report.workerId = id
    · rw [if_pos hid.symm, if_pos hid]
      rfl
    · rw [if_neg (Ne.symm hid), if_neg hid]
      exact h.workerHealth id
  | workerExit workerId code signal graceful =>
    refine { h with workerHealth := fun id => ?_ }
    show ((m.workerHealth.delete workerId).get? id).map _ = _
    rw [OrdMap.get?_delete, lastReport]
    by_cases hid : workerId = id
    · rw [if_pos hid.symm, if_pos hid]
      rfl
    · rw [if_neg (Ne.symm hid), if_neg hid]
      exact h.workerHealth id
  | _ => exact { h with }

/-! ## What the journal adds -/

def Owed.crashes : Owed → Nat
  | .crash .. => 1
  | _ => 0

theorem Journal.crashes_of_settled {j : Journal} (h : j.settled = true) : j.owed.crashes = 0 := by
  unfold Journal.settled at h
  cases hj : j.owed with
  | crash id code signal =>
    rw [hj] at h
    cases h
  | _ => rfl

/-- While the primary serves, an exit is graceful, or its crash follows; and nobody is heard
who is gone. -/
theorem replay_serving {log : List Event} {j : Journal} (h : journal.replay log = some j)
    (hphase : j.phase = .serving) :
    log.countP Event.isCrash + log.countP Event.isGracefulExit + j.owed.crashes =
        log.countP Event.isExit ∧ j.silent = j.gone := by
  induction log generalizing j with
  | nil =>
    obtain rfl := Option.some.inj h
    exact ⟨rfl, rfl⟩
  | cons ev log ih =>
    obtain ⟨i, hi, hread⟩ := Option.bind_eq_some_iff.mp h
    -- an event that settles what was owed, and is neither an exit nor a crash
    have hplain (hp : i.phase = .serving) (ho : i.owed.crashes = j.owed.crashes)
        (hs : j.silent = i.silent) (hg : j.gone = i.gone) (hev : ev.isExit = false)
        (hev' : ev.isCrash = false) (hev'' : ev.isGracefulExit = false) :
        (ev :: log).countP Event.isCrash + (ev :: log).countP Event.isGracefulExit +
          j.owed.crashes = (ev :: log).countP Event.isExit ∧ j.silent = j.gone := by
      have hcrash : (ev :: log).countP Event.isCrash = log.countP Event.isCrash :=
        List.countP_cons_of_neg (Bool.eq_false_iff.mp hev')
      have hgraceful : (ev :: log).countP Event.isGracefulExit = log.countP Event.isGracefulExit :=
        List.countP_cons_of_neg (Bool.eq_false_iff.mp hev'')
      have hexit : (ev :: log).countP Event.isExit = log.countP Event.isExit :=
        List.countP_cons_of_neg (Bool.eq_false_iff.mp hev)
      rw [hcrash, hgraceful, hexit, ← ho, hs, hg]
      exact ih hi hp
    cases ev with
    | workerExit id code signal graceful =>
      obtain ⟨⟨hset, -, -⟩, rfl⟩ := Journal.expect_eq_some.mp hread
      obtain ⟨hcount, hsilent⟩ := ih hi hphase
      rw [Journal.crashes_of_settled hset] at hcount
      refine ⟨?_, congrArg (insert id) hsilent⟩
      have hserving : i.phase = .serving := hphase
      have hcrash : (Event.workerExit id code signal graceful :: log).countP Event.isCrash =
          log.countP Event.isCrash := List.countP_cons_of_neg Bool.false_ne_true
      have hexit : (Event.workerExit id code signal graceful :: log).countP Event.isExit =
          log.countP Event.isExit + 1 := List.countP_cons_of_pos rfl
      rw [hcrash, hexit, ← hcount, List.countP_cons]
      cases graceful with
      | true =>
        simp only [Event.isGracefulExit, true_or, if_true]
        rfl
      | false =>
        simp only [Event.isGracefulExit, hserving, ne_eq, not_true_eq_false, or_false,
          Bool.false_eq_true, if_false]
        rfl
    | workerCrash id code signal =>
      obtain ⟨ho, rfl⟩ := Journal.expect_eq_some.mp hread
      obtain ⟨hcount, hsilent⟩ := ih hi hphase
      rw [ho] at hcount
      refine ⟨?_, hsilent⟩
      rw [List.countP_cons_of_pos rfl, List.countP_cons_of_neg Bool.false_ne_true,
        List.countP_cons_of_neg Bool.false_ne_true, ← hcount]
      show _ + 1 + _ + 0 = _ + _ + 1
      omega
    | shutdownStart signal =>
      obtain ⟨-, rfl⟩ := Journal.expect_eq_some.mp hread
      cases hphase
    | shutdownComplete metrics =>
      obtain ⟨-, rfl⟩ := Journal.expect_eq_some.mp hread
      cases hphase
    | workerRecycle id ageMs reason =>
      obtain ⟨ho, rfl⟩ := Journal.expect_eq_some.mp hread
      exact hplain hphase (by rw [ho]; rfl) rfl rfl rfl rfl rfl
    | workerQuarantined n =>
      obtain ⟨⟨ho, -⟩, rfl⟩ := Journal.expect_eq_some.mp hread
      exact hplain hphase (by rw [ho]; rfl) rfl rfl rfl rfl rfl
    | circuitBreakerTripped n ms =>
      obtain ⟨ho, rfl⟩ := Journal.expect_eq_some.mp hread
      exact hplain hphase (by rw [ho]; rfl) rfl rfl rfl rfl rfl
    | fleetRecovered target active ms =>
      obtain ⟨-, rfl⟩ := Journal.expect_eq_some.mp hread
      exact hplain hphase rfl rfl rfl rfl rfl rfl
    | _ =>
      obtain ⟨⟨hset, -⟩, rfl⟩ := Journal.expect_eq_some.mp hread
      exact hplain hphase (Journal.crashes_of_settled hset) rfl rfl rfl rfl rfl

/-- A worker the journal no longer hears has no report behind its exit. -/
theorem replay_silent {new before : List Event} {j : Journal}
    (h : journal.replay (new ++ before) = some j) {id : Nat} (hid : id ∈ j.silent) :
    lastReport id new = none := by
  induction new generalizing j with
  | nil => rfl
  | cons ev new ih =>
    obtain ⟨i, hi, hread⟩ := Option.bind_eq_some_iff.mp h
    cases ev with
    | workerHealth report =>
      obtain ⟨⟨-, hheard⟩, rfl⟩ := Journal.expect_eq_some.mp hread
      have hne : report.workerId ≠ id := fun heq => hheard (heq ▸ hid)
      rw [lastReport, if_neg hne]
      exact ih hi hid
    | workerExit workerId code signal graceful =>
      obtain ⟨-, rfl⟩ := Journal.expect_eq_some.mp hread
      rw [lastReport]
      by_cases heq : workerId = id
      · exact if_pos heq
      · rw [if_neg heq]
        exact ih hi ((Finset.mem_insert.mp hid).resolve_left (Ne.symm heq))
    | shutdownStart signal =>
      obtain ⟨-, rfl⟩ := Journal.expect_eq_some.mp hread
      exact absurd hid (Finset.notMem_empty id)
    | _ =>
      obtain ⟨-, rfl⟩ := Journal.expect_eq_some.mp hread
      exact ih hi hid

/-! ## The exporters -/

/-- **The prometheus plugin.** In every run, as long as the plugin is bound, its counters count
the events since it was installed, so that with what came before they come to the metrics of
the orchestrator; and while the primary serves, no worker that is dead has a series. -/
theorem prometheus_reports_events {y : Exported PrometheusMetrics}
    (h : (exported prometheus e count env).Reachable y) (hb : y.bound = true) :
    ∃ new, y.primary.events = new ++ y.before ∧ y.metrics.Reports new ∧
      y.metrics.workerRestarts + y.before.countP Event.isRestart =
        y.primary.metrics.workerRestarts ∧
      y.metrics.circuitBreakerTrips + y.before.countP Event.isTrip =
        y.primary.metrics.crashLoopBackoffs ∧
      (y.primary.isShuttingDown = false → ∀ id ∈ y.primary.workerIds, y.primary.isDead id = true →
        y.metrics.workerRss.get? id = none ∧ id ∉ y.metrics.lastReports.keySet) := by
  obtain ⟨new, hnew, hreports⟩ := Exporter.hears (P := PrometheusMetrics.Reports)
    PrometheusMetrics.Reports.fresh (fun now m ev _ _ hP => hP.listen now m ev) h hb
  have hreach := exported_reachable h
  obtain ⟨hrestarts, htrips, -, -⟩ := metrics_count_events hreach
  refine ⟨new, hnew, hreports, ?_, ?_, fun hs id hid hdead => ?_⟩
  · rw [hrestarts, hnew, List.countP_append, hreports.workerRestarts]
  · rw [htrips, hnew, List.countP_append, hreports.circuitBreakerTrips]
  · obtain ⟨j, hj, htells, -⟩ := reachable_kept hreach
    have hlisten : y.primary.manager.disposed = false := Bool.eq_false_iff.mpr fun hd =>
      Bool.false_ne_true (hs.symm.trans (htells.disposed hd))
    have huntracked : id ∉ y.primary.tracked := fun htracked =>
      Bool.false_ne_true ((reachable_staffed hreach hlisten id htracked).symm.trans hdead)
    have hsilent : id ∈ j.silent := by
      rw [(replay_serving hj (htells.serving hs)).2, htells.gone]
      exact Finset.mem_sdiff.mpr ⟨hid, huntracked⟩
    have hnone : y.metrics.workerRss.get? id = none := by
      rw [hnew] at hj
      rw [hreports.workerRss id, replay_silent hj hsilent]
      rfl
    refine ⟨hnone, ?_⟩
    rw [hreports.lastReports, ← OrdMap.get?_isSome, hnone]
    exact Bool.false_ne_true

/-- Heartbeats, a replaced worker, and the crash of its replacement. -/
def exportedRun : List ExportAction :=
  [.primary .run, .install, .primary .pluginsInstalled, .primary (.workerOnline 1),
    .primary (.workerMessage 1 (some ⟨"__wm:hb", some 7, some 5, some 0⟩)),
    .primary (.workerExit 1 (some 1) none), .primary (.tick 60000),
    .primary (.timer .backoffWait), .primary (.workerOnline 2),
    .primary (.workerMessage 2 (some ⟨"__wm:hb", some 9, some 6, some 1⟩))]

theorem prometheus_reports_events_run :
    ∃ y : Exported PrometheusMetrics,
      (exported prometheus {} (.fixed 1) fun _ => none).Reachable y ∧
        y.metrics.workerRestarts = 1 ∧ y.primary.metrics.workerRestarts = 1 ∧
        y.metrics.workerRss.get? 2 = some 9 ∧ y.metrics.workerRss.get? 1 = none := by
  obtain ⟨y, hreach, hq⟩ := exists_reachable_of_any
    (exported prometheus {} (.fixed 1) fun _ => none) exportedRun
    (fun y => y.bound && decide (y.before = []) && decide (y.primary.metrics.workerRestarts = 1) &&
      decide (y.metrics.workerRss.get? 2 = some 9) && !y.primary.isShuttingDown &&
      decide (1 ∈ y.primary.workerIds) && y.primary.isDead 1) (by decide +kernel)
  simp only [Bool.and_eq_true, decide_eq_true_eq, Bool.not_eq_true'] at hq
  obtain ⟨⟨⟨⟨⟨⟨hb, hbefore⟩, hone⟩, hrss⟩, hs⟩, hid⟩, hdead⟩ := hq
  obtain ⟨new, -, -, hrestarts, -, hgone⟩ := prometheus_reports_events hreach hb
  rw [hbefore, hone] at hrestarts
  exact ⟨y, hreach, hrestarts, hone, hrss, (hgone hs 1 hid hdead).1⟩

/-! ## Two exporters on one primary -/

section Pair

variable {μ : Type u} {ν : Type v} {x : Exporter μ} {x' : Exporter ν} {y : Exported μ × Exported ν}

/-- Seen from an exporter, a step of the pair is a step of its own, or nothing. -/
theorem pair_first {z : Exported μ × Exported ν} {b : PairAction}
    (h : Exported.stepPair x x' e y b = some z) :
    (exported x e count env).Run (fun _ _ => True) y.1 z.1 := by
  cases b with
  | primary a =>
    obtain ⟨first, hfirst, hrest⟩ := Option.bind_eq_some_iff.mp h
    obtain ⟨second, -, rfl⟩ := Option.map_eq_some_iff.mp hrest
    exact .single (a := .primary a) trivial hfirst
  | installFirst =>
    obtain ⟨first, hfirst, rfl⟩ := Option.map_eq_some_iff.mp h
    exact .single (a := .install) trivial hfirst
  | uninstallFirst =>
    obtain ⟨first, hfirst, rfl⟩ := Option.map_eq_some_iff.mp h
    exact .single (a := .uninstall) trivial hfirst
  | installSecond | uninstallSecond =>
    obtain ⟨second, -, rfl⟩ := Option.map_eq_some_iff.mp h
    exact .refl

theorem pair_second {z : Exported μ × Exported ν} {b : PairAction}
    (h : Exported.stepPair x x' e y b = some z) :
    (exported x' e count env).Run (fun _ _ => True) y.2 z.2 := by
  cases b with
  | primary a =>
    obtain ⟨first, -, hrest⟩ := Option.bind_eq_some_iff.mp h
    obtain ⟨second, hsecond, rfl⟩ := Option.map_eq_some_iff.mp hrest
    exact .single (a := .primary a) trivial hsecond
  | installSecond =>
    obtain ⟨second, hsecond, rfl⟩ := Option.map_eq_some_iff.mp h
    exact .single (a := .install) trivial hsecond
  | uninstallSecond =>
    obtain ⟨second, hsecond, rfl⟩ := Option.map_eq_some_iff.mp h
    exact .single (a := .uninstall) trivial hsecond
  | installFirst | uninstallFirst =>
    obtain ⟨first, -, rfl⟩ := Option.map_eq_some_iff.mp h
    exact .refl

theorem pair_reachable (h : (exportedPair x x' e count env).Reachable y) :
    (exported x e count env).Reachable y.1 ∧ (exported x' e count env).Reachable y.2 :=
  ⟨Reachable.project h rfl fun _ _ _ hs => pair_first hs,
    Reachable.project h rfl fun _ _ _ hs => pair_second hs⟩

/-- What an exporter does to the primary does not depend on the exporter. -/
theorem exported_primary_eq {y : Exported μ} {y' : Exported ν} {z : Exported μ} {z' : Exported ν}
    {a : Action} (heq : y.primary = y'.primary) (h : Exported.step x e y (.primary a) = some z)
    (h' : Exported.step x' e y' (.primary a) = some z') : z.primary = z'.primary := by
  rw [Exported.step] at h h'
  rw [← heq] at h'
  split at h
  · cases h
  · rename_i hexited
    rw [if_neg hexited] at h'
    obtain ⟨t, ht, rfl⟩ := Option.map_eq_some_iff.mp h
    obtain ⟨t', ht', rfl⟩ := Option.map_eq_some_iff.mp h'
    exact Option.some.inj (ht.symm.trans ht')

/-- An installation and an uninstallation leave the primary as it is. -/
theorem exported_plugin_primary {y z : Exported μ} {b : ExportAction}
    (h : Exported.step x e y b = some z) (hb : ∀ a, b ≠ .primary a) : z.primary = y.primary := by
  cases b with
  | primary a => exact absurd rfl (hb a)
  | install =>
    rw [Exported.step] at h
    split at h <;> cases h
    rfl
  | uninstall =>
    rw [Exported.step] at h
    split at h <;> cases h
    rfl

/-- Both exporters are on the same primary. -/
theorem pair_primary (h : (exportedPair x x' e count env).Reachable y) :
    y.1.primary = y.2.primary := by
  refine Reachable.induct (P := fun y => y.1.primary = y.2.primary) h rfl ?_
  intro y b z hy hs
  change Exported.stepPair x x' e y b = some z at hs
  cases b with
  | primary a =>
    obtain ⟨first, hfirst, hrest⟩ := Option.bind_eq_some_iff.mp hs
    obtain ⟨second, hsecond, rfl⟩ := Option.map_eq_some_iff.mp hrest
    exact exported_primary_eq hy hfirst hsecond
  | installFirst | uninstallFirst =>
    obtain ⟨first, hfirst, rfl⟩ := Option.map_eq_some_iff.mp hs
    exact (exported_plugin_primary hfirst (by simp)).trans hy
  | installSecond | uninstallSecond =>
    obtain ⟨second, hsecond, rfl⟩ := Option.map_eq_some_iff.mp hs
    exact hy.trans (exported_plugin_primary hsecond (by simp)).symm

end Pair

/-- What is older does not change the last report. -/
theorem lastReport_append {id : Nat} {report : WorkerHealthReport} {new : List Event}
    (h : lastReport id new = some report) (old : List Event) :
    lastReport id (new ++ old) = some report := by
  induction new with
  | nil => cases h
  | cons ev new ih =>
    cases ev with
    | workerHealth r =>
      rw [List.cons_append, lastReport]
      rw [lastReport] at h
      split at h
      · rename_i hid
        rw [if_pos hid, h]
      · rename_i hid
        rw [if_neg hid]
        exact ih h
    | workerExit workerId code signal graceful =>
      rw [List.cons_append, lastReport]
      rw [lastReport] at h
      split at h
      · cases h
      · rename_i hid
        rw [if_neg hid]
        exact ih h
    | _ => exact ih h

/-- Where two listeners both have a last report of a worker, it is the same. -/
theorem lastReport_agree {id : Nat} {report report' : WorkerHealthReport}
    {new new' before before' : List Event} (hlog : new ++ before = new' ++ before')
    (h : lastReport id new = some report) (h' : lastReport id new' = some report') :
    report = report' := by
  have hwhole := lastReport_append h before
  rw [hlog, lastReport_append h' before'] at hwhole
  exact (Option.some.inj hwhole).symm

/-- What was counted since then, and what came before it, is what was counted in all. -/
theorem count_agree {p : Event → Bool} {new new' before before' : List Event} {n n' : Nat}
    (hlog : new ++ before = new' ++ before') (h : n = new.countP p) (h' : n' = new'.countP p) :
    n + before.countP p = n' + before'.countP p := by
  rw [h, h', ← List.countP_append, ← List.countP_append, hlog]

/-- The OTLP plugin has a sample of a worker if its last report is there. -/
theorem OtlpMetrics.Reports.sample {log : List Event} {m : OtlpMetrics} (h : m.Reports log)
    {id : Nat} {sample : WorkerHealthSample} (hs : m.workerHealth.get? id = some sample) :
    ∃ report, lastReport id log = some report ∧ report.values = sample.values := by
  have hvalues := h.workerHealth id
  rw [hs] at hvalues
  exact Option.map_eq_some_iff.mp hvalues.symm

/-- **The exporters agree.** In every run in which both plugins are bound to one primary,
whichever was installed first and whatever was emitted in between, each total of the one with
what it missed is that of the other with what that missed, and where both have the values of a
worker they are the same. If both missed the same, they export the same; and if the OTLP
plugin missed nothing, then while the primary serves every worker that was ever forked is
active, crashed by its count, or shut down gracefully. -/
theorem exporters_agree {y : Exported PrometheusMetrics × Exported OtlpMetrics}
    (h : (exportedPair prometheus otlp e count env).Reachable y) (hb : y.1.bound = true)
    (hb' : y.2.bound = true) :
    (y.1.metrics.workerRestarts + y.1.before.countP Event.isRestart =
        y.2.metrics.workerRestartsCounter + y.2.before.countP Event.isRestart ∧
      y.1.metrics.workerCrashes + y.1.before.countP Event.isCrash =
        y.2.metrics.workerCrashesCounter + y.2.before.countP Event.isCrash ∧
      y.1.metrics.circuitBreakerTrips + y.1.before.countP Event.isTrip =
        y.2.metrics.circuitBreakerTripsCounter + y.2.before.countP Event.isTrip ∧
      (∀ reason, y.1.metrics.workerRecycles reason + y.1.before.countP (Event.isRecycle reason) =
        y.2.metrics.workerRecyclesCounter reason + y.2.before.countP (Event.isRecycle reason)) ∧
      y.1.metrics.wedgedKills + y.1.before.countP Event.isWedged =
        y.2.metrics.wedgedKillsCounter + y.2.before.countP Event.isWedged) ∧
    (∀ id, ∀ sample ∈ y.2.metrics.workerHealth.get? id,
      (∀ rss ∈ y.1.metrics.workerRss.get? id, rss = sample.rss) ∧
      (∀ heap ∈ y.1.metrics.workerHeap.get? id, heap = sample.heapUsed) ∧
      (∀ lag ∈ y.1.metrics.workerLag.get? id, lag = sample.eventLoopLagMs)) ∧
    (y.1.before = y.2.before →
      y.1.metrics.recoveryDuration = y.2.metrics.recoveryDurationGauge ∧
      ∀ id, y.1.metrics.workerRss.get? id =
          (y.2.metrics.workerHealth.get? id).map WorkerHealthSample.rss ∧
        y.1.metrics.workerHeap.get? id =
          (y.2.metrics.workerHealth.get? id).map WorkerHealthSample.heapUsed ∧
        y.1.metrics.workerLag.get? id =
          (y.2.metrics.workerHealth.get? id).map WorkerHealthSample.eventLoopLagMs) ∧
    (y.2.before = [] → y.2.primary.isShuttingDown = false →
      y.2.metrics.workerCrashesCounter + y.2.primary.metrics.gracefulShutdowns +
        y.2.primary.metrics.activeWorkers = y.2.primary.cluster.ids) := by
  obtain ⟨hfirst, hsecond⟩ := pair_reachable h
  obtain ⟨new, hnew, hp⟩ := Exporter.hears (P := PrometheusMetrics.Reports)
    PrometheusMetrics.Reports.fresh (fun now m ev _ _ hP => hP.listen now m ev) hfirst hb
  obtain ⟨new', hnew', ho⟩ := Exporter.hears (P := OtlpMetrics.Reports)
    (fun _ => ⟨rfl, rfl, rfl, fun _ => rfl, rfl, rfl, fun _ => rfl⟩)
    (fun now m ev _ _ hP => hP.listen now m ev) hsecond hb'
  have hlog : new ++ y.1.before = new' ++ y.2.before := by
    rw [← hnew, ← hnew', pair_primary h]
  refine ⟨⟨count_agree hlog hp.workerRestarts ho.workerRestarts,
    count_agree hlog hp.workerCrashes ho.workerCrashes,
    count_agree hlog hp.circuitBreakerTrips ho.circuitBreakerTrips,
    fun reason => count_agree hlog (hp.workerRecycles reason) (ho.workerRecycles reason),
    count_agree hlog hp.wedgedKills ho.wedgedKills⟩, ?_, ?_, ?_⟩
  · intro id sample hsample
    obtain ⟨report, hreport, hvalues⟩ := ho.sample hsample
    -- a value of the prometheus plugin is that of its last report
    have hpart {f : WorkerHealthReport → Int} {m : OrdMap Int} (hm : Samples f new m) :
        ∀ value ∈ m.get? id, value = f report := by
      intro value hvalue
      obtain ⟨report', hreport', rfl⟩ := Option.map_eq_some_iff.mp ((hm id).symm.trans hvalue)
      rw [lastReport_agree hlog hreport' hreport]
    exact ⟨fun rss hrss => (hpart hp.workerRss rss hrss).trans (congrArg Prod.fst hvalues),
      fun heap hheap => (hpart hp.workerHeap heap hheap).trans
        (congrArg (fun v => v.2.1) hvalues),
      fun lag hlag => (hpart hp.workerLag lag hlag).trans (congrArg (fun v => v.2.2) hvalues)⟩
  · intro hbefore
    rw [hbefore] at hlog
    obtain rfl := List.append_cancel_right hlog
    refine ⟨hp.recoveryDuration.trans ho.recoveryDuration.symm, fun id => ?_⟩
    have hpart (f : Int × Int × Int → Int) :
        (lastReport id new).map (f ∘ WorkerHealthReport.values) =
          (y.2.metrics.workerHealth.get? id).map (f ∘ WorkerHealthSample.values) := by
      rw [← Option.map_map, ← ho.workerHealth id, Option.map_map]
    exact ⟨(hp.workerRss id).trans (hpart Prod.fst),
      (hp.workerHeap id).trans (hpart fun v => v.2.1),
      (hp.workerLag id).trans (hpart fun v => v.2.2)⟩
  · intro hbefore hs
    have hreach := exported_reachable hsecond
    obtain ⟨j, hj, htells, hset⟩ := reachable_kept hreach
    obtain ⟨-, -, hgraceful, hactive⟩ := metrics_count_events hreach
    have hcount := (replay_serving hj (htells.serving hs)).1
    rw [Journal.crashes_of_settled hset] at hcount
    rw [hbefore, List.append_nil] at hnew'
    rw [ho.workerCrashes, ← hnew', hgraceful]
    omega

/-- Once a roll refills the fleet while the OTLP plugin waits for its exporter: it missed that
restart. Once both plugins are installed before anything is emitted. -/
theorem exporters_agree_run :
    (∃ y : Exported PrometheusMetrics × Exported OtlpMetrics,
      (exportedPair prometheus otlp {} (.fixed 1) fun _ => none).Reachable y ∧
        y.1.before.countP Event.isRestart = 0 ∧ y.2.before.countP Event.isRestart = 1 ∧
        y.1.metrics.workerRestarts = y.2.metrics.workerRestartsCounter + 1 ∧
        y.1.metrics.workerRss.get? 1 = some 7) ∧
    ∃ y : Exported PrometheusMetrics × Exported OtlpMetrics,
      (exportedPair prometheus otlp {} (.fixed 1) fun _ => none).Reachable y ∧
        y.2.metrics.workerHealth.get? 2 ≠ none ∧ y.2.metrics.workerCrashesCounter = 1 ∧
        y.2.metrics.workerCrashesCounter + y.2.primary.metrics.gracefulShutdowns +
          y.2.primary.metrics.activeWorkers = y.2.primary.cluster.ids := by
  constructor
  · obtain ⟨y, hreach, hq⟩ := exists_reachable_of_any
      (exportedPair prometheus otlp {} (.fixed 1) fun _ => none)
      [.primary .run, .installFirst, .primary (.restartWorkers {}),
        .primary (.resume .rollReturned), .primary (.tick 60000), .primary (.timer .backoffWait),
        .installSecond, .primary .pluginsInstalled, .primary (.workerOnline 1),
        .primary (.workerMessage 1 (some ⟨"__wm:hb", some 7, some 5, some 0⟩))]
      (fun y => y.1.bound && y.2.bound && decide (y.1.before.countP Event.isRestart = 0) &&
        decide (y.2.before.countP Event.isRestart = 1) &&
        decide (y.1.metrics.workerRss.get? 1 = some 7)) (by decide +kernel)
    simp only [Bool.and_eq_true, decide_eq_true_eq] at hq
    obtain ⟨⟨⟨⟨hb, hb'⟩, hnone⟩, hone⟩, hrss⟩ := hq
    have hrestarts := (exporters_agree hreach hb hb').1.1
    rw [hnone, hone] at hrestarts
    exact ⟨y, hreach, hnone, hone, hrestarts, hrss⟩
  · obtain ⟨y, hreach, hq⟩ := exists_reachable_of_any
      (exportedPair prometheus otlp {} (.fixed 1) fun _ => none)
      [.primary .run, .installFirst, .installSecond, .primary .pluginsInstalled,
        .primary (.workerOnline 1), .primary (.workerExit 1 (some 1) none),
        .primary (.tick 60000), .primary (.timer .backoffWait), .primary (.workerOnline 2),
        .primary (.workerMessage 2 (some ⟨"__wm:hb", some 9, some 6, some 1⟩))]
      (fun y => y.1.bound && y.2.bound && decide (y.1.before = []) && decide (y.2.before = []) &&
        decide (y.1.metrics.workerCrashes = 1) && (y.1.metrics.workerRss.get? 2).isSome &&
        !y.2.primary.isShuttingDown) (by decide +kernel)
    simp only [Bool.and_eq_true, decide_eq_true_eq, Bool.not_eq_true'] at hq
    obtain ⟨⟨⟨⟨⟨⟨hb, hb'⟩, hfirst⟩, hsecond⟩, hone⟩, hrss⟩, hs⟩ := hq
    obtain ⟨⟨-, hcrashes, -⟩, -, hsame, hall⟩ := exporters_agree hreach hb hb'
    refine ⟨y, hreach, fun hnone => ?_, ?_, hall hsecond hs⟩
    · rw [((hsame (hfirst.trans hsecond.symm)).2 2).1, hnone] at hrss
      cases hrss
    · rw [hfirst, hsecond, hone] at hcrashes
      exact hcrashes.symm

end ClusterKit
