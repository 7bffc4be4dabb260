import ClusterKit.FleetEvents
import ClusterKit.Lib.Observer
import ClusterKit.Validation

/-! How long the fleet has been below its target. The timer behind `fleet:degraded` is armed by an
exit and cleared only by an online event or another exit, so it does not see a fork that closes
the gap. -/

namespace ClusterKit

open State

variable {e : Host} {s t : State} {a : Action}

/-! ## How long the fleet has been below its target -/

/-- One `fleet:degraded`, with what held when it was emitted. -/
structure DegradedReport where
  target : Nat
  active : Nat
  time : Nat
  belowSince : Option Nat

/-- The fleet was below its target, and had been for the whole hysteresis. -/
def DegradedReport.Lawful (e : Host) (report : DegradedReport) : Prop :=
  report.active < report.target ∧ ∃ since, report.belowSince = some since ∧
    since + e.cfg.health.degradedAfterMs ≤ report.time

structure FleetNotes where
  /-- Since when `activeWorkers` has been below the target, if it is. -/
  belowSince : Option Nat := some 0
  /-- The target was reached while the timer was armed, and no event has found it so since. -/
  gapClosed : Bool := false
  /-- Newest first. -/
  reports : List DegradedReport := []

namespace State

/-- The fleet is below its target. -/
def isBelow (e : Host) (s : State) : Bool :=
  decide (s.metrics.activeWorkers < s.resolveWorkerCount e)

/-- An online event or an exit that is handled finds the fleet at its target. -/
def heardFull (e : Host) (s : State) (a : Action) : Bool :=
  a.recountsFleet && !s.manager.disposed && decide (s.resolveWorkerCount e ≤ s.activeAfter a)

/-- The fleet reaches its target from `s` to `t`: somebody was forked, or the target was lowered. -/
def reachesTarget (e : Host) (s t : State) : Bool :=
  (decide (s.cluster.ids < t.cluster.ids) ||
    decide (t.resolveWorkerCount e < s.resolveWorkerCount e)) && !t.isBelow e

end State

def belowSince (e : Host) (t : State) (since : Option Nat) : Option Nat :=
  if t.isBelow e then some (since.getD t.now) else none

/-- The observer of the fleet. -/
def noteFleet (e : Host) (s : State) (a : Action) (t : State) (notes : FleetNotes) : FleetNotes where
  belowSince := belowSince e t notes.belowSince
  gapClosed := !s.heardFull e a &&
    (notes.gapClosed || t.orch.degradedTimer.isSome && reachesTarget e s t)
  reports :=
    if s.fleetSignals.count .degraded < t.fleetSignals.count .degraded then
      { target := t.resolveWorkerCount e, active := t.metrics.activeWorkers, time := t.now,
        belowSince := belowSince e t notes.belowSince } :: notes.reports
    else notes.reports

/-- When the timer fires outside a shutdown, no fork has closed the gap while it was armed. -/
def gapStillOpen (x : State × FleetNotes) : Action → Bool
  | .timer .degraded => x.1.isShuttingDown || !x.2.gapClosed
  | _ => true

/-- Only the timer says that the fleet is degraded. -/
theorem degraded_count_act (hw : WellFormed s) (hact : s.act e a = some t)
    (ha : a ≠ .timer .degraded) :
    t.fleetSignals.count .degraded = s.fleetSignals.count .degraded := by
  refine (act_turns hw hact).preserves
    (P := fun x => x.fleetSignals.count .degraded = s.fleetSignals.count .degraded) hw
    (fun x y _ hx hxy => ?_) rfl
  rw [← hx]
  cases hxy.fleetTurn with
  | kept _ hk => rw [hk.signals]
  | recomputed ha' =>
    unfold recomputeFleetHealth
    split
    · rfl
    · simp only
      split
      · cases x.orch.fleetDegraded with
        | true => exact List.count_cons_of_ne (by decide)
        | false => rfl
      · split <;> rfl
  | elapsed _ ha' ht => exact absurd ha' ha
  | stopped _ hsignals hs ht => rw [hsignals]

/-- An armed timer was armed before this segment, or now. -/
theorem degradedSince_act (hw : WellFormed s) (hact : s.act e a = some t)
    (ht : t.orch.degradedTimer.isSome = true) :
    s.orch.degradedTimer.isSome = true ∧ t.orch.degradedSince = s.orch.degradedSince ∨
      t.orch.degradedSince = t.now := by
  by_cases htick : ∃ ms, a = .tick ms
  · obtain ⟨ms, rfl⟩ := htick
    rw [← Option.some.inj hact] at ht ⊢
    exact .inl ⟨ht, rfl⟩
  · have hne : ∀ ms, a ≠ .tick ms := fun ms heq => htick ⟨ms, heq⟩
    have hboth := (act_turns hw hact).preserves
      (P := fun x => x.now = s.now ∧ (x.orch.degradedTimer.isSome = true →
        s.orch.degradedTimer.isSome = true ∧ x.orch.degradedSince = s.orch.degradedSince ∨
          x.orch.degradedSince = x.now)) hw ?_ ⟨rfl, fun h => .inl ⟨h, rfl⟩⟩
    · exact hboth.2 ht
    · rintro x y - ⟨hnow, hx⟩ hxy
      have hynow : y.now = x.now := hxy.elim Effect.now_eq (Bit.now_eq hne)
      refine ⟨hynow.trans hnow, fun hy => ?_⟩
      rw [hynow]
      cases hxy.fleetTurn with
      | kept _ hk =>
        rw [hk.since]
        exact hx (hk.timer ▸ hy)
      | recomputed ha =>
        unfold recomputeFleetHealth at hy ⊢
        split at hy
        · rename_i hidle
          rw [if_pos hidle]
          exact hx hy
        · rename_i hasked
          rw [if_neg hasked]
          simp only at hy ⊢
          split at hy
          · cases hy
          · rename_i hbelow
            rw [if_neg hbelow]
            split at hy
            · rename_i harmed
              rw [if_pos harmed]
              exact hx hy
            · rename_i hidle
              rw [if_neg hidle]
              exact .inr rfl
      | elapsed _ ha h =>
        rw [degradedElapsed_eq h] at hy
        cases hy
      | stopped _ hsignals hs htimer =>
        rw [htimer] at hy
        cases hy

/-- What is known of the notes between two segments. -/
structure FleetNoted (e : Host) (x : State × FleetNotes) : Prop where
  below : x.2.belowSince.isSome = x.1.isBelow e
  past : ∀ since, x.2.belowSince = some since → since ≤ x.1.now
  gap : x.1.orch.degradedTimer.isSome = true → x.2.gapClosed = false →
    ∃ since, x.2.belowSince = some since ∧ since ≤ x.1.orch.degradedSince
  reports : x.2.reports.length = x.1.fleetSignals.count .degraded
  lawful : ∀ report ∈ x.2.reports, report.Lawful e

theorem belowSince_isSome (t : State) (since : Option Nat) :
    (belowSince e t since).isSome = t.isBelow e := by
  unfold belowSince
  cases t.isBelow e with
  | true => rfl
  | false => rfl

theorem belowSince_past {past : Option Nat} (hpast : ∀ since, past = some since → since ≤ t.now)
    {since : Nat} (h : belowSince e t past = some since) : since ≤ t.now := by
  unfold belowSince at h
  split at h
  · cases past with
    | none => exact (Option.some.inj h).symm.le
    | some past => exact Option.some.inj h ▸ hpast past rfl
  · cases h

/-- An event that finds the fleet at its target stops the timer. -/
theorem heardFull_timer (htold : FleetTold e s) (hw : WellFormed s) (hact : s.act e a = some t)
    (hfull : s.heardFull e a = true) : t.orch.degradedTimer = none := by
  by_contra harmed
  obtain ⟨deadline, hdeadline⟩ := Option.ne_none_iff_exists'.mp harmed
  obtain ⟨ht, -, hms, -⟩ := (htold.act hw hact).timer deadline hdeadline
  have hs := (act_pieces hw hact).later.not_shutting ht
  rw [heardFull, Bool.and_eq_true, Bool.and_eq_true, decide_eq_true_eq, Bool.not_eq_true'] at hfull
  obtain ⟨⟨ha, hd⟩, hle⟩ := hfull
  cases a with
  | workerOnline id => exact harmed ((workerOnline_heard hd hact).timer hs hms hle)
  | workerExit id code signal => exact harmed ((workerExit_heard hw hact).timer hs hms hle)
  | _ => cases ha

/-- Nothing else arms the timer. -/
theorem degradedTimer_act (hw : WellFormed s) (hact : s.act e a = some t)
    (ha : a.recountsFleet = false) (ht : t.orch.degradedTimer.isSome = true) :
    s.orch.degradedTimer.isSome = true := by
  refine (act_turns hw hact).preserves
    (P := fun x => x.orch.degradedTimer.isSome = true → s.orch.degradedTimer.isSome = true) hw
    (fun x y _ hx hxy hy => ?_) (fun h => h) ht
  cases hxy.fleetTurn with
  | kept _ hk => exact hx (hk.timer ▸ hy)
  | recomputed ha' => exact absurd (ha.symm.trans ha') Bool.false_ne_true
  | elapsed _ ha' h =>
    rw [degradedElapsed_eq h] at hy
    cases hy
  | stopped _ hsignals hs htimer =>
    rw [htimer] at hy
    cases hy

/-- With the timer armed, the target is not reached unnoticed. -/
theorem FleetNoted.below_act {notes : FleetNotes} (h : FleetNoted e (s, notes))
    (htold : FleetTold e s) (hstaffed : Staffed s) (hw : WellFormed s) (hact : s.act e a = some t)
    (harmed : t.orch.degradedTimer.isSome = true) (hopen : notes.gapClosed = false)
    (hheard : s.heardFull e a = false) (hreach : reachesTarget e s t = false) :
    t.isBelow e = true := by
  have hlater := (act_pieces hw hact).later
  obtain ⟨deadline, hdeadline⟩ := Option.isSome_iff_exists.mp harmed
  have ht := ((htold.act hw hact).timer deadline hdeadline).1
  have hs := hlater.not_shutting ht
  have hlistens {x : State} (hx : WellFormed x) (hlive : x.isShuttingDown = false) :
      x.manager.disposed = false := by
    by_contra hd
    rw [Bool.not_eq_false] at hd
    exact Bool.false_ne_true (hlive.symm.trans (hx.disposed hd))
  by_contra hfull
  rw [Bool.not_eq_true] at hfull
  rw [reachesTarget, hfull, Bool.not_false, Bool.and_true, Bool.or_eq_false_iff,
    decide_eq_false_iff_not, decide_eq_false_iff_not] at hreach
  have hids : t.cluster.ids = s.cluster.ids := Nat.le_antisymm (Nat.not_lt.mp hreach.1) hlater.ids
  have hd := hlistens hw hs
  have hdt := hlistens (hw.pieces (act_pieces hw hact)) ht
  have hactive := active_act_le hw hstaffed hact hids hdt hd
  rw [isBelow, decide_eq_false_iff_not] at hfull
  have hle : s.resolveWorkerCount e ≤ s.activeAfter a := by omega
  cases ha : a.recountsFleet with
  | true =>
    rw [heardFull, ha, hd, decide_eq_true hle] at hheard
    exact Bool.false_ne_true hheard.symm
  | false =>
    -- the gap was open before
    obtain ⟨since, hsince, -⟩ := h.gap (degradedTimer_act hw hact ha harmed) hopen
    have hsince : notes.belowSince = some since := hsince
    have hbelow : s.isBelow e = true := by
      have hbelow := h.below
      rw [hsince] at hbelow
      exact hbelow.symm
    have hafter : s.activeAfter a = s.metrics.activeWorkers := by
      cases a with
      | workerExit => cases ha
      | _ => rfl
    rw [isBelow, decide_eq_true_eq] at hbelow
    omega

/-- The gap is noted, whatever the segment is. -/
theorem FleetNoted.gap_act {notes : FleetNotes} (h : FleetNoted e (s, notes)) (htold : FleetTold e s)
    (hstaffed : Staffed s) (hw : WellFormed s) (hact : s.act e a = some t)
    (ht : t.orch.degradedTimer.isSome = true)
    (hopen : (noteFleet e s a t notes).gapClosed = false) :
    ∃ since, belowSince e t notes.belowSince = some since ∧ since ≤ t.orch.degradedSince := by
  have hheard : s.heardFull e a = false := by
    by_contra hfull
    rw [Bool.not_eq_false] at hfull
    rw [heardFull_timer htold hw hact hfull] at ht
    cases ht
  have hopen : (!s.heardFull e a &&
      (notes.gapClosed || t.orch.degradedTimer.isSome && reachesTarget e s t)) = false := hopen
  rw [hheard, ht, Bool.not_false, Bool.true_and, Bool.true_and, Bool.or_eq_false_iff] at hopen
  obtain ⟨hkept, hreach⟩ := hopen
  have hbelow := h.below_act htold hstaffed hw hact ht hkept hheard hreach
  have hlater : s.now ≤ t.now := act_now_le hw hact
  rcases degradedSince_act hw hact ht with ⟨harmed, hsame⟩ | hnow
  · -- armed before: the gap is the one of then
    obtain ⟨since, hsince, hle⟩ := h.gap harmed hkept
    have hsince : notes.belowSince = some since := hsince
    refine ⟨since, ?_, hsame ▸ hle⟩
    rw [belowSince, hbelow, if_pos rfl, hsince]
    rfl
  · -- armed now
    obtain ⟨since, hsince⟩ : ∃ since, belowSince e t notes.belowSince = some since :=
      Option.isSome_iff_exists.mp ((belowSince_isSome t _).trans hbelow)
    refine ⟨since, hsince, hnow ▸ belowSince_past (fun past hpast => ?_) hsince⟩
    exact (h.past past hpast).trans hlater

/-- The timer fires over the gap at which it was armed. -/
theorem FleetNoted.elapsed {notes : FleetNotes} (h : FleetNoted e (s, notes)) (htold : FleetTold e s)
    (ht : s.degradedElapsed e = some t) (hok : gapStillOpen (s, notes) (.timer .degraded) = true) :
    ∀ report ∈ (noteFleet e s (.timer .degraded) t notes).reports, report.Lawful e := by
  obtain ⟨deadline, htimer, hdue, hmetrics, hnow, hcount, hsignals⟩ := degradedElapsed_cases ht
  obtain ⟨hs, -, -, hdeadline⟩ := htold.timer deadline htimer
  rw [gapStillOpen, hs, Bool.false_or, Bool.not_eq_true'] at hok
  have harmed : s.orch.degradedTimer.isSome = true := by rw [htimer]; rfl
  obtain ⟨since, hsince, hle⟩ := h.gap harmed hok
  have hsince : notes.belowSince = some since := hsince
  have hle : since ≤ s.orch.degradedSince := hle
  have htarget : t.resolveWorkerCount e = s.resolveWorkerCount e := resolveWorkerCount_congr hcount
  have hbelow : t.isBelow e = true := by
    have hs : s.isBelow e = true := h.below.symm.trans (by rw [hsince]; rfl)
    rw [isBelow, hmetrics, htarget]
    exact hs
  have hstill : belowSince e t notes.belowSince = some since := by
    rw [belowSince, hbelow, hsince]
    rfl
  intro report hreport
  simp only [noteFleet] at hreport
  split at hreport
  · rcases List.mem_cons.mp hreport with rfl | hreport
    · refine ⟨of_decide_eq_true hbelow, since, hstill, ?_⟩
      show since + e.cfg.health.degradedAfterMs ≤ t.now
      omega
    · exact h.lawful report hreport
  · exact h.lawful report hreport

/-- Each segment emits at most one `fleet:degraded`, and it is noted. -/
theorem FleetNoted.reports_act {notes : FleetNotes} (h : FleetNoted e (s, notes)) (hw : WellFormed s)
    (hact : s.act e a = some t) :
    (noteFleet e s a t notes).reports.length = t.fleetSignals.count .degraded := by
  have hsame (heq : t.fleetSignals.count .degraded = s.fleetSignals.count .degraded) :
      (noteFleet e s a t notes).reports.length = t.fleetSignals.count .degraded := by
    simp only [noteFleet, heq, Nat.lt_irrefl, if_false]
    exact h.reports
  by_cases ha : a = .timer .degraded
  · subst ha
    obtain ⟨deadline, -, -, -, -, -, hsignals⟩ := degradedElapsed_cases hact
    split at hsignals
    · exact hsame (by rw [hsignals])
    · have hmore : t.fleetSignals.count .degraded = s.fleetSignals.count .degraded + 1 := by
        rw [hsignals]
        exact List.count_cons_self
      simp only [noteFleet, hmore, Nat.lt_succ_self, if_true]
      rw [List.length_cons, h.reports]
  · exact hsame (degraded_count_act hw hact ha)

/-- **Segment rule.** -/
theorem FleetNoted.act {notes : FleetNotes} (h : FleetNoted e (s, notes)) (htold : FleetTold e s)
    (hstaffed : Staffed s) (hw : WellFormed s) (hact : s.act e a = some t)
    (hok : gapStillOpen (s, notes) a = true) :
    FleetNoted e (t, noteFleet e s a t notes) := by
  constructor
  case below => exact belowSince_isSome t _
  case past =>
    intro since hsince
    exact belowSince_past (fun past hpast => (h.past past hpast).trans (act_now_le hw hact)) hsince
  case gap => exact h.gap_act htold hstaffed hw hact
  case reports => exact h.reports_act hw hact
  case lawful =>
    by_cases ha : a = .timer .degraded
    · subst ha
      exact h.elapsed htold hact hok
    · have hsame := degraded_count_act hw hact ha
      simp only [noteFleet, hsame, Nat.lt_irrefl, if_false]
      exact h.lawful

/-! ## Runs -/

section Runs

variable {count : WorkerCount} {env : ProcessEnv}

/-- **Fleet degradation events**: they alternate, and each was preceded by a gap as long as the
hysteresis if the timer never fires after a fork has closed the gap. -/
theorem fleet_degraded_after_hysteresis (e : Host) (count : WorkerCount) (env : ProcessEnv)
    (x : State × FleetNotes)
    (hrun : ((orchestrator e count env).observed {} (noteFleet e)).Run
      (fun y a => gapStillOpen y a = true) (State.initial e count env, {}) x) :
    Alternating x.1.fleetSignals ∧
      x.2.reports.length = x.1.fleetSignals.count .degraded ∧
      ∀ report ∈ x.2.reports, report.Lawful e := by
  have hnoted : FleetNoted e x := by
    refine hrun.observed_preserves (Q := fun s => FleetTold e s ∧ Staffed s ∧ WellFormed s)
      (fun s hs => ⟨reachable_fleetTold hs, reachable_staffed hs, reachable_wellFormed hs⟩) ?_ ?_
    · rintro ⟨s, notes⟩ a t ⟨htold, hstaffed, hw⟩ h hok hstep
      exact h.act htold hstaffed hw (orchestrator_step hstep) hok
    · constructor
      case below => exact (decide_eq_true (resolveWorkerCount_pos e (State.initial e count env))).symm
      case past => exact fun since hsince => (Option.some.inj hsince).symm.le
      case gap => exact fun harmed => absurd harmed Bool.false_ne_true
      case reports => rfl
      case lawful => exact fun report hreport => absurd hreport List.not_mem_nil
  exact ⟨(reachable_fleetTold hrun.unobserved).alternating, hnoted.reports, hnoted.lawful⟩

/-- A gap that lasts, and its end. -/
theorem fleet_degraded_after_hysteresis_one_crash :
    ∃ x : State × FleetNotes, x.1.fleetSignals = [.recovered, .degraded] ∧
      x.2.reports.length = x.1.fleetSignals.count .degraded ∧
      ∀ report ∈ x.2.reports, report.Lawful { cfg := { health := { degradedAfterMs := 500 } } } := by
  have hrun := StepSystem.exists_run_of_any
    ((orchestrator { cfg := { health := { degradedAfterMs := 500 } } } (.fixed 2)
      fun _ => none).observed {} (noteFleet { cfg := { health := { degradedAfterMs := 500 } } }))
    (State.initial { cfg := { health := { degradedAfterMs := 500 } } } (.fixed 2) fun _ => none, {})
    gapStillOpen
    [.run, .pluginsInstalled, .workerOnline 1, .workerOnline 2, .workerExit 1 (some 1) none,
      .tick 500, .timer .degraded, .tick 500, .timer .backoffWait, .workerOnline 3]
    (fun x => decide (x.1.fleetSignals = [.recovered, .degraded])) (by decide +kernel)
  obtain ⟨x, hrun, hx⟩ := hrun
  obtain ⟨-, hlawful⟩ := fleet_degraded_after_hysteresis _ (.fixed 2) _ x hrun
  exact ⟨x, of_decide_eq_true hx, hlawful⟩

/-- The replacement is forked in time and boots slowly: the fleet is said to be degraded with as
many workers as it should have. -/
theorem degraded_at_target :
    Host.Accepted { cfg := { health := { degradedAfterMs := 2000 } } } ∧
      ∃ x : State × FleetNotes,
        ((orchestrator { cfg := { health := { degradedAfterMs := 2000 } } } (.fixed 2)
          fun _ => none).observed {}
            (noteFleet { cfg := { health := { degradedAfterMs := 2000 } } })).Reachable x ∧
        ¬ ∀ report ∈ x.2.reports,
          report.Lawful { cfg := { health := { degradedAfterMs := 2000 } } } := by
  refine ⟨⟨{ health := { degradedAfterMs := some 2000 } }, rfl⟩, ?_⟩
  have hrun := StepSystem.exists_reachable_of_any
    ((orchestrator { cfg := { health := { degradedAfterMs := 2000 } } } (.fixed 2)
      fun _ => none).observed {} (noteFleet { cfg := { health := { degradedAfterMs := 2000 } } }))
    [.run, .pluginsInstalled, .workerOnline 1, .workerOnline 2, .workerExit 1 (some 1) none,
      .tick 1000, .timer .backoffWait, .tick 1000, .timer .degraded]
    (fun x => x.2.reports.any fun report => decide (report.active = report.target))
    (by decide +kernel)
  obtain ⟨x, hrun, hx⟩ := hrun
  obtain ⟨report, hreport, hsame⟩ := List.any_eq_true.mp hx
  refine ⟨x, hrun, fun hlawful => ?_⟩
  exact absurd (hlawful report hreport).1 (Nat.not_lt.mpr (of_decide_eq_true hsame).ge)

end Runs

end ClusterKit
