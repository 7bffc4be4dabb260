import ClusterKit.Outcome

/-! What the primary says about its fleet: degraded and recovered alternate in every run. -/

namespace ClusterKit

open State Relation

variable {e : Host} {s t : State} {a : Action}

/-! ## The signals -/

inductive FleetSignal where
  | degraded | recovered
  deriving DecidableEq

def Event.fleetSignal : Event → Option FleetSignal
  | .fleetDegraded .. => some .degraded
  | .fleetRecovered .. => some .recovered
  | _ => none

/-- Newest first. -/
def State.fleetSignals (s : State) : List FleetSignal := s.events.filterMap Event.fleetSignal

/-- Newest first: each signal follows the other, and the oldest is `degraded`. -/
def Alternating : List FleetSignal → Prop
  | [] => True
  | .degraded :: older => older.head? ≠ some .degraded ∧ Alternating older
  | .recovered :: older => older.head? = some .degraded ∧ Alternating older

theorem fleetSignal_of_mundane {ev : Event} (h : ev.mundane = true) : ev.fleetSignal = none := by
  cases ev with
  | fleetDegraded | fleetRecovered => cases h
  | _ => rfl

theorem fleetSignals_log {evs : List Event} (h : ∀ ev ∈ evs, ev.mundane = true) (s : State) :
    (s.log evs).fleetSignals = s.fleetSignals := by
  have hnone : evs.filterMap Event.fleetSignal = [] :=
    List.filterMap_eq_nil_iff.mpr fun ev hev => fleetSignal_of_mundane (h ev hev)
  rw [fleetSignals, log, List.filterMap_append, hnone, List.nil_append, fleetSignals]

/-! ## Turns -/

/-- The books about the health of the fleet were not touched. -/
structure FleetKept (s t : State) : Prop where
  signals : t.fleetSignals = s.fleetSignals
  degraded : t.orch.fleetDegraded = s.orch.fleetDegraded
  since : t.orch.degradedSince = s.orch.degradedSince
  timer : t.orch.degradedTimer = s.orch.degradedTimer
  shutting : t.isShuttingDown = s.isShuttingDown

/-- A turn of a segment, as far as the health of the fleet goes. -/
inductive FleetTurn (e : Host) (a : Action) (s : State) : State → Prop
  | kept (t : State) (h : FleetKept s t) : FleetTurn e a s t
  | recomputed (ha : a.recountsFleet = true) : FleetTurn e a s (s.recomputeFleetHealth e)
  | elapsed (t : State) (ha : a = .timer .degraded) (h : s.degradedElapsed e = some t) :
    FleetTurn e a s t
  | stopped (t : State) (hsignals : t.fleetSignals = s.fleetSignals)
      (hs : t.isShuttingDown = true) (ht : t.orch.degradedTimer = none) : FleetTurn e a s t

namespace FleetKept

theorem of_eq (he : t.events = s.events) (ho : t.orch = s.orch)
    (hs : t.isShuttingDown = s.isShuttingDown) : FleetKept s t :=
  ⟨by rw [fleetSignals, he, fleetSignals], by rw [ho], by rw [ho], by rw [ho], hs⟩

/-- A move of a shutdown. -/
theorem shutdown (h : ShutdownMove e s t) : FleetKept s t := by
  have hk := h.keeps
  refine ⟨?_, by rw [hk.orch], by rw [hk.orch], by rw [hk.orch], hk.shutting⟩
  rcases h.shape with heq | hresolved | hexited
  · rw [heq]
    rfl
  · rw [shutdownResolved_eq hresolved]
    rfl
  · rw [shutdownExitElapsed_eq hexited]
    rfl

end FleetKept

theorem Effect.fleetTurn (h : Effect e a s t) : FleetTurn e a s t := by
  cases h with
  | noted b evs hevs => exact .kept _ ⟨fleetSignals_log hevs (s.withNotes b), rfl, rfl, rfl, rfl⟩
  | recomputed ha => exact .recomputed ha
  | degraded t ha ht => exact .elapsed _ ha ht
  | backoffScheduled id ha hpos => rw [scheduleBackoffReset_eq]; exact .kept _ (.of_eq rfl rfl rfl)
  | backoffReset t ha ht => rw [backoffResetElapsed_eq ht]; exact .kept _ (.of_eq rfl rfl rfl)
  | attemptFailed entry ha hf => rw [restartFailed_eq]; exact .kept _ (.of_eq rfl rfl rfl)
  | drained r hr hd hs hwhy => rw [drainOldWorker_eq]; exact .kept _ (.of_eq rfl rfl rfl)
  | shutdown t hs hm => exact .kept _ (.shutdown hm)
  | _ => exact .kept _ ⟨rfl, rfl, rfl, rfl, rfl⟩

theorem Bit.fleetTurn (h : Bit e a s t) : FleetTurn e a s t := by
  cases h with
  | crashed => rw [noteCrash_eq]; exact .kept _ (.of_eq rfl rfl rfl)
  | queued => rw [queueCrash_eq]; exact .kept _ (.of_eq rfl rfl rfl)
  | resetRefilled | rollRefilled => rw [queueRefill_eq]; exact .kept _ (.of_eq rfl rfl rfl)
  | shutdownEntered _ signal hs =>
    have hentered := shutdownPrimary_entered (e := e) signal hs
    refine .stopped _ ?_ ?_ ?_
    · rw [fleetSignals, hentered.events]
      rfl
    · rw [isShuttingDown, hentered.shutdown]
    · rw [shutdownPrimary_eq signal hs]
      rfl
  | _ => exact .kept _ ⟨rfl, rfl, rfl, rfl, rfl⟩

/-! ## The flag, the timer and the last signal -/

/-- The books agree with what was said. -/
structure FleetTold (e : Host) (s : State) : Prop where
  alternating : Alternating s.fleetSignals
  flag : s.isShuttingDown = false →
    (s.orch.fleetDegraded = true ↔ s.fleetSignals.head? = some .degraded)
  timer : ∀ deadline, s.orch.degradedTimer = some deadline → s.isShuttingDown = false ∧
    s.orch.fleetDegraded = false ∧ e.cfg.health.degradedAfterMs ≠ 0 ∧
      deadline = s.orch.degradedSince + e.cfg.health.degradedAfterMs

namespace FleetTold

theorem kept (h : FleetTold e s) (hk : FleetKept s t) : FleetTold e t := by
  constructor
  · rw [hk.signals]
    exact h.alternating
  · rw [hk.shutting, hk.signals, hk.degraded]
    exact h.flag
  · rw [hk.timer, hk.shutting, hk.degraded, hk.since]
    exact h.timer

theorem recomputed (h : FleetTold e s) : FleetTold e (s.recomputeFleetHealth e) := by
  unfold recomputeFleetHealth
  split
  · exact h
  · rename_i hcond
    rw [Bool.or_eq_true, not_or, Bool.not_eq_true, decide_eq_true_eq] at hcond
    have hs := hcond.1
    simp only
    split
    · cases hd : s.orch.fleetDegraded with
      | true =>
        have hhead := (h.flag hs).mp hd
        refine ⟨⟨hhead, h.alternating⟩, fun _ => iff_of_false nofun ?_, nofun⟩
        exact nofun
      | false =>
        refine ⟨h.alternating, fun _ => ?_, nofun⟩
        have hflag := h.flag hs
        rw [hd] at hflag
        exact hflag
    · split
      · exact h
      · rename_i hidle
        rw [Bool.or_eq_true, not_or, Bool.not_eq_true] at hidle
        refine ⟨h.alternating, h.flag, fun deadline ht => ⟨hs, hidle.1, hcond.2, ?_⟩⟩
        exact (Option.some.inj ht).symm

theorem elapsed (h : FleetTold e s) (ht : s.degradedElapsed e = some t) : FleetTold e t := by
  unfold degradedElapsed at ht
  split at ht
  · cases ht
  · rename_i deadline htimer
    obtain ⟨hs, hd, -, -⟩ := h.timer deadline htimer
    split at ht
    · extract_lets o x at ht
      have hx : x.isShuttingDown = false := hs
      rw [hx, if_neg Bool.false_ne_true] at ht
      rw [← Option.some.inj ht]
      refine ⟨⟨fun hhead => ?_, h.alternating⟩, fun _ => iff_of_true rfl rfl, nofun⟩
      exact Bool.false_ne_true (hd.symm.trans ((h.flag hs).mpr hhead))
    · cases ht

theorem turn (h : FleetTold e s) (hturn : FleetTurn e a s t) : FleetTold e t := by
  cases hturn with
  | kept _ hk => exact h.kept hk
  | recomputed ha => exact h.recomputed
  | elapsed _ ha ht => exact h.elapsed ht
  | stopped _ hsignals hs ht =>
    refine ⟨?_, fun hs' => absurd (hs'.symm.trans hs) Bool.false_ne_true, fun deadline ht' => ?_⟩
    · rw [hsignals]
      exact h.alternating
    · exact absurd (ht.symm.trans ht') (Option.some_ne_none deadline).symm

end FleetTold

theorem Turn.fleetTurn (h : Turn e a s t) : FleetTurn e a s t := h.elim Effect.fleetTurn Bit.fleetTurn

theorem FleetTold.act (h : FleetTold e s) (hw : WellFormed s) (hact : s.act e a = some t) :
    FleetTold e t :=
  (act_turns hw hact).preserves hw (fun _ _ _ hx hturn => hx.turn hturn.fleetTurn) h

theorem reachable_fleetTold {count : WorkerCount} {env : ProcessEnv}
    (h : (orchestrator e count env).Reachable s) : FleetTold e s :=
  run_preserves h ⟨trivial, fun _ => iff_of_false nofun nofun, nofun⟩
    fun _ _ _ hw hx _ hact => hx.act hw hact

/-! ## The timer -/

/-- What the timer does. -/
theorem degradedElapsed_cases (ht : s.degradedElapsed e = some t) :
    ∃ deadline, s.orch.degradedTimer = some deadline ∧ deadline ≤ s.now ∧
      t.metrics = s.metrics ∧ t.now = s.now ∧ t.orch.count = s.orch.count ∧
      t.fleetSignals = if s.isShuttingDown then s.fleetSignals else .degraded :: s.fleetSignals := by
  unfold degradedElapsed at ht
  split at ht
  · cases ht
  · rename_i deadline htimer
    split at ht
    · rename_i hdue
      extract_lets o x at ht
      refine ⟨deadline, htimer, hdue, ?_⟩
      have hx : x.isShuttingDown = s.isShuttingDown := rfl
      rw [hx] at ht
      cases hs : s.isShuttingDown with
      | true =>
        rw [hs, if_pos rfl] at ht
        rw [← Option.some.inj ht]
        exact ⟨rfl, rfl, rfl, rfl⟩
      | false =>
        rw [hs, if_neg Bool.false_ne_true] at ht
        rw [← Option.some.inj ht]
        exact ⟨rfl, rfl, rfl, rfl⟩
    · cases ht

end ClusterKit
