import ClusterKit.Lib.Observer
import ClusterKit.Lib.SingleFlight

/-! The merged-metrics cache of the prometheus plugin. A call is answered from the cache,
waits for the collection in flight, or begins one; cluster events drop both. A collection
that such an event has overtaken still writes the cache and still empties the slot. -/

namespace ClusterKit

/-- The cluster events whose listeners call `clearMergedMetricsCache`. -/
inductive MetricsEvent where
  | workerOnline
  | workerExit
  | workerCrash
  | workerRestart
  | circuitBreakerTripped

structure CachedMetrics where
  value : String
  expiresAt : Nat
  /-- *History*: the collection that wrote it. -/
  collection : Nat
  deriving DecidableEq

/-- The plugin on the primary, between `install()` and `uninstall()`. -/
structure MetricsCache where
  now : Nat := 0
  mergedMetricsCache : Option CachedMetrics := none
  /-- The collections, and `inflightMetrics` as the slot they share. -/
  flight : Flight := {}

inductive MetricsAnswer where
  | cached (metrics : CachedMetrics)
  /-- The promise of a collection that is in flight. -/
  | joined (collection : Nat)
  /-- The promise of a collection that this call begins. -/
  | begun (collection : Nat)
  deriving DecidableEq

/-- The collection whose value the caller gets. -/
def MetricsAnswer.collection : MetricsAnswer → Nat
  | .cached metrics => metrics.collection
  | .joined collection => collection
  | .begun collection => collection

inductive MetricsAction where
  | tick (ms : Nat)
  | event (event : MetricsEvent)
  /-- `getMetrics()` or `GET /metrics`. -/
  | call
  /-- Both registries have answered; `workers` is `none` when the aggregation rejects. -/
  | collected (collection : Nat) (orchestration : String) (workers : Option String)
  /-- `registry.metrics()` rejects. -/
  | failed (collection : Nat)
  /-- The handler that `finally` attached runs. -/
  | settled (collection : Nat)

namespace MetricsCache

variable (ttl : Nat) (c : MetricsCache)

def clearMergedMetricsCache : MetricsCache :=
  { c with mergedMetricsCache := none, flight := c.flight.reset }

/-- What the cache still answers. -/
def freshMetrics : Option CachedMetrics :=
  if 0 < ttl then c.mergedMetricsCache.filter fun metrics => decide (c.now < metrics.expiresAt)
  else none

def answer : MetricsAnswer :=
  match c.freshMetrics ttl with
  | some metrics => .cached metrics
  | none =>
    match c.flight.slot with
    | some collection => .joined collection
    | none => .begun c.flight.started

def mergedMetrics : MetricsCache :=
  match c.answer ttl with
  | .begun _ => { c with flight := c.flight.start }
  | _ => c

def mergedValue (orchestration : String) (workers : Option String) : String :=
  let workers := workers.getD ""
  if workers ≠ "" then orchestration ++ "\n" ++ workers else orchestration

/-- `collect()` resolves with `value`. -/
def collected (collection : Nat) (value : String) : MetricsCache :=
  { c with
    mergedMetricsCache :=
      if 0 < ttl then some ⟨value, c.now + ttl, collection⟩ else c.mergedMetricsCache
    flight := c.flight.settle collection }

def act (c : MetricsCache) : MetricsAction → Option MetricsCache
  | .tick ms => some { c with now := c.now + ms }
  | .event _ => some c.clearMergedMetricsCache
  | .call => some (c.mergedMetrics ttl)
  | .collected collection orchestration workers =>
    if collection ∈ c.flight.running then
      some (c.collected ttl collection (mergedValue orchestration workers))
    else none
  | .failed collection =>
    if collection ∈ c.flight.running then
      some { c with flight := c.flight.settle collection }
    else none
  | .settled collection =>
    if collection ∈ c.flight.settled then
      some { c with flight := c.flight.release collection }
    else none

/-- With `since` the number of collections that had begun at the last event: a collection
that the event has overtaken writes no cache, and finds nobody in flight when it settles. -/
def notOvertaken (since : Nat) : MetricsAction → Bool
  | .collected collection _ _ => decide (ttl = 0 ∨ since ≤ collection)
  | .settled collection => decide (since ≤ collection ∨ c.flight.slot = none)
  | _ => true

/-- What an observer counts: the collections that had begun at the last event. -/
def noteEvent (c : MetricsCache) (a : MetricsAction) (_ : MetricsCache) (since : Nat) : Nat :=
  match a with
  | .event _ => c.flight.started
  | _ => since

end MetricsCache

/-- The cache with this observer. -/
def metricsCache (ttl : Nat) : StepSystem (MetricsCache × Nat) MetricsAction :=
  StepSystem.observed ⟨{}, MetricsCache.act ttl⟩ 0 MetricsCache.noteEvent

namespace MetricsCache

variable {ttl since : Nat} {c d : MetricsCache}

/-! ## What clean settling keeps -/

/-- Everything the slots hold was begun since the last event. -/
structure Coherent (since : Nat) (c : MetricsCache) : Prop where
  single : Flight.Single since c.flight
  cached : ∀ metrics ∈ c.mergedMetricsCache, since ≤ metrics.collection

theorem freshMetrics_mem {metrics : CachedMetrics} (h : c.freshMetrics ttl = some metrics) :
    metrics ∈ c.mergedMetricsCache := by
  unfold freshMetrics at h
  split at h
  · exact (Option.filter_eq_some_iff.mp h).1
  · cases h

theorem slot_of_begun {collection : Nat} (h : c.answer ttl = .begun collection) :
    c.flight.slot = none := by
  unfold answer at h
  split at h
  · cases h
  · split at h
    · cases h
    · assumption

theorem Coherent.mergedMetrics (h : Coherent since c) : Coherent since (c.mergedMetrics ttl) := by
  unfold MetricsCache.mergedMetrics
  split
  · rename_i collection hanswer
    exact ⟨h.single.start (slot_of_begun hanswer), h.cached⟩
  · exact h

/-- **Step lemma.** -/
theorem Coherent.step (h : Coherent since c) {a : MetricsAction}
    (ha : c.notOvertaken ttl since a = true) (hs : c.act ttl a = some d) :
    Coherent (c.noteEvent a d since) d := by
  cases a with
  | tick ms =>
    cases hs
    exact ⟨h.single, h.cached⟩
  | event event =>
    cases hs
    refine ⟨h.single.reset, ?_⟩
    intro metrics hcached
    cases hcached
  | call =>
    cases hs
    exact h.mergedMetrics
  | collected collection orchestration workers =>
    simp only [act, Option.ite_none_right_eq_some, Option.some.injEq] at hs
    obtain ⟨hrun, rfl⟩ := hs
    refine ⟨h.single.settle hrun, ?_⟩
    intro metrics hcached
    simp only [MetricsCache.collected] at hcached
    split at hcached
    · rename_i hpos
      simp only [notOvertaken, decide_eq_true_eq] at ha
      simp only [Option.mem_def, Option.some.injEq] at hcached
      rw [← hcached]
      rcases ha with hzero | hsince
      · omega
      · exact hsince
    · exact h.cached metrics hcached
  | failed collection =>
    simp only [act, Option.ite_none_right_eq_some, Option.some.injEq] at hs
    obtain ⟨hrun, rfl⟩ := hs
    exact ⟨h.single.settle hrun, h.cached⟩
  | settled collection =>
    simp only [act, Option.ite_none_right_eq_some, Option.some.injEq] at hs
    obtain ⟨hsettled, rfl⟩ := hs
    simp only [notOvertaken, decide_eq_true_eq] at ha
    refine ⟨h.single.release hsettled ?_, h.cached⟩
    rcases ha with hsince | hempty
    · exact .inl (h.single.slot_of_settled hsettled hsince)
    · exact .inr hempty

/-- **Run lemma.** -/
theorem run_coherent {y : MetricsCache × Nat}
    (hrun : (metricsCache ttl).Run (fun x a => x.1.notOvertaken ttl x.2 a = true)
      (metricsCache ttl).init y) : Coherent y.2 y.1 := by
  refine hrun.preserves (P := fun x => Coherent x.2 x.1) ?_ ⟨Flight.single_new, ?_⟩
  · intro x a z hx ha hs
    obtain ⟨hact, hnote⟩ := StepSystem.observed_step hs
    rw [hnote]
    exact hx.step ha hact
  · intro metrics hcached
    cases hcached

/-- A call is answered by a collection that began since the last event. -/
theorem Coherent.answer_recent (h : Coherent since c) : since ≤ (c.answer ttl).collection := by
  unfold answer
  split
  · rename_i metrics hfresh
    exact h.cached metrics (freshMetrics_mem hfresh)
  · split
    · rename_i collection hslot
      exact h.single.slot collection hslot
    · exact h.single.past

theorem Coherent.begins_alone (h : Coherent since c) {collection : Nat}
    (hanswer : c.answer ttl = .begun collection) : ∀ other ∈ c.flight.running, other < since := by
  have hempty : c.flight.slot = none := slot_of_begun hanswer
  intro other hother
  exact h.single.lt_of_empty hempty other (Flight.mem_pending.mpr (.inl hother))

/-- When no overtaken collection writes the cache or empties the slot of another, every call
gets a value that was begun since the last event, and begins a collection only when none
that was begun since then still runs. -/
theorem mergedMetrics_coherent_of_notOvertaken (ttl : Nat) {y : MetricsCache × Nat}
    (hrun : (metricsCache ttl).Run (fun x a => x.1.notOvertaken ttl x.2 a = true)
      (metricsCache ttl).init y) :
    y.2 ≤ (y.1.answer ttl).collection ∧
      ∀ collection, y.1.answer ttl = .begun collection →
        ∀ other ∈ y.1.flight.running, other < y.2 := by
  have h := run_coherent hrun
  exact ⟨h.answer_recent, fun _ hanswer => h.begins_alone hanswer⟩

/-- A scrape, a worker that comes online, and a second scrape. -/
def scrapeAcrossEvent : List MetricsAction :=
  [.call, .collected 0 "up 1" none, .settled 0, .event .workerOnline, .call]

theorem mergedMetrics_coherent_of_notOvertaken_scrape :
    ∃ y, (metricsCache 1000).Run (fun x a => x.1.notOvertaken 1000 x.2 a = true)
        (metricsCache 1000).init y ∧
      y.2 = 1 ∧ 1 ≤ (y.1.answer 1000).collection := by
  obtain ⟨y, hrun, htest⟩ := StepSystem.exists_run_of_any (metricsCache 1000)
    (metricsCache 1000).init (fun x a => x.1.notOvertaken 1000 x.2 a) scrapeAcrossEvent
    (fun y => decide (y.2 = 1)) (by decide)
  have hnote := of_decide_eq_true htest
  exact ⟨y, hrun, hnote, hnote ▸ (mergedMetrics_coherent_of_notOvertaken 1000 hrun).1⟩

/-- A collection that an event has overtaken fills the cache; and two that settle late let two
further collections begin beside one that was begun since the last event. -/
theorem overtaken_collections_break_the_cache :
    (∃ y, (metricsCache 1000).Reachable y ∧ (y.1.answer 1000).collection < y.2) ∧
      ∃ y, (metricsCache 1000).Reachable y ∧ y.1.answer 1000 = .begun 4 ∧
        ∃ other ∈ y.1.flight.running, ∃ another ∈ y.1.flight.running,
          other ≠ another ∧ y.2 ≤ other ∧ y.2 ≤ another := by
  constructor
  · obtain ⟨y, hy, htest⟩ := StepSystem.exists_reachable_of_any (metricsCache 1000)
      [.call, .event .workerCrash, .collected 0 "up 1" none]
      (fun y => decide ((y.1.answer 1000).collection < y.2)) (by decide)
    exact ⟨y, hy, of_decide_eq_true htest⟩
  · obtain ⟨y, hy, htest⟩ := StepSystem.exists_reachable_of_any (metricsCache 1000)
      [.call, .event .workerCrash, .call, .event .workerExit, .call, .failed 0, .settled 0,
        .call, .failed 1, .settled 1]
      (fun y => decide (y.1.answer 1000 = .begun 4 ∧ 2 ∈ y.1.flight.running ∧
        3 ∈ y.1.flight.running ∧ y.2 = 2)) (by decide)
    obtain ⟨hanswer, htwo, hthree, hnote⟩ := of_decide_eq_true htest
    exact ⟨y, hy, hanswer, 2, htwo, 3, hthree, by decide, by omega, by omega⟩

end MetricsCache

end ClusterKit
