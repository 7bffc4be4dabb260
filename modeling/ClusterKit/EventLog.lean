import ClusterKit.JournalRuns

/-! What follows for a listener. The counted metrics are counts of the events, and the
events of one worker tell a story with a fixed order. -/

namespace ClusterKit

open State StepSystem

variable {e : Host} {count : WorkerCount} {env : ProcessEnv} {s : State}

/-- **The events keep their promises.** The journal expects every event of every run, in the
order in which they are emitted; nothing it was promised is missing, and what it made of the
events is what the primary reports. -/
theorem events_keep_promises (h : (orchestrator e count env).Reachable s) :
    ∃ j, journal.replay s.events = some j ∧ j.settled = true ∧ j.tally = s.metrics.tally ∧
      j.online = s.orch.onlineWorkerIds ∧ j.gone = s.workerIds \ s.tracked ∧
      j.degraded = s.orch.fleetDegraded ∧ (j.phase = .serving ↔ s.isShuttingDown = false) := by
  obtain ⟨j, hj, htells, hset⟩ := reachable_kept h
  refine ⟨j, hj, hset, htells.tally, htells.online, htells.gone, htells.degraded, ?_,
    htells.serving⟩
  intro hphase
  by_contra hs
  rw [htells.phase, show s.page.isShuttingDown = true from Bool.not_eq_false _ ▸ hs] at hphase
  cases hd : s.page.disposed with
  | false => simp [hd] at hphase
  | true => simp [hd] at hphase

/-- Two workers come online, the first crashes and is replaced, the second leaves by itself. -/
def eventfulRun : List Action :=
  [.run, .pluginsInstalled, .workerOnline 1, .workerOnline 2, .workerExit 1 (some 1) none,
    .tick 60000, .timer .backoffWait, .workerOnline 3, .workerSelfDisconnect 2,
    .workerExit 2 (some 0) none]

theorem events_keep_promises_eventful :
    ∃ s, (orchestrator {} (.fixed 2) fun _ => none).Reachable s ∧ s.events.length = 7 ∧
      ∃ j, journal.replay s.events = some j ∧ j.settled = true ∧ j.tally = s.metrics.tally := by
  obtain ⟨s, hreach, hq⟩ := exists_reachable_of_any (orchestrator {} (.fixed 2) fun _ => none)
    eventfulRun (fun s => s.events.length = 7) (by decide +kernel)
  obtain ⟨j, hj, hset, htally, -⟩ := events_keep_promises hreach
  exact ⟨s, hreach, of_decide_eq_true hq, j, hj, hset, htally⟩

/-! ## The numbers -/

namespace Event

def isRestart : Event → Bool
  | .workerRestart _ => true
  | _ => false

def isTrip : Event → Bool
  | .circuitBreakerTripped .. => true
  | _ => false

def isExit : Event → Bool
  | .workerExit .. => true
  | _ => false

def isGracefulExit : Event → Bool
  | .workerExit _ _ _ graceful => graceful
  | _ => false

end Event

/-- The counts that a log comes to. -/
def tallyOf (log : List Event) : Tally where
  workerRestarts := log.countP Event.isRestart
  crashLoopBackoffs := log.countP Event.isTrip
  gracefulShutdowns := log.countP Event.isGracefulExit

def Tally.add (t u : Tally) : Tally where
  workerRestarts := t.workerRestarts + u.workerRestarts
  crashLoopBackoffs := t.crashLoopBackoffs + u.crashLoopBackoffs
  gracefulShutdowns := t.gracefulShutdowns + u.gracefulShutdowns

theorem tallyOf_cons (ev : Event) (log : List Event) :
    tallyOf (ev :: log) = (tallyOf log).add (tallyOf [ev]) := by
  simp only [tallyOf, Tally.add, List.countP_cons, List.countP_nil, Nat.zero_add]

/-- One event is one more in its count, and only an exit makes one more gone. -/
theorem read_counts {j k : Journal} {ev : Event} (h : j.read ev = some k) :
    k.tally = j.tally.add (tallyOf [ev]) ∧
      k.gone.card = j.gone.card + [ev].countP Event.isExit := by
  cases ev with
  | workerExit id code signal graceful =>
    obtain ⟨⟨-, hgone, -⟩, rfl⟩ := Journal.expect_eq_some.mp h
    refine ⟨?_, Finset.card_insert_of_notMem hgone⟩
    cases graceful <;> rfl
  | _ =>
    obtain ⟨-, rfl⟩ := Journal.expect_eq_some.mp h
    exact ⟨rfl, rfl⟩

theorem replay_counts {log : List Event} {j : Journal} (h : journal.replay log = some j) :
    j.tally = tallyOf log ∧ j.gone.card = log.countP Event.isExit := by
  induction log generalizing j with
  | nil =>
    obtain rfl := Option.some.inj h
    exact ⟨rfl, rfl⟩
  | cons ev log ih =>
    obtain ⟨i, hi, hread⟩ := Option.bind_eq_some_iff.mp h
    obtain ⟨htally, hgone⟩ := ih hi
    obtain ⟨htally', hgone'⟩ := read_counts hread
    refine ⟨by rw [htally', htally, ← tallyOf_cons], ?_⟩
    rw [hgone', hgone, List.countP_cons, List.countP_cons, List.countP_nil, Nat.zero_add]

/-- **The metrics are counts of events.** Restarts, trips and graceful shutdowns are exactly
those that were announced, and who is active is who was forked and whose exit was not. -/
theorem metrics_count_events (h : (orchestrator e count env).Reachable s) :
    s.metrics.workerRestarts = s.events.countP Event.isRestart ∧
      s.metrics.crashLoopBackoffs = s.events.countP Event.isTrip ∧
      s.metrics.gracefulShutdowns = s.events.countP Event.isGracefulExit ∧
      s.metrics.activeWorkers + s.events.countP Event.isExit = s.cluster.ids := by
  obtain ⟨j, hj, htells, -⟩ := reachable_kept h
  obtain ⟨htally, hgone⟩ := replay_counts hj
  have hcounts : s.metrics.tally = tallyOf s.events := htells.tally.symm.trans htally
  refine ⟨congrArg Tally.workerRestarts hcounts, congrArg Tally.crashLoopBackoffs hcounts,
    congrArg Tally.gracefulShutdowns hcounts, ?_⟩
  have hw := reachable_wellFormed h
  have hsub : s.tracked ⊆ s.workerIds := fun id hid => Finset.mem_Icc.mpr (hw.tracked_bounded id hid)
  have hcard : j.gone.card + s.tracked.card = s.workerIds.card := by
    rw [htells.gone]
    exact Finset.card_sdiff_add_card_eq_card hsub
  have hids : s.workerIds.card = s.cluster.ids := by rw [workerIds, Nat.card_Icc]; omega
  rw [hw.active, ← hgone]
  omega

theorem metrics_count_events_eventful :
    ∃ s, (orchestrator {} (.fixed 2) fun _ => none).Reachable s ∧
      s.metrics.workerRestarts = 1 ∧ s.events.countP Event.isRestart = 1 ∧
      s.events.countP Event.isGracefulExit = s.metrics.gracefulShutdowns := by
  obtain ⟨s, hreach, hq⟩ := exists_reachable_of_any (orchestrator {} (.fixed 2) fun _ => none)
    eventfulRun (fun s => s.metrics.workerRestarts = 1) (by decide +kernel)
  have hone : s.metrics.workerRestarts = 1 := of_decide_eq_true hq
  obtain ⟨hrestarts, -, hgraceful, -⟩ := metrics_count_events hreach
  exact ⟨s, hreach, hone, hrestarts.symm.trans hone, hgraceful.symm⟩

/-! ## The story of a worker -/

inductive Chapter where
  | restarted | online | exited | crashed
  deriving DecidableEq

def Event.chapter (id : Nat) : Event → Option Chapter
  | .workerRestart newWorkerId => if newWorkerId = id then some .restarted else none
  | .workerOnline workerId => if workerId = id then some .online else none
  | .workerExit workerId .. => if workerId = id then some .exited else none
  | .workerCrash workerId .. => if workerId = id then some .crashed else none
  | _ => none

/-- What the log says about the life of `id`, oldest first. -/
def story (id : Nat) (log : List Event) : List Chapter :=
  (log.filterMap (Event.chapter id)).reverse

theorem story_cons (id : Nat) (ev : Event) (log : List Event) :
    story id (ev :: log) = story id log ++ (ev.chapter id).toList := by
  unfold story
  cases h : ev.chapter id with
  | none => simp [h]
  | some c => simp [h]

/-- What the journal knows about the story of `id` so far. -/
structure Journal.Follows (j : Journal) (id : Nat) (c : List Chapter) : Prop where
  fresh : j.newest < id → c = []
  waiting : id ∉ j.online → id ∉ j.gone → c.Sublist [.restarted]
  online : id ∈ j.online → id ∉ j.gone ∧ .online ∈ c ∧ c.Sublist [.restarted, .online]
  gone : id ∈ j.gone ↔ .exited ∈ c
  owed : ∀ code signal, j.owed = .crash id code signal →
    .exited ∈ c ∧ c.Sublist [.restarted, .online, .exited]
  whole : c.Sublist [.restarted, .online, .exited, .crashed]
  crashed : .crashed ∈ c → .exited ∈ c

namespace Journal.Follows

variable {j k : Journal} {id : Nat} {c : List Chapter}

/-- An event that is not part of the life of `id`. -/
theorem aside (h : j.Follows id c) (hnewest : j.newest ≤ k.newest)
    (honline : id ∈ k.online ↔ id ∈ j.online) (hgone : id ∈ k.gone ↔ id ∈ j.gone)
    (howed : ∀ code signal, k.owed = .crash id code signal → j.owed = .crash id code signal) :
    k.Follows id c where
  fresh hlt := h.fresh (hnewest.trans_lt hlt)
  waiting hon hg := h.waiting (hon ∘ honline.mpr) (hg ∘ hgone.mpr)
  online hon := by
    rw [hgone]
    exact h.online (honline.mp hon)
  gone := hgone.trans h.gone
  owed code signal ho := h.owed code signal (howed code signal ho)
  whole := h.whole
  crashed := h.crashed

theorem known_of_exited (h : j.Follows id c) (hex : .exited ∈ c) : id ≤ j.newest := by
  by_contra hlt
  rw [h.fresh (by omega)] at hex
  cases hex

/-- While its exit has not been read, a worker was at most restarted and online. -/
theorem before_exit (h : j.Follows id c) (hg : id ∉ j.gone) :
    c.Sublist [.restarted, .online] := by
  by_cases hon : id ∈ j.online
  · exact (h.online hon).2.2
  · exact (h.waiting hon hg).trans (List.sublist_append_left [Chapter.restarted] [Chapter.online])

theorem mem_snoc {x d : Chapter} (hne : x ≠ d) : x ∈ c ++ [d] ↔ x ∈ c := by
  rw [List.mem_append, List.mem_singleton]
  exact or_iff_left hne

theorem cameOnline (h : j.Follows id c) (hon : id ∉ j.online) (hg : id ∉ j.gone)
    (honline : k.online = insert id j.online) (hgone : k.gone = j.gone) (hnewest : id ≤ k.newest)
    (howed : k.owed = .nothing) : k.Follows id (c ++ [.online]) := by
  have hsub : (c ++ [Chapter.online]).Sublist [.restarted, .online] :=
    (h.waiting hon hg).append (List.Sublist.refl [Chapter.online])
  constructor
  case fresh => exact fun hlt => absurd hlt (by omega)
  case waiting => exact fun hno => absurd (honline ▸ Finset.mem_insert_self id _) hno
  case online => exact fun _ => ⟨hgone ▸ hg, List.mem_append_right _ List.mem_cons_self, hsub⟩
  case gone =>
    rw [hgone, mem_snoc (by decide)]
    exact h.gone
  case owed =>
    intro code signal ho
    rw [howed] at ho
    cases ho
  case whole => exact hsub.trans (List.sublist_append_left _ [Chapter.exited, .crashed])
  case crashed =>
    rw [mem_snoc (by decide), mem_snoc (by decide)]
    exact h.crashed

theorem exited (h : j.Follows id c) (hg : id ∉ j.gone) (honline : k.online = j.online.erase id)
    (hgone : k.gone = insert id j.gone) (hnewest : id ≤ k.newest) :
    k.Follows id (c ++ [.exited]) := by
  have hmem : Chapter.exited ∈ c ++ [.exited] := List.mem_append_right _ List.mem_cons_self
  have hsub : (c ++ [Chapter.exited]).Sublist [.restarted, .online, .exited] :=
    (h.before_exit hg).append (List.Sublist.refl [Chapter.exited])
  constructor
  case fresh => exact fun hlt => absurd hlt (by omega)
  case waiting => exact fun _ hno => absurd (hgone ▸ Finset.mem_insert_self id _) hno
  case online => exact fun hon => absurd (honline ▸ hon) (Finset.notMem_erase id _)
  case gone => exact ⟨fun _ => hmem, fun _ => hgone ▸ Finset.mem_insert_self id _⟩
  case owed => exact fun _ _ _ => ⟨hmem, hsub⟩
  case whole => exact hsub.trans (List.sublist_append_left _ [Chapter.crashed])
  case crashed => exact fun _ => hmem

theorem crash (h : j.Follows id c) {code : Option Int} {signal : Option String}
    (ho : j.owed = .crash id code signal) (honline : k.online = j.online) (hgone : k.gone = j.gone)
    (hnewest : k.newest = j.newest) (howed : k.owed = .verdict) :
    k.Follows id (c ++ [.crashed]) := by
  obtain ⟨hex, hsub⟩ := h.owed code signal ho
  have hmem : Chapter.exited ∈ c ++ [.crashed] := List.mem_append_left _ hex
  have hg : id ∈ j.gone := h.gone.mpr hex
  constructor
  case fresh =>
    have hknown := h.known_of_exited hex
    exact fun hlt => absurd hlt (by omega)
  case waiting => exact fun _ hno => absurd (hgone ▸ hg) hno
  case online => exact fun hon => absurd hg (h.online (honline ▸ hon)).1
  case gone => exact ⟨fun _ => hmem, fun _ => hgone ▸ hg⟩
  case owed =>
    intro code' signal' ho'
    rw [howed] at ho'
    cases ho'
  case whole => exact hsub.append (List.Sublist.refl [Chapter.crashed])
  case crashed => exact fun _ => hmem

theorem restarted (h : j.Follows id c) (hfresh : j.newest < id) (honline : k.online = j.online)
    (hgone : k.gone = j.gone) (hnewest : id ≤ k.newest) (howed : k.owed = .nothing) :
    k.Follows id (c ++ [.restarted]) := by
  obtain rfl := h.fresh hfresh
  constructor
  case fresh => exact fun hlt => absurd hlt (by omega)
  case waiting => exact fun _ _ => .refl _
  case online => exact fun hon => absurd (h.online (honline ▸ hon)).2.1 List.not_mem_nil
  case gone =>
    rw [hgone, mem_snoc (by decide)]
    exact h.gone
  case owed =>
    intro code signal ho
    rw [howed] at ho
    cases ho
  case whole => decide
  case crashed => exact fun hc => absurd hc (by decide)

end Journal.Follows

/-- **Step lemma.** One more event, one more chapter for the worker it is about. -/
theorem read_follows {j k : Journal} {ev : Event} {id : Nat} {c : List Chapter}
    (hread : j.read ev = some k) (h : j.Follows id c) :
    k.Follows id (c ++ (ev.chapter id).toList) := by
  have hnone {o : Owed} (ho : ∀ id code signal, o ≠ .crash id code signal) :
      ∀ code signal, o = .crash id code signal → j.owed = .crash id code signal :=
    fun code signal heq => absurd heq (ho id code signal)
  have haside (hk : k.Follows id c) : k.Follows id (c ++ (none : Option Chapter).toList) := by
    rwa [Option.toList_none, List.append_nil]
  cases ev with
  | workerOnline w =>
    obtain ⟨⟨-, hon, hg, -⟩, rfl⟩ := Journal.expect_eq_some.mp hread
    rw [Event.chapter]
    split
    · rename_i heq
      exact h.cameOnline (heq ▸ hon) (heq ▸ hg) (by rw [← heq]) rfl (heq ▸ le_max_right _ _) rfl
    · rename_i hne
      refine haside (h.aside (le_max_left _ _) ?_ Iff.rfl (hnone nofun))
      exact Finset.mem_insert.trans (or_iff_right (Ne.symm hne))
  | workerExit w code signal graceful =>
    obtain ⟨⟨-, hg, -⟩, rfl⟩ := Journal.expect_eq_some.mp hread
    by_cases heq : w = id
    · rw [Event.chapter, if_pos heq]
      exact h.exited (heq ▸ hg) (by rw [← heq]) (by rw [← heq]) (heq ▸ le_max_right _ _)
    · rw [Event.chapter, if_neg heq]
      refine haside (h.aside (le_max_left _ _) ?_ ?_ ?_)
      · exact Finset.mem_erase.trans (and_iff_right (Ne.symm heq))
      · exact Finset.mem_insert.trans (or_iff_right (Ne.symm heq))
      · intro code' signal' ho
        dsimp only at ho
        split at ho
        · cases ho
        · exact absurd (Owed.crash.inj ho).1 heq
  | workerCrash w code signal =>
    obtain ⟨ho, rfl⟩ := Journal.expect_eq_some.mp hread
    rw [Event.chapter]
    split
    · rename_i heq
      exact h.crash (heq ▸ ho) rfl rfl rfl rfl
    · exact haside (h.aside le_rfl Iff.rfl Iff.rfl (hnone nofun))
  | workerRestart w =>
    obtain ⟨⟨-, hfresh, -⟩, rfl⟩ := Journal.expect_eq_some.mp hread
    rw [Event.chapter]
    split
    · rename_i heq
      exact h.restarted (heq ▸ hfresh) rfl rfl (heq ▸ le_max_right _ _) rfl
    · exact haside (h.aside (le_max_left _ _) Iff.rfl Iff.rfl (hnone nofun))
  | fleetRecovered target active degradedDurationMs =>
    obtain ⟨-, rfl⟩ := Journal.expect_eq_some.mp hread
    exact haside (h.aside le_rfl Iff.rfl Iff.rfl fun _ _ ho => ho)
  | workerDraining w reason =>
    obtain ⟨-, rfl⟩ := Journal.expect_eq_some.mp hread
    exact haside (h.aside (le_max_left _ _) Iff.rfl Iff.rfl (hnone nofun))
  | workerHealth report =>
    obtain ⟨-, rfl⟩ := Journal.expect_eq_some.mp hread
    exact haside (h.aside (le_max_left _ _) Iff.rfl Iff.rfl (hnone nofun))
  | restartStart reason workerIds =>
    obtain ⟨-, rfl⟩ := Journal.expect_eq_some.mp hread
    exact haside (h.aside (le_max_left _ _) Iff.rfl Iff.rfl (hnone nofun))
  | _ =>
    obtain ⟨-, rfl⟩ := Journal.expect_eq_some.mp hread
    exact haside (h.aside le_rfl Iff.rfl Iff.rfl (hnone nofun))

theorem replay_follows {log : List Event} {j : Journal} (h : journal.replay log = some j)
    (id : Nat) : j.Follows id (story id log) := by
  induction log generalizing j with
  | nil =>
    obtain rfl := Option.some.inj h
    refine ⟨fun _ => rfl, fun _ _ => List.nil_sublist _, fun hon => ?_, ?_, nofun,
      List.nil_sublist _, nofun⟩
    · exact absurd hon (Finset.notMem_empty id)
    · exact iff_of_false (Finset.notMem_empty id) List.not_mem_nil
  | cons ev log ih =>
    obtain ⟨i, hi, hread⟩ := Option.bind_eq_some_iff.mp h
    rw [story_cons]
    exact read_follows hread (ih hi)

/-- **The story of a worker.** In every run the events about a worker come in the order
restart, online, exit, crash, each at most once and a crash only behind its exit; the worker
is counted as online exactly between its online event and its exit. -/
theorem worker_story (h : (orchestrator e count env).Reachable s) (id : Nat) :
    (story id s.events).Sublist [.restarted, .online, .exited, .crashed] ∧
      (.crashed ∈ story id s.events → .exited ∈ story id s.events) ∧
      (id ∈ s.orch.onlineWorkerIds ↔
        .online ∈ story id s.events ∧ .exited ∉ story id s.events) := by
  obtain ⟨j, hj, htells, -⟩ := reachable_kept h
  have hf := replay_follows hj id
  refine ⟨hf.whole, hf.crashed, ?_⟩
  rw [show s.orch.onlineWorkerIds = j.online from htells.online.symm, ← hf.gone]
  constructor
  · intro hon
    obtain ⟨hg, hmem, -⟩ := hf.online hon
    exact ⟨hmem, hg⟩
  · rintro ⟨hmem, hg⟩
    by_contra hon
    have hsub := hf.waiting hon hg
    exact absurd (hsub.subset hmem) (by decide)

theorem worker_story_eventful :
    ∃ s, (orchestrator {} (.fixed 2) fun _ => none).Reachable s ∧
      story 1 s.events = [.online, .exited, .crashed] ∧
      (story 1 s.events).Sublist [.restarted, .online, .exited, .crashed] ∧
      1 ∉ s.orch.onlineWorkerIds := by
  obtain ⟨s, hreach, hq⟩ := exists_reachable_of_any (orchestrator {} (.fixed 2) fun _ => none)
    eventfulRun (fun s => story 1 s.events = [.online, .exited, .crashed]) (by decide +kernel)
  have hstory : story 1 s.events = [.online, .exited, .crashed] := of_decide_eq_true hq
  obtain ⟨hwhole, -, honline⟩ := worker_story hreach 1
  refine ⟨s, hreach, hstory, hwhole, fun hon => (honline.mp hon).2 ?_⟩
  rw [hstory]
  decide

end ClusterKit
