import ClusterKit.Fleet
import ClusterKit.Outcome
import ClusterKit.WorkerRuns

/-! Every run of the fleet is, seen from the primary, a run of the orchestrator and, seen
from a worker, a run of its process. What the two sides have told each other is kept as an
invariant of the fleet. -/

namespace ClusterKit

open State

namespace Fleet

variable {e : Host} {f g : Fleet} {b : FleetAction} {id : Nat}

/-! ## What a step can do -/

/-- Why the primary runs a segment, and what the fleet notes of it. -/
inductive PrimaryCause (f : Fleet) :
    FleetAction → Action → (Nat → Nat) → (Nat → Bool) → Prop
  | own (a : Action) (h : a.own = true) : PrimaryCause f (.primary a) a f.heard f.leaving
  | hear (id : Nat) (msg : Message) (h : (f.messages id)[f.heard id]? = some msg) :
    PrimaryCause f (.hear id) (.workerMessage id (some msg))
      (Function.update f.heard id (f.heard id + 1)) f.leaving
  | online (id : Nat) : PrimaryCause f (.online id) (.workerOnline id) f.heard f.leaving
  | exited (id : Nat) (x : ProcessEnd) (h : (f.processes id).ended = some x) :
    PrimaryCause f (.exited id) (.workerExit id x.exit.1 x.exit.2) f.heard f.leaving
  | closed (id : Nat) (h : (f.processes id).ended ≠ none ∨ (f.processes id).connected = false) :
    PrimaryCause f (.channelClosed id) (.workerDisconnected id) f.heard f.leaving
  | error (id : Nat) : PrimaryCause f (.error id) (.workerError id) f.heard f.leaving
  | leave (id : Nat) : PrimaryCause f (.leave id) (.workerSelfDisconnect id) f.heard
      (Function.update f.leaving id true)

/-- Why a worker runs a segment, and what the fleet notes of it. -/
inductive WorkerCause (e : Host) (f : Fleet) :
    FleetAction → Nat → WorkerAction → (Nat → Nat) → (Nat → List Signal) → Prop
  | own (id : Nat) (a : WorkerAction) (h : a.own = true) :
    WorkerCause e f (.worker id a) id a f.reached f.signals
  | reach (id : Nat) (sent : Sent) (h : (f.primary.worker id).ipc[f.reached id]? = some sent) :
    WorkerCause e f (.reach id) id (arrival e sent)
      (Function.update f.reached id (f.reached id + 1)) f.signals
  | signal (id : Nat) (signal : Signal)
      (h : (f.signals id).count signal < (f.primary.worker id).kills signal) :
    WorkerCause e f (.signal id signal) id (.signal signal) f.reached
      (Function.update f.signals id (signal :: f.signals id))
  | left (id : Nat) (h : f.leaving id = true) :
    WorkerCause e f (.left id) id (.disconnected true) f.reached f.signals
  | orphaned (id : Nat) (h : f.primary.process.exited = true) :
    WorkerCause e f (.orphaned id) id (.disconnected false) f.reached f.signals

/-- What a step does. -/
inductive Moved (e : Host) (f : Fleet) (b : FleetAction) : Fleet → Prop
  | ticked (ms : Nat) (hb : b = .tick ms) : Moved e f b (f.tick ms)
  | primary (a : Action) (s : State) (heard : Nat → Nat) (leaving : Nat → Bool)
      (hx : f.primary.process.exited = false) (hact : f.primary.act e a = some s)
      (hb : f.PrimaryCause b a heard leaving) :
    Moved e f b { f with primary := s, heard := heard, leaving := leaving }
  | worker (id : Nat) (a : WorkerAction) (p : WorkerProcess) (reached : Nat → Nat)
      (signals : Nat → List Signal) (hf : f.isForked id = true)
      (hstep : (f.processes id).step e.cfg f.now a = some p)
      (hb : f.WorkerCause e b id a reached signals) :
    Moved e f b { f with
      processes := Function.update f.processes id p, reached := reached, signals := signals }

theorem primaryStep_eq {a : Action} (h : f.primaryStep e a = some g) :
    ∃ s, f.primary.process.exited = false ∧ f.primary.act e a = some s ∧
      g = { f with primary := s } := by
  unfold primaryStep at h
  split at h
  · cases h
  · rename_i hx
    obtain ⟨s, hs, rfl⟩ := Option.map_eq_some_iff.mp h
    exact ⟨s, Bool.eq_false_iff.mpr hx, hs, rfl⟩

theorem workerStep_eq {a : WorkerAction} (h : f.workerStep e id a = some g) :
    ∃ p, f.isForked id = true ∧ (f.processes id).step e.cfg f.now a = some p ∧
      g = { f with processes := Function.update f.processes id p } := by
  unfold workerStep at h
  split at h
  · rename_i hf
    obtain ⟨p, hp, rfl⟩ := Option.map_eq_some_iff.mp h
    exact ⟨p, hf, hp, rfl⟩
  · cases h

theorem moved_of_primaryStep {a : Action} (h : f.primaryStep e a = some g)
    (hb : f.PrimaryCause b a f.heard f.leaving) : Moved e f b g := by
  obtain ⟨s, hx, hact, rfl⟩ := primaryStep_eq h
  exact .primary a s f.heard f.leaving hx hact hb

theorem moved_of_workerStep {a : WorkerAction} (h : f.workerStep e id a = some g)
    (hb : f.WorkerCause e b id a f.reached f.signals) : Moved e f b g := by
  obtain ⟨p, hf, hp, rfl⟩ := workerStep_eq h
  exact .worker id a p f.reached f.signals hf hp hb

theorem step_moved (h : f.step e b = some g) : Moved e f b g := by
  cases b with
  | tick ms =>
    cases h
    exact .ticked ms rfl
  | primary a =>
    simp only [step] at h
    split at h
    · rename_i ha
      exact moved_of_primaryStep h (.own a ha)
    · cases h
  | worker id a =>
    simp only [step] at h
    split at h
    · rename_i ha
      exact moved_of_workerStep h (.own id a ha)
    · cases h
  | reach id =>
    simp only [step, reach] at h
    split at h
    · cases h
    · rename_i sent hsent
      obtain ⟨m, hm, rfl⟩ := Option.map_eq_some_iff.mp h
      obtain ⟨p, hf, hp, rfl⟩ := workerStep_eq hm
      exact .worker id _ p _ f.signals hf hp (.reach id sent hsent)
  | signal id signal =>
    simp only [step, Fleet.signal] at h
    split at h
    · rename_i hcount
      obtain ⟨m, hm, rfl⟩ := Option.map_eq_some_iff.mp h
      obtain ⟨p, hf, hp, rfl⟩ := workerStep_eq hm
      exact .worker id _ p f.reached _ hf hp (.signal id signal hcount)
    · cases h
  | hear id =>
    simp only [step, hear] at h
    split at h
    · cases h
    · rename_i msg hmsg
      obtain ⟨m, hm, rfl⟩ := Option.map_eq_some_iff.mp h
      obtain ⟨s, hx, hact, rfl⟩ := primaryStep_eq hm
      exact .primary _ s _ f.leaving hx hact (.hear id msg hmsg)
  | online id => exact moved_of_primaryStep h (.online id)
  | exited id =>
    simp only [step, exited] at h
    split at h
    · cases h
    · rename_i x hx
      exact moved_of_primaryStep h (.exited id x hx)
  | channelClosed id =>
    simp only [step, channelClosed] at h
    split at h
    · rename_i hguard
      refine moved_of_primaryStep h (.closed id ?_)
      rw [Bool.or_eq_true, Bool.not_eq_true', Option.isSome_iff_ne_none] at hguard
      exact hguard
    · cases h
  | error id => exact moved_of_primaryStep h (.error id)
  | leave id =>
    simp only [step, leave] at h
    split at h
    · obtain ⟨m, hm, rfl⟩ := Option.map_eq_some_iff.mp h
      obtain ⟨s, hx, hact, rfl⟩ := primaryStep_eq hm
      exact .primary _ s f.heard _ hx hact (.leave id)
    · cases h
  | left id =>
    simp only [step] at h
    split at h
    · rename_i hl
      exact moved_of_workerStep h (.left id hl)
    · cases h
  | orphaned id =>
    simp only [step] at h
    split at h
    · rename_i hx
      exact moved_of_workerStep h (.orphaned id hx)
    · cases h

/-! ## What each side sees -/

/-- The action of the primary's segment in a step of the fleet. -/
def primaryAction (f : Fleet) : FleetAction → Option Action
  | .tick ms => some (.tick ms)
  | .primary a => if a.own then some a else none
  | .hear id => ((f.messages id)[f.heard id]?).map fun msg => .workerMessage id (some msg)
  | .online id => some (.workerOnline id)
  | .exited id => (f.processes id).ended.map fun x => .workerExit id x.exit.1 x.exit.2
  | .channelClosed id => some (.workerDisconnected id)
  | .error id => some (.workerError id)
  | .leave id => some (.workerSelfDisconnect id)
  | _ => none

theorem PrimaryCause.action {a : Action} {heard : Nat → Nat} {leaving : Nat → Bool}
    (h : f.PrimaryCause b a heard leaving) : f.primaryAction b = some a := by
  cases h with
  | own a ha => exact if_pos ha
  | online | closed | error | leave => rfl
  | hear id msg hmsg => simp [primaryAction, hmsg]
  | exited id x hx => simp [primaryAction, hx]

/-- Seen from the primary, a step is one of its own or none. -/
theorem Moved.primary_step (count : WorkerCount) (env : ProcessEnv) (h : Moved e f b g) :
    g.primary = f.primary ∨
      ∃ a, f.primaryAction b = some a ∧
        (orchestrator e count env).step f.primary a = some g.primary := by
  cases h with
  | ticked ms hb =>
    subst hb
    cases hx : f.primary.process.exited with
    | true => exact .inl (by simp [tick, hx])
    | false => exact .inr ⟨.tick ms, rfl, by simp [tick, hx, orchestrator, State.act]⟩
  | primary a s heard leaving hx hact hb =>
    exact .inr ⟨a, hb.action, by simpa [orchestrator, hx] using hact⟩
  | worker => exact .inl rfl

/-- Seen from a worker, a step is one of its own or none. -/
theorem Moved.worker_step (h : Moved e f b g) (id : Nat) :
    g.clocked id = f.clocked id ∨
      ∃ i, (workerProcess e.cfg).step (f.clocked id) i = some (g.clocked id) := by
  cases h with
  | ticked ms hb => exact .inr ⟨.tick ms, rfl⟩
  | primary => exact .inl rfl
  | worker j a p reached signals hf hstep hb =>
    by_cases hj : id = j
    · subst hj
      refine .inr ⟨.act a, ?_⟩
      show ((f.processes id).step e.cfg f.now a).map _ = _
      rw [hstep]
      simp [clocked]
    · refine .inl ?_
      simp [clocked, Function.update_of_ne hj]

end Fleet

variable {e : Host} {count : WorkerCount} {env : ProcessEnv} {f : Fleet}

/-- A run of the fleet is a run of its primary, with the side conditions that the fleet's
own side conditions imply. -/
theorem fleet_primary_run {ok : Fleet → FleetAction → Prop} {ok' : State → Action → Prop}
    (h : (fleet e count env).Run ok (fleet e count env).init f)
    (hok : ∀ x b a, ok x b → x.primary.process.exited = false → x.primaryAction b = some a →
      ok' x.primary a) :
    (orchestrator e count env).Run ok' (State.initial e count env) f.primary := by
  refine StepSystem.Run.project (f := Fleet.primary) h fun x b y hb hs => ?_
  rcases (Fleet.step_moved hs).primary_step count env with heq | ⟨a, ha, hstep⟩
  · rw [heq]
    exact .refl
  · have hx : x.primary.process.exited = false := by
      by_contra hne
      simp [orchestrator, hne] at hstep
    exact .single (hok x b a hb hx ha) hstep

/-- **Both sides of a fleet run.** The primary runs as the orchestrator does by itself, and
each process as a worker by itself, on the clock of the fleet. -/
theorem fleet_sides (h : (fleet e count env).Reachable f) :
    (orchestrator e count env).Reachable f.primary ∧
      ∀ id, (workerProcess e.cfg).Reachable (f.clocked id) := by
  refine ⟨fleet_primary_run h fun _ _ _ _ _ _ => trivial, fun id => ?_⟩
  refine h.project (T := workerProcess e.cfg) (f := fun x => x.clocked id) rfl fun x b y hs => ?_
  rcases (Fleet.step_moved hs).worker_step id with heq | ⟨i, hstep⟩
  · rw [heq]
    exact .refl
  · exact .single trivial hstep

theorem Fleet.wellFormed (h : (fleet e count env).Reachable f) : WellFormed f.primary :=
  reachable_wellFormed (fleet_sides h).1

end ClusterKit
