import ClusterKit.Frames

/-! Two views of a state along its segments. A law about health events sees what the monitor
has dropped, the shutdown flag, and the events that are about heartbeats, exits and the start
of a shutdown; a law about the outcome of a roll sees how it returned. Almost every segment
leaves both alone. -/

namespace ClusterKit

open State

/-- The three segments that change the first view. -/
def Action.changesView : Action → Bool
  | .workerMessage .. => true
  | .workerExit .. => true
  | .shutdownPrimary .. => true
  | _ => false

/-- The four segments that start the roll, run its loop or end it. -/
def Action.turnsRoll : Action → Bool
  | .restartWorkers .. => true
  | .timer .rollStagger => true
  | .resume .rollExited => true
  | .resume .rollReturned => true
  | _ => false

variable {e : Host} {s t : State} {a : Action}

theorem fire_view {timer : Timer} (ha : (Action.timer timer).turnsRoll = false)
    (h : s.fire e timer = some t) : t.views = s.views := by
  cases fire_fired h with
  | aside hsame => exact views_of_suspended hsame
  | wedgedWatch hwatch => exact hwatch.views
  | exitWait hwaits | exitGrace hwaits => exact hwaits.views
  | rollStagger => cases ha
  | ackTimeout _ hdown | killDelay _ hdown | shutdownExit hdown => exact hdown.views

theorem resume_view {c : Continuation} (ha : (Action.resume c).turnsRoll = false)
    (h : s.resume e c = some t) : t.views = s.views := by
  cases resume_resumed h with
  | restartQueue hsame => exact views_of_suspended hsame
  | rollExited | rollReturned => cases ha
  | acksSettled hdown | exitWaitOver hdown | killsDone hdown | callbacksDone hdown =>
    exact hdown.views

/-- **Frame.** Every other segment leaves both views alone. -/
theorem act_views (ha : a.changesView = false) (hr : a.turnsRoll = false)
    (h : s.act e a = some t) : t.views = s.views := by
  cases act_acted h with
  | aside hsame => exact views_of_suspended hsame
  | tick ms => exact Option.some.inj h ▸ rfl
  | pluginsInstalled hwatch => exact hwatch.views
  | restartWorkers => cases hr
  | shutdownPrimary | workerExit | workerMessage => cases ha
  | workerDisconnected _ hdown | workerError _ hdown => exact hdown.views
  | timer => exact fire_view hr h
  | resume => exact resume_view hr h

/-! ## The other segments, as to the roll -/

theorem workerMessage_rollView {id : Nat} {msg : Option Message}
    (h : s.workerMessage e id msg = some t) : t.rollView = s.rollView := by
  rw [workerMessage] at h
  split at h <;> cases h
  have hroll := (onAckMessage_waitsOn (e := e) id msg (s.onHealthMessage e id msg)).windsDown.roll
  exact congrArg (Option.map _) (hroll.trans (onHealthMessage_hearsOn id msg s).roll)

theorem workerExit_rollView {id : Nat} {code : Option Int} {signal : Option String}
    (h : s.workerExit e id code signal = some t) : t.rollView = s.rollView := by
  rw [workerExit] at h
  split at h
  · cases h
  · have hm : ((s.markDead id).workerExitListeners e id).rollView = s.rollView :=
      rollView_eq (workerExitListeners_views id (s.markDead id))
    dsimp only at h
    split at h <;> cases h
    · exact hm
    · exact (congrArg (Option.map _) (handleWorkerExit_hearsOn id code signal _).roll).trans hm

/-- Only the roll itself changes how it returned. -/
theorem act_rollView (hr : a.turnsRoll = false) (h : s.act e a = some t) :
    t.rollView = s.rollView := by
  by_cases ha : a.changesView = false
  · exact rollView_eq (act_views ha hr h)
  · cases a with
    | workerMessage id msg => exact workerMessage_rollView h
    | workerExit id code signal => exact workerExit_rollView h
    | shutdownPrimary signal =>
      rw [← Option.some.inj h, shutdownPrimary]
      split <;> rfl
    | _ => exact absurd rfl ha

/-- The first view is also left alone by a roll. -/
theorem act_view (ha : a.changesView = false) (h : s.act e a = some t) :
    t.healthView = s.healthView := by
  by_cases hr : a.turnsRoll = false
  · exact healthView_eq (act_views ha hr h)
  · cases a with
    | restartWorkers opts => exact Option.some.inj h ▸ (restartWorkers_rollsOn opts s).healthView
    | timer timer =>
      cases timer with
      | rollStagger => exact (rollStaggerElapsed_rollsOn t h).healthView
      | _ => exact absurd rfl hr
    | resume c =>
      cases c with
      | rollExited => exact (rollExited_rollsOn t h).healthView
      | rollReturned => exact (rollReturned_rollsOn t h).healthView
      | _ => exact absurd rfl hr
    | _ => exact absurd rfl hr

end ClusterKit
