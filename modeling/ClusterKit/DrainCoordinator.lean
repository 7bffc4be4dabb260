import ClusterKit.RestartCoordinator

/-! `DrainCoordinator`: one `Recycle` for each replaced worker, found by the id of
the replacement, and the escalation timers its drain arms. -/

namespace ClusterKit.State

/-- Change the closure state of the recycle whose replacement is `new`. -/
def modifyRecycle (new : Nat) (f : Recycle → Recycle) (s : State) : State :=
  { s with recycles := s.recycles.map fun r => if r.new = new then f r else r }

def findRecycle (s : State) (new : Nat) : Option Recycle := s.recycles.find? fun r => r.new == new

/-- `recycle(oldWorker, newWorker)` -/
def recycle (e : Host) (old new : Nat) (s : State) : State :=
  let r : Recycle :=
    { old := old, new := new, drainFailsafeTimer := some (s.now + e.cfg.workerDrainBudgetMs) }
  { s with recycles := r :: s.recycles }

/-- `drainRecycledWorker(oldWorker)` as far as the process is concerned. -/
def drainRecycledWorker (old : Nat) (s : State) : State :=
  s.modifyWorker old fun w =>
    if w.dead then w.send s.now else (w.send s.now).disconnect s.now

/-- `drainOldWorker()`, with the `forceKillTimer` that `drainRecycledWorker` arms. -/
def drainOldWorker (e : Host) (r : Recycle) (s : State) : State :=
  if r.drained then s
  else
    let deadline := s.now + e.cfg.shutdown.timeoutMs
    let s := s.modifyRecycle r.new fun r => { r with
      drained := true
      drainFailsafeTimer := none
      forceKillTimer := if s.isDead r.old then none else some deadline }
    s.drainRecycledWorker r.old

/-- The replacement's `online` listener. -/
def onReplacementOnline (e : Host) (new : Nat) (s : State) : State :=
  match s.findRecycle new with
  | none => s
  | some r =>
    let s := s.modifyRecycle new fun r => { r with replacementOnline := true }
    if s.isShuttingDown then s else s.drainOldWorker e r

/-- The replacement's `exit` listener. -/
def onReplacementExit (e : Host) (new : Nat) (s : State) : State :=
  match s.findRecycle new with
  | none => s
  | some r =>
    if r.drained || r.replacementOnline || s.isShuttingDown then s else s.drainOldWorker e r

/-- The `exit` listeners of a drained worker: they clear its escalation timers. -/
def clearKillTimers (old : Nat) (s : State) : State :=
  { s with recycles := s.recycles.map fun r =>
      if r.old = old then { r with forceKillTimer := none, sigkillTimer := none } else r }

def drainFailsafeElapsed (e : Host) (new : Nat) (s : State) : Option State :=
  match s.findRecycle new with
  | none => none
  | some r =>
    match r.drainFailsafeTimer with
    | none => none
    | some deadline =>
      if deadline ≤ s.now then
        let s := s.modifyRecycle new fun r => { r with drainFailsafeTimer := none }
        if r.replacementOnline || s.isShuttingDown || s.isDead r.old then some s
        else some (s.drainOldWorker e r)
      else none

def kill (signal : Signal) (id : Nat) (s : State) : State :=
  s.modifyWorker id fun w => w.kill signal s.now

def countForcedKill (s : State) : State :=
  { s with metrics := { s.metrics with forcedKills := s.metrics.forcedKills + 1 } }

def forceKillElapsed (e : Host) (new : Nat) (s : State) : Option State :=
  match s.findRecycle new with
  | none => none
  | some r =>
    match r.forceKillTimer with
    | none => none
    | some deadline =>
      if deadline ≤ s.now then
        if s.isDead r.old || s.isShuttingDown then
          some (s.modifyRecycle new fun r => { r with forceKillTimer := none })
        else
          let deadline := s.now + (e.cfg.shutdown.sigtermDelayMs + e.cfg.shutdown.sigintDelayMs)
          some ((s.modifyRecycle new fun r => { r with
            forceKillTimer := none, sigkillTimer := some deadline }).kill .SIGTERM r.old)
      else none

def sigkillElapsed (new : Nat) (s : State) : Option State :=
  match s.findRecycle new with
  | none => none
  | some r =>
    match r.sigkillTimer with
    | none => none
    | some deadline =>
      if deadline ≤ s.now then
        let s := s.modifyRecycle new fun r => { r with sigkillTimer := none }
        if s.isDead r.old || s.isShuttingDown then some s
        else some ((s.kill .SIGKILL r.old).countForcedKill)
      else none

end ClusterKit.State
