import ClusterKit.Lib.Projection
import ClusterKit.Orchestrator
import ClusterKit.WorkerProcess

/-! The fleet: the primary and its worker processes on one clock. Each side acts by itself;
what one does to the other arrives later. An IPC channel keeps its order in both
directions, a signal arrives any time after it was sent, and the primary learns of an exit
and of a closed channel at some later moment. -/

namespace ClusterKit

/-- It goes over the IPC channel. -/
def Sent.overIpc : Sent → Bool
  | .kill _ => false
  | _ => true

/-- What the primary sent to a worker over the channel, oldest first. -/
def Worker.ipc (w : Worker) : List Sent := ((w.sent.map Prod.fst).filter Sent.overIpc).reverse

/-- How often the primary sent the signal. -/
def Worker.kills (w : Worker) (signal : Signal) : Nat :=
  w.sent.countP fun p => decide (p.1 = .kill signal)

/-- What `exit` says of the end of a process. -/
def ProcessEnd.exit : ProcessEnd → Option Int × Option String
  | .shutdownComplete => (some 0, none)
  | .forcedExit => (some 1, none)
  | .channelLost => (some 0, none)
  | .killed signal => (none, some signal.name)
  | .application code => (code, none)

/-- A segment the primary starts by itself: a public call, a timer or a continuation. -/
def Action.own : Action → Bool
  | .tick _ => false
  | .workerOnline _ => false
  | .workerExit .. => false
  | .workerDisconnected _ => false
  | .workerSelfDisconnect _ => false
  | .workerMessage .. => false
  | .workerError _ => false
  | _ => true

/-- A segment the worker runs without the primary: not a message and not the channel's end. -/
def WorkerAction.own : WorkerAction → Bool
  | .message _ => false
  | .disconnected _ => false
  | _ => true

structure Fleet where
  primary : State
  now : Nat := 0
  processes : Nat → WorkerProcess := fun _ => {}
  /-- How much of what a worker sent the primary has read. -/
  heard : Nat → Nat := fun _ => 0
  /-- How much of what the primary sent over the channel reached the worker. -/
  reached : Nat → Nat := fun _ => 0
  /-- The signals of the primary that reached the process. -/
  signals : Nat → List Signal := fun _ => []
  /-- The worker has told the primary that it disconnects by itself. -/
  leaving : Nat → Bool := fun _ => false

inductive FleetAction where
  | tick (ms : Nat)
  | primary (a : Action)
  | worker (id : Nat) (a : WorkerAction)
  /-- The next message of the primary reaches the worker. -/
  | reach (id : Nat)
  /-- A signal of the primary reaches the process. -/
  | signal (id : Nat) (signal : Signal)
  /-- The primary reads the next message of the worker. -/
  | hear (id : Nat)
  | online (id : Nat)
  | exited (id : Nat)
  | channelClosed (id : Nat)
  | error (id : Nat)
  /-- The worker disconnects by itself: first it says so, then its channel closes. -/
  | leave (id : Nat)
  | left (id : Nat)
  /-- The primary is gone, and its end of the channel with it. -/
  | orphaned (id : Nat)

namespace Fleet

/-- The process was forked. -/
def isForked (f : Fleet) (id : Nat) : Bool := decide (1 ≤ id ∧ id ≤ f.primary.cluster.ids)

/-- What a worker sent, oldest first. -/
def messages (f : Fleet) (id : Nat) : List Message :=
  ((f.processes id).sent.map Prod.fst).reverse

/-- A segment of the primary. -/
def primaryStep (e : Host) (a : Action) (f : Fleet) : Option Fleet :=
  if f.primary.process.exited then none
  else (f.primary.act e a).map fun s => { f with primary := s }

/-- A segment of a worker process. -/
def workerStep (e : Host) (id : Nat) (a : WorkerAction) (f : Fleet) : Option Fleet :=
  if f.isForked id then
    ((f.processes id).step e.cfg f.now a).map fun p =>
      { f with processes := Function.update f.processes id p }
  else none

/-- What a message of the primary is to the worker that gets it. -/
def arrival (e : Host) : Sent → WorkerAction
  | .shutdownMessage => .message (some { type := e.cfg.shutdown.shutdownType })
  | .disconnect => .disconnected true
  | .kill signal => .signal signal

def reach (e : Host) (id : Nat) (f : Fleet) : Option Fleet :=
  match (f.primary.worker id).ipc[f.reached id]? with
  | none => none
  | some sent =>
    (f.workerStep e id (arrival e sent)).map fun f =>
      { f with reached := Function.update f.reached id (f.reached id + 1) }

def signal (e : Host) (id : Nat) (signal : Signal) (f : Fleet) : Option Fleet :=
  if (f.signals id).count signal < (f.primary.worker id).kills signal then
    (f.workerStep e id (.signal signal)).map fun f =>
      { f with signals := Function.update f.signals id (signal :: f.signals id) }
  else none

def hear (e : Host) (id : Nat) (f : Fleet) : Option Fleet :=
  match (f.messages id)[f.heard id]? with
  | none => none
  | some msg =>
    (f.primaryStep e (.workerMessage id (some msg))).map fun f =>
      { f with heard := Function.update f.heard id (f.heard id + 1) }

def exited (e : Host) (id : Nat) (f : Fleet) : Option Fleet :=
  match (f.processes id).ended with
  | none => none
  | some x => f.primaryStep e (.workerExit id x.exit.1 x.exit.2)

def channelClosed (e : Host) (id : Nat) (f : Fleet) : Option Fleet :=
  if (f.processes id).ended.isSome || !(f.processes id).connected then
    f.primaryStep e (.workerDisconnected id)
  else none

def leave (e : Host) (id : Nat) (f : Fleet) : Option Fleet :=
  if (f.processes id).ended.isNone && (f.processes id).connected && !f.leaving id then
    (f.primaryStep e (.workerSelfDisconnect id)).map fun f =>
      { f with leaving := Function.update f.leaving id true }
  else none

/-- Time passes for everybody. -/
def tick (ms : Nat) (f : Fleet) : Fleet :=
  { f with
    now := f.now + ms
    primary :=
      if f.primary.process.exited then f.primary
      else { f.primary with now := f.primary.now + ms } }

def step (e : Host) (f : Fleet) : FleetAction → Option Fleet
  | .tick ms => some (f.tick ms)
  | .primary a => if a.own then f.primaryStep e a else none
  | .worker id a => if a.own then f.workerStep e id a else none
  | .reach id => f.reach e id
  | .signal id signal => f.signal e id signal
  | .hear id => f.hear e id
  | .online id => f.primaryStep e (.workerOnline id)
  | .exited id => f.exited e id
  | .channelClosed id => f.channelClosed e id
  | .error id => f.primaryStep e (.workerError id)
  | .leave id => f.leave e id
  | .left id => if f.leaving id then f.workerStep e id (.disconnected true) else none
  | .orphaned id =>
    if f.primary.process.exited then f.workerStep e id (.disconnected false) else none

/-- What a worker process sees of the fleet. -/
def clocked (f : Fleet) (id : Nat) : ClockedWorker := { now := f.now, process := f.processes id }

end Fleet

/-- The fleet as a step system. -/
def fleet (e : Host) (count : WorkerCount) (env : ProcessEnv) : StepSystem Fleet FleetAction where
  init := { primary := State.initial e count env }
  step := Fleet.step e

end ClusterKit
