import ClusterKit.Recycling

/-! `HealthMonitor`, primary side: heartbeats in, recycle requests out. -/

namespace ClusterKit

/-- An IPC message object; a field that is not a number is `none`. -/
structure Message where
  type : String
  rss : Option Int := none
  heapUsed : Option Int := none
  eventLoopLagMs : Option Int := none

/-- `isTypedMessage(msg, expectedType)`; `none` is anything but a plain object. -/
def isTypedMessage (msg : Option Message) (expectedType : String) : Bool :=
  msg.any fun m => m.type == expectedType

namespace State

def modifyHealth (f : HealthMonitor → HealthMonitor) (s : State) : State :=
  { s with health := f s.health }

def checkRssLimit (e : Host) (id : Nat) (report : WorkerHealthReport) (s : State) : State :=
  let limitMb := e.cfg.workers.maxRssMb
  if limitMb = 0 || s.isShuttingDown then s
  else if id ∈ s.health.rssRecycled then s
  else if report.rss ≤ limitMb * 1024 * 1024 then s
  else
    (s.modifyHealth fun h => { h with rssRecycled := insert id h.rssRecycled }).triggerWorkerRecycle
      e id .rss

/-- Stop counting beats and ask for the recycle, once per worker. -/
def lagRecycle (e : Host) (id : Nat) (s : State) : State :=
  (s.modifyHealth fun h => { h with
    lagBeats := h.lagBeats.delete id
    lagRecycled := insert id h.lagRecycled }).triggerWorkerRecycle e id .lag

def checkLagLimit (e : Host) (id : Nat) (report : WorkerHealthReport) (s : State) : State :=
  if s.isShuttingDown then s
  else if id ∈ s.health.lagRecycled then s
  else
    let spikeMs := e.cfg.health.lagSpikeMs
    if spikeMs > 0 && decide (report.eventLoopLagMs > spikeMs) then s.lagRecycle e id
    else
      let thresholdMs := e.cfg.health.maxEventLoopLagMs
      if thresholdMs = 0 then s
      else if report.eventLoopLagMs > thresholdMs then
        let beats := (s.health.lagBeats.get? id).getD 0 + 1
        if beats < e.cfg.health.lagRecycleBeats then
          s.modifyHealth fun h => { h with lagBeats := h.lagBeats.set id beats }
        else s.lagRecycle e id
      else s.modifyHealth fun h => { h with lagBeats := h.lagBeats.delete id }

/-- `HealthMonitor.onWorkerMessage(workerId, pid, msg)` -/
def onHealthMessage (e : Host) (id : Nat) (msg : Option Message) (s : State) : State :=
  if !isTypedMessage msg (e.cfg.shutdown.messagePrefix ++ ":hb") then s
  else if id ∈ s.health.exitedWorkerIds then s
  else
    match msg with
    | some { rss := some rss, heapUsed := some heapUsed, eventLoopLagMs := some lag, .. } =>
      let report : WorkerHealthReport :=
        { workerId := id, rss := rss, heapUsed := heapUsed, eventLoopLagMs := lag }
      let s := s.modifyHealth fun h => { h with registry := h.registry.set id (s.now, report) }
      let s := s.emit (.workerHealth report)
      (s.checkRssLimit e id report).checkLagLimit e id report
    | _ => s

/-- One entry of the wedged watch. -/
def checkWedged (e : Host) (id lastReport : Nat) (s : State) : State :=
  let silentMs := s.now - lastReport
  if silentMs ≤ e.cfg.health.wedgedTimeoutMs then s
  else
    let s := s.modifyHealth fun h => { h with registry := h.registry.delete id }
    let s := if s.isMarkedForRecycling id then s else s.emit (.workerWedged id silentMs)
    s.triggerWorkerRecycle e id .wedged

def checkWedgedAll (e : Host) : List (Nat × Nat × WorkerHealthReport) → State → State
  | [], s => s
  | (id, lastReport, _) :: rest, s => checkWedgedAll e rest (s.checkWedged e id lastReport)

def startWedgedWatch (e : Host) (s : State) : State :=
  if e.cfg.health.wedgedTimeoutMs = 0 then s
  else s.modifyHealth fun h => { h with wedgedTimer := some (s.now + e.cfg.health.heartbeatMs) }

def wedgedWatch (e : Host) (s : State) : Option State :=
  match s.health.wedgedTimer with
  | none => none
  | some due =>
    if due ≤ s.now then
      let s := s.modifyHealth fun h => { h with
        wedgedTimer := some (s.now + e.cfg.health.heartbeatMs) }
      if s.isShuttingDown then some s
      else some (checkWedgedAll e s.health.registry.entries s)
    else none

/-- `HealthMonitor.onWorkerExit(workerId)` -/
def healthOnWorkerExit (id : Nat) (s : State) : State :=
  s.modifyHealth fun h => { h with
    exitedWorkerIds := insert id h.exitedWorkerIds
    registry := h.registry.delete id
    rssRecycled := h.rssRecycled.erase id
    lagRecycled := h.lagRecycled.erase id
    lagBeats := h.lagBeats.delete id }

/-- `HealthMonitor.stop()` -/
def stopHealth (s : State) : State :=
  s.modifyHealth fun h => { h with
    wedgedTimer := none, registry := .empty, rssRecycled := ∅, exitedWorkerIds := ∅ }

end State

end ClusterKit
