import ClusterKit.Lib.SingleFlight
import ClusterKit.Lib.StepSystem
import ClusterKit.Text

/-! The detection of `SO_REUSEPORT`: a cached answer, a promise shared by the callers of one
detection, and the probe with two sockets whose events come in any order and as late as
they like. -/

namespace ClusterKit

/-! ## The platform -/

inductive Platform where
  | win32
  | darwin
  | linux
  | other
  deriving DecidableEq

/-- `/^(\d+)\.(\d+)/` -/
def parseKernelVersion (versionString : Text) : Option (Nat × Nat) :=
  match versionString.dropWhile Char.isDigit with
  | '.' :: rest =>
    (numeral 10 (versionString.takeWhile Char.isDigit)).bind fun major =>
      (numeral 10 (rest.takeWhile Char.isDigit)).map fun minor => (major, minor)
  | _ => none

/-- `process.platform` and `os.release()`. -/
structure PlatformInfo where
  platform : Platform
  release : Text

/-- The detection answers `false` without a probe. -/
def PlatformInfo.unsupported (e : PlatformInfo) : Bool :=
  match e.platform with
  | .win32 | .darwin => true
  | .linux =>
    match parseKernelVersion e.release with
    | some (major, minor) => !(decide (major > 3) || (decide (major = 3) && decide (minor ≥ 9)))
    | none => false
  | .other => false

/-! ## One probe -/

/-- How the promise of a probe settles. -/
inductive ProbeOutcome where
  | resolved (supported : Bool)
  /-- `ReusePortProbeTimeoutError` -/
  | timeout
  | error
  deriving DecidableEq

namespace ProbeOutcome

/-- What the detection answers. -/
def answer : ProbeOutcome → Bool
  | .resolved supported => supported
  | .timeout | .error => false

/-- What it caches. -/
def definitive : ProbeOutcome → Option Bool
  | .resolved supported => some supported
  | .timeout => none
  | .error => some false

end ProbeOutcome

/-- The closure of one `detectRuntimeReusePortSupport()`: its flag, its timer and its
listeners. -/
structure Probe where
  settled : Bool := false
  timer : Bool := true
  firstError : Bool := true
  secondError : Bool := true
  firstListening : Bool := true
  secondListening : Bool := false

/-- An event of the sockets, or the timer. -/
inductive ProbeEvent where
  | firstError
  | secondError
  /-- `port` says that the address names a port, `throws` that the second `listen` throws. -/
  | firstListening (port throws : Bool)
  | secondListening
  | timer

namespace Probe

def closeServers (p : Probe) : Probe :=
  { p with firstError := false, secondError := false, firstListening := false,
           secondListening := false }

/-- Settle the promise once. -/
def settle (outcome : ProbeOutcome) (p : Probe) : Probe × Option ProbeOutcome :=
  if p.settled then (p, none)
  else ({ p with settled := true, timer := false }.closeServers, some outcome)

def cleanup (result : Bool) (p : Probe) : Probe × Option ProbeOutcome := p.settle (.resolved result)

/-- A `once` listener is removed before it runs. -/
def handle (p : Probe) : ProbeEvent → Probe × Option ProbeOutcome
  | .firstError => if p.firstError then { p with firstError := false }.cleanup false else (p, none)
  | .secondError =>
    if p.secondError then { p with secondError := false }.cleanup false else (p, none)
  | .firstListening port throws =>
    if p.firstListening then
      let p := { p with firstListening := false }
      if !port then p.cleanup false
      else
        let p := { p with secondListening := true }
        if throws then p.cleanup false else (p, none)
    else (p, none)
  | .secondListening =>
    if p.secondListening then { p with secondListening := false }.cleanup true else (p, none)
  | .timer => if p.timer then { p with timer := false }.settle .timeout else (p, none)

end Probe

/-- What may go wrong before a probe waits for its sockets. -/
inductive ProbeFault where
  | createServer
  | listen
  deriving DecidableEq

/-- `detectRuntimeReusePortSupport()` up to the first event. -/
def Probe.start (fault : Option ProbeFault) : Probe × Option ProbeOutcome :=
  match fault with
  | none => ({}, none)
  | some .createServer => ({ settled := true, timer := false : Probe }.closeServers, some .error)
  | some .listen => ({} : Probe).cleanup false

/-! ## Detections -/

/-- A call of `detectReusePortSupport()`. -/
structure DetectCall where
  number : Nat
  /-- *History*: the first definitive outcome, when there was one already. -/
  known : Option Bool
  /-- The detection whose promise the caller waits for. -/
  detection : Option Nat
  deriving DecidableEq

structure DetectReply where
  call : DetectCall
  answer : Bool
  deriving DecidableEq

/-- Probes, outcomes and promises are named by their detection. -/
structure ReusePort where
  cachedReusePortSupport : Option Bool := none
  /-- The detections, and `detectionPromise` as the slot they share. -/
  flight : Flight := {}
  probes : Nat → Option Probe := fun _ => none
  outcomes : Nat → Option ProbeOutcome := fun _ => none
  promises : Nat → Option Bool := fun _ => none
  calls : Nat := 0
  waiting : List DetectCall := []
  /-- *History*: the answers that callers have received, newest first. -/
  replies : List DetectReply := []
  /-- *History*: the first definitive outcome. -/
  first : Option Bool := none

inductive DetectAction where
  | detect (fault : Option ProbeFault)
  | probe (detection : Nat) (event : ProbeEvent)
  /-- The detection goes on after its probe. -/
  | proceed (detection : Nat)
  | reply (call : DetectCall)

namespace ReusePort

/-- A detection has its outcome. -/
def noteOutcome (detection : Nat) (outcome : ProbeOutcome) (s : ReusePort) : ReusePort :=
  { s with
    outcomes := Function.update s.outcomes detection (some outcome)
    first := s.first.or outcome.definitive }

/-- The `try` after the probe, without the `finally`. -/
def finish (detection : Nat) (outcome : ProbeOutcome) (s : ReusePort) : ReusePort :=
  { s with
    cachedReusePortSupport := outcome.definitive.or s.cachedReusePortSupport
    promises := Function.update s.promises detection (some outcome.answer) }

/-- The probe of the detection settles. -/
def probeSettled (detection : Nat) (outcome : ProbeOutcome) (s : ReusePort) : ReusePort :=
  { s.noteOutcome detection outcome with flight := s.flight.settle detection }

/-- The probe of the detection moves on. -/
def probeMoves (detection : Nat) (result : Probe × Option ProbeOutcome) (s : ReusePort) :
    ReusePort :=
  let s := { s with probes := Function.update s.probes detection (some result.1) }
  match result.2 with
  | none => s
  | some outcome => s.probeSettled detection outcome

/-- A detection without a probe. Its `finally` runs before `detectionPromise` is assigned, so
that the variable keeps the settled promise. -/
def answerAtOnce (s : ReusePort) : ReusePort :=
  let detection := s.flight.started
  { (s.noteOutcome detection (.resolved false)).finish detection (.resolved false) with
    flight := { s.flight with started := detection + 1, slot := some detection } }

/-- A new detection. -/
def begin (e : PlatformInfo) (fault : Option ProbeFault) (s : ReusePort) : ReusePort :=
  if e.unsupported then s.answerAtOnce
  else { s with flight := s.flight.start }.probeMoves s.flight.started (Probe.start fault)

@[simp] theorem noteOutcome_outcomes_self (job : Nat) (outcome : ProbeOutcome) (s : ReusePort) :
    (s.noteOutcome job outcome).outcomes job = some outcome := Function.update_self ..

@[simp] theorem finish_promises_self (job : Nat) (outcome : ProbeOutcome) (s : ReusePort) :
    (s.finish job outcome).promises job = some outcome.answer := Function.update_self ..

theorem noteOutcome_outcomes_of_ne {job other : Nat} (h : other ≠ job) (outcome : ProbeOutcome)
    (s : ReusePort) : (s.noteOutcome job outcome).outcomes other = s.outcomes other :=
  Function.update_of_ne h ..

theorem finish_promises_of_ne {job other : Nat} (h : other ≠ job) (outcome : ProbeOutcome)
    (s : ReusePort) : (s.finish job outcome).promises other = s.promises other :=
  Function.update_of_ne h ..

def newCall (detection : Option Nat) (s : ReusePort) : DetectCall :=
  ⟨s.calls, s.first, detection⟩

/-- `detectReusePortSupport()` -/
def detect (e : PlatformInfo) (fault : Option ProbeFault) (s : ReusePort) : ReusePort :=
  match s.cachedReusePortSupport with
  | some supported =>
    { s with
      calls := s.calls + 1
      replies := ⟨s.newCall none, supported⟩ :: s.replies }
  | none =>
    match s.flight.slot with
    | some detection =>
      { s with calls := s.calls + 1, waiting := s.newCall detection :: s.waiting }
    | none =>
      let t := s.begin e fault
      { t with calls := s.calls + 1, waiting := s.newCall s.flight.started :: t.waiting }

def act (e : PlatformInfo) (s : ReusePort) : DetectAction → Option ReusePort
  | .detect fault => some (s.detect e fault)
  | .probe detection event =>
    (s.probes detection).map fun p => s.probeMoves detection (p.handle event)
  | .proceed detection =>
    if detection ∈ s.flight.settled then
      (s.outcomes detection).map fun outcome =>
        { s.finish detection outcome with flight := s.flight.release detection }
    else none
  | .reply call =>
    if call ∈ s.waiting then
      (call.detection.bind s.promises).map fun answer =>
        { s with waiting := s.waiting.erase call, replies := ⟨call, answer⟩ :: s.replies }
    else none

end ReusePort

def reusePort (e : PlatformInfo) : StepSystem ReusePort DetectAction where
  init := {}
  step s a := s.act e a

end ClusterKit
