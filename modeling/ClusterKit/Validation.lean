import ClusterKit.Config
import Mathlib.Tactic.Linarith

/-! `validateConfig`: the checks a configuration has to pass, in the order they are made,
and what an accepted configuration promises. A field that is `none` was not given. -/

namespace ClusterKit

/-! ## Errors -/

inductive ValidationProblem where
  /-- `must be a finite number between min and max (got val)`; no `max` is `+∞` -/
  | notInRange (min : ℚ) (max : Option ℚ) (got : ℚ)
  /-- `must be a positive integer >= 1 (got val)` -/
  | notPositiveInteger (got : Int)
  /-- `must be a non-negative integer (got val)` -/
  | notNonNegativeInteger (got : Int)
  /-- `must be greater than or equal to restart.backoffMs (val ms)` -/
  | belowBackoff (backoffMs : ℚ)
  | message (text : String)
  deriving DecidableEq

structure WorkerManagerValidationError where
  field : String
  problem : ValidationProblem
  deriving DecidableEq

/-- What a check answers. -/
abbrev Checked := Except WorkerManagerValidationError Unit

def refuse (field : String) (problem : ValidationProblem) : Checked := .error ⟨field, problem⟩

def assertRange (val : ℚ) (field : String) (min : ℚ) (max : Option ℚ) : Checked :=
  if val < min || max.any (fun m => decide (m < val)) then refuse field (.notInRange min max val)
  else .ok ()

def assertPositiveInteger (val : Int) (field : String) : Checked :=
  if val < 1 then refuse field (.notPositiveInteger val) else .ok ()

def assertNonNegativeInteger (val : Int) (field : String) : Checked :=
  if val < 0 then refuse field (.notNonNegativeInteger val) else .ok ()

/-- A check of the source that stands under `!== undefined`. -/
def ifGiven {α : Type} (val : Option α) (check : α → Checked) : Checked :=
  match val with
  | none => .ok ()
  | some v => check v

/-! ## What a caller gives -/

structure WorkersInput where
  maxAgeMs : Option Int := none
  maxRssMb : Option Int := none

structure RestartInput where
  crashThreshold : Option Int := none
  crashWindowMs : Option Int := none
  backoffMs : Option ℚ := none
  maxBackoffMs : Option ℚ := none
  backoffMultiplier : Option ℚ := none
  stabilityWindowMs : Option Int := none
  bootFailQuarantine : Option Int := none

structure ShutdownInput where
  timeoutMs : Option Int := none
  ackTimeoutMs : Option Int := none
  messagePrefix : Option String := none
  sigtermDelayMs : Option Int := none
  sigintDelayMs : Option Int := none

structure HealthInput where
  heartbeatMs : Option Int := none
  wedgedTimeoutMs : Option Int := none
  degradedAfterMs : Option Int := none
  maxEventLoopLagMs : Option Int := none
  lagRecycleBeats : Option Int := none
  lagSpikeMs : Option Int := none

structure OrchestratorConfig where
  workers : WorkersInput := {}
  restart : RestartInput := {}
  shutdown : ShutdownInput := {}
  health : HealthInput := {}

/-! ## The checks -/

def validateWorkersOptions (workers : WorkersInput) : Checked := do
  ifGiven workers.maxAgeMs fun v =>
    if v = 0 then .ok () else assertRange v "workers.maxAgeMs" 1000 none
  ifGiven workers.maxRssMb fun v => assertNonNegativeInteger v "workers.maxRssMb"

def validateRestartOptions (restart : RestartInput) : Checked := do
  ifGiven restart.crashThreshold fun v => assertPositiveInteger v "restart.crashThreshold"
  ifGiven restart.crashWindowMs fun v => assertRange v "restart.crashWindowMs" 1000 (some 600000)
  ifGiven restart.backoffMs fun v => assertRange v "restart.backoffMs" 0 (some 60000)
  ifGiven restart.maxBackoffMs fun v => assertRange v "restart.maxBackoffMs" 1000 (some 300000)
  ifGiven restart.backoffMultiplier fun v => assertRange v "restart.backoffMultiplier" 1 (some 10)
  ifGiven restart.stabilityWindowMs fun v =>
    assertRange v "restart.stabilityWindowMs" 0 (some 600000)
  ifGiven restart.bootFailQuarantine fun v =>
    if v < 0 then refuse "restart.bootFailQuarantine" (.message "must be a non-negative integer")
    else .ok ()

/-- What `String.prototype.trim` strips. -/
def isTrimmed (c : Char) : Bool :=
  let n := c.toNat
  decide (9 ≤ n ∧ n ≤ 13) || n == 0x20 || n == 0xA0 || n == 0x1680 ||
    decide (0x2000 ≤ n ∧ n ≤ 0x200A) || n == 0x2028 || n == 0x2029 || n == 0x202F || n == 0x205F ||
    n == 0x3000 || n == 0xFEFF

def validateShutdownOptions (shutdown : ShutdownInput) : Checked := do
  ifGiven shutdown.timeoutMs fun v => assertRange v "shutdown.timeoutMs" 1000 (some 60000)
  ifGiven shutdown.ackTimeoutMs fun v => assertRange v "shutdown.ackTimeoutMs" 500 (some 30000)
  ifGiven shutdown.sigtermDelayMs fun v => assertRange v "shutdown.sigtermDelayMs" 100 (some 10000)
  ifGiven shutdown.sigintDelayMs fun v => assertRange v "shutdown.sigintDelayMs" 100 (some 10000)
  ifGiven shutdown.messagePrefix fun v =>
    if v.toList.all isTrimmed then
      refuse "shutdown.messagePrefix" (.message "must be a non-empty string")
    else if ':' ∈ v.toList then
      refuse "shutdown.messagePrefix" (.message "must not contain ':' (reserved separator)")
    else .ok ()

def validateHealthOptions (health : HealthInput) : Checked := do
  ifGiven health.heartbeatMs fun v => do
    assertNonNegativeInteger v "health.heartbeatMs"
    if 0 < v ∧ v < 100 then
      refuse "health.heartbeatMs" (.message "must be >= 100 when enabled (IPC protection)")
    else .ok ()
  ifGiven health.wedgedTimeoutMs fun v => assertNonNegativeInteger v "health.wedgedTimeoutMs"
  ifGiven health.degradedAfterMs fun v => assertNonNegativeInteger v "health.degradedAfterMs"
  ifGiven health.maxEventLoopLagMs fun v => assertNonNegativeInteger v "health.maxEventLoopLagMs"
  ifGiven health.lagRecycleBeats fun v =>
    if v < 1 then refuse "health.lagRecycleBeats" (.message "must be an integer >= 1") else .ok ()
  ifGiven health.lagSpikeMs fun v => assertNonNegativeInteger v "health.lagSpikeMs"

def validateCrossFieldConstraints (resolved : ResolvedConfig) : Checked := do
  let totalKillDelay := resolved.shutdown.sigtermDelayMs + resolved.shutdown.sigintDelayMs
  if totalKillDelay ≥ resolved.shutdown.timeoutMs then
    refuse "shutdown.timeoutMs" (.message
      ("must be greater than shutdown.sigtermDelayMs + shutdown.sigintDelayMs (" ++
        toString totalKillDelay ++ "ms)"))
  else if resolved.shutdown.ackTimeoutMs ≥ resolved.shutdown.timeoutMs then
    refuse "shutdown.ackTimeoutMs" (.message
      ("must be less than shutdown.timeoutMs (" ++ toString resolved.shutdown.timeoutMs ++ "ms)"))
  else if resolved.restart.backoffMs > resolved.restart.maxBackoffMs then
    refuse "restart.maxBackoffMs" (.belowBackoff resolved.restart.backoffMs)
  else if resolved.health.wedgedTimeoutMs > 0 ∧ resolved.health.heartbeatMs = 0 then
    refuse "health.wedgedTimeoutMs" (.message "requires health.heartbeatMs > 0")
  else if resolved.health.wedgedTimeoutMs > 0 ∧
      resolved.health.wedgedTimeoutMs < 2 * resolved.health.heartbeatMs then
    refuse "health.wedgedTimeoutMs" (.message
      ("must be >= 2 × health.heartbeatMs (" ++ toString resolved.health.heartbeatMs ++ "ms)"))
  else if resolved.health.maxEventLoopLagMs > 0 ∧ resolved.health.heartbeatMs = 0 then
    refuse "health.maxEventLoopLagMs" (.message "requires health.heartbeatMs > 0")
  else if resolved.health.lagSpikeMs > 0 ∧ resolved.health.heartbeatMs = 0 then
    refuse "health.lagSpikeMs" (.message "requires health.heartbeatMs > 0")
  else .ok ()

/-- The `resolvedConfig` of `validateConfig`: what was given, else the default. -/
def resolveConfig (config : OrchestratorConfig) : ResolvedConfig where
  workers :=
    { maxAgeMs := (config.workers.maxAgeMs.getD 0).toNat
      maxRssMb := (config.workers.maxRssMb.getD 0).toNat }
  restart :=
    { crashThreshold := (config.restart.crashThreshold.getD 5).toNat.toPNat'
      crashWindowMs := (config.restart.crashWindowMs.getD 60000).toNat
      backoffMs := config.restart.backoffMs.getD 1000
      maxBackoffMs := config.restart.maxBackoffMs.getD 30000
      backoffMultiplier := config.restart.backoffMultiplier.getD 2
      stabilityWindowMs := (config.restart.stabilityWindowMs.getD 30000).toNat
      bootFailQuarantine := (config.restart.bootFailQuarantine.getD 0).toNat }
  shutdown :=
    { timeoutMs := (config.shutdown.timeoutMs.getD 12000).toNat
      ackTimeoutMs := (config.shutdown.ackTimeoutMs.getD 3000).toNat
      messagePrefix := config.shutdown.messagePrefix.getD "__wm"
      sigtermDelayMs := (config.shutdown.sigtermDelayMs.getD 2000).toNat
      sigintDelayMs := (config.shutdown.sigintDelayMs.getD 1000).toNat }
  health :=
    { heartbeatMs := (config.health.heartbeatMs.getD 0).toNat
      wedgedTimeoutMs := (config.health.wedgedTimeoutMs.getD 0).toNat
      degradedAfterMs := (config.health.degradedAfterMs.getD 0).toNat
      maxEventLoopLagMs := (config.health.maxEventLoopLagMs.getD 0).toNat
      lagRecycleBeats := (config.health.lagRecycleBeats.getD 3).toNat
      lagSpikeMs := (config.health.lagSpikeMs.getD 0).toNat }

def validateConfig (config : OrchestratorConfig) :
    Except WorkerManagerValidationError ResolvedConfig := do
  validateWorkersOptions config.workers
  validateRestartOptions config.restart
  validateShutdownOptions config.shutdown
  validateHealthOptions config.health
  let resolvedConfig := resolveConfig config
  validateCrossFieldConstraints resolvedConfig
  return resolvedConfig

/-- The orchestrator was constructed: its configuration went through `validateConfig`. -/
def Host.Accepted (e : Host) : Prop := ∃ config, validateConfig config = .ok e.cfg

/-! ## What acceptance promises -/

theorem checked_bind {α : Type} {x : Checked} {f : Unit → Except WorkerManagerValidationError α}
    {a : α} (h : (x >>= f) = .ok a) : x = .ok () ∧ f () = .ok a := by
  cases x with
  | error err => cases h
  | ok u => exact ⟨rfl, h⟩

theorem assertRange_ok {val min : ℚ} {field : String} {max : Option ℚ}
    (h : assertRange val field min max = .ok ()) : min ≤ val := by
  unfold assertRange at h
  split at h
  · cases h
  · rename_i hcond
    simp only [Bool.or_eq_true, decide_eq_true_eq, not_or, not_lt] at hcond
    exact hcond.1

/-- A field is in its range, given or not, if its default is. -/
theorem getD_of_ifGiven {val : Option ℚ} {field : String} {min default : ℚ} {max : Option ℚ}
    (h : ifGiven val (fun v => assertRange v field min max) = .ok ()) (hd : min ≤ default) :
    min ≤ val.getD default := by
  cases val with
  | none => exact hd
  | some v => exact assertRange_ok h

/-- What the backoff relies on. -/
structure BackoffAccepted (restart : RestartConfig) : Prop where
  backoff : 0 ≤ restart.backoffMs
  max : 1000 ≤ restart.maxBackoffMs
  multiplier : 1 ≤ restart.backoffMultiplier
  ordered : restart.backoffMs ≤ restart.maxBackoffMs

theorem validateRestartOptions_ok {restart : RestartInput}
    (h : validateRestartOptions restart = .ok ()) :
    0 ≤ restart.backoffMs.getD 1000 ∧ 1000 ≤ restart.maxBackoffMs.getD 30000 ∧
      1 ≤ restart.backoffMultiplier.getD 2 := by
  unfold validateRestartOptions at h
  obtain ⟨-, h⟩ := checked_bind h
  obtain ⟨-, h⟩ := checked_bind h
  obtain ⟨hbackoff, h⟩ := checked_bind h
  obtain ⟨hmax, h⟩ := checked_bind h
  obtain ⟨hmultiplier, -⟩ := checked_bind h
  exact ⟨getD_of_ifGiven hbackoff (by norm_num), getD_of_ifGiven hmax (by norm_num),
    getD_of_ifGiven hmultiplier (by norm_num)⟩

theorem validateCrossFieldConstraints_ok {resolved : ResolvedConfig}
    (h : validateCrossFieldConstraints resolved = .ok ()) :
    resolved.restart.backoffMs ≤ resolved.restart.maxBackoffMs := by
  unfold validateCrossFieldConstraints at h
  simp only at h
  split at h
  · cases h
  · split at h
    · cases h
    · split at h
      · cases h
      · rename_i hle
        exact not_lt.mp hle

theorem Host.Accepted.backoff {e : Host} (h : e.Accepted) : BackoffAccepted e.cfg.restart := by
  obtain ⟨config, hok⟩ := h
  unfold validateConfig at hok
  obtain ⟨-, hok⟩ := checked_bind hok
  obtain ⟨hrestart, hok⟩ := checked_bind hok
  obtain ⟨-, hok⟩ := checked_bind hok
  obtain ⟨-, hok⟩ := checked_bind hok
  obtain ⟨hcross, hok⟩ := checked_bind hok
  obtain ⟨hbackoff, hmax, hmultiplier⟩ := validateRestartOptions_ok hrestart
  rw [← Except.ok.inj hok]
  exact ⟨hbackoff, hmax, hmultiplier, validateCrossFieldConstraints_ok hcross⟩

/-- A watch for wedged workers waits for two heartbeats at least. -/
theorem Host.Accepted.wedged {e : Host} (h : e.Accepted) (hon : e.cfg.health.wedgedTimeoutMs ≠ 0) :
    0 < e.cfg.health.heartbeatMs ∧
      2 * e.cfg.health.heartbeatMs ≤ e.cfg.health.wedgedTimeoutMs := by
  obtain ⟨config, hok⟩ := h
  unfold validateConfig at hok
  obtain ⟨-, hok⟩ := checked_bind hok
  obtain ⟨-, hok⟩ := checked_bind hok
  obtain ⟨-, hok⟩ := checked_bind hok
  obtain ⟨-, hok⟩ := checked_bind hok
  obtain ⟨hcross, hok⟩ := checked_bind hok
  rw [Except.ok.inj hok] at hcross
  have hpos : e.cfg.health.wedgedTimeoutMs > 0 := Nat.pos_of_ne_zero hon
  by_contra hshort
  -- one of the two checks on the timeout refuses
  unfold validateCrossFieldConstraints at hcross
  dsimp only at hcross
  split at hcross
  · cases hcross
  · split at hcross
    · cases hcross
    · split at hcross
      · cases hcross
      · split at hcross
        · cases hcross
        · rename_i hbeats
          split at hcross
          · cases hcross
          · rename_i hlong
            omega

/-- Every default passes its own check. -/
theorem defaults_accepted : validateConfig {} = .ok {} := rfl

end ClusterKit
