import Mathlib.Algebra.Order.Ring.Unbundled.Rat
import Mathlib.Data.PNat.Basic

/-! The resolved configuration, worker environments, and what the host decides.
Durations are whole milliseconds; the backoff fields are rational because the
multiplier need not be a whole number. -/

namespace ClusterKit

/-! ## Worker environments -/

/-- The own keys of a `NodeJS.ProcessEnv`; a key may be present with `undefined`. -/
abbrev ProcessEnv := String → Option (Option String)

/-- `{ ...base, ...env }` -/
def overlay (base env : ProcessEnv) : ProcessEnv := fun key =>
  match env key with
  | some v => some v
  | none => base key

def FORBIDDEN_ENV_KEYS : List String := ["__proto__", "constructor", "prototype"]

/-- `assertSafeEnvObject` does not throw. -/
def isSafeEnvObject (env : ProcessEnv) : Bool :=
  FORBIDDEN_ENV_KEYS.all fun key => (env key).isNone

/-- The environment a worker is forked with: `cfg.workers.env`, overlaid if asked. -/
def workerEnv (base : ProcessEnv) : Option ProcessEnv → ProcessEnv
  | none => base
  | some env => overlay base env

/-! ## Configuration -/

inductive WorkerCount where
  | auto
  | fixed (n : ℕ+)

structure WorkersConfig where
  maxAgeMs : Nat := 0
  maxRssMb : Nat := 0

structure RestartConfig where
  crashThreshold : ℕ+ := 5
  crashWindowMs : Nat := 60000
  backoffMs : ℚ := 1000
  maxBackoffMs : ℚ := 30000
  backoffMultiplier : ℚ := 2
  stabilityWindowMs : Nat := 30000
  bootFailQuarantine : Nat := 0

structure ShutdownConfig where
  timeoutMs : Nat := 12000
  ackTimeoutMs : Nat := 3000
  messagePrefix : String := "__wm"
  sigtermDelayMs : Nat := 2000
  sigintDelayMs : Nat := 1000

structure HealthConfig where
  heartbeatMs : Nat := 0
  wedgedTimeoutMs : Nat := 0
  degradedAfterMs : Nat := 0
  maxEventLoopLagMs : Nat := 0
  lagRecycleBeats : Nat := 3
  lagSpikeMs : Nat := 0

/-- `ResolvedConfig` without the two fields that change after validation
(`workers.count` and `workers.env`, see `Orchestrator`). -/
structure ResolvedConfig where
  workers : WorkersConfig := {}
  restart : RestartConfig := {}
  shutdown : ShutdownConfig := {}
  health : HealthConfig := {}

def MAX_CONSECUTIVE_FORK_FAILURES : Nat := 3

def MAX_AUTO_WORKERS : Nat := 256

/-- The full escalation window plus a margin. -/
def ResolvedConfig.workerDrainBudgetMs (cfg : ResolvedConfig) : Nat :=
  cfg.shutdown.timeoutMs + cfg.shutdown.sigtermDelayMs + cfg.shutdown.sigintDelayMs + 5000

/-- What a run is given from outside: the configuration, the cached result of
`computeAutoWorkerCount`, whether the `n`-th call of `cluster.fork` succeeds, and
whether `Worker.send` throws for a worker id. -/
structure Host where
  cfg : ResolvedConfig := {}
  autoWorkerCount : ℕ+ := 1
  forkOk : Nat → Bool := fun _ => true
  sendThrows : Nat → Bool := fun _ => false

end ClusterKit
