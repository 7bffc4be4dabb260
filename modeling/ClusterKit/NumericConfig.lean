import ClusterKit.Validation
import Mathlib.Data.Rat.Cast.Order

/-! The numbers of a configuration as JavaScript has them: a duration need not be whole,
and an integer is a number like any other. `Validation` reads whole durations; on these
the checks below accept the same configurations and name the same field. -/

namespace ClusterKit.Numeric

@[ext] structure Workers (F : Type) where
  maxAgeMs : F
  maxRssMb : F

@[ext] structure Restart (F : Type) where
  crashThreshold : F
  crashWindowMs : F
  backoffMs : F
  maxBackoffMs : F
  backoffMultiplier : F
  stabilityWindowMs : F
  bootFailQuarantine : F

@[ext] structure Shutdown (F : Type) where
  timeoutMs : F
  ackTimeoutMs : F
  sigtermDelayMs : F
  sigintDelayMs : F

@[ext] structure Health (F : Type) where
  heartbeatMs : F
  wedgedTimeoutMs : F
  degradedAfterMs : F
  maxEventLoopLagMs : F
  lagRecycleBeats : F
  lagSpikeMs : F

/-- The numeric fields of a configuration: given, with `F` the optional numbers, or
resolved, with `F` the numbers. -/
@[ext] structure Config (F : Type) where
  workers : Workers F
  restart : Restart F
  shutdown : Shutdown F
  health : Health F

/-! ## The checks; an error is the field it names -/

def assertRange (val : ℚ) (field : String) (min : ℚ) (max : Option ℚ) : Except String Unit :=
  if val < min || max.any (fun m => decide (m < val)) then .error field else .ok ()

/-- `Number.isInteger(val)` and a lower bound. -/
def assertInteger (val : ℚ) (field : String) (min : Int) : Except String Unit :=
  if !val.isInt || decide (val < min) then .error field else .ok ()

def ifGiven {α : Type} (val : Option α) (check : α → Except String Unit) : Except String Unit :=
  match val with
  | none => .ok ()
  | some v => check v

def validateWorkersOptions (workers : Workers (Option ℚ)) : Except String Unit := do
  ifGiven workers.maxAgeMs fun v =>
    if v = 0 then .ok () else assertRange v "workers.maxAgeMs" 1000 none
  ifGiven workers.maxRssMb fun v => assertInteger v "workers.maxRssMb" 0

def validateRestartOptions (restart : Restart (Option ℚ)) : Except String Unit := do
  ifGiven restart.crashThreshold fun v => assertInteger v "restart.crashThreshold" 1
  ifGiven restart.crashWindowMs fun v => assertRange v "restart.crashWindowMs" 1000 (some 600000)
  ifGiven restart.backoffMs fun v => assertRange v "restart.backoffMs" 0 (some 60000)
  ifGiven restart.maxBackoffMs fun v => assertRange v "restart.maxBackoffMs" 1000 (some 300000)
  ifGiven restart.backoffMultiplier fun v => assertRange v "restart.backoffMultiplier" 1 (some 10)
  ifGiven restart.stabilityWindowMs fun v =>
    assertRange v "restart.stabilityWindowMs" 0 (some 600000)
  ifGiven restart.bootFailQuarantine fun v => assertInteger v "restart.bootFailQuarantine" 0

def validateShutdownOptions (shutdown : Shutdown (Option ℚ)) (messagePrefix : Option String) :
    Except String Unit := do
  ifGiven shutdown.timeoutMs fun v => assertRange v "shutdown.timeoutMs" 1000 (some 60000)
  ifGiven shutdown.ackTimeoutMs fun v => assertRange v "shutdown.ackTimeoutMs" 500 (some 30000)
  ifGiven shutdown.sigtermDelayMs fun v => assertRange v "shutdown.sigtermDelayMs" 100 (some 10000)
  ifGiven shutdown.sigintDelayMs fun v => assertRange v "shutdown.sigintDelayMs" 100 (some 10000)
  ifGiven messagePrefix fun v =>
    if v.toList.all isTrimmed || decide (':' ∈ v.toList) then .error "shutdown.messagePrefix"
    else .ok ()

/-- A heartbeat that is enabled comes at most every 100 ms. -/
def validateHealthOptions (health : Health (Option ℚ)) : Except String Unit := do
  ifGiven health.heartbeatMs fun v => do
    assertInteger v "health.heartbeatMs" 0
    if 0 < v ∧ v < 100 then .error "health.heartbeatMs" else .ok ()
  ifGiven health.wedgedTimeoutMs fun v => assertInteger v "health.wedgedTimeoutMs" 0
  ifGiven health.degradedAfterMs fun v => assertInteger v "health.degradedAfterMs" 0
  ifGiven health.maxEventLoopLagMs fun v => assertInteger v "health.maxEventLoopLagMs" 0
  ifGiven health.lagRecycleBeats fun v => assertInteger v "health.lagRecycleBeats" 1
  ifGiven health.lagSpikeMs fun v => assertInteger v "health.lagSpikeMs" 0

def validateCrossFieldConstraints (resolved : Config ℚ) : Except String Unit :=
  if resolved.shutdown.sigtermDelayMs + resolved.shutdown.sigintDelayMs ≥
      resolved.shutdown.timeoutMs then .error "shutdown.timeoutMs"
  else if resolved.shutdown.ackTimeoutMs ≥ resolved.shutdown.timeoutMs then
    .error "shutdown.ackTimeoutMs"
  else if resolved.restart.backoffMs > resolved.restart.maxBackoffMs then
    .error "restart.maxBackoffMs"
  else if resolved.health.wedgedTimeoutMs > 0 ∧ resolved.health.heartbeatMs ≤ 0 then
    .error "health.wedgedTimeoutMs"
  else if resolved.health.wedgedTimeoutMs > 0 ∧
      resolved.health.wedgedTimeoutMs < 2 * resolved.health.heartbeatMs then
    .error "health.wedgedTimeoutMs"
  else if resolved.health.maxEventLoopLagMs > 0 ∧ resolved.health.heartbeatMs ≤ 0 then
    .error "health.maxEventLoopLagMs"
  else if resolved.health.lagSpikeMs > 0 ∧ resolved.health.heartbeatMs ≤ 0 then
    .error "health.lagSpikeMs"
  else .ok ()

/-- What was given, else the default. -/
def resolveConfig (config : Config (Option ℚ)) : Config ℚ where
  workers :=
    { maxAgeMs := config.workers.maxAgeMs.getD 0
      maxRssMb := config.workers.maxRssMb.getD 0 }
  restart :=
    { crashThreshold := config.restart.crashThreshold.getD 5
      crashWindowMs := config.restart.crashWindowMs.getD 60000
      backoffMs := config.restart.backoffMs.getD 1000
      maxBackoffMs := config.restart.maxBackoffMs.getD 30000
      backoffMultiplier := config.restart.backoffMultiplier.getD 2
      stabilityWindowMs := config.restart.stabilityWindowMs.getD 30000
      bootFailQuarantine := config.restart.bootFailQuarantine.getD 0 }
  shutdown :=
    { timeoutMs := config.shutdown.timeoutMs.getD 12000
      ackTimeoutMs := config.shutdown.ackTimeoutMs.getD 3000
      sigtermDelayMs := config.shutdown.sigtermDelayMs.getD 2000
      sigintDelayMs := config.shutdown.sigintDelayMs.getD 1000 }
  health :=
    { heartbeatMs := config.health.heartbeatMs.getD 0
      wedgedTimeoutMs := config.health.wedgedTimeoutMs.getD 0
      degradedAfterMs := config.health.degradedAfterMs.getD 0
      maxEventLoopLagMs := config.health.maxEventLoopLagMs.getD 0
      lagRecycleBeats := config.health.lagRecycleBeats.getD 3
      lagSpikeMs := config.health.lagSpikeMs.getD 0 }

def validateConfig (config : Config (Option ℚ)) (messagePrefix : Option String) :
    Except String (Config ℚ) := do
  validateWorkersOptions config.workers
  validateRestartOptions config.restart
  validateShutdownOptions config.shutdown messagePrefix
  validateHealthOptions config.health
  let resolvedConfig := resolveConfig config
  validateCrossFieldConstraints resolvedConfig
  return resolvedConfig

/-! ## Whole durations -/

def whole (val : Option Int) : Option ℚ := val.map fun v => (v : ℚ)

/-- A configuration of `Validation`. -/
def ofInput (config : OrchestratorConfig) : Config (Option ℚ) where
  workers :=
    { maxAgeMs := whole config.workers.maxAgeMs
      maxRssMb := whole config.workers.maxRssMb }
  restart :=
    { crashThreshold := whole config.restart.crashThreshold
      crashWindowMs := whole config.restart.crashWindowMs
      backoffMs := config.restart.backoffMs
      maxBackoffMs := config.restart.maxBackoffMs
      backoffMultiplier := config.restart.backoffMultiplier
      stabilityWindowMs := whole config.restart.stabilityWindowMs
      bootFailQuarantine := whole config.restart.bootFailQuarantine }
  shutdown :=
    { timeoutMs := whole config.shutdown.timeoutMs
      ackTimeoutMs := whole config.shutdown.ackTimeoutMs
      sigtermDelayMs := whole config.shutdown.sigtermDelayMs
      sigintDelayMs := whole config.shutdown.sigintDelayMs }
  health :=
    { heartbeatMs := whole config.health.heartbeatMs
      wedgedTimeoutMs := whole config.health.wedgedTimeoutMs
      degradedAfterMs := whole config.health.degradedAfterMs
      maxEventLoopLagMs := whole config.health.maxEventLoopLagMs
      lagRecycleBeats := whole config.health.lagRecycleBeats
      lagSpikeMs := whole config.health.lagSpikeMs }

def ofResolved (resolved : ResolvedConfig) : Config ℚ where
  workers :=
    { maxAgeMs := resolved.workers.maxAgeMs
      maxRssMb := resolved.workers.maxRssMb }
  restart :=
    { crashThreshold := (resolved.restart.crashThreshold : Nat)
      crashWindowMs := resolved.restart.crashWindowMs
      backoffMs := resolved.restart.backoffMs
      maxBackoffMs := resolved.restart.maxBackoffMs
      backoffMultiplier := resolved.restart.backoffMultiplier
      stabilityWindowMs := resolved.restart.stabilityWindowMs
      bootFailQuarantine := resolved.restart.bootFailQuarantine }
  shutdown :=
    { timeoutMs := resolved.shutdown.timeoutMs
      ackTimeoutMs := resolved.shutdown.ackTimeoutMs
      sigtermDelayMs := resolved.shutdown.sigtermDelayMs
      sigintDelayMs := resolved.shutdown.sigintDelayMs }
  health :=
    { heartbeatMs := resolved.health.heartbeatMs
      wedgedTimeoutMs := resolved.health.wedgedTimeoutMs
      degradedAfterMs := resolved.health.degradedAfterMs
      maxEventLoopLagMs := resolved.health.maxEventLoopLagMs
      lagRecycleBeats := resolved.health.lagRecycleBeats
      lagSpikeMs := resolved.health.lagSpikeMs }

/-- The field that an error names. -/
def named {α : Type} (x : Except WorkerManagerValidationError α) : Except String α :=
  x.mapError fun err => err.field

/-- The next check is made if this one passed. -/
theorem named_next {α β : Type} {x : Checked} {x' : Except String Unit}
    {f : Unit → Except WorkerManagerValidationError α} {f' : Unit → Except String β} {g : α → β}
    (hx : x' = named x) (hf : x = .ok () → f' () = (named (f ())).map g) :
    (x' >>= f') = (named (x >>= f)).map g := by
  subst hx
  cases x with
  | error err => rfl
  | ok u => exact hf rfl

theorem named_then {x y : Checked} {x' y' : Except String Unit} (hx : x' = named x)
    (hy : y' = named y) : (x' >>= fun _ => y') = named (x >>= fun _ => y) := by
  subst hx hy
  cases x <;> rfl

theorem named_whole {val : Option Int} {check : Int → Checked} {check' : ℚ → Except String Unit}
    (h : ∀ v : Int, check' v = named (check v)) :
    ifGiven (whole val) check' = named (ClusterKit.ifGiven val check) := by
  cases val with
  | none => rfl
  | some v => exact h v

theorem named_given {α : Type} {val : Option α} {check : α → Checked}
    {check' : α → Except String Unit} (h : ∀ v, check' v = named (check v)) :
    ifGiven val check' = named (ClusterKit.ifGiven val check) := by
  cases val with
  | none => rfl
  | some v => exact h v

theorem named_assertRange (val : ℚ) (field : String) (min : ℚ) (max : Option ℚ) :
    assertRange val field min max = named (ClusterKit.assertRange val field min max) := by
  unfold assertRange ClusterKit.assertRange
  split <;> rfl

theorem assertInteger_cast (val : Int) (field : String) (min : Int) :
    assertInteger val field min = if val < min then .error field else .ok () := by
  unfold assertInteger
  simp [Rat.isInt]

theorem named_nonNegative (val : Int) (field : String) :
    assertInteger val field 0 = named (assertNonNegativeInteger val field) := by
  rw [assertInteger_cast, assertNonNegativeInteger]
  split <;> rfl

theorem named_positive (val : Int) (field : String) :
    assertInteger val field 1 = named (assertPositiveInteger val field) := by
  rw [assertInteger_cast, assertPositiveInteger]
  split <;> rfl

section

variable (workers : WorkersInput) (restart : RestartInput) (shutdown : ShutdownInput)
  (health : HealthInput)

theorem named_workers :
    validateWorkersOptions ⟨whole workers.maxAgeMs, whole workers.maxRssMb⟩ =
      named (ClusterKit.validateWorkersOptions workers) := by
  refine named_then (named_whole fun v => ?_) (named_whole fun v => named_nonNegative v _)
  simp only [Int.cast_eq_zero]
  split
  · rfl
  · exact named_assertRange _ _ _ _

theorem named_restart :
    validateRestartOptions (ofInput { restart := restart }).restart =
      named (ClusterKit.validateRestartOptions restart) := by
  refine named_then (named_whole fun v => named_positive v _) ?_
  refine named_then (named_whole fun v => named_assertRange _ _ _ _) ?_
  refine named_then (named_given fun v => named_assertRange _ _ _ _) ?_
  refine named_then (named_given fun v => named_assertRange _ _ _ _) ?_
  refine named_then (named_given fun v => named_assertRange _ _ _ _) ?_
  refine named_then (named_whole fun v => named_assertRange _ _ _ _) ?_
  refine named_whole fun v => ?_
  rw [assertInteger_cast]
  split <;> rfl

theorem named_shutdown :
    validateShutdownOptions (ofInput { shutdown := shutdown }).shutdown shutdown.messagePrefix =
      named (ClusterKit.validateShutdownOptions shutdown) := by
  refine named_then (named_whole fun v => named_assertRange _ _ _ _) ?_
  refine named_then (named_whole fun v => named_assertRange _ _ _ _) ?_
  refine named_then (named_whole fun v => named_assertRange _ _ _ _) ?_
  refine named_then (named_whole fun v => named_assertRange _ _ _ _) ?_
  refine named_given fun v => ?_
  by_cases htrim : v.toList.all isTrimmed = true
  · rw [htrim, Bool.true_or, if_pos rfl, if_pos rfl]
    rfl
  · rw [Bool.eq_false_iff.mpr htrim, Bool.false_or, if_neg Bool.false_ne_true]
    by_cases hcolon : ':' ∈ v.toList
    · rw [if_pos hcolon, if_pos (decide_eq_true hcolon)]
      rfl
    · rw [if_neg hcolon, if_neg (by simpa using hcolon)]
      rfl

theorem named_health :
    validateHealthOptions (ofInput { health := health }).health =
      named (ClusterKit.validateHealthOptions health) := by
  refine named_then (named_whole fun v => named_then (named_nonNegative v _) ?_) ?_
  · have hcast : (0 < (v : ℚ) ∧ (v : ℚ) < 100) ↔ (0 < v ∧ v < 100) := by norm_cast
    simp only [hcast]
    split <;> rfl
  refine named_then (named_whole fun v => named_nonNegative v _) ?_
  refine named_then (named_whole fun v => named_nonNegative v _) ?_
  refine named_then (named_whole fun v => named_nonNegative v _) ?_
  refine named_then (named_whole fun v => ?_) (named_whole fun v => named_nonNegative v _)
  rw [assertInteger_cast]
  split <;> rfl

end

theorem named_cross (resolved : ResolvedConfig) :
    validateCrossFieldConstraints (ofResolved resolved) =
      named (ClusterKit.validateCrossFieldConstraints resolved) := by
  unfold validateCrossFieldConstraints ClusterKit.validateCrossFieldConstraints
  simp only [ofResolved]
  norm_cast
  simp only [Nat.le_zero]
  repeat' split
  all_goals rfl

/-! ### What was given resolves to the same numbers -/

theorem ok_of_bind {α : Type} {x : Except String Unit} {f : Unit → Except String α} {a : α}
    (h : (x >>= f) = .ok a) : x = .ok () ∧ f () = .ok a := by
  cases x with
  | error field => cases h
  | ok u => exact ⟨rfl, h⟩

theorem assertRange_ok {val min : ℚ} {field : String} {max : Option ℚ}
    (h : assertRange val field min max = .ok ()) : min ≤ val ∧ ∀ m ∈ max, val ≤ m := by
  unfold assertRange at h
  split at h
  · cases h
  · rename_i hcond
    simp only [Bool.or_eq_true, decide_eq_true_eq, not_or, not_lt] at hcond
    refine ⟨hcond.1, fun m hm => ?_⟩
    have hany := hcond.2
    rw [Option.mem_def.mp hm, Option.any_some, decide_eq_true_eq, not_lt] at hany
    exact hany

theorem assertInteger_ok {val : ℚ} {field : String} {min : Int}
    (h : assertInteger val field min = .ok ()) : (min : ℚ) ≤ val := by
  unfold assertInteger at h
  split at h
  · cases h
  · rename_i hcond
    simp only [Bool.or_eq_true, decide_eq_true_eq, not_or, not_lt] at hcond
    exact hcond.2

/-- A field has what its check asks for, given or not, if its default has. -/
theorem getD_of_ifGiven {val : Option ℚ} {check : ℚ → Except String Unit} {default : ℚ}
    {P : ℚ → Prop} (h : ifGiven val check = .ok ()) (hcheck : ∀ v, check v = .ok () → P v)
    (hd : P default) : P (val.getD default) := by
  cases val with
  | none => exact hd
  | some v => exact hcheck v h

/-- What the checks of the sections ask of every number, given or not. -/
structure InRanges (resolved : Config ℚ) : Prop where
  maxAgeMs : 0 ≤ resolved.workers.maxAgeMs
  maxRssMb : 0 ≤ resolved.workers.maxRssMb
  crashThreshold : 1 ≤ resolved.restart.crashThreshold
  crashWindowMs : 1000 ≤ resolved.restart.crashWindowMs ∧ resolved.restart.crashWindowMs ≤ 600000
  backoffMs : 0 ≤ resolved.restart.backoffMs ∧ resolved.restart.backoffMs ≤ 60000
  maxBackoffMs : 1000 ≤ resolved.restart.maxBackoffMs ∧ resolved.restart.maxBackoffMs ≤ 300000
  backoffMultiplier : 1 ≤ resolved.restart.backoffMultiplier ∧
    resolved.restart.backoffMultiplier ≤ 10
  stabilityWindowMs : 0 ≤ resolved.restart.stabilityWindowMs ∧
    resolved.restart.stabilityWindowMs ≤ 600000
  bootFailQuarantine : 0 ≤ resolved.restart.bootFailQuarantine
  timeoutMs : 1000 ≤ resolved.shutdown.timeoutMs ∧ resolved.shutdown.timeoutMs ≤ 60000
  ackTimeoutMs : 500 ≤ resolved.shutdown.ackTimeoutMs ∧ resolved.shutdown.ackTimeoutMs ≤ 30000
  sigtermDelayMs : 100 ≤ resolved.shutdown.sigtermDelayMs ∧
    resolved.shutdown.sigtermDelayMs ≤ 10000
  sigintDelayMs : 100 ≤ resolved.shutdown.sigintDelayMs ∧ resolved.shutdown.sigintDelayMs ≤ 10000
  heartbeatMs : 0 ≤ resolved.health.heartbeatMs
  wedgedTimeoutMs : 0 ≤ resolved.health.wedgedTimeoutMs
  degradedAfterMs : 0 ≤ resolved.health.degradedAfterMs
  maxEventLoopLagMs : 0 ≤ resolved.health.maxEventLoopLagMs
  lagRecycleBeats : 1 ≤ resolved.health.lagRecycleBeats
  lagSpikeMs : 0 ≤ resolved.health.lagSpikeMs

section

variable {val : Option ℚ} {field : String} {min max default : ℚ}

theorem getD_inRange (h : ifGiven val (fun v => assertRange v field min (some max)) = .ok ())
    (hd : min ≤ default ∧ default ≤ max) : min ≤ val.getD default ∧ val.getD default ≤ max := by
  refine getD_of_ifGiven (P := fun v => min ≤ v ∧ v ≤ max) h (fun v hv => ?_) hd
  obtain ⟨hmin, hmax⟩ := assertRange_ok hv
  exact ⟨hmin, hmax max rfl⟩

theorem getD_integer {bound : Int} (h : ifGiven val (fun v => assertInteger v field bound) = .ok ())
    (hd : (bound : ℚ) ≤ default) : (bound : ℚ) ≤ val.getD default :=
  getD_of_ifGiven h (fun _ hv => assertInteger_ok hv) hd

end

/-- The four checks of the sections, one after the other. -/
theorem inRanges_of_checks {config : Config (Option ℚ)} {messagePrefix : Option String}
    (hworkers : validateWorkersOptions config.workers = .ok ())
    (hrestart : validateRestartOptions config.restart = .ok ())
    (hshutdown : validateShutdownOptions config.shutdown messagePrefix = .ok ())
    (hhealth : validateHealthOptions config.health = .ok ()) : InRanges (resolveConfig config) := by
  obtain ⟨hmaxAge, hmaxRss⟩ := ok_of_bind hworkers
  obtain ⟨hcrashThreshold, hrestart⟩ := ok_of_bind hrestart
  obtain ⟨hcrashWindow, hrestart⟩ := ok_of_bind hrestart
  obtain ⟨hbackoff, hrestart⟩ := ok_of_bind hrestart
  obtain ⟨hmaxBackoff, hrestart⟩ := ok_of_bind hrestart
  obtain ⟨hmultiplier, hrestart⟩ := ok_of_bind hrestart
  obtain ⟨hstability, hquarantine⟩ := ok_of_bind hrestart
  obtain ⟨htimeout, hshutdown⟩ := ok_of_bind hshutdown
  obtain ⟨hack, hshutdown⟩ := ok_of_bind hshutdown
  obtain ⟨hsigterm, hshutdown⟩ := ok_of_bind hshutdown
  obtain ⟨hsigint, -⟩ := ok_of_bind hshutdown
  obtain ⟨hheartbeat, hhealth⟩ := ok_of_bind hhealth
  obtain ⟨hwedged, hhealth⟩ := ok_of_bind hhealth
  obtain ⟨hdegraded, hhealth⟩ := ok_of_bind hhealth
  obtain ⟨hlag, hhealth⟩ := ok_of_bind hhealth
  obtain ⟨hbeats, hspike⟩ := ok_of_bind hhealth
  constructor
  case maxAgeMs =>
    refine getD_of_ifGiven (P := fun v => 0 ≤ v) hmaxAge (fun v hv => ?_) le_rfl
    split at hv
    · rename_i hzero
      exact hzero.ge
    · exact (by norm_num : (0 : ℚ) ≤ 1000).trans (assertRange_ok hv).1
  case maxRssMb => exact_mod_cast getD_integer hmaxRss (by norm_num)
  case crashThreshold => exact_mod_cast getD_integer hcrashThreshold (by norm_num)
  case crashWindowMs => exact getD_inRange hcrashWindow (by norm_num)
  case backoffMs => exact getD_inRange hbackoff (by norm_num)
  case maxBackoffMs => exact getD_inRange hmaxBackoff (by norm_num)
  case backoffMultiplier => exact getD_inRange hmultiplier (by norm_num)
  case stabilityWindowMs => exact getD_inRange hstability (by norm_num)
  case bootFailQuarantine => exact_mod_cast getD_integer hquarantine (by norm_num)
  case timeoutMs => exact getD_inRange htimeout (by norm_num)
  case ackTimeoutMs => exact getD_inRange hack (by norm_num)
  case sigtermDelayMs => exact getD_inRange hsigterm (by norm_num)
  case sigintDelayMs => exact getD_inRange hsigint (by norm_num)
  case heartbeatMs =>
    refine getD_of_ifGiven (P := fun v => 0 ≤ v) hheartbeat (fun v hv => ?_) le_rfl
    exact_mod_cast assertInteger_ok (ok_of_bind hv).1
  case wedgedTimeoutMs => exact_mod_cast getD_integer hwedged (by norm_num)
  case degradedAfterMs => exact_mod_cast getD_integer hdegraded (by norm_num)
  case maxEventLoopLagMs => exact_mod_cast getD_integer hlag (by norm_num)
  case lagRecycleBeats => exact_mod_cast getD_integer hbeats (by norm_num)
  case lagSpikeMs => exact_mod_cast getD_integer hspike (by norm_num)

theorem validateConfig_ok {config : Config (Option ℚ)} {messagePrefix : Option String}
    {resolved : Config ℚ} (h : validateConfig config messagePrefix = .ok resolved) :
    InRanges resolved ∧ validateCrossFieldConstraints resolved = .ok () ∧
      resolved = resolveConfig config := by
  obtain ⟨hworkers, h⟩ := ok_of_bind h
  obtain ⟨hrestart, h⟩ := ok_of_bind h
  obtain ⟨hshutdown, h⟩ := ok_of_bind h
  obtain ⟨hhealth, h⟩ := ok_of_bind h
  obtain ⟨hcross, h⟩ := ok_of_bind h
  rw [← Except.ok.inj h]
  exact ⟨inRanges_of_checks hworkers hrestart hshutdown hhealth, hcross, rfl⟩

theorem whole_getD {val : Option Int} (default : Nat) {d : ℚ} (hd : (default : ℚ) = d)
    (h : 0 ≤ (whole val).getD d) :
    (whole val).getD d = ((val.getD (default : Int)).toNat : Nat) := by
  subst hd
  cases val with
  | none => rfl
  | some v =>
    have hv : 0 ≤ v := Int.cast_nonneg_iff.mp h
    have hcast : ((v.toNat : Int) : ℚ) = v := congrArg _ (Int.toNat_of_nonneg hv)
    exact hcast.symm

theorem crashThreshold_getD {val : Option Int} (h : 1 ≤ (whole val).getD 5) :
    (whole val).getD 5 = (((val.getD 5).toNat.toPNat' : ℕ+) : Nat) := by
  have heq : (whole val).getD 5 = ((val.getD 5).toNat : Nat) :=
    whole_getD 5 (by norm_num) (le_trans (by norm_num) h)
  have hpos : 0 < (val.getD 5).toNat := by
    rw [heq] at h
    exact_mod_cast h
  rw [heq, Nat.toPNat'_coe, if_pos hpos]

theorem resolveConfig_ofInput {config : OrchestratorConfig}
    (h : InRanges (resolveConfig (ofInput config))) :
    resolveConfig (ofInput config) = ofResolved (ClusterKit.resolveConfig config) := by
  have nonneg {min v max : ℚ} (hmin : 0 ≤ min) (hv : min ≤ v ∧ v ≤ max) : 0 ≤ v :=
    hmin.trans hv.1
  apply Config.ext
  · apply Workers.ext
    · exact whole_getD 0 (by norm_num) h.maxAgeMs
    · exact whole_getD 0 (by norm_num) h.maxRssMb
  · apply Restart.ext
    · exact crashThreshold_getD h.crashThreshold
    · exact whole_getD 60000 (by norm_num) (nonneg (by norm_num) h.crashWindowMs)
    · rfl
    · rfl
    · rfl
    · exact whole_getD 30000 (by norm_num) h.stabilityWindowMs.1
    · exact whole_getD 0 (by norm_num) h.bootFailQuarantine
  · apply Shutdown.ext
    · exact whole_getD 12000 (by norm_num) (nonneg (by norm_num) h.timeoutMs)
    · exact whole_getD 3000 (by norm_num) (nonneg (by norm_num) h.ackTimeoutMs)
    · exact whole_getD 2000 (by norm_num) (nonneg (by norm_num) h.sigtermDelayMs)
    · exact whole_getD 1000 (by norm_num) (nonneg (by norm_num) h.sigintDelayMs)
  · apply Health.ext
    · exact whole_getD 0 (by norm_num) h.heartbeatMs
    · exact whole_getD 0 (by norm_num) h.wedgedTimeoutMs
    · exact whole_getD 0 (by norm_num) h.degradedAfterMs
    · exact whole_getD 0 (by norm_num) h.maxEventLoopLagMs
    · exact whole_getD 3 (by norm_num) (le_trans (by norm_num) h.lagRecycleBeats)
    · exact whole_getD 0 (by norm_num) h.lagSpikeMs

/-- **Whole durations.** On a configuration of `Validation` the two validators agree: in
what they resolve it to, and in the field that an error names. -/
theorem validateConfig_ofInput (config : OrchestratorConfig) :
    validateConfig (ofInput config) config.shutdown.messagePrefix =
      (named (ClusterKit.validateConfig config)).map ofResolved := by
  refine named_next (named_workers config.workers) fun hworkers => ?_
  refine named_next (named_restart config.restart) fun hrestart => ?_
  refine named_next (named_shutdown config.shutdown) fun hshutdown => ?_
  refine named_next (named_health config.health) fun hhealth => ?_
  have hranges : InRanges (resolveConfig (ofInput config)) :=
    inRanges_of_checks ((named_workers _).trans (congrArg named hworkers))
      ((named_restart _).trans (congrArg named hrestart))
      ((named_shutdown _).trans (congrArg named hshutdown))
      ((named_health _).trans (congrArg named hhealth))
  simp only [resolveConfig_ofInput hranges]
  exact named_next (named_cross _) fun _ => rfl

theorem validateConfig_of_ok (config : OrchestratorConfig) {resolved : ResolvedConfig}
    (h : ClusterKit.validateConfig config = .ok resolved) :
    validateConfig (ofInput config) config.shutdown.messagePrefix = .ok (ofResolved resolved) := by
  rw [validateConfig_ofInput, h]
  rfl

end ClusterKit.Numeric
