import ClusterKit.Cgroup
import ClusterKit.Lib.Descent
import Mathlib.Algebra.Order.Field.Basic

/-! `calculateSizing` of the container sizing plugin, over exact rationals, and the count of
workers that the balanced strategy settles on. -/

namespace ClusterKit.ContainerSizing

/-! ## Options -/

inductive SizingStrategy where
  | balanced
  | cpuFirst
  deriving DecidableEq

/-- A field left out is `undefined` and takes its default. -/
structure SizingOptions where
  memoryOverheadFactor : ℚ := 4 / 5
  heapRatio : ℚ := 3 / 4
  minWorkers : Int := 1
  maxWorkers : Int := 64
  strategy : SizingStrategy := .balanced

def MIN_VIABLE_HEAP_MB : Int := 128

def MAX_REASONABLE_WORKERS : Int := 256

/-- The message of a `RangeError`. -/
structure RangeError where
  message : String
  deriving DecidableEq

def assertFraction (value : ℚ) (field : String) : Except RangeError Unit :=
  if value ≤ 0 ∨ 1 < value then
    .error ⟨field ++ " must be a finite number in the (0, 1] range"⟩
  else .ok ()

def assertPositiveInteger (value : Int) (field : String) : Except RangeError Unit :=
  if value < 1 then .error ⟨field ++ " must be a positive integer"⟩ else .ok ()

def assertReasonable (value : Int) (field : String) : Except RangeError Unit :=
  if MAX_REASONABLE_WORKERS < value then
    .error ⟨field ++ " must be less than or equal to " ++ toString MAX_REASONABLE_WORKERS⟩
  else .ok ()

def validateSizingOptions (options : SizingOptions) : Except RangeError Unit := do
  assertFraction options.memoryOverheadFactor "memoryOverheadFactor"
  assertFraction options.heapRatio "heapRatio"
  assertPositiveInteger options.minWorkers "minWorkers"
  assertPositiveInteger options.maxWorkers "maxWorkers"
  assertReasonable options.minWorkers "minWorkers"
  assertReasonable options.maxWorkers "maxWorkers"
  if options.maxWorkers < options.minWorkers then
    .error ⟨"minWorkers must be less than or equal to maxWorkers"⟩
  else .ok ()

/-! ## Sizing -/

/-- What `os` reports. -/
structure Host where
  osCpus : Nat
  osTotalMemoryBytes : Nat

structure SizingSource where
  limits : CgroupLimits
  host : Host

structure SizingResult where
  workers : Int
  memoryPerWorkerMb : Int
  v8HeapMb : Int
  constrained : Bool
  nodeOptions : Text
  source : SizingSource

def effectiveCpu (host : Host) (limits : CgroupLimits) : ℚ := limits.cpuLimit.getD host.osCpus

def effectiveMemory (host : Host) (limits : CgroupLimits) : ℚ :=
  limits.memoryLimitBytes.getD host.osTotalMemoryBytes

/-- The workers that the CPUs and the bounds allow. -/
def cpuWorkers (host : Host) (limits : CgroupLimits) (options : SizingOptions) : Int :=
  max options.minWorkers (min options.maxWorkers ⌊effectiveCpu host limits⌋)

section

variable (memory : ℚ) (options : SizingOptions) (workers : Int)

/-- A worker's share of the usable memory, in MB. -/
def memoryShare : ℚ := memory * options.memoryOverheadFactor / workers / (1024 * 1024)

/-- The heap that the loop tests, rounded once. -/
def testedHeapMb : Int := ⌊memoryShare memory options workers * options.heapRatio⌋

/-- The heap that is reported, of a share in whole MB. -/
def rawV8HeapMb : Int := ⌊(⌊memoryShare memory options workers⌋ : ℚ) * options.heapRatio⌋

end

/-- The workers once the loop has stepped down from those that the CPUs allow. -/
def sizedWorkers (host : Host) (limits : CgroupLimits) (options : SizingOptions) : Int :=
  let workers := cpuWorkers host limits options
  if options.strategy ≠ .cpuFirst then
    Descent.search
      (fun workers =>
        decide (MIN_VIABLE_HEAP_MB ≤ testedHeapMb (effectiveMemory host limits) options workers))
      options.minWorkers (workers - options.minWorkers).toNat
  else workers

/-- The plan, once the options are accepted. -/
def sizingPlan (host : Host) (limits : CgroupLimits) (options : SizingOptions) : SizingResult :=
  let workers := sizedWorkers host limits options
  let memoryPerWorkerMb := ⌊memoryShare (effectiveMemory host limits) options workers⌋
  let rawV8HeapMb := rawV8HeapMb (effectiveMemory host limits) options workers
  -- `--max-old-space-size=0` would make V8 fall back to its own default
  let v8HeapMb := max rawV8HeapMb MIN_VIABLE_HEAP_MB
  { workers
    memoryPerWorkerMb
    v8HeapMb
    constrained := decide (rawV8HeapMb < MIN_VIABLE_HEAP_MB)
    nodeOptions := "--max-old-space-size=".toList ++ (toString v8HeapMb).toList
    source := { limits, host } }

def calculateSizing (host : Host) (limits : CgroupLimits) (options : SizingOptions := {}) :
    Except RangeError SizingResult := do
  validateSizingOptions options
  return sizingPlan host limits options

/-! ## Accepted options -/

variable {host : Host} {limits : CgroupLimits} {options : SizingOptions} {result : SizingResult}

/-- What the checks leave. -/
structure SizingOptions.Accepted (options : SizingOptions) : Prop where
  factor_pos : 0 < options.memoryOverheadFactor
  factor_le : options.memoryOverheadFactor ≤ 1
  ratio_pos : 0 < options.heapRatio
  ratio_le : options.heapRatio ≤ 1
  one_le_min : 1 ≤ options.minWorkers
  min_le_max : options.minWorkers ≤ options.maxWorkers
  max_le : options.maxWorkers ≤ MAX_REASONABLE_WORKERS

theorem check_bind_ok {check : Except RangeError Unit} {next : Except RangeError Unit} :
    (check >>= fun _ => next) = .ok () ↔ check = .ok () ∧ next = .ok () := by
  cases check with
  | error err => exact ⟨fun h => (by cases h), fun h => h.1⟩
  | ok _ => exact ⟨fun h => ⟨rfl, h⟩, fun h => h.2⟩

theorem refused_or_ok {refused : Prop} [Decidable refused] {err : RangeError} :
    (if refused then .error err else .ok () : Except RangeError Unit) = .ok () ↔ ¬refused := by
  split <;> simp [*]

theorem accepted_iff : validateSizingOptions options = .ok () ↔ options.Accepted := by
  simp only [validateSizingOptions, check_bind_ok, assertFraction, assertPositiveInteger,
    assertReasonable, refused_or_ok, not_or, not_le, not_lt]
  constructor
  · rintro ⟨⟨hf, hf'⟩, ⟨hr, hr'⟩, hmin, _, _, hmax, hle⟩
    exact ⟨hf, hf', hr, hr', hmin, hle, hmax⟩
  · rintro ⟨hf, hf', hr, hr', hmin, hle, hmax⟩
    exact ⟨⟨hf, hf'⟩, ⟨hr, hr'⟩, hmin, hmin.trans hle, hle.trans hmax, hmax, hle⟩

theorem default_options_accepted (strategy : SizingStrategy) :
    ({ strategy } : SizingOptions).Accepted := by
  constructor <;> norm_num [MAX_REASONABLE_WORKERS]

/-! ## Heaps -/

section

variable {memory : ℚ} {n m : Int}

/-- Fewer workers have larger shares. -/
theorem memoryShare_le (hn : 0 < n) (hnm : n ≤ m) (hshare : 0 ≤ memoryShare memory options m) :
    memoryShare memory options m ≤ memoryShare memory options n := by
  have hn' : (0 : ℚ) < n := Int.cast_pos.mpr hn
  have hnm' : (n : ℚ) ≤ m := Int.cast_le.mpr hnm
  have hmem : 0 ≤ memory * options.memoryOverheadFactor := by
    by_contra hneg
    have hshare' : memoryShare memory options m < 0 :=
      div_neg_of_neg_of_pos (div_neg_of_neg_of_pos (not_le.mp hneg) (hn'.trans_le hnm'))
        (by norm_num)
    exact absurd hshare (not_le.mpr hshare')
  exact div_le_div_of_nonneg_right (div_le_div_of_nonneg_left hmem hn' hnm') (by norm_num)

/-- A heap of a share in whole MB is at most that of the share. -/
theorem rawV8HeapMb_le_tested (hratio : 0 ≤ options.heapRatio) :
    rawV8HeapMb memory options n ≤ testedHeapMb memory options n :=
  Int.floor_le_floor (mul_le_mul_of_nonneg_right (Int.floor_le _) hratio)

/-- A viable count leaves every smaller one viable. -/
theorem viable_of_le (hratio : 0 ≤ options.heapRatio) (hn : 0 < n) (hnm : n ≤ m)
    (h : MIN_VIABLE_HEAP_MB ≤ rawV8HeapMb memory options m) :
    MIN_VIABLE_HEAP_MB ≤ rawV8HeapMb memory options n := by
  have hshare : 0 ≤ memoryShare memory options m := by
    by_contra hneg
    have hfloor : (⌊memoryShare memory options m⌋ : ℚ) ≤ 0 :=
      (Int.floor_le _).trans (not_le.mp hneg).le
    have hheap : rawV8HeapMb memory options m ≤ 0 :=
      Int.floor_le_iff.mpr (by
        have := mul_nonpos_of_nonpos_of_nonneg hfloor hratio
        push_cast
        linarith)
    exact absurd (h.trans hheap) (by decide)
  have hfloor := Int.floor_le_floor (memoryShare_le hn hnm hshare)
  exact h.trans (Int.floor_le_floor
    (mul_le_mul_of_nonneg_right (Int.cast_le.mpr hfloor) hratio))

end

/-! ## The balanced strategy -/

theorem calculateSizing_ok_iff : calculateSizing host limits options = .ok result ↔
    options.Accepted ∧ result = sizingPlan host limits options := by
  rw [calculateSizing, ← accepted_iff]
  cases validateSizingOptions options with
  | error err => exact ⟨fun h => (by cases h), fun h => (by cases h.1)⟩
  | ok _ => exact ⟨fun h => (by cases h; exact ⟨rfl, rfl⟩), fun h => (by rw [h.2]; rfl)⟩

/-- The loop, as a search over the counts between the bounds. -/
theorem sizedWorkers_balanced (hbalanced : options.strategy = .balanced) :
    sizedWorkers host limits options =
      Descent.search
        (fun n =>
          decide (MIN_VIABLE_HEAP_MB ≤ testedHeapMb (effectiveMemory host limits) options n))
        options.minWorkers (cpuWorkers host limits options - options.minWorkers).toNat := by
  rw [sizedWorkers, hbalanced]
  rfl

theorem top_eq_cpuWorkers :
    options.minWorkers + ((cpuWorkers host limits options - options.minWorkers).toNat : Int) =
      cpuWorkers host limits options := by
  have hmin : options.minWorkers ≤ cpuWorkers host limits options := le_max_left _ _
  omega

/-- Balanced sizing chooses the largest viable count, and is constrained at the least count
only, exactly when no count above the least one passes the test of the loop with a heap that
is not viable once its share is rounded to whole MB. -/
theorem balanced_sizing_iff (h : calculateSizing host limits options = .ok result)
    (hbalanced : options.strategy = .balanced) :
    (Descent.Chosen
          (fun n => MIN_VIABLE_HEAP_MB ≤ rawV8HeapMb (effectiveMemory host limits) options n)
          options.minWorkers (cpuWorkers host limits options) result.workers ∧
        ¬(result.constrained = true ∧ options.minWorkers < result.workers)) ↔
      ∀ n, options.minWorkers < n → n ≤ cpuWorkers host limits options →
        MIN_VIABLE_HEAP_MB ≤ testedHeapMb (effectiveMemory host limits) options n →
        MIN_VIABLE_HEAP_MB ≤ rawV8HeapMb (effectiveMemory host limits) options n := by
  obtain ⟨haccepted, rfl⟩ := calculateSizing_ok_iff.mp h
  have hworkers : (sizingPlan host limits options).workers =
    sizedWorkers host limits options := rfl
  have hratio : 0 ≤ options.heapRatio := haccepted.ratio_pos.le
  have hsearch := Descent.chosen_search_iff
    (fun n => decide (MIN_VIABLE_HEAP_MB ≤ testedHeapMb (effectiveMemory host limits) options n))
    (fun n => MIN_VIABLE_HEAP_MB ≤ rawV8HeapMb (effectiveMemory host limits) options n)
    options.minWorkers (cpuWorkers host limits options - options.minWorkers).toNat
    (fun n hgood => decide_eq_true (hgood.trans (rawV8HeapMb_le_tested hratio)))
    (fun n m hn hnm hgood => viable_of_le hratio
      (lt_of_lt_of_le Int.one_pos haccepted.one_le_min |>.trans hn) hnm hgood)
  rw [← sizedWorkers_balanced hbalanced, ← hworkers, top_eq_cpuWorkers] at hsearch
  simp only [decide_eq_true_eq] at hsearch
  rw [← hsearch]
  refine and_iff_left_of_imp fun hchosen => ?_
  rintro ⟨hsmall, habove⟩
  have hsmall := of_decide_eq_true hsmall
  exact absurd (hchosen.good_of_lt habove) (not_le.mpr hsmall)

def ampleLimits : CgroupLimits := { cpuLimit := some 2, memoryLimitBytes := some 536870912 }

/-- 512 MB are enough for two workers on two CPUs. -/
theorem balanced_sizing_iff_two_cpus : ∃ result,
    calculateSizing ⟨2, 0⟩ ampleLimits = .ok result ∧
      Descent.Chosen (fun n => MIN_VIABLE_HEAP_MB ≤ rawV8HeapMb 536870912 {} n) 1 2
        result.workers := by
  have hok : calculateSizing ⟨2, 0⟩ ampleLimits = .ok (sizingPlan ⟨2, 0⟩ ampleLimits {}) :=
    calculateSizing_ok_iff.mpr ⟨default_options_accepted .balanced, rfl⟩
  have htop : cpuWorkers ⟨2, 0⟩ ampleLimits {} = 2 := by decide +kernel
  have hchosen := (balanced_sizing_iff hok rfl).mpr (by
    intro n hn hn' _
    rw [htop] at hn'
    obtain rfl : n = 2 := le_antisymm hn' hn
    decide +kernel)
  rw [htop] at hchosen
  exact ⟨_, hok, hchosen.1⟩

/-- 426.75 MB for two CPUs: shares of 170.7 MB, of which three quarters are viable, and of
170 whole MB, of which they are not. -/
def tightLimits : CgroupLimits := { cpuLimit := some 2, memoryLimitBytes := some 447479808 }

theorem tight_sizing (host : Host) : ∃ result,
    calculateSizing host tightLimits = .ok result ∧ result.workers = 2 ∧
      result.constrained = true := by
  refine ⟨sizingPlan host tightLimits {}, ?_, ?_, ?_⟩
  · exact calculateSizing_ok_iff.mpr ⟨default_options_accepted .balanced, rfl⟩
  · change sizedWorkers ⟨0, 0⟩ tightLimits {} = 2
    decide +kernel
  · change decide (rawV8HeapMb 447479808 {} (sizedWorkers ⟨0, 0⟩ tightLimits {}) < 128) = true
    decide +kernel

/-- Two workers are returned for them, and flagged constrained. -/
theorem constrained_above_minimum :
    ¬∀ (host : Host) (limits : CgroupLimits) (options : SizingOptions) (result : SizingResult),
      calculateSizing host limits options = .ok result → options.strategy = .balanced →
      Descent.Chosen
          (fun n => MIN_VIABLE_HEAP_MB ≤ rawV8HeapMb (effectiveMemory host limits) options n)
          options.minWorkers (cpuWorkers host limits options) result.workers ∧
        ¬(result.constrained = true ∧ options.minWorkers < result.workers) := by
  intro h
  obtain ⟨result, hok, hworkers, hconstrained⟩ := tight_sizing ⟨2, 0⟩
  exact (h _ _ _ _ hok rfl).2 ⟨hconstrained, by rw [hworkers]; decide⟩

end ClusterKit.ContainerSizing
