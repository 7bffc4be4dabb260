import ClusterKit.CgroupReaders
import ClusterKit.ContainerSizing

/-! The CPUs that the core counts, and those that the sizing plugin sizes for. -/

namespace ClusterKit.ContainerSizing

/-- `getCPUCount()`, by what `getCgroupCpuLimit()` returns. -/
def getCPUCount (host : Host) (cgroupLimit : Option ℚ) : ℚ :=
  let hostCpus := host.osCpus
  match cgroupLimit with
  | some cgroupLimit => if cgroupLimit < hostCpus then cgroupLimit else hostCpus
  | none => hostCpus

/-- The quota and the period that a cgroup sets, if it sets any. -/
abbrev CpuQuota := Option (Text × Option Text)

/-- The limit as the core's reader parses it, or the plugin's. -/
def CpuQuota.limit (quota : CpuQuota) (floorToAtLeastOne : Bool) : Option ℚ :=
  quota.bind fun raw => parseCpuLimit raw.1 raw.2 floorToAtLeastOne

/-- The lower of the whole CPUs of the limit and those of the host. -/
def lowerCpus (host : Host) (limit : Option ℚ) : ℚ :=
  match limit with
  | some limit => min (wholeCpus limit) host.osCpus
  | none => host.osCpus

variable {host : Host} {quota : CpuQuota} {memoryLimitBytes : Option ℚ} {options : SizingOptions}
  {result : SizingResult} {limits : CgroupLimits}

/-! ## What each counts -/

theorem CpuQuota.limit_whole : quota.limit true = (quota.limit false).map wholeCpus := by
  cases quota with
  | none => rfl
  | some raw => exact parseCpuLimit_whole raw.1 raw.2

theorem getCPUCount_eq : getCPUCount host (quota.limit true) = lowerCpus host (quota.limit false) := by
  rw [CpuQuota.limit_whole]
  cases quota.limit false with
  | none => rfl
  | some limit =>
    simp only [Option.map_some, getCPUCount, lowerCpus]
    split
    · rename_i hlt
      exact (min_eq_left hlt.le).symm
    · rename_i hge
      exact (min_eq_right (not_lt.mp hge)).symm

/-- The CPUs of a machine, of which there is at least one to run on. -/
def countedCpus (host : Host) (limits : CgroupLimits) : Int := max 1 ⌊effectiveCpu host limits⌋

/-- Neither bound on the workers matters. -/
abbrev Unbound (host : Host) (limits : CgroupLimits) (options : SizingOptions) : Prop :=
  options.minWorkers ≤ countedCpus host limits ∧ countedCpus host limits ≤ options.maxWorkers

theorem cpuWorkers_eq (haccepted : options.Accepted) (hunbound : Unbound host limits options) :
    cpuWorkers host limits options = countedCpus host limits := by
  obtain ⟨hmin, hmax⟩ := hunbound
  have hone := haccepted.one_le_min
  simp only [cpuWorkers, countedCpus] at hmin hmax ⊢
  omega

/-- The loop does not step down when the memory is enough for the count that the CPUs allow. -/
theorem sizedWorkers_eq (haccepted : options.Accepted)
    (hmemory : options.strategy = .cpuFirst ∨ MIN_VIABLE_HEAP_MB ≤
      rawV8HeapMb (effectiveMemory host limits) options (cpuWorkers host limits options)) :
    sizedWorkers host limits options = cpuWorkers host limits options := by
  rcases hmemory with hcpu | hample
  · rw [sizedWorkers, hcpu]
    rfl
  · cases hstrategy : options.strategy with
    | cpuFirst =>
      rw [sizedWorkers, hstrategy]
      rfl
    | balanced =>
      rw [sizedWorkers_balanced hstrategy]
      refine le_antisymm ((Descent.search_le _ _ _).trans_eq top_eq_cpuWorkers) ?_
      have hmin : options.minWorkers ≤ cpuWorkers host limits options := le_max_left _ _
      rcases eq_or_lt_of_le hmin with heq | hlt
      · exact heq ▸ Descent.lo_le_search _ _ _
      · exact Descent.le_search hlt top_eq_cpuWorkers.ge (decide_eq_true
          (hample.trans (rawV8HeapMb_le_tested haccepted.ratio_pos.le)))

/-! ## When they agree -/

/-- With bounds and memory that do not matter, the plugin sizes for the CPUs that the core
counts exactly when the limit has no more whole CPUs than the host. -/
theorem cpu_counts_agree_iff (hhost : 0 < host.osCpus)
    (h : calculateSizing host ⟨quota.limit false, memoryLimitBytes⟩ options = .ok result)
    (hunbound : Unbound host ⟨quota.limit false, memoryLimitBytes⟩ options)
    (hmemory : options.strategy = .cpuFirst ∨ MIN_VIABLE_HEAP_MB ≤
      rawV8HeapMb (effectiveMemory host ⟨quota.limit false, memoryLimitBytes⟩) options
        (cpuWorkers host ⟨quota.limit false, memoryLimitBytes⟩ options)) :
    ((result.workers : ℚ) = getCPUCount host (quota.limit true) ∧
        getCPUCount host (quota.limit true) = lowerCpus host (quota.limit false)) ↔
      ∀ limit, quota.limit false = some limit → ⌊limit⌋ ≤ (host.osCpus : Int) := by
  obtain ⟨haccepted, rfl⟩ := calculateSizing_ok_iff.mp h
  have hworkers : (sizingPlan host ⟨quota.limit false, memoryLimitBytes⟩ options).workers =
      countedCpus host ⟨quota.limit false, memoryLimitBytes⟩ :=
    (sizedWorkers_eq haccepted hmemory).trans (cpuWorkers_eq haccepted hunbound)
  rw [getCPUCount_eq, and_iff_left rfl, hworkers]
  cases quota.limit false with
  | none =>
    have hcount : countedCpus host ⟨none, memoryLimitBytes⟩ = host.osCpus := by
      simp only [countedCpus, effectiveCpu, Option.getD_none, Int.floor_natCast]
      omega
    rw [hcount]
    exact iff_of_true rfl nofun
  | some limit =>
    have hcount : (countedCpus host ⟨some limit, memoryLimitBytes⟩ : ℚ) = wholeCpus limit := by
      simp only [countedCpus, effectiveCpu, Option.getD_some, wholeCpus]
      push_cast
      rfl
    have hone : (1 : ℚ) ≤ host.osCpus := Nat.one_le_cast.mpr hhost
    have hfloor : (⌊limit⌋ : ℚ) ≤ host.osCpus ↔ ⌊limit⌋ ≤ (host.osCpus : Int) := by
      rw [← Int.cast_natCast, Int.cast_le]
    rw [hcount, lowerCpus, left_eq_inf, wholeCpus, max_le_iff, and_iff_right hone, hfloor]
    exact ⟨by rintro hle _ ⟨⟩; exact hle, fun hle => hle limit rfl⟩

/-- The `cpu-first` plan for a quota of CPUs on a host with four. -/
def cpuFirstPlan (quota : CpuQuota) : SizingResult :=
  sizingPlan ⟨4, 0⟩ ⟨quota.limit false, none⟩ { strategy := .cpuFirst }

theorem cpuFirstPlan_computed (quota : CpuQuota) :
    calculateSizing ⟨4, 0⟩ ⟨quota.limit false, none⟩ { strategy := .cpuFirst } =
      .ok (cpuFirstPlan quota) :=
  calculateSizing_ok_iff.mpr ⟨default_options_accepted .cpuFirst, rfl⟩

/-- A quota of two and a half CPUs. -/
theorem cpu_counts_agree_iff_fractional :
    (cpuFirstPlan (some ("250000".toList, some "100000".toList))).workers =
      getCPUCount ⟨4, 0⟩ (some 2) := by
  have hlimit : CpuQuota.limit (some ("250000".toList, some "100000".toList)) false =
    some (5 / 2) := by decide +kernel
  have hcore : CpuQuota.limit (some ("250000".toList, some "100000".toList)) true = some 2 := by
    decide +kernel
  have hagree := (cpu_counts_agree_iff (by decide)
    (cpuFirstPlan_computed (some ("250000".toList, some "100000".toList)))
    (by rw [hlimit]; decide +kernel) (Or.inl rfl)).mpr (by
      rw [hlimit]
      rintro _ ⟨⟩
      decide +kernel)
  rw [← hcore]
  exact hagree.1

/-- A quota of eight CPUs: the plugin sizes for all of them, the core counts four. -/
theorem limit_above_host :
    ¬∀ (host : Host) (quota : CpuQuota) (memoryLimitBytes : Option ℚ) (options : SizingOptions)
      (result : SizingResult), 0 < host.osCpus →
      calculateSizing host ⟨quota.limit false, memoryLimitBytes⟩ options = .ok result →
      Unbound host ⟨quota.limit false, memoryLimitBytes⟩ options →
      options.strategy = .cpuFirst ∨ MIN_VIABLE_HEAP_MB ≤
        rawV8HeapMb (effectiveMemory host ⟨quota.limit false, memoryLimitBytes⟩) options
          (cpuWorkers host ⟨quota.limit false, memoryLimitBytes⟩ options) →
      (result.workers : ℚ) = getCPUCount host (quota.limit true) ∧
        getCPUCount host (quota.limit true) = lowerCpus host (quota.limit false) := by
  intro h
  have hagree := h ⟨4, 0⟩ (some ("800000".toList, some "100000".toList)) none
    { strategy := .cpuFirst } _ (by decide) (cpuFirstPlan_computed _) (by decide +kernel)
    (Or.inl rfl)
  exact absurd hagree.1 (by decide +kernel)

end ClusterKit.ContainerSizing
