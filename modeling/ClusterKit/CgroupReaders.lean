import ClusterKit.Cgroup

/-! The CPU limit that each cgroup hierarchy sets, how the two readers read it, and when they
agree on which hierarchy to ask. -/

namespace ClusterKit

/-! ## The limit that a hierarchy sets -/

/-- What the processes are granted, and `none` where nothing bounds it. -/
def grantedCpus (quota period : Option Int) : Option ℚ :=
  match quota, period with
  | some quota, some period => if quota = -1 ∨ period = 0 then none else some (quota / period)
  | _, _ => none

/-- As many workers as are worth starting. -/
def wholeCpus (cpus : ℚ) : ℚ := max 1 (⌊cpus⌋ : ℚ)

/-- The first of these files that can be read. -/
def firstReadable (files : Files) (paths : List Text) : Option Text :=
  paths.findSome? fun path => (files path).map trim

def ownEntries (files : Files) : List ProcCgroupEntry :=
  parseProcSelfCgroup (((files "/proc/self/cgroup".toList).map trim).getD [])

/-- The limit in `cpu.max`. -/
def unifiedLimit (files : Files) : Option ℚ := do
  let raw ← firstReadable files (cpuMaxPaths (ownEntries files))
  let fields := raw.splitOn ' '
  grantedCpus (fields.head?.bind parseInt) (fields.tail.head?.bind parseInt)

/-- The limit in `cpu.cfs_quota_us` and `cpu.cfs_period_us`. -/
def legacyLimit (files : Files) : Option ℚ := do
  let quota ← firstReadable files (cfsQuotaPaths (ownEntries files))
  let period ← firstReadable files (cfsPeriodPaths (ownEntries files))
  grantedCpus (parseInt quota) (parseInt period)

/-- The unified hierarchy is mounted at the root. -/
def isUnified (files : Files) : Bool := (files "/sys/fs/cgroup/cgroup.controllers".toList).isSome

/-! ## Each reader reads it -/

theorem parseCpuLimit_exact (quotaRaw : Text) (periodRaw : Option Text) :
    parseCpuLimit quotaRaw periodRaw false =
      grantedCpus (parseInt quotaRaw) (periodRaw.bind parseInt) := by
  simp only [parseCpuLimit]
  split
  · rename_i hmax
    rw [hmax]
    rfl
  · cases hq : parseInt quotaRaw with
    | none => rfl
    | some quota =>
      cases hp : periodRaw.bind parseInt with
      | none => simp [grantedCpus]
      | some period =>
        by_cases hunlimited : quota = -1 <;> by_cases hzero : period = 0 <;>
          simp [grantedCpus, hunlimited, hzero]

theorem parseCpuLimit_whole (quotaRaw : Text) (periodRaw : Option Text) :
    parseCpuLimit quotaRaw periodRaw true =
      (parseCpuLimit quotaRaw periodRaw false).map wholeCpus := by
  simp only [parseCpuLimit]
  split
  · rfl
  · split
    · rfl
    · split
      · split
        · rfl
        · rfl
      · rfl

theorem tryReadFirst_eq (files : Files) (paths : List Text) :
    tryReadFirst files paths = firstReadable files paths := by
  induction paths with
  | nil => rfl
  | cons path paths ih =>
    rw [tryReadFirst, firstReadable, List.findSome?_cons, tryRead]
    cases (files path).map trim with
    | some _ => rfl
    | none => exact ih

theorem tryReadFirstSync_eq (files : Files) (paths : List Text) :
    tryReadFirstSync files paths = firstReadable files paths := by
  induction paths with
  | nil => rfl
  | cons path paths ih =>
    rw [tryReadFirstSync, firstReadable, List.findSome?_cons]
    cases files path with
    | some _ => rfl
    | none => exact ih

theorem readProcSelfCgroupSync_eq (files : Files) :
    readProcSelfCgroupSync files = ownEntries files := by
  rw [readProcSelfCgroupSync, ownEntries]
  cases files "/proc/self/cgroup".toList <;> rfl

theorem readProcSelfCgroupAsync_eq (files : Files) :
    readProcSelfCgroupAsync files = ownEntries files := by
  rw [readProcSelfCgroupAsync, ownEntries, tryRead]
  cases (files "/proc/self/cgroup".toList).map trim with
  | none => rfl
  | some raw => cases raw <;> rfl

theorem readV2Cpu_eq (files : Files) : readV2Cpu files = unifiedLimit files := by
  rw [readV2Cpu, unifiedLimit, readProcSelfCgroupAsync_eq, tryReadFirst_eq]
  rcases firstReadable files (cpuMaxPaths (ownEntries files)) with _ | _ | ⟨c, raw⟩
  · rfl
  · rfl
  · simp only [Option.bind_eq_bind, Option.bind_some]
    cases (c :: raw).splitOn ' ' with
    | nil => rfl
    | cons quotaStr rest => exact parseCpuLimit_exact quotaStr rest.head?

theorem readV1Cpu_eq (files : Files) : readV1Cpu files = legacyLimit files := by
  simp only [readV1Cpu, legacyLimit, readProcSelfCgroupAsync_eq, tryReadFirst_eq]
  rcases firstReadable files (cfsQuotaPaths (ownEntries files)) with _ | _ | ⟨c, quotaRaw⟩
  · rfl
  · cases firstReadable files (cfsPeriodPaths (ownEntries files)) <;> rfl
  · rcases firstReadable files (cfsPeriodPaths (ownEntries files)) with _ | _ | ⟨d, periodRaw⟩
    · rfl
    · simp only [Option.bind_eq_bind, Option.bind_some]
      cases parseInt (c :: quotaRaw) <;> rfl
    · exact parseCpuLimit_exact (c :: quotaRaw) (some (d :: periodRaw))

theorem readCgroupV2Sync_eq (files : Files) :
    readCgroupV2Sync files = (unifiedLimit files).map wholeCpus := by
  rw [← readV2Cpu_eq, readCgroupV2Sync, readV2Cpu, readProcSelfCgroupSync_eq,
    readProcSelfCgroupAsync_eq, tryReadFirstSync_eq, tryReadFirst_eq]
  rcases firstReadable files (cpuMaxPaths (ownEntries files)) with _ | _ | ⟨c, raw⟩
  · rfl
  · rfl
  · dsimp only
    cases (c :: raw).splitOn ' ' with
    | nil => rfl
    | cons quotaStr rest => exact parseCpuLimit_whole quotaStr rest.head?

theorem readCgroupV1Sync_eq (files : Files) :
    readCgroupV1Sync files = (legacyLimit files).map wholeCpus := by
  simp only [← readV1Cpu_eq, readCgroupV1Sync, readV1Cpu, readProcSelfCgroupSync_eq,
    readProcSelfCgroupAsync_eq, tryReadFirstSync_eq, tryReadFirst_eq]
  rcases firstReadable files (cfsQuotaPaths (ownEntries files)) with _ | _ | ⟨c, quotaRaw⟩
  · rfl
  · rfl
  · rcases firstReadable files (cfsPeriodPaths (ownEntries files)) with _ | _ | ⟨d, periodRaw⟩
    · rfl
    · rfl
    · exact parseCpuLimit_whole (c :: quotaRaw) (some (d :: periodRaw))

/-! ## Which limit they choose -/

/-- The core asks the unified hierarchy, and the legacy one where that sets no limit. -/
theorem getCgroupCpuLimit_eq (files : Files) :
    getCgroupCpuLimit ⟨true, files⟩ =
      ((unifiedLimit files).map wholeCpus).or ((legacyLimit files).map wholeCpus) := by
  rw [getCgroupCpuLimit, readCgroupV2Sync_eq, readCgroupV1Sync_eq]
  cases unifiedLimit files <;> rfl

/-- The plugin asks the one that is mounted. -/
theorem readCgroupLimits_cpuLimit (files : Files) :
    (readCgroupLimits ⟨true, files⟩).cpuLimit =
      if isUnified files then unifiedLimit files else legacyLimit files := by
  have hmounted : (tryRead files "/sys/fs/cgroup/cgroup.controllers".toList).isSome =
      isUnified files := Option.isSome_map
  simp only [readCgroupLimits, hmounted, Bool.not_true, Bool.false_eq_true, if_false]
  cases isUnified files with
  | true => exact readV2Cpu_eq files
  | false => exact readV1Cpu_eq files

/-- A count agrees with a limit: both are absent, or it is the whole part of the limit. -/
theorem agree_iff {count cpuLimit : Option ℚ} :
    ((count = none ↔ cpuLimit = none) ∧
        ∀ limit, cpuLimit = some limit → count = some (max 1 (⌊limit⌋ : ℚ))) ↔
      count = cpuLimit.map wholeCpus := by
  cases cpuLimit with
  | none => simp
  | some limit =>
    constructor
    · rintro ⟨_, hcount⟩
      exact hcount limit rfl
    · rintro rfl
      exact ⟨by simp, by rintro _ ⟨⟩; rfl⟩

/-- The two readers agree exactly when a mounted unified hierarchy sets a limit or the legacy
one sets none, and one that is not mounted sets none or the legacy one grants as many whole
CPUs. -/
theorem cgroup_readers_agree_iff (files : Files) :
    ((getCgroupCpuLimit ⟨true, files⟩ = none ↔
          (readCgroupLimits ⟨true, files⟩).cpuLimit = none) ∧
        ∀ cpuLimit, (readCgroupLimits ⟨true, files⟩).cpuLimit = some cpuLimit →
          getCgroupCpuLimit ⟨true, files⟩ = some (max 1 (⌊cpuLimit⌋ : ℚ))) ↔
      (isUnified files = true → unifiedLimit files ≠ none ∨ legacyLimit files = none) ∧
        (isUnified files = false → unifiedLimit files = none ∨
          (legacyLimit files).map wholeCpus = (unifiedLimit files).map wholeCpus) := by
  rw [agree_iff, getCgroupCpuLimit_eq, readCgroupLimits_cpuLimit]
  cases isUnified files with
  | true =>
    cases unifiedLimit files with
    | none => cases legacyLimit files <;> simp
    | some _ => simp
  | false =>
    cases unifiedLimit files with
    | none => simp
    | some cpus => simp [eq_comm]

/-- Only `cpu.max` can be read, which grants two CPUs. -/
def cpuMaxAlone : Files := fun path =>
  if path = "/sys/fs/cgroup/cpu.max".toList then some "200000 100000\n".toList else none

/-- The core reads the limit that the plugin does not. -/
theorem cgroup_readers_differ :
    ¬∀ files : Files, (getCgroupCpuLimit ⟨true, files⟩ = none ↔
        (readCgroupLimits ⟨true, files⟩).cpuLimit = none) ∧
      ∀ cpuLimit, (readCgroupLimits ⟨true, files⟩).cpuLimit = some cpuLimit →
        getCgroupCpuLimit ⟨true, files⟩ = some (max 1 (⌊cpuLimit⌋ : ℚ)) := by
  intro h
  have hcore := (h cpuMaxAlone).1.mpr (by decide)
  exact absurd hcore (by decide)

end ClusterKit
