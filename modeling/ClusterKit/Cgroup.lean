import ClusterKit.Text
import Mathlib.Data.Rat.Floor

/-! The readers of cgroup limits: `getCgroupCpuLimit`, which the core calls, and
`readCgroupLimits`, which the sizing plugin calls. A machine is what both can read of it; the
asynchronous reads see the same files. -/

namespace ClusterKit

/-- A path and the content of its file; reading any other path throws. -/
abbrev Files := Text → Option Text

structure Machine where
  /-- `process.platform === "linux"` -/
  linux : Bool
  files : Files

/-! ## Paths -/

structure ProcCgroupEntry where
  controllers : List Text
  path : Text

/-- One line of `/proc/self/cgroup`. -/
def parseProcCgroupLine (line : Text) : ProcCgroupEntry :=
  let (controllers, pathParts) : Text × List Text :=
    match line.splitOn ':' with
    | _ :: controllers :: pathParts => (controllers, pathParts)
    | _ => ([], [])
  let path := [':'].intercalate pathParts
  { controllers := if controllers = [] then [] else controllers.splitOn ','
    path := if path = [] then ['/'] else path }

def parseProcSelfCgroup (raw : Text) : List ProcCgroupEntry :=
  (((raw.splitOn '\n').map trim).filter (· ≠ [])).map parseProcCgroupLine

def normalizeCgroupPath (cgroupPath : Text) : Text := cgroupPath.dropWhile (· == '/')

/-- The segments of an absolute path without `.`, with `..` resolved. -/
def pathSegments (path : Text) : List Text :=
  (path.splitOn '/').foldl
    (fun segments segment =>
      if segment = [] ∨ segment = ['.'] then segments
      else if segment = ['.', '.'] then segments.dropLast
      else segments ++ [segment])
    []

/-- `path.resolve(path)` of an absolute path. -/
def resolve (path : Text) : Text := '/' :: ['/'].intercalate (pathSegments path)

/-- `path.join(...parts)` where the first part is absolute and the last is a file name. -/
def join (parts : List Text) : Text := resolve (['/'].intercalate parts)

def buildCandidatePath (root : Text) (cgroupPath : Option Text) (fileName : Text) :
    Option Text :=
  let normalized := (cgroupPath.map normalizeCgroupPath).getD []
  let joined := if normalized = [] then join [root, fileName] else join [root, normalized, fileName]
  let resolvedRoot := resolve root
  let resolvedJoined := resolve joined
  if resolvedJoined ≠ resolvedRoot ∧ ¬(resolvedRoot ++ ['/']).isPrefixOf resolvedJoined then none
  else some resolvedJoined

def buildCandidatePaths (root : Text) (cgroupPath : Option Text) (fileName fallbackPath : Text) :
    List Text :=
  (buildCandidatePath root cgroupPath fileName).toList ++ [fallbackPath]

def getV2ProcessPath (entries : List ProcCgroupEntry) : Option Text :=
  (entries.find? fun entry => entry.controllers.length == 0).map (·.path)

def getV1ControllerPath (entries : List ProcCgroupEntry) (controller : Text) : Option Text :=
  (entries.find? fun entry => entry.controllers.contains controller).map (·.path)

def cpuMaxPaths (entries : List ProcCgroupEntry) : List Text :=
  buildCandidatePaths "/sys/fs/cgroup".toList (getV2ProcessPath entries) "cpu.max".toList
    "/sys/fs/cgroup/cpu.max".toList

def memoryMaxPaths (entries : List ProcCgroupEntry) : List Text :=
  buildCandidatePaths "/sys/fs/cgroup".toList (getV2ProcessPath entries) "memory.max".toList
    "/sys/fs/cgroup/memory.max".toList

def cfsQuotaPaths (entries : List ProcCgroupEntry) : List Text :=
  buildCandidatePaths "/sys/fs/cgroup/cpu".toList (getV1ControllerPath entries "cpu".toList)
    "cpu.cfs_quota_us".toList "/sys/fs/cgroup/cpu/cpu.cfs_quota_us".toList

def cfsPeriodPaths (entries : List ProcCgroupEntry) : List Text :=
  buildCandidatePaths "/sys/fs/cgroup/cpu".toList (getV1ControllerPath entries "cpu".toList)
    "cpu.cfs_period_us".toList "/sys/fs/cgroup/cpu/cpu.cfs_period_us".toList

def limitInBytesPaths (entries : List ProcCgroupEntry) : List Text :=
  buildCandidatePaths "/sys/fs/cgroup/memory".toList
    (getV1ControllerPath entries "memory".toList) "memory.limit_in_bytes".toList
    "/sys/fs/cgroup/memory/memory.limit_in_bytes".toList

/-! ## Limits -/

/-- An absent `periodRaw` is `undefined`. -/
def parseCpuLimit (quotaRaw : Text) (periodRaw : Option Text) (floorToAtLeastOne : Bool) :
    Option ℚ :=
  if quotaRaw = "max".toList then none
  else
    let quota := parseInt quotaRaw
    if quota = some (-1) then none
    else
      match quota, periodRaw.bind parseInt with
      | some quota, some period =>
        if period = 0 then none
        else
          let cpuLimit := (quota : ℚ) / period
          some (if floorToAtLeastOne then max 1 ⌊cpuLimit⌋ else cpuLimit)
      | _, _ => none

def parseCgroupV2Memory (raw : Text) : Option Int :=
  if raw = "max".toList then none else parseInt raw

def V1_MEMORY_UNLIMITED : Int := 9223372036854771712

def V1_UNLIMITED_THRESHOLD : Int := V1_MEMORY_UNLIMITED - 4096

def parseCgroupV1Memory (raw : Text) : Option Int :=
  match parseBigInt raw with
  | some bytes => if bytes ≥ V1_UNLIMITED_THRESHOLD then none else some bytes
  | none => none

/-! ## The synchronous reader -/

def tryReadFirstSync (files : Files) : List Text → Option Text
  | [] => none
  | candidatePath :: rest =>
    match files candidatePath with
    | some content => some (trim content)
    | none => tryReadFirstSync files rest

def readProcSelfCgroupSync (files : Files) : List ProcCgroupEntry :=
  match files "/proc/self/cgroup".toList with
  | some content => parseProcSelfCgroup (trim content)
  | none => []

def readCgroupV2Sync (files : Files) : Option ℚ :=
  match tryReadFirstSync files (cpuMaxPaths (readProcSelfCgroupSync files)) with
  | none | some [] => none
  | some raw =>
    match raw.splitOn ' ' with
    | quotaStr :: rest => parseCpuLimit quotaStr rest.head? true
    | [] => none

def readCgroupV1Sync (files : Files) : Option ℚ :=
  let entries := readProcSelfCgroupSync files
  match tryReadFirstSync files (cfsQuotaPaths entries) with
  | none | some [] => none
  | some quotaRaw =>
    match tryReadFirstSync files (cfsPeriodPaths entries) with
    | none | some [] => none
    | some periodRaw => parseCpuLimit quotaRaw (some periodRaw) true

def getCgroupCpuLimit (machine : Machine) : Option ℚ :=
  if !machine.linux then none
  else
    match readCgroupV2Sync machine.files with
    | some v2 => some v2
    | none => readCgroupV1Sync machine.files

/-! ## The asynchronous reader -/

structure CgroupLimits where
  cpuLimit : Option ℚ
  memoryLimitBytes : Option ℚ

def tryRead (files : Files) (path : Text) : Option Text := (files path).map trim

def tryReadFirst (files : Files) : List Text → Option Text
  | [] => none
  | candidatePath :: rest =>
    match tryRead files candidatePath with
    | some raw => some raw
    | none => tryReadFirst files rest

def readProcSelfCgroupAsync (files : Files) : List ProcCgroupEntry :=
  match tryRead files "/proc/self/cgroup".toList with
  | none | some [] => []
  | some raw => parseProcSelfCgroup raw

def readV2Cpu (files : Files) : Option ℚ :=
  match tryReadFirst files (cpuMaxPaths (readProcSelfCgroupAsync files)) with
  | none | some [] => none
  | some raw =>
    match raw.splitOn ' ' with
    | quotaStr :: rest => parseCpuLimit quotaStr rest.head? false
    | [] => none

def readV2Memory (files : Files) : Option Int :=
  match tryReadFirst files (memoryMaxPaths (readProcSelfCgroupAsync files)) with
  | none | some [] => none
  | some raw => parseCgroupV2Memory raw

def readV1Cpu (files : Files) : Option ℚ :=
  let entries := readProcSelfCgroupAsync files
  match tryReadFirst files (cfsQuotaPaths entries) with
  | none | some [] => none
  | some quotaRaw =>
    match tryReadFirst files (cfsPeriodPaths entries) with
    | none | some [] => none
    | some periodRaw => parseCpuLimit quotaRaw (some periodRaw) false

def readV1Memory (files : Files) : Option Int :=
  match tryReadFirst files (limitInBytesPaths (readProcSelfCgroupAsync files)) with
  | none | some [] => none
  | some raw => parseCgroupV1Memory raw

def readCgroupLimits (machine : Machine) : CgroupLimits :=
  if !machine.linux then { cpuLimit := none, memoryLimitBytes := none }
  else
    let isV2 := (tryRead machine.files "/sys/fs/cgroup/cgroup.controllers".toList).isSome
    if isV2 then
      { cpuLimit := readV2Cpu machine.files
        memoryLimitBytes := (readV2Memory machine.files).map Int.cast }
    else
      { cpuLimit := readV1Cpu machine.files
        memoryLimitBytes := (readV1Memory machine.files).map Int.cast }

end ClusterKit
