import ClusterKit.Text

/-! `validateExecArgv`: the patterns a worker's Node arguments must not match, and the
option names the documentation says are blocked, as Node reads them. -/

namespace ClusterKit

/-! ## The patterns -/

/-- `^lit` followed by what `next` accepts. -/
def pattern (lit : String) (next : Text → Bool) (arg : Text) : Bool :=
  lit.toList.isPrefixOf arg && next (arg.drop lit.toList.length)

/-- `(?:[=\\s]|$)` -/
def endsName : Text → Bool
  | [] => true
  | c :: _ => c == '=' || isTrimmed c

/-- `(?:$|\\s)` -/
def endsShort : Text → Bool
  | [] => true
  | c :: _ => isTrimmed c

/-- `(?:-brk|-port|[=\\s]|$)` -/
def endsInspect (rest : Text) : Bool :=
  "-brk".toList.isPrefixOf rest || "-port".toList.isPrefixOf rest || endsName rest

/-- A prefix match. -/
def anyEnd (_ : Text) : Bool := true

def DANGEROUS_ARG_PATTERNS : List (Text → Bool) :=
  [pattern "--require" endsName,
    pattern "--eval" endsName,
    pattern "--print" endsName,
    pattern "--inspect" endsInspect,
    pattern "--import" endsName,
    pattern "--experimental-loader" endsName,
    pattern "--loader" endsName,
    pattern "--tls-keylog" anyEnd,
    pattern "--cpu-prof" anyEnd,
    pattern "--heap-prof" anyEnd,
    pattern "--report-" anyEnd,
    pattern "--diagnostic-dir" anyEnd,
    pattern "--redirect-warnings" anyEnd,
    pattern "-r" endsShort,
    pattern "-e" endsShort,
    pattern "-p" endsShort]

/-- Some pattern matches the trimmed argument. -/
def isDangerousArg (arg : Text) : Bool := DANGEROUS_ARG_PATTERNS.any fun p => p arg

/-- `validateExecArgv(execArgv)` -/
def validateExecArgv (execArgv : Option (List String)) : Checked :=
  ifGiven execArgv fun args =>
    if args.any fun arg => (trim arg.toList).isEmpty then
      refuse "workers.execArgv" (.message "must contain only non-empty strings")
    else
      match args.find? fun arg => isDangerousArg (trim arg.toList) with
      | some dangerousArg =>
        refuse "workers.execArgv" (.message
          ("contains a potentially dangerous flag '" ++ dangerousArg ++
            "' (--require, --eval, --inspect, etc. are blocked)"))
      | none => .ok ()

/-- `validateConfig` of a configuration with this `workers.execArgv`, which is checked last
of the worker options. -/
def validateConfigWith (execArgv : Option (List String)) (config : OrchestratorConfig) :
    Except WorkerManagerValidationError ResolvedConfig := do
  validateWorkersOptions config.workers
  validateExecArgv execArgv
  validateConfig config

/-! ## Option names as Node reads them -/

/-- `_` stands for `-` inside the name of an option. -/
def dashed (c : Char) : Char := if c = '_' then '-' else c

/-- The part before a value given with `=`, which only `--` options may have. -/
def optionPart (arg : Text) : Text :=
  if "--".toList.isPrefixOf arg then arg.takeWhile (· != '=') else arg

/-- The name of the option that an argument sets. -/
def optionName (arg : Text) : Text :=
  if "--".toList.isPrefixOf arg then
    (optionPart arg).take 2 ++ ((optionPart arg).drop 2).map dashed
  else arg

/-- The flags that the documentation lists. -/
def BLOCKED_FLAGS : List String :=
  ["--require", "-r", "--eval", "-e", "--print", "-p", "--inspect", "--inspect-brk",
    "--inspect-port", "--import", "--loader", "--experimental-loader", "--tls-keylog",
    "--diagnostic-dir", "--redirect-warnings"]

/-- The families it lists with a `*`. -/
def BLOCKED_FAMILIES : List String := ["--cpu-prof", "--heap-prof", "--report-"]

/-- The argument, once trimmed, names a flag that the documentation blocks. -/
def namesBlockedFlag (arg : String) : Bool :=
  let name := optionName (trim arg.toList)
  BLOCKED_FLAGS.any (fun flag => flag.toList == name) ||
    BLOCKED_FAMILIES.any fun family => family.toList.isPrefixOf name

/-- The first separator inside a name. -/
def separator (name : Text) : Option Char := name.find? fun c => c == '-' || c == '_'

/-- It is there, spelled `_`. -/
def underscored (arg : String) : Bool :=
  separator ((optionPart (trim arg.toList)).drop 2) == some '_'

/-! ## Spellings of a name -/

theorem dashed_eq_of_ne {c d : Char} (h : dashed c = d) (hd : d ≠ '-') : c = d := by
  rw [dashed] at h
  split at h
  · exact absurd h.symm hd
  · exact h

theorem dashed_eq_dash {c : Char} (h : dashed c = '-') : c = '-' ∨ c = '_' := by
  rw [dashed] at h
  split at h
  · exact Or.inr ‹_›
  · exact Or.inl h

/-- A name without a separator has one spelling. -/
theorem spelled_plain {b u : Text} (h : b.map dashed = u) (hu : '-' ∉ u) :
    b = u ∧ separator b = none := by
  subst h
  induction b with
  | nil => exact ⟨rfl, rfl⟩
  | cons c b ih =>
    rw [List.map_cons, List.mem_cons, not_or] at hu
    obtain ⟨hb, hf⟩ := ih hu.2
    have hc : dashed c = c := (dashed_eq_of_ne rfl (Ne.symm hu.1)).symm
    have hdash : c ≠ '-' := fun h => hu.1 (h ▸ hc.symm ▸ rfl)
    have hunder : c ≠ '_' := fun h => hu.1 (by rw [h]; rfl)
    refine ⟨by rw [List.map_cons, hc, ← hb], ?_⟩
    rw [separator, List.find?_cons_of_neg (by simp [hdash, hunder])]
    exact hf

/-- The first separator of a name may be spelled in two ways. -/
theorem spelled_joined {b u v : Text} (h : b.map dashed = u ++ '-' :: v) (hu : '-' ∉ u) :
    ∃ c w, b = u ++ c :: w ∧ (c = '-' ∨ c = '_') ∧ w.map dashed = v ∧ separator b = some c := by
  obtain ⟨b₁, b₂, rfl, h₁, h₂⟩ := List.map_eq_append_iff.mp h
  obtain ⟨c, w, rfl, hc, hw⟩ := List.map_eq_cons_iff.mp h₂
  obtain ⟨rfl, hf⟩ := spelled_plain h₁ hu
  refine ⟨c, w, rfl, dashed_eq_dash hc, hw, ?_⟩
  rw [separator, List.find?_append, ← separator, hf, Option.none_or, List.find?_cons_of_pos]
  rcases dashed_eq_dash hc with rfl | rfl <;> rfl

/-- So does the start of a name, up to its next separator. -/
theorem spelled_start {w p q : Text} (h : w.map dashed = p ++ q) (hp : '-' ∉ p) :
    ∃ w', w = p ++ w' := by
  obtain ⟨w₁, w₂, rfl, h₁, _⟩ := List.map_eq_append_iff.mp h
  exact ⟨w₂, by rw [(spelled_plain h₁ hp).1]⟩

/-! ## Which spellings the patterns match -/

/-- What follows the name of an option in its argument. -/
def ValuePart (rest : Text) : Prop := rest = [] ∨ ∃ v, rest = '=' :: v

theorem optionPart_long (s : Text) :
    ∃ b rest, s = b ++ rest ∧ ValuePart rest ∧ optionPart ('-' :: '-' :: s) = '-' :: '-' :: b := by
  refine ⟨s.takeWhile (· != '='), s.dropWhile (· != '='), List.takeWhile_append_dropWhile.symm,
    ?_, rfl⟩
  cases hd : s.dropWhile (· != '=') with
  | nil => exact Or.inl rfl
  | cons c v =>
    have hc := List.head_dropWhile_not (p := (· != '=')) (l := s)
      (by rw [hd]; exact List.cons_ne_nil _ _)
    simp only [hd, List.head_cons, bne_eq_false_iff_eq] at hc
    exact Or.inr ⟨v, by rw [hc]⟩

/-- A listed name without a separator is matched in its one spelling. -/
theorem dangerous_plain {b rest u : Text}
    (hu : u ∈ ["require", "eval", "print", "inspect", "import", "loader"].map String.toList)
    (h : b.map dashed = u) (hrest : ValuePart rest) :
    isDangerousArg ('-' :: '-' :: (b ++ rest)) = !(separator b == some '_') := by
  have hdash : ∀ u ∈ ["require", "eval", "print", "inspect", "import", "loader"].map
      String.toList, '-' ∉ u := by decide
  obtain ⟨rfl, hf⟩ := spelled_plain h (hdash u hu)
  rw [hf]
  simp only [List.map_cons, List.map_nil, List.mem_cons, List.not_mem_nil, or_false] at hu
  rcases hrest with rfl | ⟨v, rfl⟩ <;> rcases hu with rfl | rfl | rfl | rfl | rfl | rfl <;> rfl

/-- The listed names with a separator, split at their first one. -/
def JOINED_NAMES : List (String × String) :=
  [("inspect", "brk"), ("inspect", "port"), ("tls", "keylog"), ("diagnostic", "dir"),
    ("redirect", "warnings"), ("cpu", "prof"), ("heap", "prof"), ("report", "")]

theorem joined_no_dash :
    ∀ p ∈ JOINED_NAMES, '-' ∉ p.1.toList ∧ '-' ∉ p.2.toList := by decide

/-- A listed name with a separator is matched where its first one is spelled `-`. -/
theorem dangerous_joined {b rest q : Text} {p : String × String} (hp : p ∈ JOINED_NAMES)
    (h : b.map dashed = p.1.toList ++ '-' :: (p.2.toList ++ q)) :
    isDangerousArg ('-' :: '-' :: (b ++ rest)) = !(separator b == some '_') := by
  obtain ⟨hu, hv⟩ := joined_no_dash p hp
  obtain ⟨c, w, rfl, hc, hw, hf⟩ := spelled_joined h hu
  obtain ⟨w, rfl⟩ := spelled_start hw hv
  rw [hf]
  simp only [JOINED_NAMES, List.mem_cons, List.not_mem_nil, or_false] at hp
  rcases hc with rfl | rfl <;>
    rcases hp with rfl | rfl | rfl | rfl | rfl | rfl | rfl | rfl <;> rfl

/-- `--experimental-loader` is the one such name that must also end. -/
theorem dangerous_loader {b rest : Text}
    (h : b.map dashed = "experimental-loader".toList) (hrest : ValuePart rest) :
    isDangerousArg ('-' :: '-' :: (b ++ rest)) = !(separator b == some '_') := by
  obtain ⟨c, w, rfl, hc, hw, hf⟩ :=
    spelled_joined (u := "experimental".toList) (v := "loader".toList) h (by decide)
  obtain ⟨rfl, _⟩ := spelled_plain hw (by decide)
  rw [hf]
  rcases hc with rfl | rfl <;> rcases hrest with rfl | ⟨v, rfl⟩ <;> rfl

/-- The `--` flags of the documentation have the names above. -/
theorem long_flags : ∀ flag ∈ BLOCKED_FLAGS, "--".toList.isPrefixOf flag.toList = true →
    flag.toList.drop 2 ∈
        ["require", "eval", "print", "inspect", "import", "loader"].map String.toList ∨
      flag.toList.drop 2 = "experimental-loader".toList ∨
      ∃ p ∈ JOINED_NAMES, flag.toList.drop 2 = p.1.toList ++ '-' :: (p.2.toList ++ []) := by
  decide

theorem families : ∀ family ∈ BLOCKED_FAMILIES, ∃ p ∈ JOINED_NAMES,
    family.toList = '-' :: '-' :: (p.1.toList ++ '-' :: p.2.toList) := by
  decide

/-- The other flags are matched as they are, and have no separator to spell. -/
theorem short_flags : ∀ flag ∈ BLOCKED_FLAGS, "--".toList.isPrefixOf flag.toList = false →
    isDangerousArg flag.toList = !(separator (flag.toList.drop 2) == some '_') := by
  decide

/-- An argument names a flag of the list or of a family. -/
theorem namesBlockedFlag_cases {arg : String} (h : namesBlockedFlag arg = true) :
    (∃ flag ∈ BLOCKED_FLAGS, flag.toList = optionName (trim arg.toList)) ∨
      ∃ p ∈ JOINED_NAMES, ∃ q, optionName (trim arg.toList) =
        '-' :: '-' :: (p.1.toList ++ '-' :: (p.2.toList ++ q)) := by
  rw [namesBlockedFlag, Bool.or_eq_true, List.any_eq_true, List.any_eq_true] at h
  rcases h with ⟨flag, hmem, hflag⟩ | ⟨family, hmem, hfamily⟩
  · exact Or.inl ⟨flag, hmem, eq_of_beq hflag⟩
  · obtain ⟨p, hp, hu⟩ := families family hmem
    obtain ⟨q, hq⟩ := List.isPrefixOf_iff_prefix.mp hfamily
    refine Or.inr ⟨p, hp, q, ?_⟩
    rw [← hq, hu, List.cons_append, List.cons_append, List.append_assoc, List.cons_append]

/-- Of the arguments that name a blocked flag, the patterns miss those and only those that
spell the first separator of the name `_`. -/
theorem dangerous_of_names_blocked {arg : String} (h : namesBlockedFlag arg = true) :
    isDangerousArg (trim arg.toList) = !underscored arg := by
  have hcases := namesBlockedFlag_cases h
  rw [underscored]
  generalize trim arg.toList = t at hcases ⊢
  by_cases hlong : "--".toList.isPrefixOf t = true
  · obtain ⟨s, rfl⟩ := List.isPrefixOf_iff_prefix.mp hlong
    obtain ⟨b, rest, rfl, hrest, hpart⟩ := optionPart_long s
    have hname : optionName ('-' :: '-' :: (b ++ rest)) = '-' :: '-' :: b.map dashed := by
      rw [optionName, hpart]
      rfl
    change isDangerousArg ('-' :: '-' :: (b ++ rest)) =
      !(separator ((optionPart ('-' :: '-' :: (b ++ rest))).drop 2) == some '_')
    rw [hpart]
    rcases hcases with ⟨flag, hmem, hflag⟩ | ⟨p, hp, q, hq⟩
    · have hflag := hflag.trans hname
      have hdrop : b.map dashed = flag.toList.drop 2 := by rw [hflag]; rfl
      rcases long_flags flag hmem (by rw [hflag]; rfl) with hu | hu | ⟨p, hp, hu⟩
      · exact dangerous_plain hu hdrop hrest
      · exact dangerous_loader (hdrop.trans hu) hrest
      · exact dangerous_joined hp (hdrop.trans hu)
    · have hq := hname.symm.trans hq
      injection hq with _ hq
      injection hq with _ hq
      exact dangerous_joined hp hq
  · rw [Bool.not_eq_true] at hlong
    have hname : optionName t = t := by
      simp only [optionName, hlong, Bool.false_eq_true, if_false]
    have hpart : optionPart t = t := by
      simp only [optionPart, hlong, Bool.false_eq_true, if_false]
    rw [hname] at hcases
    rw [hpart]
    rcases hcases with ⟨flag, hmem, rfl⟩ | ⟨p, hp, q, rfl⟩
    · exact short_flags flag hmem hlong
    · cases hlong

/-! ## Which arrays are accepted -/

/-- An element may pass: it is neither blank nor matched. -/
def mayPass (arg : String) : Prop :=
  trim arg.toList ≠ [] ∧ isDangerousArg (trim arg.toList) = false

/-- The array is accepted when every element may pass. -/
theorem validateExecArgv_ok_iff {execArgv : List String} :
    validateExecArgv (some execArgv) = .ok () ↔ ∀ arg ∈ execArgv, mayPass arg := by
  simp only [validateExecArgv, ifGiven]
  split
  · rename_i hblank
    obtain ⟨arg, hmem, harg⟩ := List.any_eq_true.mp hblank
    exact ⟨nofun, fun h => absurd (List.isEmpty_iff.mp harg) (h arg hmem).1⟩
  · rename_i hblank
    cases hfind : execArgv.find? fun arg => isDangerousArg (trim arg.toList) with
    | some arg =>
      refine ⟨nofun, fun h => ?_⟩
      have hsafe := (h arg (List.mem_of_find?_eq_some hfind)).2
      exact absurd (List.find?_some hfind) (by rw [hsafe]; decide)
    | none =>
      refine iff_of_true rfl fun arg hmem => ⟨fun hempty => hblank ?_, ?_⟩
      · exact List.any_eq_true.mpr ⟨arg, hmem, by rw [hempty]; rfl⟩
      · exact Bool.eq_false_iff.mpr (List.find?_eq_none.mp hfind arg hmem)

/-- The arguments are refused in every configuration, or pass with the defaults. -/
theorem refused_iff {execArgv : List String} :
    (∀ config, ∃ err, validateConfigWith (some execArgv) config = .error err) ↔
      ∃ arg ∈ execArgv, ¬mayPass arg := by
  rw [← not_iff_not]
  push Not
  rw [← validateExecArgv_ok_iff]
  constructor
  · rintro ⟨config, hpass⟩
    rw [validateConfigWith] at hpass
    cases hworkers : validateWorkersOptions config.workers with
    | error err =>
      rw [hworkers] at hpass
      exact absurd rfl (hpass err)
    | ok _ =>
      rw [hworkers] at hpass
      cases hargs : validateExecArgv (some execArgv) with
      | error err =>
        rw [hargs] at hpass
        exact absurd rfl (hpass err)
      | ok _ => rfl
  · intro hargs
    refine ⟨{}, fun err herr => ?_⟩
    rw [validateConfigWith, hargs] at herr
    cases herr

/-- A blocked flag passes by the spelling of its first separator. -/
theorem mayPass_iff_of_names_blocked {arg : String} (h : namesBlockedFlag arg = true) :
    mayPass arg ↔ underscored arg = true := by
  have hdanger := dangerous_of_names_blocked h
  constructor
  · rintro ⟨_, hsafe⟩
    rwa [hdanger, Bool.not_eq_false'] at hsafe
  · intro hunder
    refine ⟨fun hempty => ?_, by rw [hdanger, hunder]; rfl⟩
    rw [namesBlockedFlag, hempty] at h
    cases h

/-- The documented block list holds for an array exactly when no element names a blocked
flag, or one that does spells the first separator of its name `-`, or has none, or the array
is refused for an element that names no blocked flag. -/
theorem blocklist_closed_iff (execArgv : List String) :
    ((∃ arg ∈ execArgv, namesBlockedFlag arg = true) →
        ∀ config, ∃ err, validateConfigWith (some execArgv) config = .error err) ↔
      (∀ arg ∈ execArgv, namesBlockedFlag arg = false) ∨
        (∃ arg ∈ execArgv, namesBlockedFlag arg = true ∧ underscored arg = false) ∨
        ∃ arg ∈ execArgv, namesBlockedFlag arg = false ∧ ¬mayPass arg := by
  rw [refused_iff]
  constructor
  · intro hclosed
    by_cases hblocked : ∃ arg ∈ execArgv, namesBlockedFlag arg = true
    · obtain ⟨arg, hmem, hpass⟩ := hclosed hblocked
      cases hname : namesBlockedFlag arg with
      | true =>
        rw [mayPass_iff_of_names_blocked hname, Bool.not_eq_true] at hpass
        exact Or.inr (Or.inl ⟨arg, hmem, hname, hpass⟩)
      | false => exact Or.inr (Or.inr ⟨arg, hmem, hname, hpass⟩)
    · exact Or.inl fun arg hmem =>
        Bool.eq_false_iff.mpr fun hname => hblocked ⟨arg, hmem, hname⟩
  · rintro (hnone | ⟨arg, hmem, hname, hplain⟩ | ⟨arg, hmem, _, hpass⟩) hblocked
    · obtain ⟨arg, hmem, hname⟩ := hblocked
      rw [hnone arg hmem] at hname
      cases hname
    · refine ⟨arg, hmem, ?_⟩
      rw [mayPass_iff_of_names_blocked hname, hplain]
      decide
    · exact ⟨arg, hmem, hpass⟩

/-- The debugger is opened by a name that passes. -/
theorem inspect_brk_accepted :
    ¬∀ execArgv : List String, (∃ arg ∈ execArgv, namesBlockedFlag arg = true) →
      ∀ config, ∃ err, validateConfigWith (some execArgv) config = .error err := by
  intro h
  obtain ⟨err, herr⟩ := h ["--inspect_brk"] (by decide) {}
  cases herr

end ClusterKit
