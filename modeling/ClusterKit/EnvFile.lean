import ClusterKit.Text
import ClusterKit.Lib.LastWins

/-! `parseEnvFile`, which reads the files that the file-watcher plugin watches, and the files
that are written for it entry by entry. -/

namespace ClusterKit

open LastWins StripEnds

/-! ## The parser -/

def FORBIDDEN_KEYS : List Text :=
  ["__proto__".toList, "constructor".toList, "prototype".toList]

def isQuoted (value : Text) : Bool :=
  (value.head? == some '"' && value.getLast? == some '"' && decide (2 ≤ value.length)) ||
    (value.head? == some '\'' && value.getLast? == some '\'' && decide (2 ≤ value.length))

/-- `value.slice(1, -1)` -/
def unquote (value : Text) : Text := value.tail.dropLast

def parseEnvValue (value : Text) : Text :=
  if isQuoted value then unquote value
  else
    let value :=
      match indexOf [' ', '#'] value with
      | some commentIdx => trimEnd (value.take commentIdx)
      | none => value
    if isQuoted value then unquote value else value

abbrev EnvRecord := Finmap fun _ : Text => Text

/-- One turn of the loop over the lines. -/
def parseEnvLine (env : EnvRecord) (rawLine : Text) : EnvRecord :=
  let line := trim rawLine
  if line = [] ∨ line.head? = some '#' then env
  else
    match indexOf ['='] line with
    | none => env
    | some eqIdx =>
      let key := trim (line.take eqIdx)
      if key ∈ FORBIDDEN_KEYS then env
      else env.insert key (parseEnvValue (trim (line.drop (eqIdx + 1))))

def parseEnvFile (content : Text) : EnvRecord :=
  (content.splitOn '\n').foldl parseEnvLine ∅

/-! ## What is written -/

/-- An entry that a line `KEY="VALUE" # comment` can hold. -/
structure EnvEntry where
  key : Text
  value : Text
  comment : Option Text
  key_ne : key ≠ []
  key_trimmed : trim key = key
  key_plain : '=' ∉ key ∧ '\n' ∉ key
  key_first : key.head? ≠ some '#'
  key_allowed : key ∉ FORBIDDEN_KEYS
  value_plain : '\n' ∉ value ∧ '"' ∉ value
  comment_plain : ∀ text ∈ comment, '\n' ∉ text

namespace EnvEntry

/-- The comment, which trimming the line cuts short at its end. -/
def remark (cut : Text → Text) (e : EnvEntry) : Text :=
  match e.comment with
  | none => []
  | some text => ' ' :: '#' :: cut text

def quoted (cut : Text → Text) (e : EnvEntry) : Text :=
  '"' :: (e.value ++ '"' :: e.remark cut)

def render (e : EnvEntry) : Text := e.key ++ '=' :: e.quoted id

/-- The value can be told from the comment: there is none, or it does not end with a quote and
the value has nothing in it that a comment could begin with. -/
def legible (e : EnvEntry) : Bool :=
  match e.comment with
  | none => true
  | some text => (trimEnd text).getLast? != some '"' && (indexOf [' ', '#'] e.value).isNone

end EnvEntry

/-- The entries, each on its own line; the last line may end like the others. -/
def renderEnvFile (ended : Bool) (entries : List EnvEntry) : Text :=
  ['\n'].intercalate (entries.map EnvEntry.render ++ if ended then [[]] else [])

/-! ## Strings -/

section

variable {c : Char} {text value key rest pattern : Text}

theorem trimEnd_split (text : Text) :
    ∃ trail, text = trimEnd text ++ trail ∧ ∀ c ∈ trail, isTrimmed c = true :=
  ⟨text.rtakeWhile isTrimmed, List.rdropWhile_append_rtakeWhile.symm,
    fun _ hc => List.mem_rtakeWhile_imp hc⟩

theorem trimEnd_last (text : Text) : ∀ c ∈ (trimEnd text).getLast?, isTrimmed c = false := by
  intro c hc
  have hne : trimEnd text ≠ [] := by
    intro hnil
    rw [hnil] at hc
    cases hc
  have hlast := List.rdropWhile_last_not isTrimmed text hne
  rw [List.getLast?_eq_some_getLast hne] at hc
  rw [Bool.not_eq_true] at hlast
  exact Option.some.inj hc ▸ hlast

theorem mem_of_mem_trimEnd (h : c ∈ trimEnd text) : c ∈ text :=
  (List.rdropWhile_prefix isTrimmed text).subset h

theorem trimEnd_of_last (h : ∀ c ∈ text.getLast?, isTrimmed c = false) : trimEnd text = text := by
  refine List.rdropWhile_eq_self_iff.mpr fun hne => ?_
  rw [h _ (List.getLast?_eq_some_getLast hne)]
  decide

theorem trimEnd_cons (hc : isTrimmed c = false) (text : Text) :
    trimEnd (c :: text) = c :: trimEnd text := by
  rw [trimEnd, trimEnd, List.rdropWhile, List.rdropWhile, List.reverse_cons, List.dropWhile_append]
  split
  · rename_i hall
    rw [List.isEmpty_iff.mp hall, List.dropWhile_cons_of_neg (by rw [hc]; decide)]
    rfl
  · rw [List.reverse_append]
    rfl

theorem indexOf_eqSign (hkey : '=' ∉ key) (rest : Text) :
    indexOf ['='] (key ++ '=' :: rest) = some key.length := by
  induction key with
  | nil => rfl
  | cons c key ih =>
    rw [List.mem_cons, not_or] at hkey
    rw [List.cons_append, indexOf, if_neg (by simpa using hkey.1), ih hkey.2]
    rfl

theorem indexOf_le {i : Nat} (h : indexOf pattern text = some i) :
    i + pattern.length ≤ text.length := by
  induction text generalizing i with
  | nil =>
    rw [indexOf] at h
    split at h
    · subst pattern
      obtain rfl := Option.some.inj h
      exact le_rfl
    · cases h
  | cons c text ih =>
    rw [indexOf] at h
    split at h
    · rename_i hprefix
      obtain rfl := Option.some.inj h
      rw [Nat.zero_add]
      exact (List.isPrefixOf_iff_prefix.mp hprefix).length_le
    · obtain ⟨j, hj, rfl⟩ := Option.map_eq_some_iff.mp h
      have hle := ih hj
      rw [List.length_cons]
      omega

/-- What is found in a text is found there whatever follows it. -/
theorem indexOf_append {i : Nat} (h : indexOf pattern text = some i) (rest : Text) :
    indexOf pattern (text ++ rest) = some i := by
  induction text generalizing i with
  | nil =>
    rw [indexOf] at h
    split at h
    · subst pattern
      obtain rfl := Option.some.inj h
      cases rest <;> rfl
    · cases h
  | cons c text ih =>
    have hle := indexOf_le h
    rw [indexOf] at h
    rw [List.cons_append, indexOf]
    by_cases hprefix : pattern.isPrefixOf (c :: text) = true
    · rw [if_pos hprefix] at h
      have hlonger : pattern.isPrefixOf (c :: (text ++ rest)) = true :=
        List.isPrefixOf_iff_prefix.mpr
          ((List.isPrefixOf_iff_prefix.mp hprefix).trans (List.prefix_append (c :: text) rest))
      rw [if_pos hlonger, h]
    · rw [if_neg hprefix] at h
      have hlonger : ¬pattern.isPrefixOf (c :: (text ++ rest)) = true := by
        intro hmore
        refine hprefix (List.isPrefixOf_iff_prefix.mpr ?_)
        exact List.prefix_of_prefix_length_le (List.isPrefixOf_iff_prefix.mp hmore)
          (List.prefix_append (c :: text) rest) (by omega)
      obtain ⟨j, hj, rfl⟩ := Option.map_eq_some_iff.mp h
      rw [if_neg hlonger, ih hj]
      rfl

theorem indexOf_skip (text : Text) :
    indexOf [' ', '#'] ('"' :: text) = (indexOf [' ', '#'] text).map (· + 1) := rfl

theorem indexOf_comment (text : Text) : indexOf [' ', '#'] (' ' :: '#' :: text) = some 0 := by
  simp [indexOf]

/-- No comment begins across a quote. -/
theorem indexOf_quote (h : indexOf [' ', '#'] value = none) (rest : Text) :
    indexOf [' ', '#'] (value ++ '"' :: rest) =
      (indexOf [' ', '#'] rest).map (· + (value.length + 1)) := by
  induction value with
  | nil => rfl
  | cons c value ih =>
    rw [indexOf] at h
    split at h
    · cases h
    · rename_i hprefix
      have hother : ¬[' ', '#'].isPrefixOf (c :: (value ++ '"' :: rest)) = true := by
        cases value with
        | nil =>
          intro hmore
          simp [List.isPrefixOf] at hmore
        | cons d value => exact hprefix
      rw [List.cons_append, indexOf, if_neg hother, ih (Option.map_eq_none_iff.mp h),
        Option.map_map, List.length_cons]
      rfl

/-! ## One value -/

theorem isQuoted_quote (text : Text) :
    isQuoted ('"' :: text) = (text.getLast? == some '"') := by
  cases text with
  | nil => rfl
  | cons c text =>
    rw [isQuoted, List.getLast?_cons_cons]
    simp

theorem parse_quoted (value : Text) : parseEnvValue ('"' :: (value ++ ['"'])) = value := by
  rw [parseEnvValue, isQuoted_quote, if_pos (by simp)]
  exact List.dropLast_concat

/-- A value whose last character is no quote is cut at the first comment, and then read. -/
theorem parse_cut {i : Nat} (hquoted : isQuoted value = false)
    (hindex : indexOf [' ', '#'] value = some i) :
    parseEnvValue value =
      if isQuoted (trimEnd (value.take i)) then unquote (trimEnd (value.take i))
      else trimEnd (value.take i) := by
  rw [parseEnvValue, hquoted]
  simp only [hindex, Bool.false_eq_true, if_false]

/-- A comment that seems to begin in the value leaves an opening quote without its match. -/
theorem parse_inner {i : Nat} (hvalue : '"' ∉ value) (hindex : indexOf [' ', '#'] value = some i)
    (hquoted : isQuoted ('"' :: (value ++ rest)) = false) :
    parseEnvValue ('"' :: (value ++ rest)) ≠ value := by
  have hcut : indexOf [' ', '#'] ('"' :: (value ++ rest)) = some (i + 1) := by
    rw [indexOf_skip, indexOf_append hindex]
    rfl
  have hle := indexOf_le hindex
  have htake : ('"' :: (value ++ rest)).take (i + 1) = '"' :: value.take i := by
    rw [List.take_succ_cons, List.take_append_of_le_length (by omega)]
  have hquote : '"' ∉ trimEnd (value.take i) :=
    fun h => hvalue (List.mem_of_mem_take (mem_of_mem_trimEnd h))
  have hunquoted : ¬((trimEnd (value.take i)).getLast? == some '"') = true := by
    intro h
    exact hquote (List.mem_of_getLast? (by simpa using h))
  rw [parse_cut hquoted hcut, htake, trimEnd_cons rfl, isQuoted_quote, if_neg hunquoted]
  intro h
  exact hvalue (h ▸ List.mem_cons_self)

/-- Otherwise the comment is cut off, and the quotes with it. -/
theorem parse_behind (hindex : indexOf [' ', '#'] value = none)
    (hquoted : isQuoted ('"' :: (value ++ '"' :: ' ' :: '#' :: text)) = false) :
    parseEnvValue ('"' :: (value ++ '"' :: ' ' :: '#' :: text)) = value := by
  have hcut : indexOf [' ', '#'] ('"' :: (value ++ '"' :: ' ' :: '#' :: text)) =
      some (value.length + 2) := by
    rw [indexOf_skip, indexOf_quote hindex, indexOf_comment]
    simp
  have htake : ('"' :: (value ++ '"' :: ' ' :: '#' :: text)).take (value.length + 2) =
      '"' :: (value ++ ['"']) := by
    rw [List.take_succ_cons, List.take_length_add_append]
    rfl
  have htrim : trimEnd ('"' :: (value ++ ['"'])) = '"' :: (value ++ ['"']) := by
    refine trimEnd_of_last fun c hc => ?_
    rw [← List.cons_append, List.getLast?_concat] at hc
    obtain rfl := Option.some.inj hc
    rfl
  rw [parse_cut hquoted hcut, htake, htrim, isQuoted_quote, if_pos (by simp)]
  exact List.dropLast_concat

/-- Behind a quoted value a comment is cut, unless it ends with a quote itself or the value
looks like it holds one. -/
theorem parse_commented (hvalue : '"' ∉ value) (text : Text) :
    parseEnvValue ('"' :: (value ++ '"' :: ' ' :: '#' :: text)) = value ↔
      text.getLast? ≠ some '"' ∧ indexOf [' ', '#'] value = none := by
  have hlast : isQuoted ('"' :: (value ++ '"' :: ' ' :: '#' :: text)) =
      (text.getLast? == some '"') := by
    rw [isQuoted_quote, List.getLast?_append_of_ne_nil _ (List.cons_ne_nil _ _)]
    cases text with
    | nil => rfl
    | cons c text => simp [List.getLast?_cons_cons]
  by_cases htext : text.getLast? = some '"'
  · -- the whole is taken for one quoted value
    have hquoted : isQuoted ('"' :: (value ++ '"' :: ' ' :: '#' :: text)) = true := by
      rw [hlast, htext]
      rfl
    refine ⟨fun h => absurd ?_ hvalue, fun h => absurd htext h.1⟩
    rw [← h, parseEnvValue, if_pos hquoted, unquote, List.tail_cons,
      List.dropLast_append_of_ne_nil (List.cons_ne_nil _ _)]
    exact List.mem_append_right _ List.mem_cons_self
  · have hquoted : isQuoted ('"' :: (value ++ '"' :: ' ' :: '#' :: text)) = false := by
      rw [hlast]
      simpa using htext
    cases hindex : indexOf [' ', '#'] value with
    | some i =>
      exact ⟨fun h => absurd h (parse_inner hvalue hindex hquoted),
        fun h => absurd h.2 (Option.some_ne_none i)⟩
    | none => exact ⟨fun _ => ⟨htext, rfl⟩, fun _ => parse_behind hindex hquoted⟩

end

/-! ## One line -/

namespace EnvEntry

variable (e : EnvEntry)

/-- The value is read back exactly when it is legible. -/
theorem parse_iff : parseEnvValue (e.quoted trimEnd) = e.value ↔ e.legible = true := by
  rw [quoted, remark, legible]
  cases e.comment with
  | none => exact ⟨fun _ => rfl, fun _ => parse_quoted e.value⟩
  | some text =>
    rw [parse_commented e.value_plain.2, Bool.and_eq_true, bne_iff_ne, Option.isNone_iff_eq_none]

theorem quoted_split :
    ∃ trail, e.quoted id = e.quoted trimEnd ++ trail ∧ ∀ c ∈ trail, isTrimmed c = true := by
  rw [quoted, quoted, remark, remark]
  cases e.comment with
  | none => exact ⟨[], (List.append_nil _).symm, nofun⟩
  | some text =>
    obtain ⟨trail, htext, htrail⟩ := trimEnd_split text
    refine ⟨trail, ?_, htrail⟩
    simp [← htext]

theorem quoted_last : ∀ c ∈ (e.quoted trimEnd).getLast?, isTrimmed c = false := by
  rw [quoted, ← List.cons_append, List.getLast?_append_of_ne_nil _ (List.cons_ne_nil _ _), remark]
  cases e.comment with
  | none =>
    rintro c ⟨⟩
    rfl
  | some text =>
    have hlast := trimEnd_last text
    dsimp only
    cases hcut : trimEnd text with
    | nil =>
      rintro c ⟨⟩
      rfl
    | cons d rest =>
      rw [hcut] at hlast
      simpa [List.getLast?_cons_cons] using hlast

theorem bare_key : Bare isTrimmed e.key := e.key_trimmed ▸ bare_strip isTrimmed e.key

/-- Trimming a line cuts the comment short, and nothing else. -/
theorem trim_render : trim e.render = e.key ++ '=' :: e.quoted trimEnd := by
  obtain ⟨trail, hsplit, htrail⟩ := e.quoted_split
  have hbare : Bare isTrimmed (e.key ++ '=' :: e.quoted trimEnd) := by
    obtain ⟨c, key, hkey⟩ := List.exists_cons_of_ne_nil e.key_ne
    constructor
    · rw [hkey]
      exact fun d hd => e.bare_key.1 d (hkey ▸ hd)
    · rw [List.getLast?_append_of_ne_nil _ (List.cons_ne_nil _ _), quoted, List.getLast?_cons_cons]
      exact e.quoted_last
  have hline : e.render = [] ++ ((e.key ++ '=' :: e.quoted trimEnd) ++ trail) := by
    rw [render, hsplit, List.nil_append, List.append_assoc, List.cons_append]
  rw [hline]
  exact strip_bare hbare nofun htrail

theorem trim_quoted : trim (e.quoted trimEnd) = e.quoted trimEnd := by
  refine strip_of_bare ⟨?_, e.quoted_last⟩
  rintro c ⟨⟩
  rfl

/-- A line sets its key to what is read of its value. -/
theorem parse_render (env : EnvRecord) :
    parseEnvLine env e.render = env.insert e.key (parseEnvValue (e.quoted trimEnd)) := by
  obtain ⟨c, key, hkey⟩ := List.exists_cons_of_ne_nil e.key_ne
  have hkept : ¬(e.key ++ '=' :: e.quoted trimEnd = [] ∨
      (e.key ++ '=' :: e.quoted trimEnd).head? = some '#') := by
    have hfirst := e.key_first
    rw [hkey] at hfirst ⊢
    simpa using hfirst
  have hdrop : (e.key ++ '=' :: e.quoted trimEnd).drop (e.key.length + 1) = e.quoted trimEnd := by
    rw [List.append_cons, List.drop_left' (by simp)]
  rw [parseEnvLine, e.trim_render]
  simp only [if_neg hkept, indexOf_eqSign e.key_plain.1, List.take_left, e.key_trimmed,
    if_neg e.key_allowed, hdrop, e.trim_quoted]

theorem render_no_newline : '\n' ∉ e.render := by
  have hremark : '\n' ∉ e.remark id := by
    have hcomment := e.comment_plain
    rw [remark]
    cases htext : e.comment with
    | none => exact List.not_mem_nil
    | some text => simpa using hcomment text htext
  simp [render, quoted, e.key_plain.2, e.value_plain.1, hremark]

end EnvEntry

/-! ## The file -/

theorem splitOn_render (ended : Bool) (entries : List EnvEntry) :
    (renderEnvFile ended entries).splitOn '\n' = entries.map EnvEntry.render ∨
      (renderEnvFile ended entries).splitOn '\n' = entries.map EnvEntry.render ++ [[]] := by
  have hlines : ∀ line ∈ entries.map EnvEntry.render, '\n' ∉ line := by
    intro line hline
    obtain ⟨e, _, rfl⟩ := List.mem_map.mp hline
    exact e.render_no_newline
  cases ended with
  | false =>
    have hrender : renderEnvFile false entries =
        ['\n'].intercalate (entries.map EnvEntry.render) := by
      rw [renderEnvFile]
      exact congrArg _ (List.append_nil _)
    rw [hrender]
    by_cases hempty : entries = []
    · subst hempty
      exact Or.inr rfl
    · exact Or.inl (List.splitOn_intercalate '\n' hlines (by simpa using hempty))
  | true =>
    refine Or.inr (List.splitOn_intercalate '\n' ?_ (by simp))
    intro line hline
    rcases List.mem_append.mp hline with hline | hline
    · exact hlines line hline
    · rw [List.mem_singleton.mp hline]
      exact List.not_mem_nil

/-- A file gives every key what is read of its last entry. -/
theorem parse_renderEnvFile (ended : Bool) (entries : List EnvEntry) :
    parseEnvFile (renderEnvFile ended entries) =
      fill EnvEntry.key (fun e => parseEnvValue (e.quoted trimEnd)) entries := by
  have hlines : (entries.map EnvEntry.render).foldl parseEnvLine ∅ =
      fill EnvEntry.key (fun e => parseEnvValue (e.quoted trimEnd)) entries := by
    rw [List.foldl_map, fill]
    congr 1
    funext env e
    exact e.parse_render env
  rw [parseEnvFile]
  rcases splitOn_render ended entries with h | h
  · rw [h, hlines]
  · rw [h, List.foldl_append, hlines]
    rfl

/-- A file that is written entry by entry is read back, the last value of each key standing,
exactly when the last entry of each key is legible. -/
theorem parseEnvFile_render_iff (ended : Bool) (entries : List EnvEntry) :
    parseEnvFile (renderEnvFile ended entries) = fill EnvEntry.key EnvEntry.value entries ↔
      ∀ key, ∀ e ∈ last? EnvEntry.key entries key, e.legible = true := by
  rw [parse_renderEnvFile, fill_eq_iff]
  simp only [EnvEntry.parse_iff]

/-- `TOKEN="abc # keep" # rotated` -/
def rotatedToken : EnvEntry where
  key := "TOKEN".toList
  value := "abc # keep".toList
  comment := some " rotated".toList
  key_ne := by decide
  key_trimmed := by decide +kernel
  key_plain := by decide +kernel
  key_first := by decide
  key_allowed := by decide +kernel
  value_plain := by decide +kernel
  comment_plain := by decide +kernel

/-- The value is cut at the comment that it only looks like it holds. -/
theorem rotatedToken_cut :
    parseEnvFile (renderEnvFile false [rotatedToken]) ≠
      fill EnvEntry.key EnvEntry.value [rotatedToken] := by
  intro h
  have hlookup := congrArg (Finmap.lookup "TOKEN".toList) h
  exact absurd hlookup (by decide +kernel)

end ClusterKit
