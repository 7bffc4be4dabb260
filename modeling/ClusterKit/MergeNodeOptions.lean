import ClusterKit.ContainerSizing
import ClusterKit.TakenOptions
import ClusterKit.WhiteSpace

/-! When `mergeNodeOptions` keeps every other option: exactly when the two texts are mergeable.
Weights tell the removals that take more than an option, and lengths those that leave a part of
one, also where both texts are changed. -/

namespace ClusterKit.NodeOptions

open QuotedWords StripEnds

/-! ## Quotes -/

section

variable {inside : Bool}

theorem insideAfter_removeFlags (text : Text) (inside : Bool) :
    insideAfter '"' inside (removeFlags text) = insideAfter '"' inside text := by
  induction text using scan_induct generalizing inside with
  | nil => rfl
  | keep c rest hnone ih =>
    rw [removeFlags_keep hnone]
    exact ih _
  | hit m rest hm hmatch ih =>
    rw [removeFlags_match hm hmatch, insideAfter_append, insideAfter_of_notMem _ hm.no_quote]
    exact ih _

theorem insideAfter_collapseFrom (rest : Text) : ∀ (inside : Bool) (run : Text),
    (∀ c ∈ run, isTrimmed c = true) →
    insideAfter '"' inside (collapseFrom run rest) = insideAfter '"' inside rest := by
  induction rest with
  | nil => exact fun inside run hrun => insideAfter_spaces (squeeze_spaces hrun)
  | cons c rest ih =>
    intro inside run hrun
    rw [collapseFrom]
    split
    · rename_i hc
      rw [ih inside (run ++ [c]) (snoc_spaces hrun hc)]
      exact (insideAfter_append _ _ [c] rest).trans
        (by rw [insideAfter_spaces (List.forall_mem_singleton.mpr hc)]) |>.symm
    · rw [insideAfter_append, insideAfter_spaces (squeeze_spaces hrun)]
      exact ih _ [] (List.forall_mem_nil _)

theorem insideAfter_trim (text : Text) :
    insideAfter '"' inside (trim text) = insideAfter '"' inside text := by
  obtain ⟨lead, trail, hsplit, hlead, htrail⟩ := exists_strip isTrimmed text
  conv_rhs => rw [hsplit]
  rw [insideAfter_append, insideAfter_append, insideAfter_spaces hlead, insideAfter_spaces htrail]
  rfl

/-- No quote is lost. -/
theorem insideAfter_clean (text : Text) :
    insideAfter '"' inside (clean text) = insideAfter '"' inside text := by
  rw [clean, insideAfter_trim, collapse,
    insideAfter_collapseFrom (removeFlags text) inside [] (List.forall_mem_nil _),
    insideAfter_removeFlags]

end

/-! ## One text -/

section

variable {text : Text} {scale : Nat}

/-- The white space that is left only parts tokens. -/
def Parted (kept : Text) : Prop :=
  (∀ c ∈ kept.takeWhile isTrimmed, c = ' ') ∧ (∀ c ∈ kept.reverse.takeWhile isTrimmed, c = ' ') ∧
    ∀ run ∈ runsFrom false [] (trim kept), parting run = true

/-- The tokens of a text. -/
abbrev read (text : Text) : List Text := words [] (marksOf false text)

abbrev found (text : Text) : List FlagMatch := matchesFrom false true 0 text

theorem wellSpelled_iff : wellSpelled text = true ↔
    (∀ m ∈ found text, m.whole = true) ∧ (found text).length = flagCount (read text) ∧
      Parted (removeFlags text) := by
  simp [wellSpelled, Parted, and_assoc]

/-- White space is changed without weight only where it parts tokens, and then no token is. -/
theorem parted_lighter (scale : Nat) {kept : Text} (hclosed : insideAfter '"' false kept = false) :
    Lighter scale (read (trim (collapse kept))) (read kept) (Parted kept) := by
  have hcollapse := collapseFrom_lighter scale (trim kept) false [] [] (List.forall_mem_nil _)
  rw [List.nil_append] at hcollapse
  rw [trim_collapse]
  exact (hcollapse.trans (trim_lighter scale hclosed)).congr
    ⟨fun h => ⟨h.2.1, h.2.2, h.1⟩, fun h => ⟨h.2.2, h.1, h.2.1⟩⟩

/-- A text loses weight when it is cleaned, unless options are taken out and nothing else. -/
theorem clean_load (scale : Nat) (hscale : text.length < scale)
    (hclosed : insideAfter '"' false text = false) :
    tokenLoad scale (read (clean text)) ≤ tokenLoad scale (read text) ∧
      (tokenLoad scale (read (clean text)) = tokenLoad scale (read text) →
        Parted (removeFlags text) ∧ ∀ m ∈ found text, m.InOption) := by
  have hkept : insideAfter '"' false (removeFlags text) = false := by
    rw [insideAfter_removeFlags, hclosed]
  have hspaces := parted_lighter scale hkept
  have hflags := removeFlags_load scale text false [] (by simpa using hscale)
  refine ⟨hspaces.le.trans hflags.1, fun heq => ⟨?_, ?_⟩⟩
  · exact hspaces.of_eq (le_antisymm hspaces.le (hflags.1.trans heq.ge))
  · exact hflags.2 (le_antisymm hflags.1 (heq ▸ hspaces.le))

theorem clean_taken (hclosed : insideAfter '"' false text = false)
    (hparted : Parted (removeFlags text)) (hfound : ∀ m ∈ found text, m.InOption) :
    Taken (read text) (read (clean text)) ((found text).countP FlagMatch.whole)
      ((found text).countP fun m => !m.whole) := by
  have hkept : insideAfter '"' false (removeFlags text) = false := by
    rw [insideAfter_removeFlags, hclosed]
  rw [clean, (parted_lighter 0 hkept).same hparted]
  exact removeFlags_taken text false [] hfound

/-- A well spelled text loses its options. -/
theorem clean_wellSpelled (hclosed : insideAfter '"' false text = false)
    (h : wellSpelled text = true) : read (clean text) = withoutFlags (read text) := by
  obtain ⟨hwhole, hcount, hparted⟩ := wellSpelled_iff.mp h
  have hoption : ∀ m ∈ found text, m.InOption := by
    intro m hm
    have hw := hwhole m hm
    rw [FlagMatch.whole, Bool.and_eq_true, Bool.and_eq_true, List.isEmpty_iff] at hw
    exact ⟨hw.1.1, hw.1.2, by rw [hw.2]; exact List.forall_mem_nil _⟩
  have htaken := clean_taken hclosed hparted hoption
  refine htaken.measured.eq ?_ ?_
  · rw [List.countP_eq_zero]
    intro m hm
    simp [hwhole m hm]
  · rw [← hcount, List.countP_eq_length]
    exact hwhole

theorem load_withoutFlags (scale : Nat) (l : List Text) :
    tokenLoad scale (withoutFlags l) = tokenLoad scale l := by
  induction l using read_induct with
  | nil => rfl
  | joined token l htoken ih =>
    rw [(read_joined htoken).1, ih, tokenLoad_cons, tokenWeight_light scale (light_of_joined htoken),
      Nat.zero_add]
  | pair token value l htoken hvalue ih =>
    rw [(read_pair htoken hvalue).1, ih, tokenLoad_cons, tokenLoad_cons,
      tokenWeight_light scale (light_of_flag htoken),
      tokenWeight_light scale (light_of_decimal hvalue), Nat.zero_add, Nat.zero_add]
  | kept token l hkept ih => rw [(read_kept hkept).1, tokenLoad_cons, tokenLoad_cons, ih]

/-- When a text loses its options and nothing else, by weight and by length, it is well
spelled. -/
theorem wellSpelled_of_taken (hparted : Parted (removeFlags text))
    (h : Taken (read text) (read (clean text)) ((found text).countP FlagMatch.whole)
      ((found text).countP fun m => !m.whole))
    (hsize : size (withoutFlags (read text)) = size (read (clean text))) :
    wellSpelled text = true := by
  obtain ⟨hparts, hwhole⟩ := h.measured.of_size hsize
  have hall : ∀ m ∈ found text, m.whole = true := by
    intro m hm
    simpa using List.countP_eq_zero.mp hparts m hm
  exact wellSpelled_iff.mpr ⟨hall, by rw [← hwhole, List.countP_eq_length.mpr hall], hparted⟩

/-- What one text loses the other does not make good. -/
theorem wellSpelled_of_merged {added : Text} (hclosed : insideAfter '"' false text = false)
    (hclosed' : insideAfter '"' false added = false)
    (h : read (clean text) ++ read (clean added) =
      withoutFlags (read text) ++ withoutFlags (read added)) :
    wellSpelled text = true ∧ wellSpelled added = true := by
  have hload := congrArg (tokenLoad (text.length + added.length + 1)) h
  rw [tokenLoad_append, tokenLoad_append] at hload
  have hkept := load_withoutFlags (text.length + added.length + 1) (read text)
  have hkept' := load_withoutFlags (text.length + added.length + 1) (read added)
  obtain ⟨hle, hlost⟩ := clean_load (text.length + added.length + 1) (by omega) hclosed
  obtain ⟨hle', hlost'⟩ := clean_load (text.length + added.length + 1) (by omega) hclosed'
  obtain ⟨hparted, hfound⟩ := hlost (by omega)
  obtain ⟨hparted', hfound'⟩ := hlost' (by omega)
  have htaken := clean_taken hclosed hparted hfound
  have htaken' := clean_taken hclosed' hparted' hfound'
  have hsize := congrArg size h
  rw [size_append, size_append] at hsize
  have hshort := htaken.measured.size_le
  have hshort' := htaken'.measured.size_le
  exact ⟨wellSpelled_of_taken hparted htaken (by omega),
    wellSpelled_of_taken hparted' htaken' (by omega)⟩

end

/-! ## The result -/

section

variable {inside : Bool}

theorem toString_digits (n : Nat) : isDecimal (toString n).toList = true := by
  rw [isDecimal_iff]
  constructor
  · simp [Nat.toDigits_ne_nil]
  · intro c hc
    exact Nat.isDigit_of_mem_toDigits (b := 10) (n := n) (by decide) (by decide) (by simpa using hc)

theorem heapFlag_joined (n : Nat) : isJoined (heapFlag n) = true := by
  refine isJoined_iff.mpr ⟨"--max-old-space-size".toList, by decide, (toString n).toList, ?_,
    toString_digits n⟩
  rfl

/-- A part of the result, with what joins it to the one before. -/
def following (part : Text) : Text := if part = [] then [] else ' ' :: part

theorem read_following {lead : Text} (hclosed : insideAfter '"' false lead = false) (part : Text) :
    read (lead ++ following part) = read lead ++ read part := by
  rw [following]
  split
  · subst part
    rw [List.append_nil]
    exact (List.append_nil _).symm
  · rw [read, marksOf_append, hclosed]
    exact words_append_none [] _ _

theorem insideAfter_following (part : Text) :
    insideAfter '"' inside (following part) = insideAfter '"' inside part := by
  rw [following]
  split
  · subst part
    rfl
  · rfl

theorem bare_following {lead part : Text} (hlead : Bare isTrimmed lead) (hne : lead ≠ [])
    (hpart : Bare isTrimmed part) : Bare isTrimmed (lead ++ following part) := by
  obtain ⟨c, lead, rfl⟩ := List.exists_cons_of_ne_nil hne
  refine ⟨hlead.1, fun d hd => ?_⟩
  rw [following] at hd
  split at hd
  · rw [List.append_nil] at hd
    exact hlead.2 d hd
  · rename_i hfilled
    rw [List.getLast?_append_of_ne_nil _ (List.cons_ne_nil _ _), ← List.singleton_append,
      List.getLast?_append_of_ne_nil _ hfilled] at hd
    exact hpart.2 d hd

theorem bare_joined {name digits : Text} (hname : name ∈ FLAG_NAMES)
    (hdigits : isDecimal digits = true) : Bare isTrimmed (name ++ '=' :: digits) := by
  obtain ⟨hne, hall⟩ := isDecimal_iff.mp hdigits
  obtain ⟨_, _, nameTail, rfl⟩ := flag_names name hname
  constructor
  · rintro c ⟨⟩
    rfl
  · intro c hc
    rw [List.getLast?_append_of_ne_nil _ (List.cons_ne_nil _ _), ← List.singleton_append,
      List.getLast?_append_of_ne_nil _ hne] at hc
    exact isTrimmed_of_isDigit (hall c (List.mem_of_getLast? hc))

theorem join_following (lead part part' : Text) (hne : lead ≠ []) :
    [' '].intercalate ([lead, part, part'].filter (· ≠ [])) =
      lead ++ following part ++ following part' := by
  by_cases hpart : part = [] <;> by_cases hpart' : part' = [] <;>
    simp [following, hne, hpart, hpart', List.intercalate, List.intersperse]

theorem merge_eq (n : Nat) (existing : Text) (extra : Option Text) :
    mergeNodeOptions (heapFlag n) existing extra =
      heapFlag n ++ following (clean existing) ++ following (clean (extra.getD [])) := by
  have hextra : mergeNodeOptions (heapFlag n) existing extra = trim ([' '].intercalate
      ([heapFlag n, clean existing, clean (extra.getD [])].filter (· ≠ []))) := by
    rcases extra with - | - | - <;> rfl
  obtain ⟨name, hname, digits, heq, hdigits⟩ := isJoined_iff.mp (heapFlag_joined n)
  have hbare : Bare isTrimmed (heapFlag n) := heq ▸ bare_joined hname hdigits
  have hne : heapFlag n ≠ [] := by
    rw [heq]
    exact List.append_ne_nil_of_right_ne_nil _ (List.cons_ne_nil _ _)
  rw [hextra, join_following _ _ _ hne]
  refine strip_of_bare (bare_following (bare_following hbare hne (bare_strip _ _)) ?_
    (bare_strip _ _))
  exact List.append_ne_nil_of_left_ne_nil hne _

theorem heapFlag_plain (inside : Bool) (n : Nat) : read (heapFlag n) = [heapFlag n] ∧
    insideAfter '"' inside (heapFlag n) = inside := by
  obtain ⟨name, hname, digits, heq, hdigits⟩ := isJoined_iff.mp (heapFlag_joined n)
  have hquote : '"' ∉ heapFlag n := heq ▸ (FlagText.joined hname hdigits).no_quote
  have hmarks : marksOf false (heapFlag n) = (heapFlag n).map some := by
    rw [heq, marksOf_joined hname hdigits]
  have hwords := words_some [] (heapFlag n) []
  rw [List.append_nil] at hwords
  refine ⟨?_, insideAfter_of_notMem _ hquote inside⟩
  rw [read, hmarks, hwords]
  rfl

theorem insideAfter_merge (n : Nat) (existing : Text) (extra : Option Text) :
    insideAfter '"' false (mergeNodeOptions (heapFlag n) existing extra) =
      insideAfter '"' (insideAfter '"' false existing) (extra.getD []) := by
  rw [merge_eq, insideAfter_append, insideAfter_append, (heapFlag_plain false n).2,
    insideAfter_following, insideAfter_following, insideAfter_clean, insideAfter_clean]

theorem read_merge (n : Nat) {existing : Text} (extra : Option Text)
    (hclosed : insideAfter '"' false existing = false) :
    read (mergeNodeOptions (heapFlag n) existing extra) =
      heapFlag n :: (read (clean existing) ++ read (clean (extra.getD []))) := by
  have hflag : insideAfter '"' false (heapFlag n) = false := (heapFlag_plain false n).2
  have hlead : insideAfter '"' false (heapFlag n ++ following (clean existing)) = false := by
    rw [insideAfter_append, hflag, insideAfter_following, insideAfter_clean, hclosed]
  rw [merge_eq, read_following hlead, read_following hflag,
    (heapFlag_plain false n).1, List.append_assoc, List.singleton_append]

theorem tokens_open {text : Text} (h : insideAfter '"' false text = true) : tokens text = none :=
  if_pos h

theorem tokens_closed {text : Text} (h : insideAfter '"' false text = false) :
    tokens text = some (read text) :=
  if_neg (by rw [h]; decide)

end

/-- Two texts without an open quote. -/
theorem merged_iff (n : Nat) {existing added : Text}
    (hexisting : insideAfter '"' false existing = false)
    (hadded : insideAfter '"' false added = false) :
    (some (heapFlag n :: (read (clean existing) ++ read (clean added))) =
        some ([heapFlag n] ++ withoutFlags (read existing) ++ withoutFlags (read added)) ∧
      ∀ result, some (heapFlag n :: (read (clean existing) ++ read (clean added))) = some result →
        flagCount result = 1) ↔
    (wellSpelled existing && wellSpelled added &&
      flagCount (withoutFlags (read existing) ++ withoutFlags (read added)) == 0) = true := by
  have hcount (l : List Text) : flagCount (heapFlag n :: l) = flagCount l + 1 :=
    (read_joined (heapFlag_joined n)).2
  rw [Bool.and_eq_true, Bool.and_eq_true, beq_iff_eq, List.append_assoc, List.singleton_append]
  constructor
  · rintro ⟨hmerged, hflags⟩
    have htokens : read (clean existing) ++ read (clean added) =
        withoutFlags (read existing) ++ withoutFlags (read added) :=
      List.tail_eq_of_cons_eq (Option.some.inj hmerged)
    have hone := hflags _ rfl
    rw [hcount, htokens] at hone
    exact ⟨wellSpelled_of_merged hexisting hadded htokens, Nat.succ.inj hone⟩
  · rintro ⟨⟨hspelled, hspelled'⟩, hnone⟩
    rw [clean_wellSpelled hexisting hspelled, clean_wellSpelled hadded hspelled']
    refine ⟨rfl, ?_⟩
    rintro result ⟨⟩
    rw [hcount, hnone]

/-- Every token of the texts but the options that set the heap limit is kept, and the computed
option is the only one, exactly when the texts are mergeable. -/
theorem mergeNodeOptions_keeps_iff (v8HeapMb : Nat) (existing : Text) (extra : Option Text) :
    KeepsOptions (heapFlag v8HeapMb) existing extra ↔
      mergeable existing (extra.getD []) = true := by
  have hflag : tokens (heapFlag v8HeapMb) = some [heapFlag v8HeapMb] := by
    rw [tokens_closed (heapFlag_plain false v8HeapMb).2, (heapFlag_plain false v8HeapMb).1]
  have hquotes := insideAfter_merge v8HeapMb existing extra
  rw [KeepsOptions, mergeable, hflag]
  cases hexisting : insideAfter '"' false existing with
  | true =>
    rw [hexisting, show true = !false from rfl, insideAfter_not] at hquotes
    rw [tokens_open hexisting]
    cases hextra : insideAfter '"' false (extra.getD []) with
    | true =>
      -- the two open quotes close each other
      rw [hextra] at hquotes
      rw [tokens_open hextra, tokens_closed hquotes]
      exact ⟨fun h => absurd h.1 (Option.some_ne_none _), fun h => absurd h Bool.false_ne_true⟩
    | false =>
      rw [hextra] at hquotes
      rw [tokens_closed hextra, tokens_open hquotes]
      exact ⟨fun _ => rfl, fun _ => ⟨rfl, fun _ h => absurd h.symm (Option.some_ne_none _)⟩⟩
  | false =>
    rw [hexisting] at hquotes
    rw [tokens_closed hexisting]
    cases hextra : insideAfter '"' false (extra.getD []) with
    | true =>
      rw [hextra] at hquotes
      rw [tokens_open hextra, tokens_open hquotes]
      exact ⟨fun _ => rfl, fun _ => ⟨rfl, fun _ h => absurd h.symm (Option.some_ne_none _)⟩⟩
    | false =>
      rw [hextra] at hquotes
      rw [tokens_closed hextra, tokens_closed hquotes, read_merge v8HeapMb extra hexisting]
      exact merged_iff v8HeapMb hexisting hextra

/-- A run of spaces in a quoted value is squeezed. -/
theorem quoted_spaces_lost :
    ¬KeepsOptions (heapFlag 512) "--require \"./my  app.js\"".toList none := by
  intro h
  exact absurd h.1 (by decide +kernel)

end ClusterKit.NodeOptions
