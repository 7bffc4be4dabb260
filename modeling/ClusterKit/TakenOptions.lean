import ClusterKit.FlagRemoval

/-! The options that `removeFlags` takes out of the tokens of a text, where it takes nothing
else: whole ones, and others of which some digits stay. The lengths of the tokens tell the two
apart, and whether every option was taken. -/

namespace ClusterKit.NodeOptions

open QuotedWords

/-! ## Taking options out of a list -/

/-- `whole` options are taken out of a list of tokens; `parts` others leave some digits. -/
inductive Taken : List Text → List Text → Nat → Nat → Prop where
  | nil : Taken [] [] 0 0
  | keep {l l' : List Text} {whole parts : Nat} (token : Text) (rest : Taken l l' whole parts) :
      Taken (token :: l) (token :: l') whole parts
  | joined {l l' : List Text} {whole parts : Nat} {token : Text} (htoken : isJoined token = true)
      (rest : Taken l l' whole parts) : Taken (token :: l) l' (whole + 1) parts
  | pair {l l' : List Text} {whole parts : Nat} {token value : Text}
      (htoken : isFlag token = true) (hvalue : isDecimal value = true)
      (rest : Taken l l' whole parts) : Taken (token :: value :: l) l' (whole + 1) parts
  | joinedPart {l l' : List Text} {whole parts : Nat} {token left : Text}
      (htoken : isJoined token = true) (hleft : isDecimal left = true)
      (rest : Taken l l' whole parts) : Taken (token :: l) (left :: l') whole (parts + 1)
  | pairPart {l l' : List Text} {whole parts : Nat} {token value left : Text}
      (htoken : isFlag token = true) (hvalue : isDecimal value = true)
      (hleft : isDecimal left = true) (rest : Taken l l' whole parts) :
      Taken (token :: value :: l) (left :: l') whole (parts + 1)

variable {l l' : List Text} {whole parts : Nat} {token value : Text}

/-- The characters of some tokens. -/
def size (l : List Text) : Nat := (l.map List.length).sum

theorem size_cons : size (token :: l) = token.length + size l := rfl

theorem size_append (l l' : List Text) : size (l ++ l') = size l + size l' := by
  rw [size, List.map_append, List.sum_append]
  rfl

theorem length_pos_of_decimal (h : isDecimal token = true) : 0 < token.length :=
  List.length_pos_iff.mpr (isDecimal_iff.mp h).1

theorem length_pos_of_joined (h : isJoined token = true) : 0 < token.length := by
  obtain ⟨name, _, digits, rfl, _⟩ := isJoined_iff.mp h
  simp

theorem length_pos_of_flag (h : isFlag token = true) : 0 < token.length := by
  rw [(flag_names _ (isFlag_iff.mp h)).1]
  decide

theorem not_flag_of_decimal (h : isDecimal token = true) : isFlag token = false := by
  rw [Bool.eq_false_iff]
  intro hflag
  obtain ⟨_, _, rest, rfl⟩ := flag_names _ (isFlag_iff.mp hflag)
  cases (isDecimal_iff.mp h).2 '-' List.mem_cons_self

theorem not_joined_of_decimal (h : isDecimal token = true) : isJoined token = false := by
  rw [Bool.eq_false_iff]
  intro hjoined
  obtain ⟨name, _, digits, rfl, _⟩ := isJoined_iff.mp hjoined
  exact (decimal_chars h (List.mem_append_right _ List.mem_cons_self)).2.2.2 rfl

theorem not_joined_of_flag (h : isFlag token = true) : isJoined token = false := by
  rw [Bool.eq_false_iff]
  intro hjoined
  obtain ⟨name, _, digits, rfl, _⟩ := isJoined_iff.mp hjoined
  exact (name_chars (isFlag_iff.mp h) (List.mem_append_right _ List.mem_cons_self)).2.2.2.2 rfl

/-- A decimal on its own stays. -/
theorem Taken.of_decimal (hvalue : isDecimal value = true) (h : Taken (value :: l) l' whole parts) :
    ∃ l'', l' = value :: l'' ∧ Taken l l'' whole parts := by
  cases h with
  | keep _ rest => exact ⟨_, rfl, rest⟩
  | joined htoken rest => rw [not_joined_of_decimal hvalue] at htoken; cases htoken
  | pair htoken _ rest => rw [not_flag_of_decimal hvalue] at htoken; cases htoken
  | joinedPart htoken _ rest => rw [not_joined_of_decimal hvalue] at htoken; cases htoken
  | pairPart htoken _ _ rest => rw [not_flag_of_decimal hvalue] at htoken; cases htoken

/-! ## Reading the options off a list -/

/-- The token is kept, whatever follows the list. -/
def Kept (token : Text) (l : List Text) : Prop :=
  isJoined token = false ∧ (isFlag token = true → ∀ value ∈ l.head?, isDecimal value = false)

theorem read_joined (htoken : isJoined token = true) :
    withoutFlags (token :: l) = withoutFlags l ∧ flagCount (token :: l) = flagCount l + 1 := by
  cases l <;> simp only [withoutFlags, flagCount, if_pos htoken, and_self]

theorem read_pair (htoken : isFlag token = true) (hvalue : isDecimal value = true) :
    withoutFlags (token :: value :: l) = withoutFlags l ∧
      flagCount (token :: value :: l) = flagCount l + 1 := by
  have hjoined : ¬isJoined token = true := by
    rw [not_joined_of_flag htoken]
    decide
  simp only [withoutFlags, flagCount, if_neg hjoined, if_pos htoken, if_pos hvalue, and_self]

theorem read_kept (h : Kept token l) :
    withoutFlags (token :: l) = token :: withoutFlags l ∧ flagCount (token :: l) = flagCount l := by
  obtain ⟨hjoined, hvalue⟩ := h
  have hnot : ¬isJoined token = true := by rw [hjoined]; decide
  cases l with
  | nil => simp [withoutFlags, flagCount, hnot]
  | cons value l =>
    by_cases hflag : isFlag token = true
    · have hdecimal : ¬isDecimal value = true := by
        rw [hvalue hflag value rfl]
        decide
      rw [withoutFlags.eq_def (token :: value :: l), flagCount.eq_def (token :: value :: l)]
      simp only [if_neg hnot, if_pos hflag, if_neg hdecimal, and_self]
    · rw [withoutFlags.eq_def (token :: value :: l), flagCount.eq_def (token :: value :: l)]
      simp only [if_neg hnot, if_neg hflag, and_self]

/-- A list is read option by option, and token by token between them. -/
theorem read_induct {motive : List Text → Prop} (nil : motive [])
    (joined : ∀ token l, isJoined token = true → motive l → motive (token :: l))
    (pair : ∀ token value l, isFlag token = true → isDecimal value = true → motive l →
      motive (token :: value :: l))
    (kept : ∀ token l, Kept token l → motive l → motive (token :: l)) (l : List Text) :
    motive l := by
  fun_induction withoutFlags l with
  | case1 => exact nil
  | case2 token rest hjoined ih => exact joined token rest hjoined ih
  | case3 token hjoined hflag => exact kept token [] ⟨by simpa using hjoined, fun _ => nofun⟩ nil
  | case4 token hjoined hflag value rest hvalue ih => exact pair token value rest hflag hvalue ih
  | case5 token hjoined hflag value rest hvalue ih =>
    refine kept token (value :: rest) ⟨by simpa using hjoined, fun _ => ?_⟩ ih
    rintro _ ⟨⟩
    simpa using hvalue
  | case6 token rest hjoined hflag ih =>
    exact kept token rest ⟨by simpa using hjoined, fun h => absurd h hflag⟩ ih

/-- What is left has no fewer characters than the tokens without options; as many only when
all options were taken out whole. -/
structure Measured (l l' : List Text) (whole parts : Nat) : Prop where
  whole_le : whole ≤ flagCount l
  size_le : size (withoutFlags l) ≤ size l'
  of_size : size (withoutFlags l) = size l' → parts = 0 ∧ whole = flagCount l
  eq : parts = 0 → whole = flagCount l → l' = withoutFlags l

namespace Measured

variable {k : List Text} {whole' parts' : Nat}

/-- An option that is taken out whole changes neither side. -/
theorem taken (h : Measured l l' whole parts)
    (hread : withoutFlags k = withoutFlags l ∧ flagCount k = flagCount l + 1) :
    Measured k l' (whole + 1) parts := by
  obtain ⟨hwithout, hcount⟩ := hread
  refine ⟨?_, ?_, ?_, ?_⟩
  · rw [hcount]
    exact Nat.succ_le_succ h.whole_le
  · rw [hwithout]
    exact h.size_le
  · rw [hwithout, hcount]
    exact fun hsize => ⟨(h.of_size hsize).1, congrArg (· + 1) (h.of_size hsize).2⟩
  · rw [hwithout, hcount]
    exact fun hparts hwhole => h.eq hparts (Nat.succ.inj hwhole)

/-- An option of which something is left makes the lengths differ. -/
theorem left_over (h : Measured l l' whole parts) {left : List Text} (hleft : size l' < size left)
    (hread : withoutFlags k = withoutFlags l ∧ flagCount k = flagCount l + 1)
    (hwhole : whole' ≤ flagCount k) (hsome : parts' = 0 → whole' ≠ flagCount k) :
    Measured k left whole' parts' where
  whole_le := hwhole
  size_le := hread.1 ▸ h.size_le.trans hleft.le
  of_size hsize := absurd (hread.1 ▸ h.size_le) (not_le.mpr (hsize ▸ hleft))
  eq hparts heq := absurd heq (hsome hparts)

/-- Some digits are left. -/
theorem part (h : Measured l l' whole parts) {left : Text} (hleft : isDecimal left = true)
    (hread : withoutFlags k = withoutFlags l ∧ flagCount k = flagCount l + 1) :
    Measured k (left :: l') whole (parts + 1) := by
  have hpos := length_pos_of_decimal hleft
  refine h.left_over (by rw [size_cons]; omega) hread ?_ fun hparts => absurd hparts (by omega)
  exact h.whole_le.trans (hread.2 ▸ Nat.le_succ _)

/-- All of it is left. -/
theorem missed (h : Measured l l' whole parts) {left : List Text} (hleft : size l' < size left)
    (hread : withoutFlags k = withoutFlags l ∧ flagCount k = flagCount l + 1) :
    Measured k left whole parts := by
  have hle := h.whole_le
  exact h.left_over hleft hread (by omega) fun _ => by omega

theorem kept (h : Measured l l' whole parts)
    (hread : withoutFlags (token :: l) = token :: withoutFlags l ∧
      flagCount (token :: l) = flagCount l) : Measured (token :: l) (token :: l') whole parts := by
  obtain ⟨hwithout, hcount⟩ := hread
  refine ⟨?_, ?_, ?_, ?_⟩
  · rw [hcount]
    exact h.whole_le
  · rw [hwithout, size_cons, size_cons]
    exact Nat.add_le_add_left h.size_le _
  · rw [hwithout, size_cons, size_cons, hcount]
    exact fun hsize => h.of_size (Nat.add_left_cancel hsize)
  · rw [hwithout, hcount]
    exact fun hparts hwhole => congrArg _ (h.eq hparts hwhole)

end Measured

theorem Taken.measured (h : Taken l l' whole parts) : Measured l l' whole parts := by
  induction l using read_induct generalizing l' whole parts with
  | nil =>
    cases h
    exact ⟨le_rfl, le_rfl, fun _ => ⟨rfl, rfl⟩, fun _ _ => rfl⟩
  | joined token l htoken ih =>
    have hpos := length_pos_of_joined htoken
    cases h with
    | keep _ rest => exact (ih rest).missed (by rw [size_cons]; omega) (read_joined htoken)
    | joined _ rest => exact (ih rest).taken (read_joined htoken)
    | joinedPart _ hleft rest => exact (ih rest).part hleft (read_joined htoken)
    | pair hflag _ _ | pairPart hflag _ _ _ =>
      rw [not_joined_of_flag hflag] at htoken
      cases htoken
  | pair token value l htoken hvalue ih =>
    have hpos := length_pos_of_flag htoken
    cases h with
    | keep _ rest =>
      obtain ⟨_, rfl, after⟩ := rest.of_decimal hvalue
      exact (ih after).missed (by rw [size_cons, size_cons]; omega) (read_pair htoken hvalue)
    | pair _ _ rest => exact (ih rest).taken (read_pair htoken hvalue)
    | pairPart _ _ hleft rest => exact (ih rest).part hleft (read_pair htoken hvalue)
    | joined hjoined _ | joinedPart hjoined _ _ =>
      rw [not_joined_of_flag htoken] at hjoined
      cases hjoined
  | kept token l hkept ih =>
    cases h with
    | keep _ rest => exact (ih rest).kept (read_kept hkept)
    | joined hjoined _ | joinedPart hjoined _ _ =>
      rw [hkept.1] at hjoined
      cases hjoined
    | pair hflag hvalue _ | pairPart hflag hvalue _ _ =>
      rw [hkept.2 hflag _ rfl] at hvalue
      cases hvalue

/-! ## What `removeFlags` takes out -/

section

variable {m rest name gap digits : Text} {inside : Bool} {x : List (Option Char)}

theorem Taken.append_left (kept : List Text) (h : Taken l l' whole parts) :
    Taken (kept ++ l) (kept ++ l') whole parts := by
  induction kept with
  | nil => exact h
  | cons token kept ih => exact .keep token ih

/-- The tokens of an option are light. -/
theorem load_option (scale : Nat) (h : isOption l = true) : tokenLoad scale l = 0 := by
  match l, h with
  | [token], h => rw [tokenLoad_cons, tokenWeight_light scale (light_of_joined h)]; rfl
  | [token, value], h =>
    obtain ⟨hflag, hvalue⟩ := Bool.and_eq_true_iff.mp h
    rw [tokenLoad_cons, tokenLoad_cons, tokenWeight_light scale (light_of_flag hflag),
      tokenWeight_light scale (light_of_decimal hvalue)]
    rfl

/-- A spaced option is one only outside quotes and with nothing but spaces before its value. -/
theorem spaced_of_isOption (hname : name ∈ FLAG_NAMES) (hne : gap ≠ [])
    (hgap : ∀ c ∈ gap, isTrimmed c = true) (hdigits : isDecimal digits = true)
    (h : isOption (words [] (marksOf inside (name ++ (gap ++ digits)))) = true) :
    inside = false ∧ ∀ c ∈ gap, c = ' ' := by
  have hload : tokenLoad 1 _ = 0 := load_option 1 h
  cases inside with
  | true =>
    obtain ⟨c, hc⟩ := List.exists_mem_of_ne_nil gap hne
    have hplain : marksOf true (name ++ (gap ++ digits)) = (name ++ (gap ++ digits)).map some :=
      marks_plain _ _ (FlagText.spaced hname hne hgap hdigits).no_quote (Or.inl rfl)
    have hheavy : light (name ++ (gap ++ digits)) = false :=
      not_light_of_space (List.mem_append_right _ (List.mem_append_left _ hc)) (hgap c hc)
    have hwords : tokenLoad 1 (words [] (marksOf true (name ++ (gap ++ digits)))) =
        tokenWeight 1 (name ++ (gap ++ digits)) := by
      have hread := words_some [] (name ++ (gap ++ digits)) []
      rw [List.append_nil, List.nil_append] at hread
      rw [hplain, hread]
      exact load_flush _
    rw [hwords, tokenWeight_full hheavy] at hload
    simp only [List.length_append, (flag_names name hname).1] at hload
    omega
  | false =>
    have hrun := load_run 1 name (digits.map some) hgap hne
    have hread := words_some [] name (marksOf false gap ++ digits.map some)
    rw [marksOf_spaced hname hgap hdigits, hread, List.nil_append] at hload
    exact ⟨rfl, hrun.2 (by omega)⟩

/-- The tokens of an option that some digits may continue. -/
theorem option_words (hm : FlagText m) (hoption : isOption (words [] (marksOf inside m)) = true)
    (hdigits : ∀ c ∈ firstWord x, c.isDigit = true) :
    (∃ token, isJoined token = true ∧
      words [] (marksOf inside m ++ x) = token :: words [] (afterFirst x)) ∨
    ∃ token value, isFlag token = true ∧ isDecimal value = true ∧
      words [] (marksOf inside m ++ x) = token :: value :: words [] (afterFirst x) := by
  have hgrown {digits : Text} (h : isDecimal digits = true) :
      isDecimal (digits ++ firstWord x) = true := by
    obtain ⟨hne, hall⟩ := isDecimal_iff.mp h
    refine isDecimal_iff.mpr ⟨List.append_ne_nil_of_left_ne_nil hne _, fun c hc => ?_⟩
    exact (List.mem_append.mp hc).elim (hall c) (hdigits c)
  cases hm with
  | @joined name digits hname hvalue =>
    refine Or.inl ⟨name ++ '=' :: (digits ++ firstWord x),
      isJoined_iff.mpr ⟨name, hname, _, rfl, hgrown hvalue⟩, ?_⟩
    obtain ⟨_, _, nameTail, rfl⟩ := flag_names name hname
    rw [marksOf_joined hname hvalue, words_some, words_eq_first]
    simp [flush]
  | @spaced name gap digits hname hne hgap hvalue =>
    obtain ⟨rfl, hspaces⟩ := spaced_of_isOption hname hne hgap hvalue hoption
    refine Or.inr ⟨name, digits ++ firstWord x, isFlag_iff.mpr hname, hgrown hvalue, ?_⟩
    obtain ⟨_, _, nameTail, rfl⟩ := flag_names name hname
    obtain ⟨d, ds, rfl⟩ := List.exists_cons_of_ne_nil (isDecimal_iff.mp hvalue).1
    rw [marksOf_spaced hname hgap hvalue, List.append_assoc, words_some, List.append_assoc,
      words_spaces _ _ hspaces hne, words_some, words_eq_first]
    simp [flush]

/-- A match that is in an option takes it out: whole, unless digits go on after the match. -/
theorem Taken.of_match {fresh : Bool} (hm : FlagText m)
    (hfound : FlagMatch.InOption ⟨inside, fresh, m, rest⟩)
    (h : Taken (words [] (marksOf inside rest)) l' whole parts) :
    Taken (words [] (marksOf inside (m ++ rest))) l'
      (whole + if FlagMatch.whole ⟨inside, fresh, m, rest⟩ = true then 1 else 0)
      (parts + if (!FlagMatch.whole ⟨inside, fresh, m, rest⟩) = true then 1 else 0) := by
  obtain ⟨hfresh, hoption, hdigits⟩ := hfound
  have hmarks : marksOf inside (m ++ rest) = marksOf inside m ++ marksOf inside rest := by
    rw [marksOf_append, insideAfter_of_notMem _ hm.no_quote]
  have hread : words [] (marksOf inside rest) = _ := words_eq_first [] (marksOf inside rest)
  dsimp only at hfresh hoption
  rw [FlagMatch.whole, hfresh, hoption, FlagMatch.continued, Bool.true_and, Bool.true_and, hmarks]
  cases hfirst : firstWord (marksOf inside rest) with
  | nil =>
    rw [hfirst, List.append_nil, flush, List.nil_append] at hread
    rw [hread] at h
    rcases option_words hm hoption hdigits with
      ⟨token, htoken, heq⟩ | ⟨token, value, hflag, hvalue, heq⟩
    · rw [heq]
      exact .joined htoken h
    · rw [heq]
      exact .pair hflag hvalue h
  | cons d left =>
    have hleft : isDecimal (d :: left) = true :=
      isDecimal_iff.mpr ⟨List.cons_ne_nil _ _, hfirst ▸ hdigits⟩
    rw [hfirst, List.nil_append, flush, List.singleton_append] at hread
    rw [hread] at h
    obtain ⟨after, rfl, htaken⟩ := h.of_decimal hleft
    rcases option_words hm hoption hdigits with
      ⟨token, htoken, heq⟩ | ⟨token, value, hflag, hvalue, heq⟩
    · rw [heq]
      exact .joinedPart htoken hleft htaken
    · rw [heq]
      exact .pairPart hflag hvalue hleft htaken

/-- Where every match is in an option, the matches are the options taken out: whole, unless
digits go on after the match. -/
theorem removeFlags_taken (text : Text) : ∀ (inside : Bool) (cur : Text),
    (∀ found ∈ matchesFrom inside cur.isEmpty 0 text, found.InOption) →
    Taken (words cur (marksOf inside text)) (words cur (marksOf inside (removeFlags text)))
      ((matchesFrom inside cur.isEmpty 0 text).countP FlagMatch.whole)
      ((matchesFrom inside cur.isEmpty 0 text).countP fun found => !found.whole) := by
  induction text using scan_induct with
  | nil =>
    intro inside cur _
    have hkept := Taken.append_left (flush cur) .nil
    rwa [List.append_nil] at hkept
  | keep c rest hnone ih =>
    intro inside cur hfound
    rw [removeFlags_keep hnone]
    by_cases hquote : c = '"'
    · subst hquote
      rw [matchesFrom_quote hnone] at hfound ⊢
      exact ih _ cur hfound
    · by_cases hspace : c = ' ' ∧ inside = false
      · obtain ⟨rfl, rfl⟩ := hspace
        rw [matchesFrom_space hnone] at hfound ⊢
        rw [words_space, words_space]
        exact (ih false [] hfound).append_left (flush cur)
      · rw [matchesFrom_char cur hnone hquote hspace] at hfound ⊢
        rw [words_char hquote hspace, words_char hquote hspace]
        exact ih inside (cur ++ [c]) hfound
  | hit m rest hm hmatch ih =>
    intro inside cur hfound
    rw [matchesFrom_match hm hmatch] at hfound ⊢
    obtain ⟨hoption, hrest⟩ := List.forall_mem_cons.mp hfound
    obtain rfl : cur = [] := List.isEmpty_iff.mp hoption.1
    rw [removeFlags_match hm hmatch, List.countP_cons, List.countP_cons]
    exact Taken.of_match hm hoption (ih inside [] hrest)

end

end ClusterKit.NodeOptions
