import ClusterKit.FlagRemoval

/-! What `collapse` and `trim` do to the tokens of a text: nothing where the white space they
change only parts tokens, and elsewhere they take weight away. -/

namespace ClusterKit.NodeOptions

open QuotedWords StripEnds

variable {run rest cur text : Text} {scale : Nat} {inside : Bool} {x : List (Option Char)}

theorem insideAfter_spaces (hrun : ∀ c ∈ run, isTrimmed c = true) :
    insideAfter '"' inside run = inside :=
  insideAfter_of_notMem _ (fun h => (by cases hrun _ h)) inside

theorem countP_heavy_spaces (hrun : ∀ c ∈ run, isTrimmed c = true) :
    run.countP heavy = run.length := by
  rw [List.countP_eq_length]
  intro c hc
  rw [heavy, Bool.not_eq_true', Bool.eq_false_iff]
  intro hdigit
  have hspace := hrun c hc
  rw [isTrimmed_of_isDigit hdigit] at hspace
  cases hspace

theorem space_trimmed : ∀ c ∈ [' '], isTrimmed c = true :=
  List.forall_mem_singleton.mpr rfl

/-! ## Squeezing -/

theorem squeeze_spaces (hrun : ∀ c ∈ run, isTrimmed c = true) :
    ∀ c ∈ squeeze run, isTrimmed c = true := by
  rw [squeeze]
  split
  · rintro c hc
    rw [List.mem_singleton.mp hc]
    rfl
  · exact hrun

/-- The tokens that a change of the white space leaves, and when it changes none. -/
abbrev Lighter (scale : Nat) (new old : List Text) (p : Prop) : Prop :=
  Lightens light heavy scale new old p

/-- White space outside quotes parts what is around it only if it is spaces. -/
theorem run_lighter (scale : Nat) (cur : Text) (x : List (Option Char))
    (hrun : ∀ c ∈ run, isTrimmed c = true) (hne : run ≠ []) :
    Lighter scale (flush cur ++ words [] x) (words cur (marksOf false run ++ x))
      (∀ c ∈ run, c = ' ') := by
  have hstep := load_run scale cur x hrun hne
  have hload : tokenLoad scale (flush cur ++ words [] x) =
      tokenWeight scale cur + tokenLoad scale (words [] x) := by
    rw [tokenLoad_append]
    exact congrArg (· + _) (load_flush cur)
  rw [← hload] at hstep
  exact ⟨hstep.1, hstep.2, fun hspaces => (words_spaces cur x hspaces hne).symm⟩

/-- In a quoted segment, squeezing takes a character of a token away. -/
theorem squeeze_inside (scale : Nat) (cur : Text) (x : List (Option Char))
    (hrun : ∀ c ∈ run, isTrimmed c = true) (hlong : 2 ≤ run.length) :
    tokenLoad scale (words cur (marksOf true [' '] ++ x)) <
      tokenLoad scale (words cur (marksOf true run ++ x)) := by
  have hinside (spaces : Text) (hspaces : ∀ c ∈ spaces, isTrimmed c = true) :
      tokenLoad scale (words cur (marksOf true spaces ++ x)) =
        tokenWeight scale (cur ++ spaces ++ firstWord x) +
          tokenLoad scale (words [] (afterFirst x)) := by
    have hplain : marksOf true spaces = spaces.map some :=
      marks_plain _ _ (fun h => (by cases hspaces _ h)) (Or.inl rfl)
    rw [hplain, words_some]
    exact load_words _ _
  obtain ⟨c, hc⟩ := List.exists_mem_of_length_pos (Nat.lt_of_succ_le (Nat.le_of_succ_le hlong))
  have hlight : light (cur ++ run ++ firstWord x) = false :=
    not_light_of_space (List.mem_append_left _ (List.mem_append_right _ hc)) (hrun c hc)
  have hlt : tokenWeight scale (cur ++ [' '] ++ firstWord x) <
      tokenWeight scale (cur ++ run ++ firstWord x) := by
    have hscale := Nat.mul_le_mul_left scale (Nat.le_of_succ_le hlong)
    refine (tokenWeight_le _).trans_lt ?_
    rw [tokenWeight_full hlight]
    simp only [List.countP_append, List.length_append, Nat.mul_add, countP_heavy_spaces hrun,
      countP_heavy_spaces space_trimmed, List.length_singleton]
    omega
  rw [hinside [' '] space_trimmed, hinside run hrun]
  exact Nat.add_lt_add_right hlt _

/-- A run that is squeezed leaves the tokens as they are, or weight is taken away. -/
theorem squeeze_lighter (scale : Nat) (inside : Bool) (cur : Text) (x : List (Option Char))
    (hrun : ∀ c ∈ run, isTrimmed c = true) :
    Lighter scale (words cur (marksOf inside (squeeze run) ++ x))
      (words cur (marksOf inside run ++ x)) (parting (inside, run) = true) := by
  by_cases hlong : 2 ≤ run.length
  · have hsqueeze : squeeze run = [' '] := if_pos hlong
    have hparting : parting (inside, run) = (!inside && run.all (· == ' ')) := by
      simp only [parting, not_lt.mpr hlong, decide_false, Bool.false_or]
    rw [hsqueeze, hparting]
    cases inside with
    | true => exact .of_lt (squeeze_inside scale cur x hrun hlong) Bool.false_ne_true
    | false =>
      have hne : run ≠ [] := List.ne_nil_of_length_pos (Nat.lt_of_succ_le (Nat.le_of_succ_le hlong))
      exact (run_lighter scale cur x hrun hne).congr (by simp)
  · have hsqueeze : squeeze run = run := if_neg hlong
    have hparting : parting (inside, run) = true := by
      simp only [parting, not_le.mp hlong, decide_true, Bool.true_or]
    rw [hsqueeze]
    exact .refl _ hparting

theorem snoc_spaces {c : Char} (hrun : ∀ c ∈ run, isTrimmed c = true) (hc : isTrimmed c = true) :
    ∀ d ∈ run ++ [c], isTrimmed d = true := by
  intro d hd
  rcases List.mem_append.mp hd with hd | hd
  · exact hrun d hd
  · rw [List.mem_singleton.mp hd]
    exact hc

/-- Collapsing leaves the tokens as they are, or weight is taken away. -/
theorem collapseFrom_lighter (scale : Nat) (rest : Text) : ∀ (inside : Bool) (cur run : Text),
    (∀ c ∈ run, isTrimmed c = true) →
    Lighter scale (words cur (marksOf inside (collapseFrom run rest)))
      (words cur (marksOf inside (run ++ rest)))
      (∀ r ∈ runsFrom inside run rest, parting r = true) := by
  induction rest with
  | nil =>
    intro inside cur run hrun
    have hstep := squeeze_lighter scale inside cur [] hrun
    rw [List.append_nil, List.append_nil] at hstep
    rw [collapseFrom, runsFrom, List.append_nil, List.forall_mem_singleton]
    exact hstep
  | cons c rest ih =>
    intro inside cur run hrun
    by_cases hc : isTrimmed c = true
    · have hstep := ih inside cur (run ++ [c]) (snoc_spaces hrun hc)
      rw [List.append_assoc, List.singleton_append] at hstep
      rw [collapseFrom, runsFrom, if_pos hc, if_pos hc]
      exact hstep
    · rw [collapseFrom, runsFrom, if_neg hc, if_neg hc, List.forall_mem_cons]
      -- what stands before the rest is read, and a token may be under way
      obtain ⟨read, under, hread⟩ :=
        exists_words_append cur (marksOf inside (squeeze run) ++ marksOf inside [c])
      have hsplit (y : Text) : words cur (marksOf inside (squeeze run ++ c :: y)) =
          read ++ words under (marksOf (insideAfter '"' inside [c]) y) := by
        rw [← hread, marksOf_append, insideAfter_spaces (squeeze_spaces hrun), List.append_assoc,
          ← marksOf_append, List.singleton_append]
      have hrest := (ih (insideAfter '"' inside [c]) under [] (List.forall_mem_nil _)).append_left read
      rw [List.nil_append, ← hsplit, ← hsplit] at hrest
      have hsqueeze := squeeze_lighter scale inside cur (marksOf inside (c :: rest)) hrun
      have hbetween : marksOf inside (squeeze run ++ c :: rest) =
          marksOf inside (squeeze run) ++ marksOf inside (c :: rest) := by
        rw [marksOf_append, insideAfter_spaces (squeeze_spaces hrun)]
      have htaken : marksOf inside (run ++ c :: rest) =
          marksOf inside run ++ marksOf inside (c :: rest) := by
        rw [marksOf_append, insideAfter_spaces hrun]
      rw [← hbetween, ← htaken] at hsqueeze
      exact (hrest.trans hsqueeze).congr and_comm

theorem collapseFrom_append (hrun : ∀ c ∈ run, isTrimmed c = true) (lead rest : Text) :
    collapseFrom lead (run ++ rest) = collapseFrom (lead ++ run) rest := by
  induction run generalizing lead with
  | nil => rw [List.nil_append, List.append_nil]
  | cons c run ih =>
    obtain ⟨hc, hrest⟩ := List.forall_mem_cons.mp hrun
    rw [List.cons_append, collapseFrom, if_pos hc, ih hrest, List.append_assoc,
      List.singleton_append]

theorem collapseFrom_bare {c : Char} (hc : isTrimmed c = false) (lead rest : Text) :
    collapseFrom lead (c :: rest) = squeeze lead ++ c :: collapse rest := by
  rw [collapseFrom, if_neg (by rw [hc]; decide)]
  rfl

/-- What follows a character that is no white space is collapsed apart from it. -/
theorem collapseFrom_split {c : Char} (hc : isTrimmed c = false) (text rest : Text) :
    ∀ lead, collapseFrom lead (text ++ c :: rest) =
      collapseFrom lead (text ++ [c]) ++ collapse rest := by
  induction text with
  | nil =>
    intro lead
    rw [List.nil_append, List.nil_append, collapseFrom_bare hc, collapseFrom_bare hc,
      List.append_assoc]
    rfl
  | cons d text ih =>
    intro lead
    rw [List.cons_append, List.cons_append, collapseFrom, collapseFrom]
    split
    · exact ih _
    · rw [ih, List.append_assoc, List.cons_append]

theorem collapse_spaces (hrun : ∀ c ∈ run, isTrimmed c = true) : collapse run = squeeze run := by
  have h := collapseFrom_append hrun [] []
  rw [List.append_nil, List.nil_append] at h
  exact h

theorem exists_collapseFrom_last {d : Char} (hd : isTrimmed d = false) (text : Text) :
    ∀ lead, ∃ y, collapseFrom lead (text ++ [d]) = y ++ [d] := by
  induction text with
  | nil => exact fun lead => ⟨squeeze lead, collapseFrom_bare hd lead []⟩
  | cons c text ih =>
    intro lead
    rw [List.cons_append, collapseFrom]
    split
    · exact ih _
    · obtain ⟨y, hy⟩ := ih []
      exact ⟨squeeze lead ++ c :: y, by rw [hy, List.append_assoc, List.cons_append]⟩

/-- A bare text is empty, or has a first and a last character that are no white space. -/
theorem bare_cases (h : Bare isTrimmed text) : text = [] ∨
    (∃ c rest, text = c :: rest ∧ isTrimmed c = false) ∧
      ∃ init d, text = init ++ [d] ∧ isTrimmed d = false := by
  obtain ⟨hhead, hlast⟩ := h
  rcases List.eq_nil_or_concat text with rfl | ⟨init, d, rfl⟩
  · exact Or.inl rfl
  · rw [List.concat_eq_append] at *
    refine Or.inr ⟨?_, init, d, rfl, hlast d (by simp)⟩
    cases init with
    | nil => exact ⟨d, [], rfl, hhead d rfl⟩
    | cons c init => exact ⟨c, init ++ [d], rfl, hhead c rfl⟩

theorem collapse_bare (h : Bare isTrimmed text) : Bare isTrimmed (collapse text) := by
  rcases bare_cases h with rfl | ⟨⟨c, rest, rfl, hc⟩, init, d, heq, hd⟩
  · exact h
  · constructor
    · intro e he
      rw [collapse, collapseFrom_bare hc] at he
      obtain rfl : c = e := by simpa [squeeze] using he
      exact hc
    · intro e he
      obtain ⟨y, hy⟩ := exists_collapseFrom_last hd init []
      rw [heq, collapse, hy, List.getLast?_append] at he
      obtain rfl : d = e := by simpa using he
      exact hd

/-- Collapsing and trimming may be done in either order. -/
theorem trim_collapse (text : Text) : trim (collapse text) = collapse (trim text) := by
  obtain ⟨lead, trail, hsplit, hlead, htrail⟩ := exists_strip isTrimmed text
  have hbare : Bare isTrimmed (trim text) := bare_strip isTrimmed text
  rw [show strip isTrimmed text = trim text from rfl] at hsplit
  generalize trim text = mid at hsplit hbare ⊢
  subst hsplit
  rcases bare_cases hbare with rfl | ⟨⟨c, rest, hc, hcbare⟩, init, d, hd, hdbare⟩
  · have hall : ∀ c ∈ lead ++ ([] ++ trail), isTrimmed c = true := by
      intro c hc
      rcases List.mem_append.mp hc with hc | hc
      · exact hlead c hc
      · exact htrail c hc
    rw [collapse_spaces hall]
    exact strip_all (squeeze_spaces hall)
  · have hmid : collapseFrom lead mid = squeeze lead ++ collapse mid := by
      rw [hc, collapseFrom_bare hcbare]
      exact congrArg _ (collapseFrom_bare hcbare [] rest).symm
    have hend : collapseFrom lead (mid ++ trail) = collapseFrom lead mid ++ squeeze trail := by
      rw [hd, List.append_assoc, List.singleton_append, collapseFrom_split hdbare,
        collapse_spaces htrail]
    have hcollapse : collapse (lead ++ (mid ++ trail)) =
        squeeze lead ++ (collapse mid ++ squeeze trail) := by
      rw [collapse, collapseFrom_append hlead, List.nil_append, hend, hmid, List.append_assoc]
    rw [hcollapse]
    exact strip_bare (collapse_bare hbare) (squeeze_spaces hlead) (squeeze_spaces htrail)

/-! ## Trimming -/

/-- Only spaces may stand before the first token. -/
theorem lead_lighter (scale : Nat) (x : List (Option Char)) (hrun : ∀ c ∈ run, isTrimmed c = true) :
    Lighter scale (words [] x) (words [] (marksOf false run ++ x)) (∀ c ∈ run, c = ' ') := by
  by_cases hne : run = []
  · subst hne
    exact .refl _ (List.forall_mem_nil _)
  · exact run_lighter scale [] x hrun hne

/-- And only spaces after the last one. -/
theorem trail_lighter (scale : Nat) (x : List (Option Char)) (hrun : ∀ c ∈ run, isTrimmed c = true) :
    Lighter scale (words [] x) (words [] (x ++ marksOf false run)) (∀ c ∈ run, c = ' ') := by
  by_cases hne : run = []
  · subst hne
    have hnil : x ++ marksOf false [] = x := List.append_nil x
    rw [hnil]
    exact .refl _ (List.forall_mem_nil _)
  · obtain ⟨read, under, hread⟩ := exists_words_append [] x
    have hx := hread []
    rw [List.append_nil] at hx
    have hstep := (run_lighter scale under [] hrun hne).append_left read
    have hflush : flush under ++ words [] ([] : List (Option Char)) = words under [] :=
      List.append_nil _
    rw [hflush, List.append_nil, ← hx, ← hread] at hstep
    exact hstep

/-- White space around a text leaves the tokens as they are, or weight is taken away with it. -/
theorem trim_lighter (scale : Nat) (hclosed : insideAfter '"' false text = false) :
    Lighter scale (words [] (marksOf false (trim text))) (words [] (marksOf false text))
      ((∀ c ∈ text.takeWhile isTrimmed, c = ' ') ∧
        ∀ c ∈ text.reverse.takeWhile isTrimmed, c = ' ') := by
  obtain ⟨lead, trail, hsplit, hlead, htrail⟩ := exists_strip isTrimmed text
  have hbare : Bare isTrimmed (trim text) := bare_strip isTrimmed text
  rw [show strip isTrimmed text = trim text from rfl] at hsplit
  by_cases hempty : trim text = []
  · have hall : ∀ c ∈ text, isTrimmed c = true := by
      rw [hsplit, hempty]
      intro c hc
      rcases List.mem_append.mp hc with hc | hc
      · exact hlead c hc
      · exact htrail c hc
    have hfirst : text.takeWhile isTrimmed = text := List.takeWhile_eq_self_iff.mpr hall
    have hlast : text.reverse.takeWhile isTrimmed = text.reverse :=
      List.takeWhile_eq_self_iff.mpr fun c hc => hall c (List.mem_reverse.mp hc)
    have hl := lead_lighter scale [] hall
    rw [List.append_nil] at hl
    rw [hempty, hfirst, hlast]
    exact hl.congr (by simp)
  · have hfirst : text.takeWhile isTrimmed = lead := by
      rw [hsplit]
      exact takeWhile_lead hbare hempty hlead
    have hlast : text.reverse.takeWhile isTrimmed = trail.reverse := by
      conv_lhs => rw [hsplit]
      exact takeWhile_trail hbare hempty htrail
    have hopen : insideAfter '"' false (trim text) = false := by
      rw [hsplit, insideAfter_append, insideAfter_append, insideAfter_spaces hlead,
        insideAfter_spaces htrail] at hclosed
      exact hclosed
    have hmarks : marksOf false text =
        marksOf false lead ++ (marksOf false (trim text) ++ marksOf false trail) := by
      conv_lhs => rw [hsplit]
      rw [marksOf_append, insideAfter_spaces hlead, marksOf_append, hopen]
    have hl := lead_lighter scale (marksOf false (trim text) ++ marksOf false trail) hlead
    have ht := trail_lighter scale (marksOf false (trim text)) htrail
    rw [hfirst, hlast, hmarks]
    exact (ht.trans hl).congr (by simp [and_comm])

end ClusterKit.NodeOptions
