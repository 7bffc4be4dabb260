import ClusterKit.NodeOptions
import Mathlib.Data.List.Basic

/-! What `removeFlags` does to the tokens of a text. Options and decimals are taken to be
light; then no removal adds weight, and one that takes anything but an option, or a part of
its digits, takes weight away. -/

namespace ClusterKit.NodeOptions

open QuotedWords

/-! ## Spellings -/

/-- A character of a flag name. -/
def isNameChar (c : Char) : Bool :=
  !c.isDigit && !isTrimmed c && c != '"' && c != ' ' && c != '='

theorem flag_names : ∀ name ∈ FLAG_NAMES, name.length = 20 ∧ name.all isNameChar = true ∧
    ∃ rest, name = '-' :: rest := by
  simp only [FLAG_NAMES, List.flatMap_cons, List.flatMap_nil, List.map_cons, List.map_nil,
    List.append_nil, List.cons_append, List.nil_append, List.forall_mem_cons]
  refine ⟨?_, ?_, ?_, ?_, ?_, ?_, ?_, ?_, nofun⟩ <;> exact ⟨rfl, by decide +kernel, _, rfl⟩

theorem isTrimmed_of_isDigit {c : Char} (h : c.isDigit = true) : isTrimmed c = false := by
  rw [Char.isDigit_iff_toNat] at h
  simp only [isTrimmed, Bool.or_eq_false_iff, decide_eq_false_iff_not, beq_eq_false_iff_ne]
  have h0 : '0'.toNat = 48 := rfl
  have h9 : '9'.toNat = 57 := rfl
  rw [h0, h9] at h
  omega

theorem isDecimal_iff {w : Text} : isDecimal w = true ↔ w ≠ [] ∧ ∀ c ∈ w, c.isDigit = true := by
  simp [isDecimal]

theorem isFlag_iff {w : Text} : isFlag w = true ↔ w ∈ FLAG_NAMES := by
  simp [isFlag]

theorem isJoined_iff {w : Text} : isJoined w = true ↔
    ∃ name ∈ FLAG_NAMES, ∃ digits, w = name ++ '=' :: digits ∧ isDecimal digits = true := by
  simp only [isJoined, List.any_eq_true, Bool.and_eq_true, List.isPrefixOf_iff_prefix]
  constructor
  · rintro ⟨name, hname, ⟨digits, rfl⟩, hdecimal⟩
    refine ⟨name, hname, digits, List.append_cons name '=' digits ▸ rfl, ?_⟩
    rwa [List.drop_left' (by simp)] at hdecimal
  · rintro ⟨name, hname, digits, rfl, hdecimal⟩
    exact ⟨name, hname, ⟨digits, by simp⟩, by rwa [List.append_cons, List.drop_left' (by simp)]⟩

section

variable {name w cur rest digits gap : Text}

theorem name_chars (hname : name ∈ FLAG_NAMES) {c : Char} (hc : c ∈ name) :
    c.isDigit = false ∧ isTrimmed c = false ∧ c ≠ '"' ∧ c ≠ ' ' ∧ c ≠ '=' := by
  have h := List.all_eq_true.mp (flag_names name hname).2.1 c hc
  simpa [isNameChar, and_assoc] using h

theorem decimal_chars (hdigits : isDecimal digits = true) {c : Char} (hc : c ∈ digits) :
    isTrimmed c = false ∧ c ≠ '"' ∧ c ≠ ' ' ∧ c ≠ '=' := by
  have hdigit := (isDecimal_iff.mp hdigits).2 c hc
  refine ⟨isTrimmed_of_isDigit hdigit, ?_, ?_, ?_⟩ <;> rintro rfl <;> cases hdigit

/-! ## Weights of tokens -/

def heavy (c : Char) : Bool := !c.isDigit

def light (w : Text) : Bool := isDecimal w || isFlag w || isJoined w

theorem light_cases (h : light w = true) : isDecimal w = true ∨ w ∈ FLAG_NAMES ∨
    ∃ name ∈ FLAG_NAMES, ∃ digits, w = name ++ '=' :: digits ∧ isDecimal digits = true := by
  rwa [light, Bool.or_eq_true, Bool.or_eq_true, isFlag_iff, isJoined_iff, or_assoc] at h

theorem light_of_decimal (h : isDecimal w = true) : light w = true := by
  rw [light, h]
  rfl

theorem light_of_joined (h : isJoined w = true) : light w = true := by
  rw [light, h, Bool.or_true]

theorem light_of_flag (h : isFlag w = true) : light w = true := by
  rw [light, h, Bool.or_true, Bool.true_or]

/-- A token with white space in it is heavy. -/
theorem not_light_of_space {c : Char} (hc : c ∈ w) (hspace : isTrimmed c = true) :
    light w = false := by
  rw [Bool.eq_false_iff]
  intro hlight
  have hplain : isTrimmed c = false := by
    rcases light_cases hlight with h | h | ⟨name, hname, digits, rfl, hdigits⟩
    · exact (decimal_chars h hc).1
    · exact (name_chars h hc).2.1
    · rcases List.mem_append.mp hc with h | h
      · exact (name_chars hname h).2.1
      · rcases List.mem_cons.mp h with rfl | h
        · rfl
        · exact (decimal_chars hdigits h).1
  rw [hspace] at hplain
  cases hplain

/-- A token that starts with a digit is light only if it is decimal. -/
theorem digits_of_light (hdigits : isDecimal digits = true) (h : light (digits ++ rest) = true) :
    ∀ c ∈ rest, c.isDigit = true := by
  obtain ⟨hne, hall⟩ := isDecimal_iff.mp hdigits
  obtain ⟨d, ds, rfl⟩ := List.exists_cons_of_ne_nil hne
  have hd := hall d List.mem_cons_self
  have hdash : ∀ {name tail : Text}, name ∈ FLAG_NAMES → (d :: ds) ++ rest ≠ name ++ tail := by
    intro name tail hname heq
    obtain ⟨_, _, nameTail, rfl⟩ := flag_names name hname
    obtain rfl := (List.cons.inj heq).1
    cases hd
  rcases light_cases h with h | h | ⟨name, hname, tail, heq, _⟩
  · exact fun c hc => (isDecimal_iff.mp h).2 c (List.mem_append_right _ hc)
  · exact absurd (List.append_nil _).symm (hdash h)
  · exact absurd heq (hdash hname)

/-- A token that ends with a flag name is light only if it is the name. -/
theorem fresh_of_light_name (hname : name ∈ FLAG_NAMES) (h : light (cur ++ name) = true) :
    cur = [] := by
  have hlen := (flag_names name hname).1
  have hne : name ≠ [] := by
    rintro rfl
    cases hlen
  have hlast := (name_chars hname (List.getLast_mem hne)).1
  rcases light_cases h with h | h | ⟨name', hname', digits, heq, hdigits⟩
  · have := (isDecimal_iff.mp h).2 _ (List.mem_append_right cur (List.getLast_mem hne))
    rw [hlast] at this
    cases this
  · have := (flag_names _ h).1
    rw [List.length_append, hlen] at this
    exact List.length_eq_zero_iff.mp (by omega)
  · obtain ⟨hdne, hall⟩ := isDecimal_iff.mp hdigits
    have hend : (cur ++ name).getLast? = (name' ++ '=' :: digits).getLast? := by rw [heq]
    rw [List.getLast?_append_of_ne_nil _ hne, List.getLast?_append_of_ne_nil _ (List.cons_ne_nil _ _),
      List.getLast?_cons, List.getLast?_eq_some_getLast hne,
      List.getLast?_eq_some_getLast hdne, Option.getD_some] at hend
    have hdigit := hall _ (List.getLast_mem hdne)
    rw [← Option.some.inj hend, hlast] at hdigit
    cases hdigit

/-- A token with a joined option in it is light only if it is one. -/
theorem fresh_of_light_joined (hname : name ∈ FLAG_NAMES)
    (h : light (cur ++ (name ++ '=' :: (digits ++ rest))) = true) :
    cur = [] ∧ ∀ c ∈ rest, c.isDigit = true := by
  rw [← List.append_assoc] at h
  have heqs : '=' ∈ (cur ++ name) ++ '=' :: (digits ++ rest) :=
    List.mem_append_right _ List.mem_cons_self
  rcases light_cases h with h | h | ⟨name', hname', digits', heq, hdigits'⟩
  · exact absurd rfl (decimal_chars h heqs).2.2.2
  · exact absurd rfl (name_chars h heqs).2.2.2.2
  · have hname'' : '=' ∉ name' := fun h => (name_chars hname' h).2.2.2.2 rfl
    have hdigits'' : '=' ∉ digits' := fun h => (decimal_chars hdigits' h).2.2.2 rfl
    obtain ⟨hcur, _, rfl⟩ :=
      (List.append_cons_inj_of_notMem hname'' hdigits'').mp heq.symm
    refine ⟨?_, fun c hc => (isDecimal_iff.mp hdigits').2 c (List.mem_append_right _ hc)⟩
    have hlen := congrArg List.length hcur
    rw [List.length_append, (flag_names name hname).1, (flag_names name' hname').1] at hlen
    exact List.length_eq_zero_iff.mp (by omega)

end

/-! ## What a step takes away -/

section

variable {name cur rest digits gap run : Text} {scale : Nat} {inside : Bool}
  {x : List (Option Char)}

abbrev tokenWeight (scale : Nat) (w : Text) : Nat := weight light heavy scale w

abbrev tokenLoad (scale : Nat) (ws : List Text) : Nat := load light heavy scale ws

theorem tokenWeight_le (w : Text) :
    tokenWeight scale w ≤ scale * w.countP heavy + w.length := weight_le _ _ _ w

theorem tokenWeight_full {w : Text} (h : light w = false) :
    tokenWeight scale w = scale * w.countP heavy + w.length := weight_of_not_light h

theorem tokenWeight_light (scale : Nat) {w : Text} (h : light w = true) : tokenWeight scale w = 0 :=
  weight_of_light h

theorem tokenLoad_cons (scale : Nat) (token : Text) (l : List Text) :
    tokenLoad scale (token :: l) = tokenWeight scale token + tokenLoad scale l := by
  simp [load]

theorem tokenLoad_append (scale : Nat) (l l' : List Text) :
    tokenLoad scale (l ++ l') = tokenLoad scale l + tokenLoad scale l' :=
  load_append l l'

theorem countP_heavy_eq_zero {w : Text} (h : ∀ c ∈ w, c.isDigit = true) : w.countP heavy = 0 := by
  rw [List.countP_eq_zero]
  intro c hc
  simp [heavy, h c hc]

theorem countP_heavy_name (hname : name ∈ FLAG_NAMES) : name.countP heavy = 20 := by
  rw [← (flag_names name hname).1, List.countP_eq_length]
  intro c hc
  simp [heavy, (name_chars hname hc).1]

theorem tokenWeight_digits {w : Text} (h : ∀ c ∈ w, c.isDigit = true) : tokenWeight scale w = 0 := by
  cases w with
  | nil => simp [weight]
  | cons c w => exact weight_of_light (light_of_decimal (isDecimal_iff.mpr ⟨List.cons_ne_nil _ _, h⟩))

/-- A joined option that is removed leaves no less weight than it takes, unless it is a token,
but for digits after it. -/
theorem removed_joined_le (scale : Nat) (cur digits rest : Text) (hname : name ∈ FLAG_NAMES) :
    tokenWeight scale (cur ++ rest) ≤
        tokenWeight scale (cur ++ (name ++ '=' :: (digits ++ rest))) ∧
      (tokenWeight scale (cur ++ rest) =
          tokenWeight scale (cur ++ (name ++ '=' :: (digits ++ rest))) →
        cur = [] ∧ ∀ c ∈ rest, c.isDigit = true) := by
  cases hlight : light (cur ++ (name ++ '=' :: (digits ++ rest))) with
  | true =>
    obtain ⟨rfl, hrest⟩ := fresh_of_light_joined hname hlight
    exact ⟨(tokenWeight_digits hrest).trans_le (Nat.zero_le _), fun _ => ⟨rfl, hrest⟩⟩
  | false =>
    have hlt : tokenWeight scale (cur ++ rest) <
        tokenWeight scale (cur ++ (name ++ '=' :: (digits ++ rest))) := by
      refine (tokenWeight_le _).trans_lt ?_
      rw [tokenWeight_full hlight]
      simp only [List.countP_append, List.countP_cons, List.length_append, List.length_cons,
        Nat.mul_add]
      omega
    exact ⟨hlt.le, fun heq => absurd heq hlt.ne⟩

/-- So does an option in two tokens. -/
theorem removed_pair_le (hname : name ∈ FLAG_NAMES) (hdigits : isDecimal digits = true)
    (hscale : cur.length + rest.length < scale) :
    tokenWeight scale (cur ++ rest) ≤
        tokenWeight scale (cur ++ name) + tokenWeight scale (digits ++ rest) ∧
      (tokenWeight scale (cur ++ rest) =
          tokenWeight scale (cur ++ name) + tokenWeight scale (digits ++ rest) →
        cur = [] ∧ ∀ c ∈ rest, c.isDigit = true) := by
  have hdlen : 0 < digits.length := List.length_pos_iff.mpr (isDecimal_iff.mp hdigits).1
  have hrest : tokenWeight scale (cur ++ rest) ≤ _ := tokenWeight_le (cur ++ rest)
  rw [List.countP_append, List.length_append, Nat.mul_add] at hrest
  -- the value, with what goes on after it, is decimal or weighs in full
  have hvalue : (∀ c ∈ rest, c.isDigit = true) ∨
      tokenWeight scale (digits ++ rest) = scale * rest.countP heavy +
        (digits.length + rest.length) := by
    cases hlight : light (digits ++ rest) with
    | true => exact Or.inl (digits_of_light hdigits hlight)
    | false =>
      refine Or.inr ?_
      rw [tokenWeight_full hlight, List.countP_append, List.length_append,
        countP_heavy_eq_zero (isDecimal_iff.mp hdigits).2, Nat.zero_add]
  by_cases hcur : cur = []
  · subst hcur
    rcases hvalue with hall | hvalue
    · exact ⟨(tokenWeight_digits hall).trans_le (Nat.zero_le _), fun _ => ⟨rfl, hall⟩⟩
    · have hlt : tokenWeight scale ([] ++ rest) < tokenWeight scale (digits ++ rest) := by
        rw [hvalue]
        refine hrest.trans_lt ?_
        simp only [List.countP_nil, List.length_nil, Nat.mul_zero]
        omega
      exact ⟨hlt.le.trans (Nat.le_add_left _ _), fun heq => absurd heq (by omega)⟩
  · have hname' : tokenWeight scale (cur ++ name) =
        scale * cur.countP heavy + scale * 20 + (cur.length + name.length) := by
      have hnot : light (cur ++ name) = false :=
        Bool.eq_false_iff.mpr fun hlight => hcur (fresh_of_light_name hname hlight)
      rw [tokenWeight_full hnot, List.countP_append, countP_heavy_name hname,
        List.length_append, Nat.mul_add]
    have hlt : tokenWeight scale (cur ++ rest) <
        tokenWeight scale (cur ++ name) + tokenWeight scale (digits ++ rest) := by
      rw [hname']
      rcases hvalue with hall | hvalue
      · rw [countP_heavy_eq_zero hall] at hrest
        omega
      · omega
    exact ⟨hlt.le, fun heq => absurd heq hlt.ne⟩

/-- White space outside quotes parts what is around it, and takes no more than that away. -/
theorem load_run (scale : Nat) (cur : Text) (x : List (Option Char))
    (hrun : ∀ c ∈ run, isTrimmed c = true) (hne : run ≠ []) :
    tokenWeight scale cur + tokenLoad scale (words [] x) ≤
        tokenLoad scale (words cur (marksOf false run ++ x)) ∧
      (tokenWeight scale cur + tokenLoad scale (words [] x) =
          tokenLoad scale (words cur (marksOf false run ++ x)) → ∀ c ∈ run, c = ' ') := by
  induction run generalizing cur with
  | nil => exact absurd rfl hne
  | cons c run ih =>
    obtain ⟨hc, hrest⟩ := List.forall_mem_cons.mp hrun
    by_cases hspace : c = ' '
    · subst hspace
      have hload : tokenLoad scale (words cur (marksOf false (' ' :: run) ++ x)) =
          tokenWeight scale cur + tokenLoad scale (words [] (marksOf false run ++ x)) :=
        load_words_none cur (marksOf false run ++ x)
      rw [hload, List.forall_mem_cons]
      by_cases hempty : run = []
      · subst hempty
        exact ⟨le_rfl, fun _ => ⟨rfl, nofun⟩⟩
      · have hstep := ih [] hrest hempty
        have hzero : tokenWeight scale [] = 0 := tokenWeight_digits nofun
        rw [hzero, Nat.zero_add] at hstep
        exact ⟨Nat.add_le_add_left hstep.1 _, fun heq => ⟨rfl, hstep.2 (Nat.add_left_cancel heq)⟩⟩
    · have hquote : c ≠ '"' := by
        rintro rfl
        cases hc
      have hmarks : marksOf false (c :: run) = some c :: marksOf false run := by
        rw [marksOf, marks, if_neg hquote, if_neg (fun h => hspace h.1)]
      have hlight (w : Text) : light (cur ++ [c] ++ w) = false :=
        not_light_of_space
          (List.mem_append_left _ (List.mem_append_right _ (List.mem_singleton_self c))) hc
      have hgrow : tokenWeight scale cur < scale * (cur ++ [c]).countP heavy + (cur ++ [c]).length := by
        refine (tokenWeight_le cur).trans_lt ?_
        rw [List.countP_append, List.length_append, Nat.mul_add, List.length_singleton]
        omega
      have hlt : tokenWeight scale cur + tokenLoad scale (words [] x) <
          tokenLoad scale (words cur (marksOf false (c :: run) ++ x)) := by
        rw [hmarks, List.cons_append, words]
        refine lt_of_lt_of_le (Nat.add_lt_add_right hgrow _) ?_
        by_cases hempty : run = []
        · subst hempty
          exact le_load_words (hlight _)
        · have hfull := hlight []
          rw [List.append_nil] at hfull
          rw [← tokenWeight_full hfull]
          exact (ih (cur ++ [c]) hrest hempty).1
      exact ⟨hlt.le, fun heq => absurd heq hlt.ne⟩

/-- What the pattern matches. -/
inductive FlagText : Text → Prop where
  | joined {name digits : Text} (hname : name ∈ FLAG_NAMES) (hdigits : isDecimal digits = true) :
      FlagText (name ++ '=' :: digits)
  | spaced {name gap digits : Text} (hname : name ∈ FLAG_NAMES) (hne : gap ≠ [])
      (hgap : ∀ c ∈ gap, isTrimmed c = true) (hdigits : isDecimal digits = true) :
      FlagText (name ++ (gap ++ digits))

theorem FlagText.no_quote {m : Text} (h : FlagText m) : '"' ∉ m := by
  intro hquote
  cases h with
  | joined hname hdigits =>
    rcases List.mem_append.mp hquote with h | h
    · exact (name_chars hname h).2.2.1 rfl
    · rcases List.mem_cons.mp h with h | h
      · cases h
      · exact (decimal_chars hdigits h).2.1 rfl
  | spaced hname hne hgap hdigits =>
    rcases List.mem_append.mp hquote with h | h
    · exact (name_chars hname h).2.2.1 rfl
    · rcases List.mem_append.mp h with h | h
      · cases hgap _ h
      · exact (decimal_chars hdigits h).2.1 rfl

theorem marksOf_append (text : Text) :
    marksOf inside (run ++ text) = marksOf inside run ++ marksOf (insideAfter '"' inside run) text :=
  marks_append _ _ _ _ _

theorem marksOf_name (hname : name ∈ FLAG_NAMES) : marksOf inside name = name.map some :=
  marks_plain _ _ (fun h => (name_chars hname h).2.2.1 rfl)
    (Or.inr fun h => (name_chars hname h).2.2.2.1 rfl)

theorem marksOf_digits (hdigits : isDecimal digits = true) :
    marksOf inside digits = digits.map some :=
  marks_plain _ _ (fun h => (decimal_chars hdigits h).2.1 rfl)
    (Or.inr fun h => (decimal_chars hdigits h).2.2.1 rfl)

theorem marksOf_joined (hname : name ∈ FLAG_NAMES) (hdigits : isDecimal digits = true) :
    marksOf inside (name ++ '=' :: digits) = (name ++ '=' :: digits).map some := by
  refine marks_plain _ _ (FlagText.joined hname hdigits).no_quote (Or.inr fun h => ?_)
  rcases List.mem_append.mp h with h | h
  · exact (name_chars hname h).2.2.2.1 rfl
  · rcases List.mem_cons.mp h with h | h
    · cases h
    · exact (decimal_chars hdigits h).2.2.1 rfl

theorem marksOf_spaced (hname : name ∈ FLAG_NAMES) (hgap : ∀ c ∈ gap, isTrimmed c = true)
    (hdigits : isDecimal digits = true) :
    marksOf false (name ++ (gap ++ digits)) =
      name.map some ++ (marksOf false gap ++ digits.map some) := by
  have hname' : insideAfter '"' false name = false :=
    insideAfter_of_notMem _ (fun h => (name_chars hname h).2.2.1 rfl) false
  have hgap' : insideAfter '"' false gap = false :=
    insideAfter_of_notMem _ (fun h => (by cases hgap _ h)) false
  rw [marksOf_append, marksOf_append, hname', hgap', marksOf_name hname, marksOf_digits hdigits]

theorem isOption_joined (hname : name ∈ FLAG_NAMES) (hdigits : isDecimal digits = true) :
    isOption (words [] (marksOf inside (name ++ '=' :: digits))) = true := by
  obtain ⟨_, _, nameTail, rfl⟩ := flag_names name hname
  have hwords := words_some [] (('-' :: nameTail) ++ '=' :: digits) []
  rw [List.append_nil] at hwords
  rw [marksOf_joined hname hdigits, hwords]
  exact isJoined_iff.mpr ⟨_, hname, digits, rfl, hdigits⟩

theorem marksOf_gap (k : Nat) :
    marksOf false (List.replicate k ' ') = List.replicate k none := by
  induction k with
  | zero => rfl
  | succ k ih =>
    rw [List.replicate_succ, List.replicate_succ, ← ih]
    rfl

/-- Spaces outside quotes part words as one does. -/
theorem words_spaces (cur : Text) (x : List (Option Char)) (hrun : ∀ c ∈ run, c = ' ')
    (hne : run ≠ []) :
    words cur (marksOf false run ++ x) = flush cur ++ words [] x := by
  obtain ⟨k, hk⟩ := Nat.exists_eq_succ_of_ne_zero (mt List.length_eq_zero_iff.mp hne)
  rw [List.eq_replicate_of_mem hrun, hk, marksOf_gap, words_seps]

theorem isOption_spaced (hname : name ∈ FLAG_NAMES) (hne : gap ≠ []) (hgap : ∀ c ∈ gap, c = ' ')
    (hdigits : isDecimal digits = true) :
    isOption (words [] (name.map some ++ (marksOf false gap ++ digits.map some))) = true := by
  obtain ⟨_, _, nameTail, rfl⟩ := flag_names name hname
  obtain ⟨d, ds, rfl⟩ := List.exists_cons_of_ne_nil (isDecimal_iff.mp hdigits).1
  have hvalue := words_some [] (d :: ds) []
  rw [List.append_nil] at hvalue
  rw [words_some, words_spaces _ _ hgap hne, hvalue]
  exact Bool.and_eq_true_iff.mpr ⟨isFlag_iff.mpr hname, hdigits⟩

/-- A spaced match that is inside quotes is part of a heavy token. -/
theorem removed_inside_lt (scale : Nat) (cur : Text) (x : List (Option Char))
    (hname : name ∈ FLAG_NAMES) (hne : gap ≠ []) (hgap : ∀ c ∈ gap, isTrimmed c = true)
    (hdigits : isDecimal digits = true) :
    tokenLoad scale (words cur x) <
      tokenLoad scale (words cur (marksOf true (name ++ (gap ++ digits)) ++ x)) := by
  obtain ⟨c, hc⟩ := List.exists_mem_of_ne_nil gap hne
  have hplain : marksOf true (name ++ (gap ++ digits)) = (name ++ (gap ++ digits)).map some :=
    marks_plain _ _ (FlagText.spaced hname hne hgap hdigits).no_quote (Or.inl rfl)
  have hlight : light (cur ++ (name ++ (gap ++ digits)) ++ firstWord x) = false :=
    not_light_of_space (List.mem_append_left _ (List.mem_append_right _
      (List.mem_append_right _ (List.mem_append_left _ hc)))) (hgap c hc)
  have hlt : tokenWeight scale (cur ++ firstWord x) <
      tokenWeight scale (cur ++ (name ++ (gap ++ digits)) ++ firstWord x) := by
    refine (tokenWeight_le _).trans_lt ?_
    rw [tokenWeight_full hlight]
    simp only [List.countP_append, List.length_append, Nat.mul_add, (flag_names name hname).1]
    omega
  have hkept : tokenLoad scale (words cur x) = _ := load_words cur x
  have htaken : tokenLoad scale (words (cur ++ (name ++ (gap ++ digits))) x) = _ :=
    load_words (cur ++ (name ++ (gap ++ digits))) x
  rw [hplain, words_some, htaken, hkept]
  exact Nat.add_lt_add_right hlt _

/-- A removal takes no weight away only where it removes an option, of which some digits may
stay. -/
theorem removed_match_le (inside : Bool) {m : Text} (hm : FlagText m)
    (hscale : cur.length + rest.length < scale) :
    tokenLoad scale (words cur (marksOf inside rest)) ≤
        tokenLoad scale (words cur (marksOf inside (m ++ rest))) ∧
      (tokenLoad scale (words cur (marksOf inside rest)) =
          tokenLoad scale (words cur (marksOf inside (m ++ rest))) →
        cur = [] ∧ isOption (words [] (marksOf inside m)) = true ∧
          ∀ c ∈ firstWord (marksOf inside rest), c.isDigit = true) := by
  have hafter : insideAfter '"' inside m = inside := insideAfter_of_notMem _ hm.no_quote inside
  have hmarks : marksOf inside (m ++ rest) = marksOf inside m ++ marksOf inside rest := by
    rw [marksOf_append, hafter]
  have hlen : (firstWord (marksOf inside rest)).length ≤ rest.length :=
    (length_firstWord_le _).trans (length_marks_le _ _ _ _)
  rw [hmarks]
  generalize marksOf inside rest = x at hlen ⊢
  have hkept : tokenLoad scale (words cur x) = tokenWeight scale (cur ++ firstWord x) +
    tokenLoad scale (words [] (afterFirst x)) := load_words cur x
  cases hm with
  | @joined name digits hname hdigits =>
    have htaken : tokenLoad scale (words cur (marksOf inside (name ++ '=' :: digits) ++ x)) =
        tokenWeight scale (cur ++ (name ++ '=' :: (digits ++ firstWord x))) +
          tokenLoad scale (words [] (afterFirst x)) := by
      rw [marksOf_joined hname hdigits, words_some, tokenLoad, load_words, List.append_assoc,
        List.append_assoc, List.cons_append]
    have hstep := removed_joined_le scale cur digits (firstWord x) hname
    rw [hkept, htaken]
    refine ⟨Nat.add_le_add_right hstep.1 _, fun heq => ?_⟩
    obtain ⟨hcur, hdigit⟩ := hstep.2 (Nat.add_right_cancel heq)
    exact ⟨hcur, isOption_joined hname hdigits, hdigit⟩
  | @spaced name gap digits hname hne hgap hdigits =>
    cases inside with
    | true =>
      have hlt := removed_inside_lt scale cur x hname hne hgap hdigits
      exact ⟨hlt.le, fun heq => absurd heq hlt.ne⟩
    | false =>
      have hstep := removed_pair_le hname hdigits
        (show cur.length + (firstWord x).length < scale by omega)
      have hrun := load_run scale (cur ++ name) (digits.map some ++ x) hgap hne
      have hvalue : tokenLoad scale (words [] (digits.map some ++ x)) =
          tokenWeight scale (digits ++ firstWord x) +
            tokenLoad scale (words [] (afterFirst x)) := by
        rw [words_some, tokenLoad, load_words, List.nil_append]
      rw [marksOf_spaced hname hgap hdigits, List.append_assoc, words_some, List.append_assoc]
      rw [hvalue] at hrun
      rw [hkept]
      refine ⟨by omega, fun heq => ?_⟩
      obtain ⟨hcur, hdigit⟩ := hstep.2 (by omega)
      exact ⟨hcur, isOption_spaced hname hne (hrun.2 (by omega)) hdigits, hdigit⟩

end

/-! ## The pass over the text -/

theorem digitsEnd_eq_some {n k : Nat} {rest : Text} (h : digitsEnd n rest = some k) :
    ∃ digits after, rest = digits ++ after ∧ isDecimal digits = true ∧ k = n + digits.length := by
  have hall : ∀ c ∈ rest.takeWhile Char.isDigit, c.isDigit = true :=
    fun c hc => List.all_eq_true.mp List.all_takeWhile c hc
  rw [digitsEnd] at h
  cases htake : rest.takeWhile Char.isDigit with
  | nil =>
    rw [htake] at h
    cases h
  | cons d digits =>
    rw [htake] at h hall
    refine ⟨d :: digits, rest.dropWhile Char.isDigit, ?_,
      isDecimal_iff.mpr ⟨List.cons_ne_nil _ _, hall⟩, (Option.some.inj h).symm⟩
    rw [← htake]
    exact List.takeWhile_append_dropWhile.symm

/-- A value after white space. -/
theorem spacedEnd_eq_some {n k : Nat} {rest : Text}
    (h : (match rest.takeWhile isTrimmed with
      | [] => none
      | gap => digitsEnd (n + gap.length) (rest.drop gap.length)) = some k) :
    ∃ gap digits after, rest = gap ++ (digits ++ after) ∧ gap ≠ [] ∧
      (∀ c ∈ gap, isTrimmed c = true) ∧ isDecimal digits = true ∧
      k = n + gap.length + digits.length := by
  have hall : ∀ c ∈ rest.takeWhile isTrimmed, isTrimmed c = true :=
    fun c hc => List.all_eq_true.mp List.all_takeWhile c hc
  have hsplit : rest.takeWhile isTrimmed ++ rest.dropWhile isTrimmed = rest :=
    List.takeWhile_append_dropWhile
  cases htake : rest.takeWhile isTrimmed with
  | nil =>
    rw [htake] at h
    cases h
  | cons c gap =>
    rw [htake] at h hall hsplit
    obtain ⟨digits, after, hdrop, hdigits, hk⟩ := digitsEnd_eq_some h
    refine ⟨c :: gap, digits, after, ?_, List.cons_ne_nil _ _, hall, hdigits, hk⟩
    rw [← hdrop]
    exact hsplit ▸ (by rw [List.drop_left])

theorem matchLength_eq_some {text : Text} {n : Nat} (h : matchLength text = some n) :
    ∃ m rest, text = m ++ rest ∧ m.length = n ∧ FlagText m := by
  rw [matchLength] at h
  cases hfind : FLAG_NAMES.find? fun name => name.isPrefixOf text with
  | none =>
    rw [hfind] at h
    cases h
  | some name =>
    rw [hfind] at h
    have hname := List.mem_of_find?_eq_some hfind
    have hprefix := List.find?_some hfind
    obtain ⟨tail, rfl⟩ := List.isPrefixOf_iff_prefix.mp hprefix
    simp only [List.drop_left] at h
    split at h
    · obtain ⟨digits, after, rfl, hdigits, rfl⟩ := digitsEnd_eq_some h
      exact ⟨name ++ '=' :: digits, after, by simp, by simp; omega, .joined hname hdigits⟩
    · obtain ⟨gap, digits, after, rfl, hne, hgap, hdigits, rfl⟩ := spacedEnd_eq_some h
      exact ⟨name ++ (gap ++ digits), after, by simp, by simp; omega,
        .spaced hname hne hgap hdigits⟩

theorem removeFrom_eq (skip : Nat) (text : Text) :
    removeFrom skip text = removeFlags (text.drop skip) := by
  induction skip generalizing text with
  | zero => rfl
  | succ skip ih =>
    cases text with
    | nil => rfl
    | cons c rest => exact ih rest

theorem matchesFrom_eq (inside fresh : Bool) (skip : Nat) (text : Text) :
    matchesFrom inside fresh skip text = matchesFrom inside fresh 0 (text.drop skip) := by
  induction skip generalizing text with
  | zero => rfl
  | succ skip ih =>
    cases text with
    | nil => rfl
    | cons c rest => exact ih rest

theorem removeFlags_keep {c : Char} {rest : Text} (h : matchLength (c :: rest) = none) :
    removeFlags (c :: rest) = c :: removeFlags rest := by
  rw [removeFlags, removeFrom, h]
  rfl

theorem FlagText.ne_nil {m : Text} (h : FlagText m) : ∃ c rest, m = c :: rest := by
  cases h with
  | joined hname _ =>
    obtain ⟨_, _, rest, rfl⟩ := flag_names _ hname
    exact ⟨_, _, rfl⟩
  | spaced hname _ _ _ =>
    obtain ⟨_, _, rest, rfl⟩ := flag_names _ hname
    exact ⟨_, _, rfl⟩

theorem removeFlags_match {m rest : Text} (hm : FlagText m)
    (h : matchLength (m ++ rest) = some m.length) : removeFlags (m ++ rest) = removeFlags rest := by
  obtain ⟨c, m, rfl⟩ := hm.ne_nil
  rw [List.cons_append] at h ⊢
  rw [removeFlags, removeFrom, h]
  dsimp only
  rw [removeFrom_eq, List.length_cons, Nat.add_sub_cancel, List.drop_left]

theorem matchesFrom_match {m rest : Text} {inside fresh : Bool} (hm : FlagText m)
    (h : matchLength (m ++ rest) = some m.length) :
    matchesFrom inside fresh 0 (m ++ rest) =
      ⟨inside, fresh, m, rest⟩ :: matchesFrom inside fresh 0 rest := by
  obtain ⟨c, m, rfl⟩ := hm.ne_nil
  rw [List.cons_append] at h ⊢
  rw [matchesFrom, h]
  dsimp only
  rw [matchesFrom_eq, List.length_cons, Nat.add_sub_cancel, List.drop_left, ← List.cons_append]
  simp

/-- A text is read match by match, and character by character between them. -/
theorem scan_induct {motive : Text → Prop} (nil : motive [])
    (keep : ∀ c rest, matchLength (c :: rest) = none → motive rest → motive (c :: rest))
    (hit : ∀ m rest, FlagText m → matchLength (m ++ rest) = some m.length → motive rest →
      motive (m ++ rest)) (text : Text) : motive text := by
  induction hlen : text.length using Nat.strong_induction_on generalizing text with
  | _ n ih =>
    cases text with
    | nil => exact nil
    | cons c rest =>
      cases hmatch : matchLength (c :: rest) with
      | none => exact keep c rest hmatch (ih rest.length (by rw [← hlen]; simp) rest rfl)
      | some k =>
        obtain ⟨m, after, heq, rfl, hm⟩ := matchLength_eq_some hmatch
        rw [heq] at hmatch ⊢
        refine hit m after hm hmatch (ih after.length ?_ after rfl)
        obtain ⟨d, m, rfl⟩ := hm.ne_nil
        rw [← hlen, heq, List.length_append, List.length_cons]
        omega

section

variable {cur rest : Text} {inside fresh : Bool} {c : Char}

theorem words_quote : words cur (marksOf inside ('"' :: rest)) = words cur (marksOf (!inside) rest) :=
  rfl

theorem words_space :
    words cur (marksOf false (' ' :: rest)) = flush cur ++ words [] (marksOf false rest) := rfl

theorem words_char (hquote : c ≠ '"') (hspace : ¬(c = ' ' ∧ inside = false)) :
    words cur (marksOf inside (c :: rest)) = words (cur ++ [c]) (marksOf inside rest) := by
  rw [marksOf, marks, if_neg hquote, if_neg hspace, words]

theorem matchesFrom_quote (h : matchLength ('"' :: rest) = none) :
    matchesFrom inside fresh 0 ('"' :: rest) = matchesFrom (!inside) fresh 0 rest := by
  rw [matchesFrom, h]
  rfl

theorem matchesFrom_space (h : matchLength (' ' :: rest) = none) :
    matchesFrom false fresh 0 (' ' :: rest) = matchesFrom false true 0 rest := by
  rw [matchesFrom, h]
  rfl

theorem matchesFrom_char (cur : Text) (h : matchLength (c :: rest) = none) (hquote : c ≠ '"')
    (hspace : ¬(c = ' ' ∧ inside = false)) :
    matchesFrom inside fresh 0 (c :: rest) = matchesFrom inside (cur ++ [c]).isEmpty 0 rest := by
  have hfresh : (c == ' ' && !inside) = false := by
    rw [Bool.and_eq_false_iff, beq_eq_false_iff_ne]
    by_cases hc : c = ' '
    · cases inside with
      | true => exact Or.inr rfl
      | false => exact absurd ⟨hc, rfl⟩ hspace
    · exact Or.inl hc
  have hempty : (cur ++ [c]).isEmpty = false := by simp
  rw [matchesFrom, h]
  dsimp only
  rw [if_neg hquote, hfresh, hempty]

end

/-- The match is in an option, of which some digits may go on after it. -/
def FlagMatch.InOption (found : FlagMatch) : Prop :=
  found.fresh = true ∧ isOption (words [] (marksOf found.inside found.text)) = true ∧
    ∀ c ∈ found.continued, c.isDigit = true

/-- Removing the matches adds no weight, and takes some away unless each is in an option. -/
theorem removeFlags_load (scale : Nat) (text : Text) : ∀ (inside : Bool) (cur : Text),
    cur.length + text.length < scale →
    tokenLoad scale (words cur (marksOf inside (removeFlags text))) ≤
        tokenLoad scale (words cur (marksOf inside text)) ∧
      (tokenLoad scale (words cur (marksOf inside (removeFlags text))) =
          tokenLoad scale (words cur (marksOf inside text)) →
        ∀ found ∈ matchesFrom inside cur.isEmpty 0 text, found.InOption) := by
  induction text using scan_induct with
  | nil => exact fun inside cur _ => ⟨le_rfl, fun _ => nofun⟩
  | keep c rest hnone ih =>
    intro inside cur hscale
    rw [List.length_cons] at hscale
    rw [removeFlags_keep hnone]
    by_cases hquote : c = '"'
    · subst hquote
      rw [words_quote, words_quote, matchesFrom_quote hnone]
      exact ih _ cur (by omega)
    · by_cases hspace : c = ' ' ∧ inside = false
      · obtain ⟨rfl, rfl⟩ := hspace
        have hrest := ih false [] (by rw [List.length_nil]; omega)
        rw [words_space, words_space, matchesFrom_space hnone, tokenLoad_append, tokenLoad_append]
        exact ⟨Nat.add_le_add_left hrest.1 _, fun heq => hrest.2 (Nat.add_left_cancel heq)⟩
      · rw [words_char hquote hspace, words_char hquote hspace,
          matchesFrom_char cur hnone hquote hspace]
        exact ih inside (cur ++ [c]) (by rw [List.length_append, List.length_singleton]; omega)
  | hit m rest hm hmatch ih =>
    intro inside cur hscale
    rw [List.length_append] at hscale
    have hstep := removed_match_le inside hm (show cur.length + rest.length < scale by omega)
    have hrest := ih inside cur (by omega)
    rw [removeFlags_match hm hmatch, matchesFrom_match hm hmatch, List.forall_mem_cons]
    refine ⟨hrest.1.trans hstep.1, fun heq => ?_⟩
    obtain ⟨hcur, hoption, hdigits⟩ := hstep.2 (le_antisymm hstep.1 (heq ▸ hrest.1))
    refine ⟨⟨by rw [hcur]; rfl, hoption, hdigits⟩, hrest.2 ?_⟩
    exact le_antisymm hrest.1 (hstep.1.trans heq.ge)

end ClusterKit.NodeOptions
