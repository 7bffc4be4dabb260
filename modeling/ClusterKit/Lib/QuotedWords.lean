import Mathlib.Algebra.BigOperators.Group.List.Basic
import Mathlib.Algebra.Order.BigOperators.Group.List
import Mathlib.Tactic.Ring

/-! Texts whose words are parted by a separator, save inside quotes, and a weight of words
under which nothing is gained by deleting characters. -/

universe u

namespace QuotedWords

variable {α : Type u}

/-! ## Words -/

/-- What each character says, inside quotes or outside: `none` parts words, `some c` belongs
to one. A quote says nothing itself. -/
def marks [DecidableEq α] (quote sep : α) (inside : Bool) : List α → List (Option α)
  | [] => []
  | c :: rest =>
    if c = quote then marks quote sep (!inside) rest
    else (if c = sep ∧ inside = false then none else some c) :: marks quote sep inside rest

/-- Whether the end of a text is inside quotes. -/
def insideAfter [DecidableEq α] (quote : α) (inside : Bool) : List α → Bool
  | [] => inside
  | c :: rest => insideAfter quote (if c = quote then !inside else inside) rest

/-- A word that has begun. -/
def flush : List α → List (List α)
  | [] => []
  | c :: word => [c :: word]

/-- The words, of which `word` has been read already. -/
def words (word : List α) : List (Option α) → List (List α)
  | [] => flush word
  | none :: rest => flush word ++ words [] rest
  | some c :: rest => words (word ++ [c]) rest

/-- What continues the word under way. -/
def firstWord : List (Option α) → List α
  | [] => []
  | none :: _ => []
  | some c :: rest => c :: firstWord rest

/-- What follows it, from the separator on. -/
def afterFirst : List (Option α) → List (Option α)
  | [] => []
  | none :: rest => none :: rest
  | some _ :: rest => afterFirst rest

section

variable [DecidableEq α] (quote sep : α)

theorem marks_append (inside : Bool) (x y : List α) :
    marks quote sep inside (x ++ y) =
      marks quote sep inside x ++ marks quote sep (insideAfter quote inside x) y := by
  induction x generalizing inside with
  | nil => rfl
  | cons c x ih =>
    rw [List.cons_append, marks, marks, insideAfter]
    split
    · exact ih _
    · rw [ih, List.cons_append]

theorem insideAfter_append (inside : Bool) (x y : List α) :
    insideAfter quote inside (x ++ y) = insideAfter quote (insideAfter quote inside x) y := by
  induction x generalizing inside with
  | nil => rfl
  | cons c x ih => exact ih _

theorem insideAfter_not (inside : Bool) (x : List α) :
    insideAfter quote (!inside) x = !insideAfter quote inside x := by
  induction x generalizing inside with
  | nil => rfl
  | cons c x ih =>
    rw [insideAfter, insideAfter]
    split
    · exact ih _
    · exact ih _

theorem insideAfter_of_notMem {x : List α} (h : quote ∉ x) (inside : Bool) :
    insideAfter quote inside x = inside := by
  induction x with
  | nil => rfl
  | cons c x ih =>
    rw [List.mem_cons, not_or] at h
    rw [insideAfter, if_neg (Ne.symm h.1)]
    exact ih h.2

/-- Text without a quote or an unquoted separator belongs to one word. -/
theorem marks_plain {x : List α} {inside : Bool} (hquote : quote ∉ x)
    (hsep : inside = true ∨ sep ∉ x) : marks quote sep inside x = x.map some := by
  induction x with
  | nil => rfl
  | cons c x ih =>
    rw [List.mem_cons, not_or] at hquote
    have hc : ¬(c = sep ∧ inside = false) := by
      rintro ⟨rfl, rfl⟩
      rcases hsep with h | h
      · cases h
      · exact h List.mem_cons_self
    rw [marks, if_neg (Ne.symm hquote.1), if_neg hc, List.map_cons,
      ih hquote.2 (hsep.imp_right fun h hx => h (List.mem_cons_of_mem _ hx))]

theorem length_marks_le (inside : Bool) (x : List α) :
    (marks quote sep inside x).length ≤ x.length := by
  induction x generalizing inside with
  | nil => exact le_rfl
  | cons c x ih =>
    rw [marks]
    split
    · exact (ih _).trans (Nat.le_succ _)
    · exact Nat.succ_le_succ (ih _)

end

theorem words_some (word w : List α) (x : List (Option α)) :
    words word (w.map some ++ x) = words (word ++ w) x := by
  induction w generalizing word with
  | nil => rw [List.map_nil, List.nil_append, List.append_nil]
  | cons c w ih =>
    rw [List.map_cons, List.cons_append, words, ih, List.append_assoc, List.singleton_append]

/-- Further separators part no further words. -/
theorem words_seps (word : List α) (k : Nat) (x : List (Option α)) :
    words word (List.replicate (k + 1) none ++ x) = flush word ++ words [] x := by
  induction k generalizing word with
  | zero => rfl
  | succ k ih =>
    rw [List.replicate_succ, List.cons_append, words, ih]
    rfl

theorem words_eq_first (word : List α) (x : List (Option α)) :
    words word x = flush (word ++ firstWord x) ++ words [] (afterFirst x) := by
  induction x generalizing word with
  | nil => rw [words, firstWord, afterFirst, words, List.append_nil, flush, List.append_nil]
  | cons mark x ih =>
    cases mark with
    | none => rw [words, firstWord, afterFirst, words, List.append_nil, flush, List.nil_append]
    | some c => rw [words, ih, firstWord, afterFirst, List.append_assoc, List.singleton_append]

/-- Reading a text leaves some words behind and one under way. -/
theorem exists_words_append (word : List α) (x : List (Option α)) :
    ∃ read under, ∀ y, words word (x ++ y) = read ++ words under y := by
  induction x generalizing word with
  | nil => exact ⟨[], word, fun y => rfl⟩
  | cons mark x ih =>
    cases mark with
    | none =>
      obtain ⟨read, under, h⟩ := ih []
      exact ⟨flush word ++ read, under, fun y => by
        rw [List.cons_append, words, h, List.append_assoc]⟩
    | some c => exact ih (word ++ [c])

theorem words_append_none (word : List α) (x y : List (Option α)) :
    words word (x ++ none :: y) = words word x ++ words [] y := by
  obtain ⟨read, under, h⟩ := exists_words_append word x
  have hx := h []
  rw [List.append_nil] at hx
  rw [h, hx, words, words, List.append_assoc]

theorem length_firstWord_le (x : List (Option α)) : (firstWord x).length ≤ x.length := by
  induction x with
  | nil => exact le_rfl
  | cons mark x ih =>
    cases mark with
    | none => exact Nat.zero_le _
    | some c => exact Nat.succ_le_succ ih

/-! ## Weights -/

section

variable (light : List α → Bool) (heavy : α → Bool) (scale : Nat)

/-- A word that is not light weighs `scale` for each heavy character and one for each. -/
def weight (w : List α) : Nat := if light w then 0 else scale * w.countP heavy + w.length

def load (ws : List (List α)) : Nat := (ws.map (weight light heavy scale)).sum

theorem weight_le (w : List α) : weight light heavy scale w ≤ scale * w.countP heavy + w.length := by
  rw [weight]
  split
  · exact Nat.zero_le _
  · exact le_rfl

variable {light heavy scale}

theorem weight_of_not_light {w : List α} (h : light w = false) :
    weight light heavy scale w = scale * w.countP heavy + w.length := by
  rw [weight, h]
  rfl

theorem weight_of_light {w : List α} (h : light w = true) : weight light heavy scale w = 0 := by
  rw [weight, h]
  rfl

theorem load_append (v w : List (List α)) :
    load light heavy scale (v ++ w) = load light heavy scale v + load light heavy scale w := by
  rw [load, List.map_append, List.sum_append]
  rfl

theorem load_flush (w : List α) : load light heavy scale (flush w) = weight light heavy scale w := by
  cases w with
  | nil => simp [flush, load, weight]
  | cons c w => simp [flush, load]

theorem load_words_none (word : List α) (x : List (Option α)) :
    load light heavy scale (words word (none :: x)) =
      weight light heavy scale word + load light heavy scale (words [] x) := by
  rw [words, load_append, load_flush]

theorem load_words (word : List α) (x : List (Option α)) :
    load light heavy scale (words word x) =
      weight light heavy scale (word ++ firstWord x) +
        load light heavy scale (words [] (afterFirst x)) := by
  rw [words_eq_first, load_append, load_flush]

/-- A word that cannot turn out light weighs in full, whatever continues it. -/
theorem le_load_words {word : List α} {x : List (Option α)} (h : light (word ++ firstWord x) = false) :
    scale * word.countP heavy + word.length + load light heavy scale (words [] x) ≤
      load light heavy scale (words word x) := by
  rw [load_words word, load_words [], weight_of_not_light h, List.countP_append,
    List.length_append, Nat.mul_add, List.nil_append]
  have := weight_le light heavy scale (firstWord x)
  omega

variable (light heavy scale) in
/-- The words `new` weigh no more than `old`; as much only given `p`, and given `p` they are
the same. -/
structure Lightens (new old : List (List α)) (p : Prop) : Prop where
  le : load light heavy scale new ≤ load light heavy scale old
  of_eq : load light heavy scale new = load light heavy scale old → p
  same : p → new = old

namespace Lightens

variable {u v w : List (List α)} {p q : Prop}

theorem refl (ws : List (List α)) (hp : p) : Lightens light heavy scale ws ws p :=
  ⟨le_rfl, fun _ => hp, fun _ => rfl⟩

theorem of_lt (h : load light heavy scale u < load light heavy scale v) (hp : ¬p) :
    Lightens light heavy scale u v p :=
  ⟨h.le, fun heq => absurd heq h.ne, fun h => absurd h hp⟩

theorem congr (h : Lightens light heavy scale u v p) (hpq : p ↔ q) :
    Lightens light heavy scale u v q :=
  ⟨h.le, fun heq => hpq.mp (h.of_eq heq), fun hq => h.same (hpq.mpr hq)⟩

theorem trans (h : Lightens light heavy scale u v p) (h' : Lightens light heavy scale v w q) :
    Lightens light heavy scale u w (p ∧ q) where
  le := h.le.trans h'.le
  of_eq heq := ⟨h.of_eq (le_antisymm h.le (h'.le.trans heq.ge)),
    h'.of_eq (le_antisymm h'.le (heq ▸ h.le))⟩
  same hpq := (h.same hpq.1).trans (h'.same hpq.2)

/-- What has been read before does not matter. -/
theorem append_left (read : List (List α)) (h : Lightens light heavy scale u v p) :
    Lightens light heavy scale (read ++ u) (read ++ v) p where
  le := by
    rw [load_append, load_append]
    exact Nat.add_le_add_left h.le _
  of_eq heq := by
    rw [load_append, load_append] at heq
    exact h.of_eq (Nat.add_left_cancel heq)
  same hp := congrArg _ (h.same hp)

end Lightens

end

end QuotedWords
