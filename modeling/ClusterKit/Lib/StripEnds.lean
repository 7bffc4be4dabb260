import Mathlib.Data.List.DropRight

/-! A list without the elements of a kind that it starts and ends with. -/

universe u

namespace StripEnds

variable {α : Type u} {p : α → Bool} {l m lead trail : List α}

def strip (p : α → Bool) (l : List α) : List α := ((l.dropWhile p).reverse.dropWhile p).reverse

/-- Neither end is of the kind. -/
def Bare (p : α → Bool) (m : List α) : Prop :=
  (∀ c ∈ m.head?, p c = false) ∧ ∀ c ∈ m.getLast?, p c = false

theorem dropWhile_of_head (h : ∀ c ∈ m.head?, p c = false) : m.dropWhile p = m := by
  cases m with
  | nil => rfl
  | cons c m => rw [List.dropWhile_cons_of_neg (by rw [h c rfl]; decide)]

theorem head?_dropWhile_false (l : List α) : ∀ c ∈ (l.dropWhile p).head?, p c = false := by
  intro c hc
  have h := List.head?_dropWhile_not p l
  rw [hc] at h
  exact Bool.eq_false_iff.mpr (by simpa using h)

/-- What is stripped is given back. -/
theorem exists_strip (p : α → Bool) (l : List α) : ∃ lead trail, l = lead ++ (strip p l ++ trail) ∧
    (∀ c ∈ lead, p c = true) ∧ ∀ c ∈ trail, p c = true := by
  refine ⟨l.takeWhile p, ((l.dropWhile p).reverse.takeWhile p).reverse, ?_, ?_, ?_⟩
  · rw [strip, ← List.reverse_append, List.takeWhile_append_dropWhile, List.reverse_reverse,
      List.takeWhile_append_dropWhile]
  · exact fun c hc => List.all_eq_true.mp List.all_takeWhile c hc
  · exact fun c hc => List.all_eq_true.mp List.all_takeWhile c (List.mem_reverse.mp hc)

/-- What is given back is found. -/
theorem strip_bare (hm : Bare p m) (hlead : ∀ c ∈ lead, p c = true)
    (htrail : ∀ c ∈ trail, p c = true) : strip p (lead ++ (m ++ trail)) = m := by
  rw [strip, List.dropWhile_append_of_pos hlead]
  cases m with
  | nil => rw [List.nil_append, List.dropWhile_eq_nil_iff.mpr htrail]; rfl
  | cons c m =>
    have hhead : ∀ d ∈ (c :: m ++ trail).head?, p d = false := hm.1
    have hlast : ∀ d ∈ (c :: m).reverse.head?, p d = false := by
      rw [List.head?_reverse]
      exact hm.2
    rw [dropWhile_of_head hhead, List.reverse_append,
      List.dropWhile_append_of_pos (fun d hd => htrail d (List.mem_reverse.mp hd)),
      dropWhile_of_head hlast, List.reverse_reverse]

theorem bare_strip (p : α → Bool) (l : List α) : Bare p (strip p l) := by
  have hsplit : strip p l ++ ((l.dropWhile p).reverse.takeWhile p).reverse = l.dropWhile p := by
    rw [strip, ← List.reverse_append, List.takeWhile_append_dropWhile, List.reverse_reverse]
  constructor
  · intro c hc
    refine head?_dropWhile_false l c ?_
    rw [← hsplit, List.head?_append, hc]
    rfl
  · intro c hc
    rw [strip, List.getLast?_reverse] at hc
    exact head?_dropWhile_false _ c hc

theorem strip_all (h : ∀ c ∈ l, p c = true) : strip p l = [] := by
  rw [strip, List.dropWhile_eq_nil_iff.mpr h]
  rfl

/-- What stands before and after a bare list that is not empty. -/
theorem takeWhile_lead (hm : Bare p m) (hne : m ≠ []) (hlead : ∀ c ∈ lead, p c = true) :
    (lead ++ (m ++ trail)).takeWhile p = lead := by
  obtain ⟨c, m, rfl⟩ := List.exists_cons_of_ne_nil hne
  rw [List.takeWhile_append_of_pos hlead, List.cons_append,
    List.takeWhile_cons_of_neg (by rw [hm.1 c rfl]; decide), List.append_nil]

theorem takeWhile_trail (hm : Bare p m) (hne : m ≠ []) (htrail : ∀ c ∈ trail, p c = true) :
    (lead ++ (m ++ trail)).reverse.takeWhile p = trail.reverse := by
  have hm' : Bare p m.reverse := by
    rw [Bare, List.head?_reverse, List.getLast?_reverse]
    exact ⟨hm.2, hm.1⟩
  rw [List.reverse_append, List.reverse_append, List.append_assoc]
  exact takeWhile_lead hm' (by simpa using hne) fun c hc => htrail c (List.mem_reverse.mp hc)

theorem strip_of_bare (hm : Bare p m) : strip p m = m := by
  have h : strip p ([] ++ (m ++ [])) = m := strip_bare hm nofun nofun
  rwa [List.nil_append, List.append_nil] at h

end StripEnds
