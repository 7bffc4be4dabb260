import Mathlib.Data.Finmap

/-! Maps that are filled in order, so that the last value given to a key stands. -/

universe u v w

namespace LastWins

variable {ι : Type u} {κ : Type v} {β : Type w} [DecidableEq κ] (key : ι → κ)

/-- The map of the values that the elements give to their keys. -/
def fill (value : ι → β) (l : List ι) : Finmap fun _ : κ => β :=
  l.foldl (fun m e => m.insert (key e) (value e)) ∅

/-- The last element with this key. -/
def last? (l : List ι) (k : κ) : Option ι := l.reverse.find? fun e => key e == k

theorem fill_concat (value : ι → β) (l : List ι) (e : ι) :
    fill key value (l ++ [e]) = (fill key value l).insert (key e) (value e) := by
  rw [fill, List.foldl_append]
  rfl

theorem last?_concat (l : List ι) (e : ι) (k : κ) :
    last? key (l ++ [e]) k = if key e = k then some e else last? key l k := by
  rw [last?, List.reverse_append, List.reverse_singleton, List.singleton_append]
  by_cases h : key e = k
  · rw [List.find?_cons_of_pos (by simpa using h), if_pos h]
  · rw [List.find?_cons_of_neg (by simpa using h), if_neg h]
    rfl

theorem lookup_fill (value : ι → β) (l : List ι) (k : κ) :
    (fill key value l).lookup k = (last? key l k).map value := by
  induction l using List.reverseRecOn with
  | nil => rfl
  | append_singleton l e ih =>
    rw [fill_concat, last?_concat]
    by_cases h : key e = k
    · subst h
      rw [Finmap.lookup_insert, if_pos rfl]
      rfl
    · rw [Finmap.lookup_insert_of_ne _ (Ne.symm h), if_neg h, ih]

/-- Two maps filled from one list are the same when the values that stand are. -/
theorem fill_eq_iff (value value' : ι → β) (l : List ι) :
    fill key value l = fill key value' l ↔ ∀ k, ∀ e ∈ last? key l k, value e = value' e := by
  constructor
  · intro h k e he
    have hlookup := congrArg (Finmap.lookup k) h
    rw [lookup_fill, lookup_fill, he] at hlookup
    exact Option.some.inj hlookup
  · intro h
    refine Finmap.ext_lookup fun k => ?_
    rw [lookup_fill, lookup_fill]
    cases hlast : last? key l k with
    | none => rfl
    | some e => exact congrArg some (h k e hlast)

end LastWins
