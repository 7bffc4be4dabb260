import Mathlib.Data.Int.ConditionallyCompleteOrder
import Mathlib.Data.Int.SuccPred
import Mathlib.Order.Interval.Set.Defs

/-! A search that steps down from the top of a range of integers and stops at the first
candidate that a test accepts, or at the bottom. -/

namespace Descent

/-- Steps down from `lo + above`. -/
def search (test : Int → Bool) (lo : Int) : Nat → Int
  | 0 => lo
  | above + 1 => if test (lo + (above + 1 : Nat)) then lo + (above + 1 : Nat) else search test lo above

variable (test : Int → Bool) (good : Int → Prop) (lo : Int) (above : Nat) {n : Int}

/-! ## What the search returns -/

theorem lo_le_search : lo ≤ search test lo above := by
  induction above with
  | zero => exact le_rfl
  | succ above ih =>
    rw [search]
    split
    · exact Int.le_add_of_nonneg_right (Int.natCast_nonneg _)
    · exact ih

theorem search_le : search test lo above ≤ lo + above := by
  induction above with
  | zero => exact le_of_eq (Int.add_zero lo).symm
  | succ above ih =>
    rw [search]
    split
    · exact le_rfl
    · exact ih.trans (by omega)

variable {test lo above}

/-- Above the bottom it stops only where the test accepts. -/
theorem test_search (h : lo < search test lo above) : test (search test lo above) = true := by
  induction above with
  | zero => exact absurd h (lt_irrefl lo)
  | succ above ih =>
    rw [search] at h ⊢
    split
    · assumption
    · rename_i hstop
      rw [if_neg hstop] at h
      exact ih h

/-- Every accepted candidate above the bottom is at or below the one returned. -/
theorem le_search (hlo : lo < n) (hn : n ≤ lo + above) (htest : test n = true) :
    n ≤ search test lo above := by
  induction above with
  | zero => exact absurd hn (by simpa using hlo)
  | succ above ih =>
    rw [search]
    split
    · exact hn
    · rename_i hstop
      refine ih ?_
      rcases eq_or_lt_of_le hn with rfl | hlt
      · exact absurd htest hstop
      · rw [Int.natCast_succ] at hlt
        omega

/-! ## What it is meant to return -/

/-- The largest good candidate in the range, and the bottom if there is none. -/
def Chosen (good : Int → Prop) (lo hi n : Int) : Prop :=
  IsGreatest {m | m ∈ Set.Icc lo hi ∧ good m} n ∨ (n = lo ∧ ∀ m ∈ Set.Icc lo hi, ¬good m)

variable {good} in
/-- Only the bottom may be chosen without being good. -/
theorem Chosen.good_of_lt {hi : Int} (h : Chosen good lo hi n) (hn : lo < n) : good n := by
  rcases h with hgreatest | ⟨rfl, _⟩
  · exact hgreatest.1.2
  · exact absurd hn (lt_irrefl _)

variable (test lo above)

/-- Goodness is inherited by the smaller candidates, and the test accepts every good one: the
search chooses well exactly where the test accepts only good ones. -/
theorem chosen_search_iff (haccepts : ∀ m, good m → test m = true)
    (hdown : ∀ m m', lo < m → m ≤ m' → good m' → good m) :
    Chosen good lo (lo + above) (search test lo above) ↔
      ∀ m, lo < m → m ≤ lo + above → test m = true → good m := by
  constructor
  · intro hchosen m hlo hm htest
    have hle := le_search hlo hm htest
    exact hdown m _ hlo hle (hchosen.good_of_lt (hlo.trans_le hle))
  · intro hgood
    by_cases hex : ∃ m ∈ Set.Icc lo (lo + above), good m
    · obtain ⟨m, ⟨hlom, hm⟩, hgm⟩ := hex
      refine Or.inl ⟨⟨⟨lo_le_search test lo above, search_le test lo above⟩, ?_⟩, ?_⟩
      · rcases eq_or_lt_of_le (lo_le_search test lo above) with
          heq | hlt
        · rw [← heq]
          rcases eq_or_lt_of_le hlom with rfl | hlom
          · exact hgm
          · exact absurd (le_search hlom hm (haccepts m hgm)) (by rw [← heq]; exact not_le.mpr hlom)
        · exact hgood _ hlt (search_le test lo above) (test_search hlt)
      · rintro k ⟨⟨hlok, hk⟩, hgk⟩
        rcases eq_or_lt_of_le hlok with rfl | hlok
        · exact lo_le_search test _ above
        · exact le_search hlok hk (haccepts k hgk)
    · push Not at hex
      refine Or.inr ⟨?_, hex⟩
      rcases eq_or_lt_of_le (lo_le_search test lo above) with
        heq | hlt
      · exact heq.symm
      · have hle := search_le test lo above
        exact absurd (hgood _ hlt hle (test_search hlt)) (hex _ ⟨hlt.le, hle⟩)

end Descent
