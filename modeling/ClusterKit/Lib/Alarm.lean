import Mathlib.Data.List.Basic
import Mathlib.Order.Basic

/-! One-shot alarms on a stream of readings. One reading past a hard limit raises
the alarm, and so does a row of consecutive high readings. A program keeps a
counter and a flag; here they are shown to say what the whole history says.
Histories are newest first. -/

universe u

structure AlarmPolicy (α : Type u) where
  spike : α → Bool
  high : α → Bool
  /-- How many high readings in a row raise the alarm. -/
  row : Nat

namespace AlarmPolicy

variable {α : Type u} (P : AlarmPolicy α)

/-- The alarm is due at the reading `a`, after the readings `past`. -/
def Due (past : List α) (a : α) : Prop :=
  P.spike a = true ∨
    (P.row - 1 ≤ past.length ∧ ∀ b ∈ a :: past.take (P.row - 1), P.high b = true)

/-- It was due at one of the readings. -/
def Raised : List α → Prop
  | [] => False
  | a :: past => Raised past ∨ P.Due past a

/-- The reading `a` is the first at which it is due. -/
def Fires (past : List α) (a : α) : Prop := ¬ P.Raised past ∧ P.Due past a

/-- How many of the newest readings are high. -/
def streak (past : List α) : Nat := (past.takeWhile P.high).length

theorem streak_cons_high {a : α} (h : P.high a = true) (past : List α) :
    P.streak (a :: past) = P.streak past + 1 := by
  simp [streak, h]

theorem streak_cons_low {a : α} (h : P.high a = false) (past : List α) :
    P.streak (a :: past) = 0 := by
  simp [streak, h]

theorem le_streak_iff (n : Nat) (past : List α) :
    n ≤ P.streak past ↔ n ≤ past.length ∧ ∀ b ∈ past.take n, P.high b = true := by
  induction past generalizing n with
  | nil =>
    simp only [streak, List.takeWhile_nil, List.length_nil, List.take_nil]
    exact ⟨fun h => ⟨h, fun b hb => absurd hb List.not_mem_nil⟩, fun h => h.1⟩
  | cons a past ih =>
    cases n with
    | zero => simp
    | succ n =>
      cases ha : P.high a with
      | true =>
        rw [P.streak_cons_high ha, Nat.add_le_add_iff_right, ih n, List.length_cons,
          Nat.add_le_add_iff_right, List.take_succ_cons, List.forall_mem_cons]
        simp [ha]
      | false =>
        rw [P.streak_cons_low ha, List.take_succ_cons, List.forall_mem_cons]
        simp [ha]

/-- The row of readings that `Due` looks at is what the streak counts. -/
theorem due_iff_streak (past : List α) (a : α) :
    P.Due past a ↔
      P.spike a = true ∨ (P.high a = true ∧ P.row ≤ P.streak past + 1) := by
  have hrow : P.row ≤ P.streak past + 1 ↔ P.row - 1 ≤ P.streak past := by omega
  rw [Due, List.forall_mem_cons, hrow, le_streak_iff]
  constructor
  · rintro (h | ⟨hl, ha, hb⟩)
    · exact Or.inl h
    · exact Or.inr ⟨ha, hl, hb⟩
  · rintro (h | ⟨ha, hl, hb⟩)
    · exact Or.inl h
    · exact Or.inr ⟨hl, ha, hb⟩

/-! ## The counter -/

/-- One reading: the new counter, `none` once the alarm was raised, and whether it is
raised now. -/
def step (a : α) : Option Nat → Option Nat × Bool
  | none => (none, false)
  | some beats =>
    if P.spike a then (none, true)
    else if P.high a then
      if beats + 1 < P.row then (some (beats + 1), false) else (none, true)
    else (some 0, false)

/-- The counter agrees with the history. -/
def Tracks (past : List α) : Option Nat → Prop
  | none => P.Raised past
  | some beats => ¬ P.Raised past ∧ beats = P.streak past

theorem tracks_nil : P.Tracks [] (some 0) := ⟨fun h => h, rfl⟩

theorem not_due {past : List α} {a : α} (hs : P.spike a = false)
    (hh : P.high a = true → P.streak past + 1 < P.row) : ¬ P.Due past a := by
  rw [due_iff_streak]
  rintro (h | ⟨ha, hr⟩)
  · rw [hs] at h
    cases h
  · have := hh ha
    omega

/-- **Step lemma.** The counter raises the alarm exactly where the history does, and
goes on agreeing with it. -/
theorem step_tracks {past : List α} {c : Option Nat} (h : P.Tracks past c) (a : α) :
    P.Tracks (a :: past) (P.step a c).1 ∧ ((P.step a c).2 = true ↔ P.Fires past a) := by
  cases c with
  | none =>
    have hr : P.Raised past := h
    refine ⟨Or.inl hr, ?_⟩
    simp [step, Fires, hr]
  | some beats =>
    obtain ⟨hr, rfl⟩ := h
    have fires (hd : P.Due past a) : P.Tracks (a :: past) none ∧ (true = true ↔ P.Fires past a) :=
      ⟨Or.inr hd, fun _ => ⟨hr, hd⟩, fun _ => rfl⟩
    have stays (hd : ¬ P.Due past a) {k : Nat} (hk : k = P.streak (a :: past)) :
        P.Tracks (a :: past) (some k) ∧ (false = true ↔ P.Fires past a) :=
      ⟨⟨fun h => h.elim hr hd, hk⟩, fun h => (by cases h), fun h => absurd h.2 hd⟩
    rw [step]
    cases hs : P.spike a with
    | true => exact fires ((P.due_iff_streak past a).mpr (Or.inl hs))
    | false =>
      cases hh : P.high a with
      | true =>
        by_cases hlt : P.streak past + 1 < P.row
        · rw [if_neg Bool.false_ne_true, if_pos rfl, if_pos hlt]
          exact stays (P.not_due hs fun _ => hlt) (P.streak_cons_high hh past).symm
        · rw [if_neg Bool.false_ne_true, if_pos rfl, if_neg hlt]
          exact fires ((P.due_iff_streak past a).mpr (Or.inr ⟨hh, by omega⟩))
      | false =>
        have hd : ¬ P.Due past a := P.not_due hs fun h => absurd h (by rw [hh]; decide)
        exact stays hd (P.streak_cons_low hh past).symm

/-- What fires has been raised ever after. -/
theorem Fires.raised {past : List α} {a : α} (h : P.Fires past a) : P.Raised (a :: past) :=
  Or.inr h.2

end AlarmPolicy
