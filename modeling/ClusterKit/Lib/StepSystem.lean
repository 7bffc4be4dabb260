import Mathlib.Data.Option.Basic
import Mathlib.Order.Basic

/-! Systems that read one chosen input a step and may refuse it. Runs carry a
side condition on every step they take, so that a statement about all runs and
a statement about the runs that avoid a given branch use the same rules. -/

universe u v

/-- A start state and a partial step function. -/
structure StepSystem (σ : Type u) (α : Type v) where
  init : σ
  step : σ → α → Option σ

namespace StepSystem

variable {σ : Type u} {α : Type v} (S : StepSystem σ α)

/-- Feed a list of inputs that `ok` admits; `none` as soon as one is not admitted or
refused. -/
def exec (ok : σ → α → Bool) : σ → List α → Option σ
  | s, [] => some s
  | s, a :: as =>
    if ok s a then
      match S.step s a with
      | some t => exec ok t as
      | none => none
    else none

/-- A run from `s` to `t` all of whose steps satisfy `ok` where they are taken. -/
inductive Run (ok : σ → α → Prop) (s : σ) : σ → Prop
  | refl : Run ok s s
  | tail {t u : σ} {a : α} : Run ok s t → ok t a → S.step t a = some u → Run ok s u

/-- Runs without a side condition, from the start state. -/
def Reachable (s : σ) : Prop := S.Run (fun _ _ => True) S.init s

variable {S} {ok ok' : σ → α → Prop} {s t u : σ}

theorem Run.mono (h : S.Run ok s t) (hok : ∀ x a, ok x a → ok' x a) : S.Run ok' s t := by
  induction h with
  | refl => exact .refl
  | tail _ ha hs ih => exact .tail ih (hok _ _ ha) hs

theorem Run.reachable (h : S.Run ok S.init t) : S.Reachable t :=
  h.mono fun _ _ _ => trivial

theorem Run.trans (h : S.Run ok s t) (h' : S.Run ok t u) : S.Run ok s u := by
  induction h' with
  | refl => exact h
  | tail _ ha hs ih => exact .tail ih ha hs

/-- **Invariant rule.** What every allowed step preserves holds along a run. -/
theorem Run.preserves {P : σ → Prop} (h : S.Run ok s t)
    (hstep : ∀ x a y, P x → ok x a → S.step x a = some y → P y) (hs : P s) : P t := by
  induction h with
  | refl => exact hs
  | tail _ ha hs' ih => exact hstep _ _ _ ih ha hs'

theorem Run.reachable_from (h : S.Run ok s t) (hs : S.Reachable s) : S.Reachable t :=
  hs.trans (h.mono fun _ _ _ => trivial)

/-- **Relative invariant rule.** The step may use an invariant `Q` proved before. -/
theorem Run.preserves_of {P Q : σ → Prop} (h : S.Run ok s t) (hr : S.Reachable s)
    (hQ : ∀ x, S.Reachable x → Q x)
    (hstep : ∀ x a y, Q x → P x → ok x a → S.step x a = some y → P y) (hs : P s) : P t := by
  induction h with
  | refl => exact hs
  | tail hrun ha hs' ih => exact hstep _ _ _ (hQ _ (hrun.reachable_from hr)) ih ha hs'

theorem Reachable.induct {P : σ → Prop} (h : S.Reachable t) (hs : P S.init)
    (hstep : ∀ x a y, P x → S.step x a = some y → P y) : P t :=
  Run.preserves h (fun x a y hx _ => hstep x a y hx) hs

theorem Reachable.step (h : S.Reachable s) {a : α} (hs : S.step s a = some t) :
    S.Reachable t :=
  .tail h trivial hs

/-- A list of inputs that is accepted gives a run. -/
theorem exec_run {p : σ → α → Bool} {as : List α} (h : S.exec p s as = some t) :
    S.Run (fun x a => p x a = true) s t := by
  induction as generalizing s with
  | nil =>
    rw [exec, Option.some.injEq] at h
    exact h ▸ .refl
  | cons a as ih =>
    rw [exec] at h
    split at h
    · rename_i ha
      cases hs : S.step s a with
      | none => simp [hs] at h
      | some x =>
        rw [hs] at h
        exact Run.trans (.tail .refl ha hs) (ih h)
    · cases h

/-- A test that accepts the final state of a list of inputs names the end of a run. -/
theorem exists_run_of_any (S : StepSystem σ α) (s : σ) (p : σ → α → Bool) (as : List α)
    (q : σ → Bool) (h : (S.exec p s as).any q = true) :
    ∃ t, S.Run (fun x a => p x a = true) s t ∧ q t = true := by
  cases ht : S.exec p s as with
  | none => simp [ht] at h
  | some t =>
    rw [ht, Option.any_some] at h
    exact ⟨t, exec_run ht, h⟩

theorem exists_reachable_of_any (S : StepSystem σ α) (as : List α) (q : σ → Bool)
    (h : (S.exec (fun _ _ => true) S.init as).any q = true) : ∃ t, S.Reachable t ∧ q t = true := by
  obtain ⟨t, hrun, hq⟩ := exists_run_of_any S S.init _ as q h
  exact ⟨t, hrun.reachable, hq⟩

theorem exec_weaken {p : σ → α → Bool} {as : List α} (h : S.exec p s as = some t) :
    S.exec (fun _ _ => true) s as = some t := by
  induction as generalizing s with
  | nil => exact h
  | cons a as ih =>
    rw [exec] at h
    rw [exec, if_pos rfl]
    split at h
    · cases hs : S.step s a with
      | none =>
        rw [hs] at h
        cases h
      | some x =>
        rw [hs] at h
        exact ih h
    · cases h

/-- **Exact guard rule.** If a step keeps `P` exactly when `p` admits it, then `P` holds at
the end of a run exactly when `p` admits every step of the run. -/
theorem exec_guard_iff {P : σ → Prop} {p : σ → α → Bool}
    (hstep : ∀ x a y, S.Reachable x → S.step x a = some y → (P y ↔ P x ∧ p x a = true))
    (as : List α) (hr : S.Reachable s) (h : S.exec (fun _ _ => true) s as = some t) :
    P t ↔ P s ∧ S.exec p s as = some t := by
  induction as generalizing s with
  | nil =>
    rw [exec, Option.some.injEq] at h
    rw [h, exec]
    exact (and_iff_left rfl).symm
  | cons a as ih =>
    rw [exec, if_pos rfl] at h
    rw [exec]
    cases hs : S.step s a with
    | none =>
      rw [hs] at h
      cases h
    | some x =>
      rw [hs] at h
      rw [ih (hr.step hs) h, hstep s a x hr hs, and_assoc]
      cases hp : p s a with
      | true => simp
      | false => simp

end StepSystem
