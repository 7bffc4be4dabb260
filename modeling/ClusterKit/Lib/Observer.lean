import ClusterKit.Lib.StepSystem

/-! Observers. An observer watches a system step by step and writes down what it
chooses to; it refuses nothing and the system does not see it. What a law says about
the history of a run is said about the notes. -/

universe u v w

namespace StepSystem

variable {σ : Type u} {α : Type v} {ω : Type w}

/-- `S`, and next to it the notes of an observer. -/
def observed (S : StepSystem σ α) (notes : ω) (note : σ → α → σ → ω → ω) :
    StepSystem (σ × ω) α where
  init := (S.init, notes)
  step x a := (S.step x.1 a).map fun t => (t, note x.1 a t x.2)

variable {S : StepSystem σ α} {notes : ω} {note : σ → α → σ → ω → ω}
  {ok : σ × ω → α → Prop} {x y : σ × ω}

theorem observed_step {a : α} (h : (S.observed notes note).step x a = some y) :
    S.step x.1 a = some y.1 ∧ y.2 = note x.1 a y.1 x.2 := by
  obtain ⟨t, ht, rfl⟩ := Option.map_eq_some_iff.mp h
  exact ⟨ht, rfl⟩

/-- An observer sees real runs. -/
theorem Run.unobserved (h : (S.observed notes note).Run ok x y) :
    S.Run (fun _ _ => True) x.1 y.1 := by
  induction h with
  | refl => exact .refl
  | tail _ _ hs ih => exact ih.tail trivial (observed_step hs).1

/-- An observer can be put next to any run. -/
theorem Run.observed {s t : σ} (h : S.Run (fun _ _ => True) s t) (w : ω) :
    ∃ w', (S.observed notes note).Run (fun _ _ => True) (s, w) (t, w') := by
  induction h with
  | refl => exact ⟨w, .refl⟩
  | @tail t u a _ _ hs ih =>
    obtain ⟨w', hw'⟩ := ih
    refine ⟨note t a u w', hw'.tail (a := a) trivial ?_⟩
    show (S.step t a).map _ = _
    rw [hs, Option.map_some]

/-- **Invariant rule.** What the system keeps by itself may be used about the notes. -/
theorem Run.observed_preserves {P : σ × ω → Prop} {Q : σ → Prop}
    (h : (S.observed notes note).Run ok (S.init, notes) y) (hQ : ∀ s, S.Reachable s → Q s)
    (hstep : ∀ x a t, Q x.1 → P x → ok x a → S.step x.1 a = some t →
      P (t, note x.1 a t x.2)) (hinit : P (S.init, notes)) : P y := by
  induction h with
  | refl => exact hinit
  | tail hrun ha hs ih =>
    obtain ⟨hs, hnote⟩ := observed_step hs
    have hP := hstep _ _ _ (hQ _ hrun.unobserved) ih ha hs
    rwa [← hnote] at hP

end StepSystem
