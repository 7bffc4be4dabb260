import ClusterKit.Lib.StepSystem

/-! Composed systems. A component sees a run of the whole as a run of its own if every
step of the whole is, seen from it, some steps of its own. -/

universe u v w x

namespace StepSystem

variable {σ : Type u} {α : Type v} {τ : Type w} {β : Type x}
  {S : StepSystem σ α} {T : StepSystem τ β} {f : σ → τ}
  {ok : σ → α → Prop} {ok' : τ → β → Prop} {s t : σ}

/-- A single step as a run. -/
theorem Run.single {a : α} (ha : ok s a) (h : S.step s a = some t) : S.Run ok s t :=
  .tail .refl ha h

/-- A run may recall what holds at all ends of such runs wherever it takes a step. -/
theorem Run.recall {P : σ → Prop} (h : S.Run ok s t) (hP : ∀ x, S.Run ok s x → P x) :
    S.Run (fun x a => ok x a ∧ P x) s t := by
  induction h with
  | refl => exact .refl
  | tail hrun ha hs ih => exact .tail ih ⟨ha, hP _ hrun⟩ hs

/-- **Projection rule.** The component runs from where it sees the start to where it sees
the end. -/
theorem Run.project (h : S.Run ok s t)
    (hstep : ∀ x a y, ok x a → S.step x a = some y → T.Run ok' (f x) (f y)) :
    T.Run ok' (f s) (f t) := by
  induction h with
  | refl => exact .refl
  | tail _ ha hs ih => exact ih.trans (hstep _ _ _ ha hs)

/-- What the component reaches while the whole runs from its start. -/
theorem Reachable.project (h : S.Reachable t) (hinit : f S.init = T.init)
    (hstep : ∀ x a y, S.step x a = some y → T.Run (fun _ _ => True) (f x) (f y)) :
    T.Reachable (f t) := by
  have hrun : T.Run (fun _ _ => True) (f S.init) (f t) :=
    Run.project h fun x a y _ hs => hstep x a y hs
  rwa [hinit] at hrun

end StepSystem
