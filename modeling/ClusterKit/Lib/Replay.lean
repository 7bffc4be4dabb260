import ClusterKit.Lib.StepSystem

/-! Replaying a log. A reader is a system that takes the entries of a log one at a time
and refuses what it does not expect. A program whose log a reader replays, and whose
state the reader then knows, keeps the promises that the reader was written down for. -/

universe u v w x

namespace StepSystem

variable {σ : Type u} {α : Type v} {τ : Type w} {β : Type x}

/-- What the reader knows after a log, newest first; `none` if it refused an entry. -/
def replay (T : StepSystem τ β) : List β → Option τ
  | [] => some T.init
  | b :: past => (T.replay past).bind fun u => T.step u b

variable {T : StepSystem τ β} {log : List β} {b : β}

/-- The reader replays the log and then knows `P`. -/
def Records (T : StepSystem τ β) (log : List β) (P : τ → Prop) : Prop :=
  ∃ u, T.replay log = some u ∧ P u

variable {P Q : τ → Prop}

theorem Records.nil (h : P T.init) : T.Records [] P := ⟨T.init, rfl, h⟩

/-- **Entry rule.** One more entry that the reader expects. -/
theorem Records.cons (h : T.Records log P)
    (hstep : ∀ u, P u → ∃ w, T.step u b = some w ∧ Q w) : T.Records (b :: log) Q := by
  obtain ⟨u, hu, hP⟩ := h
  obtain ⟨w, hw, hQ⟩ := hstep u hP
  exact ⟨w, (congrArg (Option.bind · _) hu).trans hw, hQ⟩

theorem Records.mono (h : T.Records log P) (hPQ : ∀ u, P u → Q u) : T.Records log Q :=
  Exists.imp (fun u hu => ⟨hu.1, hPQ u hu.2⟩) h

end StepSystem
