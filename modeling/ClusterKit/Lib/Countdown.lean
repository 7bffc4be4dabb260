import ClusterKit.Lib.StepSystem
import Mathlib.Data.List.MinMax
import Mathlib.Tactic.Common

/-! Procedures that wait for timers. A procedure that is suspended waits for armed timers,
and once they are through some more time may pass before it is over. While no timer is late,
the time by which the procedure is over does not grow; and if every timer moves it on, some
run takes it to its end without a late timer. -/

universe u v

/-- An armed timer, and the time that the procedure may still spend on what it starts. -/
structure Wait where
  deadline : Nat
  behind : Nat

/-- What a suspended procedure waits for; `left` is spent once all of that is through. -/
structure Countdown where
  waits : List Wait
  left : Nat

namespace Countdown

/-- The procedure is over by the time `T`, unless a timer is late. -/
def OverBy (c : Countdown) (now T : Nat) : Prop :=
  now + c.left ≤ T ∧ ∀ w ∈ c.waits, max w.deadline now + w.behind + c.left ≤ T

/-- The first time by which the procedure is over, unless a timer is late. -/
def endsBy (c : Countdown) (now : Nat) : Nat :=
  c.waits.foldr (fun w T => max (max w.deadline now + w.behind) T) now + c.left

/-- Time may pass until `later`: something is waited for, and nothing is late by then. -/
def allows (c : Countdown) (later : Nat) : Bool :=
  !c.waits.isEmpty && c.waits.all fun w => decide (later ≤ w.deadline)

variable {c c' : Countdown} {now later T B : Nat}

theorem OverBy.now_le (h : c.OverBy now T) : now ≤ T := (Nat.le_add_right _ _).trans h.1

/-- The times that bound a procedure are those from `endsBy` on. -/
theorem overBy_iff : c.OverBy now T ↔ c.endsBy now ≤ T := by
  obtain ⟨waits, left⟩ := c
  simp only [OverBy, endsBy]
  induction waits with
  | nil => simp
  | cons w waits ih =>
    rw [List.forall_mem_cons, and_left_comm, ih, List.foldr_cons]
    generalize max w.deadline now + w.behind = due
    omega

theorem allows_iff : c.allows later = true ↔ c.waits ≠ [] ∧ ∀ w ∈ c.waits, later ≤ w.deadline := by
  simp [allows]

/-- Time that is allowed to pass costs nothing. -/
theorem OverBy.wait (h : c.OverBy now T) (hok : c.allows later = true) : c.OverBy later T := by
  obtain ⟨hne, hdue⟩ := allows_iff.mp hok
  have hwait : ∀ w ∈ c.waits, max w.deadline later + w.behind + c.left ≤ T := by
    intro w hw
    have hmax : max w.deadline later ≤ max w.deadline now := by
      rw [max_eq_left (hdue w hw)]
      exact le_max_left _ _
    have hover := h.2 w hw
    omega
  refine ⟨?_, hwait⟩
  obtain ⟨w, hw⟩ := List.exists_mem_of_ne_nil _ hne
  have hover := hwait w hw
  have hlater : later ≤ max w.deadline later := le_max_right _ _
  omega

/-- Time that passes while a timer is late is lost. -/
theorem OverBy.late (h : c.OverBy now (now + B)) (hle : now ≤ later) :
    c.OverBy later (later + B) := by
  refine ⟨by have := h.1; omega, fun w hw => ?_⟩
  have hover := h.2 w hw
  omega

/-- What is newly waited for fits into the time that was left, or takes the place of a timer. -/
theorem OverBy.next (h : c.OverBy now T) (hleft : c'.left ≤ c.left)
    (hwaits : ∀ w ∈ c'.waits, w ∈ c.waits ∨
      max w.deadline now + w.behind + c'.left ≤ now + c.left ∨
      ∃ w' ∈ c.waits, max w.deadline now + w.behind + c'.left ≤
        max w'.deadline now + w'.behind + c.left) :
    c'.OverBy now T := by
  refine ⟨by have := h.1; omega, fun w hw => ?_⟩
  rcases hwaits w hw with hold | hfits | ⟨w', hw', hfits⟩
  · have hover := h.2 w hold
    omega
  · exact hfits.trans h.1
  · exact hfits.trans (h.2 w' hw')

/-- The first deadline. -/
theorem exists_first (h : c.waits ≠ []) : ∃ w ∈ c.waits, ∀ w' ∈ c.waits, w.deadline ≤ w'.deadline := by
  obtain ⟨w, hw⟩ := Option.ne_none_iff_exists'.mp
    (mt List.argmin_eq_none.mp h : c.waits.argmin Wait.deadline ≠ none)
  exact ⟨w, List.argmin_mem hw, fun w' hw' => List.le_of_mem_argmin hw' hw⟩

end Countdown

namespace StepSystem

variable {σ : Type u} {α : Type v} {S : StepSystem σ α} {ok : σ → α → Prop} {P done : σ → Prop}
  {s : σ}

/-- **Descent rule.** If some run leads on from wherever the procedure is not done, some run
leads to its end. -/
theorem exists_run_done (measure : σ → Nat) (hs : P s)
    (hstep : ∀ x, P x → ¬done x → ∃ y, S.Run ok x y ∧ P y ∧ measure y < measure x) :
    ∃ t, S.Run ok s t ∧ P t ∧ done t := by
  induction hm : measure s using Nat.strong_induction_on generalizing s with
  | h m ih =>
    by_cases hd : done s
    · exact ⟨s, .refl, hs, hd⟩
    · obtain ⟨y, hrun, hy, hlt⟩ := hstep s hs hd
      obtain ⟨t, hrun', ht⟩ := ih (measure y) (hm ▸ hlt) hy rfl
      exact ⟨t, hrun.trans hrun', ht⟩

/-- **Timer rule.** A procedure is not stuck if time may pass up to its first deadline, every
timer that is due moves it on, and it moves on where it waits for none. -/
theorem exists_run_over (now measure : σ → Nat) (countdown : σ → Countdown) (hs : P s)
    (hwait : ∀ x later, P x → ¬done x → now x ≤ later → (countdown x).allows later = true →
      ∃ y, S.Run ok x y ∧ P y ∧ ¬done y ∧ measure y = measure x ∧ countdown y = countdown x ∧
        now y = later)
    (hfire : ∀ x w, P x → ¬done x → w ∈ (countdown x).waits → w.deadline ≤ now x →
      ∃ y, S.Run ok x y ∧ P y ∧ measure y < measure x)
    (hgo : ∀ x, P x → ¬done x → (countdown x).waits = [] →
      ∃ y, S.Run ok x y ∧ P y ∧ measure y < measure x) :
    ∃ t, S.Run ok s t ∧ P t ∧ done t := by
  refine exists_run_done measure hs fun x hx hd => ?_
  by_cases hne : (countdown x).waits = []
  · exact hgo x hx hd hne
  obtain ⟨w, hw, hfirst⟩ := Countdown.exists_first hne
  by_cases hdue : w.deadline ≤ now x
  · exact hfire x w hx hd hw hdue
  -- nothing is due: time passes until the first timer is
  have hallows : (countdown x).allows w.deadline = true := Countdown.allows_iff.mpr ⟨hne, hfirst⟩
  obtain ⟨y, hrun, hy, hdy, hmeasure, hcount, hnow⟩ :=
    hwait x w.deadline hx hd (Nat.le_of_not_le hdue) hallows
  obtain ⟨z, hrun', hz, hlt⟩ := hfire y w hy hdy (hcount ▸ hw) hnow.ge
  exact ⟨z, hrun.trans hrun', hz, hmeasure ▸ hlt⟩

end StepSystem
