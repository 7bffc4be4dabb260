import ClusterKit.Lib.StepSystem
import Mathlib.Tactic.Common

/-! A watchdog that goes by the last beat of each of its wards. It looks at all of them from
time to time, and forgets whom it finds silent for too long; it raises an alarm unless the
ward is excused. Whoever falls silent is reported once, within the timeout and one period
between two looks; whoever beats in time is not. -/

universe u

@[ext]
structure Watchdog (ι : Type u) where
  now : Nat := 0
  /-- The last beat of each ward that is watched. -/
  seen : ι → Option Nat := fun _ => none
  /-- When the next look is due. -/
  due : Option Nat := none
  /-- For how long a ward was silent at each of its alarms, newest first. -/
  alarms : ι → List Nat := fun _ => []

inductive WatchdogInput (ι : Type u) where
  | tick (ms : Nat)
  | start
  | stop
  | beat (i : ι)
  | forget (i : ι)
  | look (excused : ι → Bool)

namespace Watchdog

variable {ι : Type u}

/-- The silence of a ward that has lasted too long. -/
def silence (timeout : Nat) (w : Watchdog ι) (i : ι) : Option Nat :=
  match w.seen i with
  | none => none
  | some t => if timeout < w.now - t then some (w.now - t) else none

def look (timeout period : Nat) (excused : ι → Bool) (w : Watchdog ι) : Watchdog ι where
  now := w.now
  seen i := if (w.silence timeout i).isSome then none else w.seen i
  due := some (w.now + period)
  alarms i := if excused i then w.alarms i else (w.silence timeout i).toList ++ w.alarms i

def step [DecidableEq ι] (timeout period : Nat) (w : Watchdog ι) :
    WatchdogInput ι → Option (Watchdog ι)
  | .tick ms => some { w with now := w.now + ms }
  | .start => some { w with due := some (w.now + period) }
  | .stop => some { w with seen := fun _ => none, due := none }
  | .beat i => some { w with seen := Function.update w.seen i (some w.now) }
  | .forget i => some { w with seen := Function.update w.seen i none }
  | .look excused =>
    match w.due with
    | none => none
    | some due => if due ≤ w.now then some (w.look timeout period excused) else none

/-- A look is not late. -/
def onTime (w : Watchdog ι) : WatchdogInput ι → Bool
  | .tick ms => w.due.all fun due => decide (w.now + ms ≤ due)
  | _ => true

/-- The ward `i` stays silent, is not excused, and the watch goes on. -/
def silentOn [DecidableEq ι] (i : ι) : WatchdogInput ι → Bool
  | .start => false
  | .stop => false
  | .beat j => decide (j ≠ i)
  | .forget j => decide (j ≠ i)
  | .look excused => !excused i
  | .tick _ => true

end Watchdog

def watchdog (ι : Type u) [DecidableEq ι] (timeout period : Nat) :
    StepSystem (Watchdog ι) (WatchdogInput ι) where
  init := {}
  step := Watchdog.step timeout period

namespace Watchdog

open StepSystem

variable {ι : Type u} {timeout period T : Nat} {i : ι} {w x y u : Watchdog ι}
  {input : WatchdogInput ι} {l : List Nat}

theorem silence_of_seen {t : Nat} (h : w.seen i = some t) :
    w.silence timeout i = if timeout < w.now - t then some (w.now - t) else none := by
  unfold silence
  rw [h]

/-- What a look makes of a ward depends on what is known of that ward. -/
theorem look_congr (timeout period : Nat) {excused excused' : ι → Bool} (hnow : y.now = x.now)
    (hseen : y.seen i = x.seen i) (halarms : y.alarms i = x.alarms i)
    (hexcused : excused' i = excused i) :
    (y.look timeout period excused').seen i = (x.look timeout period excused).seen i ∧
      (y.look timeout period excused').alarms i = (x.look timeout period excused).alarms i := by
  have hsilence : y.silence timeout i = x.silence timeout i := by
    unfold silence
    rw [hseen, hnow]
  simp only [look, hsilence, hseen, halarms, hexcused]
  exact ⟨trivial, trivial⟩

/-- A ward that is not watched is left alone. -/
theorem look_unwatched (timeout period : Nat) (excused : ι → Bool) (h : w.seen i = none) :
    (w.look timeout period excused).seen i = none ∧
      (w.look timeout period excused).alarms i = w.alarms i := by
  have hsilence : w.silence timeout i = none := by
    unfold silence
    rw [h]
  simp [look, hsilence, h]

/-- **Accuracy.** A look raises no alarm for a ward that is excused or not watched, or has
beaten within the timeout. -/
theorem look_quiet {excused : ι → Bool}
    (h : excused i = false → ∀ t, w.seen i = some t → w.now ≤ t + timeout) :
    (w.look timeout period excused).alarms i = w.alarms i := by
  show (if _ then _ else _) = _
  split
  · rfl
  · rename_i hexcused
    cases hseen : w.seen i with
    | none => simp [silence, hseen]
    | some t =>
      have hle := h (by simpa using hexcused) t hseen
      have hshort : ¬ timeout < w.now - t := by omega
      rw [silence_of_seen hseen, if_neg hshort]
      rfl

variable [DecidableEq ι]

/-- The ward was last seen at `T`: it is still watched, or it was reported once. -/
inductive Silent (timeout period T : Nat) (i : ι) (l : List Nat) (x : Watchdog ι) : Prop
  | watched (due : Nat) (hseen : x.seen i = some T) (halarms : x.alarms i = l)
    (hdue : x.due = some due) (hnow : x.now ≤ due) (hsoon : due ≤ T + timeout + period)
  | reported (ms : Nat) (hseen : x.seen i = none) (halarms : x.alarms i = ms :: l)
    (hlong : timeout < ms) (hsoon : ms ≤ timeout + period)

theorem Silent.step (h : Silent timeout period T i l x) (hi : silentOn i input = true)
    (hok : x.onTime input = true) (hs : x.step timeout period input = some y) :
    Silent timeout period T i l y := by
  cases input with
  | start | stop => cases hi
  | tick ms =>
    cases hs
    cases h with
    | watched due hseen halarms hdue hnow hsoon =>
      have hlater : x.now + ms ≤ due := by simpa [onTime, hdue] using hok
      exact .watched due hseen halarms hdue hlater hsoon
    | reported ms' hseen halarms hlong hsoon => exact .reported ms' hseen halarms hlong hsoon
  | beat j =>
    cases hs
    have hj : i ≠ j := Ne.symm (by simpa [silentOn] using hi)
    cases h with
    | watched due hseen halarms hdue hnow hsoon =>
      exact .watched due ((Function.update_of_ne hj _ _).trans hseen) halarms hdue hnow hsoon
    | reported ms hseen halarms hlong hsoon =>
      exact .reported ms ((Function.update_of_ne hj _ _).trans hseen) halarms hlong hsoon
  | forget j =>
    cases hs
    have hj : i ≠ j := Ne.symm (by simpa [silentOn] using hi)
    cases h with
    | watched due hseen halarms hdue hnow hsoon =>
      exact .watched due ((Function.update_of_ne hj _ _).trans hseen) halarms hdue hnow hsoon
    | reported ms hseen halarms hlong hsoon =>
      exact .reported ms ((Function.update_of_ne hj _ _).trans hseen) halarms hlong hsoon
  | look excused =>
    have hexcused : excused i = false := by simpa [silentOn] using hi
    simp only [Watchdog.step] at hs
    split at hs
    · cases hs
    · rename_i due hx
      split at hs
      · rename_i hle
        cases hs
        cases h with
        | watched due' hseen halarms hdue hnow hsoon =>
          obtain rfl := Option.some.inj (hx.symm.trans hdue)
          have hsilence : x.silence timeout i =
              if timeout < x.now - T then some (x.now - T) else none := silence_of_seen hseen
          by_cases hlong : timeout < x.now - T
          · rw [if_pos hlong] at hsilence
            refine .reported (x.now - T) ?_ ?_ hlong ?_
            · simp [look, hsilence]
            · simp [look, hexcused, hsilence, halarms]
            · omega
          · rw [if_neg hlong] at hsilence
            refine .watched (x.now + period) ?_ ?_ rfl ?_ ?_
            · simp [look, hsilence, hseen]
            · simp [look, hexcused, hsilence, halarms]
            · exact Nat.le_add_right _ _
            · omega
        | reported ms hseen halarms hlong hsoon =>
          have hsilence : x.silence timeout i = none := by
            unfold silence
            rw [hseen]
          refine .reported ms ?_ ?_ hlong hsoon
          · simp [look, hsilence, hseen]
          · simp [look, hexcused, hsilence, halarms]
      · cases hs

/-- **Completeness.** A ward that has just beaten and stays silent is reported exactly once,
by the time the timeout and one period have passed. -/
theorem silent_reported {due : Nat} (hseen : w.seen i = some w.now) (hdue : w.due = some due)
    (hnow : w.now ≤ due) (hsoon : due ≤ w.now + period)
    (hrun : (watchdog ι timeout period).Run
      (fun x input => silentOn i input = true ∧ x.onTime input = true) w u)
    (hlate : w.now + timeout + period < u.now) :
    ∃ ms, u.alarms i = ms :: w.alarms i ∧ timeout < ms ∧ ms ≤ timeout + period := by
  have hsilent : Silent timeout period w.now i (w.alarms i) u :=
    hrun.preserves (fun x input y hx hok hs => hx.step hok.1 hok.2 hs)
      (.watched due hseen rfl hdue hnow (by omega))
  cases hsilent with
  | watched due' _ _ _ hbefore hend => omega
  | reported ms _ halarms hlong hend => exact ⟨ms, halarms, hlong, hend⟩

/-- When the next look is due. -/
theorem due_soon (hrun : (watchdog ι timeout period).Run (fun x input => x.onTime input = true)
    (watchdog ι timeout period).init u) {due : Nat} (hdue : u.due = some due) :
    u.now ≤ due ∧ due ≤ u.now + period := by
  refine hrun.preserves (P := fun x => ∀ due, x.due = some due → x.now ≤ due ∧ due ≤ x.now + period)
    ?_ (fun _ h => by cases h) due hdue
  intro x input y hx hok hs due hdue
  cases input with
  | tick ms =>
    cases hs
    have hlater : x.now + ms ≤ due := by simpa [onTime, show x.due = some due from hdue] using hok
    obtain ⟨-, hsoon⟩ := hx due hdue
    exact ⟨hlater, by show due ≤ x.now + ms + period; omega⟩
  | start =>
    cases hs
    cases hdue
    exact ⟨Nat.le_add_right _ _, Nat.le_refl _⟩
  | stop => cases hs; cases hdue
  | beat | forget => cases hs; exact hx due hdue
  | look excused =>
    replace hs : x.step timeout period (.look excused) = some y := hs
    simp only [Watchdog.step] at hs
    split at hs
    · cases hs
    · split at hs
      · cases hs
        cases hdue
        exact ⟨Nat.le_add_right _ _, Nat.le_refl _⟩
      · cases hs

end Watchdog
