import Mathlib.Data.List.Basic
import Mathlib.Tactic.Common

/-! The sliding crash window behind the circuit breaker. -/

namespace ClusterKit

structure CrashTracker where
  threshold : Nat
  windowMs : Nat
  timestamps : List Nat := []

namespace CrashTracker

/-- Memory cap on the kept timestamps. -/
def maxSize (t : CrashTracker) : Nat := max (t.threshold * 2) 100

/-- `timestamps.slice(-n)` for a list longer than `n`. -/
def sliceLast (n : Nat) (l : List Nat) : List Nat := l.drop (l.length - n)

def prune (now : Nat) (t : CrashTracker) : CrashTracker :=
  let cutoff : Int := (now : Int) - t.windowMs
  let kept := t.timestamps.filter fun x : Nat => (x : Int) > cutoff
  { t with timestamps := if kept.length > t.maxSize then sliceLast t.maxSize kept else kept }

def record (now : Nat) (t : CrashTracker) : CrashTracker :=
  let t' := { t with timestamps := t.timestamps ++ [now] }
  if t'.timestamps.length > t'.maxSize then t'.prune now else t'

/-- The answer of `isTripped()`; its effect on the tracker is `prune`. -/
def isTripped (now : Nat) (t : CrashTracker) : Bool :=
  (t.prune now).timestamps.length ≥ t.threshold

/-- The answer of `count`; its effect on the tracker is `prune`. -/
def count (now : Nat) (t : CrashTracker) : Nat := (t.prune now).timestamps.length

def reset (t : CrashTracker) : CrashTracker := { t with timestamps := [] }

@[simp] theorem prune_threshold (now : Nat) (t : CrashTracker) :
    (t.prune now).threshold = t.threshold := rfl

@[simp] theorem record_threshold (now : Nat) (t : CrashTracker) :
    (t.record now).threshold = t.threshold := by
  unfold record
  simp only
  split <;> rfl

/-- The timestamps still in the window. -/
def recent (now : Nat) (t : CrashTracker) : List Nat :=
  t.timestamps.filter fun x : Nat => (x : Int) > (now : Int) - t.windowMs

theorem threshold_le_maxSize (t : CrashTracker) : t.threshold ≤ t.maxSize := by
  unfold maxSize
  omega

theorem length_sliceLast {n : Nat} {l : List Nat} (h : n < l.length) :
    (sliceLast n l).length = n := by
  rw [sliceLast, List.length_drop]
  omega

/-- The cap does not hide a trip. -/
theorem isTripped_iff (now : Nat) (t : CrashTracker) :
    t.isTripped now = true ↔ t.threshold ≤ (t.recent now).length := by
  have hmax := t.threshold_le_maxSize
  rw [isTripped, decide_eq_true_eq]
  show t.threshold ≤ (if _ then _ else t.recent now : List Nat).length ↔ _
  split
  · rename_i hlong
    rw [length_sliceLast hlong]
    exact iff_of_true hmax (by unfold recent; omega)
  · exact Iff.rfl

/-- Pruning twice at one moment prunes nothing more. -/
theorem recent_prune (now : Nat) (t : CrashTracker) :
    (t.prune now).recent now = (t.prune now).timestamps := by
  refine List.filter_eq_self.mpr fun x hx => ?_
  have hmem : x ∈ t.recent now := by
    unfold prune at hx
    simp only at hx
    split at hx
    · exact List.mem_of_mem_drop hx
    · exact hx
  exact (List.mem_filter.mp hmem).2

theorem isTripped_prune (now : Nat) (t : CrashTracker) :
    (t.prune now).isTripped now = t.isTripped now := by
  rw [Bool.eq_iff_iff, isTripped_iff, recent_prune, isTripped, decide_eq_true_eq]
  rfl

/-- The window only slides on. -/
theorem isTripped_of_le {now later : Nat} (h : now ≤ later) (t : CrashTracker)
    (ht : t.isTripped later = true) : t.isTripped now = true := by
  rw [isTripped_iff] at ht ⊢
  have hsub : (t.recent later).Sublist (t.recent now) := by
    refine List.monotone_filter_right _ fun x hx => ?_
    have hx : (x : Int) > (later : Int) - t.windowMs := of_decide_eq_true hx
    exact decide_eq_true (by omega)
  exact Nat.le_trans ht hsub.length_le

theorem isTripped_reset (now : Nat) {t : CrashTracker} (h : 0 < t.threshold) :
    t.reset.isTripped now = false := by
  rw [← Bool.not_eq_true, isTripped_iff]
  show ¬ t.threshold ≤ 0
  omega

end CrashTracker

end ClusterKit
