import ClusterKit.CrashTracker
import ClusterKit.Lib.StepSystem

/-! The crash tracker against an unbounded log. The tracker prunes when it is asked and
drops old records at its cap; the log keeps every record since the last reset. What the
tracker keeps is always the newest part of the log, long enough for every later question. -/

namespace ClusterKit

/-! ## Newest first -/

section Newest

variable {α : Type*} {p : α → Bool} {l : List α}

/-- A test that only the newest entries pass keeps a prefix. -/
theorem filter_eq_take (h : l.Pairwise fun a b => p b = true → p a = true) :
    l.filter p = l.take (l.countP p) := by
  induction h with
  | nil => rfl
  | @cons a l ha _ ih =>
    cases hp : p a with
    | true => rw [List.filter_cons_of_pos hp, List.countP_cons_of_pos hp, List.take_succ_cons, ih]
    | false =>
      have hnone : ∀ b ∈ l, ¬ p b = true := fun b hb hpb => by simp [ha b hb hpb] at hp
      rw [List.countP_eq_zero.mpr, List.take_zero, List.filter_eq_nil_iff.mpr]
      · simpa [hp] using hnone
      · simpa [hp] using hnone

/-- The test on a newest part of the list. -/
theorem countP_take (h : l.Pairwise fun a b => p b = true → p a = true) (n : Nat) :
    (l.take n).countP p = min n (l.countP p) := by
  induction l generalizing n with
  | nil => simp
  | cons a l ih =>
    obtain ⟨ha, hl⟩ := List.pairwise_cons.mp h
    cases n with
    | zero => simp
    | succ n =>
      cases hp : p a with
      | true => rw [List.take_succ_cons, List.countP_cons_of_pos hp, List.countP_cons_of_pos hp,
          ih hl, Nat.add_min_add_right]
      | false =>
        have hnone : ∀ b ∈ a :: l, ¬ p b = true := by
          intro b hb hpb
          rcases List.mem_cons.mp hb with rfl | hb
          · simp [hp] at hpb
          · simp [ha b hb hpb] at hp
        rw [List.countP_eq_zero.mpr hnone,
          List.countP_eq_zero.mpr fun b hb => hnone b (List.mem_of_mem_take hb), Nat.min_zero]

end Newest

/-! ## The tracker next to the log -/

/-- The tracker under a clock. -/
structure CrashLog where
  now : Nat := 0
  tracker : CrashTracker
  /-- *History*: the records since the last reset, newest first. -/
  log : List Nat := []

namespace CrashLog

inductive Op where
  | tick (ms : Nat)
  | record | prune | isTripped | count | reset

/-- Every query prunes. -/
def step (s : CrashLog) : Op → CrashLog
  | .tick ms => { s with now := s.now + ms }
  | .record => { s with tracker := s.tracker.record s.now, log := s.now :: s.log }
  | .prune => { s with tracker := s.tracker.prune s.now }
  | .isTripped => { s with tracker := s.tracker.prune s.now }
  | .count => { s with tracker := s.tracker.prune s.now }
  | .reset => { s with tracker := s.tracker.reset, log := [] }

def inWindow (s : CrashLog) (x : Nat) : Bool := (x : Int) > (s.now : Int) - s.tracker.windowMs

/-- The records since the last reset that lie in the window. -/
def inWindowCount (s : CrashLog) : Nat := s.log.countP s.inWindow

end CrashLog

/-- A new tracker and the calls made on it. -/
def crashLog (threshold windowMs : Nat) : StepSystem CrashLog CrashLog.Op where
  init := { tracker := { threshold := threshold, windowMs := windowMs } }
  step s op := some (s.step op)

namespace CrashLog

/-- The tracker keeps the newest `kept` records, and at least as many as a query now or later
can ask for. -/
structure KeepsNewest (threshold windowMs : Nat) (s : CrashLog) : Prop where
  threshold : s.tracker.threshold = threshold
  window : s.tracker.windowMs = windowMs
  sorted : s.log.Pairwise (· ≥ ·)
  past : ∀ x ∈ s.log, x ≤ s.now
  newest : ∃ kept, s.tracker.timestamps.reverse = s.log.take kept ∧
    min s.inWindowCount s.tracker.maxSize ≤ kept

variable {threshold windowMs : Nat} {s : CrashLog}

theorem KeepsNewest.window_closed (h : KeepsNewest threshold windowMs s) :
    s.log.Pairwise fun a b => s.inWindow b = true → s.inWindow a = true :=
  h.sorted.imp fun {a b} hab hb => by
    simp only [inWindow, gt_iff_lt, decide_eq_true_eq] at hb ⊢
    omega

/-- What a query leaves is the newest part of the log, as long as the window and the cap say. -/
theorem KeepsNewest.prune_timestamps (h : KeepsNewest threshold windowMs s) :
    (s.tracker.prune s.now).timestamps.reverse =
      s.log.take (min s.inWindowCount s.tracker.maxSize) := by
  obtain ⟨kept, hkept, hle⟩ := h.newest
  have hclosed := h.window_closed
  have hfilter : (s.tracker.timestamps.filter s.inWindow).reverse =
      s.log.take (min kept s.inWindowCount) := by
    rw [← List.filter_reverse, hkept, filter_eq_take (hclosed.sublist (List.take_sublist _ _)),
      countP_take hclosed, List.take_take, inWindowCount]
    congr 1
    omega
  have hlength : (s.tracker.timestamps.filter s.inWindow).length = min kept s.inWindowCount := by
    have hlog : s.inWindowCount ≤ s.log.length := List.countP_le_length
    rw [← List.length_reverse, hfilter, List.length_take]
    omega
  show (if (s.tracker.timestamps.filter s.inWindow).length > s.tracker.maxSize then
    CrashTracker.sliceLast s.tracker.maxSize (s.tracker.timestamps.filter s.inWindow)
    else s.tracker.timestamps.filter s.inWindow).reverse = _
  split
  · rename_i hlong
    rw [CrashTracker.sliceLast, List.reverse_drop, hfilter, List.take_take]
    congr 1
    omega
  · rename_i hshort
    rw [hfilter]
    congr 1
    omega

theorem KeepsNewest.prune (h : KeepsNewest threshold windowMs s) :
    KeepsNewest threshold windowMs { s with tracker := s.tracker.prune s.now } :=
  { h with newest := ⟨_, h.prune_timestamps, Nat.le_refl _⟩ }

theorem KeepsNewest.record (h : KeepsNewest threshold windowMs s) :
    KeepsNewest threshold windowMs (s.step .record) := by
  obtain ⟨kept, hkept, hle⟩ := h.newest
  let pushed : CrashLog :=
    { s with
      tracker := { s.tracker with timestamps := s.tracker.timestamps ++ [s.now] }
      log := s.now :: s.log }
  have hpushed : KeepsNewest threshold windowMs pushed := by
    constructor
    case threshold => exact h.threshold
    case window => exact h.window
    case sorted => exact List.pairwise_cons.mpr ⟨h.past, h.sorted⟩
    case past =>
      intro x hx
      rcases List.mem_cons.mp hx with rfl | hx
      · exact Nat.le_refl _
      · exact h.past x hx
    case newest =>
      refine ⟨kept + 1, ?_, ?_⟩
      · show (s.tracker.timestamps ++ [s.now]).reverse = _
        rw [List.reverse_append, hkept]
        rfl
      · have hcount : pushed.inWindowCount ≤ s.inWindowCount + 1 := by
          show (s.now :: s.log).countP s.inWindow ≤ _
          rw [List.countP_cons]
          split <;> unfold inWindowCount <;> omega
        have hsize : pushed.tracker.maxSize = s.tracker.maxSize := rfl
        omega
  show KeepsNewest threshold windowMs { pushed with tracker := s.tracker.record s.now }
  unfold CrashTracker.record
  simp only
  split
  · exact hpushed.prune
  · exact hpushed

theorem KeepsNewest.tick (h : KeepsNewest threshold windowMs s) (ms : Nat) :
    KeepsNewest threshold windowMs (s.step (.tick ms)) := by
  obtain ⟨kept, hkept, hle⟩ := h.newest
  have hcount : (s.step (.tick ms)).inWindowCount ≤ s.inWindowCount := by
    refine List.countP_mono_left fun x _ hx => ?_
    simp only [inWindow, step, gt_iff_lt, decide_eq_true_eq] at hx ⊢
    omega
  have hpast : ∀ x ∈ s.log, x ≤ s.now + ms := fun x hx =>
    Nat.le_trans (h.past x hx) (Nat.le_add_right _ _)
  refine { h with past := hpast, newest := ?_ }
  have hsize : (s.step (.tick ms)).tracker.maxSize = s.tracker.maxSize := rfl
  exact ⟨kept, hkept, by omega⟩

theorem KeepsNewest.step (h : KeepsNewest threshold windowMs s) (op : Op) :
    KeepsNewest threshold windowMs (s.step op) := by
  cases op with
  | tick ms => exact h.tick ms
  | record => exact h.record
  | prune | isTripped | count => exact h.prune
  | reset =>
    have hpast : ∀ x ∈ ([] : List Nat), x ≤ s.now := fun x hx => absurd hx List.not_mem_nil
    exact { h with sorted := .nil, past := hpast, newest := ⟨0, rfl, Nat.min_le_left _ _⟩ }

theorem reachable_keepsNewest (h : (crashLog threshold windowMs).Reachable s) :
    KeepsNewest threshold windowMs s := by
  refine h.induct ?_ fun x op y hx hs => Option.some.inj hs ▸ hx.step op
  exact ⟨rfl, rfl, .nil, fun x hx => absurd hx List.not_mem_nil, 0, rfl, Nat.min_le_left _ _⟩

theorem KeepsNewest.count_eq (h : KeepsNewest threshold windowMs s) :
    s.tracker.count s.now = min s.inWindowCount s.tracker.maxSize := by
  have hlog : s.inWindowCount ≤ s.log.length := List.countP_le_length
  rw [CrashTracker.count, ← List.length_reverse, h.prune_timestamps, List.length_take]
  omega

/-- The answers of the tracker are those of the log: pruning and the cap do not show. -/
theorem tracker_answers_log (h : (crashLog threshold windowMs).Reachable s) :
    (s.tracker.isTripped s.now = true ↔ threshold ≤ s.inWindowCount) ∧
      s.tracker.count s.now = min s.inWindowCount (max (2 * threshold) 100) := by
  have hkeeps := reachable_keepsNewest h
  have hsize : s.tracker.maxSize = max (2 * threshold) 100 := by
    rw [CrashTracker.maxSize, hkeeps.threshold, Nat.mul_comm]
  have hcount := hkeeps.count_eq
  rw [hsize] at hcount
  refine ⟨?_, hcount⟩
  have htrip : s.tracker.isTripped s.now = decide (s.tracker.count s.now ≥ threshold) := by
    rw [← hkeeps.threshold]
    rfl
  rw [htrip, decide_eq_true_eq, hcount]
  omega

/-- Two crashes and a window that slides past the first. -/
theorem tracker_answers_log_two_crashes :
    ∃ s, ((crashLog 2 1000).Reachable s ∧ s.log = [900, 0] ∧ s.now = 1000) ∧
      (s.tracker.isTripped s.now = true ↔ 2 ≤ s.inWindowCount) ∧
      s.tracker.count s.now = min s.inWindowCount (max (2 * 2) 100) := by
  have hrun : (crashLog 2 1000).Reachable
      ((((crashLog 2 1000).init.step .record).step (.tick 900)).step .record |>.step (.tick 100)) :=
    .tail (.tail (.tail (.tail .refl trivial rfl) trivial rfl) trivial rfl) trivial rfl
  exact ⟨_, ⟨hrun, rfl, rfl⟩, tracker_answers_log hrun⟩

end CrashLog

end ClusterKit
