import Mathlib.Data.List.Nodup
import Mathlib.Data.List.Perm.Basic

/-! One slot shared by callers and by the jobs they wait for. A caller that finds the slot
taken waits for the job it names; one that finds it empty begins a job. A job first settles
and later releases the slot, whatever the slot then holds; a reset empties it while jobs
still run. -/

/-- Jobs are numbered in the order they begin. -/
structure Flight where
  started : Nat := 0
  slot : Option Nat := none
  running : List Nat := []
  /-- Jobs that have settled and still have to release the slot. -/
  settled : List Nat := []

namespace Flight

/-- Begin the next job. -/
def start (f : Flight) : Flight :=
  { f with started := f.started + 1, slot := some f.started, running := f.started :: f.running }

def settle (job : Nat) (f : Flight) : Flight :=
  { f with running := f.running.erase job, settled := job :: f.settled }

/-- Whatever the slot holds. -/
def release (job : Nat) (f : Flight) : Flight :=
  { f with slot := none, settled := f.settled.erase job }

def reset (f : Flight) : Flight := { f with slot := none }

/-- The jobs that have not released the slot. -/
def pending (f : Flight) : List Nat := f.running ++ f.settled

/-- Since the job number `since`, the slot names the only pending job. -/
structure Single (since : Nat) (f : Flight) : Prop where
  past : since ≤ f.started
  known : ∀ job ∈ f.pending, job < f.started
  only : ∀ job ∈ f.pending, since ≤ job → f.slot = some job
  slot : ∀ job ∈ f.slot, since ≤ job
  nodup : f.pending.Nodup

variable {since job : Nat} {f : Flight}

theorem single_new : Single 0 {} where
  past := Nat.le_refl _
  known := List.forall_mem_nil _
  only := List.forall_mem_nil _
  slot := by
    intro job hslot
    cases hslot
  nodup := .nil

theorem mem_pending : job ∈ f.pending ↔ job ∈ f.running ∨ job ∈ f.settled := List.mem_append

theorem pending_start : f.start.pending = f.started :: f.pending := rfl

/-- A job that settles stays pending. -/
theorem pending_settle (hjob : job ∈ f.running) : (f.settle job).pending.Perm f.pending := by
  have hrun : f.running.Perm (job :: f.running.erase job) := List.perm_cons_erase hjob
  exact List.perm_middle.trans (hrun.symm.append_right f.settled)

theorem pending_release (hjob : job ∈ f.settled) :
    f.pending.Perm (job :: (f.release job).pending) := by
  have hsettled : f.settled.Perm (job :: f.settled.erase job) := List.perm_cons_erase hjob
  exact (hsettled.append_left f.running).trans List.perm_middle

namespace Single

/-- An empty slot: every pending job began before. -/
theorem lt_of_empty (h : Single since f) (hempty : f.slot = none) :
    ∀ job ∈ f.pending, job < since := by
  intro job hjob
  by_contra hlt
  have htaken := h.only job hjob (Nat.le_of_not_lt hlt)
  rw [hempty] at htaken
  cases htaken

/-- Without a reset, an empty slot means that nothing is pending. -/
theorem pending_of_empty (h : Single 0 f) (hempty : f.slot = none) : f.pending = [] := by
  refine List.eq_nil_iff_forall_not_mem.mpr ?_
  intro job hjob
  exact absurd (h.lt_of_empty hempty job hjob) (Nat.not_lt_zero job)

theorem start (h : Single since f) (hempty : f.slot = none) : Single since f.start where
  past := Nat.le_succ_of_le h.past
  known := by
    intro job hjob
    rw [pending_start] at hjob
    rcases List.mem_cons.mp hjob with rfl | hjob
    · exact Nat.lt_succ_self _
    · exact Nat.lt_succ_of_lt (h.known job hjob)
  only := by
    intro job hjob hsince
    rw [pending_start] at hjob
    rcases List.mem_cons.mp hjob with rfl | hjob
    · rfl
    · exact absurd hsince (Nat.not_le_of_lt (h.lt_of_empty hempty job hjob))
  slot := by
    intro job hjob
    cases hjob
    exact h.past
  nodup := by
    refine List.nodup_cons.mpr ⟨?_, h.nodup⟩
    intro hmem
    exact absurd (h.known _ hmem) (Nat.lt_irrefl _)

theorem settle (h : Single since f) (hjob : job ∈ f.running) : Single since (f.settle job) where
  past := h.past
  known := fun other hother => h.known other ((pending_settle hjob).subset hother)
  only := fun other hother => h.only other ((pending_settle hjob).subset hother)
  slot := h.slot
  nodup := (pending_settle hjob).nodup_iff.mpr h.nodup

theorem reset (h : Single since f) : Single f.started f.reset where
  past := Nat.le_refl _
  known := h.known
  only := by
    intro job hjob hsince
    exact absurd (h.known job hjob) (Nat.not_lt_of_le hsince)
  slot := by
    intro job hjob
    cases hjob
  nodup := h.nodup

/-- A release does no harm when the slot names its job or nothing. -/
theorem release (h : Single since f) (hjob : job ∈ f.settled)
    (hslot : f.slot = some job ∨ f.slot = none) : Single since (f.release job) := by
  have hpending := pending_release hjob
  have hnodup := List.nodup_cons.mp (hpending.nodup_iff.mp h.nodup)
  refine ⟨h.past, ?_, ?_, ?_, hnodup.2⟩
  · intro other hother
    exact h.known other (hpending.symm.subset (List.mem_cons_of_mem _ hother))
  · intro other hother hsince
    have htaken := h.only other (hpending.symm.subset (List.mem_cons_of_mem _ hother)) hsince
    rcases hslot with hslot | hslot
    · rw [hslot, Option.some.injEq] at htaken
      exact absurd (htaken ▸ hother) hnodup.1
    · rw [hslot] at htaken
      cases htaken
  · intro other hother
    cases hother

/-- A job that is not overtaken by a reset releases its own slot. -/
theorem slot_of_settled (h : Single since f) (hjob : job ∈ f.settled) (hsince : since ≤ job) :
    f.slot = some job :=
  h.only job (mem_pending.mpr (.inr hjob)) hsince

end Single

end Flight
