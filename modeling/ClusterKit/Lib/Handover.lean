import Mathlib.Data.Finset.Card
import Mathlib.Data.Int.Basic
import Mathlib.Tactic.Common

/-! Slots that are handed over. Members take a slot each; a marked member is about to
leave, and its slot is already promised to a successor: either the successor has joined,
or the member is scheduled and the successor will join when the schedule fires. The load
counts the slots that are taken or promised once. -/

universe u

/-- Live members, those marked as leaving, and those of them whose successor is due. -/
structure Handover (α : Type u) where
  live : Finset α
  marked : Finset α
  timed : Finset α
  marked_subset : marked ⊆ live
  timed_subset : timed ⊆ marked

namespace Handover

variable {α : Type u} (h : Handover α)

/-- Slots taken by members that stay. -/
def settled : Int := h.live.card - h.marked.card

/-- Slots taken by members that stay, and slots promised to successors that are due. -/
def load : Int := h.live.card - h.marked.card + h.timed.card

theorem settled_le_load : h.settled ≤ h.load := by
  unfold settled load
  omega

variable [DecidableEq α] {x : α}

def join (x : α) : Handover α :=
  { h with
    live := insert x h.live
    marked_subset := h.marked_subset.trans (Finset.subset_insert _ _) }

def mark (hx : x ∈ h.live) : Handover α :=
  { h with
    marked := insert x h.marked
    marked_subset := Finset.insert_subset hx h.marked_subset
    timed_subset := h.timed_subset.trans (Finset.subset_insert _ _) }

/-- A member is marked, its successor joins later. -/
def schedule (hx : x ∈ h.live) : Handover α :=
  { h.mark hx with
    timed := insert x h.timed
    timed_subset := Finset.insert_subset_insert _ h.timed_subset }

/-- The schedule of a member fires. -/
def fire (x : α) : Handover α :=
  { h with
    timed := h.timed.erase x
    timed_subset := (Finset.erase_subset _ _).trans h.timed_subset }

/-- A scheduled member stays after all. -/
def drop (x : α) : Handover α :=
  { h with
    marked := h.marked.erase x
    timed := h.timed.erase x
    marked_subset := (Finset.erase_subset _ _).trans h.marked_subset
    timed_subset := Finset.erase_subset_erase x h.timed_subset }

def leave (x : α) : Handover α where
  live := h.live.erase x
  marked := h.marked.erase x
  timed := h.timed.erase x
  marked_subset := Finset.erase_subset_erase x h.marked_subset
  timed_subset := Finset.erase_subset_erase x h.timed_subset

theorem load_join (hx : x ∉ h.live) : (h.join x).load = h.load + 1 := by
  unfold load
  simp only [join, Finset.card_insert_of_notMem hx]
  omega

/-- Marking frees the slot of the marked member. -/
theorem load_mark (hx : x ∈ h.live) (hm : x ∉ h.marked) : (h.mark hx).load = h.load - 1 := by
  unfold load
  simp only [mark, Finset.card_insert_of_notMem hm]
  omega

theorem load_schedule (hx : x ∈ h.live) (hm : x ∉ h.marked) : (h.schedule hx).load = h.load := by
  have ht : x ∉ h.timed := fun h' => hm (h.timed_subset h')
  unfold load
  simp only [schedule, mark, Finset.card_insert_of_notMem hm, Finset.card_insert_of_notMem ht]
  omega

theorem load_fire (ht : x ∈ h.timed) : (h.fire x).load = h.load - 1 := by
  have := Finset.card_pos.mpr ⟨x, ht⟩
  unfold load
  simp only [fire, Finset.card_erase_of_mem ht]
  omega

theorem load_drop (ht : x ∈ h.timed) : (h.drop x).load = h.load := by
  have hm := h.timed_subset ht
  have := Finset.card_pos.mpr ⟨x, ht⟩
  have := Finset.card_pos.mpr ⟨x, hm⟩
  unfold load
  simp only [drop, Finset.card_erase_of_mem ht, Finset.card_erase_of_mem hm]
  omega

/-- Who leaves takes no slot with it. -/
theorem load_leave_le (hx : x ∈ h.live) : (h.leave x).load ≤ h.load := by
  have := Finset.card_pos.mpr ⟨x, hx⟩
  unfold load
  simp only [leave, Finset.card_erase_of_mem hx]
  by_cases hm : x ∈ h.marked
  · have := Finset.card_pos.mpr ⟨x, hm⟩
    have := Finset.card_erase_le (s := h.timed) (a := x)
    rw [Finset.card_erase_of_mem hm]
    omega
  · have ht : x ∉ h.timed := fun h' => hm (h.timed_subset h')
    rw [Finset.erase_eq_of_notMem hm, Finset.erase_eq_of_notMem ht]
    omega

/-- Who leaves without a successor frees its slot. -/
theorem load_leave (hx : x ∈ h.live) (ht : x ∈ h.marked → x ∈ h.timed) :
    (h.leave x).load = h.load - 1 := by
  have := Finset.card_pos.mpr ⟨x, hx⟩
  unfold load
  simp only [leave, Finset.card_erase_of_mem hx]
  by_cases hm : x ∈ h.marked
  · have := Finset.card_pos.mpr ⟨x, hm⟩
    have := Finset.card_pos.mpr ⟨x, ht hm⟩
    rw [Finset.card_erase_of_mem hm, Finset.card_erase_of_mem (ht hm)]
    omega
  · have hfree : x ∉ h.timed := fun h' => hm (h.timed_subset h')
    rw [Finset.erase_eq_of_notMem hm, Finset.erase_eq_of_notMem hfree]
    omega

/-- A successor joins and its predecessor is marked: the slot changes hands. -/
theorem load_replace {y : α} (hy : y ∉ h.live) (hx : x ∈ h.live) (hm : x ∉ h.marked) :
    ((h.join y).mark (Finset.mem_insert_of_mem hx : x ∈ (h.join y).live)).load = h.load := by
  rw [load_mark (h.join y) (Finset.mem_insert_of_mem hx) hm, load_join h hy]
  omega

/-- The schedule fires and the successor joins: the promise is kept. -/
theorem load_fulfil {y : α} (hy : y ∉ h.live) (ht : x ∈ h.timed) :
    ((h.fire x).join y).load = h.load := by
  rw [load_join (h.fire x) hy, load_fire h ht]
  omega

end Handover
