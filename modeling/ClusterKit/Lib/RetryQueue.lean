import Mathlib.Data.List.Basic
import Mathlib.Data.List.Pairwise

/-! The ledger of a queue whose head may be put back at its end. Every request gets a ticket
when it arrives; the ledger writes down which tickets were tried, in the order of their first
tries. Fresh tickets wait in the order of their numbers and behind all that were tried, so a
request that is retried never goes before an older one that was not tried yet. -/

universe u

variable {ε : Type u}

structure RetryLedger (ε : Type u) where
  /-- The number of tickets given out. -/
  issued : Nat := 0
  pending : List (Nat × ε) := []
  inFlight : List (Nat × ε) := []
  /-- The tickets that were tried, the one tried first last. -/
  firstTries : List Nat := []

namespace RetryLedger

/-- The requests with their tickets, from `n` on. -/
def tickets : Nat → List ε → List (Nat × ε)
  | _, [] => []
  | n, x :: xs => (n, x) :: tickets (n + 1) xs

theorem tickets_entries (n : Nat) (xs : List ε) : (tickets n xs).map Prod.snd = xs := by
  induction xs generalizing n with
  | nil => rfl
  | cons x xs ih => rw [tickets, List.map_cons, ih]

theorem tickets_bounds {n : Nat} {xs : List ε} {p : Nat × ε} (h : p ∈ tickets n xs) :
    n ≤ p.1 ∧ p.1 < n + xs.length := by
  induction xs generalizing n with
  | nil => cases h
  | cons x xs ih =>
    rw [List.length_cons]
    rcases List.mem_cons.mp h with rfl | h
    · omega
    · have hbounds := ih h
      omega

theorem tickets_increasing (n : Nat) (xs : List ε) :
    (tickets n xs).Pairwise fun p q => p.1 < q.1 := by
  induction xs generalizing n with
  | nil => exact .nil
  | cons x xs ih => exact .cons (fun q hq => (tickets_bounds hq).1) (ih (n + 1))


/-! ## Operations -/

def arrive (entries : List ε) (l : RetryLedger ε) : RetryLedger ε :=
  { l with
    issued := l.issued + entries.length
    pending := l.pending ++ tickets l.issued entries }

/-- The head of the queue is tried. -/
def take (l : RetryLedger ε) : RetryLedger ε :=
  match l.pending with
  | [] => l
  | p :: rest =>
    { l with
      pending := rest
      inFlight := p :: l.inFlight
      firstTries := if p.1 ∈ l.firstTries then l.firstTries else p.1 :: l.firstTries }

/-- A try is over; from the length of the queue it leaves follows whether the request is put
back or the queue is given up. -/
def settle (after : Nat) (l : RetryLedger ε) : RetryLedger ε :=
  { l with
    inFlight := []
    pending :=
      if after = l.pending.length then l.pending
      else if after = 0 then [] else l.pending ++ l.inFlight }

def drop (l : RetryLedger ε) : RetryLedger ε := { l with pending := [] }

def entries (l : RetryLedger ε) : List ε := l.pending.map Prod.snd

section Entries

variable {l : RetryLedger ε}

theorem entries_arrive (l : RetryLedger ε) (xs : List ε) : (l.arrive xs).entries = l.entries ++ xs := by
  rw [entries, arrive, List.map_append, tickets_entries]
  rfl

theorem entries_take {x : ε} {xs : List ε} (h : l.entries = x :: xs) :
    l.take.entries = xs ∧ l.take.inFlight.map Prod.snd = x :: l.inFlight.map Prod.snd := by
  unfold take
  split
  · rename_i hpending
    rw [entries, hpending] at h
    cases h
  · rename_i p rest hpending
    rw [entries, hpending, List.map_cons] at h
    obtain ⟨rfl, rfl⟩ := List.cons.inj h
    exact ⟨rfl, rfl⟩

/-- The ledger finds out how a try ended. -/
theorem entries_settle {x : ε} {after : List ε} (hflight : l.inFlight.map Prod.snd = [x])
    (h : after = l.entries ∨ after = [] ∨ after = l.entries ++ [x]) :
    (l.settle after.length).entries = after := by
  have hlength : l.pending.length = l.entries.length := List.length_map (f := Prod.snd) |>.symm
  unfold settle
  rw [entries]
  by_cases hdone : after.length = l.pending.length
  · rw [if_pos hdone]
    rcases h with rfl | rfl | rfl
    · rfl
    · exact List.map_eq_nil_iff.mpr (List.eq_nil_of_length_eq_zero hdone.symm)
    · rw [List.length_append, List.length_singleton] at hdone
      omega
  · rw [if_neg hdone]
    rcases h with rfl | rfl | rfl
    · exact absurd hlength.symm hdone
    · rfl
    · rw [if_neg (by simp), List.map_append, hflight]
      rfl

end Entries

/-! ## First in, first tried -/

/-- The tickets that were not tried yet, as they wait. -/
def fresh (l : RetryLedger ε) : List (Nat × ε) :=
  l.pending.filter fun p => decide (p.1 ∉ l.firstTries)

structure Fifo (l : RetryLedger ε) : Prop where
  tried_issued : ∀ k ∈ l.firstTries, k < l.issued
  pending_issued : ∀ p ∈ l.pending, p.1 < l.issued
  inFlight_tried : ∀ p ∈ l.inFlight, p.1 ∈ l.firstTries
  tries : l.firstTries.Pairwise (· > ·)
  waits : l.fresh.Pairwise fun p q => p.1 < q.1
  behind : ∀ p ∈ l.fresh, ∀ k ∈ l.firstTries, k < p.1

namespace Fifo

variable {l : RetryLedger ε}

theorem empty : Fifo ({} : RetryLedger ε) := ⟨nofun, nofun, nofun, .nil, .nil, nofun⟩

theorem mem_fresh {p : Nat × ε} : p ∈ l.fresh ↔ p ∈ l.pending ∧ p.1 ∉ l.firstTries := by
  rw [fresh, List.mem_filter, decide_eq_true_eq]

theorem arrive (h : l.Fifo) (entries : List ε) : (l.arrive entries).Fifo := by
  have hnew : ∀ p ∈ tickets l.issued entries, p.1 ∉ l.firstTries := by
    intro p hp htried
    have hlt := h.tried_issued p.1 htried
    have hge := (tickets_bounds hp).1
    omega
  have hfresh : (l.arrive entries).fresh = l.fresh ++ tickets l.issued entries := by
    have hall : (tickets l.issued entries).filter (fun p => decide (p.1 ∉ l.firstTries)) =
        tickets l.issued entries :=
      List.filter_eq_self.mpr fun p hp => decide_eq_true (hnew p hp)
    rw [fresh, RetryLedger.arrive, List.filter_append, hall]
    rfl
  constructor
  case tried_issued => exact fun k hk => Nat.lt_add_right _ (h.tried_issued k hk)
  case pending_issued =>
    intro p hp
    rcases List.mem_append.mp hp with hp | hp
    · exact Nat.lt_add_right _ (h.pending_issued p hp)
    · exact (tickets_bounds hp).2
  case inFlight_tried => exact h.inFlight_tried
  case tries => exact h.tries
  case waits =>
    rw [hfresh]
    refine List.pairwise_append.mpr ⟨h.waits, tickets_increasing _ _, fun p hp q hq => ?_⟩
    exact Nat.lt_of_lt_of_le (h.pending_issued p (mem_fresh.mp hp).1) (tickets_bounds hq).1
  case behind =>
    intro p hp k hk
    rw [hfresh] at hp
    rcases List.mem_append.mp hp with hp | hp
    · exact h.behind p hp k hk
    · exact Nat.lt_of_lt_of_le (h.tried_issued k hk) (tickets_bounds hp).1

/-- Whatever is tried first is older than all that wait fresh. -/
theorem take (h : l.Fifo) : l.take.Fifo := by
  unfold RetryLedger.take
  split
  · exact h
  · rename_i p rest hpending
    have hmem : p ∈ l.pending := hpending ▸ List.mem_cons_self
    have hrest : ∀ q ∈ rest, q ∈ l.pending := fun q hq => hpending ▸ List.mem_cons_of_mem _ hq
    have hwaits := h.waits
    by_cases htried : p.1 ∈ l.firstTries
    · have hfresh : l.fresh = rest.filter fun q => decide (q.1 ∉ l.firstTries) := by
        rw [fresh, hpending, List.filter_cons_of_neg (by simpa using htried)]
      rw [if_pos htried]
      constructor
      case tried_issued => exact h.tried_issued
      case pending_issued => exact fun q hq => h.pending_issued q (hrest q hq)
      case inFlight_tried =>
        intro q hq
        rcases List.mem_cons.mp hq with rfl | hq
        · exact htried
        · exact h.inFlight_tried q hq
      case tries => exact h.tries
      case waits =>
        rw [hfresh] at hwaits
        exact hwaits
      case behind =>
        intro q hq
        exact h.behind q (hfresh.symm ▸ hq)
    · have hhead : p ∈ l.fresh := mem_fresh.mpr ⟨hmem, htried⟩
      have hfresh : l.fresh = p :: rest.filter fun q => decide (q.1 ∉ l.firstTries) := by
        rw [fresh, hpending, List.filter_cons_of_pos (by simpa using htried)]
      rw [hfresh, List.pairwise_cons] at hwaits
      rw [if_neg htried]
      constructor
      case tried_issued =>
        intro k hk
        rcases List.mem_cons.mp hk with rfl | hk
        · exact h.pending_issued p hmem
        · exact h.tried_issued k hk
      case pending_issued => exact fun q hq => h.pending_issued q (hrest q hq)
      case inFlight_tried =>
        intro q hq
        rcases List.mem_cons.mp hq with rfl | hq
        · exact List.mem_cons_self
        · exact List.mem_cons_of_mem _ (h.inFlight_tried q hq)
      case tries => exact .cons (fun k hk => h.behind p hhead k hk) h.tries
      case waits =>
        refine List.Pairwise.sublist ?_ hwaits.2
        refine List.monotone_filter_right _ fun q hq => ?_
        rw [decide_eq_true_eq] at hq ⊢
        exact fun hk => hq (List.mem_cons_of_mem _ hk)
      case behind =>
        intro q hq k hk
        obtain ⟨hqrest, hqfresh⟩ := mem_fresh.mp hq
        have hqold : q.1 ∉ l.firstTries := fun hk => hqfresh (List.mem_cons_of_mem _ hk)
        rcases List.mem_cons.mp hk with rfl | hk
        · exact hwaits.1 q (List.mem_filter.mpr ⟨hqrest, decide_eq_true hqold⟩)
        · exact h.behind q (mem_fresh.mpr ⟨hrest q hqrest, hqold⟩) k hk

/-- Requests that are put back are not fresh. -/
theorem of_pending (h : l.Fifo) {pending inFlight : List (Nat × ε)}
    (hpending : ∀ p ∈ pending, p.1 < l.issued) (hflight : ∀ p ∈ inFlight, p ∈ l.inFlight)
    (hfresh : (pending.filter fun p => decide (p.1 ∉ l.firstTries)).Sublist l.fresh) :
    ({ l with pending := pending, inFlight := inFlight } : RetryLedger ε).Fifo where
  tried_issued := h.tried_issued
  pending_issued := hpending
  inFlight_tried p hp := h.inFlight_tried p (hflight p hp)
  tries := h.tries
  waits := h.waits.sublist hfresh
  behind p hp := h.behind p (hfresh.subset hp)

theorem settle (h : l.Fifo) (after : Nat) : (l.settle after).Fifo := by
  unfold RetryLedger.settle
  split
  · exact h.of_pending h.pending_issued nofun (List.Sublist.refl _)
  · split
    · exact h.of_pending nofun nofun (List.nil_sublist _)
    · refine h.of_pending (fun p hp => ?_) nofun ?_
      · rcases List.mem_append.mp hp with hp | hp
        · exact h.pending_issued p hp
        · exact h.tried_issued p.1 (h.inFlight_tried p hp)
      · have hback : l.inFlight.filter (fun p => decide (p.1 ∉ l.firstTries)) = [] := by
          refine List.filter_eq_nil_iff.mpr fun p hp => ?_
          simpa using h.inFlight_tried p hp
        rw [List.filter_append, hback, List.append_nil]
        exact List.Sublist.refl _

theorem drop (h : l.Fifo) : l.drop.Fifo :=
  h.of_pending nofun (fun _ hp => hp) (List.nil_sublist _)

end Fifo

end RetryLedger
