import Mathlib.Data.Option.Basic

/-! A buffer that coalesces partial maps until it hands them over: every put merges into
what is pending, later values win, and a hand-over empties the buffer. Others may hand
over payloads of their own. The question is whether every put reaches a hand-over. -/

universe u v

namespace Coalesce

variable {κ : Type u} {ν : Type v}

/-- The keys that a put sets, with their values. -/
abbrev Patch (κ : Type u) (ν : Type v) := κ → Option ν

/-- `base` with the keys that `new` sets. -/
def Patch.update (base new : Patch κ ν) : Patch κ ν := fun key =>
  match new key with
  | some v => some v
  | none => base key

/-- A put or a hand-over; `none` is one without a patch. -/
inductive Entry (κ : Type u) (ν : Type v) where
  | put (patch : Option (Patch κ ν))
  | handed (payload : Option (Patch κ ν))

def Entry.isPut : Entry κ ν → Bool
  | .put _ => true
  | .handed _ => false

def Entry.sets (key : κ) : Entry κ ν → Prop
  | .put (some patch) => (patch key).isSome = true
  | _ => False

/-- A put merges into what is pending. -/
def merge (pending : Option (Patch κ ν)) : Option (Patch κ ν) → Option (Patch κ ν)
  | none => pending
  | some patch => some (Patch.update (pending.getD fun _ => none) patch)

/-- `payload` has what `patch` sets, save the keys that were set again in `later`. -/
def Carried (later : List (Entry κ ν)) (patch payload : Option (Patch κ ν)) : Prop :=
  ∀ p, patch = some p → ∀ key v, p key = some v →
    (∃ q, payload = some q ∧ q key = some v) ∨ ∃ entry ∈ later, entry.sets key

/-- A hand-over in `later` carried `patch`. -/
def HandedOver (later : List (Entry κ ν)) (patch : Option (Patch κ ν)) : Prop :=
  ∃ newest payload between, later = newest ++ .handed payload :: between ∧
    Carried between patch payload

/-- Every put of `log`, newest first, was handed over or is carried by the buffer. -/
def NothingLost (buffer : Option (Option (Patch κ ν))) (log : List (Entry κ ν)) : Prop :=
  ∀ later patch earlier, log = later ++ .put patch :: earlier →
    HandedOver later patch ∨ ∃ pending, buffer = some pending ∧ Carried later patch pending

variable {later log : List (Entry κ ν)} {patch payload : Option (Patch κ ν)}
  {buffer : Option (Option (Patch κ ν))}

theorem Carried.cons (h : Carried later patch payload) (entry : Entry κ ν) :
    Carried (entry :: later) patch payload := by
  intro p hp key v hv
  rcases h p hp key v hv with hq | ⟨x, hx, hs⟩
  · exact .inl hq
  · exact .inr ⟨x, List.mem_cons_of_mem _ hx, hs⟩

/-- A put sets a key again or leaves it alone. -/
theorem Carried.put (h : Carried later patch payload) (new : Option (Patch κ ν)) :
    Carried (.put new :: later) patch (merge payload new) := by
  cases new with
  | none => exact h.cons _
  | some n =>
    intro p hp key v hv
    cases hn : n key with
    | some w =>
      refine .inr ⟨.put (some n), List.mem_cons_self, ?_⟩
      simp [Entry.sets, hn]
    | none =>
      rcases h p hp key v hv with ⟨q, rfl, hq⟩ | ⟨x, hx, hs⟩
      · exact .inl ⟨_, rfl, by simp [Patch.update, hn, hq]⟩
      · exact .inr ⟨x, List.mem_cons_of_mem _ hx, hs⟩

theorem carried_merge (pending new : Option (Patch κ ν)) : Carried [] new (merge pending new) := by
  intro p hp key v hv
  subst hp
  exact .inl ⟨_, rfl, by simp [Patch.update, hv]⟩

theorem HandedOver.cons (h : HandedOver later patch) (entry : Entry κ ν) :
    HandedOver (entry :: later) patch := by
  obtain ⟨newest, payload, between, rfl, hc⟩ := h
  exact ⟨entry :: newest, payload, between, rfl, hc⟩

theorem Carried.handedOver (h : Carried later patch payload) :
    HandedOver (.handed payload :: later) patch :=
  ⟨[], payload, later, rfl, h⟩

theorem exists_put_of_head (h : log.head?.any Entry.isPut = true) :
    ∃ patch earlier, log = [] ++ .put patch :: earlier := by
  cases log with
  | nil => cases h
  | cons entry earlier =>
    cases entry with
    | put patch => exact ⟨patch, earlier, rfl⟩
    | handed payload => cases h

theorem not_handedOver_nil (patch : Option (Patch κ ν)) : ¬ HandedOver [] patch := by
  rintro ⟨newest, payload, between, heq, -⟩
  simp at heq

/-! ## The operations of the buffer -/

namespace NothingLost

theorem nil : NothingLost buffer ([] : List (Entry κ ν)) := by
  intro later patch earlier h
  simp at h

/-- A put on top of `pending`, which is all that the buffer has, if it has anything. -/
theorem put (h : NothingLost buffer log) {pending : Option (Patch κ ν)}
    (hb : ∀ p, buffer = some p → p = pending) (new : Option (Patch κ ν)) :
    NothingLost (some (merge pending new)) (.put new :: log) := by
  intro later patch earlier heq
  rcases List.cons_eq_append_iff.mp heq with ⟨rfl, hput⟩ | ⟨later, rfl, rfl⟩
  · obtain ⟨hpatch, -⟩ := List.cons.inj hput
    cases hpatch
    exact .inr ⟨_, rfl, carried_merge pending new⟩
  · rcases h later patch earlier rfl with hover | ⟨p, hp, hc⟩
    · exact .inl (hover.cons _)
    · rw [hb p hp] at hc
      exact .inr ⟨_, rfl, hc.put new⟩

/-- A hand-over by somebody else. -/
theorem handed (h : NothingLost buffer log) (payload : Option (Patch κ ν)) :
    NothingLost buffer (.handed payload :: log) := by
  intro later patch earlier heq
  rcases List.cons_eq_append_iff.mp heq with ⟨rfl, hput⟩ | ⟨later, rfl, rfl⟩
  · cases (List.cons.inj hput).1
  · rcases h later patch earlier rfl with hover | ⟨p, hp, hc⟩
    · exact .inl (hover.cons _)
    · exact .inr ⟨p, hp, hc.cons _⟩

/-- The buffer is handed over. -/
theorem handOver {pending : Option (Patch κ ν)} (h : NothingLost (some pending) log) :
    NothingLost none (.handed pending :: log) := by
  intro later patch earlier heq
  rcases List.cons_eq_append_iff.mp heq with ⟨rfl, hput⟩ | ⟨later, rfl, rfl⟩
  · cases (List.cons.inj hput).1
  · rcases h later patch earlier rfl with hover | ⟨p, hp, hc⟩
    · exact .inl (hover.cons _)
    · rw [Option.some.inj hp]
      exact .inl hc.handedOver

end NothingLost

end Coalesce
