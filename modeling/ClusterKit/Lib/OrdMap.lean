import Mathlib.Data.Finset.Card

/-! Finite maps on natural keys that remember insertion order: overwriting a key
keeps its place, deleting forgets it. The entries carry the proof that no key
occurs twice, so the size is the number of keys. -/

universe u

structure OrdMap (α : Type u) where
  entries : List (Nat × α)
  nodup : (entries.map Prod.fst).Nodup

namespace OrdMap

variable {α : Type u}

def empty : OrdMap α := ⟨[], List.nodup_nil⟩

instance : Inhabited (OrdMap α) := ⟨empty⟩

def keys (m : OrdMap α) : List Nat := m.entries.map Prod.fst

/-- The keys as a set, for counting. -/
def keySet (m : OrdMap α) : Finset Nat := m.keys.toFinset

def size (m : OrdMap α) : Nat := m.entries.length

def get? (m : OrdMap α) (k : Nat) : Option α :=
  (m.entries.find? (fun p => p.1 == k)).map Prod.snd

def has (m : OrdMap α) (k : Nat) : Bool := m.keys.contains k

theorem fst_replace (k : Nat) (v : α) (l : List (Nat × α)) :
    (l.map fun p => if p.1 = k then (k, v) else p).map Prod.fst = l.map Prod.fst := by
  induction l with
  | nil => rfl
  | cons p l ih =>
    by_cases h : p.1 = k
    · simp [h, ih]
    · simp [h, ih]

/-- Overwrite in place, or append a new key. -/
def set (m : OrdMap α) (k : Nat) (v : α) : OrdMap α :=
  if h : k ∈ m.keys then
    ⟨m.entries.map fun p => if p.1 = k then (k, v) else p, by rw [fst_replace]; exact m.nodup⟩
  else
    ⟨m.entries ++ [(k, v)], by
      rw [List.map_append]
      exact List.Nodup.append m.nodup (List.nodup_singleton k)
        (List.disjoint_singleton.mpr h)⟩

def delete (m : OrdMap α) (k : Nat) : OrdMap α :=
  ⟨m.entries.filter fun p => p.1 != k,
    m.nodup.sublist (List.filter_sublist.map Prod.fst)⟩

@[simp] theorem mem_keySet (m : OrdMap α) (k : Nat) : k ∈ m.keySet ↔ k ∈ m.keys := by
  simp [keySet]

theorem card_keySet (m : OrdMap α) : m.keySet.card = m.size := by
  rw [keySet, List.toFinset_card_of_nodup (l := m.keys) m.nodup, keys, List.length_map, size]

theorem mem_keySet_iff (m : OrdMap α) (k : Nat) : k ∈ m.keySet ↔ ∃ v, (k, v) ∈ m.entries := by
  rw [mem_keySet, keys, List.mem_map]
  constructor
  · rintro ⟨p, hp, rfl⟩
    exact ⟨p.2, hp⟩
  · rintro ⟨v, hv⟩
    exact ⟨(k, v), hv, rfl⟩

theorem entries_set_of_mem {m : OrdMap α} {k : Nat} (h : k ∈ m.keys) (v : α) :
    (m.set k v).entries = m.entries.map fun p => if p.1 = k then (k, v) else p := by
  rw [set, dif_pos h]

theorem entries_set_of_not_mem {m : OrdMap α} {k : Nat} (h : k ∉ m.keys) (v : α) :
    (m.set k v).entries = m.entries ++ [(k, v)] := by
  rw [set, dif_neg h]

theorem mem_entries_set (m : OrdMap α) (k : Nat) (v : α) (p : Nat × α) :
    p ∈ (m.set k v).entries ↔ p = (k, v) ∨ (p ∈ m.entries ∧ p.1 ≠ k) := by
  by_cases h : k ∈ m.keys
  · rw [entries_set_of_mem h, List.mem_map]
    constructor
    · rintro ⟨q, hq, rfl⟩
      by_cases hk : q.1 = k
      · simp [hk]
      · simp [hk, hq]
    · rintro (rfl | ⟨hp, hne⟩)
      · obtain ⟨q, hq, hk⟩ := List.mem_map.mp h
        exact ⟨q, hq, by simp [hk]⟩
      · exact ⟨p, hp, by simp [hne]⟩
  · rw [entries_set_of_not_mem h, List.mem_append, List.mem_singleton]
    constructor
    · rintro (hp | hp)
      · exact Or.inr ⟨hp, fun hk => h (hk ▸ List.mem_map_of_mem hp)⟩
      · exact Or.inl hp
    · rintro (hp | hp)
      · exact Or.inr hp
      · exact Or.inl hp.1

@[simp] theorem mem_entries_delete (m : OrdMap α) (k : Nat) (p : Nat × α) :
    p ∈ (m.delete k).entries ↔ p ∈ m.entries ∧ p.1 ≠ k := by
  simp [delete]

@[simp] theorem keySet_set (m : OrdMap α) (k : Nat) (v : α) :
    (m.set k v).keySet = insert k m.keySet := by
  ext j
  simp only [mem_keySet_iff, mem_entries_set, Finset.mem_insert, Prod.mk.injEq]
  constructor
  · rintro ⟨w, ⟨rfl, _⟩ | ⟨hw, _⟩⟩
    · exact Or.inl rfl
    · exact Or.inr ⟨w, hw⟩
  · by_cases hj : j = k
    · exact fun _ => ⟨v, Or.inl ⟨hj, rfl⟩⟩
    · rintro (rfl | ⟨w, hw⟩)
      · exact absurd rfl hj
      · exact ⟨w, Or.inr ⟨hw, hj⟩⟩

@[simp] theorem keySet_delete (m : OrdMap α) (k : Nat) :
    (m.delete k).keySet = m.keySet.erase k := by
  ext j
  simp only [mem_keySet_iff, mem_entries_delete, Finset.mem_erase]
  constructor
  · rintro ⟨w, hw, hne⟩
    exact ⟨hne, w, hw⟩
  · rintro ⟨hne, w, hw⟩
    exact ⟨w, hw, hne⟩

/-- Looking a key up finds the entry, if there is one. -/
theorem get?_eq_some (m : OrdMap α) (k : Nat) (v : α) :
    m.get? k = some v ↔ (k, v) ∈ m.entries := by
  have hn := m.nodup
  rw [get?]
  generalize m.entries = l at hn
  induction l with
  | nil => simp
  | cons p l ih =>
    rw [List.map_cons, List.nodup_cons] at hn
    by_cases hp : p.1 = k
    · have hk : ∀ w, (k, w) ∉ l := fun w hw => hn.1 (hp ▸ List.mem_map_of_mem hw)
      rw [List.find?_cons_of_pos (by simpa using hp)]
      constructor
      · rintro h
        rw [Option.map_some, Option.some.injEq] at h
        exact List.mem_cons.mpr (Or.inl (Prod.ext hp.symm h.symm))
      · intro h
        rcases List.mem_cons.mp h with h | h
        · rw [Option.map_some, ← h]
        · exact absurd h (hk v)
    · rw [List.find?_cons_of_neg (by simpa using hp)]
      refine (ih hn.2).trans ?_
      rw [List.mem_cons]
      constructor
      · exact Or.inr
      · rintro (h | h)
        · exact absurd (congrArg Prod.fst h).symm hp
        · exact h

theorem get?_isSome (m : OrdMap α) (k : Nat) : (m.get? k).isSome ↔ k ∈ m.keySet := by
  rw [Option.isSome_iff_exists, mem_keySet, keys, List.mem_map]
  constructor
  · rintro ⟨v, hv⟩
    exact ⟨(k, v), (get?_eq_some m k v).mp hv, rfl⟩
  · rintro ⟨p, hp, rfl⟩
    exact ⟨p.2, (get?_eq_some m p.1 p.2).mpr hp⟩

theorem get?_set (m : OrdMap α) (k j : Nat) (v : α) :
    (m.set k v).get? j = if j = k then some v else m.get? j := by
  apply Option.ext
  intro w
  rw [get?_eq_some, mem_entries_set]
  by_cases hj : j = k
  · simp [hj, eq_comm]
  · simp [hj, get?_eq_some]

theorem get?_delete (m : OrdMap α) (k j : Nat) :
    (m.delete k).get? j = if j = k then none else m.get? j := by
  apply Option.ext
  intro w
  rw [get?_eq_some, mem_entries_delete]
  by_cases hj : j = k
  · simp [hj]
  · simp [hj, get?_eq_some]

end OrdMap
