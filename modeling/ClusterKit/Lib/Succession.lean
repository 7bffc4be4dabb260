import Mathlib.Combinatorics.Enumerative.DoubleCounting
import Mathlib.Data.Finset.Card
import Mathlib.Logic.Relation

/-! Members of a group that succeed each other. A member that retires has a successor that
is up, or that retired in turn; then every founder has a descendant of its own that is up
and did not retire. -/

universe u

open Relation

/-- `next a b`: `b` came after `a` to succeed it. A member succeeds at most one other. -/
structure Succession (α : Type u) [LinearOrder α] where
  members : Finset α
  next : α → α → Prop
  up : α → Prop
  retired : α → Prop
  lt_of_next : ∀ {a b}, next a b → a < b
  mem_of_next : ∀ {a b}, next a b → b ∈ members
  unique : ∀ {a a' b}, next a b → next a' b → a = a'
  succeeded : ∀ {a}, retired a → ∃ b, next a b ∧ (up b ∨ retired b)

namespace Succession

variable {α : Type u} [LinearOrder α] (S : Succession α)

/-- Nobody was there before it. -/
def Founder (a : α) : Prop := ∀ b, ¬ S.next b a

/-- It is up and did not retire. -/
def Serves (a : α) : Prop := S.up a ∧ ¬ S.retired a

variable {S} {a a' b : α}

/-- A member that is up or retired has a descendant that serves: successors come later, and
there are finitely many. -/
theorem exists_serves (hmem : a ∈ S.members) (h : S.up a ∨ S.retired a) :
    ∃ b ∈ S.members, ReflTransGen S.next a b ∧ S.Serves b := by
  have hlater (n : Nat) : ∀ a ∈ S.members, (S.members.filter fun x => a < x).card ≤ n →
      S.up a ∨ S.retired a → ∃ b ∈ S.members, ReflTransGen S.next a b ∧ S.Serves b := by
    induction n with
    | zero =>
      intro a hmem hcard h
      by_cases hret : S.retired a
      · obtain ⟨b, hb, -⟩ := S.succeeded hret
        have hlast := Finset.card_eq_zero.mp (Nat.le_zero.mp hcard)
        have hb' : b ∈ S.members.filter fun x => a < x :=
          Finset.mem_filter.mpr ⟨S.mem_of_next hb, S.lt_of_next hb⟩
        rw [hlast] at hb'
        exact absurd hb' (Finset.notMem_empty b)
      · exact ⟨a, hmem, .refl, h.resolve_right hret, hret⟩
    | succ n ih =>
      intro a hmem hcard h
      by_cases hret : S.retired a
      · obtain ⟨b, hb, hup⟩ := S.succeeded hret
        have hlt := S.lt_of_next hb
        have hsub : (S.members.filter fun x => b < x) ⊂ S.members.filter fun x => a < x := by
          refine (Finset.ssubset_iff_of_subset fun x hx => ?_).mpr ⟨b, ?_, ?_⟩
          · obtain ⟨hx, hbx⟩ := Finset.mem_filter.mp hx
            exact Finset.mem_filter.mpr ⟨hx, hlt.trans hbx⟩
          · exact Finset.mem_filter.mpr ⟨S.mem_of_next hb, hlt⟩
          · simp
        have hsmaller := Finset.card_lt_card hsub
        obtain ⟨c, hc, hbc, hserves⟩ := ih b (S.mem_of_next hb) (by omega) hup
        exact ⟨c, hc, .head hb hbc, hserves⟩
      · exact ⟨a, hmem, .refl, h.resolve_right hret, hret⟩
  exact hlater _ a hmem le_rfl h

/-- A member descends from one founder only. -/
theorem founder_unique (ha : S.Founder a) (ha' : S.Founder a') (h : ReflTransGen S.next a b)
    (h' : ReflTransGen S.next a' b) : a = a' := by
  have hback : Relator.RightUnique (Function.swap S.next) := fun _ _ _ hx hy => S.unique hx hy
  have hnone {x y : α} (hx : S.Founder x) (hxy : ReflTransGen (Function.swap S.next) x y) :
      x = y := by
    rcases hxy.cases_head with rfl | ⟨z, hz, -⟩
    · rfl
    · exact absurd hz (hx z)
  rcases ReflTransGen.total_of_right_unique hback (reflTransGen_swap.mpr h)
    (reflTransGen_swap.mpr h') with hchain | hchain
  · exact hnone ha hchain
  · exact (hnone ha' hchain).symm

/-- **Succession.** Founders that were ever up never outnumber those who serve. -/
theorem card_founders_le [DecidablePred S.Serves] {founders : Finset α}
    (hsub : founders ⊆ S.members) (hf : ∀ a ∈ founders, S.Founder a)
    (hup : ∀ a ∈ founders, S.up a ∨ S.retired a) :
    founders.card ≤ (S.members.filter S.Serves).card := by
  apply Finset.card_le_card_of_forall_subsingleton (ReflTransGen S.next)
  · intro a ha
    obtain ⟨b, hb, hab, hserves⟩ := exists_serves (hsub ha) (hup a ha)
    exact ⟨b, Finset.mem_filter.mpr ⟨hb, hserves⟩, hab⟩
  · intro b _ a ⟨ha, hab⟩ a' ⟨ha', hab'⟩
    exact founder_unique (hf a ha) (hf a' ha') hab hab'

end Succession
