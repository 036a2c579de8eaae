import PascalTypes.Proofs.ClassOrder

/-!
# The ancestors of a class

The hierarchy of a class is found by a climb from parent to parent, which notices cycles by the
names it has met.  `ClassTree.WalkedExactly` says what this amounts to.  The climb ends after one
turn more at most than there are classes.  A class has a hierarchy exactly if it is registered and
its parents come to an end, and then the hierarchy is what they come by.  A cycle anywhere on the
way, also one that the class is not part of, leaves it without.
-/

set_option autoImplicit false

namespace PascalTypes.ClassTree

variable {α : Type} {t : ClassTree α} {a : String}

/-- The hierarchy of a class is what the way up its parents comes by.  There is none exactly if this
way has no beginning or no end. -/
structure WalkedExactly (t : ClassTree α) (a : String) : Prop where
  /-- The climb is over in time, and the chain is what it has answered. -/
  ends : ∀ c, t.find? a = some c → ∀ n, t.size + 1 ≤ n → t.climb n c = some (t.chain? a)
  hierarchy_iff : ∀ infos, t.hierarchy? a = some infos ↔
    ∃ c l, t.find? a = some c ∧ t.Ancestry c l ∧ infos = l.map ClassNode.info
  distinct : ∀ c l, t.find? a = some c → t.Ancestry c l →
    l.Pairwise fun x y ↦ sameName x.name y.name = false
  bounded : ∀ c l, t.find? a = some c → t.Ancestry c l → l.length ≤ t.size
  depth : ∀ c l, t.find? a = some c → t.Ancestry c l → t.depth? a = some (l.length - 1)
  none_iff : t.hierarchy? a = none ↔
    t.contains a = false ∨ ∃ c, t.find? a = some c ∧ t.Entangled c

/-- **Hierarchies are exact in every tree that can come up.** -/
theorem walkedExactly_run (naming : ClassNaming α) (changes : List (ClassChange α)) (a : String) :
    (run naming changes).WalkedExactly a := by
  have ht := indexed_run naming changes
  have hclimbed {c l} (hc : (run naming changes).find? a = some c)
      (hl : (run naming changes).Ancestry c l) : (run naming changes).Climbed c (some l) :=
    hl.climbed ht (mem_all_of_find? ht hc)
  refine ⟨fun c hc n hn ↦ climb_eq_chain? ht hc hn, fun infos ↦ ?_,
    fun c l hc hl ↦ (hclimbed hc hl).2.1, fun c l hc hl ↦ ?_, fun c l hc hl ↦ ?_, ?_⟩
  · rw [hierarchy?, Option.map_eq_some_iff]
    simp only [chain?_eq_some_iff ht]
    constructor
    · rintro ⟨l, ⟨c, hc, hl⟩, rfl⟩
      exact ⟨c, l, hc, hl, rfl⟩
    · rintro ⟨c, l, hc, hl, rfl⟩
      exact ⟨l, ⟨c, hc, hl⟩, rfl⟩
  · exact length_le_size ht (hclimbed hc hl).2.1 (hclimbed hc hl).2.2
  · rw [depth?, (chain?_eq_some_iff ht).mpr ⟨c, hc, hl⟩, Option.map_some]
  · rw [hierarchy?, Option.map_eq_none_iff, chain?_eq_none_iff ht, contains_eq_false_iff]

/-- A button has two ancestors.  Below the cycle of two classes there is a third one, which has no
hierarchy although it is on no cycle itself. -/
theorem walkedExactly_tangled :
    (run plainNaming tangled).hierarchy? "button" = some ["", "", "root"] ∧
      (run plainNaming tangled).WalkedExactly "button" ∧
      (run plainNaming tangled).hierarchy? "Below" = none ∧
      ∃ c, (run plainNaming tangled).find? "Below" = some c ∧
        (run plainNaming tangled).Entangled c := by
  have hnone : (run plainNaming tangled).hierarchy? "Below" = none := by decide
  have hcontains : (run plainNaming tangled).contains "Below" ≠ false := by decide
  refine ⟨by decide, walkedExactly_run plainNaming tangled "button", hnone, ?_⟩
  exact ((walkedExactly_run plainNaming tangled "Below").none_iff.mp hnone).resolve_left hcontains

end PascalTypes.ClassTree
