import Mathlib.Logic.Relation
import PascalTypes.ClassTree
import PascalTypes.Proofs.IndexedMap

/-!
# Climbing from parent to parent

`ClassTree.chain?` is worked out by a climb, a loop that keeps the names it has met.  This file says
what it finds without a word about turns or sets of names:

* `ClassTree.Ancestry c l` means that `l` is `c` followed by its registered parent, the parent of
  that one, and so on up to a class with no registered parent;
* `ClassTree.Entangled c` means that the parents of `c` come by a class that is its own ancestor.
  This need not be `c`.

`Climbing` is the invariant of the loop.  The classes that lie behind a climb are those whose names
were met.  They are different classes of the tree, so they cannot be more than the tree has, and the
climb comes to an end (`exists_climb`).  It ends at a class without a parent, and then the classes
behind it are an ancestry, or at a name that was met.  In that case the class is one of those behind
it, and so its own ancestor.

A class of the tree must be found under the name it carries, or a climb could come by a class and
not by its name.  `NameMap.Indexed` is that assumption.
-/

set_option autoImplicit false

namespace PascalTypes.ClassTree

variable {α : Type} {t : ClassTree α} {a b : String} {c d p : ClassNode α}
  {l : List (ClassNode α)} {s s' : Climb α} {answer : Option (List (ClassNode α))} {n : Nat}

/-! ## Classes and their names -/

theorem find?_congr (t : ClassTree α) (h : sameName a b = true) : t.find? a = t.find? b :=
  t.classes.get?_congr h

theorem find?_name_iff (ht : t.classes.Indexed ClassNode.name) :
    t.find? c.name = some c ↔ c ∈ t.all := by
  rw [find?, ht.get?_eq_some_iff, and_iff_left (sameName_refl _)]
  rfl

theorem mem_all_of_find? (ht : t.classes.Indexed ClassNode.name) (h : t.find? a = some c) :
    c ∈ t.all :=
  (ht.get?_eq_some_iff.mp h).1

theorem contains_eq_false_iff : t.contains a = false ↔ t.find? a = none := by
  rw [contains, NameMap.contains_eq_isSome_get?, Option.isSome_eq_false_iff,
    Option.isNone_iff_eq_none]
  rfl

theorem exists_of_contains (h : t.contains a = true) : ∃ c, t.find? a = some c := by
  rw [contains, NameMap.contains_eq_isSome_get?] at h
  exact Option.isSome_iff_exists.mp h

/-- There is one class under a name. -/
theorem eq_of_sameName (ht : t.classes.Indexed ClassNode.name) (hc : c ∈ t.all) (hd : d ∈ t.all)
    (h : sameName c.name d.name = true) : c = d := by
  rw [← find?_name_iff ht] at hc hd
  exact Option.some.inj (hc.symm.trans ((t.find?_congr h).trans hd))

/-- Classes with different names are no more than the tree has. -/
theorem length_le_size (ht : t.classes.Indexed ClassNode.name)
    (hdistinct : l.Pairwise fun x y ↦ sameName x.name y.name = false) (hmem : ∀ x ∈ l, x ∈ t.all) :
    l.length ≤ t.size := by
  have hkeys : (l.map fun x ↦ NameKey.of x.name).Nodup := by
    refine List.pairwise_map.mpr (hdistinct.imp fun {x y} hxy hkey ↦ ?_)
    rw [NameKey.of_eq_of_iff.mp hkey] at hxy
    exact Bool.noConfusion hxy
  have hsub : (l.map fun x ↦ NameKey.of x.name) ⊆ t.classes.entries.map NameEntry.key := by
    intro k hk
    obtain ⟨x, hx, rfl⟩ := List.mem_map.mp hk
    obtain ⟨e, he, rfl⟩ := List.mem_map.mp (hmem x hx)
    exact List.mem_map.mpr ⟨e, he, ht.keyed e he⟩
  simpa [size, NameMap.size] using hkeys.length_le_of_subset hsub

/-! ## Ancestries and cycles -/

/-- The second class is registered, and is the parent of the first one. -/
def Under (t : ClassTree α) (c p : ClassNode α) : Prop :=
  t.parent? c = some p

theorem Under.mem_all (h : t.Under c p) (ht : t.classes.Indexed ClassNode.name) : p ∈ t.all := by
  obtain ⟨q, -, hq⟩ := Option.bind_eq_some_iff.mp h
  exact mem_all_of_find? ht hq

/-- A class and its ancestors, up to one that has no registered parent. -/
inductive Ancestry (t : ClassTree α) : ClassNode α → List (ClassNode α) → Prop
  | root {c : ClassNode α} (h : t.parent? c = none) : Ancestry t c [c]
  | up {c p : ClassNode α} {l : List (ClassNode α)} (h : t.Under c p) (hl : Ancestry t p l) :
      Ancestry t c (c :: l)

/-- The class, or one of its ancestors, is its own ancestor. -/
def Entangled (t : ClassTree α) (c : ClassNode α) : Prop :=
  ∃ d, Relation.ReflTransGen t.Under c d ∧ Relation.TransGen t.Under d d

theorem Ancestry.unique {l' : List (ClassNode α)} (h : t.Ancestry c l) (h' : t.Ancestry c l') :
    l = l' := by
  induction h generalizing l' with
  | root hroot =>
    cases h' with
    | root => rfl
    | up hp => exact absurd (hroot.symm.trans hp) (by simp)
  | up hp _ ih =>
    cases h' with
    | root hroot => exact absurd (hroot.symm.trans hp) (by simp)
    | up hq hrest =>
      obtain rfl := Option.some.inj (hp.symm.trans hq)
      rw [ih hrest]

/-- One step up leaves less to climb. -/
theorem Ancestry.exists_of_under (h : t.Ancestry c l) (hp : t.Under c p) :
    ∃ rest, t.Ancestry p rest ∧ rest.length < l.length := by
  cases h with
  | root hroot => exact absurd (hroot.symm.trans hp) (by simp)
  | up hq hrest =>
    obtain rfl := Option.some.inj (hq.symm.trans hp)
    exact ⟨_, hrest, by simp⟩

theorem Ancestry.exists_of_transGen (h : t.Ancestry c l) (hd : Relation.TransGen t.Under c d) :
    ∃ rest, t.Ancestry d rest ∧ rest.length < l.length := by
  induction hd with
  | single hp => exact h.exists_of_under hp
  | tail _ hp ih =>
    obtain ⟨rest, hrest, hlt⟩ := ih
    obtain ⟨rest', hrest', hlt'⟩ := hrest.exists_of_under hp
    exact ⟨rest', hrest', Nat.lt_trans hlt' hlt⟩

theorem Ancestry.not_entangled (h : t.Ancestry c l) : ¬t.Entangled c := by
  rintro ⟨d, hd, hcycle⟩
  obtain ⟨back, hback⟩ : ∃ back, t.Ancestry d back := by
    rcases Relation.reflTransGen_iff_eq_or_transGen.mp hd with rfl | hd
    · exact ⟨l, h⟩
    · obtain ⟨back, hback, -⟩ := h.exists_of_transGen hd
      exact ⟨back, hback⟩
  -- once round the cycle, the same ancestry would have become shorter
  obtain ⟨back', hback', hlt⟩ := hback.exists_of_transGen hcycle
  rw [hback.unique hback'] at hlt
  exact Nat.lt_irrefl _ hlt

theorem Entangled.under (h : t.Entangled p) (hp : t.Under c p) : t.Entangled c := by
  obtain ⟨d, hd, hcycle⟩ := h
  exact ⟨d, hd.head hp, hcycle⟩

/-! ## One turn -/

/-- **What a turn of a climb can do.** -/
theorem climbTurn_cases (t : ClassTree α) (s : Climb α) :
    s.met.contains s.here.name = true ∧ t.climbTurn s = .done none ∨
      s.met.contains s.here.name = false ∧ t.parent? s.here = none ∧
        t.climbTurn s = .done (some (s.chain ++ [s.here])) ∨
      s.met.contains s.here.name = false ∧ ∃ up, t.Under s.here up ∧
        t.climbTurn s =
          .again ⟨up, ⟨NameKey.of s.here.name :: s.met.keys⟩, s.chain ++ [s.here]⟩ := by
  rw [climbTurn]
  cases hmet : s.met.contains s.here.name with
  | true =>
    rw [NameSet.insert_of_contains hmet]
    exact .inl ⟨rfl, rfl⟩
  | false =>
    rw [NameSet.insert_of_not_contains hmet]
    cases hup : t.parent? s.here with
    | none => exact .inr (.inl ⟨rfl, rfl, rfl⟩)
    | some up => exact .inr (.inr ⟨rfl, up, hup, rfl⟩)

/-- A climb from `c` on the way. -/
structure Climbing (t : ClassTree α) (c : ClassNode α) (s : Climb α) : Prop where
  /-- The names that were met are those of the classes behind. -/
  met_eq : s.met.keys = (s.chain.map fun d ↦ NameKey.of d.name).reverse
  distinct : s.chain.Pairwise fun x y ↦ sameName x.name y.name = false
  known : ∀ d ∈ s.chain ++ [s.here], d ∈ t.all
  below : ∀ d ∈ s.chain, Relation.TransGen t.Under d s.here
  reached : Relation.ReflTransGen t.Under c s.here
  /-- Whatever is above completes the classes behind. -/
  completes : ∀ rest, t.Ancestry s.here rest → t.Ancestry c (s.chain ++ rest)

/-- What a climb from `c` can answer. -/
def Climbed (t : ClassTree α) (c : ClassNode α) : Option (List (ClassNode α)) → Prop
  | none => t.Entangled c
  | some l => t.Ancestry c l ∧ (l.Pairwise fun x y ↦ sameName x.name y.name = false) ∧
    ∀ d ∈ l, d ∈ t.all

namespace Climbing

theorem start (hc : c ∈ t.all) : t.Climbing c { here := c } where
  met_eq := rfl
  distinct := .nil
  known := by simpa using hc
  below := by simp
  reached := .refl
  completes _ h := h

theorem contains_iff (h : t.Climbing c s) :
    s.met.contains s.here.name = true ↔ ∃ d ∈ s.chain, sameName d.name s.here.name = true := by
  simp [NameSet.contains, h.met_eq, NameKey.of_eq_of_iff]

/-- A class whose name was not met is different from all classes behind. -/
theorem distinct_concat (h : t.Climbing c s) (hnew : s.met.contains s.here.name = false) :
    (s.chain ++ [s.here]).Pairwise fun x y ↦ sameName x.name y.name = false := by
  refine List.pairwise_append.mpr ⟨h.distinct, List.pairwise_singleton _ _, fun x hx y hy ↦ ?_⟩
  rw [List.mem_singleton.mp hy, ← Bool.not_eq_true]
  intro hsame
  rw [h.contains_iff.mpr ⟨x, hx, hsame⟩] at hnew
  cases hnew

/-- **A turn that goes on keeps the invariant**, and there is one class less that it could meet. -/
theorem again (ht : t.classes.Indexed ClassNode.name) (h : t.Climbing c s)
    (hturn : t.climbTurn s = .again s') :
    t.Climbing c s' ∧ t.size - s'.chain.length < t.size - s.chain.length := by
  rcases t.climbTurn_cases s with ⟨-, hs⟩ | ⟨-, -, hs⟩ | ⟨hnew, up, hup, hs⟩
  · cases hturn.symm.trans hs
  · cases hturn.symm.trans hs
  · cases hturn.symm.trans hs
    have hdistinct := h.distinct_concat hnew
    have hlen := length_le_size ht hdistinct h.known
    refine ⟨⟨by simp [h.met_eq], hdistinct, ?_, ?_, h.reached.tail hup, fun rest hrest ↦ ?_⟩, ?_⟩
    · exact List.forall_mem_append.mpr ⟨h.known, by simpa using hup.mem_all ht⟩
    · refine List.forall_mem_append.mpr ⟨fun d hd ↦ (h.below d hd).tail hup, ?_⟩
      simpa using Relation.TransGen.single hup
    · simpa using h.completes _ (.up hup hrest)
    · rw [List.length_append, List.length_singleton] at hlen ⊢
      omega

/-- **A turn that ends the climb gives an answer that it can give.** -/
theorem done (ht : t.classes.Indexed ClassNode.name) (h : t.Climbing c s)
    (hturn : t.climbTurn s = .done answer) : t.Climbed c answer := by
  rcases t.climbTurn_cases s with ⟨hmet, hs⟩ | ⟨hnew, hroot, hs⟩ | ⟨-, up, -, hs⟩
  · cases hturn.symm.trans hs
    -- the class behind with this name is this class
    obtain ⟨d, hd, hsame⟩ := h.contains_iff.mp hmet
    have hmem := List.forall_mem_append.mp h.known
    obtain rfl := eq_of_sameName ht (hmem.1 d hd) (hmem.2 _ (List.mem_singleton_self _)) hsame
    exact ⟨s.here, h.reached, h.below _ hd⟩
  · cases hturn.symm.trans hs
    exact ⟨h.completes _ (.root hroot), h.distinct_concat hnew, h.known⟩
  · cases hturn.symm.trans hs

end Climbing

/-! ## The whole climb -/

/-- **A climb from a registered class comes to an end**, after one turn more at most than there are
classes. -/
theorem exists_climb (ht : t.classes.Indexed ClassNode.name) (hc : c ∈ t.all) :
    ∃ answer, t.Climbed c answer ∧ ∀ n, t.size + 1 ≤ n → t.climb n c = some answer := by
  have hstart := Climbing.start hc
  obtain ⟨answer, hanswer⟩ := exists_runLoop (n := t.size + 1)
    (fun s ↦ t.size - s.chain.length) (fun _ _ h ↦ h.again ht) hstart (by simp)
  refine ⟨answer, ?_, fun n hn ↦ runLoop_of_le hanswer hn⟩
  exact runLoop_induction (fun _ _ h hturn ↦ (h.again ht hturn).1) (fun _ _ h ↦ h.done ht) hstart
    hanswer

/-- The chain of a registered class is what its climb comes to. -/
theorem climb_eq_chain? (ht : t.classes.Indexed ClassNode.name) (hc : t.find? a = some c)
    (hn : t.size + 1 ≤ n) : t.climb n c = some (t.chain? a) := by
  obtain ⟨answer, -, hclimb⟩ := exists_climb ht (mem_all_of_find? ht hc)
  rw [chain?, hc, Option.bind_some, hclimb _ (Nat.le_refl _), Option.join_some, hclimb n hn]

theorem climbed_chain? (ht : t.classes.Indexed ClassNode.name) (hc : t.find? a = some c) :
    t.Climbed c (t.chain? a) := by
  obtain ⟨answer, hclimbed, hclimb⟩ := exists_climb ht (mem_all_of_find? ht hc)
  have hchain := (hclimb _ (Nat.le_refl _)).symm.trans (climb_eq_chain? ht hc (Nat.le_refl _))
  rwa [← Option.some.inj hchain]

/-- The ancestry of a class is what a climb from it finds. -/
theorem Ancestry.climbed (h : t.Ancestry c l) (ht : t.classes.Indexed ClassNode.name)
    (hc : c ∈ t.all) : t.Climbed c (some l) := by
  obtain ⟨answer, hclimbed, -⟩ := exists_climb ht hc
  cases answer with
  | none => exact absurd hclimbed h.not_entangled
  | some l' =>
    rw [h.unique hclimbed.1]
    exact hclimbed

/-- **A chain is an ancestry.** -/
theorem chain?_eq_some_iff (ht : t.classes.Indexed ClassNode.name) :
    t.chain? a = some l ↔ ∃ c, t.find? a = some c ∧ t.Ancestry c l := by
  constructor
  · intro h
    obtain ⟨c, hc, -⟩ := Option.bind_eq_some_iff.mp h
    have hclimbed := climbed_chain? ht hc
    rw [h] at hclimbed
    exact ⟨c, hc, hclimbed.1⟩
  · rintro ⟨c, hc, hl⟩
    have hclimbed := climbed_chain? ht hc
    cases hchain : t.chain? a with
    | none =>
      rw [hchain] at hclimbed
      exact absurd hclimbed hl.not_entangled
    | some l' =>
      rw [hchain] at hclimbed
      rw [hl.unique hclimbed.1]

/-- **A class has no chain exactly if it is not registered or entangled.** -/
theorem chain?_eq_none_iff (ht : t.classes.Indexed ClassNode.name) :
    t.chain? a = none ↔ t.find? a = none ∨ ∃ c, t.find? a = some c ∧ t.Entangled c := by
  cases hc : t.find? a with
  | none => simp [chain?, hc]
  | some c =>
    have hclimbed := climbed_chain? ht hc
    simp only [reduceCtorEq, false_or, Option.some.injEq, exists_eq_left']
    constructor
    · intro hnone
      rwa [hnone] at hclimbed
    · intro hcycle
      cases hchain : t.chain? a with
      | none => rfl
      | some l =>
        rw [hchain] at hclimbed
        exact absurd hcycle hclimbed.1.not_entangled

end PascalTypes.ClassTree
