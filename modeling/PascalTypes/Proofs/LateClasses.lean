import PascalTypes.Proofs.ClassAncestry

/-!
# Classes that come late

A class may be registered after classes that name it as their parent.  Until then the chains of
these classes end where the parent is missing.  This file is about what the late class does to the
chains that are there already: those that ended for want of it go on with its own chain, and all
others stay as they are (`ClassTree.Completes`).

The chain of the late class may lead back to older classes.  It cannot come by a class whose chain
it completes, as long as it is a chain at all.  There is nothing to prove for this, because an
ancestry has an end: `Ancestry.register` only puts two of them together.

No chain is gained either.  A class without a chain runs into a cycle, and registering a class under
a new name takes no parent from any class (`Ancestry.of_register`).
-/

set_option autoImplicit false

namespace PascalTypes

variable {α : Type}

/-- Whether a class names `n` as its parent, in any spelling. -/
def ClassNode.namesParent (n : String) (c : ClassNode α) : Bool :=
  c.parent.any fun p ↦ sameName p n

namespace ClassTree

variable {t : ClassTree α} {n d a : String} {info : α} {parent : Option String}
  {c : ClassNode α} {l added : List (ClassNode α)}

/-- Whether the last class of a chain names `n` as its parent. -/
def endsBelow (n : String) (l : List (ClassNode α)) : Bool :=
  l.getLast?.any (ClassNode.namesParent n)

/-- A chain, continued with the chain of `n` if it ends below `n`. -/
def completed (n : String) (added l : List (ClassNode α)) : List (ClassNode α) :=
  if endsBelow n l then l ++ added else l

theorem completed_cons (n : String) (added : List (ClassNode α)) (c : ClassNode α) (hl : l ≠ []) :
    completed n added (c :: l) = c :: completed n added l := by
  obtain ⟨b, rest, rfl⟩ := List.exists_cons_of_ne_nil hl
  have hends : endsBelow n (c :: b :: rest) = endsBelow n (b :: rest) := by
    simp only [endsBelow, List.getLast?_cons_cons]
  by_cases h : endsBelow n (b :: rest) = true <;> simp [completed, hends, h]

theorem subset_completed (n : String) (added l : List (ClassNode α)) : l ⊆ completed n added l := by
  rw [completed]
  split
  · exact List.subset_append_left l added
  · exact List.Subset.refl l

/-! ## Parents after a class was added -/

theorem find?_register (t : ClassTree α) (n other : String) (info : α) (parent : Option String) :
    (t.register n info parent).find? other =
      if sameName other n then some ⟨n, parent, info⟩ else t.find? other :=
  t.classes.get?_insert n other ⟨n, parent, info⟩

theorem parent?_register (t : ClassTree α) (n : String) (info : α) (parent : Option String)
    (c : ClassNode α) : (t.register n info parent).parent? c =
      if c.namesParent n then some ⟨n, parent, info⟩ else t.parent? c := by
  cases hp : c.parent with
  | none => simp [parent?, ClassNode.namesParent, hp]
  | some p => simp [parent?, ClassNode.namesParent, hp, find?_register]

/-- A class that names `n` has no registered parent as long as `n` is missing. -/
theorem parent?_eq_none (hnew : t.find? n = none) (hc : c.namesParent n = true) :
    t.parent? c = none := by
  rw [parent?]
  cases hp : c.parent with
  | none => rfl
  | some p =>
    rw [ClassNode.namesParent, hp, Option.any_some] at hc
    rw [Option.bind_some, t.find?_congr hc, hnew]

/-! ## Ancestries with and without the late class -/

theorem Ancestry.ne_nil (h : t.Ancestry c l) : l ≠ [] := by
  cases h <;> simp

/-- **The late class completes ancestries that ended for want of it, and keeps the others.** -/
theorem Ancestry.register (h : t.Ancestry c l) (hnew : t.find? n = none)
    (hadded : (t.register n info parent).Ancestry ⟨n, parent, info⟩ added) :
    (t.register n info parent).Ancestry c (completed n added l) := by
  induction h with
  | @root c hroot =>
    have hparent := t.parent?_register n info parent c
    have hends : endsBelow n [c] = c.namesParent n := rfl
    by_cases hc : c.namesParent n = true
    · rw [if_pos hc] at hparent
      rw [completed, if_pos (hends.trans hc)]
      exact .up hparent hadded
    · rw [if_neg hc] at hparent
      rw [completed, hends, if_neg hc]
      exact .root (hparent.trans hroot)
  | @up c p l hp hl ih =>
    have hother : ¬c.namesParent n = true := fun hc ↦
      absurd ((parent?_eq_none hnew hc).symm.trans hp) (by simp)
    have hparent := t.parent?_register n info parent c
    rw [if_neg hother] at hparent
    rw [completed_cons n added c hl.ne_nil]
    exact .up (hparent.trans hp) ih

/-- A class with an ancestry had one before the late class came. -/
theorem Ancestry.of_register (h : (t.register n info parent).Ancestry c l)
    (hnew : t.find? n = none) : ∃ old, t.Ancestry c old := by
  induction h with
  | @root c hroot =>
    rw [parent?_register] at hroot
    split at hroot
    · cases hroot
    · exact ⟨_, .root hroot⟩
  | @up c p l hp _ ih =>
    by_cases hc : c.namesParent n = true
    · exact ⟨_, .root (parent?_eq_none hnew hc)⟩
    · have hparent := t.parent?_register n info parent c
      rw [if_neg hc] at hparent
      obtain ⟨old, hold⟩ := ih
      exact ⟨_, .up (hparent.symm.trans hp) hold⟩

theorem chain?_register (ht : t.classes.Indexed ClassNode.name) (hnew : t.find? n = none)
    (hadded : (t.register n info parent).chain? n = some added) (hd : t.find? d = some c) :
    (t.register n info parent).chain? d = (t.chain? d).map (completed n added) := by
  have ht' := indexed_register ht n info parent
  obtain ⟨new, hfind, hancestry⟩ := (chain?_eq_some_iff ht').mp hadded
  rw [find?_register, if_pos (sameName_refl n)] at hfind
  obtain rfl := Option.some.inj hfind
  have hother : ¬sameName d n = true := by
    intro hsame
    rw [t.find?_congr hsame, hnew] at hd
    cases hd
  have hd' : (t.register n info parent).find? d = some c := by
    rw [find?_register, if_neg hother, hd]
  cases hl : t.chain? d with
  | some l =>
    obtain ⟨c', hc', hancestry'⟩ := (chain?_eq_some_iff ht).mp hl
    obtain rfl := Option.some.inj (hd.symm.trans hc')
    exact (chain?_eq_some_iff ht').mpr ⟨c, hd', hancestry'.register hnew hancestry⟩
  | none =>
    rw [Option.map_none, ← Option.not_isSome_iff_eq_none, Option.isSome_iff_exists]
    rintro ⟨l, hl'⟩
    obtain ⟨c', hc', hancestry'⟩ := (chain?_eq_some_iff ht').mp hl'
    obtain rfl := Option.some.inj (hd'.symm.trans hc')
    obtain ⟨old, hold⟩ := hancestry'.of_register hnew
    rw [(chain?_eq_some_iff ht).mpr ⟨c, hd, hold⟩] at hl
    cases hl

/-! ## What a late class does -/

/-- The second tree has one more class, `n`, with the chain `added`.  Chains that ended below `n` go
on with this chain, all others stay, and no class has a chain that had none. -/
structure Completes (t t' : ClassTree α) (n : String) (added : List (ClassNode α)) : Prop where
  chain : ∀ d, t.contains d = true → t'.chain? d = (t.chain? d).map (completed n added)
  hierarchy : ∀ d, t.contains d = true → t'.hierarchy? d =
    (t.chain? d).map fun l ↦ (completed n added l).map ClassNode.info
  descends : ∀ d a, t.descends d a = true → t'.descends d a = true

/-- **A class that comes late completes chains and breaks none.** -/
theorem completes_register (naming : ClassNaming α) (changes : List (ClassChange α)) (n : String)
    (info : α) (parent : Option String) (infos : List α)
    (hnew : (run naming changes).contains n = false)
    (hadded : ((run naming changes).register n info parent).hierarchy? n = some infos) :
    ∃ added, ((run naming changes).register n info parent).chain? n = some added ∧
      added.map ClassNode.info = infos ∧
      (run naming changes).Completes ((run naming changes).register n info parent) n added := by
  have ht := indexed_run naming changes
  rw [contains_eq_false_iff] at hnew
  obtain ⟨added, hchain, rfl⟩ := Option.map_eq_some_iff.mp hadded
  have hregister : ∀ d, (run naming changes).contains d = true →
      ((run naming changes).register n info parent).chain? d =
        ((run naming changes).chain? d).map (completed n added) := by
    intro d hd
    obtain ⟨c, hc⟩ := exists_of_contains hd
    exact chain?_register ht hnew hchain hc
  refine ⟨added, hchain, rfl, hregister, fun d hd ↦ ?_, fun d a hda ↦ ?_⟩
  · rw [hierarchy?, hregister d hd, Option.map_map]
    rfl
  · obtain ⟨l, hl, e, he, hname⟩ := descends_iff.mp hda
    obtain ⟨c, hc, -⟩ := (chain?_eq_some_iff ht).mp hl
    have hl' := chain?_register ht hnew hchain hc
    rw [hl, Option.map_some] at hl'
    exact descends_iff.mpr ⟨_, hl', e, subset_completed n added l he, hname⟩

/-- The parent that the stray class names is registered at last, below a control. -/
def strayFound : ClassTree String :=
  (run plainNaming tangled).register "NoWhere" "late" (some "CONTROL")

/-- The stray class used to be alone.  Afterwards it is below its parent, the control and the root,
and the class below the cycle has no hierarchy still. -/
theorem completes_strayFound :
    (run plainNaming tangled).hierarchy? "stray" = some [""] ∧
      strayFound.hierarchy? "stray" = some ["", "late", "", "root"] ∧
      strayFound.hierarchy? "below" = none ∧
      ∃ added, strayFound.chain? "NoWhere" = some added ∧
        added.map ClassNode.info = ["late", "", "root"] ∧
        (run plainNaming tangled).Completes strayFound "NoWhere" added := by
  have hnew : (run plainNaming tangled).contains "NoWhere" = false := by decide
  have hadded : strayFound.hierarchy? "NoWhere" = some ["late", "", "root"] := by decide
  exact ⟨by decide, by decide, by decide,
    completes_register plainNaming tangled "NoWhere" "late" (some "CONTROL") _ hnew hadded⟩

end ClassTree

end PascalTypes
