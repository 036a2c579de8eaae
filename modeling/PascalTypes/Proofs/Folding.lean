import Mathlib.Logic.Basic
import PascalTypes.ConversionGraph
import PascalTypes.NameSet
import PascalTypes.Proofs.Lowering

/-!
# Folding and lowering

`fold` does not lower every name.  It looks for a capital first, and a name without one is taken as
it is.  Two things are asked of this shortcut.

* A folded name should stay as it is when it is folded again, because a key is sometimes handed in
  where a name is expected.  This is so for every name (`foldsOnce`), and the search for conversions
  relies on it: it notes the keys it has met in a set of names.
* Names should compare as if all of them were lowered.  This is so for all names but the overlooked
  ones, which have a title-case letter and no capital (`fold_eq_lower_iff`).  An overlooked name is
  the same as no other name, not even as its own lower-case form (`sameName_iff_lower`).
-/

set_option autoImplicit false

namespace PascalTypes

/-! ## Folding twice -/

/-- A name and its folded form are lowered alike. -/
theorem lower_fold (name : String) : Text.lower (fold name) = Text.lower name := by
  rw [fold]
  split
  · exact Text.lower_lower name
  · rfl

theorem fold_fold (name : String) : fold (fold name) = fold name := by
  by_cases hupper : name.toList.any Text.isUpper = true
  · -- capitals without a lower-case form can be left, and then the name is lowered once more
    have hfold : fold name = Text.lower name := if_pos hupper
    rw [hfold, fold, Text.lower_lower, ite_self]
  · have hfold : fold name = name := if_neg hupper
    rw [hfold, hfold]

theorem fold_eq_empty_iff {name : String} : fold name = "" ↔ name = "" := by
  rw [fold]
  split
  · exact Text.lower_eq_empty_iff
  · rfl

@[simp] theorem NameKey.of_text_of (name : String) : of (of name).text = of name :=
  congrArg NameKey.mk (fold_fold name)

namespace NameSet

theorem contains_text_of (s : NameSet) (name : String) :
    s.contains (NameKey.of name).text = s.contains name := by
  rw [contains, NameKey.of_text_of, contains]

theorem insert_text_of (s : NameSet) (name : String) :
    s.insert (NameKey.of name).text = s.insert name := by
  rw [insert, contains_text_of, NameKey.of_text_of, insert]

end NameSet

namespace ConversionGraph

/-- Extend a trail to the types that are not among the keys, and note their keys. -/
def spread (t : Trail) : List Conversion → List NameKey → List Trail × List NameKey
  | [], met => ([], met)
  | c :: rest, met =>
    if NameKey.of c.target ∈ met then spread t rest met
    else
      let (trails, met) := spread t rest (NameKey.of c.target :: met)
      (t.extend c.target :: trails, met)

/-- The search notes keys in a set of names, and this is as good as to compare keys. -/
theorem foldl_visit (t : Trail) (cs : List Conversion) (trails : List Trail) (met : NameSet) :
    cs.foldl (visit t) (trails, met) =
      (trails ++ (spread t cs met.keys).1, ⟨(spread t cs met.keys).2⟩) := by
  induction cs generalizing trails met with
  | nil => simp [spread]
  | cons c rest ih =>
    have hkey : c.key.target = NameKey.of c.target := rfl
    rw [List.foldl_cons, visit, spread, hkey, NameSet.insert_text_of]
    by_cases hmet : NameKey.of c.target ∈ met.keys
    · simp [NameSet.insert, NameSet.contains, hmet, ih]
    · simp [NameSet.insert, NameSet.contains, hmet, ih]

end ConversionGraph

/-- A folded name can stand for the name. -/
structure FoldsOnce : Prop where
  fold_again : ∀ name, fold (fold name) = fold name
  key_again : ∀ name, NameKey.of (NameKey.of name).text = NameKey.of name
  contains_key : ∀ (s : NameSet) name, s.contains (NameKey.of name).text = s.contains name
  insert_key : ∀ (s : NameSet) name, s.insert (NameKey.of name).text = s.insert name
  /-- To note keys in a set of names is as good as to compare keys. -/
  search_by_key : ∀ t cs (met : NameSet), cs.foldl (ConversionGraph.visit t) ([], met) =
    ((ConversionGraph.spread t cs met.keys).1, ⟨(ConversionGraph.spread t cs met.keys).2⟩)

/-- **Folding a second time changes nothing**, and so a key can be used as a name. -/
theorem foldsOnce : FoldsOnce where
  fold_again := fold_fold
  key_again := NameKey.of_text_of
  contains_key := NameSet.contains_text_of
  insert_key := NameSet.insert_text_of
  search_by_key t cs met := ConversionGraph.foldl_visit t cs [] met

/-! ## Folding and lowering -/

/-- Whether folding leaves a name alone that is not in lower case: it has a title-case letter, and
no capital that would draw attention to it. -/
def isOverlooked (name : String) : Bool :=
  !name.toList.any Text.isUpper && name.toList.any Text.isTitle

/-- **Folding a name lowers it, unless it is overlooked.** -/
theorem fold_eq_lower_iff {name : String} :
    fold name = Text.lower name ↔ isOverlooked name = false := by
  rw [fold, isOverlooked]
  split
  · rename_i hupper
    simp [hupper]
  · rename_i hupper
    rw [Bool.not_eq_true] at hupper
    rw [hupper, Bool.not_false, Bool.true_and, eq_comm, Text.lower_eq_self_iff, List.any_eq_false]
    refine forall₂_congr fun c hc ↦ ?_
    have hsmall : Text.isUpper c = false := by simpa using List.any_eq_false.mp hupper c hc
    rw [Text.isLowered_iff_not_isTitle hsmall, Bool.not_eq_true]

theorem fold_of_isOverlooked {name : String} (h : isOverlooked name = true) : fold name = name := by
  rw [isOverlooked, Bool.and_eq_true, Bool.not_eq_true'] at h
  rw [fold, h.1]
  rfl

/-- Lowering still changes the folded form of an overlooked name, and of no other name.  So a name
of one sort is never the same as a name of the other. -/
theorem isOverlooked_congr {a b : String} (h : sameName a b = true) :
    isOverlooked a = isOverlooked b := by
  have hfold := sameName_iff.mp h
  have hlower : Text.lower a = Text.lower b := by rw [← lower_fold a, hfold, lower_fold]
  rw [Bool.eq_iff_iff, ← not_iff_not, Bool.not_eq_true, Bool.not_eq_true, ← fold_eq_lower_iff,
    ← fold_eq_lower_iff, hfold, hlower]

/-- **When two spellings are the same name.**  They are if their lower-case forms are equal, as long
as neither is overlooked.  An overlooked name is the same only as itself. -/
theorem sameName_iff_lower (a b : String) : sameName a b = true ↔
    a = b ∨ isOverlooked a = false ∧ isOverlooked b = false ∧ Text.lower a = Text.lower b := by
  constructor
  · intro h
    have hboth := isOverlooked_congr h
    rw [sameName_iff] at h
    cases ha : isOverlooked a with
    | true =>
      rw [ha] at hboth
      rw [fold_of_isOverlooked ha, fold_of_isOverlooked hboth.symm] at h
      exact Or.inl h
    | false =>
      rw [ha] at hboth
      rw [fold_eq_lower_iff.mpr ha, fold_eq_lower_iff.mpr hboth.symm] at h
      exact Or.inr ⟨rfl, hboth.symm, h⟩
  · rintro (rfl | ⟨ha, hb, h⟩)
    · exact sameName_refl a
    · rw [sameName_iff, fold_eq_lower_iff.mpr ha, fold_eq_lower_iff.mpr hb, h]

/-- Two spellings that differ in the case of an ASCII letter are two names, if there is a title-case
letter behind it.  So are the capital and the title-case form of one letter. -/
theorem sameName_digraphs :
    (Text.lower "Aǅ" = Text.lower "aǅ" ∧ sameName "Aǅ" "aǅ" = false) ∧
      (Text.lower "Ǆ" = Text.lower "ǅ" ∧ sameName "Ǆ" "ǅ" = false) := by
  decide +kernel

end PascalTypes
