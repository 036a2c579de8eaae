import PascalTypes.Text.Lower
import PascalTypes.Text.Quoted

/-!
# Names

Names are compared without regard to case, and remembered as they were written.  `fold` brings a
name into the form that is compared.  A name without a capital letter is already in that form, so
a title-case letter alone leaves a name as it is; once there is a capital, all of the name is
lowered.

A `NameKey` is a folded name as it stands in a table.  Keys are ordered by code point.
-/

set_option autoImplicit false

namespace PascalTypes

/-- The form of a name that is compared. -/
def fold (name : String) : String :=
  if name.toList.any Text.isUpper then Text.lower name else name

/-- Whether two spellings are the same name. -/
def sameName (a b : String) : Bool :=
  fold a == fold b

/-- Two spellings are the same name exactly if they fold alike. -/
theorem sameName_iff {a b : String} : sameName a b = true ↔ fold a = fold b := by
  simp [sameName]

theorem sameName_refl (a : String) : sameName a a = true :=
  sameName_iff.mpr rfl

theorem sameName_symm {a b : String} (h : sameName a b = true) : sameName b a = true :=
  sameName_iff.mpr (sameName_iff.mp h).symm

theorem sameName_comm (a b : String) : sameName a b = sameName b a :=
  BEq.comm

theorem sameName_trans {a b c : String} (hab : sameName a b = true) (hbc : sameName b c = true) :
    sameName a c = true :=
  sameName_iff.mpr ((sameName_iff.mp hab).trans (sameName_iff.mp hbc))

/-- A folded name. -/
structure NameKey where
  text : String
deriving DecidableEq, Repr

namespace NameKey

/-- The key of a name. -/
def of (name : String) : NameKey :=
  ⟨fold name⟩

/-- Whether `name` folds to the text of `key`. -/
def admits (key : NameKey) (name : String) : Bool :=
  key.text == fold name

instance : LT NameKey :=
  ⟨fun a b ↦ a.text < b.text⟩

instance : DecidableLT NameKey :=
  fun a b ↦ inferInstanceAs (Decidable (a.text < b.text))

instance : Ord NameKey :=
  ⟨fun a b ↦ compare a.text b.text⟩

/-- A key for the eyes of a developer. -/
def describe (key : NameKey) : String :=
  "IdentKey(" ++ Text.quoted key.text ++ ")"

/-- Two names have the same key exactly if they are the same name. -/
theorem of_eq_of_iff {a b : String} : of a = of b ↔ sameName a b = true := by
  simp [of, sameName]

theorem lt_irrefl (a : NameKey) : ¬a < a :=
  String.lt_irrefl a.text

theorem lt_trans {a b c : NameKey} (hab : a < b) (hbc : b < c) : a < c :=
  String.lt_trans hab hbc

theorem lt_of_not_lt {a b : NameKey} (hne : a ≠ b) (h : ¬a < b) : b < a := by
  have hba : b.text ≤ a.text := String.not_lt.mp h
  by_cases hlt : b.text < a.text
  · exact hlt
  · have htext : a.text = b.text := String.le_antisymm (String.not_lt.mp hlt) hba
    exact absurd (congrArg NameKey.mk htext) hne

end NameKey

end PascalTypes
