import PascalTypes.Handle
import PascalTypes.Kind
import PascalTypes.Location
import PascalTypes.Name
import PascalTypes.Settings
import PascalTypes.Visibility

/-!
# Plain data

Settings and a few other values can be written as plain data, for files and for other programs, and
read back.  Plain data are what the common interchange formats share: nothing, truth values,
integers, texts, lists, and records with named fields.  Numbers with a fraction are told from
integers even where the fraction is zero, and none of the values here has one.

Reading is strict about types and ranges.  Fields of settings can be left out and then have their
usual value, the fields of a location cannot.  Fields with other names are passed over.  A record
can also be given as a list of its fields in their order, and a word as a record with this word for
its only field and nothing in it.
-/

set_option autoImplicit false

namespace PascalTypes

/-- Plain data. -/
inductive Plain
  | null
  | bool (b : Bool)
  | int (n : Int)
  | fraction
  | text (s : String)
  | list (items : List Plain)
  | record (fields : List (String × Plain))
deriving Inhabited, Repr

namespace Plain

/-! ## Reading -/

/-- A truth value. -/
def bool? : Plain → Option Bool
  | bool b => some b
  | _ => none

/-- An integer that is not negative and less than `limit`. -/
def natBelow? (limit : Nat) : Plain → Option Nat
  | int (.ofNat n) => if n < limit then some n else none
  | _ => none

/-- A 32-bit word. -/
def word32? (p : Plain) : Option UInt32 :=
  (p.natBelow? 4294967296).map UInt32.ofNat

/-- A 64-bit word. -/
def word64? (p : Plain) : Option UInt64 :=
  (p.natBelow? 18446744073709551616).map UInt64.ofNat

/-- A text. -/
def text? : Plain → Option String
  | text s => some s
  | _ => none

/-- A word out of a set of words. -/
def word? : Plain → Option String
  | text s => some s
  | record [(s, null)] => some s
  | _ => none

/-- The fields with the given names, each of which can be missing.  A list gives its first items
to the first names, and must not have more items than there are names. -/
def fields? (names : List String) : Plain → Option (List (Option Plain))
  | record fields => some (names.map fun n ↦ (fields.find? fun f ↦ f.1 == n).map Prod.snd)
  | list items =>
    if items.length ≤ names.length then
      some (items.map some ++ List.replicate (names.length - items.length) none)
    else none
  | _ => none

/-- Read a field that can be missing. -/
def orElse {α : Type} (read : Plain → Option α) (usual : α) : Option Plain → Option α
  | none => some usual
  | some p => read p

end Plain

/-! ## Values as plain data -/

namespace RttiBases

/-- Write as plain data. -/
def toPlain (b : RttiBases) : Plain :=
  .record [("class_base", .int b.classBase.toNat), ("record_base", .int b.recordBase.toNat),
    ("enum_base", .int b.enumBase.toNat)]

/-- Read from plain data. -/
def ofPlain? (p : Plain) : Option RttiBases := do
  let usual : RttiBases := {}
  match ← p.fields? ["class_base", "record_base", "enum_base"] with
  | [c, r, e] =>
    return {
      classBase := ← Plain.orElse Plain.word32? usual.classBase c
      recordBase := ← Plain.orElse Plain.word32? usual.recordBase r
      enumBase := ← Plain.orElse Plain.word32? usual.enumBase e }
  | _ => none

end RttiBases

namespace Settings

/-- Write as plain data. -/
def toPlain (s : Settings) : Plain :=
  .record [("rtti", s.rtti.toPlain), ("conversion_depth", .int s.conversionDepth.toNat),
    ("register_builtins", .bool s.withBuiltins)]

/-- Read from plain data. -/
def ofPlain? (p : Plain) : Option Settings := do
  let usual : Settings := {}
  match ← p.fields? ["rtti", "conversion_depth", "register_builtins"] with
  | [r, d, b] =>
    return {
      rtti := ← Plain.orElse RttiBases.ofPlain? usual.rtti r
      conversionDepth := ← Plain.orElse Plain.word64? usual.conversionDepth d
      withBuiltins := ← Plain.orElse Plain.bool? usual.withBuiltins b }
  | _ => none

end Settings

namespace Location

/-- Write as plain data. -/
def toPlain (l : Location) : Plain :=
  .record [("line", .int l.line.toNat), ("column", .int l.column.toNat),
    ("offset", .int l.offset.toNat)]

/-- Read from plain data. -/
def ofPlain? (p : Plain) : Option Location := do
  match ← p.fields? ["line", "column", "offset"] with
  | [some l, some c, some o] => return ⟨← l.word32?, ← c.word32?, ← o.word32?⟩
  | _ => none

end Location

namespace Handle

/-- Write as plain data. -/
def toPlain (h : Handle) : Plain :=
  .int h.index

/-- Read from plain data. -/
def ofPlain? (p : Plain) : Option Handle :=
  (p.natBelow? (maxIndex + 1)).map Handle.mk

end Handle

namespace NameKey

/-- Write as plain data. -/
def toPlain (k : NameKey) : Plain :=
  .text k.text

/-- Read from plain data.  The text is taken for a key as it is. -/
def ofPlain? (p : Plain) : Option NameKey :=
  p.text?.map NameKey.mk

end NameKey

namespace MemberVisibility

/-- Write as plain data. -/
def toPlain (v : MemberVisibility) : Plain :=
  .text v.label

/-- Read from plain data. -/
def ofPlain? (p : Plain) : Option MemberVisibility :=
  p.word?.bind fun word ↦ all.find? fun v ↦ v.label == word

end MemberVisibility

namespace TypeVisibility

/-- Write as plain data. -/
def toPlain (v : TypeVisibility) : Plain :=
  .text v.label

/-- Read from plain data. -/
def ofPlain? (p : Plain) : Option TypeVisibility :=
  p.word?.bind fun word ↦ all.find? fun v ↦ v.label == word

end TypeVisibility

namespace Kind

/-- Write as plain data. -/
def toPlain (k : Kind) : Plain :=
  .text k.label

/-- Read from plain data. -/
def ofPlain? (p : Plain) : Option Kind :=
  p.word?.bind fun word ↦ all.find? fun k ↦ k.label == word

end Kind

/-! ## Reading back what was written -/

namespace Plain

theorem word32?_toNat (w : UInt32) : (int w.toNat).word32? = some w := by
  have h : w.toNat < 4294967296 := w.toNat_lt
  simp [word32?, natBelow?, h]

theorem word64?_toNat (w : UInt64) : (int w.toNat).word64? = some w := by
  have h : w.toNat < 18446744073709551616 := w.toNat_lt
  simp [word64?, natBelow?, h]

end Plain

theorem Location.ofPlain?_toPlain (l : Location) : ofPlain? l.toPlain = some l := by
  simp [ofPlain?, toPlain, Plain.fields?, Plain.word32?_toNat]

theorem RttiBases.ofPlain?_toPlain (b : RttiBases) : ofPlain? b.toPlain = some b := by
  simp [ofPlain?, toPlain, Plain.fields?, Plain.orElse, Plain.word32?_toNat]

theorem Settings.ofPlain?_toPlain (s : Settings) : ofPlain? s.toPlain = some s := by
  simp [ofPlain?, toPlain, Plain.fields?, Plain.orElse, Plain.word64?_toNat,
    Plain.bool?, RttiBases.ofPlain?_toPlain]

theorem NameKey.ofPlain?_toPlain (k : NameKey) : ofPlain? k.toPlain = some k := rfl

theorem Kind.ofPlain?_toPlain (k : Kind) : ofPlain? k.toPlain = some k := by
  cases k <;> rfl

theorem MemberVisibility.ofPlain?_toPlain (v : MemberVisibility) :
    ofPlain? v.toPlain = some v := by
  cases v <;> rfl

theorem TypeVisibility.ofPlain?_toPlain (v : TypeVisibility) : ofPlain? v.toPlain = some v := by
  cases v <;> rfl

end PascalTypes
