import PascalTypes.NameMap
import PascalTypes.Refusal
import PascalTypes.Settings

/-!
# Identifiers for run-time type information

Classes, records and enumerations get numbers by which a running program tells them apart.  Each
of the three categories counts on its own, from a base that is set in advance.  A name keeps the
number it was given first, and numbers are not given twice.  They are 32-bit words, and a category
that has given out the largest one has none left.
-/

set_option autoImplicit false

namespace PascalTypes

/-- The numbers of one category. -/
structure RttiCounter where
  /-- The next number, unless the last one is gone. -/
  next : Option UInt32
  issued : NameMap UInt32 := {}
deriving DecidableEq, Repr

/-- The number after `id`. -/
def nextId? (id : UInt32) : Option UInt32 :=
  if id = 4294967295 then none else some (id + 1)

/-- The numbers of all categories. -/
structure RttiTable where
  classes : RttiCounter
  records : RttiCounter
  enums : RttiCounter
deriving DecidableEq, Repr

namespace RttiTable

/-- A table that has issued nothing. -/
def ofBases (bases : RttiBases) : RttiTable where
  classes := { next := some bases.classBase }
  records := { next := some bases.recordBase }
  enums := { next := some bases.enumBase }

/-- The counter of a category. -/
def counter (t : RttiTable) : RttiCategory → RttiCounter
  | .classType => t.classes
  | .recordType => t.records
  | .enumType => t.enums

/-- The table with another counter for a category. -/
def setCounter (t : RttiTable) (category : RttiCategory) (c : RttiCounter) : RttiTable :=
  match category with
  | .classType => { t with classes := c }
  | .recordType => { t with records := c }
  | .enumType => { t with enums := c }

@[simp] theorem counter_setCounter_self (t : RttiTable) (category : RttiCategory)
    (c : RttiCounter) : (t.setCounter category c).counter category = c := by
  cases category <;> rfl

theorem counter_setCounter_of_ne {category other : RttiCategory} (h : other ≠ category)
    (t : RttiTable) (c : RttiCounter) :
    (t.setCounter category c).counter other = t.counter other := by
  cases category <;> cases other <;> simp [setCounter, counter] at h ⊢

/-- The number that was given to a name. -/
def get? (t : RttiTable) (category : RttiCategory) (name : String) : Option UInt32 :=
  (t.counter category).issued.get? name

/-- The number of a name, which is the next one if the name has none yet. -/
def allocate (t : RttiTable) (category : RttiCategory) (name : String) :
    Except Refusal UInt32 × RttiTable :=
  match t.get? category name with
  | some id => (.ok id, t)
  | none =>
    match (t.counter category).next with
    | none => (.error (.rttiExhausted category), t)
    | some id =>
      (.ok id, t.setCounter category
        { next := nextId? id, issued := (t.counter category).issued.insert name id })

/-- The name that was given a number, as it was spelled then. -/
def nameOf? (t : RttiTable) (category : RttiCategory) (id : UInt32) : Option String :=
  ((t.counter category).issued.toList.find? fun p ↦ p.2 == id).map Prod.fst

end RttiTable

end PascalTypes
