import PascalTypes.Member
import PascalTypes.NameMap
import PascalTypes.Refusal

/-!
# The table of helpers

A helper adds methods, properties and class variables to a type from outside.  A type can have
several helpers, and the one that was registered last is asked first.  A helper can inherit from
another helper, which it names.  Its lineage ends where the named helper does not exist, or where
it would come back to a helper that is already part of it.

The helpers stand in one list.  Two indexes, one by name and one by type, hold places in this list,
and all look-ups go through them.
-/

set_option autoImplicit false

namespace PascalTypes

/-- A helper of a type. -/
structure TypeHelper where
  name : String
  /-- The type that is helped. -/
  target : Handle
  parent : Option String := none
  methods : NameMap Method := {}
  properties : NameMap Property := {}
  classVars : NameMap Handle := {}
  isRecordHelper : Bool := false
deriving DecidableEq, Repr

/-- Places in the list of helpers, for each type that has a helper. -/
structure TargetIndex where
  rows : List (Handle × List Nat) := []
deriving DecidableEq, Repr

namespace TargetIndex

/-- The places that are noted for a type. -/
def places (x : TargetIndex) (target : Handle) : List Nat :=
  ((x.rows.find? fun row ↦ row.1 == target).map Prod.snd).getD []

/-- The rows with one more place for a type. -/
def noteIn (target : Handle) (place : Nat) : List (Handle × List Nat) → List (Handle × List Nat)
  | [] => [(target, [place])]
  | row :: rest =>
    if row.1 = target then (row.1, row.2 ++ [place]) :: rest else row :: noteIn target place rest

/-- Note one more place for a type, behind those that are noted. -/
def note (x : TargetIndex) (target : Handle) (place : Nat) : TargetIndex :=
  ⟨noteIn target place x.rows⟩

end TargetIndex

/-- Helpers, with an index by name and one by type. -/
structure HelperTable where
  /-- The helpers in the order in which they were registered. -/
  helpers : List TypeHelper := []
  byName : NameMap Nat := {}
  byTarget : TargetIndex := {}
deriving DecidableEq, Repr

namespace HelperTable

/-- The helper with a name. -/
def find? (t : HelperTable) (name : String) : Option TypeHelper :=
  (t.byName.get? name).bind fun place ↦ t.helpers[place]?

/-- Put a helper behind the others, and note its place in both indexes. -/
def push (t : HelperTable) (h : TypeHelper) : HelperTable where
  helpers := t.helpers ++ [h]
  byName := t.byName.insert h.name t.helpers.length
  byTarget := t.byTarget.note h.target t.helpers.length

/-- Add a helper.  It must have a name, and no other helper may have the same. -/
def register (t : HelperTable) (h : TypeHelper) : Except Refusal Unit × HelperTable :=
  if h.name.isEmpty then (.error .emptyName, t)
  else if t.byName.contains h.name then (.error (.duplicateHelper h.name), t)
  else (.ok (), t.push h)

/-- The helpers of a type. -/
def helpersOf (t : HelperTable) (target : Handle) : List TypeHelper :=
  (t.byTarget.places target).filterMap fun place ↦ t.helpers[place]?

/-- The number of helpers. -/
def size (t : HelperTable) : Nat :=
  t.helpers.length

/-- The number of types that have a helper. -/
def targetCount (t : HelperTable) : Nat :=
  t.byTarget.rows.length

/-! ## Members -/

/-- At most `n` helpers of a lineage, without the helpers that were met before. -/
def lineageFrom (t : HelperTable) : Nat → List NameKey → TypeHelper → List TypeHelper
  | 0, _, _ => []
  | n + 1, met, h =>
    if NameKey.of h.name ∈ met then []
    else
      h :: match h.parent.bind t.find? with
        | none => []
        | some up => t.lineageFrom n (NameKey.of h.name :: met) up

/-- A helper and the helpers it inherits from, itself first. -/
def lineage (t : HelperTable) (h : TypeHelper) : List TypeHelper :=
  t.lineageFrom (t.size + 1) [] h

/-- The first member that is found when the helpers of a type are asked, the newest of them first
and each of them before the helpers it inherits from. -/
def findMember? {α : Type} (t : HelperTable) (target : Handle)
    (pick : TypeHelper → Option α) : Option (α × TypeHelper) :=
  ((t.helpersOf target).reverse.flatMap t.lineage).findSome? fun h ↦ (pick h).map (·, h)

/-- A method that helpers add to a type, and the helper that declares it. -/
def findMethod? (t : HelperTable) (target : Handle) (name : String) :
    Option (Method × TypeHelper) :=
  t.findMember? target fun h ↦ h.methods.get? name

/-- A property that helpers add to a type, and the helper that declares it. -/
def findProperty? (t : HelperTable) (target : Handle) (name : String) :
    Option (Property × TypeHelper) :=
  t.findMember? target fun h ↦ h.properties.get? name

/-- The type of a class variable that helpers add to a type, and the helper that declares it. -/
def findClassVar? (t : HelperTable) (target : Handle) (name : String) :
    Option (Handle × TypeHelper) :=
  t.findMember? target fun h ↦ h.classVars.get? name

end HelperTable

end PascalTypes
