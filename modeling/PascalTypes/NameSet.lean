import PascalTypes.Name

/-!
# Sets of names

A `NameSet` holds names up to spelling.  No spelling is remembered and no order is kept: a set
only answers whether a name is in it, and how many names it has.
-/

set_option autoImplicit false

namespace PascalTypes

/-- Names, each once. -/
structure NameSet where
  keys : List NameKey := []
deriving DecidableEq, Repr

namespace NameSet

/-- Whether `name` is in the set. -/
def contains (s : NameSet) (name : String) : Bool :=
  decide (NameKey.of name ∈ s.keys)

/-- Add `name` unless it is there already, and tell whether it is new. -/
def insert (s : NameSet) (name : String) : Bool × NameSet :=
  if s.contains name then (false, s) else (true, ⟨NameKey.of name :: s.keys⟩)

/-- The number of names. -/
def size (s : NameSet) : Nat :=
  s.keys.length

/-- Whether there is no name. -/
def isEmpty (s : NameSet) : Bool :=
  s.keys.isEmpty

theorem insert_of_contains {s : NameSet} {name : String} (h : s.contains name = true) :
    s.insert name = (false, s) :=
  if_pos h

theorem insert_of_not_contains {s : NameSet} {name : String} (h : s.contains name = false) :
    s.insert name = (true, ⟨NameKey.of name :: s.keys⟩) :=
  if_neg (Bool.eq_false_iff.mp h)

end NameSet

end PascalTypes
