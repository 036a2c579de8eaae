import PascalTypes.Flags
import PascalTypes.Handle
import PascalTypes.Visibility

/-!
# Members of types

What a class, record, interface or helper knows of its fields, methods and properties.  The name
of a member is not part of it: members stand in maps under their names.
-/

set_option autoImplicit false

namespace PascalTypes

/-- A field of a class or record. -/
structure Field where
  ty : Handle
  visibility : MemberVisibility := .everywhere
  /-- Shared by all instances. -/
  isClassVar : Bool := false
deriving DecidableEq, Repr

/-- A method.  Its signature is the handle of a pointer type with its parameters and result. -/
structure Method where
  signature : Handle
  visibility : MemberVisibility := .everywhere
  flags : MethodFlags := {}
deriving DecidableEq, Repr

/-- What a property goes through to its value. -/
inductive Accessor
  | field (name : String)
  | method (name : String)
deriving DecidableEq, Repr

/-- A property.  Without a `read` or `write` accessor it cannot be read or written. -/
structure Property where
  ty : Handle
  read : Option Accessor := none
  write : Option Accessor := none
  visibility : MemberVisibility := .everywhere
  /-- Takes arguments. -/
  isIndexed : Bool := false
  /-- Meant when an instance itself is indexed. -/
  isDefault : Bool := false
deriving DecidableEq, Repr

/-- Whether a property cannot be written. -/
def Property.isReadOnly (p : Property) : Bool :=
  p.write.isNone

end PascalTypes
