import PascalTypes.TypeStore.Basic

/-!
# Types as text

A type is shown as a source text would write it.  A type with a name is shown by it, also an alias,
whose target does not matter here.  Other types are spelled out from their parts.
-/

set_option autoImplicit false

namespace PascalTypes

/-- A signature as text, given how its types are shown. -/
def Signature.display (typeText : Handle → Except Fault String) (s : Signature) :
    Except Fault String := do
  let params ← s.params.mapM typeText
  let head := (if s.isProcedure then "procedure" else "function") ++
    "(" ++ ", ".intercalate params ++ ")"
  match s.result with
  | none => return head
  | some r => return head ++ ": " ++ (← typeText r)

/-- What stands in front of the element type of an array. -/
def ArrayShape.opening (a : ArrayShape) : String :=
  match a.bounds with
  | some i => "array[" ++ i.text ++ "] of "
  | none => "array of "

/-- A shape as text, given how the types it is made of are shown. -/
def Shape.display (typeText : Handle → Except Fault String) : Shape → Except Fault String
  | .integer => return "Integer"
  | .float => return "Float"
  | .string => return "String"
  | .boolean => return "Boolean"
  | .nil => return "Nil"
  | .void => return "Void"
  | .variant => return "Variant"
  | .classType c => return c.name
  | .recordType r => return r.name
  | .interfaceType i => return i.name
  | .enumType e => return e.name
  | .aliasType a => return a.name
  | .subrange s => return if s.name.isEmpty then s.range.text else s.name
  | .array a => return a.opening ++ (← typeText a.element)
  | .functionPointer s => s.display typeText
  | .methodPointer s => return (← s.display typeText) ++ " of object"
  | .metaclass h => return "class of " ++ (← typeText h)

namespace TypeStore

/-- The text of a type that is nested at most `n` deep. -/
def displayWithin (s : TypeStore) : Nat → Handle → Except Fault String
  | 0, _ => .error .endless
  | n + 1, h => do
    let shape ← s.shape h
    shape.display (s.displayWithin n)

/-- The text of a type.  A type that is nested deeper than there are types contains itself, and
has no text. -/
def display (s : TypeStore) (h : Handle) : Except Fault String :=
  s.displayWithin (s.size + 1) h

end TypeStore

end PascalTypes
