import PascalTypes.Refusal
import PascalTypes.Text.Lower

/-!
# The table of operators

Operators can be overloaded by the types of their operands.  The table knows types by their names
only, and compares both operators and operand types in lower case.  The types of all operands
together make the signature, one text in which they stand side by side.

A look-up takes the names as they are.  Whether an operator for an ancestor will do is not asked
here.
-/

set_option autoImplicit false

namespace PascalTypes

/-- The names of operand types as one text. -/
def signatureKey (operands : List String) : String :=
  "|".intercalate (operands.map Text.lower)

/-- One meaning of an operator. -/
structure OperatorOverload where
  /-- The operator as it was declared, a symbol or a word. -/
  operator : String
  /-- The names of the operand types. -/
  operands : List String
  /-- The routine that does the work. -/
  binding : String
  /-- The class that declares the operator. -/
  owner : Option String := none
  /-- Which operand is the instance of that class. -/
  selfIndex : Option Nat := none
  isClassMethod : Bool := false
deriving DecidableEq, Repr

/-- The names of the operand types as one text. -/
def OperatorOverload.signature (o : OperatorOverload) : String :=
  signatureKey o.operands

/-- Operators in the order in which they were registered. -/
structure OperatorTable where
  overloads : List OperatorOverload := []
deriving DecidableEq, Repr

namespace OperatorTable

/-- All meanings of an operator. -/
def meanings (t : OperatorTable) (operator : String) : List OperatorOverload :=
  t.overloads.filter fun o ↦ Text.lower o.operator == Text.lower operator

/-- The meaning of an operator for operands of the types with these names. -/
def lookup? (t : OperatorTable) (operator : String) (operands : List String) :
    Option OperatorOverload :=
  (t.meanings operator).find? fun o ↦ o.signature == signatureKey operands

/-- Add a meaning, unless the operator has one for these operands. -/
def register (t : OperatorTable) (o : OperatorOverload) : Except Refusal Unit × OperatorTable :=
  if (t.lookup? o.operator o.operands).isSome then
    (.error (.duplicateOperator o.operator o.operands), t)
  else (.ok (), ⟨t.overloads ++ [o]⟩)

/-- The number of meanings of all operators. -/
def size (t : OperatorTable) : Nat :=
  t.overloads.length

end OperatorTable

end PascalTypes
