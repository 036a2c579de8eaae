import PascalTypes.Handle
import PascalTypes.Location

/-!
# Refusals and faults

A declaration that breaks a rule of the language is refused, and a `Refusal` says which rule.
After a refusal everything goes on.

A `Fault` is of another sort.  It means that a question has no answer at all, because the caller
has handed in a handle that leads nowhere or has tied types into a knot.
-/

set_option autoImplicit false

namespace PascalTypes

/-- The categories of identifiers for run-time type information. -/
inductive RttiCategory
  | classType
  | recordType
  | enumType
deriving DecidableEq, Repr

/-- The word for a category. -/
def RttiCategory.text : RttiCategory → String
  | classType => "class"
  | recordType => "record"
  | enumType => "enum"

/-- The category that a word stands for. -/
def RttiCategory.ofText? (word : String) : Option RttiCategory :=
  [classType, recordType, enumType].find? fun c ↦ c.text == word

/-- Why a declaration or a change is refused. -/
inductive Refusal
  | emptyName
  | duplicateType (name : String) (location : Location)
  | duplicateOperator (operator : String) (operands : List String)
  | duplicateConversion (source target : String) (isImplicit : Bool)
  | duplicateHelper (name : String)
  | conflictingOverload (name : String) (arity : Nat)
  | sealedStore (name : String)
  | notAClass (name : String)
  | notForward (name : String)
  | nameMismatch (name declared : String)
  | rttiExhausted (category : RttiCategory)
deriving DecidableEq, Repr

/-- The text of a refusal. -/
def Refusal.message : Refusal → String
  | emptyName => "name must not be empty"
  | duplicateType name location =>
    "type '" ++ name ++ "' already defined at " ++ location.text
  | duplicateOperator operator operands =>
    "operator '" ++ operator ++ "' already defined for operand types (" ++
      ", ".intercalate operands ++ ")"
  | duplicateConversion source target isImplicit =>
    (if isImplicit then "implicit" else "explicit") ++ " conversion from " ++ source ++
      " to " ++ target ++ " already registered"
  | duplicateHelper name => "helper '" ++ name ++ "' already defined"
  | conflictingOverload name arity =>
    "function '" ++ name ++ "' already declared with " ++ toString arity ++
      " parameter(s); use the 'overload' directive"
  | sealedStore name => "cannot modify '" ++ name ++ "' after declarations are sealed"
  | notAClass name => "'" ++ name ++ "' is not a class"
  | notForward name => "class '" ++ name ++ "' is already complete"
  | nameMismatch name declared =>
    "type declared as '" ++ name ++ "' carries the name '" ++ declared ++ "'"
  | rttiExhausted category => category.text ++ " RTTI identifiers exhausted"

/-- Why a question has no answer. -/
inductive Fault
  /-- No type was ever stored under this handle. -/
  | strayHandle (h : Handle)
  /-- Following a type into its parts comes back to where it was. -/
  | endless
deriving DecidableEq, Repr

end PascalTypes
