import PascalTypes.Handle
import PascalTypes.Location

/-!
# Declarations of routines

What overloading needs to know of a function or procedure.  Trailing parameters with a default can
be left out of a call, so a routine accepts a range of argument counts.
-/

set_option autoImplicit false

namespace PascalTypes

/-- How an argument is handed over. -/
inductive PassingMode
  /-- As a copy. -/
  | byValue
  /-- As a variable that the routine can change. -/
  | byReference
  /-- As a value that the routine cannot change. -/
  | constant
  /-- As an expression that is evaluated at each use. -/
  | deferred
deriving DecidableEq, Repr

namespace PassingMode

/-- Every mode. -/
def all : List PassingMode :=
  [byValue, byReference, constant, deferred]

/-- The word a declaration uses. -/
def keyword : PassingMode → String
  | byValue => "value"
  | byReference => "var"
  | constant => "const"
  | deferred => "lazy"

/-- The mode that a word of a declaration stands for. -/
def ofKeyword? (word : String) : Option PassingMode :=
  all.find? fun m ↦ m.keyword == word

@[simp] theorem ofKeyword?_keyword (m : PassingMode) : ofKeyword? m.keyword = some m := by
  cases m <;> rfl

end PassingMode

/-- A parameter of a routine. -/
structure Param where
  name : String
  ty : Handle
  mode : PassingMode := .byValue
  hasDefault : Bool := false
deriving DecidableEq, Repr

/-- A function or procedure as it is declared. -/
structure Routine where
  name : String
  params : List Param := []
  /-- The type of the result.  A procedure has none. -/
  result : Option Handle := none
  /-- Declared to share its name with others. -/
  isOverload : Bool := false
  /-- Announced, with the body still to come. -/
  isForward : Bool := false
  location : Location := .builtin
deriving DecidableEq, Repr

namespace Routine

/-- The number of parameters. -/
def arity (r : Routine) : Nat :=
  r.params.length

/-- The least number of arguments: everything but the trailing parameters with a default. -/
def minArity (r : Routine) : Nat :=
  r.params.length - (r.params.reverse.takeWhile Param.hasDefault).length

/-- Whether a call can have `count` arguments. -/
def acceptsArity (r : Routine) (count : Nat) : Bool :=
  decide (r.minArity ≤ count) && decide (count ≤ r.arity)

/-- The types of the parameters. -/
def paramTypes (r : Routine) : List Handle :=
  r.params.map Param.ty

end Routine

end PascalTypes
