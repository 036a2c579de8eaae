/-!
# Settings

What can be chosen for the analysis of a compilation unit.
-/

set_option autoImplicit false

namespace PascalTypes

/-- The first identifier for run-time type information in each category. -/
structure RttiBases where
  classBase : UInt32 := 1000
  recordBase : UInt32 := 200000
  enumBase : UInt32 := 300000
deriving DecidableEq, Repr

/-- The settings of one compilation unit. -/
structure Settings where
  rtti : RttiBases := {}
  /-- How many implicit conversions can follow one another. -/
  conversionDepth : UInt64 := 3
  /-- Whether the names of the built-in types are there from the start. -/
  withBuiltins : Bool := true
deriving DecidableEq, Repr

end PascalTypes
