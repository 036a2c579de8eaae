/-!
# Places in the source text

A `Location` is where something was declared: a line and a column, counted from one, and an offset
into the file.  Built-in declarations have no place of their own and use `Location.builtin`, which
is all zeros.  Whether a location is the built-in one is seen from line and column alone.
-/

set_option autoImplicit false

namespace PascalTypes

/-- Line, column and offset of a declaration. -/
structure Location where
  line : UInt32
  column : UInt32
  offset : UInt32 := 0
deriving DecidableEq, Repr

namespace Location

/-- The location of everything that is not declared in a source text. -/
def builtin : Location :=
  ⟨0, 0, 0⟩

/-- Whether this is no place in a source text. -/
def isBuiltin (p : Location) : Bool :=
  p.line == 0 && p.column == 0

/-- Whether the location is on one of the lines from `first` to `last`. -/
def onLines (p : Location) (first last : UInt32) : Bool :=
  decide (first ≤ p.line) && decide (p.line ≤ last)

/-- Whether two locations have the same line and column. -/
def samePlace (p q : Location) : Bool :=
  p.line == q.line && p.column == q.column

/-- A location as messages show it. -/
def text (p : Location) : String :=
  if p.isBuiltin then "<builtin>" else toString p.line.toNat ++ ":" ++ toString p.column.toNat

/-- All three numbers of a location. -/
def describe (p : Location) : String :=
  toString p.line.toNat ++ ":" ++ toString p.column.toNat ++ "@" ++ toString p.offset.toNat

end Location

end PascalTypes
