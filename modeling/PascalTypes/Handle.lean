/-!
# Handles

Types are kept in a store and referred to by their place in it.  A `Handle` is such a place.  The
first seven places of every store are taken by the types that are built into the language.

Equal handles mean the same place.  Whether two handles mean the same type is another question,
which only a store can answer.
-/

set_option autoImplicit false

namespace PascalTypes

/-- A place in a store of types. -/
structure Handle where
  index : Nat
deriving DecidableEq, Repr

namespace Handle

/-- The largest index that is ever issued: handles are words of 32 bits. -/
def maxIndex : Nat :=
  4294967295

def integer : Handle := ⟨0⟩
def float : Handle := ⟨1⟩
def string : Handle := ⟨2⟩
def boolean : Handle := ⟨3⟩
def nil : Handle := ⟨4⟩
def void : Handle := ⟨5⟩
def variant : Handle := ⟨6⟩

/-- The names of the built-in types, in the order of their handles. -/
def primitiveNames : List String :=
  ["INTEGER", "FLOAT", "STRING", "BOOLEAN", "NIL", "VOID", "VARIANT"]

/-- Whether the handle is that of a built-in type. -/
def isPrimitive (h : Handle) : Bool :=
  h.index < primitiveNames.length

/-- A handle as messages show it. -/
def text (h : Handle) : String :=
  "#" ++ toString h.index

/-- A handle for the eyes of a developer, with the name of a built-in type. -/
def describe (h : Handle) : String :=
  match primitiveNames[h.index]? with
  | some name => "TypeId::" ++ name
  | none => "TypeId(" ++ toString h.index ++ ")"

end Handle

end PascalTypes
