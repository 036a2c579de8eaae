/-!
# Directives

The directives that a declaration of a method or a class can carry.  Each directive has a bit, and
a set of directives is read from a number only if the number has no other bit.
-/

set_option autoImplicit false

namespace PascalTypes

/-- Pick the names whose flag is set. -/
def flaggedNames (flags : List (Bool × String)) : List String :=
  (flags.filter Prod.fst).map Prod.snd

/-! ## Methods -/

/-- The directives of a method. -/
structure MethodFlags where
  /-- May be replaced in a descendant. -/
  virtual : Bool := false
  /-- Replaces an inherited virtual method. -/
  override : Bool := false
  /-- Has no body in its class. -/
  abstract : Bool := false
  /-- Belongs to the class and not to an instance. -/
  classMethod : Bool := false
  /-- Hides an inherited method on purpose. -/
  reintroduce : Bool := false
deriving DecidableEq, Repr

namespace MethodFlags

/-- Whether calls are dispatched on the instance. -/
def isDynamic (f : MethodFlags) : Bool :=
  f.virtual || f.override || f.abstract

/-- The names of the directives, in the order of their bits. -/
def names (f : MethodFlags) : List String :=
  flaggedNames [(f.virtual, "VIRTUAL"), (f.override, "OVERRIDE"), (f.abstract, "ABSTRACT"),
    (f.classMethod, "CLASS_METHOD"), (f.reintroduce, "REINTRODUCE")]

/-- The directives with the given names. -/
def ofNames (names : List String) : MethodFlags where
  virtual := names.contains "VIRTUAL"
  override := names.contains "OVERRIDE"
  abstract := names.contains "ABSTRACT"
  classMethod := names.contains "CLASS_METHOD"
  reintroduce := names.contains "REINTRODUCE"

/-- Directives are read back from their names. -/
@[simp] theorem ofNames_names (f : MethodFlags) : ofNames f.names = f := by
  obtain ⟨v, o, a, c, r⟩ := f
  revert v o a c r
  decide

/-- The directives whose bits are set in a number without any other bit. -/
def ofBits? (bits : Nat) : Option MethodFlags :=
  if bits < 32 then
    some ⟨bits.testBit 0, bits.testBit 1, bits.testBit 2, bits.testBit 3, bits.testBit 4⟩
  else none

end MethodFlags

/-! ## Classes -/

/-- The directives of a class. -/
structure ClassFlags where
  /-- Announced, with the body still to come. -/
  forward : Bool := false
  /-- Implemented by the host program. -/
  external : Bool := false
  /-- Has no instances of its own. -/
  abstract : Bool := false
  /-- Has no descendants. -/
  closed : Bool := false
  /-- Declared in several parts. -/
  partialBody : Bool := false
deriving DecidableEq, Repr

namespace ClassFlags

/-- The names of the directives, in the order of their bits. -/
def names (f : ClassFlags) : List String :=
  flaggedNames [(f.forward, "FORWARD"), (f.external, "EXTERNAL"), (f.abstract, "ABSTRACT"),
    (f.closed, "SEALED"), (f.partialBody, "PARTIAL")]

/-- The directives with the given names. -/
def ofNames (names : List String) : ClassFlags where
  forward := names.contains "FORWARD"
  external := names.contains "EXTERNAL"
  abstract := names.contains "ABSTRACT"
  closed := names.contains "SEALED"
  partialBody := names.contains "PARTIAL"

/-- Directives are read back from their names. -/
@[simp] theorem ofNames_names (f : ClassFlags) : ofNames f.names = f := by
  obtain ⟨w, e, a, c, p⟩ := f
  revert w e a c p
  decide

/-- The directives whose bits are set in a number without any other bit. -/
def ofBits? (bits : Nat) : Option ClassFlags :=
  if bits < 32 then
    some ⟨bits.testBit 0, bits.testBit 1, bits.testBit 2, bits.testBit 3, bits.testBit 4⟩
  else none

end ClassFlags

end PascalTypes
