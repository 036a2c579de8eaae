import PascalTypes.TypeStore.Display

/-!
# The table of named types

The table takes names to handles, together with where and how the name was declared.

A name that a user has declared cannot be declared again.  The names of built-in types are free to
be declared once more, and the user's declaration then takes their place.  In the other direction
a built-in type takes its name whatever stood there.
-/

set_option autoImplicit false

namespace PascalTypes

/-- A name with the type it stands for. -/
structure TypeEntry where
  /-- The name as it was declared. -/
  name : String
  ty : Handle
  location : Location
  visibility : TypeVisibility := .everywhere
  isBuiltin : Bool := false
deriving DecidableEq, Repr

/-- The named types. -/
structure TypeTable where
  types : NameMap TypeEntry := {}
deriving DecidableEq, Repr

namespace TypeTable

/-! ## Registering -/

/-- Whether a user can declare `name`. -/
def available (t : TypeTable) (name : String) : Except Refusal Unit :=
  if name.isEmpty then .error .emptyName
  else
    match t.types.get? name with
    | some old => if old.isBuiltin then .ok () else .error (.duplicateType old.name old.location)
    | none => .ok ()

/-- Declare a type under a name, if the name is available. -/
def register (t : TypeTable) (name : String) (ty : Handle) (location : Location)
    (visibility : TypeVisibility) : Except Refusal Unit × TypeTable :=
  match t.available name with
  | .error e => (.error e, t)
  | .ok () => (.ok (), ⟨t.types.insert name { name, ty, location, visibility }⟩)

/-- Set the type of a built-in name. -/
def registerBuiltin (t : TypeTable) (name : String) (ty : Handle) : TypeTable :=
  ⟨t.types.insert name { name, ty, location := .builtin, isBuiltin := true }⟩

/-- Forget a name, and tell whether it stood for a type. -/
def unregister (t : TypeTable) (name : String) : Bool × TypeTable :=
  let (dropped, types) := t.types.findThenErase? name
  (dropped.isSome, ⟨types⟩)

/-! ## Asking -/

/-- What is known of a name. -/
def find? (t : TypeTable) (name : String) : Option TypeEntry :=
  t.types.get? name

/-- The handle that a name stands for. -/
def resolve? (t : TypeTable) (name : String) : Option Handle :=
  (t.find? name).map TypeEntry.ty

/-- Whether a name stands for a type. -/
def contains (t : TypeTable) (name : String) : Bool :=
  t.types.contains name

/-- The number of names. -/
def size (t : TypeTable) : Nat :=
  t.types.size

/-- All names with what is known of them, in the order of the names. -/
def all (t : TypeTable) : List TypeEntry :=
  t.types.values

/-- All names as they were declared, with the types they stand for, in the order of the names. -/
def allTypes (t : TypeTable) : List (String × Handle) :=
  t.all.map fun e ↦ (e.name, e.ty)

/-- The handle behind all aliases that a name stands for. -/
def underlying? (t : TypeTable) (store : TypeStore) (name : String) :
    Except Fault (Option Handle) :=
  match t.resolve? name with
  | none => return none
  | some h => return some (← store.underlying h)

/-- The names of the types of a kind, where an alias counts as what it stands for. -/
def namesOfKind (t : TypeTable) (store : TypeStore) (kind : Kind) :
    Except Fault (List String) := do
  let kinds ← t.all.mapM fun e ↦ store.underlyingKind e.ty
  return ((t.all.zip kinds).filter fun p ↦ p.2 == kind).map fun p ↦ p.1.name

/-- The first type, in the order of the names, that a user declared at a place. -/
def declaredAt? (t : TypeTable) (location : Location) : Option TypeEntry :=
  t.all.find? fun e ↦ !e.isBuiltin && e.location.samePlace location

/-- The types that a user declared on the lines from `first` to `last`. -/
def declaredOnLines (t : TypeTable) (first last : UInt32) : List TypeEntry :=
  t.all.filter fun e ↦ !e.isBuiltin && e.location.onLines first last

end TypeTable

/-! ## What a type is made of -/

/-- The types that a shape mentions in its own declaration, and the parent it names. -/
def Shape.mentions : Shape → List (String ⊕ Handle)
  | .recordType r => r.fields.values.map fun f ↦ .inr f.ty
  | .classType c => c.parent.toList.map .inl ++ c.fields.values.map fun f ↦ .inr f.ty
  | .interfaceType i => i.parent.toList.map .inl
  | .array a => [.inr a.element]
  | .subrange s => [.inr s.base]
  | .aliasType a => [.inr a.target]
  | .metaclass h => [.inr h]
  | .functionPointer s | .methodPointer s => (s.params ++ s.result.toList).map .inr
  | _ => []

/-- The texts of the types that a named type mentions directly. -/
def TypeTable.dependencies (t : TypeTable) (store : TypeStore) (name : String) :
    Except Fault (List String) :=
  match t.resolve? name with
  | none => return []
  | some h => do
    let shape ← store.shape h
    shape.mentions.mapM fun
      | .inl parent => return parent
      | .inr part => store.display part

end PascalTypes
