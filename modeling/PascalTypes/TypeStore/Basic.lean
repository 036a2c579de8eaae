import PascalTypes.Refusal
import PascalTypes.Shape

/-!
# The store of types

All types of one compilation unit lie in a `TypeStore`, in the order in which they were added, and
a type is referred to by its place.  Types are never removed.  Only classes are ever changed, to
give an announced class its body, and once the store is sealed not even those.

Looking up a handle that the store never issued is a `Fault`.  So every question that looks types
up has its answer in `Except Fault`.
-/

set_option autoImplicit false

namespace PascalTypes

/-- The types of one compilation unit. -/
structure TypeStore where
  shapes : Array Shape
  /-- Whether declarations are over and classes can no longer be changed. -/
  isSealed : Bool := false
deriving DecidableEq, Repr

namespace TypeStore

/-- The store that holds the built-in types only, at the handles that are reserved for them. -/
def initial : TypeStore where
  shapes := #[.integer, .float, .string, .boolean, .nil, .void, .variant]

/-- The number of types. -/
def size (s : TypeStore) : Nat :=
  s.shapes.size

/-- Whether the store issued this handle. -/
def contains (s : TypeStore) (h : Handle) : Bool :=
  h.index < s.size

/-- The handle of the next type. -/
def nextHandle (s : TypeStore) : Handle :=
  ⟨min s.size Handle.maxIndex⟩

/-- Add a type at the end. -/
def push (s : TypeStore) (shape : Shape) : TypeStore :=
  { s with shapes := s.shapes.push shape }

/-- End the time of declarations. -/
def close (s : TypeStore) : TypeStore :=
  { s with isSealed := true }

/-- The handles with their shapes, in the order of the store. -/
def toList (s : TypeStore) : List (Handle × Shape) :=
  s.shapes.toList.zipIdx.map fun p ↦ (⟨p.2⟩, p.1)

/-! ## Looking up -/

/-- The shape at a handle. -/
def shape (s : TypeStore) (h : Handle) : Except Fault Shape :=
  match s.shapes[h.index]? with
  | some x => .ok x
  | none => .error (.strayHandle h)

/-- The kind at a handle, where an alias is of the kind `aliasType`. -/
def kind (s : TypeStore) (h : Handle) : Except Fault Kind := do
  return (← s.shape h).kind

/-- Follow at most `n` aliases. -/
def followAliases (s : TypeStore) : Nat → Handle → Except Fault Handle
  | 0, h => .ok h
  | n + 1, h =>
    match s.shape h with
    | .error e => .error e
    | .ok (.aliasType a) => s.followAliases n a.target
    | .ok _ => .ok h

/-- The handle that a handle stands for when aliases are followed.  As many steps as there are
types lead out of every chain of aliases that has an end. -/
def underlying (s : TypeStore) (h : Handle) : Except Fault Handle :=
  s.followAliases s.size h

/-- The shape behind all aliases. -/
def resolved (s : TypeStore) (h : Handle) : Except Fault Shape := do
  s.shape (← s.underlying h)

/-- The kind behind all aliases. -/
def underlyingKind (s : TypeStore) (h : Handle) : Except Fault Kind := do
  return (← s.resolved h).kind

/-- The class behind all aliases, if it is one. -/
def class? (s : TypeStore) (h : Handle) : Except Fault (Option ClassShape) := do
  return (← s.resolved h).class?

/-- The interface behind all aliases, if it is one. -/
def interface? (s : TypeStore) (h : Handle) : Except Fault (Option InterfaceShape) := do
  return (← s.resolved h).interface?

/-- A new type does not change what lies at the handles issued so far. -/
theorem shape_push_of_contains {s : TypeStore} {h : Handle} (hs : s.contains h = true)
    (new : Shape) : (s.push new).shape h = s.shape h := by
  have hlt : h.index < s.shapes.size := of_decide_eq_true hs
  simp [shape, push, Array.getElem?_push, Nat.ne_of_lt hlt]

/-- A new type lies at the handle that was next, as long as there are handles left. -/
theorem shape_push_nextHandle {s : TypeStore} (hs : s.size ≤ Handle.maxIndex) (new : Shape) :
    (s.push new).shape s.nextHandle = .ok new := by
  have hnext : s.nextHandle.index = s.shapes.size := Nat.min_eq_left hs
  simp [shape, push, hnext]

/-! ## Changing a class -/

/-- The class behind a handle and the place where it lies, unless it cannot be changed. -/
def editableClass (s : TypeStore) (h : Handle) :
    Except Fault (Except Refusal (Handle × ClassShape)) := do
  let place ← s.underlying h
  match ← s.shape place with
  | .classType c =>
    if s.isSealed then return .error (.sealedStore c.name) else return .ok (place, c)
  | other => return .error (.notAClass (other.declaredName?.getD place.text))

/-- Put a class in the place of another one. -/
def replaceClass (s : TypeStore) (place : Handle) (c : ClassShape) : TypeStore :=
  { s with shapes := s.shapes.setIfInBounds place.index (.classType c) }

/-- Change the class behind a handle.  The result is the changed class. -/
def editClass (s : TypeStore) (h : Handle) (change : ClassShape → ClassShape) :
    Except Fault (Except Refusal ClassShape × TypeStore) := do
  match ← s.editableClass h with
  | .error e => return (.error e, s)
  | .ok (place, c) => return (.ok (change c), s.replaceClass place (change c))

end TypeStore

end PascalTypes
