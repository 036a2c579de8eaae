import PascalTypes.TypeStore.Basic

/-!
# When two types are the same

Aliases are looked through first.  What is left are shapes, and a shape falls into its `Head`,
which must agree at once, and its parts, which are compared in turn:

* classes, records, interfaces and enumerations have a head only, their kind and their name;
* arrays and subranges have their bounds in the head and one part;
* pointers to routines have the number of their parameters in the head, and parameters and result
  as parts;
* a variant has no head: it is the same as itself and nothing else.

Handles are plain numbers, so nothing stops a caller from storing an array whose elements are the
array itself.  Comparing such a type with another one may never end, which is the fault `endless`.
The search is cut off where the same two places must have come up twice, one inside the other.
-/

set_option autoImplicit false

namespace PascalTypes

/-- What two shapes must have in common before their parts are compared. -/
inductive Head
  | primitive (kind : Kind)
  | named (kind : Kind) (key : NameKey)
  | array (bounds : Option Interval)
  | subrange (range : Interval)
  | pointer (kind : Kind) (arity : Nat)
  | metaclass
deriving DecidableEq, Repr

/-- Parameters and result of a signature, in this order.  A procedure has `none` for a result. -/
def Signature.parts (s : Signature) : List (Option Handle) :=
  s.params.map some ++ [s.result]

/-- The head of a shape, for shapes that can be the same as the shape of another place. -/
def Shape.head? : Shape → Option Head
  | .classType c => some (.named .classType (.of c.name))
  | .recordType r => some (.named .recordType (.of r.name))
  | .interfaceType i => some (.named .interfaceType (.of i.name))
  | .enumType e => some (.named .enumType (.of e.name))
  | .array a => some (.array a.bounds)
  | .subrange s => some (.subrange s.range)
  | .functionPointer s => some (.pointer .functionPointer s.arity)
  | .methodPointer s => some (.pointer .methodPointer s.arity)
  | .metaclass _ => some .metaclass
  | .variant | .aliasType _ => none
  | primitive => some (.primitive primitive.kind)

/-- The parts of a shape that are compared. -/
def Shape.parts : Shape → List (Option Handle)
  | .array a => [some a.element]
  | .subrange s => [some s.base]
  | .functionPointer s | .methodPointer s => s.parts
  | .metaclass h => [some h]
  | _ => []

/-- Compare parts one by one up to the first difference. -/
def sameParts (same : Handle → Handle → Except Fault Bool) :
    List (Option Handle) → List (Option Handle) → Except Fault Bool
  | [], [] => .ok true
  | some a :: as, some b :: bs =>
    match same a b with
    | .ok true => sameParts same as bs
    | r => r
  | none :: as, none :: bs => sameParts same as bs
  | _, _ => .ok false

namespace TypeStore

/-- Whether two handles mean the same type, where comparisons nest at most `n` deep. -/
def sameTypeWithin (s : TypeStore) : Nat → Handle → Handle → Except Fault Bool
  | 0, _, _ => .error .endless
  | n + 1, a, b => do
    let a ← s.underlying a
    let b ← s.underlying b
    if a = b then return true
    else
      let x ← s.shape a
      let y ← s.shape b
      match x.head?, y.head? with
      | some p, some q =>
        if p = q then sameParts (s.sameTypeWithin n) x.parts y.parts else return false
      | _, _ => return false

/-- Whether two handles mean the same type.  No two places can be compared inside a comparison of
themselves, so there are at most as many nested comparisons as there are pairs of places. -/
def sameType (s : TypeStore) (a b : Handle) : Except Fault Bool :=
  s.sameTypeWithin (s.size * s.size + 1) a b

/-- Whether two signatures have the same number of parameters, the same types for them in turn,
and the same result. -/
def sameSignature (s : TypeStore) (x y : Signature) : Except Fault Bool :=
  if x.arity = y.arity then sameParts s.sameType x.parts y.parts else .ok false

end TypeStore

end PascalTypes
