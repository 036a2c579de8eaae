import PascalTypes.NameMap
import PascalTypes.Refusal
import PascalTypes.Routine

/-!
# The table of routines

Several routines can share a name, and the table keeps all of them in the order in which they were
registered.  Routines of a unit can be asked for in two ways, by their bare name and by the name
qualified with the unit.  A qualified name is one name, unit and routine joined by a dot.
-/

set_option autoImplicit false

namespace PascalTypes

/-- One routine of the table. -/
structure Overload where
  /-- The name as it was registered. -/
  name : String
  /-- The unit it comes from, if it was registered with one. -/
  unit : Option String
  routine : Routine
deriving DecidableEq, Repr

/-- The number of parameters. -/
def Overload.arity (o : Overload) : Nat :=
  o.routine.arity

/-- Routines by their bare and by their qualified names. -/
structure RoutineTable where
  bare : NameMap (List Overload) := {}
  qualified : NameMap (List Overload) := {}
deriving DecidableEq, Repr

/-- The name of a routine together with its unit. -/
def qualifiedName (unit name : String) : String :=
  unit ++ "." ++ name

/-- What follows the last dot of a name, or nothing if there is no dot. -/
def afterLastDot? (name : String) : Option String :=
  if name.toList.contains '.' then
    some (String.ofList (name.toList.reverse.takeWhile (· ≠ '.')).reverse)
  else none

namespace RoutineTable

/-! ## Registering -/

/-- Add to the routines of a name. -/
def append (m : NameMap (List Overload)) (name : String) (o : Overload) :
    NameMap (List Overload) :=
  m.upsert name [] (· ++ [o])

/-- Register a routine that belongs to no unit. -/
def register (t : RoutineTable) (name : String) (routine : Routine) : RoutineTable :=
  { t with bare := append t.bare name ⟨name, none, routine⟩ }

/-- Register a routine of a unit, under its bare and its qualified name. -/
def registerInUnit (t : RoutineTable) (unit name : String) (routine : Routine) : RoutineTable where
  bare := append t.bare name ⟨name, some unit, routine⟩
  qualified := append t.qualified (qualifiedName unit name) ⟨name, some unit, routine⟩

/-- Forget all routines of a name, together with the qualified names that end in it, and tell
whether there were any.  Nothing is forgotten if no routine has the bare name. -/
def remove (t : RoutineTable) (name : String) : Bool × RoutineTable :=
  match t.bare.findThenErase? name with
  | (none, _) => (false, t)
  | (some _, bare) =>
    let qualified := t.qualified.filter fun spelling _ ↦
      !(afterLastDot? spelling).any fun last ↦ sameName last name
    (true, { bare, qualified })

/-! ## Asking -/

/-- The routines of a name. -/
def lookup (t : RoutineTable) (name : String) : List Overload :=
  (t.bare.get? name).getD []

/-- The routines of a name in a unit. -/
def lookupQualified (t : RoutineTable) (unit name : String) : List Overload :=
  (t.qualified.get? (qualifiedName unit name)).getD []

/-- The number of bare names. -/
def size (t : RoutineTable) : Nat :=
  t.bare.size

/-- The number of routines. -/
def total (t : RoutineTable) : Nat :=
  t.bare.values.flatten.length

/-- The routines of a unit, in the order of their qualified names. -/
def inUnit (t : RoutineTable) (unit : String) : List Overload :=
  t.qualified.values.flatten.filter fun o ↦ o.unit.any fun u ↦ sameName u unit

/-- The names with routines that have `count` parameters, and these routines. -/
def withArity (t : RoutineTable) (count : Nat) : List (String × List Overload) :=
  (t.bare.toList.map fun p ↦ (p.1, p.2.filter fun o ↦ o.arity == count)).filter
    fun p ↦ !p.2.isEmpty

/-- Whether one more routine of this name and number of parameters can be told from the others.
Routines with the same number of parameters can share a name if one of each two of them is
declared to. -/
def checkConflict (t : RoutineTable) (name : String) (arity : Nat) (isOverload : Bool) :
    Except Refusal Unit :=
  if isOverload then .ok ()
  else
    match (t.lookup name).find? fun o ↦ o.arity == arity && !o.routine.isOverload with
    | some old => .error (.conflictingOverload old.name arity)
    | none => .ok ()

end RoutineTable

end PascalTypes
