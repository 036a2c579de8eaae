import PascalTypes.TypeEnv.Assignment

/-!
# Choosing an overload

A call of an overloaded routine goes to the overload that is cheapest for the arguments, if there
is one such overload.  An overload costs what it costs to assign each argument to its parameter.
An argument for a parameter that the routine can change costs nothing, but must have the same type.
-/

set_option autoImplicit false

namespace PascalTypes

/-- Why a call cannot be made. -/
inductive CallError
  | unknown (name : String)
  | noMatch (name : String)
  | ambiguous (name : String) (candidates : Nat)
deriving DecidableEq, Repr

/-- The text of the complaint. -/
def CallError.message : CallError → String
  | unknown name => "unknown name \"" ++ name ++ "\""
  | noMatch name =>
    "There is no overloaded version of \"" ++ name ++ "\" that can be called with these arguments"
  | ambiguous name candidates =>
    "ambiguous call to \"" ++ name ++ "\": " ++ toString candidates ++
      " candidates match equally well"

/-- How candidates stand that were looked at one after the other: what the cheapest of them costs,
the first that costs this, and how many do. -/
structure Standing (α : Type) where
  cost : Nat
  best : α
  ties : Nat
deriving DecidableEq, Repr

/-- The standing after one more candidate.  A candidate without a cost does not count, and a cheaper
one starts the count of ties anew. -/
def Standing.offer {α : Type} (s? : Option (Standing α)) (p : α × Option Nat) :
    Option (Standing α) :=
  match p.2, s? with
  | none, _ => s?
  | some cost, none => some ⟨cost, p.1, 1⟩
  | some cost, some s =>
    if s.cost < cost then some s
    else if cost = s.cost then some { s with ties := s.ties + 1 }
    else some ⟨cost, p.1, 1⟩

/-- The one cheapest of the candidates that have a cost. -/
def cheapest {α : Type} (name : String) (candidates : List (α × Option Nat)) :
    Except CallError α :=
  if candidates.isEmpty then .error (.unknown name)
  else
    match candidates.foldl Standing.offer none with
    | none => .error (.noMatch name)
    | some s => if s.ties = 1 then .ok s.best else .error (.ambiguous name s.ties)

namespace TypeEnv

/-- What it costs to hand an argument over to a parameter, if that is possible. -/
def bindingCost? (env : TypeEnv) (param : Param) (arg : Handle) :
    Except Fault (Option Nat) := do
  match param.mode with
  | .byReference => return if ← env.store.sameType arg param.ty then some 0 else none
  | .byValue | .constant | .deferred =>
    return (← env.assignRule? arg param.ty).map AssignRule.cost

/-- What it costs to hand arguments over to parameters one by one. -/
def bindingsCost? (env : TypeEnv) : List Param → List Handle → Except Fault (Option Nat)
  | param :: params, arg :: args => do
    match ← env.bindingCost? param arg with
    | none => return none
    | some cost => return (← env.bindingsCost? params args).map (cost + ·)
  | _, _ => return some 0

/-- What it costs to call an overload, if that is possible. -/
def callCost? (env : TypeEnv) (o : Overload) (args : List Handle) : Except Fault (Option Nat) :=
  if o.routine.acceptsArity args.length then env.bindingsCost? o.routine.params args
  else return none

/-- Choose among overloads. -/
def chooseOverload (env : TypeEnv) (name : String) (candidates : List Overload)
    (args : List Handle) : Except Fault (Except CallError Overload) := do
  let costs ← candidates.mapM fun o ↦ env.callCost? o args
  return cheapest name (candidates.zip costs)

/-- The overload that a call by the bare name goes to. -/
def resolveCall (env : TypeEnv) (name : String) (args : List Handle) :
    Except Fault (Except CallError Overload) :=
  env.chooseOverload name (env.routines.lookup name) args

/-- The overload that a call by the name qualified with a unit goes to. -/
def resolveQualifiedCall (env : TypeEnv) (unit name : String) (args : List Handle) :
    Except Fault (Except CallError Overload) :=
  env.chooseOverload name (env.routines.lookupQualified unit name) args

end TypeEnv

end PascalTypes
