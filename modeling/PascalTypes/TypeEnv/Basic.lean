import PascalTypes.ClassTree
import PascalTypes.ConversionGraph
import PascalTypes.HelperTable
import PascalTypes.OperatorTable
import PascalTypes.RoutineTable
import PascalTypes.RttiTable
import PascalTypes.TypeTable

/-!
# The types of a compilation unit

A `TypeEnv` is all that is known of the types of one compilation unit: the store of types, the
tables of named types, classes, routines, operators, conversions and helpers, and the identifiers
for run-time type information.

`TypeEnv.new` makes the environment of an empty unit.  Unless the settings say otherwise, the names
of the built-in types are there from the start, and with them the interface that other interfaces
can extend.
-/

set_option autoImplicit false

namespace PascalTypes

/-- What the tree of classes carries for each class. -/
structure ClassRef where
  /-- The place of the class in the store. -/
  ty : Handle
  name : String
  parent : Option String
deriving DecidableEq, Repr

/-- The types of one compilation unit. -/
structure TypeEnv where
  settings : Settings
  store : TypeStore := .initial
  types : TypeTable := {}
  classes : ClassTree ClassRef := {}
  routines : RoutineTable := {}
  operators : OperatorTable := {}
  conversions : ConversionGraph := {}
  helpers : HelperTable := {}
  rtti : RttiTable
deriving DecidableEq, Repr

namespace TypeEnv

/-- The interface that other interfaces can extend. -/
def rootInterface : String :=
  "IInterface"

/-- The names of the built-in types. -/
def builtinTypes : List (String × Handle) :=
  [("Integer", .integer), ("Float", .float), ("String", .string), ("Boolean", .boolean),
    ("Variant", .variant)]

/-- The interface that the name of the root interface stands for, if it stands for one. -/
def rootHandle? (env : TypeEnv) : Option Handle :=
  (env.types.resolve? rootInterface).filter fun h ↦
    match env.store.shape h with
    | .ok (.interfaceType _) => true
    | _ => false

/-- Set the names of the built-in types, whatever they stood for.  The root interface is kept if
its name already stands for an interface, and is made anew otherwise. -/
def registerBuiltins (env : TypeEnv) : TypeEnv :=
  let named := builtinTypes.foldl (fun t p ↦ t.registerBuiltin p.1 p.2) env.types
  let env := { env with types := named }
  match env.rootHandle? with
  | some h => { env with types := env.types.registerBuiltin rootInterface h }
  | none =>
    { env with
      types := env.types.registerBuiltin rootInterface env.store.nextHandle
      store := env.store.push (.interfaceType { name := rootInterface }) }

/-- The environment of an empty unit. -/
def new (settings : Settings) : TypeEnv :=
  let env : TypeEnv := { settings, rtti := .ofBases settings.rtti }
  if settings.withBuiltins then env.registerBuiltins else env

/-- End the time of declarations. -/
def close (env : TypeEnv) : TypeEnv :=
  { env with store := env.store.close }

/-! ## Questions about handles -/

/-- The name of a class, record, interface or enumeration, behind all aliases. -/
def nominalName? (env : TypeEnv) (h : Handle) : Except Fault (Option String) := do
  return (← env.store.resolved h).nominalName?

/-- A chain of implicit conversions between two types, not longer than the settings allow. -/
def conversionRoute? (env : TypeEnv) (source target : Handle) :
    Except Fault (Option (List String)) := do
  let sourceText ← env.store.display source
  let targetText ← env.store.display target
  return env.conversions.route? sourceText targetText env.settings.conversionDepth.toNat

end TypeEnv

end PascalTypes
