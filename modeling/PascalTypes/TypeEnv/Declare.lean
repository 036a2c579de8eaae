import PascalTypes.TypeEnv.Basic

/-!
# Declarations

Declaring a type puts its shape into the store and its name into the table of types.  A class also
goes into the tree of classes, and classes, records and enumerations get their identifier for
run-time type information.

A declaration that is refused leaves the environment as it was.  This is a theorem and not a
matter of course: the steps of a declaration take place one after the other, and the state that a
refusal comes with is the state at that point.
-/

set_option autoImplicit false

namespace PascalTypes

/-- The category of identifiers that types of a kind get. -/
def Kind.rttiCategory? : Kind → Option RttiCategory
  | .classType => some .classType
  | .recordType => some .recordType
  | .enumType => some .enumType
  | _ => none

/-- Give a type of some kind its identifier, if types of that kind have one. -/
def RttiTable.allocateFor (t : RttiTable) (kind : Kind) (name : String) :
    Except Refusal Unit × RttiTable :=
  match kind.rttiCategory? with
  | none => (.ok (), t)
  | some category =>
    match t.allocate category name with
    | (.ok _, t) => (.ok (), t)
    | (.error e, t) => (.error e, t)

/-- The name that a shape carries, if the shape is known by it and it is not `name`. -/
def Shape.otherName? (s : Shape) (name : String) : Option String :=
  s.nominalName?.filter fun declared ↦ !sameName declared name

namespace TypeEnv

/-- Put a type into the tree of classes if it is a class. -/
def indexClass (classes : ClassTree ClassRef) (name : String) (h : Handle) :
    Shape → ClassTree ClassRef
  | .classType c => classes.register name ⟨h, name, c.parent⟩ c.parent
  | _ => classes

/-- Declare a type under a name. -/
def declare (env : TypeEnv) (name : String) (shape : Shape) (location : Location)
    (visibility : TypeVisibility) : Except Refusal Handle × TypeEnv :=
  match env.types.available name with
  | .error e => (.error e, env)
  | .ok () =>
    match shape.otherName? name with
    | some declared => (.error (.nameMismatch name declared), env)
    | none =>
      match env.rtti.allocateFor shape.kind name with
      | (.error e, rtti) => (.error e, { env with rtti })
      | (.ok (), rtti) =>
        let h := env.store.nextHandle
        let store := env.store.push shape
        match env.types.register name h location visibility with
        | (.error e, types) => (.error e, { env with rtti, store, types })
        | (.ok (), types) =>
          (.ok h, { env with rtti, store, types, classes := indexClass env.classes name h shape })

/-- Declare a type under the name it carries, visible everywhere. -/
def declareNamed (env : TypeEnv) (shape : Shape) (location : Location) :
    Except Refusal Handle × TypeEnv :=
  env.declare (shape.declaredName?.getD "") shape location .everywhere

/-- Give an announced class its body.  The class keeps its name as it was announced and its place
in the store. -/
def completeClass (env : TypeEnv) (body : ClassShape) :
    Except Fault (Except Refusal Handle × TypeEnv) :=
  match env.types.resolve? body.name with
  | none => return (.error (.notAClass body.name), env)
  | some h => do
    match ← env.store.editableClass h with
    | .error e => return (.error e, env)
    | .ok (place, announced) =>
      if announced.isForward then
        let name := announced.name
        let c := { body with name, flags := { body.flags with forward := false } }
        return (.ok h, { env with
          store := env.store.replaceClass place c
          classes := env.classes.register name ⟨place, name, c.parent⟩ c.parent })
      else return (.error (.notForward announced.name), env)

/-- The classes whose body has not come yet, in the order of their names. -/
def unresolvedForwards (env : TypeEnv) : Except Fault (List String) := do
  let shapes ← env.classes.all.mapM fun c ↦ env.store.class? c.info.ty
  return ((env.classes.all.zip shapes).filter fun p ↦ p.2.any ClassShape.isForward).map
    fun p ↦ p.1.name

end TypeEnv

end PascalTypes
