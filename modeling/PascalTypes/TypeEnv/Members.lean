import PascalTypes.TypeEnv.Basic

/-!
# Inherited members

A member of a class is looked for in the class itself and then in its ancestors, the nearest first.
The answer comes with the name of the class that declares the member.  A class that is not
registered, or whose ancestors run into a cycle, has no members at all.
-/

set_option autoImplicit false

namespace PascalTypes.TypeEnv

/-- Whether one class, given by its handle, is another one or inherits from it. -/
def classDescends (env : TypeEnv) (h ancestor : Handle) : Except Fault Bool := do
  let c ← env.store.class? h
  let a ← env.store.class? ancestor
  match c, a with
  | some c, some a => return sameName c.name a.name || env.classes.descends c.name a.name
  | _, _ => return false

/-- A class and its ancestors with their names, the class itself first. -/
def classChain (env : TypeEnv) (name : String) : Except Fault (List (String × ClassShape)) := do
  let refs := (env.classes.hierarchy? name).getD []
  let shapes ← refs.mapM fun r ↦ env.store.class? r.ty
  return (refs.zip shapes).filterMap fun p ↦ p.2.map (p.1.name, ·)

/-- The first member that is found among classes, and the name of its class. -/
def firstMember? {α : Type} (pick : ClassShape → Option α) (chain : List (String × ClassShape)) :
    Option (α × String) :=
  chain.findSome? fun p ↦ (pick p.2).map (·, p.1)

/-- A method of a class, declared or inherited. -/
def findMethod? (env : TypeEnv) (name method : String) :
    Except Fault (Option (Method × String)) := do
  return firstMember? (fun c ↦ c.methods.get? method) (← env.classChain name)

/-- A field of a class, declared or inherited. -/
def findField? (env : TypeEnv) (name field : String) :
    Except Fault (Option (Field × String)) := do
  return firstMember? (fun c ↦ c.fields.get? field) (← env.classChain name)

/-- A property of a class, declared or inherited. -/
def findProperty? (env : TypeEnv) (name property : String) :
    Except Fault (Option (Property × String)) := do
  return firstMember? (fun c ↦ c.properties.get? property) (← env.classChain name)

/-- The inherited method that an overriding method of a class replaces: the nearest one in an
ancestor that is dispatched on the instance. -/
def overriddenMethod? (env : TypeEnv) (name method : String) :
    Except Fault (Option (Method × String)) := do
  return firstMember? (fun c ↦ (c.methods.get? method).filter fun m ↦ m.flags.isDynamic)
    ((← env.classChain name).drop 1)

end PascalTypes.TypeEnv
