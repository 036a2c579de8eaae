import PascalTypes.TypeEnv.Members
import PascalTypes.TypeStore.Equality

/-!
# Interfaces

An interface can extend another one, which it names, and a class lists the interfaces it
implements.  Both are names, and what they stand for is looked up in the table of types when a
question is asked.

The chain of an interface starts with its name, whether or not it stands for anything.  It ends
where a name stands for no interface, where an interface extends nothing, or where the chain would
come back to a name that is part of it.  All names of a chain but the last are in the table of
types, so a chain has at most one name more than the table.
-/

set_option autoImplicit false

namespace PascalTypes.TypeEnv

/-- The interface that a name stands for, behind all aliases. -/
def interfaceNamed? (env : TypeEnv) (name : String) : Except Fault (Option InterfaceShape) :=
  match env.types.resolve? name with
  | none => return none
  | some h => env.store.interface? h

/-- At most `n` names of a chain, without the names that were met before. -/
def interfaceChainFrom (env : TypeEnv) :
    Nat → List NameKey → String → Except Fault (List String)
  | 0, _, _ => return []
  | n + 1, met, name =>
    if NameKey.of name ∈ met then return []
    else do
      match (← env.interfaceNamed? name).bind InterfaceShape.parent with
      | none => return [name]
      | some parent =>
        return name :: (← env.interfaceChainFrom n (NameKey.of name :: met) parent)

/-- The name of an interface followed by the names of the interfaces it extends. -/
def interfaceChain (env : TypeEnv) (name : String) : Except Fault (List String) :=
  env.interfaceChainFrom (env.types.size + 1) [] name

/-- Whether an interface is `target` or extends it. -/
def interfaceExtends (env : TypeEnv) (name target : String) : Except Fault Bool := do
  return (← env.interfaceChain name).any fun n ↦ sameName n target

/-- Whether a class or one of its ancestors lists an interface that is `target` or extends it. -/
def implementsInterface (env : TypeEnv) (name target : String) : Except Fault Bool := do
  let chain ← env.classChain name
  chain.anyM fun p ↦ p.2.interfaces.anyM fun listed ↦ env.interfaceExtends listed target

/-- Whether a class has a method with this name and signature. -/
def providesMethod (env : TypeEnv) (name method : String) (signature : Handle) :
    Except Fault Bool := do
  match ← env.findMethod? name method with
  | some (m, _) => env.store.sameType m.signature signature
  | none => return false

/-- The methods of one interface that a class does not provide. -/
def missingFrom (env : TypeEnv) (name interface : String) : Except Fault (List String) := do
  match ← env.interfaceNamed? interface with
  | none => return []
  | some i =>
    let provided ← i.methods.toList.mapM fun p ↦ env.providesMethod name p.1 p.2.signature
    return ((i.methods.spellings.zip provided).filter fun p ↦ !p.2).map Prod.fst

/-- The methods of an interface and the interfaces it extends that a class does not provide. -/
def missingMethods (env : TypeEnv) (name interface : String) : Except Fault (List String) := do
  let chain ← env.interfaceChain interface
  return (← chain.mapM fun i ↦ env.missingFrom name i).flatten

end PascalTypes.TypeEnv
