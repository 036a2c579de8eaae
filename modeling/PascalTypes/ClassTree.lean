import PascalTypes.Loop
import PascalTypes.NameMap
import PascalTypes.NameSet

/-!
# The tree of classes

A `ClassTree` knows for each class the name of its parent and carries some information about it.
Parents are looked up only when a question is asked.  So a class can be registered before its
parent, and a chain of classes ends where a parent is not registered.

A faulty program can make a class its own ancestor.  A class whose ancestors run into such a cycle
has no chain, and then it descends from nothing, not even from itself.  To notice this, a climb
keeps the names it has come by in a set, and gives up where one of them comes up again.
-/

set_option autoImplicit false

namespace PascalTypes

/-- One class of the tree. -/
structure ClassNode (α : Type) where
  /-- The name as it was registered. -/
  name : String
  parent : Option String
  info : α
deriving DecidableEq, Repr

/-- Classes with their parents. -/
structure ClassTree (α : Type) where
  classes : NameMap (ClassNode α) := {}
deriving DecidableEq, Repr

namespace ClassTree

variable {α : Type}

/-- Register a class, in place of a class with the same name. -/
def register (t : ClassTree α) (name : String) (info : α) (parent : Option String) :
    ClassTree α :=
  ⟨t.classes.insert name ⟨name, parent, info⟩⟩

/-- What is registered under a name. -/
def find? (t : ClassTree α) (name : String) : Option (ClassNode α) :=
  t.classes.get? name

/-- The information about a class. -/
def info? (t : ClassTree α) (name : String) : Option α :=
  (t.find? name).map ClassNode.info

/-- Whether a class is registered. -/
def contains (t : ClassTree α) (name : String) : Bool :=
  t.classes.contains name

/-- The name of the parent of a class, whether or not the parent is registered. -/
def parentName? (t : ClassTree α) (name : String) : Option String :=
  (t.find? name).bind ClassNode.parent

/-- The number of classes. -/
def size (t : ClassTree α) : Nat :=
  t.classes.size

/-- All classes, in the order of their names. -/
def all (t : ClassTree α) : List (ClassNode α) :=
  t.classes.values

/-! ## Chains of ancestors -/

/-- The registered parent of a class. -/
def parent? (t : ClassTree α) (c : ClassNode α) : Option (ClassNode α) :=
  c.parent.bind t.find?

/-- A climb from parent to parent on the way. -/
structure Climb (α : Type) where
  here : ClassNode α
  /-- The names of the classes below. -/
  met : NameSet := {}
  /-- The classes below, the lowest first. -/
  chain : List (ClassNode α) := []
deriving DecidableEq, Repr

/-- One turn of a climb.  It gives up at a name that was met before, and is at its end where there
is no registered parent. -/
def climbTurn (t : ClassTree α) (s : Climb α) : Turn (Climb α) (Option (List (ClassNode α))) :=
  match s.met.insert s.here.name with
  | (false, _) => .done none
  | (true, met) =>
    match t.parent? s.here with
    | none => .done (some (s.chain ++ [s.here]))
    | some up => .again ⟨up, met, s.chain ++ [s.here]⟩

/-- What a climb from a class has come to within `n` turns. -/
def climb (t : ClassTree α) (n : Nat) (c : ClassNode α) : Option (Option (List (ClassNode α))) :=
  runLoop t.climbTurn n { here := c }

/-- A class and its ancestors, the class itself first.  There is no chain if the class is not
registered or its ancestors run into a cycle.  The names that a climb meets are different, so it
does not take more turns than these. -/
def chain? (t : ClassTree α) (name : String) : Option (List (ClassNode α)) :=
  (t.find? name).bind fun c ↦ (t.climb (t.size + 1) c).join

/-- The information about a class and its ancestors, the class itself first. -/
def hierarchy? (t : ClassTree α) (name : String) : Option (List α) :=
  (t.chain? name).map fun chain ↦ chain.map ClassNode.info

/-- Whether a class is `ancestor` or inherits from it. -/
def descends (t : ClassTree α) (name ancestor : String) : Bool :=
  match t.chain? name with
  | none => false
  | some chain => chain.any fun c ↦ sameName c.name ancestor

/-- The number of ancestors of a class. -/
def depth? (t : ClassTree α) (name : String) : Option Nat :=
  (t.chain? name).map fun chain ↦ chain.length - 1

/-- The classes that inherit from `ancestor`, in the order of their names. -/
def descendants (t : ClassTree α) (ancestor : String) : List String :=
  t.classes.spellings.filter fun name ↦ !sameName name ancestor && t.descends name ancestor

end ClassTree

end PascalTypes
