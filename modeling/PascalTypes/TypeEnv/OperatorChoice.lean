import PascalTypes.TypeEnv.Basic

/-!
# Choosing an operator

An operand can be taken for a value of its own class or of any ancestor.  So each operand has a
list of names under which operators are looked up, the most specific one first, and a widening
says for each operand how far up in its list to go.

The operands as they are come first.  If the operator has no meaning for these, all widenings are
listed and sorted by their total distance.  Among widenings of the same distance, those that widen
the first operand less come before the others, and so on for the other operands.  The widening that
leaves all operands as they are is the first of them, and is not tried again.
-/

set_option autoImplicit false

namespace PascalTypes

/-- All that was chosen so far, each with every place in one more list. -/
def prolong (chosen : List (List Nat)) (options : List String) : List (List Nat) :=
  chosen.flatMap fun ds ↦ (List.range options.length).map fun d ↦ ds ++ [d]

/-- All ways to choose a place in each of the lists. -/
def combinations (names : List (List String)) : List (List Nat) :=
  names.foldl prolong [[]]

/-- How far a widening goes up in total. -/
def distance : List Nat → Nat
  | [] => 0
  | d :: ds => d + distance ds

/-- Widenings are compared by their total distance, and then operand by operand. -/
def compareWidenings : List Nat → List Nat → Ordering :=
  compareLex (compareOn distance) compare

/-- All widenings, in the order in which they are tried. -/
def widenings (names : List (List String)) : List (List Nat) :=
  (combinations names).mergeSort fun ds es ↦ (compareWidenings ds es).isLE

/-- The names that a widening picks. -/
def pickNames (names : List (List String)) (distances : List Nat) : List String :=
  (names.zip distances).filterMap fun p ↦ p.1[p.2]?

namespace TypeEnv

/-- The names under which operators are looked up for an operand: those of its class and the
ancestors of it, or the text of its type if it is no class or has no chain. -/
def operandNames (env : TypeEnv) (h : Handle) : Except Fault (List String) := do
  let own ← env.store.display h
  match ← env.store.class? h with
  | none => return [own]
  | some c =>
    match env.classes.hierarchy? c.name with
    | some (r :: refs) => return (r :: refs).map ClassRef.name
    | _ => return [own]

/-- The meaning of an operator for operands, which are widened as little as possible. -/
def resolveOperator? (env : TypeEnv) (operator : String) (operands : List Handle) :
    Except Fault (Option OperatorOverload) := do
  if (env.operators.meanings operator).isEmpty then return none
  else
    let names ← operands.mapM env.operandNames
    match env.operators.lookup? operator (names.filterMap List.head?) with
    | some found => return some found
    | none =>
      return ((widenings names).drop 1).findSome? fun distances ↦
        env.operators.lookup? operator (pickNames names distances)

end TypeEnv

end PascalTypes
