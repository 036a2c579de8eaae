import PascalTypes.TypeEnv.Interfaces

/-!
# Assignment

`assignRule?` finds the rule that lets a value of one type go into a variable of another.  Rules
are tried in a fixed order, and the first one that applies is the answer.  The order matters,
because the rule decides what the assignment costs when overloads are compared.

A rejected assignment is explained by a `Mismatch`, and a `Diagnostic` says where it was.
-/

set_option autoImplicit false

namespace PascalTypes

/-! ## Rules -/

/-- Why an assignment is allowed. -/
inductive AssignRule
  /-- The types are the same. -/
  | identical
  /-- An integer where a float is expected. -/
  | numericWidening
  /-- No instance, where there could be one. -/
  | nil
  /-- A class where an ancestor is expected. -/
  | classUpcast
  /-- A metaclass where that of an ancestor is expected. -/
  | metaclassUpcast
  /-- A class as a value of a metaclass. -/
  | classToMetaclass
  /-- A class where an interface it implements is expected. -/
  | interfaceImplementation
  /-- An interface where one it extends is expected. -/
  | interfaceUpcast
  | subrangeToBase
  /-- Checked when the program runs. -/
  | baseToSubrange
  | variantBoxing
  /-- Checked when the program runs. -/
  | variantUnboxing
  | enumToInteger
  /-- Pointers to routines with the same signature. -/
  | pointerCompatible
  /-- A conversion was registered. -/
  | implicitConversion
deriving DecidableEq, Repr

namespace AssignRule

/-- What an assignment costs when overloads are compared. -/
def cost : AssignRule → Nat
  | identical => 0
  | implicitConversion => 2
  | variantBoxing | variantUnboxing => 3
  | _ => 1

/-- The name of a rule. -/
def label : AssignRule → String
  | identical => "Identical"
  | numericWidening => "NumericWidening"
  | nil => "Nil"
  | classUpcast => "ClassUpcast"
  | metaclassUpcast => "MetaclassUpcast"
  | classToMetaclass => "ClassToMetaclass"
  | interfaceImplementation => "InterfaceImplementation"
  | interfaceUpcast => "InterfaceUpcast"
  | subrangeToBase => "SubrangeToBase"
  | baseToSubrange => "BaseToSubrange"
  | variantBoxing => "VariantBoxing"
  | variantUnboxing => "VariantUnboxing"
  | enumToInteger => "EnumToInteger"
  | pointerCompatible => "PointerCompatible"
  | implicitConversion => "ImplicitConversion"

end AssignRule

/-- The rule for `nil`, in both directions. -/
def isNilPair (source target : Kind) : Bool :=
  (source == .nil && target.isNullable) || (target == .nil && source.isNullable)

namespace TypeEnv

/-- The rule if it applies. -/
def ruleIf (rule : AssignRule) (applies : Except Fault Bool) :
    Except Fault (Option AssignRule) := do
  return if ← applies then some rule else none

/-- The rules for classes, metaclasses, interfaces and subranges.  The shapes are those behind the
handles. -/
def shapeRule? (env : TypeEnv) (source target : Handle) :
    Shape → Shape → Except Fault (Option AssignRule)
  | .classType _, .classType _ => ruleIf .classUpcast (env.classDescends source target)
  | .metaclass a, .metaclass b => ruleIf .metaclassUpcast (env.classDescends a b)
  | .classType _, .metaclass b => ruleIf .classToMetaclass (env.classDescends source b)
  | .classType c, .interfaceType i =>
    ruleIf .interfaceImplementation (env.implementsInterface c.name i.name)
  | .interfaceType a, .interfaceType b =>
    ruleIf .interfaceUpcast (env.interfaceExtends a.name b.name)
  | .subrange a, .subrange b => do
    match ← ruleIf .subrangeToBase (env.store.sameType a.base target) with
    | some rule => return some rule
    | none => ruleIf .baseToSubrange (env.store.sameType b.base source)
  | .subrange a, _ => ruleIf .subrangeToBase (env.store.sameType a.base target)
  | _, .subrange b => ruleIf .baseToSubrange (env.store.sameType b.base source)
  | _, _ => return none

/-- The rules that only look at the kinds. -/
def kindRule? (source target : Kind) : Option AssignRule :=
  if target = .variant then some .variantBoxing
  else if source = .variant then some .variantUnboxing
  else if source = .enumType ∧ target = .integer then some .enumToInteger
  else none

/-- Whether an implicit conversion is registered between two types, under the names they have or
under the names behind all aliases. -/
def hasConversion (env : TypeEnv) (source target : Handle) : Except Fault Bool := do
  if env.conversions.isEmpty then return false
  else
    let sourceText ← env.store.display source
    let targetText ← env.store.display target
    if (env.conversions.findImplicit? sourceText targetText).isSome then return true
    else
      let source' ← env.store.underlying source
      let target' ← env.store.underlying target
      if source' = source ∧ target' = target then return false
      else
        let sourceText ← env.store.display source'
        let targetText ← env.store.display target'
        return (env.conversions.findImplicit? sourceText targetText).isSome

/-- The last rules.  A pointer to a routine takes pointers with the same signature and nothing
else.  Into any other type there may be a conversion. -/
def lastRule? (env : TypeEnv) (source target : Handle) (x y : Shape) :
    Except Fault (Option AssignRule) :=
  match y.signature? with
  | some b =>
    match x.signature? with
    | some a => ruleIf .pointerCompatible (env.store.sameSignature a b)
    | none => return none
  | none => ruleIf .implicitConversion (env.hasConversion source target)

/-- The rules for types that are not the same. -/
def differentRule? (env : TypeEnv) (source target : Handle) :
    Except Fault (Option AssignRule) := do
  let x ← env.store.resolved source
  let y ← env.store.resolved target
  if x.kind = .integer ∧ y.kind = .float then return some .numericWidening
  else if isNilPair x.kind y.kind then return some .nil
  else
    match ← env.shapeRule? source target x y with
    | some rule => return some rule
    | none =>
      match kindRule? x.kind y.kind with
      | some rule => return some rule
      | none => env.lastRule? source target x y

/-- The rule that lets a value of type `source` go into a variable of type `target`. -/
def assignRule? (env : TypeEnv) (source target : Handle) :
    Except Fault (Option AssignRule) := do
  if ← env.store.sameType source target then return some .identical
  else env.differentRule? source target

/-- Whether the assignment is allowed. -/
def canAssign (env : TypeEnv) (source target : Handle) : Except Fault Bool := do
  return (← env.assignRule? source target).isSome

/-- Whether the types are the same, or an integer goes where a float is expected. -/
def isCompatible (env : TypeEnv) (source target : Handle) : Except Fault Bool := do
  if ← env.store.sameType source target then return true
  else
    let x ← env.store.underlyingKind source
    let y ← env.store.underlyingKind target
    return x == .integer && y == .float

end TypeEnv

/-! ## Rejections -/

/-- Which expectation an assignment fails. -/
inductive MismatchKind
  | classMismatch
  | interfaceNotImplemented
  | interfaceMismatch
  | signatureMismatch
  | incompatible
deriving DecidableEq, Repr

/-- A rejected assignment, with the texts of both types. -/
structure Mismatch where
  kind : MismatchKind
  source : String
  target : String
deriving DecidableEq, Repr

/-- The text of a rejection. -/
def Mismatch.message (m : Mismatch) : String :=
  match m.kind with
  | .classMismatch =>
    "class '" ++ m.source ++ "' is not '" ++ m.target ++ "' or a descendant of it"
  | .interfaceNotImplemented =>
    "class '" ++ m.source ++ "' does not implement interface '" ++ m.target ++ "'"
  | .interfaceMismatch => "interface '" ++ m.source ++ "' does not extend '" ++ m.target ++ "'"
  | .signatureMismatch =>
    "signature '" ++ m.source ++ "' is not compatible with '" ++ m.target ++ "'"
  | .incompatible => "incompatible types: cannot assign " ++ m.source ++ " to " ++ m.target

/-- Which expectation fails for types of these kinds. -/
def MismatchKind.ofKinds : Kind → Kind → MismatchKind
  | .classType, .classType => classMismatch
  | .classType, .interfaceType => interfaceNotImplemented
  | .interfaceType, .interfaceType => interfaceMismatch
  | _, .functionPointer => signatureMismatch
  | _, .methodPointer => signatureMismatch
  | _, _ => incompatible

/-- A rejected assignment in the source text. -/
structure Diagnostic where
  location : Location
  /-- The text of the assigned expression. -/
  expr : String
  message : String
deriving DecidableEq, Repr

/-- A diagnostic in one line. -/
def Diagnostic.text (d : Diagnostic) : String :=
  d.location.text ++ ": " ++ d.message ++ " (in \"" ++ d.expr ++ "\")"

namespace TypeEnv

/-- The rule that allows an assignment, or what is wrong with it. -/
def explainAssign (env : TypeEnv) (source target : Handle) :
    Except Fault (Except Mismatch AssignRule) := do
  match ← env.assignRule? source target with
  | some rule => return .ok rule
  | none =>
    let sourceText ← env.store.display source
    let targetText ← env.store.display target
    let x ← env.store.underlyingKind source
    let y ← env.store.underlyingKind target
    return .error ⟨.ofKinds x y, sourceText, targetText⟩

/-- Check an assignment in the source text, and add to the diagnostics if it is rejected. -/
def checkAssign (env : TypeEnv) (source target : Handle) (location : Location) (expr : String)
    (log : List Diagnostic) : Except Fault (Bool × List Diagnostic) := do
  match ← env.explainAssign source target with
  | .ok _ => return (true, log)
  | .error m => return (false, log ++ [⟨location, expr, m.message⟩])

end TypeEnv

end PascalTypes
