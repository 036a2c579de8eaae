import PascalTypes.Interval
import PascalTypes.Kind
import PascalTypes.Member
import PascalTypes.NameMap

/-!
# Shapes of types

A `Shape` is what a store keeps of one type.  A shape refers to the types it is made of by their
handles.  Classes and interfaces refer to their parents by name instead, so that a descendant can
be declared before the type it descends from.
-/

set_option autoImplicit false

namespace PascalTypes

/-! ## Types with a name of their own -/

/-- A class. -/
structure ClassShape where
  name : String
  parent : Option String := none
  fields : NameMap Field := {}
  methods : NameMap Method := {}
  properties : NameMap Property := {}
  /-- The interfaces the class lists, in the order of the list. -/
  interfaces : List String := []
  flags : ClassFlags := {}
  /-- The name in the host program. -/
  externalName : Option String := none
deriving DecidableEq, Repr

namespace ClassShape

/-- Add an instance field, in place of a field with the same name. -/
def addField (c : ClassShape) (name : String) (ty : Handle) (visibility : MemberVisibility) :
    ClassShape :=
  { c with fields := c.fields.insert name { ty, visibility } }

/-- Add a method, in place of a method with the same name. -/
def addMethod (c : ClassShape) (name : String) (method : Method) : ClassShape :=
  { c with methods := c.methods.insert name method }

/-- Whether the class itself lists an interface. -/
def listsInterface (c : ClassShape) (name : String) : Bool :=
  c.interfaces.any fun i ↦ sameName i name

/-- Whether the body of the class is still to come. -/
def isForward (c : ClassShape) : Bool :=
  c.flags.forward

/-- Whether the class has no instances of its own: it says so, or one of its methods has no
body. -/
def isAbstract (c : ClassShape) : Bool :=
  c.flags.abstract || c.methods.values.any fun m ↦ m.flags.abstract

end ClassShape

/-- A record. -/
structure RecordShape where
  name : String
  fields : NameMap Field := {}
  methods : NameMap Method := {}
deriving DecidableEq, Repr

/-- An interface. -/
structure InterfaceShape where
  name : String
  parent : Option String := none
  methods : NameMap Method := {}
  /-- The name in the host program. -/
  externalName : Option String := none
deriving DecidableEq, Repr

/-- An enumeration: its elements with their ordinals, in the order of the declaration. -/
structure EnumShape where
  name : String
  values : List (String × Int64)
deriving DecidableEq, Repr

namespace EnumShape

/-- The enumeration of the given elements, counted from zero. -/
def ofElements (name : String) (elements : List String) : EnumShape :=
  ⟨name, elements.zipIdx.map fun p ↦ (p.1, Int64.ofNat p.2)⟩

/-- The ordinal of the first element with this name. -/
def ordinalOf? (e : EnumShape) (element : String) : Option Int64 :=
  (e.values.find? fun v ↦ sameName v.1 element).map Prod.snd

/-- The first element with this ordinal. -/
def elementOf? (e : EnumShape) (ordinal : Int64) : Option String :=
  (e.values.find? fun v ↦ v.2 == ordinal).map Prod.fst

/-- The lowest ordinal. -/
def low? (e : EnumShape) : Option Int64 :=
  (e.values.map Prod.snd).min?

/-- The highest ordinal. -/
def high? (e : EnumShape) : Option Int64 :=
  (e.values.map Prod.snd).max?

end EnumShape

/-! ## Types made of other types -/

/-- An array.  A static array has an interval of indices, a dynamic array has none. -/
structure ArrayShape where
  element : Handle
  bounds : Option Interval
deriving DecidableEq, Repr

namespace ArrayShape

/-- Whether the array has no fixed bounds. -/
def isDynamic (a : ArrayShape) : Bool :=
  a.bounds.isNone

/-- The number of elements of a static array. -/
def length? (a : ArrayShape) : Option UInt64 :=
  a.bounds.map Interval.length

end ArrayShape

/-- A value that a subrange does not hold. -/
structure OutOfRange where
  value : Int64
  name : String
  range : Interval
deriving DecidableEq, Repr

/-- The text of the complaint. -/
def OutOfRange.message (e : OutOfRange) : String :=
  "value " ++ toString e.value.toInt ++ " is out of range for type " ++ e.name ++
    " (" ++ e.range.text ++ ")"

/-- A part of an ordinal type.  The name is empty if the subrange has none. -/
structure SubrangeShape where
  name : String
  base : Handle
  range : Interval
deriving DecidableEq, Repr

/-- What is stored when a value of the base type goes into the subrange. -/
def SubrangeShape.store (s : SubrangeShape) (v : Int64) : Except OutOfRange Int64 :=
  if s.range.contains v then .ok v else .error ⟨v, s.name, s.range⟩

/-- Parameters and result of a routine.  A procedure has no result. -/
structure Signature where
  params : List Handle
  result : Option Handle := none
deriving DecidableEq, Repr

/-- Whether there is no result. -/
def Signature.isProcedure (s : Signature) : Bool :=
  s.result.isNone

/-- The number of parameters. -/
def Signature.arity (s : Signature) : Nat :=
  s.params.length

/-- Another name for a type. -/
structure AliasShape where
  name : String
  target : Handle
deriving DecidableEq, Repr

/-! ## All of them -/

/-- What a store keeps of one type. -/
inductive Shape
  | integer
  | float
  | string
  | boolean
  | nil
  | void
  | variant
  | classType (c : ClassShape)
  | recordType (r : RecordShape)
  | interfaceType (i : InterfaceShape)
  | enumType (e : EnumShape)
  | array (a : ArrayShape)
  | subrange (s : SubrangeShape)
  | functionPointer (s : Signature)
  | methodPointer (s : Signature)
  /-- The type whose values are a class and its descendants. -/
  | metaclass (target : Handle)
  | aliasType (a : AliasShape)
deriving DecidableEq, Repr

namespace Shape

/-- The kind of a shape. -/
def kind : Shape → Kind
  | integer => .integer
  | float => .float
  | string => .string
  | boolean => .boolean
  | nil => .nil
  | void => .void
  | variant => .variant
  | classType _ => .classType
  | recordType _ => .recordType
  | interfaceType _ => .interfaceType
  | enumType _ => .enumType
  | array _ => .array
  | subrange _ => .subrange
  | functionPointer _ => .functionPointer
  | methodPointer _ => .methodPointer
  | metaclass _ => .metaclass
  | aliasType _ => .aliasType

/-- The name that the shape itself carries. -/
def declaredName? : Shape → Option String
  | classType c => some c.name
  | recordType r => some r.name
  | interfaceType i => some i.name
  | enumType e => some e.name
  | subrange s => if s.name.isEmpty then none else some s.name
  | aliasType a => some a.name
  | _ => none

/-- The name of a type that is told apart by its name. -/
def nominalName? (s : Shape) : Option String :=
  if s.kind.isNominal then s.declaredName? else none

/-- The shape as a class, and so on for the other kinds. -/
def class? : Shape → Option ClassShape
  | classType c => some c
  | _ => none

def record? : Shape → Option RecordShape
  | recordType r => some r
  | _ => none

def interface? : Shape → Option InterfaceShape
  | interfaceType i => some i
  | _ => none

def enum? : Shape → Option EnumShape
  | enumType e => some e
  | _ => none

def array? : Shape → Option ArrayShape
  | array a => some a
  | _ => none

def subrange? : Shape → Option SubrangeShape
  | subrange s => some s
  | _ => none

/-- The signature of a pointer of either kind. -/
def signature? : Shape → Option Signature
  | functionPointer s | methodPointer s => some s
  | _ => none

def metaclass? : Shape → Option Handle
  | metaclass h => some h
  | _ => none

end Shape

end PascalTypes
