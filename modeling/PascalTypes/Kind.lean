/-!
# Kinds of types

A `Kind` says of which sort a type is and nothing else.  Every kind has a code, and the codes come
in four blocks of sixteen: primitive types, types known by their name, types known by their
structure, and the two special kinds.
-/

set_option autoImplicit false

namespace PascalTypes

/-- The sorts of types. -/
inductive Kind
  | integer
  | float
  | string
  | boolean
  | nil
  | void
  | classType
  | recordType
  | interfaceType
  | enumType
  | array
  | subrange
  | functionPointer
  | methodPointer
  | metaclass
  | variant
  | aliasType
deriving DecidableEq, Repr

namespace Kind

/-- Every kind in the order of the codes. -/
def all : List Kind :=
  [integer, float, string, boolean, nil, void, classType, recordType, interfaceType, enumType,
    array, subrange, functionPointer, methodPointer, metaclass, variant, aliasType]

/-- The number of a kind. -/
def code : Kind → Nat
  | integer => 0
  | float => 1
  | string => 2
  | boolean => 3
  | nil => 4
  | void => 5
  | classType => 16
  | recordType => 17
  | interfaceType => 18
  | enumType => 19
  | array => 32
  | subrange => 33
  | functionPointer => 34
  | methodPointer => 35
  | metaclass => 36
  | variant => 48
  | aliasType => 49

instance : Ord Kind :=
  ⟨fun a b ↦ compare a.code b.code⟩

/-- Whether values of this kind are built into the language. -/
def isPrimitive (k : Kind) : Bool :=
  k.code < 16

/-- Whether types of this kind are told apart by their names. -/
def isNominal (k : Kind) : Bool :=
  16 ≤ k.code && k.code < 32

/-- Whether this is one of the two kinds of pointers to routines. -/
def isPointer : Kind → Bool
  | functionPointer | methodPointer => true
  | _ => false

/-- Whether `nil` is a value of this kind. -/
def isNullable : Kind → Bool
  | classType | interfaceType | metaclass => true
  | _ => false

/-- Whether a subrange can be cut out of a type of this kind. -/
def isOrdinal : Kind → Bool
  | integer | boolean | enumType => true
  | _ => false

/-- The name of a kind in capitals. -/
def text : Kind → String
  | integer => "INTEGER"
  | float => "FLOAT"
  | string => "STRING"
  | boolean => "BOOLEAN"
  | nil => "NIL"
  | void => "VOID"
  | classType => "CLASS"
  | recordType => "RECORD"
  | interfaceType => "INTERFACE"
  | enumType => "ENUM"
  | array => "ARRAY"
  | subrange => "SUBRANGE"
  | functionPointer => "FUNCTION_POINTER"
  | methodPointer => "METHOD_POINTER"
  | metaclass => "CLASSOF"
  | variant => "VARIANT"
  | aliasType => "ALIAS"

/-- The name of a kind as a title. -/
def label : Kind → String
  | integer => "Integer"
  | float => "Float"
  | string => "String"
  | boolean => "Boolean"
  | nil => "Nil"
  | void => "Void"
  | classType => "Class"
  | recordType => "Record"
  | interfaceType => "Interface"
  | enumType => "Enum"
  | array => "Array"
  | subrange => "Subrange"
  | functionPointer => "FunctionPointer"
  | methodPointer => "MethodPointer"
  | metaclass => "ClassOf"
  | variant => "Variant"
  | aliasType => "Alias"

/-- The kind with a name in capitals. -/
def ofText? (s : String) : Option Kind :=
  all.find? fun k ↦ k.text == s

/-- The name of a kind names no other kind. -/
@[simp] theorem ofText?_text (k : Kind) : ofText? k.text = some k := by
  cases k <;> rfl

end Kind

end PascalTypes
