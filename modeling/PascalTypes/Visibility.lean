/-!
# Visibility

From where a member of a type, or a type itself, can be named.
-/

set_option autoImplicit false

namespace PascalTypes

/-! ## Members -/

/-- From where a member of a class, record or interface can be named. -/
inductive MemberVisibility
  /-- Inside the declaring type only. -/
  | ownType
  /-- Inside the declaring type and its descendants. -/
  | family
  /-- Everywhere. -/
  | everywhere
  /-- Everywhere, and shown by run-time type information. -/
  | published
deriving DecidableEq, Repr

namespace MemberVisibility

/-- Every visibility, narrowest first. -/
def all : List MemberVisibility :=
  [ownType, family, everywhere, published]

/-- Whether descendants of the declaring class see the member. -/
def isInherited : MemberVisibility → Bool
  | ownType => false
  | family | everywhere | published => true

/-- The word a declaration uses. -/
def keyword : MemberVisibility → String
  | ownType => "private"
  | family => "protected"
  | everywhere => "public"
  | published => "published"

/-- The word as a title. -/
def label : MemberVisibility → String
  | ownType => "Private"
  | family => "Protected"
  | everywhere => "Public"
  | published => "Published"

/-- The visibility that a word of a declaration stands for. -/
def ofKeyword? (word : String) : Option MemberVisibility :=
  all.find? fun v ↦ v.keyword == word

@[simp] theorem ofKeyword?_keyword (v : MemberVisibility) : ofKeyword? v.keyword = some v := by
  cases v <;> rfl

end MemberVisibility

/-! ## Types -/

/-- From where a type can be named. -/
inductive TypeVisibility
  /-- Inside the declaring scope only. -/
  | scope
  /-- Across the declaring unit. -/
  | unit
  /-- Everywhere. -/
  | everywhere
deriving DecidableEq, Repr

namespace TypeVisibility

/-- Every visibility, narrowest first. -/
def all : List TypeVisibility :=
  [scope, unit, everywhere]

/-- The word a declaration uses. -/
def keyword : TypeVisibility → String
  | scope => "private"
  | unit => "unit"
  | everywhere => "public"

/-- The word as a title. -/
def label : TypeVisibility → String
  | scope => "Private"
  | unit => "Unit"
  | everywhere => "Public"

/-- The visibility that a word of a declaration stands for. -/
def ofKeyword? (word : String) : Option TypeVisibility :=
  all.find? fun v ↦ v.keyword == word

@[simp] theorem ofKeyword?_keyword (v : TypeVisibility) : ofKeyword? v.keyword = some v := by
  cases v <;> rfl

end TypeVisibility

end PascalTypes
