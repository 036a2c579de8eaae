import PascalTypes.Loop
import PascalTypes.NameMap
import PascalTypes.NameSet
import PascalTypes.Refusal

/-!
# The graph of conversions

A conversion leads from one type to another, both known by their names, and is either implicit or
explicit.  Of each sort there is at most one between two types.

Implicit conversions are the edges of a graph.  They are kept twice, in the store where they are
looked up by both their ends, and as lists of the keys that lead away from each type, from which
chains are made.

`route?` looks for a chain by breadth.  It keeps a queue of trails and a set of the types that were
met.  A turn of the search takes the first trail of the queue and follows the edges from its end.
Types that were not met before give new trails, which come last in the queue, and an edge to the
target ends the search.  A trail that is as long as a chain may be is not followed any further.
-/

set_option autoImplicit false

namespace PascalTypes

/-- A conversion between two types. -/
structure Conversion where
  source : String
  target : String
  /-- The routine that does the work. -/
  binding : String
  isImplicit : Bool
deriving DecidableEq, Repr

/-- Whether the conversion leads from the one type to the other. -/
def Conversion.joins (c : Conversion) (source target : String) : Bool :=
  sameName c.source source && sameName c.target target

/-- Both ends of a conversion. -/
structure ConversionKey where
  source : NameKey
  target : NameKey
deriving DecidableEq, Repr

/-- The key under which a conversion is stored. -/
def Conversion.key (c : Conversion) : ConversionKey :=
  ⟨NameKey.of c.source, NameKey.of c.target⟩

/-- Keys stand under the type that they lead away from. -/
def ConversionKey.Rooted (edges : NameMap (List ConversionKey)) : Prop :=
  ∀ e ∈ edges.entries, ∀ key ∈ e.value, key.source = e.key

theorem ConversionKey.rooted_empty : Rooted {} :=
  fun _ he ↦ absurd he List.not_mem_nil

/-- One more key under the type that it leads away from. -/
theorem ConversionKey.Rooted.upsert {edges : NameMap (List ConversionKey)} (h : Rooted edges)
    (c : Conversion) : Rooted (edges.upsert c.source [] (· ++ [c.key])) := by
  intro e he key hkey
  rcases NameMap.mem_entries_upsert he with he | ⟨hk, old, hvalue, hold⟩
  · exact h e he key hkey
  · rw [hvalue, List.mem_append, List.mem_singleton] at hkey
    rcases hkey with hkey | rfl
    · rcases hold with rfl | ⟨x, hx, hxk, rfl⟩
      · cases hkey
      · rw [h x hx key hkey, hxk, hk]
    · exact hk.symm

/-- Conversions of both sorts, in the order in which they were registered. -/
structure ConversionGraph where
  implicits : List Conversion := []
  explicits : List Conversion := []
  /-- The keys of the implicit conversions that lead away from each type. -/
  edges : NameMap (List ConversionKey) := {}
  rooted : ConversionKey.Rooted edges := by exact ConversionKey.rooted_empty
deriving DecidableEq, Repr

/-- A chain of conversions on the way: the types it has met, the last one first. -/
structure Trail where
  here : String
  behind : List String := []
deriving DecidableEq, Repr

/-- The types that a trail has met, from the start. -/
def Trail.names (t : Trail) : List String :=
  (t.here :: t.behind).reverse

/-- The trail with one more type. -/
def Trail.extend (t : Trail) (next : String) : Trail :=
  ⟨next, t.here :: t.behind⟩

namespace ConversionGraph

/-- The implicit conversion between two types. -/
def findImplicit? (g : ConversionGraph) (source target : String) : Option Conversion :=
  g.implicits.find? fun c ↦ c.joins source target

/-- The explicit conversion between two types. -/
def findExplicit? (g : ConversionGraph) (source target : String) : Option Conversion :=
  g.explicits.find? fun c ↦ c.joins source target

/-- The conversions of one sort. -/
def ofSort (g : ConversionGraph) : Bool → List Conversion
  | true => g.implicits
  | false => g.explicits

/-- Store a conversion behind the others of its sort, and an implicit one also as an edge. -/
def push (g : ConversionGraph) (c : Conversion) : ConversionGraph :=
  if c.isImplicit then
    { g with
      implicits := g.implicits ++ [c]
      edges := g.edges.upsert c.source [] (· ++ [c.key])
      rooted := g.rooted.upsert c }
  else { g with explicits := g.explicits ++ [c] }

/-- Add a conversion, unless there is one of the same sort between the two types. -/
def register (g : ConversionGraph) (c : Conversion) : Except Refusal Unit × ConversionGraph :=
  if (g.ofSort c.isImplicit).any fun d ↦ d.joins c.source c.target then
    (.error (.duplicateConversion c.source c.target c.isImplicit), g)
  else (.ok (), g.push c)

/-- The number of conversions of both sorts. -/
def size (g : ConversionGraph) : Nat :=
  g.implicits.length + g.explicits.length

/-- Whether there are no conversions at all. -/
def isEmpty (g : ConversionGraph) : Bool :=
  g.implicits.isEmpty && g.explicits.isEmpty

/-! ## Chains of conversions -/

/-- The implicit conversion under a key. -/
def implicit? (g : ConversionGraph) (key : ConversionKey) : Option Conversion :=
  g.implicits.find? fun c ↦ c.key = key

/-- The keys of the conversions that lead away from a type. -/
def outgoingKeys (g : ConversionGraph) (source : String) : List ConversionKey :=
  (g.edges.get? source).getD []

/-- Note the type that a conversion leads to.  If it was not met before, the trail to it comes last
in the queue. -/
def visit (t : Trail) (found : List Trail × NameSet) (c : Conversion) : List Trail × NameSet :=
  match found.2.insert c.key.target.text with
  | (true, met) => (found.1 ++ [t.extend c.target], met)
  | (false, met) => (found.1, met)

/-- Follow the edges from the end of a trail.  One that leads to the target ends the search, whether
or not the target was met before. -/
def follow (g : ConversionGraph) (target : NameKey) (t : Trail) :
    List ConversionKey → List Trail × NameSet → Turn (List Trail × NameSet) (Option Trail)
  | [], found => .again found
  | key :: rest, found =>
    match g.implicit? key with
    | none => g.follow target t rest found
    | some c =>
      if key.target = target then .done (some (t.extend c.target))
      else g.follow target t rest (visit t found c)

/-- One turn of the search, from the queue of trails and the types that were met. -/
def searchTurn (g : ConversionGraph) (target : NameKey) (maxLength : Nat) :
    List Trail × NameSet → Turn (List Trail × NameSet) (Option Trail)
  | ([], _) => .done none
  | (t :: queue, met) =>
    if maxLength < t.names.length then .again (queue, met)
    else g.follow target t (g.outgoingKeys t.here) (queue, met)

/-- What the search has come to within `n` turns. -/
def search (g : ConversionGraph) (source target : String) (maxLength n : Nat) :
    Option (Option Trail) :=
  runLoop (g.searchTurn (NameKey.of target) maxLength) n
    ([{ here := source }], (NameSet.insert {} source).2)

/-- The types on a shortest chain of implicit conversions, both ends included, that has between
one and `maxLength` conversions.  If there is a conversion between the two types, nothing is
searched.  Each type is met once at most, so the search does not take more turns than these. -/
def route? (g : ConversionGraph) (source target : String) (maxLength : Nat) :
    Option (List String) :=
  if maxLength = 0 then none
  else
    match g.findImplicit? source target with
    | some direct => some [source, direct.target]
    | none =>
      (g.search source target maxLength (g.implicits.length + 2)).join.map Trail.names

end ConversionGraph

end PascalTypes
