import PascalTypes.ConversionGraph
import PascalTypes.Proofs.Chronicles
import PascalTypes.Proofs.MapEdits

/-!
# The edges of a graph of conversions

Implicit conversions are kept twice.  The store has the conversions themselves, and the edges of a
type are the keys of those that lead away from it.  A search for a chain goes by the edges, and only
then looks the conversions up.  An edge that were lost, or noted twice, or noted for an explicit
conversion would not show before some search took an odd way.

* `ConversionGraph.Mirrored` says that the edges of each type are the keys of the implicit
  conversions from it, one by one and in the order of the store, and that there is one conversion at
  most under a key.  Registering keeps this (`mirrored_register`).
* `ConversionGraph.chronicle` are the conversions of both sorts that were registered since the graph
  was last cleared.  The store of each sort has those of its sort (`ofSort_run`).
* A search looks at nothing but the implicit conversions and the edges (`route?_withExplicits`).

`edgesMirror_run` puts this together for every run of calls.
-/

set_option autoImplicit false

namespace PascalTypes

/-! ## Keys -/

namespace Conversion

variable {c d : Conversion} {source target : String}

theorem joins_iff : c.joins source target = true ↔
    sameName c.source source = true ∧ sameName c.target target = true :=
  Bool.and_eq_true_iff

theorem key_eq_key_iff : c.key = d.key ↔ c.joins d.source d.target = true := by
  rw [joins_iff, key, key, ConversionKey.mk.injEq, NameKey.of_eq_of_iff, NameKey.of_eq_of_iff]

theorem joins_self (c : Conversion) : c.joins c.source c.target = true :=
  joins_iff.mpr ⟨sameName_refl _, sameName_refl _⟩

end Conversion

/-! ## Graphs that can come up -/

/-- A call that changes a graph of conversions. -/
inductive ConversionChange
  | register (c : Conversion)
  /-- Forget all conversions. -/
  | clear

/-- Whether a change makes a graph forget its conversions. -/
def ConversionChange.isClear : ConversionChange → Bool
  | register _ => false
  | clear => true

namespace ConversionGraph

variable {g : ConversionGraph} {c d : Conversion} {source target : String}

/-- The graph after one change. -/
def apply (g : ConversionGraph) : ConversionChange → ConversionGraph
  | .register c => (g.register c).2
  | .clear => {}

/-- The graph that is left of an empty one after several changes. -/
def run (changes : List ConversionChange) : ConversionGraph :=
  changes.foldl apply {}

/-- **A conversion comes last, unless there is one of its sort between the two types.** -/
theorem register_refusedIf (g : ConversionGraph) (c : Conversion) :
    RefusedIf (∃ d ∈ g.ofSort c.isImplicit, d.joins c.source c.target = true) g (g.push c)
      (g.register c) := by
  rw [register]
  split
  · rename_i hany
    exact Or.inl ⟨List.any_eq_true.mp hany, _, rfl⟩
  · rename_i hany
    exact Or.inr ⟨mt List.any_eq_true.mpr hany, rfl⟩

theorem ofSort_push (g : ConversionGraph) (c : Conversion) (isImplicit : Bool) :
    (g.push c).ofSort isImplicit =
      g.ofSort isImplicit ++ if c.isImplicit = isImplicit then [c] else [] := by
  cases hc : c.isImplicit <;> cases isImplicit <;> simp [push, hc, ofSort]

/-! ### What the calls have registered -/

/-- The conversion that a change adds to a graph, if it adds one and is not refused. -/
def added? (g : ConversionGraph) : ConversionChange → Option Conversion
  | .register c =>
    match (g.register c).1 with
    | .ok _ => some c
    | .error _ => none
  | .clear => none

/-- The conversions of both sorts that were registered since the graph was last cleared, the oldest
first. -/
def chronicle (changes : List ConversionChange) : List Conversion :=
  Chronicle.added apply (fun _ ↦ ConversionChange.isClear) added? {} changes

theorem ofSort_apply (isImplicit : Bool) (g : ConversionGraph) (change : ConversionChange) :
    (g.apply change).ofSort isImplicit = if change.isClear then [] else
      g.ofSort isImplicit ++
        ((g.added? change).filter fun c ↦ c.isImplicit = isImplicit).toList := by
  cases change with
  | clear => cases isImplicit <;> rfl
  | register c =>
    rcases g.register_refusedIf c with ⟨-, e, he⟩ | ⟨-, he⟩
    · simp [apply, added?, he, ConversionChange.isClear]
    · rw [apply, he, ofSort_push]
      by_cases hc : c.isImplicit = isImplicit <;>
        simp [added?, he, hc, Option.filter, ConversionChange.isClear]

/-- **The conversions of a sort are those registered since the graph was last cleared.** -/
theorem ofSort_run (isImplicit : Bool) (changes : List ConversionChange) :
    (run changes).ofSort isImplicit =
      (chronicle changes).filter fun c ↦ c.isImplicit = isImplicit := by
  rw [chronicle, Chronicle.filter_added]
  have hstart : ({} : ConversionGraph).ofSort isImplicit = [] := by cases isImplicit <;> rfl
  exact Chronicle.entries_foldl _ _ _ (ofSort · isImplicit) hstart (ofSort_apply isImplicit) changes

theorem exists_mem_ofSort_run {changes : List ConversionChange} {isImplicit : Bool}
    {P : Conversion → Prop} : (∃ c ∈ (run changes).ofSort isImplicit, P c) ↔
      ∃ c ∈ chronicle changes, c.isImplicit = isImplicit ∧ P c := by
  simp only [ofSort_run, List.mem_filter, decide_eq_true_eq, and_assoc]

/-! ## The edges and the store -/

/-- There is one implicit conversion at most between two types. -/
def Simple (g : ConversionGraph) : Prop :=
  g.implicits.Pairwise fun c d ↦ c.joins d.source d.target = false

/-- The spelling of the names does not matter. -/
theorem findImplicit?_congr {source' target' : String} (hs : sameName source source' = true)
    (ht : sameName target target' = true) :
    g.findImplicit? source target = g.findImplicit? source' target' := by
  simp only [findImplicit?, Conversion.joins, sameName, sameName_iff.mp hs, sameName_iff.mp ht]

/-- In a simple graph a conversion is found between the types that it joins. -/
theorem Simple.findImplicit?_eq (hg : g.Simple) (hc : c ∈ g.implicits)
    (hjoins : c.joins source target = true) : g.findImplicit? source target = some c := by
  refine (find?_eq_some_iff_of_pairwise (hg.imp fun {a b} hab ha ↦ ?_)).mpr ⟨hc, hjoins⟩
  obtain ⟨hsource, htarget⟩ := Conversion.joins_iff.mp ha
  rw [← Bool.not_eq_true] at hab ⊢
  intro hb
  obtain ⟨hsource', htarget'⟩ := Conversion.joins_iff.mp hb
  exact hab (Conversion.joins_iff.mpr ⟨sameName_trans hsource (sameName_symm hsource'),
    sameName_trans htarget (sameName_symm htarget')⟩)

/-- A conversion is looked up under its key as it is between its two types. -/
theorem implicit?_key (g : ConversionGraph) (c : Conversion) :
    g.implicit? c.key = g.findImplicit? c.source c.target := by
  simp only [implicit?, findImplicit?, Conversion.key_eq_key_iff, Bool.decide_eq_true]

theorem Simple.implicit?_key_eq (hg : g.Simple) (hc : c ∈ g.implicits) :
    g.implicit? c.key = some c :=
  (g.implicit?_key c).trans (hg.findImplicit?_eq hc c.joins_self)

/-- The implicit conversions that the edges of a type stand for. -/
def outgoing (g : ConversionGraph) (source : String) : List Conversion :=
  (g.outgoingKeys source).filterMap g.implicit?

/-- The edges of each type are the keys of the implicit conversions from it. -/
structure Mirrored (g : ConversionGraph) : Prop where
  simple : g.Simple
  keys : ∀ source, g.outgoingKeys source =
    (g.implicits.filter fun c ↦ sameName c.source source).map Conversion.key

theorem outgoingKeys_push (g : ConversionGraph) (c : Conversion) (source : String) :
    (g.push c).outgoingKeys source = g.outgoingKeys source ++
      if c.isImplicit && sameName c.source source then [c.key] else [] := by
  cases hc : c.isImplicit with
  | false => simp [push, hc, outgoingKeys]
  | true =>
    rw [push, if_pos hc, outgoingKeys, NameMap.get?_upsert, sameName_comm, Bool.true_and]
    split
    · rfl
    · rw [List.append_nil, outgoingKeys]

namespace Mirrored

theorem empty : Mirrored {} :=
  ⟨List.Pairwise.nil, fun _ ↦ rfl⟩

theorem push (hg : g.Mirrored)
    (hnew : ¬∃ d ∈ g.ofSort c.isImplicit, d.joins c.source c.target = true) :
    (g.push c).Mirrored := by
  have himplicits : (g.push c).implicits =
      g.implicits ++ if c.isImplicit = true then [c] else [] := g.ofSort_push c true
  refine ⟨?_, fun source ↦ ?_⟩
  · rw [Simple, himplicits, List.pairwise_append]
    refine ⟨hg.simple, ?_, fun d hd e he ↦ ?_⟩
    · split <;> simp
    · split at he
      · rename_i hc
        rw [List.mem_singleton.mp he]
        rw [hc] at hnew
        exact Bool.eq_false_iff.mpr fun hjoins ↦ hnew ⟨d, hd, hjoins⟩
      · cases he
  · rw [outgoingKeys_push, hg.keys, himplicits, List.filter_append, List.map_append]
    cases c.isImplicit <;> cases hs : sameName c.source source <;> simp [hs]

/-- What a search finds by the edges of a type is what the store has from it. -/
theorem outgoing_eq (hg : g.Mirrored) (source : String) :
    g.outgoing source = g.implicits.filter fun c ↦ sameName c.source source := by
  rw [outgoing, hg.keys, List.filterMap_map]
  have hfound : ∀ c ∈ g.implicits.filter (fun c ↦ sameName c.source source),
      (g.implicit? ∘ Conversion.key) c = some c :=
    fun c hc ↦ hg.simple.implicit?_key_eq (List.mem_filter.mp hc).1
  rw [List.filterMap_congr hfound, List.filterMap_some]

/-- No edge is without its conversion. -/
theorem exists_of_mem_outgoingKeys (hg : g.Mirrored) {key : ConversionKey}
    (hkey : key ∈ g.outgoingKeys source) : ∃ c, g.implicit? key = some c ∧ c.key = key := by
  rw [hg.keys] at hkey
  obtain ⟨c, hc, rfl⟩ := List.mem_map.mp hkey
  exact ⟨c, hg.simple.implicit?_key_eq (List.mem_filter.mp hc).1, rfl⟩

/-- No edge is noted twice. -/
theorem nodup_outgoingKeys (hg : g.Mirrored) (source : String) : (g.outgoingKeys source).Nodup := by
  rw [hg.keys, List.Nodup, List.pairwise_map]
  refine (hg.simple.sublist List.filter_sublist).imp fun {c d} hcd hkey ↦ ?_
  rw [Conversion.key_eq_key_iff.mp hkey] at hcd
  cases hcd

end Mirrored

theorem mirrored_register (hg : g.Mirrored) (c : Conversion) : (g.register c).2.Mirrored := by
  rcases g.register_refusedIf c with ⟨-, e, he⟩ | ⟨hnew, he⟩
  · rw [he]
    exact hg
  · rw [he]
    exact hg.push hnew

theorem mirrored_apply (hg : g.Mirrored) (change : ConversionChange) :
    (g.apply change).Mirrored := by
  cases change with
  | register c => exact mirrored_register hg c
  | clear => exact .empty

theorem mirrored_run (changes : List ConversionChange) : (run changes).Mirrored :=
  List.foldlRecOn (motive := Mirrored) changes _ .empty fun _ hg change _ ↦
    mirrored_apply hg change

/-! ## Explicit conversions are not searched -/

theorem follow_withExplicits (g : ConversionGraph) (explicits : List Conversion)
    (target : NameKey) (t : Trail) (keys : List ConversionKey) (found : List Trail × NameSet) :
    { g with explicits }.follow target t keys found = g.follow target t keys found := by
  induction keys generalizing found with
  | nil => rfl
  | cons key rest ih =>
    rw [follow, follow]
    simp only [ih]
    rfl

theorem searchTurn_withExplicits (g : ConversionGraph) (explicits : List Conversion)
    (target : NameKey) (maxLength : Nat) :
    { g with explicits }.searchTurn target maxLength = g.searchTurn target maxLength := by
  funext ⟨queue, met⟩
  cases queue with
  | nil => rfl
  | cons t queue =>
    rw [searchTurn, searchTurn, follow_withExplicits]
    rfl

/-- **A chain does not depend on the explicit conversions.** -/
theorem route?_withExplicits (g : ConversionGraph) (explicits : List Conversion)
    (source target : String) (maxLength : Nat) :
    { g with explicits }.route? source target maxLength = g.route? source target maxLength := by
  rw [route?, route?, search, search, searchTurn_withExplicits]
  rfl

/-- Registering an explicit conversion leaves the implicit ones and the edges alone. -/
theorem exists_register_of_explicit (g : ConversionGraph) (hc : c.isImplicit = false) :
    ∃ explicits, (g.register c).2 = { g with explicits } := by
  rcases g.register_refusedIf c with ⟨-, e, he⟩ | ⟨-, he⟩
  · exact ⟨g.explicits, by rw [he]⟩
  · exact ⟨g.explicits ++ [c], by simp [he, ConversionGraph.push, hc]⟩

/-! ## After any number of calls -/

/-- The first conversion of a sort that joins two types. -/
def FirstOf (all : List Conversion) (isImplicit : Bool) (source target : String) (c : Conversion) :
    Prop :=
  ∃ front back, all = front ++ c :: back ∧ c.isImplicit = isImplicit ∧
    c.joins source target = true ∧
    ∀ d ∈ front, d.isImplicit = isImplicit → d.joins source target = false

theorem find?_eq_some_iff_firstOf {all : List Conversion} {isImplicit : Bool} :
    (all.filter fun c ↦ c.isImplicit = isImplicit).find? (fun c ↦ c.joins source target) = some c ↔
      FirstOf all isImplicit source target c := by
  rw [List.find?_filter, List.find?_eq_some_iff_append, FirstOf]
  simp only [decide_eq_true_eq, Bool.not_eq_true', decide_eq_false_iff_not, not_and,
    Bool.not_eq_true]
  constructor
  · rintro ⟨⟨hsort, hjoins⟩, front, back, hall, hfront⟩
    exact ⟨front, back, hall, hsort, hjoins, hfront⟩
  · rintro ⟨front, back, hall, hsort, hjoins, hfront⟩
    exact ⟨⟨hsort, hjoins⟩, front, back, hall, hfront⟩

/-- The edges repeat the implicit conversions, and of each sort what came first is kept. -/
structure EdgesMirror (changes : List ConversionChange) : Prop where
  outgoing : ∀ source, (run changes).outgoingKeys source =
    ((chronicle changes).filter fun c ↦ c.isImplicit && sameName c.source source).map
      Conversion.key
  once : ∀ source, ((run changes).outgoingKeys source).Nodup
  present : ∀ source, ∀ key ∈ (run changes).outgoingKeys source,
    ∃ c, (run changes).implicit? key = some c ∧ c.key = key
  found_implicit : ∀ source target c, (run changes).findImplicit? source target = some c ↔
    FirstOf (chronicle changes) true source target c
  found_explicit : ∀ source target c, (run changes).findExplicit? source target = some c ↔
    FirstOf (chronicle changes) false source target c
  refused_iff : ∀ c, (∃ e, ((run changes).register c).1 = .error e) ↔
    ∃ d ∈ chronicle changes, d.isImplicit = c.isImplicit ∧ d.joins c.source c.target = true
  refused_unchanged : ∀ c e, ((run changes).register c).1 = .error e →
    ((run changes).register c).2 = run changes
  explicit_apart : ∀ c, c.isImplicit = false → ∀ source target,
    ((run changes).register c).2.findImplicit? source target =
        (run changes).findImplicit? source target ∧
      ∀ maxLength, ((run changes).register c).2.route? source target maxLength =
        (run changes).route? source target maxLength

/-- **The edges mirror the store of implicit conversions**, whatever was registered, refused or
cleared. -/
theorem edgesMirror_run (changes : List ConversionChange) : EdgesMirror changes := by
  have hg := mirrored_run changes
  have himplicits : (run changes).implicits = _ := ofSort_run true changes
  have hexplicits : (run changes).explicits = _ := ofSort_run false changes
  refine ⟨fun source ↦ ?_, hg.nodup_outgoingKeys, fun _ _ hkey ↦ hg.exists_of_mem_outgoingKeys hkey,
    fun source target c ↦ ?_, fun source target c ↦ ?_, fun c ↦ ?_, fun c e he ↦ ?_,
    fun c hc source target ↦ ?_⟩
  · rw [hg.keys, himplicits, List.filter_filter]
    simp only [Bool.and_comm, Bool.decide_eq_true]
  · rw [findImplicit?, himplicits, find?_eq_some_iff_firstOf]
  · rw [findExplicit?, hexplicits, find?_eq_some_iff_firstOf]
  · rw [← exists_mem_ofSort_run]
    exact ((run changes).register_refusedIf c).refused_iff
  · exact ((run changes).register_refusedIf c).unchanged he
  · obtain ⟨explicits, h'⟩ := (run changes).exists_register_of_explicit hc
    rw [h']
    exact ⟨rfl, fun maxLength ↦ route?_withExplicits _ _ _ _ _⟩

end ConversionGraph

end PascalTypes
