import PascalTypes.Proofs.Chronicles
import PascalTypes.Proofs.MapEdits
import PascalTypes.Proofs.QualifiedNames

/-!
# Routines by name and by qualified name

A routine of a unit is entered in two maps, under its bare name and under its qualified name.  The
maps are never compared.  Each remembers a spelling of its own, and when a name is removed, the
qualified names to go with it are found by looking at these spellings.  Still the two maps cannot
drift apart:

* the routines of a name are those registered since the name was last forgotten (`lookup_run`),
  which is `RoutineTable.chronicle`;
* the routines of a qualified name are those of the bare name that come from the unit.

`namespaces_agree` puts both together.  The first part holds for all names.  The second needs names
in ASCII, without a dot in the names of routines, because a qualified name could otherwise be the
qualified name of something else (see `sameName_qualifiedName`).

A removal tells whether it has found anything.  It has if something was registered since the name
was last forgotten (`remove_fst_iff`).
-/

set_option autoImplicit false

namespace PascalTypes

/-! ## Changes and runs -/

/-- A call that changes a table of routines. -/
inductive RoutineChange
  | register (name : String) (routine : Routine)
  | registerInUnit (unit name : String) (routine : Routine)
  | remove (name : String)
  /-- Forget all routines. -/
  | clear

namespace RoutineChange

/-- The routine that a change registers. -/
def overload? : RoutineChange → Option Overload
  | register name routine => some ⟨name, none, routine⟩
  | registerInUnit unit name routine => some ⟨name, some unit, routine⟩
  | remove _ | clear => none

/-- The routine that a change registers under a name, in whatever spelling. -/
def overloadAs? (name : String) (c : RoutineChange) : Option Overload :=
  c.overload?.filter fun o ↦ sameName name o.name

/-- Whether what a change registers has its unit in ASCII, and its name in ASCII and without a
dot. -/
def isPlain (c : RoutineChange) : Bool :=
  c.overload?.all fun o ↦ isSimple o.name && o.unit.all isAscii

end RoutineChange

/-- Whether a routine comes from a unit. -/
def Overload.isFrom (unit : String) (o : Overload) : Bool :=
  o.unit.any fun u ↦ sameName unit u

namespace RoutineTable

variable {t : RoutineTable}

/-- The table after one change. -/
def apply (t : RoutineTable) : RoutineChange → RoutineTable
  | .register name routine => t.register name routine
  | .registerInUnit unit name routine => t.registerInUnit unit name routine
  | .remove name => (t.remove name).2
  | .clear => {}

/-- The table that is left of an empty one after several changes. -/
def run (changes : List RoutineChange) : RoutineTable :=
  changes.foldl apply {}

theorem run_concat (changes : List RoutineChange) (c : RoutineChange) :
    run (changes ++ [c]) = (run changes).apply c := by
  rw [run, List.foldl_concat]
  rfl

/-! ## What is registered under a name -/

/-- Whether a change makes the table forget the routines of a name.  Either it forgets everything,
or it removes the name and there is something to remove. -/
def forgets (name : String) (t : RoutineTable) : RoutineChange → Bool
  | .clear => true
  | .remove removed => sameName name removed && t.bare.contains removed
  | _ => false

/-- What was registered under a name, in any spelling, since the name was last forgotten. -/
def chronicle (changes : List RoutineChange) (name : String) : List Overload :=
  Chronicle.added apply (forgets name) (fun _ ↦ RoutineChange.overloadAs? name) {} changes

/-- Appending to the routines of one name leaves those of other names alone. -/
theorem getD_get?_append (m : NameMap (List Overload)) (name other : String) (o : Overload) :
    ((append m name o).get? other).getD [] =
      (m.get? other).getD [] ++ if sameName other name then [o] else [] := by
  rw [append, NameMap.get?_upsert]
  split
  · rfl
  · rw [List.append_nil]

/-- **What becomes of a removal**, which tells whether there was something to remove. -/
theorem remove_cases (t : RoutineTable) (name : String) :
    t.bare.contains name = false ∧ t.remove name = (false, t) ∨
      t.bare.contains name = true ∧ t.remove name = (true,
        { bare := t.bare.erase name
          qualified := t.qualified.filter fun spelling _ ↦
            !(afterLastDot? spelling).any fun last ↦ sameName last name }) := by
  rw [remove, NameMap.findThenErase?, NameMap.contains]
  cases t.bare.find? name with
  | none => exact Or.inl ⟨rfl, rfl⟩
  | some e => exact Or.inr ⟨rfl, rfl⟩

theorem lookup_remove (t : RoutineTable) (removed name : String) :
    (t.remove removed).2.lookup name =
      if sameName name removed && t.bare.contains removed then [] else t.lookup name := by
  rcases t.remove_cases removed with ⟨hc, h⟩ | ⟨hc, h⟩
  · rw [h, hc, Bool.and_false]
    rfl
  · rw [h, hc, Bool.and_true, lookup, NameMap.get?_erase]
    split <;> rfl

/-- One change adds to the routines of a name, or makes the table forget them. -/
theorem lookup_apply (name : String) (t : RoutineTable) (c : RoutineChange) :
    (t.apply c).lookup name =
      if t.forgets name c then [] else t.lookup name ++ (c.overloadAs? name).toList := by
  cases c with
  | register added routine =>
    refine (getD_get?_append t.bare added name _).trans ?_
    cases h : sameName name added <;>
      simp [forgets, RoutineChange.overloadAs?, RoutineChange.overload?, Option.filter_some, lookup,
        h]
  | registerInUnit unit added routine =>
    refine (getD_get?_append t.bare added name _).trans ?_
    cases h : sameName name added <;>
      simp [forgets, RoutineChange.overloadAs?, RoutineChange.overload?, Option.filter_some, lookup,
        h]
  | remove removed =>
    rw [apply, lookup_remove, forgets]
    simp [RoutineChange.overloadAs?, RoutineChange.overload?]
  | clear => rfl

/-- **The routines of a name are those registered since it was last forgotten.** -/
theorem lookup_run (changes : List RoutineChange) (name : String) :
    (run changes).lookup name = chronicle changes name :=
  Chronicle.entries_foldl _ _ _ (lookup · name) rfl (lookup_apply name) changes

/-- A name that has an entry has a routine. -/
def Filled (m : NameMap (List Overload)) : Prop :=
  ∀ name overloads, m.get? name = some overloads → overloads ≠ []

theorem Filled.empty : Filled {} := by
  intro name overloads hget
  rw [NameMap.get?_empty] at hget
  cases hget

theorem Filled.append {m : NameMap (List Overload)} (h : Filled m) (added : String)
    (o : Overload) : Filled (append m added o) := by
  intro name overloads hget
  rw [RoutineTable.append, NameMap.get?_upsert] at hget
  split at hget
  · cases hget
    simp
  · exact h name overloads hget

theorem Filled.erase {m : NameMap (List Overload)} (h : Filled m) (removed : String) :
    Filled (m.erase removed) := by
  intro name overloads hget
  rw [NameMap.get?_erase] at hget
  split at hget
  · cases hget
  · exact h name overloads hget

theorem Filled.apply (h : Filled t.bare) (c : RoutineChange) : Filled (t.apply c).bare := by
  cases c with
  | register name routine => exact h.append name _
  | registerInUnit unit name routine => exact h.append name _
  | remove name =>
    rw [RoutineTable.apply]
    rcases t.remove_cases name with ⟨-, hr⟩ | ⟨-, hr⟩
    · rwa [hr]
    · rw [hr]
      exact h.erase name
  | clear => exact .empty

theorem filled_run (changes : List RoutineChange) : Filled (run changes).bare :=
  List.foldlRecOn (motive := fun t : RoutineTable ↦ Filled t.bare) changes _ .empty
    fun _ ht c _ ↦ ht.apply c

/-- **A removal tells whether anything was registered since the name was last forgotten.** -/
theorem remove_fst_iff (changes : List RoutineChange) (name : String) :
    ((run changes).remove name).1 = true ↔ chronicle changes name ≠ [] := by
  have hfilled := filled_run changes name
  rw [← lookup_run, lookup]
  rcases (run changes).remove_cases name with ⟨hc, hr⟩ | ⟨hc, hr⟩
  · rw [NameMap.contains_eq_isSome_get?, Option.isSome_eq_false_iff, Option.isNone_iff_eq_none]
      at hc
    simp [hr, hc]
  · rw [NameMap.contains_eq_isSome_get?] at hc
    obtain ⟨overloads, hget⟩ := Option.isSome_iff_exists.mp hc
    simp [hr, hget, hfilled overloads hget]

/-- Every routine in the table comes from one of the changes. -/
theorem exists_change_of_mem_lookup {changes : List RoutineChange} {name : String} {o : Overload}
    (h : o ∈ (run changes).lookup name) : ∃ c ∈ changes, c.overload? = some o := by
  rw [lookup_run, chronicle] at h
  obtain ⟨s, hs, ho⟩ := List.mem_filterMap.mp h
  have hmem := Chronicle.mem_of_mem_steps ((List.rtakeWhile_suffix _ _).subset hs)
  exact ⟨s.2, hmem, (Option.filter_eq_some_iff.mp ho).1⟩

theorem isAscii_unit_of_mem_lookup {changes : List RoutineChange} {name unit : String}
    {o : Overload} (h : ∀ c ∈ changes, c.isPlain = true) (ho : o ∈ (run changes).lookup name)
    (hunit : o.unit = some unit) : isAscii unit = true := by
  obtain ⟨c, hc, hover⟩ := exists_change_of_mem_lookup ho
  have hplain := h c hc
  rw [RoutineChange.isPlain, hover, Option.all_some, hunit, Option.all_some,
    Bool.and_eq_true] at hplain
  exact hplain.2

/-! ## The two maps -/

/-- The qualified names of a table are spelled as such, and the routines under them are those of the
bare name that come from the unit. -/
structure Paired (t : RoutineTable) : Prop where
  spelled : t.qualified.Spelled fun s ↦ ∃ unit name, isAscii unit = true ∧ isSimple name = true ∧
    s = qualifiedName unit name
  filtered : ∀ unit name, isAscii unit = true → isSimple name = true →
    t.lookupQualified unit name = (t.lookup name).filter (Overload.isFrom unit)

namespace Paired

theorem empty : Paired {} :=
  ⟨.empty _, fun _ _ _ _ ↦ rfl⟩

theorem register (h : t.Paired) (name : String) (routine : Routine) :
    (t.register name routine).Paired := by
  refine ⟨h.spelled, fun u n hu hn ↦ ?_⟩
  -- a routine that belongs to no unit comes from none
  have hlookup := getD_get?_append t.bare name n ⟨name, none, routine⟩
  rw [lookup, RoutineTable.register, hlookup, List.filter_append]
  refine (h.filtered u n hu hn).trans ?_
  split <;> simp [lookup, Overload.isFrom]

theorem registerInUnit (h : t.Paired) {unit name : String} (hunit : isAscii unit = true)
    (hname : isSimple name = true) (routine : Routine) :
    (t.registerInUnit unit name routine).Paired := by
  refine ⟨h.spelled.upsert ⟨unit, name, hunit, hname, rfl⟩ _ _, fun u n hu hn ↦ ?_⟩
  have hsame : sameName (qualifiedName u n) (qualifiedName unit name) =
      (sameName u unit && sameName n name) := by
    rw [Bool.eq_iff_iff, Bool.and_eq_true]
    exact sameName_qualifiedName hu hunit hn hname
  -- under the qualified name the new routine is added if it is added under the bare name and comes
  -- from the unit
  have hnew : (if sameName (qualifiedName u n) (qualifiedName unit name) then
      [(⟨name, some unit, routine⟩ : Overload)] else []) =
        (if sameName n name then [⟨name, some unit, routine⟩] else []).filter
          (Overload.isFrom u) := by
    rw [hsame]
    cases sameName n name <;> cases hfrom : sameName u unit <;> simp [Overload.isFrom, hfrom]
  have hold := h.filtered u n hu hn
  rw [lookup, lookupQualified] at hold ⊢
  rw [RoutineTable.registerInUnit, getD_get?_append, getD_get?_append, List.filter_append, hold,
    hnew]

/-- A qualified name goes exactly if its routine is removed, however it is spelled. -/
theorem remove (h : t.Paired) (removed : String) : (t.remove removed).2.Paired := by
  rcases t.remove_cases removed with ⟨-, hr⟩ | ⟨-, hr⟩
  · rwa [hr]
  · rw [hr]
    refine ⟨h.spelled.filter _, fun u n hu hn ↦ ?_⟩
    have hstay : ∀ e ∈ t.qualified.entries, e.key = NameKey.of (qualifiedName u n) →
        (!(afterLastDot? e.spelling).any fun last ↦ sameName last removed) =
          !sameName n removed := by
      intro e he hk
      obtain ⟨unit, name, hunit, hname, hspelling⟩ := (h.spelled e he).2
      have hsame := h.spelled.sameName he hk
      rw [hspelling, sameName_qualifiedName hunit hu hname hn] at hsame
      rw [hspelling, afterLastDot?_qualifiedName (isSimple_iff.mp hname).2, Option.any_some,
        sameName, sameName, sameName_iff.mp hsame.2]
    have hold := h.filtered u n hu hn
    rw [lookup, lookupQualified] at hold ⊢
    rw [NameMap.get?, NameMap.find?_filter hstay, NameMap.get?_erase]
    cases sameName n removed with
    | true => rfl
    | false => exact hold

theorem apply (h : t.Paired) {c : RoutineChange} (hc : c.isPlain = true) : (t.apply c).Paired := by
  cases c with
  | register name routine => exact h.register name routine
  | registerInUnit unit name routine =>
    obtain ⟨hname, hunit⟩ := (Bool.and_eq_true _ _).mp hc
    exact h.registerInUnit hunit hname routine
  | remove removed => exact h.remove removed
  | clear => exact .empty

end Paired

theorem paired_run {changes : List RoutineChange} (h : ∀ c ∈ changes, c.isPlain = true) :
    (run changes).Paired :=
  List.foldlRecOn (motive := Paired) changes _ .empty fun _ ht c hc ↦ ht.apply (h c hc)

/-- **The routines of a name are those registered since it was last forgotten, and those of a
qualified name are the ones among them that come from the unit.** -/
theorem namespaces_agree (changes : List RoutineChange) (h : ∀ c ∈ changes, c.isPlain = true)
    (unit name : String) (hunit : isAscii unit = true) (hname : isSimple name = true) :
    (run changes).lookup name = chronicle changes name ∧
      (run changes).lookupQualified unit name =
        ((run changes).lookup name).filter (Overload.isFrom unit) :=
  ⟨lookup_run changes name, (paired_run h).filtered unit name hunit hname⟩

/-- A routine with a dotted unit is removed under another spelling and registered again, between
routines of another unit and of none.  The last removal finds nothing. -/
def respelled : List RoutineChange :=
  [.registerInUnit "A.b" "Go" { name := "Go" },
    .register "go" { name := "go" },
    .remove "GO",
    .registerInUnit "a.B" "go" { name := "go" },
    .registerInUnit "b" "Go" { name := "Go" },
    .register "Go" { name := "Go" },
    .remove "up"]

theorem namespaces_agree_respelled :
    (∀ c ∈ respelled, c.isPlain = true) ∧ isAscii "A.B" = true ∧ isSimple "gO" = true ∧
      (run respelled).lookupQualified "A.B" "gO" = [⟨"go", some "a.B", { name := "go" }⟩] ∧
      (run respelled).lookup "gO" = chronicle respelled "gO" ∧
      (run respelled).lookupQualified "A.B" "gO" =
        ((run respelled).lookup "gO").filter (Overload.isFrom "A.B") := by
  have hplain : ∀ c ∈ respelled, c.isPlain = true := by decide
  have hunit : isAscii "A.B" = true := by decide
  have hname : isSimple "gO" = true := by decide
  exact ⟨hplain, hunit, hname, by decide, namespaces_agree respelled hplain _ _ hunit hname⟩

end RoutineTable

end PascalTypes
