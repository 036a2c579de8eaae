import PascalTypes.Proofs.Folding
import PascalTypes.Proofs.MapReplay
import PascalTypes.TypeTable

/-!
# What a table of types has kept of its calls

The rules for taking a name are not the same for everybody.  A user can take a free name and the
name of a built-in type, and nobody else's.  A built-in type takes any name.  What stands under a
name after many calls depends on which of them were refused, and so on all that went before.

`TypeTable.chronicle` reads it off the calls: the entries made under a name since it was last
forgotten.  The last of these is what the table has (`find?_run`).  `toldByCalls_run` adds when a
declaration is refused, what can push a user's declaration aside, and that a listing of the table
has each name once and in order.

The order of names is that of their keys, and the key of an entry is not stored with it.  `Kept`
ties the two together.  It also says that no user has declared the empty name, although a built-in
type can have it.
-/

set_option autoImplicit false

namespace PascalTypes

namespace NameMap.Indexed

variable {α : Type} {m : NameMap α} {name : α → String}

theorem erase (hm : m.Indexed name) (n : String) : (m.erase n).Indexed name :=
  ⟨fun e he ↦ hm.keyed e (List.mem_filter.mp he).1⟩

/-- The values come in the order of the names that they carry. -/
theorem pairwise_values (hm : m.Indexed name) :
    m.values.Pairwise fun v w ↦ NameKey.of (name v) < NameKey.of (name w) :=
  pairwise_map_entries name hm.keyed

/-- The values that carry a name are the one that is found under it. -/
theorem filter_values (hm : m.Indexed name) (n : String) :
    (m.values.filter fun v ↦ sameName (name v) n) = (m.get? n).toList :=
  filter_map_entries name hm.keyed n

end NameMap.Indexed

/-! ## Tables that can come up -/

/-- A call that changes a table of types. -/
inductive TypeChange
  | register (name : String) (ty : Handle) (location : Location) (visibility : TypeVisibility)
  | registerBuiltin (name : String) (ty : Handle)
  | unregister (name : String)
  /-- Forget all names. -/
  | clear

namespace TypeChange

/-- Whether a change makes a table forget a name. -/
def forgets (name : String) : TypeChange → Bool
  | register .. | registerBuiltin .. => false
  | unregister gone => sameName name gone
  | clear => true

/-- Whether a change pushes aside what a user has declared under a name. -/
def displaces (name : String) : TypeChange → Bool
  | register .. => false
  | registerBuiltin taken _ => sameName name taken
  | unregister gone => sameName name gone
  | clear => true

end TypeChange

namespace TypeTable

variable {t : TypeTable}

/-- The table after one change. -/
def apply (t : TypeTable) : TypeChange → TypeTable
  | .register name ty location visibility => (t.register name ty location visibility).2
  | .registerBuiltin name ty => t.registerBuiltin name ty
  | .unregister name => (t.unregister name).2
  | .clear => {}

/-- The table that is left of an empty one after several changes. -/
def run (changes : List TypeChange) : TypeTable :=
  changes.foldl apply {}

theorem run_concat (changes : List TypeChange) (c : TypeChange) :
    run (changes ++ [c]) = (run changes).apply c := by
  rw [run, List.foldl_concat, ← run]

/-! ### One call -/

/-- A user has declared the name. -/
def Taken (t : TypeTable) (name : String) : Prop :=
  ∃ e, t.find? name = some e ∧ e.isBuiltin = false

/-- **What becomes of a declaration.** -/
theorem register_cases (t : TypeTable) (name : String) (ty : Handle) (location : Location)
    (visibility : TypeVisibility) :
    name = "" ∧ t.register name ty location visibility = (.error .emptyName, t) ∨
      (name ≠ "" ∧ ∃ e, t.find? name = some e ∧ e.isBuiltin = false ∧
        t.register name ty location visibility =
          (.error (.duplicateType e.name e.location), t)) ∨
      name ≠ "" ∧ ¬t.Taken name ∧ t.register name ty location visibility =
        (.ok (), ⟨t.types.insert name { name, ty, location, visibility }⟩) := by
  by_cases hempty : name = ""
  · subst hempty
    exact Or.inl ⟨rfl, rfl⟩
  · have hsome : name.isEmpty = false := by simpa using hempty
    refine Or.inr ?_
    cases hfind : t.find? name with
    | none =>
      have hfree : t.available name = .ok () := by
        rw [available, hsome, ← find?, hfind]
        rfl
      refine Or.inr ⟨hempty, ?_, by rw [register, hfree]⟩
      rintro ⟨e, he, -⟩
      simp [hfind] at he
    | some old =>
      cases hbuiltin : old.isBuiltin with
      | true =>
        have hfree : t.available name = .ok () := by
          rw [available, hsome, ← find?, hfind]
          simp [hbuiltin]
        refine Or.inr ⟨hempty, ?_, by rw [register, hfree]⟩
        rintro ⟨e, he, huser⟩
        simp_all
      | false =>
        have htaken : t.available name = .error (.duplicateType old.name old.location) := by
          rw [available, hsome, ← find?, hfind]
          simp [hbuiltin]
        exact Or.inl ⟨hempty, old, rfl, hbuiltin, by rw [register, htaken]⟩

section
variable (t : TypeTable) (name : String) (ty : Handle) (location : Location)
  (visibility : TypeVisibility)

theorem register_eq_emptyName_iff :
    (t.register name ty location visibility).1 = .error .emptyName ↔ name = "" := by
  rcases t.register_cases name ty location visibility with
    ⟨hname, h⟩ | ⟨hname, e, -, -, h⟩ | ⟨hname, -, h⟩
  · exact iff_of_true (by rw [h]) hname
  · exact iff_of_false (by simp [h]) hname
  · exact iff_of_false (by simp [h]) hname

theorem register_eq_ok_iff :
    (t.register name ty location visibility).1 = .ok () ↔ name ≠ "" ∧ ¬t.Taken name := by
  rcases t.register_cases name ty location visibility with
    ⟨hname, h⟩ | ⟨-, e, he, huser, h⟩ | ⟨hname, hfree, h⟩
  · exact iff_of_false (by simp [h]) fun hok ↦ hok.1 hname
  · exact iff_of_false (by simp [h]) fun hok ↦ hok.2 ⟨e, he, huser⟩
  · exact iff_of_true (by rw [h]) ⟨hname, hfree⟩

theorem register_of_refused {why : Refusal}
    (hwhy : (t.register name ty location visibility).1 = .error why) :
    (t.register name ty location visibility).2 = t := by
  rcases t.register_cases name ty location visibility with
    ⟨-, h⟩ | ⟨-, e, -, -, h⟩ | ⟨-, -, h⟩
  · rw [h]
  · rw [h]
  · simp [h] at hwhy

end

theorem unregister_eq (t : TypeTable) (name : String) :
    t.unregister name = ((t.find? name).isSome, ⟨t.types.erase name⟩) := by
  rw [unregister, find?, NameMap.get?, NameMap.findThenErase?]
  cases t.types.find? name <;> rfl

/-! ### What stands under a name -/

/-- The entry that a change makes, if it makes one and the table does not refuse it. -/
def entered? (t : TypeTable) : TypeChange → Option TypeEntry
  | .register name ty location visibility =>
    match (t.register name ty location visibility).1 with
    | .ok _ => some { name, ty, location, visibility }
    | .error _ => none
  | .registerBuiltin name ty => some { name, ty, location := .builtin, isBuiltin := true }
  | .unregister _ | .clear => none

/-- The entry that a change makes under a name, in whatever spelling. -/
def enteredAs? (name : String) (t : TypeTable) (c : TypeChange) : Option TypeEntry :=
  (t.entered? c).filter fun e ↦ sameName name e.name

/-- The entries made under a name since it was last forgotten, the oldest first. -/
def chronicle (changes : List TypeChange) (name : String) : List TypeEntry :=
  Chronicle.added apply (fun _ ↦ TypeChange.forgets name) (enteredAs? name) {} changes

theorem enteredAs?_of_entered? {c : TypeChange} {e : TypeEntry} (h : t.entered? c = some e)
    (name : String) : enteredAs? name t c = if sameName name e.name then some e else none := by
  rw [enteredAs?, h, Option.filter_some]

/-- A change replaces what stands under a name, forgets it or leaves it alone. -/
theorem find?_apply (name : String) (t : TypeTable) (c : TypeChange) :
    (t.apply c).find? name =
      if c.forgets name then none else (enteredAs? name t c).or (t.find? name) := by
  cases c with
  | register added ty location visibility =>
    rcases t.register_cases added ty location visibility with
      ⟨-, h⟩ | ⟨-, e, -, -, h⟩ | ⟨-, -, h⟩
    · simp [apply, enteredAs?, entered?, TypeChange.forgets, h]
    · simp [apply, enteredAs?, entered?, TypeChange.forgets, h]
    · have hentered : t.entered? (.register added ty location visibility) =
          some { name := added, ty, location, visibility } := by simp [entered?, h]
      rw [enteredAs?_of_entered? hentered, apply, h, find?, NameMap.get?_insert]
      cases sameName name added <;> rfl
  | registerBuiltin added ty =>
    rw [enteredAs?_of_entered? rfl, apply, registerBuiltin, find?, NameMap.get?_insert]
    cases sameName name added <;> rfl
  | unregister gone =>
    rw [apply, unregister_eq, find?, NameMap.get?_erase]
    rfl
  | clear => rfl

/-- **Under a name stands the last entry made since it was forgotten.** -/
theorem find?_run (changes : List TypeChange) (name : String) :
    (run changes).find? name = (chronicle changes name).getLast? :=
  Chronicle.latest_foldl _ _ _ (find? · name) rfl (find?_apply name) changes

/-- A user's declaration goes exactly by the changes that displace it. -/
theorem find?_apply_ne_iff {name : String} {e : TypeEntry} (he : t.find? name = some e)
    (huser : e.isBuiltin = false) (c : TypeChange) :
    (t.apply c).find? name ≠ some e ↔ c.displaces name = true := by
  rw [find?_apply]
  cases c with
  | register added ty location visibility =>
    have hnone : enteredAs? name t (.register added ty location visibility) = none := by
      -- the name is taken, so a declaration of it is refused
      rcases t.register_cases added ty location visibility with
        ⟨-, h⟩ | ⟨-, e, -, -, h⟩ | ⟨-, hfree, h⟩
      · simp [enteredAs?, entered?, h]
      · simp [enteredAs?, entered?, h]
      · have hs : sameName name added = false := by
          rw [← Bool.not_eq_true]
          intro hs
          refine hfree ⟨e, ?_, huser⟩
          rw [find?, ← NameMap.get?_congr t.types hs]
          exact he
        simp [enteredAs?, entered?, h, hs]
    simp [hnone, he, TypeChange.forgets, TypeChange.displaces]
  | registerBuiltin taken ty =>
    cases hs : sameName name taken with
    | true =>
      have hne : (⟨taken, ty, .builtin, .everywhere, true⟩ : TypeEntry) ≠ e := by
        rintro rfl
        cases huser
      rw [enteredAs?_of_entered? rfl]
      simp [TypeChange.forgets, TypeChange.displaces, hs, hne]
    | false =>
      rw [enteredAs?_of_entered? rfl]
      simp [TypeChange.forgets, TypeChange.displaces, hs, he]
  | unregister gone =>
    cases hs : sameName name gone <;>
      simp [enteredAs?, entered?, TypeChange.forgets, TypeChange.displaces, hs, he]
  | clear => simp [TypeChange.forgets, TypeChange.displaces]

/-! ### Names and keys -/

/-- Entries stand under the names that they carry, and no user has declared the empty name. -/
structure Kept (t : TypeTable) : Prop where
  indexed : t.types.Indexed TypeEntry.name
  named : ∀ e ∈ t.all, e.isBuiltin = false → e.name ≠ ""

namespace Kept

theorem empty : Kept {} :=
  ⟨.empty _, fun _ he ↦ absurd he List.not_mem_nil⟩

theorem insert (h : t.Kept) {e : TypeEntry} (hnamed : e.isBuiltin = false → e.name ≠ "") :
    Kept ⟨t.types.insert e.name e⟩ := by
  refine ⟨h.indexed.insert e.name (sameName_refl _), fun e' he' ↦ ?_⟩
  rcases h.indexed.mem_values_insert.mp he' with rfl | ⟨he', -⟩
  · exact hnamed
  · exact h.named e' he'

theorem unregister (h : t.Kept) (name : String) : (t.unregister name).2.Kept := by
  rw [unregister_eq]
  refine ⟨h.indexed.erase name, fun e he ↦ ?_⟩
  obtain ⟨x, hx, rfl⟩ := List.mem_map.mp he
  exact h.named x.value (List.mem_map_of_mem (List.mem_filter.mp hx).1)

theorem apply (h : t.Kept) (c : TypeChange) : (t.apply c).Kept := by
  cases c with
  | register name ty location visibility =>
    rw [TypeTable.apply]
    rcases t.register_cases name ty location visibility with
      ⟨-, hr⟩ | ⟨-, e, -, -, hr⟩ | ⟨hname, -, hr⟩
    · rwa [hr]
    · rwa [hr]
    · rw [hr]
      exact h.insert (e := { name, ty, location, visibility }) fun _ ↦ hname
  | registerBuiltin name ty =>
    exact h.insert (e := { name, ty, location := .builtin, isBuiltin := true }) nofun
  | unregister name => exact h.unregister name
  | clear => exact .empty

/-- What a user has declared is not under the empty name. -/
theorem ne_empty_of_taken (h : t.Kept) {name : String} (htaken : t.Taken name) : name ≠ "" := by
  obtain ⟨e, he, huser⟩ := htaken
  obtain ⟨hmem, hs⟩ := h.indexed.get?_eq_some_iff.mp he
  rintro rfl
  have hempty : fold e.name = "" := (sameName_iff.mp hs).trans (fold_eq_empty_iff.mpr rfl)
  exact h.named e hmem huser (fold_eq_empty_iff.mp hempty)

theorem register_eq_duplicate_iff (h : t.Kept) (name : String) (ty : Handle) (location : Location)
    (visibility : TypeVisibility) {spelling : String} {place : Location} :
    (t.register name ty location visibility).1 = .error (.duplicateType spelling place) ↔
      ∃ e, t.find? name = some e ∧ e.isBuiltin = false ∧ e.name = spelling ∧
        e.location = place := by
  rcases t.register_cases name ty location visibility with
    ⟨hname, hr⟩ | ⟨-, e, he, huser, hr⟩ | ⟨-, hfree, hr⟩
  · refine iff_of_false (by simp [hr]) ?_
    rintro ⟨e, he, huser, -⟩
    exact h.ne_empty_of_taken ⟨e, he, huser⟩ hname
  · simp [hr, he, huser]
  · refine iff_of_false (by simp [hr]) ?_
    rintro ⟨e, he, huser, -⟩
    exact hfree ⟨e, he, huser⟩

end Kept

theorem kept_run (changes : List TypeChange) : (run changes).Kept :=
  List.foldlRecOn (motive := Kept) changes _ .empty fun _ ht c _ ↦ ht.apply c

/-! ## After any number of calls -/

/-- What a table has, and what it does with the next call, is told by the calls before. -/
structure ToldByCalls (changes : List TypeChange) : Prop where
  latest : ∀ name, (run changes).find? name = (chronicle changes name).getLast?
  empty_iff : ∀ name ty location visibility,
    ((run changes).register name ty location visibility).1 = .error .emptyName ↔ name = ""
  duplicate_iff : ∀ name ty location visibility spelling place,
    ((run changes).register name ty location visibility).1 =
        .error (.duplicateType spelling place) ↔
      ∃ e, (run changes).find? name = some e ∧ e.isBuiltin = false ∧ e.name = spelling ∧
        e.location = place
  accepted_iff : ∀ name ty location visibility,
    ((run changes).register name ty location visibility).1 = .ok () ↔
      name ≠ "" ∧ ¬(run changes).Taken name
  refused_unchanged : ∀ name ty location visibility why,
    ((run changes).register name ty location visibility).1 = .error why →
      ((run changes).register name ty location visibility).2 = run changes
  /-- Nothing but the changes that displace it makes a user's declaration go. -/
  displaced_iff : ∀ name e, (run changes).find? name = some e → e.isBuiltin = false → ∀ c,
    ((run (changes ++ [c])).find? name ≠ some e ↔ c.displaces name = true)
  size_eq : (run changes).size = (run changes).all.length
  ascending : ((run changes).all.map fun e ↦ NameKey.of e.name).Pairwise (· < ·)
  /-- The table lists a name once if something stands under it, and else not at all. -/
  listed : ∀ name, ((run changes).all.filter fun e ↦ sameName e.name name) =
    (chronicle changes name).getLast?.toList
  types_ascending : ((run changes).allTypes.map fun p ↦ NameKey.of p.1).Pairwise (· < ·)
  types_listed : ∀ name, ((run changes).allTypes.filter fun p ↦ sameName p.1 name) =
    ((chronicle changes name).getLast?.map fun e ↦ (e.name, e.ty)).toList
  /-- Forgetting a name tells whether something stood under it. -/
  unregister_returns : ∀ name, (run changes).unregister name =
    ((chronicle changes name).getLast?.isSome, run (changes ++ [.unregister name]))

/-- **A table of types is told by its calls.** -/
theorem toldByCalls_run (changes : List TypeChange) : ToldByCalls changes := by
  have hkept := kept_run changes
  have hlisted : ∀ name, ((run changes).all.filter fun e ↦ sameName e.name name) =
      (chronicle changes name).getLast?.toList := by
    intro name
    rw [← find?_run]
    exact hkept.indexed.filter_values name
  refine ⟨find?_run changes, (run changes).register_eq_emptyName_iff, fun name ty l v _ _ ↦
    hkept.register_eq_duplicate_iff name ty l v, (run changes).register_eq_ok_iff,
    fun name ty l v _ ↦ (run changes).register_of_refused name ty l v, ?_, ?_, ?_, hlisted, ?_,
    ?_, ?_⟩
  · intro name e he huser c
    rw [run_concat]
    exact find?_apply_ne_iff he huser c
  · simp [size, all, NameMap.size, NameMap.values]
  · exact List.pairwise_map.mpr hkept.indexed.pairwise_values
  · rw [allTypes, List.map_map]
    exact List.pairwise_map.mpr hkept.indexed.pairwise_values
  · intro name
    rw [allTypes, List.filter_map, Option.toList_map, ← hlisted]
    rfl
  · intro name
    rw [run_concat, ← find?_run, apply, unregister_eq]

end TypeTable

end PascalTypes
