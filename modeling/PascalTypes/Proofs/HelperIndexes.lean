import PascalTypes.HelperTable
import PascalTypes.Proofs.Chronicles
import PascalTypes.Proofs.MapEdits

/-!
# The indexes of a table of helpers

A table of helpers is one list with two indexes, and the helpers themselves are only reached by way
of the indexes.  A place that was noted wrongly would show another helper or none at all.

* `HelperTable.InStep` says that no index points behind the end of the list, and that a look-up in
  either index answers as a search of the whole list would.  Registering keeps this
  (`inStep_register`), since the new place is the length of the list and the list only grows.
* `HelperTable.chronicle` are the helpers that the calls since the last `clear` have registered, in
  the order of the calls.  The table has these helpers and no others (`helpers_run`).

`indexesAgree_run` puts both together for every run of calls.
-/

set_option autoImplicit false

namespace PascalTypes

/-! ## The index by type -/

namespace TargetIndex

/-- A place is noted for one type, and those of the others stay. -/
theorem places_note (x : TargetIndex) (target other : Handle) (place : Nat) :
    (x.note target place).places other =
      x.places other ++ if target = other then [place] else [] := by
  rw [places, note, places]
  induction x.rows with
  | nil => by_cases h : target = other <;> simp [noteIn, h]
  | cons row rest ih =>
    rw [noteIn]
    split
    · rename_i hrow
      by_cases h : target = other <;> simp [hrow, h]
    · rename_i hrow
      by_cases h : row.1 = other
      · have hne : target ≠ other := fun he ↦ hrow (h.trans he.symm)
        simp [h, hne]
      · simpa [h] using ih

/-- The types with a row are those that had one, and the type of the place. -/
theorem map_fst_noteIn (target : Handle) (place : Nat) (rows : List (Handle × List Nat)) :
    (noteIn target place rows).map Prod.fst =
      rows.map Prod.fst ++ if target ∈ rows.map Prod.fst then [] else [target] := by
  induction rows with
  | nil => simp [noteIn]
  | cons row rest ih =>
    rw [noteIn]
    split
    · rename_i hrow
      simp [hrow]
    · rename_i hrow
      rw [List.map_cons, List.map_cons, ih, List.cons_append]
      simp only [List.mem_cons, Ne.symm hrow, false_or]

/-- What stands in the rows was there before, or is the new place. -/
theorem forall_noteIn {P : Nat → Prop} {rows : List (Handle × List Nat)}
    (h : ∀ row ∈ rows, ∀ place ∈ row.2, P place) (target : Handle) {place : Nat} (hp : P place) :
    ∀ row ∈ noteIn target place rows, ∀ place ∈ row.2, P place := by
  induction rows with
  | nil => simpa [noteIn] using hp
  | cons first rest ih =>
    obtain ⟨hfirst, hrest⟩ := List.forall_mem_cons.mp h
    rw [noteIn]
    split
    · refine List.forall_mem_cons.mpr ⟨fun p hpm ↦ ?_, hrest⟩
      rcases List.mem_append.mp hpm with hpm | hpm
      · exact hfirst p hpm
      · rwa [List.mem_singleton.mp hpm]
    · exact List.forall_mem_cons.mpr ⟨hfirst, ih hrest⟩

/-- One more type counts only if it is new. -/
theorem eraseDups_concat (targets : List Handle) (target : Handle) :
    (targets ++ [target]).eraseDups =
      targets.eraseDups ++ if target ∈ targets then [] else [target] := by
  rw [List.eraseDups_append, List.cons_removeAll, List.nil_removeAll]
  by_cases h : target ∈ targets
  · simp [h]
  · have hnew : targets.contains target = false := by simpa using h
    rw [if_pos hnew, if_neg h]
    rfl

theorem exists_row_of_mem_places {x : TargetIndex} {target : Handle} {place : Nat}
    (h : place ∈ x.places target) : ∃ row ∈ x.rows, place ∈ row.2 := by
  rw [places] at h
  cases hrow : x.rows.find? fun row ↦ row.1 == target with
  | none =>
    rw [hrow] at h
    cases h
  | some row =>
    rw [hrow] at h
    exact ⟨row, List.mem_of_find?_eq_some hrow, h⟩

end TargetIndex

/-! ## Tables that can come up -/

/-- A call that changes a table of helpers. -/
inductive HelperChange
  | register (h : TypeHelper)
  /-- Forget all helpers. -/
  | clear

/-- Whether a change makes a table forget its helpers. -/
def HelperChange.isClear : HelperChange → Bool
  | register _ => false
  | clear => true

namespace HelperTable

variable {t : HelperTable} {h g : TypeHelper} {name : String}

/-- The table after one change. -/
def apply (t : HelperTable) : HelperChange → HelperTable
  | .register h => (t.register h).2
  | .clear => {}

/-- The table that is left of an empty one after several changes. -/
def run (changes : List HelperChange) : HelperTable :=
  changes.foldl apply {}

/-- **A helper comes last, unless it has no name or one that is taken.** -/
theorem register_refusedIf (t : HelperTable) (h : TypeHelper) :
    RefusedIf (h.name = "" ∨ t.byName.contains h.name = true) t (t.push h) (t.register h) := by
  rw [register]
  split
  · rename_i hempty
    exact Or.inl ⟨Or.inl (String.isEmpty_iff.mp hempty), _, rfl⟩
  · rename_i hempty
    split
    · rename_i htaken
      exact Or.inl ⟨Or.inr htaken, _, rfl⟩
    · rename_i hnew
      exact Or.inr ⟨not_or.mpr ⟨mt String.isEmpty_iff.mpr hempty, hnew⟩, rfl⟩

/-! ### What the calls have registered -/

/-- The helper that a change adds to a table, if it adds one and the table does not refuse it. -/
def added? (t : HelperTable) : HelperChange → Option TypeHelper
  | .register h =>
    match (t.register h).1 with
    | .ok _ => some h
    | .error _ => none
  | .clear => none

/-- The helpers that were registered since the table was last cleared, the oldest first. -/
def chronicle (changes : List HelperChange) : List TypeHelper :=
  Chronicle.added apply (fun _ ↦ HelperChange.isClear) added? {} changes

theorem helpers_apply (t : HelperTable) (c : HelperChange) :
    (t.apply c).helpers = if c.isClear then [] else t.helpers ++ (t.added? c).toList := by
  cases c with
  | clear => rfl
  | register h =>
    rcases t.register_refusedIf h with ⟨-, e, he⟩ | ⟨-, he⟩ <;>
      simp [apply, added?, he, HelperChange.isClear, push]

/-- **The helpers of a table are those registered since it was last cleared.** -/
theorem helpers_run (changes : List HelperChange) : (run changes).helpers = chronicle changes :=
  Chronicle.entries_foldl _ _ _ helpers rfl helpers_apply changes

/-! ## The indexes and the list -/

/-- The indexes lead to the helpers of the list, and to all of them. -/
structure InStep (t : HelperTable) : Prop where
  distinct : DistinctNames (t.helpers.map TypeHelper.name)
  names_inside : ∀ e ∈ t.byName.entries, e.value < t.size
  targets_inside : ∀ row ∈ t.byTarget.rows, ∀ place ∈ row.2, place < t.size
  by_name : ∀ name, t.find? name = t.helpers.find? fun h ↦ sameName h.name name
  by_target : ∀ target, t.helpersOf target = t.helpers.filter fun h ↦ h.target == target
  targets : t.byTarget.rows.map Prod.fst = (t.helpers.map TypeHelper.target).eraseDups

theorem size_push (t : HelperTable) (h : TypeHelper) : (t.push h).size = t.size + 1 :=
  List.length_append

theorem getElem?_push {place : Nat} (hp : place < t.size) (h : TypeHelper) :
    (t.push h).helpers[place]? = t.helpers[place]? :=
  List.getElem?_append_left hp

theorem getElem?_push_size (t : HelperTable) (h : TypeHelper) :
    (t.push h).helpers[t.size]? = some h :=
  List.getElem?_concat_length

namespace InStep

theorem empty : InStep {} where
  distinct := List.Pairwise.nil
  names_inside _ he := absurd he List.not_mem_nil
  targets_inside _ hrow := absurd hrow List.not_mem_nil
  by_name _ := rfl
  by_target _ := rfl
  targets := rfl

/-- A helper is found under its name, in any spelling. -/
theorem find?_eq_some_iff (ht : t.InStep) :
    t.find? name = some h ↔ h ∈ t.helpers ∧ sameName h.name name = true := by
  rw [ht.by_name]
  refine find?_eq_some_iff_of_pairwise ((List.pairwise_map.mp ht.distinct).imp ?_)
  intro a b hab ha
  rw [← Bool.not_eq_true] at hab ⊢
  exact fun hb ↦ hab (sameName_trans ha (sameName_symm hb))

theorem place_lt (ht : t.InStep) {place : Nat} (hp : t.byName.get? name = some place) :
    place < t.size := by
  obtain ⟨e, he, rfl⟩ := Option.map_eq_some_iff.mp hp
  exact ht.names_inside e (NameMap.find?_eq_some_iff.mp he).1

/-- A name is taken exactly if a helper has it. -/
theorem contains_iff (ht : t.InStep) :
    t.byName.contains name = true ↔ ∃ h ∈ t.helpers, sameName h.name name = true := by
  rw [NameMap.contains_eq_isSome_get?, Option.isSome_iff_exists]
  constructor
  · rintro ⟨place, hp⟩
    have hfind : t.find? name = t.helpers[place]? := by rw [find?, hp, Option.bind_some]
    rw [List.getElem?_eq_getElem (ht.place_lt hp)] at hfind
    exact ⟨_, ht.find?_eq_some_iff.mp hfind⟩
  · rintro ⟨h, hh⟩
    obtain ⟨place, hp, -⟩ := Option.bind_eq_some_iff.mp (ht.find?_eq_some_iff.mpr hh)
    exact ⟨place, hp⟩

theorem find?_push (ht : t.InStep) (h : TypeHelper) (name : String) :
    (t.push h).find? name = if sameName name h.name then some h else t.find? name := by
  rw [find?, push, NameMap.get?_insert]
  split
  · exact getElem?_push_size t h
  · cases hp : t.byName.get? name with
    | none => rw [find?, hp]; rfl
    | some place =>
      rw [find?, hp]
      exact getElem?_push (ht.place_lt hp) h

theorem helpersOf_push (ht : t.InStep) (h : TypeHelper) (target : Handle) :
    (t.push h).helpersOf target = t.helpersOf target ++ if h.target = target then [h] else [] := by
  have hold : (t.byTarget.places target).filterMap (fun place ↦ (t.push h).helpers[place]?) =
      t.helpersOf target := by
    refine List.filterMap_congr fun place hp ↦ ?_
    obtain ⟨row, hrow, hmem⟩ := TargetIndex.exists_row_of_mem_places hp
    exact getElem?_push (ht.targets_inside row hrow place hmem) h
  rw [helpersOf, push, TargetIndex.places_note, List.filterMap_append, ← push, hold]
  split
  · rw [List.filterMap_cons, ← size, getElem?_push_size]
    rfl
  · rfl

theorem push (ht : t.InStep) (hnew : ¬t.byName.contains h.name = true) : (t.push h).InStep := by
  have hfree : ∀ g ∈ t.helpers, sameName g.name h.name = false := by
    intro g hg
    exact Bool.eq_false_iff.mpr fun hsame ↦ hnew (ht.contains_iff.mpr ⟨g, hg, hsame⟩)
  have hlt : ∀ place, place < t.size → place < (t.push h).size := by
    intro place hp
    rw [size_push]
    exact Nat.lt_succ_of_lt hp
  have hlast : t.size < (t.push h).size := by
    rw [size_push]
    exact Nat.lt_succ_self _
  refine ⟨?_, fun e he ↦ ?_, ?_, fun name ↦ ?_, fun target ↦ ?_, ?_⟩
  · rw [HelperTable.push, List.map_append]
    refine ht.distinct.append_singleton (List.any_eq_false.mpr fun name hname ↦ ?_)
    obtain ⟨g, hg, rfl⟩ := List.mem_map.mp hname
    simp [hfree g hg]
  · rcases NameMap.mem_entries_insert.mp he with rfl | ⟨he, -⟩
    · exact hlast
    · exact hlt _ (ht.names_inside e he)
  · refine TargetIndex.forall_noteIn (fun row hrow place hp ↦ ?_) h.target hlast
    exact hlt place (ht.targets_inside row hrow place hp)
  · rw [ht.find?_push, ht.by_name, HelperTable.push, List.find?_append]
    split
    · rename_i hsame
      have hnone : t.helpers.find? (fun g ↦ sameName g.name name) = none := by
        refine List.find?_eq_none.mpr fun g hg hgn ↦ ?_
        exact absurd ((hfree g hg).symm.trans (sameName_trans hgn hsame)) Bool.false_ne_true
      rw [hnone, Option.none_or, List.find?_singleton, if_pos (sameName_symm hsame)]
    · rename_i hsame
      rw [List.find?_singleton, if_neg (mt sameName_symm hsame), Option.or_none]
  · rw [ht.helpersOf_push, ht.by_target, HelperTable.push, List.filter_append]
    by_cases htarget : h.target = target <;> simp [htarget]
  · rw [HelperTable.push, TargetIndex.note, TargetIndex.map_fst_noteIn, ht.targets,
      List.map_append, List.map_singleton, TargetIndex.eraseDups_concat]
    simp only [List.mem_eraseDups]

end InStep

theorem inStep_register (ht : t.InStep) (h : TypeHelper) : (t.register h).2.InStep := by
  rcases t.register_refusedIf h with ⟨-, e, he⟩ | ⟨hnew, he⟩
  · rw [he]
    exact ht
  · rw [he]
    exact ht.push (not_or.mp hnew).2

theorem inStep_apply (ht : t.InStep) (c : HelperChange) : (t.apply c).InStep := by
  cases c with
  | register h => exact inStep_register ht h
  | clear => exact .empty

theorem inStep_run (changes : List HelperChange) : (run changes).InStep :=
  List.foldlRecOn (motive := InStep) changes _ .empty fun _ ht c _ ↦ inStep_apply ht c

/-! ## After any number of calls -/

/-- Both indexes give the registered helpers, and nothing else decides what is registered. -/
structure IndexesAgree (changes : List HelperChange) : Prop where
  registered : (run changes).helpers = chronicle changes
  distinct : DistinctNames ((chronicle changes).map TypeHelper.name)
  by_name : ∀ name h, (run changes).find? name = some h ↔
    h ∈ chronicle changes ∧ sameName h.name name = true
  by_target : ∀ target, (run changes).helpersOf target =
    (chronicle changes).filter fun h ↦ h.target == target
  names_inside : ∀ e ∈ (run changes).byName.entries, e.value < (run changes).helpers.length
  targets_inside : ∀ row ∈ (run changes).byTarget.rows, ∀ place ∈ row.2,
    place < (run changes).helpers.length
  /-- There is a row for each type that has a helper, in the order of the first helpers. -/
  targets : (run changes).byTarget.rows.map Prod.fst =
    ((chronicle changes).map TypeHelper.target).eraseDups
  refused_iff : ∀ h, (∃ e, ((run changes).register h).1 = .error e) ↔
    h.name = "" ∨ ∃ g ∈ chronicle changes, sameName g.name h.name = true
  refused_unchanged : ∀ h e, ((run changes).register h).1 = .error e →
    ((run changes).register h).2 = run changes

/-- **The indexes of a table of helpers stay in step with its list**, whatever was registered,
refused or cleared. -/
theorem indexesAgree_run (changes : List HelperChange) : IndexesAgree changes := by
  have ht := inStep_run changes
  have hrun := helpers_run changes
  refine ⟨hrun, hrun ▸ ht.distinct, fun name h ↦ ?_, fun target ↦ ?_, ht.names_inside,
    ht.targets_inside, hrun ▸ ht.targets, fun h ↦ ?_, fun h e he ↦ ?_⟩
  · rw [ht.find?_eq_some_iff, hrun]
  · rw [ht.by_target, hrun]
  · rw [← hrun, ← ht.contains_iff]
    exact ((run changes).register_refusedIf h).refused_iff
  · exact ((run changes).register_refusedIf h).unchanged he

end HelperTable

end PascalTypes
