import PascalTypes.Proofs.Chronicles
import PascalTypes.Proofs.MapEdits

/-!
# A map after any edits

A map is a list of entries in order, and an edit of it goes through that list.  What has become of
one name can be told without the list.  `MapEdit.slotAfter` says what an edit makes of the entry
under one key, and `NameMap.replay` does so for one edit after the other, starting with no entry.

A look-up in the map finds what the replay for the key of the name comes to (`find?_run`).  Since
the replay for a key never looks at other keys, names do not get in each other's way.

`replayed_run` adds the rest of what tables rely on.  Spellings fold to their keys, each listing of
the map has each name once, in the order of the keys (`pairwise_map_entries`, `filter_map_entries`),
and what an insertion or an erasure gives back is the entry that the replay comes to.
-/

set_option autoImplicit false

namespace PascalTypes

variable {α : Type}

/-- A change of a map. -/
inductive MapEdit (α : Type)
  | insert (name : String) (value : α)
  /-- Change the value under a name, or put the changed `start` there. -/
  | upsert (name : String) (start : α) (change : α → α)
  /-- Change the value under a name if there is one. -/
  | modify (name : String) (change : α → α)
  | erase (name : String)
  /-- Keep the entries that pass a test, with the value that it leaves there.  A test with a memory
  would be no more general, since it meets each spelling once. -/
  | retain (keep : String → α → Option α)
  /-- Drop all entries. -/
  | clear

namespace MapEdit

/-- The name that an edit is about.  Some edits are about all names. -/
def name? : MapEdit α → Option String
  | insert name _ | upsert name _ _ | modify name _ | erase name => some name
  | retain _ | clear => none

/-- What an edit makes of the entry under one key. -/
def slotAfter (k : NameKey) (slot : Option (NameEntry α)) : MapEdit α → Option (NameEntry α)
  | insert name value => if NameKey.of name = k then some ⟨k, name, value⟩ else slot
  | upsert name start change =>
    if NameKey.of name = k then
      some (slot.elim ⟨k, name, change start⟩ fun e ↦ { e with value := change e.value })
    else slot
  | modify name change =>
    if NameKey.of name = k then slot.map fun e ↦ { e with value := change e.value } else slot
  | erase name => if NameKey.of name = k then none else slot
  | retain keep => slot.bind fun e ↦
    (keep e.spelling e.value).map fun v ↦ { e with value := v }
  | clear => none

end MapEdit

namespace NameMap

variable {m : NameMap α}

/-- The map after one edit. -/
def apply (m : NameMap α) : MapEdit α → NameMap α
  | .insert name value => m.insert name value
  | .upsert name start change => m.upsert name start change
  | .modify name change => m.modify name change
  | .erase name => m.erase name
  | .retain keep => m.retain keep
  | .clear => {}

/-- The map that is left of an empty one after several edits. -/
def run (edits : List (MapEdit α)) : NameMap α :=
  edits.foldl apply {}

/-- The entry that several edits leave under one key. -/
def replay (edits : List (MapEdit α)) (k : NameKey) : Option (NameEntry α) :=
  edits.foldl (MapEdit.slotAfter k) none

theorem run_concat (edits : List (MapEdit α)) (c : MapEdit α) :
    run (edits ++ [c]) = (run edits).apply c := by
  rw [run, List.foldl_concat, ← run]

/-! ## One edit -/

/-- **An edit does to a look-up what it does to the one entry.** -/
theorem find?_apply (m : NameMap α) (c : MapEdit α) (name : String) :
    (m.apply c).find? name = c.slotAfter (NameKey.of name) (m.find? name) := by
  have htest : ∀ edited, sameName name edited = true ↔ NameKey.of edited = NameKey.of name :=
    fun edited ↦ NameKey.of_eq_of_iff.symm.trans eq_comm
  cases c with
  | insert edited value =>
    rw [apply, find?_insert]
    exact if_congr (htest edited) rfl rfl
  | upsert edited start change =>
    rw [apply, find?_upsert]
    exact if_congr (htest edited) rfl rfl
  | modify edited change =>
    rw [apply, find?_modify]
    exact if_congr (htest edited) rfl rfl
  | erase edited =>
    rw [apply, find?_erase]
    exact if_congr (htest edited) rfl rfl
  | retain keep => exact find?_retain m keep name
  | clear => rfl

theorem Spelled.apply (h : m.Spelled fun _ ↦ True) (c : MapEdit α) :
    (m.apply c).Spelled fun _ ↦ True := by
  cases c with
  | insert name value => exact h.insert trivial value
  | upsert name start change => exact h.upsert trivial start change
  | modify name change => exact h.modify name change
  | erase name => exact fun e he ↦ h e (List.mem_filter.mp he).1
  | retain keep => exact h.retain keep
  | clear => exact .empty _

/-- Edits of one name leave the entries of other names alone. -/
theorem slotAfter_of_ne {c : MapEdit α} {name : String} (hc : c.name? = some name) {k : NameKey}
    (hk : NameKey.of name ≠ k) (slot : Option (NameEntry α)) : c.slotAfter k slot = slot := by
  cases c with
  | insert | upsert | modify | erase =>
    cases hc
    exact if_neg hk
  | retain | clear => cases hc

/-! ## Listings -/

/-- The entries with the key of a name are the one that a look-up finds. -/
theorem filter_entries (m : NameMap α) (name : String) :
    (m.entries.filter fun e ↦ e.key = NameKey.of name) = (m.find? name).toList := by
  have halone : m.entries.Pairwise fun x y ↦ decide (x.key = NameKey.of name) = true →
      decide (y.key = NameKey.of name) = false := by
    refine m.ordered.imp fun {x y} hlt hx ↦ ?_
    rw [decide_eq_true_eq] at hx
    refine decide_eq_false fun hy ↦ ?_
    rw [hx, hy] at hlt
    exact NameKey.lt_irrefl _ hlt
  rw [filter_eq_toList_find? halone]
  congr 1
  ext e
  rw [find?_eq_some_iff_of_pairwise halone, find?_eq_some_iff, decide_eq_true_eq]

section
variable {β : Type} {item : NameEntry α → β} (spelling : β → String)

/-- What is listed of the entries comes in the order of the keys, which can be told from it. -/
theorem pairwise_map_entries (h : ∀ e ∈ m.entries, e.key = NameKey.of (spelling (item e))) :
    (m.entries.map item).Pairwise fun x y ↦ NameKey.of (spelling x) < NameKey.of (spelling y) := by
  refine List.pairwise_map.mpr (m.ordered.imp_of_mem fun {x y} hx hy hlt ↦ ?_)
  rwa [← h x hx, ← h y hy]

/-- What is listed of the entries has a name once if there is an entry for it. -/
theorem filter_map_entries (h : ∀ e ∈ m.entries, e.key = NameKey.of (spelling (item e)))
    (name : String) : ((m.entries.map item).filter fun x ↦ sameName (spelling x) name) =
      ((m.find? name).map item).toList := by
  have htest : ∀ e ∈ m.entries,
      sameName (spelling (item e)) name = decide (e.key = NameKey.of name) := by
    intro e he
    rw [Bool.eq_iff_iff, decide_eq_true_eq, h e he, NameKey.of_eq_of_iff]
  rw [List.filter_map, Option.toList_map, ← filter_entries]
  exact congrArg (List.map item) (List.filter_congr htest)

end

/-! ## Many edits -/

/-- **A look-up finds what the replay for the key comes to.** -/
theorem find?_run (edits : List (MapEdit α)) (name : String) :
    (run edits).find? name = replay edits (NameKey.of name) := by
  induction edits using List.reverseRecOn with
  | nil => rfl
  | append_singleton edits c ih =>
    rw [run_concat, find?_apply, ih, replay, replay, List.foldl_concat]

theorem spelled_run (edits : List (MapEdit α)) : (run edits).Spelled fun _ ↦ True :=
  List.foldlRecOn (motive := fun m : NameMap α ↦ m.Spelled fun _ ↦ True) edits _ (.empty _)
    fun _ hm c _ ↦ hm.apply c

/-- Spellings fold to their keys. -/
theorem key_of_mem_run (edits : List (MapEdit α)) :
    ∀ e ∈ (run edits).entries, e.key = NameKey.of e.spelling :=
  fun e he ↦ (spelled_run edits e he).1

/-- What a map has after some edits, and what the next edit does to it. -/
structure Replayed (edits : List (MapEdit α)) : Prop where
  spelled : ∀ e ∈ (run edits).entries, NameKey.of e.spelling = e.key
  ascending : ((run edits).entries.map NameEntry.key).Pairwise (· < ·)
  /-- The map lists a name once if the edits have left an entry for it, and else not at all. -/
  listed : ∀ name, ((run edits).entries.filter fun e ↦ e.key = NameKey.of name) =
    (replay edits (NameKey.of name)).toList
  /-- Listings without the keys have each name once as well, in the order of its key. -/
  pairs_ascending : ((run edits).toList.map fun p ↦ NameKey.of p.1).Pairwise (· < ·)
  pairs_listed : ∀ name, ((run edits).toList.filter fun p ↦ sameName p.1 name) =
    ((replay edits (NameKey.of name)).map fun e ↦ (e.spelling, e.value)).toList
  spellings_ascending : ((run edits).spellings.map NameKey.of).Pairwise (· < ·)
  spellings_listed : ∀ name, ((run edits).spellings.filter fun s ↦ sameName s name) =
    ((replay edits (NameKey.of name)).map NameEntry.spelling).toList
  /-- The values are listed in the order of the spellings. -/
  values_listed : (run edits).values.map some = (run edits).spellings.map (run edits).get?
  size_eq : (run edits).size = (run edits).toList.length
  found : ∀ name, (run edits).find? name = replay edits (NameKey.of name)
  value_found : ∀ name,
    (run edits).get? name = (replay edits (NameKey.of name)).map NameEntry.value
  contained : ∀ name, (run edits).contains name = (replay edits (NameKey.of name)).isSome
  erased_alike : ∀ a b, sameName a b = true → (run edits).erase a = (run edits).erase b
  inserted : ∀ name value, (run (edits ++ [.insert name value])).find? name =
    some ⟨NameKey.of name, name, value⟩
  /-- An entry that is there keeps its spelling, and its value but for the change. -/
  upserted : ∀ name start change, (run (edits ++ [.upsert name start change])).find? name =
    some (((run edits).find? name).elim ⟨NameKey.of name, name, change start⟩
      fun e ↦ { e with value := change e.value })
  modified : ∀ name change, (run (edits ++ [.modify name change])).find? name =
    ((run edits).find? name).map fun e ↦ { e with value := change e.value }
  erased : ∀ name, (run (edits ++ [.erase name])).find? name = none
  untouched : ∀ c name other, c.name? = some name → sameName name other = false →
    (run (edits ++ [c])).find? other = (run edits).find? other
  retained : ∀ keep name, (run (edits ++ [.retain keep])).find? name =
    ((run edits).find? name).bind fun e ↦
      (keep e.spelling e.value).map fun v ↦ { e with value := v }
  /-- A test that changes nothing drops exactly the entries that fail it. -/
  filtered : ∀ keep : String → α → Bool, ((run edits).filter keep).entries =
    (run edits).entries.filter fun e ↦ keep e.spelling e.value
  cleared : (run (edits ++ [.clear])).entries = []
  /-- An insertion gives back the value that it replaces. -/
  insert_returns : ∀ name value, (run edits).getThenInsert? name value =
    ((replay edits (NameKey.of name)).map NameEntry.value, run (edits ++ [.insert name value]))
  /-- An erasure gives back the entry that it drops. -/
  erase_returns : ∀ name, (run edits).findThenErase? name =
    ((replay edits (NameKey.of name)).map fun e ↦ (e.spelling, e.value),
      run (edits ++ [.erase name]))

/-- **A map is told by its edits, one name at a time.** -/
theorem replayed_run (edits : List (MapEdit α)) : Replayed edits where
  spelled e he := (key_of_mem_run edits e he).symm
  ascending := List.pairwise_map.mpr (run edits).ordered
  listed name := by rw [filter_entries, find?_run]
  pairs_ascending := List.pairwise_map.mpr (pairwise_map_entries Prod.fst (key_of_mem_run edits))
  pairs_listed name := by
    rw [← find?_run]
    exact filter_map_entries Prod.fst (key_of_mem_run edits) name
  spellings_ascending := List.pairwise_map.mpr (pairwise_map_entries id (key_of_mem_run edits))
  spellings_listed name := by
    rw [← find?_run]
    exact filter_map_entries id (key_of_mem_run edits) name
  values_listed := by
    rw [values, spellings, List.map_map, List.map_map]
    refine List.map_congr_left fun e he ↦ ?_
    have hfind : (run edits).find? e.spelling = some e :=
      find?_eq_some_iff.mpr ⟨he, key_of_mem_run edits e he⟩
    rw [Function.comp_apply, Function.comp_apply, get?, hfind]
    rfl
  size_eq := by rw [size, toList, List.length_map]
  found := find?_run edits
  value_found name := by rw [get?, find?_run]
  contained name := by rw [contains, find?_run]
  erased_alike a b h := by
    have hk : NameKey.of a = NameKey.of b := NameKey.of_eq_of_iff.mpr h
    exact NameMap.ext (by simp only [erase, hk])
  inserted name value := by
    rw [run_concat, apply, find?_insert_self]
  upserted name start change := by
    rw [run_concat, apply, find?_upsert, if_pos (sameName_refl name)]
  modified name change := by
    rw [run_concat, apply, find?_modify, if_pos (sameName_refl name)]
  erased name := by
    rw [run_concat, apply, find?_erase, if_pos (sameName_refl name)]
  untouched c name other hc hne := by
    have hk : NameKey.of name ≠ NameKey.of other := by
      rw [Ne, NameKey.of_eq_of_iff, hne]
      exact Bool.false_ne_true
    rw [run_concat, find?_apply, slotAfter_of_ne hc hk]
  retained keep name := by
    rw [run_concat, apply, find?_retain]
  filtered := entries_filter (run edits)
  cleared := by rw [run_concat, apply, entries_empty]
  insert_returns name value := by rw [getThenInsert?, get?, find?_run, run_concat, apply]
  erase_returns name := by rw [findThenErase?, find?_run, run_concat, apply]

end NameMap

end PascalTypes
