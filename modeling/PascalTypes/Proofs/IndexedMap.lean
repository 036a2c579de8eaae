import PascalTypes.NameMap

/-!
# Maps of values that carry their names

The keys of a `NameMap` ascend, so there is one entry for a name.  The maps of the tables are built
by `insert` alone, and always put a value under the name that the value itself carries.
`NameMap.Indexed` is what such maps have in common: the key of an entry is that of the name its
value carries.

For these maps a look-up is the same as membership (`Indexed.get?_eq_some_iff`), and an insertion
replaces exactly the value under the name (`Indexed.mem_values_insert`).  Proofs about tables go
through these two statements and never look at entries.
-/

set_option autoImplicit false

namespace PascalTypes.NameMap

variable {α : Type}

/-! ## The spelling does not matter -/

theorem get?_congr (m : NameMap α) {a b : String} (h : sameName a b = true) :
    m.get? a = m.get? b := by
  rw [get?, get?, find?, find?, NameKey.of_eq_of_iff.mpr h]

theorem get?_insert (m : NameMap α) (name other : String) (value : α) :
    (m.insert name value).get? other =
      if sameName other name then some value else m.get? other := by
  split
  · rename_i h
    rw [get?_congr _ h, get?_insert_self]
  · rename_i h
    exact get?_insert_of_ne (fun hk ↦ h (NameKey.of_eq_of_iff.mp hk)) m value

theorem contains_eq_isSome_get? (m : NameMap α) (name : String) :
    m.contains name = (m.get? name).isSome := by
  rw [contains, get?, Option.isSome_map]

/-! ## Values under their own names -/

/-- The values of the map are found under the names that they carry. -/
structure Indexed (m : NameMap α) (name : α → String) : Prop where
  keyed : ∀ e ∈ m.entries, e.key = NameKey.of (name e.value)

namespace Indexed

variable {m : NameMap α} {name : α → String}

theorem empty (name : α → String) : Indexed {} name :=
  ⟨fun _ he ↦ absurd he List.not_mem_nil⟩

theorem insert (hm : m.Indexed name) (n : String) {v : α} (hv : sameName (name v) n = true) :
    (m.insert n v).Indexed name := by
  refine ⟨fun e he ↦ ?_⟩
  rcases mem_entries_insert.mp he with rfl | ⟨he, -⟩
  · exact (NameKey.of_eq_of_iff.mpr hv).symm
  · exact hm.keyed e he

/-- **An insertion replaces the value under its name and nothing else.** -/
theorem mem_values_insert (hm : m.Indexed name) {n : String} {v w : α} :
    v ∈ (m.insert n w).values ↔ v = w ∨ v ∈ m.values ∧ sameName (name v) n = false := by
  have hkey : ∀ e ∈ m.entries, e.key ≠ NameKey.of n ↔ sameName (name e.value) n = false := by
    intro e he
    rw [hm.keyed e he, Ne, NameKey.of_eq_of_iff, Bool.not_eq_true]
  rw [values, values, List.mem_map, List.mem_map]
  constructor
  · rintro ⟨e, he, rfl⟩
    rcases mem_entries_insert.mp he with rfl | ⟨he, hk⟩
    · exact Or.inl rfl
    · exact Or.inr ⟨⟨e, he, rfl⟩, (hkey e he).mp hk⟩
  · rintro (rfl | ⟨⟨e, he, rfl⟩, hne⟩)
    · exact ⟨_, mem_entries_insert.mpr (Or.inl rfl), rfl⟩
    · exact ⟨e, mem_entries_insert.mpr (Or.inr ⟨he, (hkey e he).mpr hne⟩), rfl⟩

/-- **A look-up finds the value that carries the name.** -/
theorem get?_eq_some_iff (hm : m.Indexed name) {n : String} {v : α} :
    m.get? n = some v ↔ v ∈ m.values ∧ sameName (name v) n = true := by
  rw [get?, Option.map_eq_some_iff, values, List.mem_map]
  constructor
  · rintro ⟨e, he, rfl⟩
    obtain ⟨hmem, hk⟩ := find?_eq_some_iff.mp he
    exact ⟨⟨e, hmem, rfl⟩, NameKey.of_eq_of_iff.mp (hm.keyed e hmem ▸ hk)⟩
  · rintro ⟨⟨e, hmem, rfl⟩, hn⟩
    have hk : e.key = NameKey.of n := (hm.keyed e hmem).trans (NameKey.of_eq_of_iff.mpr hn)
    exact ⟨e, find?_eq_some_iff.mpr ⟨hmem, hk⟩, rfl⟩

end Indexed

end PascalTypes.NameMap
