import PascalTypes.Name

/-!
# Maps keyed by names

A `NameMap` takes names to values.  Two spellings of one name share an entry, and the entry
remembers one of them.  Entries are kept in the order of their keys, so listing a map needs no
sorting and does not depend on the order in which it was filled.

`insert` replaces both the value and the remembered spelling.  `upsert` and `modify` change the
value under a name that is present and leave its spelling alone.  So does `retain`, which goes
through all entries and drops some.  What an insertion replaces, or an erasure drops, is given back
by `getThenInsert?` and `findThenErase?`.

The order is part of the type.  A look-up relies on it and stops where the keys get too large, and
what it finds is the one entry with the key (`find?_eq_some_iff`).
-/

set_option autoImplicit false

namespace PascalTypes

/-- One entry of a `NameMap`. -/
structure NameEntry (α : Type) where
  key : NameKey
  spelling : String
  value : α
deriving DecidableEq, Repr

namespace NameMap

variable {α : Type}

/-! ## Lists in order -/

/-- The keys of the entries ascend. -/
def Ascending (l : List (NameEntry α)) : Prop :=
  l.Pairwise fun x y ↦ x.key < y.key

/-- Put an entry into its place, in place of an entry with the same key. -/
def place (e : NameEntry α) : List (NameEntry α) → List (NameEntry α)
  | [] => [e]
  | x :: rest =>
    if e.key = x.key then e :: rest
    else if e.key < x.key then e :: x :: rest
    else x :: place e rest

/-- The entry with a key.  Behind a larger key there is nothing to look for. -/
def seek? (k : NameKey) : List (NameEntry α) → Option (NameEntry α)
  | [] => none
  | e :: rest =>
    if k = e.key then some e
    else if k < e.key then none
    else seek? k rest

/-- An entry gets into an ascending list in place of the entry with its key, and all other entries
stay. -/
theorem mem_place_iff {e : NameEntry α} {l : List (NameEntry α)} (hl : Ascending l)
    {x : NameEntry α} : x ∈ place e l ↔ x = e ∨ x ∈ l ∧ x.key ≠ e.key := by
  induction l with
  | nil => simp [place]
  | cons y rest ih =>
    obtain ⟨hy, hrest⟩ := List.pairwise_cons.mp hl
    rw [place]
    split
    · rename_i he
      -- `y` is the entry that goes, and everything behind it has a larger key
      have hne : ∀ z ∈ rest, z.key ≠ e.key := fun z hz hk ↦
        NameKey.lt_irrefl _ (he ▸ hk ▸ hy z hz)
      simp only [List.mem_cons]
      constructor
      · rintro (rfl | hx)
        · exact Or.inl rfl
        · exact Or.inr ⟨Or.inr hx, hne x hx⟩
      · rintro (rfl | ⟨rfl | hx, hk⟩)
        · exact Or.inl rfl
        · exact absurd he.symm hk
        · exact Or.inr hx
    · rename_i hek
      split
      · rename_i hlt
        have hne : ∀ z ∈ y :: rest, z.key ≠ e.key := by
          intro z hz hk
          rcases List.mem_cons.mp hz with rfl | hz
          · exact hek hk.symm
          · exact NameKey.lt_irrefl _ (hk ▸ NameKey.lt_trans hlt (hy z hz))
        rw [List.mem_cons]
        exact or_congr_right ⟨fun hx ↦ ⟨hx, hne x hx⟩, fun hx ↦ hx.1⟩
      · rw [List.mem_cons, List.mem_cons, ih hrest]
        constructor
        · rintro (rfl | rfl | ⟨hx, hk⟩)
          · exact Or.inr ⟨Or.inl rfl, Ne.symm hek⟩
          · exact Or.inl rfl
          · exact Or.inr ⟨Or.inr hx, hk⟩
        · rintro (rfl | ⟨rfl | hx, hk⟩)
          · exact Or.inr (Or.inl rfl)
          · exact Or.inl rfl
          · exact Or.inr (Or.inr ⟨hx, hk⟩)

theorem Ascending.place {e : NameEntry α} {l : List (NameEntry α)} (hl : Ascending l) :
    Ascending (place e l) := by
  induction l with
  | nil => exact List.pairwise_singleton _ _
  | cons y rest ih =>
    obtain ⟨hy, hrest⟩ := List.pairwise_cons.mp hl
    rw [NameMap.place]
    split
    · rename_i he
      exact List.pairwise_cons.mpr ⟨fun z hz ↦ he ▸ hy z hz, hrest⟩
    · rename_i hek
      split
      · rename_i hlt
        refine List.pairwise_cons.mpr ⟨fun z hz ↦ ?_, hl⟩
        rcases List.mem_cons.mp hz with rfl | hz
        · exact hlt
        · exact NameKey.lt_trans hlt (hy z hz)
      · rename_i hnlt
        refine List.pairwise_cons.mpr ⟨fun z hz ↦ ?_, ih hrest⟩
        rcases (mem_place_iff hrest).mp hz with rfl | ⟨hz, -⟩
        · exact NameKey.lt_of_not_lt hek hnlt
        · exact hy z hz

theorem Ascending.map {l : List (NameEntry α)} (hl : Ascending l) {f : NameEntry α → NameEntry α}
    (hf : ∀ e, (f e).key = e.key) : Ascending (l.map f) :=
  List.pairwise_map.mpr (hl.imp fun h ↦ by rwa [hf, hf])

theorem Ascending.filterMap {l : List (NameEntry α)} (hl : Ascending l)
    {f : NameEntry α → Option (NameEntry α)} (hf : ∀ e x, f e = some x → x.key = e.key) :
    Ascending (l.filterMap f) :=
  List.Pairwise.filterMap f (fun _ _ h _ hx _ hy ↦ by rwa [hf _ _ hx, hf _ _ hy]) hl

/-- In an ascending list the entry with a key is found, and there is only one. -/
theorem seek?_eq_some_iff {l : List (NameEntry α)} (hl : Ascending l) {k : NameKey}
    {e : NameEntry α} : seek? k l = some e ↔ e ∈ l ∧ e.key = k := by
  induction l with
  | nil => simp [seek?]
  | cons y rest ih =>
    obtain ⟨hy, hrest⟩ := List.pairwise_cons.mp hl
    rw [seek?]
    split
    · rename_i hk
      rw [Option.some_inj, List.mem_cons]
      constructor
      · rintro rfl
        exact ⟨Or.inl rfl, hk.symm⟩
      · rintro ⟨rfl | he, hke⟩
        · rfl
        · exact absurd (hke.trans hk ▸ hy e he) (NameKey.lt_irrefl _)
    · rename_i hk
      split
      · rename_i hlt
        refine ⟨nofun, ?_⟩
        rintro ⟨he, rfl⟩
        rcases List.mem_cons.mp he with rfl | he
        · exact absurd rfl hk
        · exact absurd (NameKey.lt_trans hlt (hy e he)) (NameKey.lt_irrefl _)
      · rw [ih hrest, List.mem_cons]
        constructor
        · rintro ⟨he, hke⟩
          exact ⟨Or.inr he, hke⟩
        · rintro ⟨rfl | he, hke⟩
          · exact absurd hke.symm hk
          · exact ⟨he, hke⟩

end NameMap

/-- Values under names, in the order of the keys. -/
@[ext] structure NameMap (α : Type) where
  entries : List (NameEntry α)
  ordered : NameMap.Ascending entries
deriving DecidableEq, Repr

namespace NameMap

variable {α : Type}

instance : EmptyCollection (NameMap α) :=
  ⟨[], List.Pairwise.nil⟩

/-! ## Looking up -/

/-- The entry under `name`, with the spelling it remembers. -/
def find? (m : NameMap α) (name : String) : Option (NameEntry α) :=
  seek? (NameKey.of name) m.entries

/-- The value under `name`. -/
def get? (m : NameMap α) (name : String) : Option α :=
  (m.find? name).map NameEntry.value

/-- Whether there is a value under `name`. -/
def contains (m : NameMap α) (name : String) : Bool :=
  (m.find? name).isSome

/-- The number of entries. -/
def size (m : NameMap α) : Nat :=
  m.entries.length

/-- Whether there is no entry. -/
def isEmpty (m : NameMap α) : Bool :=
  m.entries.isEmpty

/-- The remembered spellings in the order of the keys. -/
def spellings (m : NameMap α) : List String :=
  m.entries.map NameEntry.spelling

/-- The values in the order of the keys. -/
def values (m : NameMap α) : List α :=
  m.entries.map NameEntry.value

/-- Spellings with their values, in the order of the keys. -/
def toList (m : NameMap α) : List (String × α) :=
  m.entries.map fun e ↦ (e.spelling, e.value)

/-! ## Changing -/

/-- Store a value under `name`, and remember this spelling. -/
def insert (m : NameMap α) (name : String) (value : α) : NameMap α where
  entries := place ⟨NameKey.of name, name, value⟩ m.entries
  ordered := m.ordered.place

/-- Store a value under `name` as `insert` does, and give back the value that was there. -/
def getThenInsert? (m : NameMap α) (name : String) (value : α) : Option α × NameMap α :=
  (m.get? name, m.insert name value)

/-- Change the value under `name` if there is one. -/
def modify (m : NameMap α) (name : String) (change : α → α) : NameMap α where
  entries := m.entries.map fun e ↦
    if e.key = NameKey.of name then { e with value := change e.value } else e
  ordered := m.ordered.map fun e ↦ by split <;> rfl

/-- Change the value under `name`, or store the changed `start` if there is none. -/
def upsert (m : NameMap α) (name : String) (start : α) (change : α → α) : NameMap α :=
  if m.contains name then m.modify name change else m.insert name (change start)

/-- Drop the entry under `name`. -/
def erase (m : NameMap α) (name : String) : NameMap α where
  entries := m.entries.filter fun e ↦ e.key ≠ NameKey.of name
  ordered := m.ordered.filter _

/-- Drop the entry under `name`, and give back its spelling and its value. -/
def findThenErase? (m : NameMap α) (name : String) : Option (String × α) × NameMap α :=
  ((m.find? name).map fun e ↦ (e.spelling, e.value), m.erase name)

/-- Keep the entries whose remembered spelling and value pass a test, with the value that the test
leaves there. -/
def retain (m : NameMap α) (keep : String → α → Option α) : NameMap α where
  entries := m.entries.filterMap fun e ↦
    (keep e.spelling e.value).map fun v ↦ { e with value := v }
  ordered := m.ordered.filterMap fun e x hx ↦ by
    obtain ⟨v, -, rfl⟩ := Option.map_eq_some_iff.mp hx
    rfl

/-- Keep the entries whose remembered spelling and value pass a test, as they are. -/
def filter (m : NameMap α) (keep : String → α → Bool) : NameMap α :=
  m.retain fun spelling v ↦ if keep spelling v then some v else none

/-- Store several values, one after the other. -/
def ofList (items : List (String × α)) : NameMap α :=
  items.foldl (fun m item ↦ m.insert item.1 item.2) {}

/-! ## Text -/

/-- The map in braces, with quoted spellings. -/
def describe (m : NameMap α) (text : α → String) : String :=
  "\x7b" ++ ", ".intercalate (m.toList.map fun p ↦ Text.quoted p.1 ++ ": " ++ text p.2) ++ "\x7d"

/-! ## What the operations do to a look-up -/

/-- **A look-up finds the entry under the name.** -/
theorem find?_eq_some_iff {m : NameMap α} {name : String} {e : NameEntry α} :
    m.find? name = some e ↔ e ∈ m.entries ∧ e.key = NameKey.of name :=
  seek?_eq_some_iff m.ordered

theorem mem_entries_insert {m : NameMap α} {name : String} {value : α} {e : NameEntry α} :
    e ∈ (m.insert name value).entries ↔
      e = ⟨NameKey.of name, name, value⟩ ∨ e ∈ m.entries ∧ e.key ≠ NameKey.of name :=
  mem_place_iff m.ordered

/-- Of the entries, `upsert` changes or adds the one under the name. -/
theorem mem_entries_upsert {m : NameMap α} {name : String} {start : α} {change : α → α}
    {e : NameEntry α} (h : e ∈ (m.upsert name start change).entries) :
    e ∈ m.entries ∨ e.key = NameKey.of name ∧ ∃ old, e.value = change old ∧
      (old = start ∨ ∃ x ∈ m.entries, x.key = NameKey.of name ∧ x.value = old) := by
  rw [upsert] at h
  split at h
  · obtain ⟨x, hx, rfl⟩ := List.mem_map.mp h
    split
    · rename_i hk
      exact Or.inr ⟨hk, x.value, rfl, Or.inr ⟨x, hx, hk, rfl⟩⟩
    · exact Or.inl hx
  · rcases mem_entries_insert.mp h with rfl | ⟨he, -⟩
    · exact Or.inr ⟨rfl, start, rfl, Or.inl rfl⟩
    · exact Or.inl he

theorem entries_filter (m : NameMap α) (keep : String → α → Bool) :
    (m.filter keep).entries = m.entries.filter fun e ↦ keep e.spelling e.value := by
  rw [← List.filterMap_eq_filter]
  refine congrArg (List.filterMap · m.entries) (funext fun e ↦ ?_)
  cases h : keep e.spelling e.value <;> simp [Option.guard, h]

@[simp] theorem entries_empty : ({} : NameMap α).entries = [] := rfl

@[simp] theorem get?_empty (name : String) : ({} : NameMap α).get? name = none := rfl

@[simp] theorem find?_insert_self (m : NameMap α) (name : String) (value : α) :
    (m.insert name value).find? name = some ⟨NameKey.of name, name, value⟩ :=
  find?_eq_some_iff.mpr ⟨mem_entries_insert.mpr (Or.inl rfl), rfl⟩

theorem find?_insert_of_ne {name other : String} (h : NameKey.of other ≠ NameKey.of name)
    (m : NameMap α) (value : α) : (m.insert name value).find? other = m.find? other := by
  ext e
  rw [find?_eq_some_iff, find?_eq_some_iff, mem_entries_insert]
  constructor
  · rintro ⟨rfl | ⟨he, -⟩, hk⟩
    · exact absurd hk.symm h
    · exact ⟨he, hk⟩
  · rintro ⟨he, hk⟩
    exact ⟨Or.inr ⟨he, hk ▸ h⟩, hk⟩

@[simp] theorem get?_insert_self (m : NameMap α) (name : String) (value : α) :
    (m.insert name value).get? name = some value := by
  simp [get?]

theorem get?_insert_of_ne {name other : String} (h : NameKey.of other ≠ NameKey.of name)
    (m : NameMap α) (value : α) : (m.insert name value).get? other = m.get? other := by
  simp [get?, find?_insert_of_ne h]

end NameMap

end PascalTypes
