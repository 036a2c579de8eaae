import Mathlib.Data.List.Induction
import PascalTypes.Proofs.IndexedMap

/-!
# What an edit of a map does to its look-ups

Beside `insert`, a map is edited by `erase`, `retain`, `filter`, `modify` and `upsert`.  For each of
them there is an equation here that says what is found under every name afterwards.

`filter` is the odd one.  It looks at the remembered spelling, and a look-up only knows the key.  So
its equation has an assumption: the entries with the key must agree on whether they stay.
`NameMap.Spelled` helps to prove that, by tying the spelling to the key.  `retain` has no such
assumption, because its equation goes on from the entry that was found before.

Some statements are not about one look-up but about all of a map except for one name.
`NameMap.AgreeExcept` compares two maps in this way, with all their entries in order.

A map that is filled with different names has these names and no others (`mem_entries_ofList`).
Since the keys ascend, its entries leave no choice of their order (`eq_of_mem_entries`), and so the
order in which it was filled is lost (`ofList_perm`).
-/

set_option autoImplicit false

namespace PascalTypes

/-- No two of the names are the same. -/
def DistinctNames (names : List String) : Prop :=
  names.Pairwise fun a b ↦ sameName a b = false

theorem DistinctNames.perm {names names' : List String} (h : DistinctNames names)
    (hp : names.Perm names') : DistinctNames names' := by
  refine hp.pairwise h fun {a b} hab ↦ ?_
  rw [← Bool.not_eq_true] at hab ⊢
  exact fun hba ↦ hab (sameName_symm hba)

theorem DistinctNames.append_singleton {names : List String} {name : String}
    (h : DistinctNames names) (hnew : names.any (sameName · name) = false) :
    DistinctNames (names ++ [name]) := by
  refine List.pairwise_append.mpr ⟨h, List.pairwise_singleton _ _, fun a ha b hb ↦ ?_⟩
  rw [List.mem_singleton.mp hb]
  simpa using List.any_eq_false.mp hnew a ha

namespace NameMap

variable {α : Type} {m : NameMap α} {name : String}

/-! ## Dropping entries -/

/-- A look-up finds what a test has left of the entry under the name. -/
theorem find?_retain (m : NameMap α) (keep : String → α → Option α) (name : String) :
    (m.retain keep).find? name = (m.find? name).bind fun e ↦
      (keep e.spelling e.value).map fun v ↦ { e with value := v } := by
  ext x
  rw [find?_eq_some_iff, Option.bind_eq_some_iff, retain, List.mem_filterMap]
  constructor
  · rintro ⟨⟨e, he, hx⟩, hk⟩
    have hkey : x.key = e.key := by
      obtain ⟨v, -, rfl⟩ := Option.map_eq_some_iff.mp hx
      rfl
    exact ⟨e, find?_eq_some_iff.mpr ⟨he, hkey ▸ hk⟩, hx⟩
  · rintro ⟨e, he, hx⟩
    obtain ⟨he, hk⟩ := find?_eq_some_iff.mp he
    refine ⟨⟨e, he, hx⟩, ?_⟩
    obtain ⟨v, -, rfl⟩ := Option.map_eq_some_iff.mp hx
    exact hk

theorem find?_filter {keep : String → α → Bool} {stay : Bool}
    (h : ∀ e ∈ m.entries, e.key = NameKey.of name → keep e.spelling e.value = stay) :
    (m.filter keep).find? name = if stay then m.find? name else none := by
  rw [filter, find?_retain]
  cases he : m.find? name with
  | none => cases stay <;> rfl
  | some e =>
    obtain ⟨hmem, hk⟩ := find?_eq_some_iff.mp he
    rw [Option.bind_some, h e hmem hk]
    cases stay <;> rfl

theorem find?_erase (m : NameMap α) (name other : String) :
    (m.erase name).find? other = if sameName other name then none else m.find? other := by
  ext e
  rw [find?_eq_some_iff, erase, List.mem_filter, decide_eq_true_eq]
  split
  · rename_i hs
    refine ⟨fun ⟨he, hk⟩ ↦ absurd ?_ he.2, nofun⟩
    rw [hk, NameKey.of_eq_of_iff.mpr hs]
  · rename_i hs
    rw [find?_eq_some_iff]
    refine ⟨fun ⟨he, hk⟩ ↦ ⟨he.1, hk⟩, fun ⟨he, hk⟩ ↦ ⟨⟨he, fun hn ↦ hs ?_⟩, hk⟩⟩
    exact NameKey.of_eq_of_iff.mp (hk.symm.trans hn)

theorem get?_erase (m : NameMap α) (name other : String) :
    (m.erase name).get? other = if sameName other name then none else m.get? other := by
  rw [get?, find?_erase]
  split <;> rfl

/-! ## Storing and changing a value -/

theorem find?_congr (m : NameMap α) {a b : String} (h : sameName a b = true) :
    m.find? a = m.find? b := by
  rw [find?, find?, NameKey.of_eq_of_iff.mpr h]

theorem find?_insert (m : NameMap α) (name other : String) (value : α) :
    (m.insert name value).find? other =
      if sameName other name then some ⟨NameKey.of other, name, value⟩ else m.find? other := by
  split
  · rename_i h
    rw [find?_congr _ h, find?_insert_self, NameKey.of_eq_of_iff.mpr h]
  · rename_i h
    exact find?_insert_of_ne (fun hk ↦ h (NameKey.of_eq_of_iff.mp hk)) m value

/-- A change that leaves keys alone can be made before or after looking up. -/
theorem seek?_map {f : NameEntry α → NameEntry α} (hf : ∀ e, (f e).key = e.key) (k : NameKey)
    (l : List (NameEntry α)) : seek? k (l.map f) = (seek? k l).map f := by
  induction l with
  | nil => rfl
  | cons e rest ih =>
    rw [List.map_cons, seek?, seek?, hf, ih]
    split
    · rfl
    · split <;> rfl

theorem find?_modify (m : NameMap α) (name other : String) (change : α → α) :
    (m.modify name change).find? other =
      if sameName other name then (m.find? other).map fun e ↦ { e with value := change e.value }
      else m.find? other := by
  rw [find?, modify, seek?_map (fun e ↦ by split <;> rfl), ← find?]
  cases he : m.find? other with
  | none => simp
  | some e =>
    have hk := (find?_eq_some_iff.mp he).2
    by_cases hs : sameName other name = true
    · simp [hk, NameKey.of_eq_of_iff, hs]
    · simp [hk, NameKey.of_eq_of_iff, hs]

/-- The entry under the name is changed, or made out of the start value if there is none. -/
theorem find?_upsert (m : NameMap α) (name other : String) (start : α) (change : α → α) :
    (m.upsert name start change).find? other =
      if sameName other name then
        some ((m.find? other).elim ⟨NameKey.of other, name, change start⟩
          fun e ↦ { e with value := change e.value })
      else m.find? other := by
  rw [upsert, contains]
  by_cases hs : sameName other name = true
  · rw [if_pos hs, ← find?_congr m hs]
    cases he : m.find? other with
    | none =>
      rw [Option.isSome_none, if_neg Bool.false_ne_true, find?_insert, if_pos hs]
      rfl
    | some e =>
      rw [Option.isSome_some, if_pos rfl, find?_modify, if_pos hs, he]
      rfl
  · rw [if_neg hs]
    split
    · rw [find?_modify, if_neg hs]
    · rw [find?_insert, if_neg hs]

theorem get?_upsert (m : NameMap α) (name other : String) (start : α) (change : α → α) :
    (m.upsert name start change).get? other =
      if sameName other name then some (change ((m.get? other).getD start)) else m.get? other := by
  rw [get?, find?_upsert, get?]
  split
  · cases m.find? other <;> rfl
  · rfl

/-! ## Remembered spellings -/

/-- Every entry stands under the key of the spelling that it remembers, and `P` holds of this
spelling. -/
def Spelled (m : NameMap α) (P : String → Prop) : Prop :=
  ∀ e ∈ m.entries, e.key = NameKey.of e.spelling ∧ P e.spelling

namespace Spelled

variable {P : String → Prop}

theorem empty (P : String → Prop) : Spelled ({} : NameMap α) P :=
  fun _ he ↦ absurd he List.not_mem_nil

theorem sameName (h : m.Spelled P) {e : NameEntry α} (he : e ∈ m.entries)
    (hk : e.key = NameKey.of name) : PascalTypes.sameName e.spelling name = true :=
  NameKey.of_eq_of_iff.mp ((h e he).1.symm.trans hk)

theorem insert (h : m.Spelled P) (hn : P name) (v : α) : (m.insert name v).Spelled P := by
  intro e he
  rcases mem_entries_insert.mp he with rfl | ⟨he, -⟩
  · exact ⟨rfl, hn⟩
  · exact h e he

theorem modify (h : m.Spelled P) (name : String) (change : α → α) :
    (m.modify name change).Spelled P := by
  intro e he
  obtain ⟨x, hx, rfl⟩ := List.mem_map.mp he
  split
  · exact h x hx
  · exact h x hx

theorem upsert (h : m.Spelled P) (hn : P name) (start : α) (change : α → α) :
    (m.upsert name start change).Spelled P := by
  rw [NameMap.upsert]
  split
  · exact h.modify name change
  · exact h.insert hn (change start)

theorem retain (h : m.Spelled P) (keep : String → α → Option α) : (m.retain keep).Spelled P := by
  intro e he
  obtain ⟨x, hx, he⟩ := List.mem_filterMap.mp he
  obtain ⟨v, -, rfl⟩ := Option.map_eq_some_iff.mp he
  exact h x hx

theorem filter (h : m.Spelled P) (keep : String → α → Bool) : (m.filter keep).Spelled P :=
  h.retain _

end Spelled

/-! ## All but one name -/

/-- Two maps have the same entries, in the same order, apart from those under `name`. -/
def AgreeExcept (name : String) (m m' : NameMap α) : Prop :=
  m.erase name = m'.erase name

theorem filter_place (e : NameEntry α) (l : List (NameEntry α)) :
    (place e l).filter (fun x ↦ x.key ≠ e.key) = l.filter (fun x ↦ x.key ≠ e.key) := by
  induction l with
  | nil => simp [place]
  | cons x rest ih =>
    rw [place]
    split
    · rename_i he
      simp [he]
    · split
      · simp
      · rw [List.filter_cons, List.filter_cons, ih]

/-- **An insertion changes nothing but what stands under its name.** -/
theorem agreeExcept_insert (m : NameMap α) (name : String) (v : α) :
    AgreeExcept name m (m.insert name v) :=
  NameMap.ext (filter_place ⟨NameKey.of name, name, v⟩ m.entries).symm

/-! ## Filling a map -/

theorem ofList_append_singleton (items : List (String × α)) (p : String × α) :
    ofList (items ++ [p]) = (ofList items).insert p.1 p.2 := by
  rw [ofList, List.foldl_append]
  rfl

/-- A map that is filled with different names has one entry for each of them. -/
theorem mem_entries_ofList {items : List (String × α)} (h : DistinctNames (items.map Prod.fst))
    {e : NameEntry α} :
    e ∈ (ofList items).entries ↔ ∃ p ∈ items, e = ⟨NameKey.of p.1, p.1, p.2⟩ := by
  induction items using List.reverseRecOn with
  | nil => simp [ofList]
  | append_singleton items p ih =>
    rw [List.map_append] at h
    obtain ⟨hitems, -, hnew⟩ := List.pairwise_append.mp h
    have hkey : ∀ q ∈ items, NameKey.of q.1 ≠ NameKey.of p.1 := by
      intro q hq hk
      have hne := hnew q.1 (List.mem_map_of_mem hq) p.1 (List.mem_singleton_self p.1)
      rw [NameKey.of_eq_of_iff.mp hk] at hne
      cases hne
    rw [ofList_append_singleton, mem_entries_insert, ih hitems]
    constructor
    · rintro (rfl | ⟨⟨q, hq, rfl⟩, -⟩)
      · exact ⟨p, List.mem_append_right _ (List.mem_singleton_self p), rfl⟩
      · exact ⟨q, List.mem_append_left _ hq, rfl⟩
    · rintro ⟨q, hq, rfl⟩
      rcases List.mem_append.mp hq with hq | hq
      · exact Or.inr ⟨⟨q, hq, rfl⟩, hkey q hq⟩
      · rw [List.mem_singleton.mp hq]
        exact Or.inl rfl

theorem Ascending.nodup {l : List (NameEntry α)} (hl : Ascending l) : l.Nodup := by
  refine hl.imp fun {x y} hlt heq ↦ ?_
  rw [heq] at hlt
  exact NameKey.lt_irrefl _ hlt

/-- **A map is determined by which entries it has.** -/
theorem eq_of_mem_entries {m m' : NameMap α} (h : ∀ e, e ∈ m.entries ↔ e ∈ m'.entries) :
    m = m' := by
  have hperm : m.entries.Perm m'.entries :=
    (List.perm_ext_iff_of_nodup m.ordered.nodup m'.ordered.nodup).mpr h
  refine NameMap.ext (hperm.eq_of_pairwise (fun x y _ _ hxy hyx ↦ ?_) m.ordered m'.ordered)
  exact absurd (NameKey.lt_trans hxy hyx) (NameKey.lt_irrefl _)

/-- **It does not matter in which order a map is filled with different names.** -/
theorem ofList_perm {items items' : List (String × α)}
    (h : DistinctNames (items.map Prod.fst)) (hp : items.Perm items') :
    ofList items = ofList items' := by
  have h' : DistinctNames (items'.map Prod.fst) := h.perm (hp.map Prod.fst)
  refine eq_of_mem_entries fun e ↦ ?_
  rw [mem_entries_ofList h, mem_entries_ofList h']
  simp only [hp.mem_iff]

end NameMap

end PascalTypes
