import Mathlib.Data.List.Induction
import PascalTypes.Proofs.DeclarationSteps
import PascalTypes.Proofs.MapEdits

/-!
# Identifiers are given out in order

A table of identifiers has a counter and a map for each category, and a request may touch either,
both or none of them.  This file says what such a table is after any number of requests.

* `RttiTable.counter_run` gives the counter of a category in closed form.  It depends on nothing but
  the names that were asked for in this category: the first of them have got the numbers from the
  base on, as many as there are numbers.
* `RttiTable.issued_run` draws the conclusions.  Names and numbers stand in bijection, names keep
  their numbers, numbers are found back under the spelling that was used first, and a request is
  refused exactly when the last number is gone.
-/

set_option autoImplicit false

namespace PascalTypes

/-! ## Names in the order in which they came first -/

/-- The names of a list, each in the spelling that comes first. -/
def firstSpellings (names : List String) : List String :=
  names.foldl (fun seen name ↦ if seen.any (sameName · name) then seen else seen ++ [name]) []

theorem firstSpellings_append_singleton (names : List String) (name : String) :
    firstSpellings (names ++ [name]) =
      if (firstSpellings names).any (sameName · name) then firstSpellings names
      else firstSpellings names ++ [name] := by
  rw [firstSpellings, List.foldl_append]
  rfl

/-- A name has only one place among different names. -/
theorem DistinctNames.index_unique {names : List String} (h : DistinctNames names) {i j : Nat}
    {a b : String} (ha : names[i]? = some a) (hb : names[j]? = some b)
    (hsame : sameName a b = true) : i = j := by
  obtain ⟨hi, rfl⟩ := List.getElem?_eq_some_iff.mp ha
  obtain ⟨hj, rfl⟩ := List.getElem?_eq_some_iff.mp hb
  rcases Nat.lt_trichotomy i j with hlt | heq | hgt
  · rw [List.pairwise_iff_getElem.mp h i j hi hj hlt] at hsame
    cases hsame
  · exact heq
  · have hsame' := sameName_symm hsame
    rw [List.pairwise_iff_getElem.mp h j i hj hi hgt] at hsame'
    cases hsame'

theorem distinct_firstSpellings (names : List String) : DistinctNames (firstSpellings names) := by
  induction names using List.reverseRecOn with
  | nil => exact List.Pairwise.nil
  | append_singleton names name ih =>
    rw [firstSpellings_append_singleton]
    split
    · exact ih
    · rename_i hnew
      exact ih.append_singleton (Bool.not_eq_true _ ▸ hnew)

/-- Names that are all different are in their first spelling. -/
theorem DistinctNames.firstSpellings_eq {names : List String} (h : DistinctNames names) :
    firstSpellings names = names := by
  induction names using List.reverseRecOn with
  | nil => rfl
  | append_singleton names name ih =>
    obtain ⟨hnames, -, hnew⟩ := List.pairwise_append.mp h
    have hany : names.any (sameName · name) = false :=
      List.any_eq_false.mpr fun a ha ↦ by simp [hnew a ha name (List.mem_singleton_self name)]
    rw [firstSpellings_append_singleton, ih hnames, hany]
    rfl

/-! ## A counter in closed form -/

/-- The identifier that comes `i` places after `base`, if there is one. -/
def idAt? (base : UInt32) (i : Nat) : Option UInt32 :=
  if base.toNat + i < UInt32.size then some (.ofNat (base.toNat + i)) else none

theorem idAt?_eq_some_iff {base id : UInt32} {i : Nat} :
    idAt? base i = some id ↔ id.toNat = base.toNat + i := by
  have hlt := id.toNat_lt_size
  rw [idAt?]
  split
  · rename_i h
    rw [Option.some_inj, ← UInt32.toNat_inj, UInt32.toNat_ofNat_of_lt' h]
    exact eq_comm
  · rename_i h
    refine ⟨nofun, fun he ↦ absurd hlt ?_⟩
    rwa [he]

theorem idAt?_eq_none_iff {base : UInt32} {i : Nat} :
    idAt? base i = none ↔ UInt32.size ≤ base.toNat + i := by
  rw [idAt?]
  split <;> simp <;> omega

theorem idAt?_zero (base : UInt32) : idAt? base 0 = some base :=
  idAt?_eq_some_iff.mpr rfl

theorem idAt?_succ {base id : UInt32} {i : Nat} (h : idAt? base i = some id) :
    idAt? base (i + 1) = nextId? id := by
  have hid := idAt?_eq_some_iff.mp h
  have hlt := id.toNat_lt_size
  rw [nextId?]
  split
  · rename_i hlast
    have hnat : id.toNat = 4294967295 := congrArg UInt32.toNat hlast
    rw [idAt?_eq_none_iff, UInt32.size]
    omega
  · rename_i hne
    have hnat : id.toNat ≠ 4294967295 := fun he ↦ hne (UInt32.toNat_inj.mp he)
    rw [UInt32.size] at hlt
    rw [idAt?_eq_some_iff, UInt32.toNat_add, hid, UInt32.toNat_one]
    omega

namespace RttiCounter

/-- The counter that has given the numbers from `base` on to `names`. -/
def ofNames (base : UInt32) (names : List String) : RttiCounter where
  next := idAt? base names.length
  issued := .ofList (names.mapIdx fun i name ↦ (name, .ofNat (base.toNat + i)))

variable {base : UInt32} {names : List String} {name : String} {id : UInt32}

theorem ofNames_append_singleton (h : (ofNames base names).next = some id) :
    ofNames base (names ++ [name]) =
      { next := nextId? id, issued := (ofNames base names).issued.insert name id } := by
  have hid : UInt32.ofNat (base.toNat + names.length) = id := by
    rw [← idAt?_eq_some_iff.mp h, UInt32.ofNat_toNat]
  rw [ofNames, ofNames, List.length_append, List.length_singleton, idAt?_succ h,
    List.mapIdx_concat, NameMap.ofList, List.foldl_append, hid]
  rfl

/-- As long as the numbers last, the entries of the map are the names with their numbers. -/
theorem mem_entries_ofNames (hfit : base.toNat + names.length ≤ UInt32.size)
    (h : DistinctNames names) {e : NameEntry UInt32} : e ∈ (ofNames base names).issued.entries ↔
      ∃ i, names[i]? = some e.spelling ∧ e.key = NameKey.of e.spelling ∧
        e.value.toNat = base.toNat + i := by
  have hfst : (names.mapIdx fun i name ↦
      (name, UInt32.ofNat (base.toNat + i))).map Prod.fst = names := by
    refine List.ext_getElem? fun i ↦ ?_
    cases hi : names[i]? <;> simp [hi]
  have hnat : ∀ i, i < names.length → (UInt32.ofNat (base.toNat + i)).toNat = base.toNat + i :=
    fun i hi ↦ UInt32.toNat_ofNat_of_lt' (by omega)
  rw [ofNames, NameMap.mem_entries_ofList (by rwa [hfst])]
  constructor
  · rintro ⟨p, hp, rfl⟩
    obtain ⟨i, hi, rfl⟩ := List.mem_mapIdx.mp hp
    exact ⟨i, List.getElem?_eq_getElem hi, rfl, hnat i hi⟩
  · rintro ⟨i, hn, hk, hv⟩
    obtain ⟨hi, hn⟩ := List.getElem?_eq_some_iff.mp hn
    refine ⟨_, List.mem_mapIdx.mpr ⟨i, hi, rfl⟩, ?_⟩
    obtain ⟨key, spelling, value⟩ := e
    obtain rfl : key = NameKey.of spelling := hk
    obtain rfl : value = UInt32.ofNat (base.toNat + i) :=
      UInt32.toNat_inj.mp (hv.trans (hnat i hi).symm)
    rw [hn]

/-- A name has the number of its place, whatever its spelling. -/
theorem get?_ofNames (hfit : base.toNat + names.length ≤ UInt32.size) (h : DistinctNames names) :
    (ofNames base names).issued.get? name = some id ↔
      ∃ i n, names[i]? = some n ∧ sameName n name = true ∧ id.toNat = base.toNat + i := by
  rw [NameMap.get?, Option.map_eq_some_iff]
  constructor
  · rintro ⟨e, he, rfl⟩
    obtain ⟨hmem, hkey⟩ := NameMap.find?_eq_some_iff.mp he
    obtain ⟨i, hn, hk, hv⟩ := (mem_entries_ofNames hfit h).mp hmem
    exact ⟨i, e.spelling, hn, NameKey.of_eq_of_iff.mp (hk.symm.trans hkey), hv⟩
  · rintro ⟨i, n, hn, hsame, hid⟩
    refine ⟨⟨NameKey.of n, n, id⟩, NameMap.find?_eq_some_iff.mpr ⟨?_, ?_⟩, rfl⟩
    · exact (mem_entries_ofNames hfit h).mpr ⟨i, hn, rfl, hid⟩
    · exact NameKey.of_eq_of_iff.mpr hsame

/-- A number leads back to the name in its place. -/
theorem find?_ofNames (hfit : base.toNat + names.length ≤ UInt32.size) (h : DistinctNames names) :
    ((ofNames base names).issued.toList.find? fun p ↦ p.2 == id).map Prod.fst = some name ↔
      ∃ i, names[i]? = some name ∧ id.toNat = base.toNat + i := by
  have hmem : ∀ p : String × UInt32, p ∈ (ofNames base names).issued.toList ↔
      ∃ i, names[i]? = some p.1 ∧ p.2.toNat = base.toNat + i := by
    intro p
    rw [NameMap.toList, List.mem_map]
    constructor
    · rintro ⟨e, he, rfl⟩
      obtain ⟨i, hn, -, hv⟩ := (mem_entries_ofNames hfit h).mp he
      exact ⟨i, hn, hv⟩
    · rintro ⟨i, hn, hv⟩
      exact ⟨⟨NameKey.of p.1, p.1, p.2⟩, (mem_entries_ofNames hfit h).mpr ⟨i, hn, rfl, hv⟩, rfl⟩
  constructor
  · intro hfind
    obtain ⟨p, hp, rfl⟩ := Option.map_eq_some_iff.mp hfind
    obtain ⟨i, hn, hv⟩ := (hmem p).mp (List.mem_of_find?_eq_some hp)
    have hid : p.2 = id := by simpa using List.find?_some hp
    exact ⟨i, hn, hid ▸ hv⟩
  · rintro ⟨i, hn, hid⟩
    -- some pair with this number is found, and the number tells its place
    have hsome : ((ofNames base names).issued.toList.find? fun p ↦ p.2 == id).isSome = true :=
      List.find?_isSome.mpr ⟨(name, id), (hmem (name, id)).mpr ⟨i, hn, hid⟩, beq_self_eq_true id⟩
    obtain ⟨p, hp⟩ := Option.isSome_iff_exists.mp hsome
    obtain ⟨j, hm, hv⟩ := (hmem p).mp (List.mem_of_find?_eq_some hp)
    have hpid : p.2 = id := by simpa using List.find?_some hp
    have hij : i = j := by
      rw [hpid, hid] at hv
      omega
    rw [hp, Option.map_some, ← hm, ← hij, hn]

end RttiCounter

/-! ## Runs of requests -/

/-- The number that comes first in a category. -/
def RttiBases.base (bases : RttiBases) : RttiCategory → UInt32
  | .classType => bases.classBase
  | .recordType => bases.recordBase
  | .enumType => bases.enumBase

/-- A call that asks for the number of a name. -/
structure RttiRequest where
  category : RttiCategory
  name : String
deriving DecidableEq, Repr

/-- The names that are asked for in one category. -/
def namesIn (category : RttiCategory) (requests : List RttiRequest) : List String :=
  (requests.filter fun r ↦ r.category = category).map RttiRequest.name

/-- The names that get a number in one category.  They are the first that are asked for, as many as
there are numbers. -/
def issuedNames (bases : RttiBases) (category : RttiCategory) (requests : List RttiRequest) :
    List String :=
  (firstSpellings (namesIn category requests)).take (UInt32.size - (bases.base category).toNat)

section IssuedNames

variable {bases : RttiBases} {category : RttiCategory} {requests : List RttiRequest}
  {r : RttiRequest}

theorem distinct_issuedNames (bases : RttiBases) (category : RttiCategory)
    (requests : List RttiRequest) : DistinctNames (issuedNames bases category requests) :=
  (distinct_firstSpellings _).sublist (List.take_sublist _ _)

theorem issuedNames_fit (bases : RttiBases) (category : RttiCategory)
    (requests : List RttiRequest) :
    (bases.base category).toNat + (issuedNames bases category requests).length ≤ UInt32.size := by
  have hlt := (bases.base category).toNat_lt_size
  rw [issuedNames, List.length_take]
  omega

theorem issuedNames_append_of_ne (h : r.category ≠ category) :
    issuedNames bases category (requests ++ [r]) = issuedNames bases category requests := by
  simp [issuedNames, namesIn, h]

theorem issuedNames_append_of_eq (name : String) :
    issuedNames bases category (requests ++ [⟨category, name⟩]) =
      (firstSpellings (namesIn category requests ++ [name])).take
        (UInt32.size - (bases.base category).toNat) := by
  simp [issuedNames, namesIn]

/-- A name that has a number needs no other. -/
theorem issuedNames_append_of_mem {n name : String} (hn : n ∈ issuedNames bases category requests)
    (hsame : sameName n name = true) :
    issuedNames bases category (requests ++ [⟨category, name⟩]) =
      issuedNames bases category requests := by
  have hany : (firstSpellings (namesIn category requests)).any (sameName · name) = true :=
    List.any_eq_true.mpr ⟨n, List.mem_of_mem_take hn, hsame⟩
  rw [issuedNames_append_of_eq, firstSpellings_append_singleton, if_pos hany, issuedNames]

/-- When the last number is gone no name gets one. -/
theorem issuedNames_append_of_full (name : String)
    (hfull : UInt32.size ≤
      (bases.base category).toNat + (issuedNames bases category requests).length) :
    issuedNames bases category (requests ++ [⟨category, name⟩]) =
      issuedNames bases category requests := by
  rw [issuedNames, List.length_take] at hfull
  rw [issuedNames_append_of_eq, firstSpellings_append_singleton]
  split
  · rfl
  · exact List.take_append_of_le_length (by omega)

/-- As long as there is a number left, a new name gets it. -/
theorem issuedNames_append_of_new {name : String}
    (hroom : (bases.base category).toNat + (issuedNames bases category requests).length <
      UInt32.size)
    (hnew : ∀ n ∈ issuedNames bases category requests, sameName n name = false) :
    issuedNames bases category (requests ++ [⟨category, name⟩]) =
      issuedNames bases category requests ++ [name] := by
  rw [issuedNames, List.length_take] at hroom
  -- no name had to go without a number so far
  have hall : issuedNames bases category requests = firstSpellings (namesIn category requests) :=
    List.take_of_length_le (by omega)
  have hany : ¬(firstSpellings (namesIn category requests)).any (sameName · name) = true := by
    rw [← hall, Bool.not_eq_true, List.any_eq_false]
    intro n hn
    rw [hnew n hn]
    exact Bool.false_ne_true
  rw [issuedNames_append_of_eq, firstSpellings_append_singleton, if_neg hany, hall]
  refine List.take_of_length_le ?_
  rw [List.length_append, List.length_singleton]
  omega

end IssuedNames

namespace RttiTable

variable {t : RttiTable} {category other : RttiCategory} {name : String} {id : UInt32}

/-- The table after several requests. -/
def run (t : RttiTable) (requests : List RttiRequest) : RttiTable :=
  requests.foldl (fun t r ↦ (t.allocate r.category r.name).2) t

theorem run_append_singleton (t : RttiTable) (requests : List RttiRequest) (r : RttiRequest) :
    t.run (requests ++ [r]) = ((t.run requests).allocate r.category r.name).2 := by
  rw [run, List.foldl_append]
  rfl

/-- A request does not concern the other categories. -/
theorem counter_allocate_of_ne (h : other ≠ category) (t : RttiTable) (name : String) :
    (t.allocate category name).2.counter other = t.counter other := by
  rcases t.allocate_cases category name with ⟨id, -, ha⟩ | ⟨-, -, ha⟩ | ⟨id, -, -, ha⟩
  · rw [ha]
  · rw [ha]
  · rw [ha, issue, counter_setCounter_of_ne h]

theorem counter_run_of_ne (t : RttiTable) {later : List RttiRequest}
    (h : ∀ r ∈ later, r.category ≠ category) :
    (t.run later).counter category = t.counter category := by
  refine List.foldlRecOn (motive := fun t' : RttiTable ↦ t'.counter category = t.counter category)
    later _ rfl fun t' ht r hr ↦ ?_
  rw [counter_allocate_of_ne (Ne.symm (h r hr)), ht]

/-- A number that was given out stays with its name. -/
theorem get?_allocate (h : t.get? category name = some id) (other : RttiCategory)
    (otherName : String) : (t.allocate other otherName).2.get? category name = some id := by
  rcases t.allocate_cases other otherName with ⟨_, -, ha⟩ | ⟨-, -, ha⟩ | ⟨_, hget, -, ha⟩
  · rwa [ha]
  · rwa [ha]
  · rw [ha]
    by_cases hc : category = other
    · subst hc
      rw [get?, issue, counter_setCounter_self, NameMap.get?_insert]
      split
      · rename_i hsame
        rw [get?, NameMap.get?_congr _ hsame] at h
        cases h.symm.trans hget
      · exact h
    · rwa [get?, issue, counter_setCounter_of_ne hc]

theorem get?_run (h : t.get? category name = some id) (later : List RttiRequest) :
    (t.run later).get? category name = some id :=
  List.foldlRecOn (motive := fun t : RttiTable ↦ t.get? category name = some id) later _ h
    fun _ ht r _ ↦ get?_allocate ht r.category r.name

theorem allocate_of_get? (h : t.get? category name = some id) :
    t.allocate category name = (.ok id, t) := by
  rw [allocate, h]

section OfCounter

-- what follows if the counter of a category is the one of the names that were asked for
variable {bases : RttiBases} {requests : List RttiRequest}
  (h : t.counter category = .ofNames (bases.base category) (issuedNames bases category requests))

include h

/-- Each name has the number of its place, under every spelling, and no other name has one. -/
theorem get?_of_counter : t.get? category name = some id ↔
    ∃ i n, (issuedNames bases category requests)[i]? = some n ∧ sameName n name = true ∧
      id.toNat = (bases.base category).toNat + i := by
  rw [get?, h]
  exact RttiCounter.get?_ofNames (issuedNames_fit bases category requests)
    (distinct_issuedNames bases category requests)

/-- A number leads back to its name, in the spelling that was used first. -/
theorem nameOf?_of_counter : t.nameOf? category id = some name ↔
    name ∈ issuedNames bases category requests ∧ t.get? category name = some id := by
  have hdistinct := distinct_issuedNames bases category requests
  rw [nameOf?, h, RttiCounter.find?_ofNames (issuedNames_fit bases category requests) hdistinct]
  constructor
  · rintro ⟨i, hn, hid⟩
    refine ⟨List.mem_of_getElem? hn, (get?_of_counter h).mpr ?_⟩
    exact ⟨i, name, hn, sameName_refl name, hid⟩
  · rintro ⟨hmem, hget⟩
    obtain ⟨i, n, hn, hsame, hid⟩ := (get?_of_counter h).mp hget
    obtain ⟨j, hj⟩ := List.getElem?_of_mem hmem
    exact ⟨i, hdistinct.index_unique hn hj hsame ▸ hj, hid⟩

/-- A new name gets the number after the last one, or is refused if that was the last of all. -/
theorem allocate_of_counter (hnone : t.get? category name = none) :
    ((bases.base category).toNat + (issuedNames bases category requests).length < UInt32.size ∧
        ∃ id t', id.toNat =
            (bases.base category).toNat + (issuedNames bases category requests).length ∧
          t.allocate category name = (.ok id, t')) ∨
      ((bases.base category).toNat + (issuedNames bases category requests).length = UInt32.size ∧
        t.allocate category name = (.error (.rttiExhausted category), t)) := by
  rcases t.allocate_cases category name with
    ⟨id, hid, -⟩ | ⟨-, hnext, ha⟩ | ⟨id, -, hnext, ha⟩
  · cases hnone.symm.trans hid
  · rw [h] at hnext
    have hfull := idAt?_eq_none_iff.mp hnext
    exact Or.inr ⟨Nat.le_antisymm (issuedNames_fit bases category requests) hfull, ha⟩
  · rw [h] at hnext
    have hid := idAt?_eq_some_iff.mp hnext
    exact Or.inl ⟨hid ▸ id.toNat_lt_size, id, _, hid, ha⟩

/-- One more request in a category.  What is known of its counter decides which of the three cases
it is, and in each of them the right names have a number afterwards. -/
theorem counter_allocate_self (name : String) :
    (t.allocate category name).2.counter category = .ofNames (bases.base category)
      (issuedNames bases category (requests ++ [⟨category, name⟩])) := by
  rcases t.allocate_cases category name with
    ⟨id, hid, ha⟩ | ⟨-, hnext, ha⟩ | ⟨id, hnone, hnext, ha⟩
  · obtain ⟨i, n, hn, hsame, -⟩ := (get?_of_counter h).mp hid
    rw [ha, issuedNames_append_of_mem (List.mem_of_getElem? hn) hsame, h]
  · rw [h] at hnext
    rw [ha, issuedNames_append_of_full name (idAt?_eq_none_iff.mp hnext), h]
  · rw [h] at hnext
    have hroom : (bases.base category).toNat + (issuedNames bases category requests).length <
        UInt32.size := idAt?_eq_some_iff.mp hnext ▸ id.toNat_lt_size
    have hnew : ∀ n ∈ issuedNames bases category requests, sameName n name = false := by
      intro n hn
      obtain ⟨i, hi, hn⟩ := List.getElem_of_mem hn
      obtain ⟨id', hid'⟩ := Option.ne_none_iff_exists'.mp (mt idAt?_eq_none_iff.mp
        (show ¬UInt32.size ≤ (bases.base category).toNat + i by omega))
      refine Bool.eq_false_iff.mpr fun hsame ↦ ?_
      have hget : t.get? category name = some id' := (get?_of_counter h).mpr
        ⟨i, n, List.getElem?_eq_some_iff.mpr ⟨hi, hn⟩, hsame, idAt?_eq_some_iff.mp hid'⟩
      cases hnone.symm.trans hget
    rw [ha, issuedNames_append_of_new hroom hnew, RttiCounter.ofNames_append_singleton hnext, issue,
      counter_setCounter_self, h]

end OfCounter

/-- **The counter of a category is determined by the names that were asked for in it.** -/
theorem counter_run (bases : RttiBases) (requests : List RttiRequest) (category : RttiCategory) :
    ((ofBases bases).run requests).counter category =
      .ofNames (bases.base category) (issuedNames bases category requests) := by
  induction requests using List.reverseRecOn with
  | nil =>
    have hzero : RttiCounter.ofNames (bases.base category) [] =
        { next := some (bases.base category) } := by
      rw [RttiCounter.ofNames, List.length_nil, idAt?_zero]
      rfl
    have hnames : issuedNames bases category [] = [] := List.take_nil
    rw [hnames, hzero]
    cases category <;> rfl
  | append_singleton requests r ih =>
    rw [run_append_singleton]
    by_cases hc : r.category = category
    · subst hc
      exact counter_allocate_self ih r.name
    · rw [counter_allocate_of_ne (Ne.symm hc), ih, issuedNames_append_of_ne hc]

/-! ## What a table knows of its numbers -/

/-- In one category, `names` have got the numbers from `base` on. -/
structure Issued (t : RttiTable) (category : RttiCategory) (base : UInt32)
    (names : List String) : Prop where
  /-- The numbers do not wrap around. -/
  fits : base.toNat + names.length ≤ UInt32.size
  distinct : DistinctNames names
  /-- Each name has the number of its place, under every spelling, and no other name has one. -/
  number : ∀ name id, t.get? category name = some id ↔
    ∃ i n, names[i]? = some n ∧ sameName n name = true ∧ id.toNat = base.toNat + i
  /-- A number leads back to its name, in the spelling that stands in `names`. -/
  spelling : ∀ id name, t.nameOf? category id = some name ↔
    name ∈ names ∧ t.get? category name = some id
  /-- A name keeps its number, whatever is asked for later. -/
  kept : ∀ name id, t.get? category name = some id → ∀ later variant,
    sameName variant name = true →
      (t.run later).allocate category variant = (.ok id, t.run later)
  /-- A new name gets the next number.  If there is none, the name is refused and nothing
  changes. -/
  new : ∀ name, t.get? category name = none →
    (base.toNat + names.length < UInt32.size ∧ ∃ id t',
        id.toNat = base.toNat + names.length ∧ t.allocate category name = (.ok id, t')) ∨
      (base.toNat + names.length = UInt32.size ∧
        t.allocate category name = (.error (.rttiExhausted category), t))
  /-- Requests in other categories make no difference. -/
  apart : ∀ later : List RttiRequest, (∀ r ∈ later, r.category ≠ category) →
    (t.run later).counter category = t.counter category

/-- **Every run gives the numbers of a category, from its base on, to the names that are asked for,
in the order in which they come first.** -/
theorem issued_run (bases : RttiBases) (requests : List RttiRequest) (category : RttiCategory) :
    ((ofBases bases).run requests).Issued category (bases.base category)
      (issuedNames bases category requests) := by
  have hcounter := counter_run bases requests category
  refine ⟨issuedNames_fit bases category requests, distinct_issuedNames bases category requests,
    fun name id ↦ get?_of_counter hcounter, fun id name ↦ nameOf?_of_counter hcounter,
    fun name id h later variant hv ↦ allocate_of_get? ?_, fun name ↦ allocate_of_counter hcounter,
    fun later ↦ counter_run_of_ne _⟩
  rw [get?, NameMap.get?_congr _ hv]
  exact get?_run h later

end RttiTable

end PascalTypes
