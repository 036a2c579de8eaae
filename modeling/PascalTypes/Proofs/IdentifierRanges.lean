import PascalTypes.Proofs.Identifiers

/-!
# When the numbers of two categories collide

Each category counts from a base of its own, and the usual bases lie far apart.  But a counter only
stops at the last number that there is, and not at the base of the next category.  So it can run
into the numbers of another category, and then two types have one number.

`RttiTable.collide_run_iff` compares two categories: the numbers of each are an interval, and two
intervals meet if the later one starts before the earlier one ends.  For the usual bases,
`RttiTable.default_apart_iff` says how many names the categories stand before this happens.
`crowdedRecords` is one name too many.
-/

set_option autoImplicit false

namespace PascalTypes

namespace RttiTable

/-- A number was given out in two categories. -/
def Collide (t : RttiTable) (category other : RttiCategory) : Prop :=
  ∃ id m n, t.get? category m = some id ∧ t.get? other n = some id

/-- The numbers that were given out are an interval. -/
theorem exists_get?_run_iff (bases : RttiBases) (requests : List RttiRequest)
    (category : RttiCategory) (id : UInt32) :
    (∃ name, ((ofBases bases).run requests).get? category name = some id) ↔
      (bases.base category).toNat ≤ id.toNat ∧
        id.toNat < (bases.base category).toNat +
          (issuedNames bases category requests).length := by
  simp only [get?_of_counter (counter_run bases requests category)]
  constructor
  · rintro ⟨name, i, n, hn, -, hid⟩
    obtain ⟨hi, -⟩ := List.getElem?_eq_some_iff.mp hn
    omega
  · rintro ⟨hle, hlt⟩
    have hi : id.toNat - (bases.base category).toNat <
        (issuedNames bases category requests).length := by omega
    exact ⟨_, _, _, List.getElem?_eq_getElem hi, sameName_refl _, by omega⟩

/-- **Two categories collide exactly if their intervals meet.** -/
theorem collide_run_iff (bases : RttiBases) (requests : List RttiRequest)
    (category other : RttiCategory) :
    ((ofBases bases).run requests).Collide category other ↔
      max (bases.base category).toNat (bases.base other).toNat <
        min ((bases.base category).toNat + (issuedNames bases category requests).length)
          ((bases.base other).toNat + (issuedNames bases other requests).length) := by
  have hmem := exists_get?_run_iff bases requests category
  have hmem' := exists_get?_run_iff bases requests other
  constructor
  · rintro ⟨id, m, n, hm, hn⟩
    have hin := (hmem id).mp ⟨m, hm⟩
    have hin' := (hmem' id).mp ⟨n, hn⟩
    omega
  · intro hlt
    have hfit := issuedNames_fit bases category requests
    obtain ⟨id, hid⟩ : ∃ id : UInt32,
        id.toNat = max (bases.base category).toNat (bases.base other).toNat :=
      ⟨.ofNat _, UInt32.toNat_ofNat_of_lt' (by omega)⟩
    obtain ⟨m, hm⟩ := (hmem id).mpr (by omega)
    obtain ⟨n, hn⟩ := (hmem' id).mpr (by omega)
    exact ⟨id, m, n, hm, hn⟩

/-- How many names were asked for in a category. -/
def nameCount (category : RttiCategory) (requests : List RttiRequest) : Nat :=
  (firstSpellings (namesIn category requests)).length

/-- **With the usual bases, numbers are unique across categories up to a point.**  There must not be
more than 199000 classes if there are records, not more than 100000 records if there are
enumerations, and not more than 299000 classes if there are enumerations. -/
theorem default_apart_iff (requests : List RttiRequest) :
    (∀ category other, category ≠ other →
        ¬((ofBases {}).run requests).Collide category other) ↔
      (nameCount .classType requests ≤ 199000 ∨ nameCount .recordType requests = 0) ∧
        (nameCount .recordType requests ≤ 100000 ∨ nameCount .enumType requests = 0) ∧
        (nameCount .classType requests ≤ 299000 ∨ nameCount .enumType requests = 0) := by
  have hlen : ∀ category, (issuedNames {} category requests).length =
      min (UInt32.size - (RttiBases.base {} category).toNat) (nameCount category requests) :=
    fun category ↦ List.length_take
  have hsize : UInt32.size = 4294967296 := rfl
  have hclass : (RttiBases.base {} .classType).toNat = 1000 := rfl
  have hrecord : (RttiBases.base {} .recordType).toNat = 200000 := rfl
  have henum : (RttiBases.base {} .enumType).toNat = 300000 := rfl
  simp only [collide_run_iff, hlen]
  constructor
  · intro h
    have hcr := h .classType .recordType nofun
    have hre := h .recordType .enumType nofun
    have hce := h .classType .enumType nofun
    rw [hclass, hrecord] at hcr
    rw [hrecord, henum] at hre
    rw [hclass, henum] at hce
    omega
  · rintro ⟨hcr, hre, hce⟩ category other hne
    cases category <;> cases other <;>
      simp only [hclass, hrecord, henum, ne_eq, reduceCtorEq, not_true_eq_false] at hne ⊢ <;> omega

end RttiTable

/-! ## One name too many -/

/-- A number written with four letters, to the base 26. -/
def fourLetters (n : Nat) : List Char :=
  [17576, 676, 26, 1].map fun place ↦ Char.ofNat (97 + n / place % 26)

theorem not_isUpper_fourLetters (n : Nat) : ∀ c ∈ fourLetters n, Text.isUpper c = false := by
  have hletter : ∀ k < 26, Text.isUpper (Char.ofNat (97 + k)) = false := by decide
  exact List.forall_mem_map.mpr fun place _ ↦ hletter _ (Nat.mod_lt _ (by decide))

theorem fourLetters_inj {m n : Nat} (hm : m < 456976) (hn : n < 456976)
    (h : fourLetters m = fourLetters n) : m = n := by
  have hletter : ∀ k < 26, ∀ l < 26, Char.ofNat (97 + k) = Char.ofNat (97 + l) → k = l := by decide
  have hdigit : ∀ place ∈ [17576, 676, 26, 1], m / place % 26 = n / place % 26 := by
    intro place hp
    have hchar := List.map_inj_left.mp h place hp
    exact hletter _ (Nat.mod_lt _ (by decide)) _ (Nat.mod_lt _ (by decide)) hchar
  simp only [List.forall_mem_cons] at hdigit
  omega

theorem sameName_fourLetters_iff {m n : Nat} (hm : m < 456976) (hn : n < 456976) :
    sameName (String.ofList (fourLetters m)) (String.ofList (fourLetters n)) = true ↔ m = n := by
  have hfold : ∀ n, fold (String.ofList (fourLetters n)) = String.ofList (fourLetters n) := by
    intro n
    have hany : (fourLetters n).any Text.isUpper = false :=
      List.any_eq_false.mpr fun c hc ↦ by simp [not_isUpper_fourLetters n c hc]
    rw [fold, String.toList_ofList, hany]
    rfl
  rw [sameName_iff, hfold, hfold, String.ofList_inj]
  exact ⟨fourLetters_inj hm hn, congrArg _⟩

/-- More names by one than there are numbers between the base of records and that of
enumerations. -/
def manyNames : List String :=
  (List.range 100001).map fun i ↦ String.ofList (fourLetters (100000 - i))

theorem length_manyNames : manyNames.length = 100001 := by
  rw [manyNames, List.length_map, List.length_range]

theorem distinct_manyNames : DistinctNames manyNames := by
  refine List.pairwise_map.mpr (List.pairwise_lt_range.imp_of_mem fun {i j} hi hj hlt ↦ ?_)
  rw [List.mem_range] at hi hj
  rw [← Bool.not_eq_true, sameName_fourLetters_iff (by omega) (by omega)]
  omega

theorem namesIn_cons (category : RttiCategory) (r : RttiRequest) (requests : List RttiRequest) :
    namesIn category (r :: requests) =
      if r.category = category then r.name :: namesIn category requests
      else namesIn category requests := by
  rw [namesIn, List.filter_cons]
  by_cases h : r.category = category <;> simp [h, namesIn]

theorem namesIn_map_self (category : RttiCategory) (names : List String) :
    namesIn category (names.map (RttiRequest.mk category)) = names := by
  simp [namesIn, List.filter_map, Function.comp_def]

theorem namesIn_map_of_ne {category other : RttiCategory} (h : other ≠ category)
    (names : List String) : namesIn category (names.map (RttiRequest.mk other)) = [] := by
  simp [namesIn, List.filter_map, Function.comp_def, h]

/-- An enumeration, and then too many records. -/
def crowdedRecords : List RttiRequest :=
  ⟨.enumType, "e"⟩ :: manyNames.map (RttiRequest.mk .recordType)

theorem issuedNames_crowdedRecords : issuedNames {} .recordType crowdedRecords = manyNames := by
  have hnames : namesIn .recordType crowdedRecords = manyNames := by
    rw [crowdedRecords, namesIn_cons, if_neg (by decide), namesIn_map_self]
  rw [issuedNames, hnames, distinct_manyNames.firstSpellings_eq]
  refine List.take_of_length_le ?_
  rw [length_manyNames]
  decide

/-- **The last record has the number of the enumeration.** -/
theorem crowdedRecords_collide :
    ((RttiTable.ofBases {}).run crowdedRecords).get? .recordType "aaaa" = some 300000 ∧
      ((RttiTable.ofBases {}).run crowdedRecords).get? .enumType "e" = some 300000 := by
  have henum : namesIn .enumType crowdedRecords = ["e"] := by
    rw [crowdedRecords, namesIn_cons, if_pos rfl, namesIn_map_of_ne (by decide)]
  constructor
  · refine (RttiTable.get?_of_counter (RttiTable.counter_run {} crowdedRecords .recordType)).mpr
      ⟨100000, "aaaa", ?_, sameName_refl _, rfl⟩
    rw [issuedNames_crowdedRecords, manyNames, List.getElem?_map, List.getElem?_range (by decide)]
    rfl
  · refine (RttiTable.get?_of_counter (RttiTable.counter_run {} crowdedRecords .enumType)).mpr
      ⟨0, "e", ?_, sameName_refl _, rfl⟩
    rw [issuedNames, henum]
    rfl

end PascalTypes
