import Mathlib.Data.List.Chain
import PascalTypes.Proofs.ConversionSearch

/-!
# Shortest chains of conversions

`Leads` says what `ConversionGraph.route?` looks for: a chain of a certain number of conversions,
with no regard to what was met.  A type may lead to itself here, directly or by way of others, and
the start may be the target.

The search answers with the first layer that can be finished (`search_eq`).  What is left is about
layers alone.

* A type that `n` conversions lead to ends a trail of layer `n` or of an earlier layer
  (`exists_mem_layer_of_leads`).  So whatever was met before can be left out, and a layer that
  cannot be finished leaves no chain behind (`finish?_layer_of_leads`).
* The other way round, every trail is a chain (`leads_of_mem_layer`), and its names are those that
  the conversions are registered with (`linked_of_mem_layer`).

All this needs that the edges, by which the search goes, are those of the implicit conversions, and
that there is one of these at most between two types.  It is so in every graph that can come up
(`mirrored_run`).  Then it makes no difference either that a conversion between the two types is
looked for first (`Mirrored.route?_eq`).

The two results are `route?_shortest`, that the search is right, and `route?_gated`, that the bound
decides whether there is an answer and never which.
-/

set_option autoImplicit false

namespace PascalTypes

namespace ConversionGraph

variable {g : ConversionGraph} {c : Conversion} {source target : String}

/-! ## Conversions between two types -/

theorem findImplicit?_isSome_iff : (g.findImplicit? source target).isSome = true ↔
    ∃ c ∈ g.implicits, c.joins source target = true := by
  simp [findImplicit?]

theorem Mirrored.mem_outgoing_iff (hg : g.Mirrored) :
    c ∈ g.outgoing source ↔ c ∈ g.implicits ∧ sameName c.source source = true := by
  rw [hg.outgoing_eq]
  exact List.mem_filter

theorem findImplicit?_of_mem_outgoing (hc : c ∈ g.outgoing source) :
    (g.findImplicit? source c.target).isSome = true := by
  obtain ⟨hmem, hsource⟩ := mem_implicits_of_mem_outgoing hc
  exact findImplicit?_isSome_iff.mpr
    ⟨c, hmem, Conversion.joins_iff.mpr ⟨hsource, sameName_refl _⟩⟩

/-! ## Chains -/

/-- `n` implicit conversions, one after the other, lead from one type to another. -/
inductive Leads (g : ConversionGraph) (source : String) : Nat → String → Prop
  | start {name : String} (h : sameName source name = true) : Leads g source 0 name
  | step {n : Nat} {mid next : String} (h : Leads g source n mid)
      (hnext : (g.findImplicit? mid next).isSome = true) : Leads g source (n + 1) next

/-- There is an implicit conversion to a type of exactly this spelling. -/
def Link (g : ConversionGraph) (name next : String) : Prop :=
  ∃ c, g.findImplicit? name next = some c ∧ c.target = next

/-- The conversion between two types gives the next name its spelling. -/
theorem Simple.link (hg : g.Simple) (hc : c ∈ g.implicits) (hs : sameName c.source source = true) :
    g.Link source c.target :=
  ⟨c, hg.findImplicit?_eq hc (Conversion.joins_iff.mpr ⟨hs, sameName_refl _⟩), rfl⟩

/-! ## Trails of a layer -/

variable {trails : List Trail} {t : Trail} {n k : Nat}

/-- A trail starts at the start, in the spelling that was asked for. -/
theorem head?_names_of_mem_layer (ht : t ∈ (g.layer source n).1) :
    t.names.head? = some source := by
  refine layer_induction (P := fun _ t ↦ t.names.head? = some source) rfl ?_ n t ht
  rintro n t _ hhead ⟨c, -, rfl⟩
  rw [Trail.names_extend, List.head?_append, hhead]
  rfl

/-- Every trail is a chain of conversions. -/
theorem leads_of_mem_layer (ht : t ∈ (g.layer source n).1) :
    g.Leads source n t.here := by
  refine layer_induction (P := fun n t ↦ g.Leads source n t.here) (.start (sameName_refl _)) ?_ n
    t ht
  rintro n t _ hleads ⟨c, hc, rfl⟩
  exact hleads.step (findImplicit?_of_mem_outgoing hc)

theorem isChain_names_extend {R : String → String → Prop} {next : String}
    (ht : t.names.IsChain R) (hnext : R t.here next) : (t.extend next).names.IsChain R := by
  rw [Trail.names_extend]
  refine ht.append (List.isChain_singleton next) ?_
  simpa [Trail.getLast?_names] using hnext

/-- The names on a trail are spelled as the conversions spell them. -/
theorem linked_of_mem_layer (hg : g.Simple) (ht : t ∈ (g.layer source n).1) :
    t.names.IsChain g.Link := by
  refine layer_induction (P := fun _ t ↦ t.names.IsChain g.Link) (List.isChain_singleton _) ?_ n
    t ht
  rintro n t _ hchain ⟨c, hc, rfl⟩
  obtain ⟨hmem, hsource⟩ := mem_implicits_of_mem_outgoing hc
  exact isChain_names_extend hchain (hg.link hmem hsource)

/-! ### No chain is left out -/

/-- What was met ends a trail of this layer or of an earlier one. -/
theorem exists_mem_layer_of_met {key : NameKey} (h : key ∈ (g.layer source n).2) :
    ∃ m ≤ n, ∃ t ∈ (g.layer source m).1, NameKey.of t.here = key := by
  induction n with
  | zero =>
    have hkey := List.mem_singleton.mp h
    exact ⟨0, Nat.le_refl 0, _, List.mem_singleton_self _, hkey.symm⟩
  | succ n ih =>
    rcases (g.spreads_layer source n).no_more key h with h | ⟨t, ht, hkey⟩
    · obtain ⟨m, hm, hex⟩ := ih h
      exact ⟨m, Nat.le_succ_of_le hm, hex⟩
    · exact ⟨n + 1, Nat.le_refl _, t, ht, hkey⟩

/-- **A type that `n` conversions lead to ends a trail of layer `n` or of an earlier one.** -/
theorem exists_mem_layer_of_leads (hg : g.Mirrored) {name : String} (h : g.Leads source n name) :
    ∃ m ≤ n, ∃ t ∈ (g.layer source m).1, sameName t.here name = true := by
  induction h with
  | start h => exact ⟨0, Nat.le_refl 0, _, List.mem_singleton_self _, h⟩
  | @step n mid next _ hnext ih =>
    obtain ⟨m, hm, t, ht, hmid⟩ := ih
    rw [← findImplicit?_congr hmid (sameName_refl next), findImplicit?_isSome_iff] at hnext
    obtain ⟨c, hc, hjoins⟩ := hnext
    obtain ⟨hsource, htarget⟩ := Conversion.joins_iff.mp hjoins
    -- the trail can be extended to the next type, so this is met in the next layer at the latest
    have hext : g.Extends t (t.extend c.target) := ⟨c, hg.mem_outgoing_iff.mpr ⟨hc, hsource⟩, rfl⟩
    have hmet := (g.spreads_layer source m).covers _ ⟨t, ht, hext⟩
    obtain ⟨k, hk, t', ht', hkey⟩ := exists_mem_layer_of_met hmet
    exact ⟨k, by omega, t', ht', sameName_trans (NameKey.of_eq_of_iff.mp hkey) htarget⟩

/-! ## The end of the search -/

/-- A layer is finished by one of its trails and a conversion from its end to the target. -/
theorem exists_of_finish? {found : Trail}
    (h : g.finish? (NameKey.of target) trails = some found) :
    ∃ t ∈ trails, ∃ c ∈ g.implicits, c.joins t.here target = true ∧
      found = t.extend c.target := by
  obtain ⟨t, ht, harrival⟩ := List.exists_of_findSome?_eq_some h
  obtain ⟨c, hfind, rfl⟩ := Option.map_eq_some_iff.mp harrival
  obtain ⟨hmem, hsource⟩ := mem_implicits_of_mem_outgoing (List.mem_of_find?_eq_some hfind)
  have htarget : c.key.target = NameKey.of target := by simpa using List.find?_some hfind
  exact ⟨t, ht, c, hmem, Conversion.joins_iff.mpr ⟨hsource, NameKey.of_eq_of_iff.mp htarget⟩, rfl⟩

theorem Mirrored.finish?_isSome (hg : g.Mirrored) (ht : t ∈ trails)
    (hc : (g.findImplicit? t.here target).isSome = true) :
    (g.finish? (NameKey.of target) trails).isSome = true := by
  obtain ⟨c, hmem, hjoins⟩ := findImplicit?_isSome_iff.mp hc
  obtain ⟨hsource, htarget⟩ := Conversion.joins_iff.mp hjoins
  refine List.findSome?_isSome_iff.mpr ⟨t, ht, ?_⟩
  rw [arrival?, Option.isSome_map, List.find?_isSome]
  exact ⟨c, hg.mem_outgoing_iff.mpr ⟨hmem, hsource⟩,
    decide_eq_true (NameKey.of_eq_of_iff.mpr htarget)⟩

/-- **A chain makes a layer finish that is not too late.** -/
theorem finish?_layer_of_leads (hg : g.Mirrored) (h : g.Leads source (n + 1) target) :
    ∃ m ≤ n, (g.finish? (NameKey.of target) (g.layer source m).1).isSome = true := by
  cases h with
  | step h hlast =>
    obtain ⟨m, hm, t, ht, hsame⟩ := exists_mem_layer_of_leads hg h
    rw [← findImplicit?_congr hsame (sameName_refl target)] at hlast
    exact ⟨m, hm, hg.finish?_isSome ht hlast⟩

/-- A layer finishes with one conversion more than its trails have. -/
theorem length_names_of_finish?
    (h : g.finish? (NameKey.of target) (g.layer source n).1 = some t) : t.names.length = n + 2 := by
  obtain ⟨t, ht, c, -, -, rfl⟩ := exists_of_finish? h
  rw [Trail.names_extend, List.length_append, length_names_of_mem_layer ht]
  rfl

theorem findSome?_range_eq_some_iff {α : Type} {f : Nat → Option α} {n : Nat} {a : α} :
    (List.range n).findSome? f = some a ↔ ∃ i < n, f i = some a ∧ ∀ j < i, f j = none := by
  induction n with
  | zero => simp
  | succ n ih =>
    rw [List.range_succ, List.findSome?_append, Option.or_eq_some_iff, ih]
    simp only [List.findSome?_eq_none_iff, List.mem_range, List.findSome?_singleton]
    constructor
    · rintro (⟨i, hi, h⟩ | ⟨hnone, ha⟩)
      · exact ⟨i, by omega, h⟩
      · exact ⟨n, by omega, ha, hnone⟩
    · rintro ⟨i, hi, ha, hnone⟩
      rcases Nat.lt_succ_iff_lt_or_eq.mp hi with hi | rfl
      · exact .inl ⟨i, hi, ha, hnone⟩
      · exact .inr ⟨hnone, ha⟩

/-- The names on the way through the first layer that can be finished within the bound. -/
def firstRoute? (g : ConversionGraph) (source target : String) (maxLength : Nat) :
    Option (List String) :=
  ((List.range maxLength).findSome? fun n ↦
    g.finish? (NameKey.of target) (g.layer source n).1).map Trail.names

theorem firstRoute?_eq_none_iff {maxLength : Nat} :
    g.firstRoute? source target maxLength = none ↔
      ∀ n < maxLength, g.finish? (NameKey.of target) (g.layer source n).1 = none := by
  simp [firstRoute?]

theorem firstRoute?_eq_some_iff {maxLength : Nat} {p : List String} :
    g.firstRoute? source target maxLength = some p ↔ ∃ n < maxLength, ∃ t,
      g.finish? (NameKey.of target) (g.layer source n).1 = some t ∧ t.names = p ∧
        ∀ m < n, g.finish? (NameKey.of target) (g.layer source m).1 = none := by
  rw [firstRoute?, Option.map_eq_some_iff]
  simp only [findSome?_range_eq_some_iff]
  constructor
  · rintro ⟨t, ⟨n, hn, ht, hbefore⟩, rfl⟩
    exact ⟨n, hn, t, ht, rfl, hbefore⟩
  · rintro ⟨n, hn, t, ht, rfl, hbefore⟩
    exact ⟨t, ⟨n, hn, ht, hbefore⟩, rfl⟩

theorem route?_of_direct {direct : Conversion}
    (h : g.findImplicit? source target = some direct) (maxLength : Nat) :
    g.route? source target maxLength =
      if maxLength = 0 then none else some [source, direct.target] := by
  rw [route?, h]

/-- **Without a conversion between the two types, the route is that of the first layer.** -/
theorem route?_of_no_direct (h : g.findImplicit? source target = none) (maxLength : Nat) :
    g.route? source target maxLength = g.firstRoute? source target maxLength := by
  rw [route?, h, search_eq (Nat.le_refl _), Option.join_some, firstRoute?]
  split
  · rename_i hzero
    rw [hzero]
    rfl
  · rfl

/-- A conversion between the two types would also be the first that the search finds. -/
theorem Mirrored.route?_eq (hg : g.Mirrored) (source target : String) (maxLength : Nat) :
    g.route? source target maxLength = g.firstRoute? source target maxLength := by
  cases hdirect : g.findImplicit? source target with
  | none => exact route?_of_no_direct hdirect maxLength
  | some direct =>
    rw [route?_of_direct hdirect]
    split
    · rename_i hzero
      rw [hzero]
      rfl
    · rename_i hpos
      have hstart : { here := source } ∈ (g.layer source 0).1 := List.mem_singleton_self _
      have hsome := hg.finish?_isSome hstart (Option.isSome_of_eq_some hdirect)
      obtain ⟨found, hfound⟩ := Option.isSome_iff_exists.mp hsome
      obtain ⟨t, ht, c, hc, hjoins, rfl⟩ := exists_of_finish? hfound
      cases List.mem_singleton.mp ht
      obtain rfl := Option.some.inj (hdirect.symm.trans (hg.simple.findImplicit?_eq hc hjoins))
      exact (firstRoute?_eq_some_iff.mpr
        ⟨0, Nat.pos_of_ne_zero hpos, _, hfound, rfl, nofun⟩).symm

/-! ## The two results -/

/-- A shortest chain of implicit conversions, with at least one and at most `maxLength` of them. -/
structure IsShortest (g : ConversionGraph) (source target : String) (maxLength : Nat)
    (p : List String) : Prop where
  starts : p.head? = some source
  ends : ∃ last, p.getLast? = some last ∧ sameName last target = true
  one_le : 1 ≤ p.length - 1
  le : p.length - 1 ≤ maxLength
  linked : p.IsChain g.Link
  shortest : ∀ n, 1 ≤ n → n < p.length - 1 → ¬g.Leads source n target

theorem not_leads_of_finish?_eq_none (hg : g.Mirrored)
    (h : ∀ m < k, g.finish? (NameKey.of target) (g.layer source m).1 = none) (hn : 1 ≤ n)
    (hk : n ≤ k) : ¬g.Leads source n target := by
  intro hleads
  obtain ⟨n, rfl⟩ := Nat.exists_eq_add_one.mpr hn
  obtain ⟨m, hm, hsome⟩ := finish?_layer_of_leads hg hleads
  rw [h m (by omega)] at hsome
  cases hsome

theorem isShortest_of_finish? (hg : g.Mirrored) {maxLength : Nat} (hn : n < maxLength)
    (h : g.finish? (NameKey.of target) (g.layer source n).1 = some t)
    (hbefore : ∀ m < n, g.finish? (NameKey.of target) (g.layer source m).1 = none) :
    g.IsShortest source target maxLength t.names := by
  have hlen := length_names_of_finish? h
  obtain ⟨t, ht, c, hmem, hjoins, rfl⟩ := exists_of_finish? h
  obtain ⟨hsource, htarget⟩ := Conversion.joins_iff.mp hjoins
  refine ⟨?_, ⟨c.target, Trail.getLast?_names _, htarget⟩, by omega, by omega, ?_, ?_⟩
  · rw [Trail.names_extend, List.head?_append, head?_names_of_mem_layer ht]
    rfl
  · exact isChain_names_extend (linked_of_mem_layer hg.simple ht) (hg.simple.link hmem hsource)
  · intro m hm hlt
    exact not_leads_of_finish?_eq_none hg hbefore hm (by omega)

/-- **The search ends, it finds a shortest chain, and it finds one whenever there is one within the
bound.**  This holds as well if the start is the target, where the chain is closed. -/
theorem route?_shortest (changes : List ConversionChange) (source target : String)
    (maxLength : Nat) :
    (∃ answer, ∀ n, (run changes).implicits.length + 2 ≤ n →
        (run changes).search source target maxLength n = some answer) ∧
      (∀ p, (run changes).route? source target maxLength = some p →
        (run changes).IsShortest source target maxLength p) ∧
      ((run changes).route? source target maxLength = none ↔
        ∀ n, 1 ≤ n → n ≤ maxLength → ¬(run changes).Leads source n target) := by
  have hg := mirrored_run changes
  refine ⟨(run changes).exists_search source target maxLength, ?_⟩
  rw [hg.route?_eq]
  refine ⟨fun p hp ↦ ?_, fun h n hn hle ↦ ?_, fun h ↦ ?_⟩
  · obtain ⟨n, hn, t, ht, rfl, hbefore⟩ := firstRoute?_eq_some_iff.mp hp
    exact isShortest_of_finish? hg hn ht hbefore
  · exact not_leads_of_finish?_eq_none hg (firstRoute?_eq_none_iff.mp h) hn hle
  · refine firstRoute?_eq_none_iff.mpr fun n hn ↦
      Option.eq_none_iff_forall_ne_some.mpr fun t ht ↦ ?_
    obtain ⟨t, ht, c, hc, hjoins, -⟩ := exists_of_finish? ht
    have hlast := findImplicit?_isSome_iff.mpr ⟨c, hc, hjoins⟩
    exact h (n + 1) (by omega) (by omega) ((leads_of_mem_layer ht).step hlast)

/-- A circle of three types, in several spellings.  One of them also leads to itself, one conversion
is refused, and the only one that leads straight back to the start is explicit. -/
def circle : List ConversionChange :=
  [.register ⟨"a", "B", "", true⟩, .register ⟨"b", "b", "", true⟩, .register ⟨"b", "C", "", true⟩,
    .register ⟨"A", "b", "", true⟩, .register ⟨"c", "A", "", true⟩, .register ⟨"a", "a", "", false⟩]

/-- All the way round is the shortest way back. -/
theorem route?_circle : (run circle).IsShortest "a" "a" 3 ["a", "B", "C", "A"] ∧
    ¬(run circle).Leads "a" 1 "a" ∧ ¬(run circle).Leads "a" 2 "a" := by
  have hfound : (run circle).route? "a" "a" 3 = some ["a", "B", "C", "A"] := rfl
  have hnone : (run circle).route? "a" "a" 2 = none := rfl
  have hno := (route?_shortest circle "a" "a" 2).2.2.mp hnone
  exact ⟨(route?_shortest circle "a" "a" 3).2.1 _ hfound, hno 1 (by decide) (by decide),
    hno 2 (by decide) (by decide)⟩

/-- **The bound decides whether there is an answer, and never which.** -/
theorem route?_gated (g : ConversionGraph) (source target : String) (d d' : Nat) (hd : d ≤ d')
    (p : List String) : g.route? source target d = some p ↔
      g.route? source target d' = some p ∧ p.length - 1 ≤ d := by
  cases hdirect : g.findImplicit? source target with
  | some direct =>
    rw [route?_of_direct hdirect, route?_of_direct hdirect]
    constructor
    · intro h
      obtain ⟨hpos, rfl⟩ : d ≠ 0 ∧ [source, direct.target] = p := by simpa using h
      exact ⟨if_neg (by omega), Nat.one_le_iff_ne_zero.mpr hpos⟩
    · rintro ⟨h, hle⟩
      obtain ⟨-, rfl⟩ : d' ≠ 0 ∧ [source, direct.target] = p := by simpa using h
      exact if_neg (Nat.one_le_iff_ne_zero.mp hle)
  | none =>
    rw [route?_of_no_direct hdirect, route?_of_no_direct hdirect, firstRoute?_eq_some_iff,
      firstRoute?_eq_some_iff]
    -- the layers are the same for both bounds, and the length of the route says which one it was
    constructor
    · rintro ⟨n, hn, t, ht, rfl, hbefore⟩
      have hlen := length_names_of_finish? ht
      exact ⟨⟨n, by omega, t, ht, rfl, hbefore⟩, by omega⟩
    · rintro ⟨⟨n, -, t, ht, rfl, hbefore⟩, hle⟩
      have hlen := length_names_of_finish? ht
      exact ⟨n, by omega, t, ht, rfl, hbefore⟩

/-- Two ways from `a` to `d` that are equally long, and a way on from there to `e`. -/
def crossing : ConversionGraph :=
  run [.register ⟨"b", "D", "", true⟩, .register ⟨"a", "C", "", true⟩,
    .register ⟨"a", "B", "", true⟩, .register ⟨"c", "d", "", true⟩, .register ⟨"d", "e", "", true⟩]

/-- The bound makes no difference to which of the two ways is taken. -/
theorem route?_crossing : crossing.route? "a" "d" 7 = some ["a", "C", "d"] ∧
    crossing.route? "a" "d" 2 = some ["a", "C", "d"] ∧
    crossing.route? "a" "d" 1 ≠ some ["a", "C", "d"] := by
  have hlong : crossing.route? "a" "d" 7 = some ["a", "C", "d"] := rfl
  have hgate := fun d hd ↦ route?_gated crossing "a" "d" d 7 hd ["a", "C", "d"]
  refine ⟨hlong, (hgate 2 (by decide)).mpr ⟨hlong, by decide⟩, fun hshort ↦ ?_⟩
  exact absurd ((hgate 1 (by decide)).mp hshort).2 (by decide)

end ConversionGraph

end PascalTypes
