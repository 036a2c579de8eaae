import Mathlib.Data.List.Chain
import PascalTypes.Proofs.HelperIndexes

/-!
# The newest helper and its nearest ancestor

To find a member of a type, its helpers are asked one after the other, the newest first, and each of
them before the helpers that it inherits from.  A helper inherits from the helper that it names,
which may have another target, may be registered later or not at all, and may inherit from the first
one in turn.

`HelperTable.IsLineage` says what a lineage is, without a bound or a list of the names that were
met.  It goes from parent to parent, comes by no name twice, and goes on for as long as it can.
Every registered helper has exactly one (`isLineage_iff`), and `lineage` finds it.  Its bound is
large enough, since different helpers of the table are no more than the table has.

`membersFound_run` puts this together: the answer comes from the newest helper whose lineage has the
member, and there from the nearest helper that declares it.
-/

set_option autoImplicit false

namespace PascalTypes

namespace HelperTable

variable {t : HelperTable} {h g k : TypeHelper} {l l' : List TypeHelper} {name : String}

/-! ## What a lineage is -/

/-- The second helper is registered under the name that the first one gives as its parent. -/
def ParentHelper (t : HelperTable) (h g : TypeHelper) : Prop :=
  g ∈ t.helpers ∧ ∃ parent, h.parent = some parent ∧ sameName g.name parent = true

theorem InStep.parentHelper_iff (ht : t.InStep) :
    t.ParentHelper h g ↔ h.parent.bind t.find? = some g := by
  rw [Option.bind_eq_some_iff]
  simp only [ht.find?_eq_some_iff, ParentHelper]
  grind

/-- A helper has at most one parent. -/
theorem InStep.parentHelper_unique (ht : t.InStep) (hg : t.ParentHelper h g)
    (hk : t.ParentHelper h k) : g = k :=
  Option.some.inj ((ht.parentHelper_iff.mp hg).symm.trans (ht.parentHelper_iff.mp hk))

/-- A walk from a helper to parent after parent that comes by no name twice. -/
structure Ascent (t : HelperTable) (h : TypeHelper) (l : List TypeHelper) : Prop where
  starts : l.head? = some h
  linked : l.IsChain t.ParentHelper
  distinct : DistinctNames (l.map TypeHelper.name)

/-- A walk that ends only where there is no parent, or where the parent has a name that it came
by. -/
structure IsLineage (t : HelperTable) (h : TypeHelper) (l : List TypeHelper) : Prop
    extends Ascent t h l where
  ends : ∀ last g, l.getLast? = some last → t.ParentHelper last g →
    ∃ k ∈ l, sameName k.name g.name = true

namespace Ascent

theorem single (t : HelperTable) (h : TypeHelper) : t.Ascent h [h] :=
  ⟨rfl, List.isChain_singleton h, List.pairwise_singleton _ _⟩

/-- One step further, to a name that is new. -/
theorem concat (ha : t.Ascent h (l ++ [k])) (hg : t.ParentHelper k g)
    (hnew : ∀ d ∈ l ++ [k], sameName d.name g.name = false) :
    t.Ascent h (l ++ [k] ++ [g]) where
  starts := by rw [List.head?_append, ha.starts]; rfl
  linked := ha.linked.append (List.isChain_singleton g) (by simpa using hg)
  distinct := by
    rw [List.map_append]
    refine ha.distinct.append_singleton (List.any_eq_false.mpr fun name hname ↦ ?_)
    obtain ⟨d, hd, rfl⟩ := List.mem_map.mp hname
    simp [hnew d hd]

/-- The last step of an ascent, taken back. -/
theorem of_concat (ha : t.Ascent h (l ++ [k] ++ [g])) : t.Ascent h (l ++ [k]) ∧
    t.ParentHelper k g ∧ ∀ d ∈ l ++ [k], sameName d.name g.name = false := by
  obtain ⟨hlinked, -, hstep⟩ := List.isChain_append.mp ha.linked
  have hdistinct := ha.distinct
  rw [List.map_append, DistinctNames, List.pairwise_append] at hdistinct
  refine ⟨⟨?_, hlinked, hdistinct.1⟩, hstep k (by simp) g (by simp), fun d hd ↦ ?_⟩
  · have hstart := ha.starts
    rw [List.head?_append] at hstart
    simpa using hstart
  · exact hdistinct.2.2 d.name (List.mem_map_of_mem hd) g.name (by simp)

theorem mem_helpers (ha : t.Ascent h l) (hh : h ∈ t.helpers) : l ⊆ t.helpers := by
  refine ha.linked.induction (· ∈ t.helpers) l (fun _ _ hg _ ↦ hg.1) fun hne ↦ ?_
  rw [List.head_of_head?_eq_some ha.starts]
  exact hh

/-- Different helpers of the table are no more than the table has. -/
theorem length_le_size (ha : t.Ascent h l) (hh : h ∈ t.helpers) : l.length ≤ t.size := by
  have hnodup : l.Nodup := by
    refine (List.pairwise_map.mp ha.distinct).imp fun {a b} hab heq ↦ ?_
    rw [heq, sameName_refl] at hab
    cases hab
  exact hnodup.length_le_of_subset (ha.mem_helpers hh)

/-- **Every ascent is the beginning of the lineage.** -/
theorem isPrefix (ha : t.Ascent h l) (hl : t.IsLineage h l') (ht : t.InStep) : l <+: l' := by
  induction l using List.reverseRecOn with
  | nil => exact List.nil_prefix
  | append_singleton front g ih =>
    cases front using List.reverseRecOn with
    | nil =>
      obtain rfl : g = h := by simpa using ha.starts
      obtain ⟨rest, rfl⟩ := List.head?_eq_some_iff.mp hl.starts
      exact ⟨rest, rfl⟩
    | append_singleton front k =>
      obtain ⟨hfront, hparent, hnew⟩ := ha.of_concat
      obtain ⟨rest, rfl⟩ := ih hfront
      cases rest with
      | nil =>
        -- the lineage would have ended although the next name is new
        rw [List.append_nil] at hl
        obtain ⟨d, hd, hsame⟩ := hl.ends k g List.getLast?_concat hparent
        rw [hnew d hd] at hsame
        cases hsame
      | cons g' rest =>
        have hstep := (List.isChain_append.mp hl.linked).2.2 k (by simp) g' (by simp)
        rw [ht.parentHelper_unique hparent hstep]
        exact ⟨rest, by simp⟩

end Ascent

theorem IsLineage.unique (hl : t.IsLineage h l) (hl' : t.IsLineage h l') (ht : t.InStep) :
    l = l' :=
  (hl.isPrefix hl' ht).eq_of_length_le (hl'.isPrefix hl ht).length_le

/-! ## How a lineage is found -/

/-- The names that a walk has met, the last one first. -/
def metNames (l : List TypeHelper) : List NameKey :=
  (l.map fun g ↦ NameKey.of g.name).reverse

theorem mem_metNames_iff : NameKey.of name ∈ metNames l ↔ ∃ g ∈ l, sameName g.name name = true := by
  simp [metNames, NameKey.of_eq_of_iff]

theorem lineageFrom_of_met {met : List NameKey} (h : NameKey.of g.name ∈ met) (n : Nat) :
    t.lineageFrom n met g = [] := by
  cases n with
  | zero => rfl
  | succ n => rw [lineageFrom, if_pos h]

/-- **The rest of a lineage is found from wherever an ascent has come to.**  The bound is not used
up, because the ascent would have more helpers than the table. -/
theorem Ascent.isLineage {front : List TypeHelper} (ha : t.Ascent h (front ++ [k]))
    (ht : t.InStep) (hh : h ∈ t.helpers) (n : Nat) (hn : t.size ≤ front.length + n) :
    t.IsLineage h (front ++ t.lineageFrom n (metNames front) k) := by
  induction n generalizing front k with
  | zero =>
    have hle := ha.length_le_size hh
    rw [List.length_append, List.length_singleton] at hle
    omega
  | succ n ih =>
    have hnew : NameKey.of k.name ∉ metNames front := by
      rw [mem_metNames_iff]
      rintro ⟨d, hd, hsame⟩
      have hdistinct := ha.distinct
      rw [List.map_append, DistinctNames, List.pairwise_append] at hdistinct
      rw [hdistinct.2.2 d.name (List.mem_map_of_mem hd) k.name (by simp)] at hsame
      cases hsame
    have hmet : NameKey.of k.name :: metNames front = metNames (front ++ [k]) := by
      simp [metNames]
    rw [lineageFrom, if_neg hnew, hmet]
    cases hup : k.parent.bind t.find? with
    | none =>
      refine ⟨ha, fun last g hlast hg ↦ ?_⟩
      obtain rfl : k = last := by simpa using hlast
      exact nomatch hup.symm.trans (ht.parentHelper_iff.mp hg)
    | some g =>
      have hg := ht.parentHelper_iff.mpr hup
      rw [List.append_cons]
      change t.IsLineage h (front ++ [k] ++ t.lineageFrom n (metNames (front ++ [k])) g)
      by_cases hback : ∃ d ∈ front ++ [k], sameName d.name g.name = true
      · -- the parent has a name that the ascent came by
        rw [lineageFrom_of_met (mem_metNames_iff.mpr hback), List.append_nil]
        refine ⟨ha, fun last g' hlast hg' ↦ ?_⟩
        obtain rfl : k = last := by simpa using hlast
        rwa [ht.parentHelper_unique hg' hg]
      · refine ih (ha.concat hg fun d hd ↦ ?_) ?_
        · exact Bool.eq_false_iff.mpr fun hsame ↦ hback ⟨d, hd, hsame⟩
        · rw [List.length_append, List.length_singleton]
          omega

/-- **A registered helper has one lineage**, which is found with any bound that is large enough. -/
theorem isLineage_iff (ht : t.InStep) (hh : h ∈ t.helpers) {n : Nat} (hn : t.size ≤ n) :
    t.IsLineage h l ↔ t.lineageFrom n [] h = l := by
  have hstart : t.Ascent h ([] ++ [h]) := .single t h
  have hfound : t.IsLineage h (t.lineageFrom n [] h) :=
    hstart.isLineage ht hh n (by simpa using hn)
  constructor
  · intro hl
    exact hfound.unique hl ht
  · rintro rfl
    exact hfound

/-! ## Members -/

variable {α : Type} {pick : TypeHelper → Option α} {m : α}

/-- The lineage of a helper has no such member. -/
def Lacks (t : HelperTable) (pick : TypeHelper → Option α) (h : TypeHelper) : Prop :=
  ∀ l, t.IsLineage h l → ∀ g ∈ l, pick g = none

/-- In the lineage of `h`, the first helper that declares such a member is `g`. -/
def Nearest (t : HelperTable) (pick : TypeHelper → Option α) (h : TypeHelper) (m : α)
    (g : TypeHelper) : Prop :=
  ∃ front back, t.IsLineage h (front ++ g :: back) ∧ pick g = some m ∧ ∀ k ∈ front, pick k = none

/-- The first member that is found in the lineage of a helper. -/
def nearest? (t : HelperTable) (pick : TypeHelper → Option α) (h : TypeHelper) :
    Option (α × TypeHelper) :=
  (t.lineage h).findSome? fun g ↦ (pick g).map (·, g)

theorem nearest?_eq_none_iff (ht : t.InStep) (hh : h ∈ t.helpers) :
    t.nearest? pick h = none ↔ t.Lacks pick h := by
  simp only [Lacks, isLineage_iff ht hh (Nat.le_succ t.size)]
  simp [nearest?, lineage]

theorem nearest?_eq_some_iff (ht : t.InStep) (hh : h ∈ t.helpers) :
    t.nearest? pick h = some (m, g) ↔ t.Nearest pick h m g := by
  simp only [Nearest, isLineage_iff ht hh (Nat.le_succ t.size)]
  rw [nearest?, lineage, List.findSome?_eq_some_iff]
  constructor
  · rintro ⟨front, k, back, hl, hk, hfront⟩
    obtain ⟨m', hm', heq⟩ := Option.map_eq_some_iff.mp hk
    cases heq
    exact ⟨front, back, hl, hm', by simpa using hfront⟩
  · rintro ⟨front, back, hl, hm, hfront⟩
    exact ⟨front, g, back, hl, by simp [hm], by simpa using hfront⟩

theorem findSome?_flatMap {β γ : Type} (l : List α) (f : α → List β) (p : β → Option γ) :
    (l.flatMap f).findSome? p = l.findSome? fun a ↦ (f a).findSome? p := by
  induction l with
  | nil => rfl
  | cons a rest ih =>
    rw [List.flatMap_cons, List.findSome?_append, ih, List.findSome?_cons]
    cases (f a).findSome? p <;> rfl

theorem findSome?_filter {β : Type} (l : List α) (p : α → Bool) (f : α → Option β) :
    (l.filter p).findSome? f = l.findSome? fun a ↦ if p a then f a else none := by
  induction l with
  | nil => rfl
  | cons a rest ih =>
    rw [List.filter_cons, List.findSome?_cons]
    split
    · rw [List.findSome?_cons, ih]
    · exact ih

/-- The helpers of a type are asked for their nearest members, the newest of them first. -/
theorem InStep.findMember?_eq (ht : t.InStep) (target : Handle) (pick : TypeHelper → Option α) :
    t.findMember? target pick = t.helpers.reverse.findSome? fun h ↦
      if h.target == target then t.nearest? pick h else none := by
  rw [findMember?, findSome?_flatMap, ht.by_target, ← List.filter_reverse, findSome?_filter]
  rfl

/-- An answer to the question for a member, where `order` are the helpers from the oldest to the
newest. -/
structure FromNewest (t : HelperTable) (order : List TypeHelper) (target : Handle)
    (pick : TypeHelper → Option α) (answer : Option (α × TypeHelper)) : Prop where
  none_iff : answer = none ↔ ∀ h ∈ order, h.target = target → t.Lacks pick h
  some_iff : ∀ m g, answer = some (m, g) ↔ ∃ older h newer, order = older ++ h :: newer ∧
    h.target = target ∧ t.Nearest pick h m g ∧ ∀ k ∈ newer, k.target = target → t.Lacks pick k

theorem fromNewest_findMember? (ht : t.InStep) (target : Handle)
    (pick : TypeHelper → Option α) :
    t.FromNewest t.helpers target pick (t.findMember? target pick) := by
  -- what a helper contributes, if it is one of the target
  have hnone : ∀ h ∈ t.helpers, (if h.target == target then t.nearest? pick h else none) = none ↔
      (h.target = target → t.Lacks pick h) := by
    intro h hh
    rw [← nearest?_eq_none_iff ht hh]
    split <;> simp_all
  have hsome : ∀ h ∈ t.helpers, ∀ m g, (if h.target == target then t.nearest? pick h else none) =
      some (m, g) ↔ h.target = target ∧ t.Nearest pick h m g := by
    intro h hh m g
    rw [← nearest?_eq_some_iff ht hh]
    split <;> simp_all
  refine ⟨?_, fun m g ↦ ?_⟩
  · rw [ht.findMember?_eq, List.findSome?_eq_none_iff]
    simp only [List.mem_reverse]
    exact forall₂_congr hnone
  · rw [ht.findMember?_eq, List.findSome?_eq_some_iff]
    constructor
    · rintro ⟨newer, h, older, hsplit, hh, hnewer⟩
      have horder : t.helpers = older.reverse ++ h :: newer.reverse := by
        rw [← List.reverse_reverse t.helpers, hsplit]
        simp
      have hmem : ∀ k ∈ h :: newer.reverse, k ∈ t.helpers := fun k hk ↦
        horder ▸ List.mem_append_right _ hk
      obtain ⟨htarget, hnearest⟩ := (hsome h (hmem h List.mem_cons_self) m g).mp hh
      refine ⟨older.reverse, h, newer.reverse, horder, htarget, hnearest, fun k hk ↦ ?_⟩
      exact (hnone k (hmem k (List.mem_cons_of_mem _ hk))).mp (hnewer k (List.mem_reverse.mp hk))
    · rintro ⟨older, h, newer, horder, htarget, hnearest, hnewer⟩
      have hmem : ∀ k ∈ h :: newer, k ∈ t.helpers := fun k hk ↦
        horder ▸ List.mem_append_right _ hk
      refine ⟨newer.reverse, h, older.reverse, by rw [horder]; simp, ?_, fun k hk ↦ ?_⟩
      · exact (hsome h (hmem h List.mem_cons_self) m g).mpr ⟨htarget, hnearest⟩
      · have hk := List.mem_reverse.mp hk
        exact (hnone k (hmem k (List.mem_cons_of_mem _ hk))).mpr (hnewer k hk)

/-! ## After any number of calls -/

/-- Members are found in the newest helper that has them, and there in the nearest one. -/
structure MembersFound (changes : List HelperChange) : Prop where
  registered : (run changes).helpers = chronicle changes
  one_lineage : ∀ h ∈ chronicle changes, ∃! l, (run changes).IsLineage h l
  /-- More steps than a walk may take lead no further. -/
  walk_ends : ∀ h ∈ chronicle changes, ∀ n, (run changes).size ≤ n →
    (run changes).lineageFrom n [] h = (run changes).lineage h
  methods : ∀ target name, (run changes).FromNewest (chronicle changes) target
    (fun h ↦ h.methods.get? name) ((run changes).findMethod? target name)
  properties : ∀ target name, (run changes).FromNewest (chronicle changes) target
    (fun h ↦ h.properties.get? name) ((run changes).findProperty? target name)
  classVars : ∀ target name, (run changes).FromNewest (chronicle changes) target
    (fun h ↦ h.classVars.get? name) ((run changes).findClassVar? target name)

/-- **Members come from the newest helper, and there from the nearest one**, however the helpers
inherit from each other. -/
theorem membersFound_run (changes : List HelperChange) : MembersFound changes := by
  have ht := inStep_run changes
  have hfound : ∀ h ∈ (run changes).helpers, ∀ n, (run changes).size ≤ n →
      (run changes).IsLineage h ((run changes).lineageFrom n [] h) :=
    fun h hh n hn ↦ (isLineage_iff ht hh hn).mpr rfl
  refine ⟨helpers_run changes, ?_, ?_, ?_, ?_, ?_⟩ <;> rw [← helpers_run]
  · intro h hh
    have hl := hfound h hh _ (Nat.le_refl _)
    exact ⟨_, hl, fun l' hl' ↦ hl'.unique hl ht⟩
  · intro h hh n hn
    exact (hfound h hh n hn).unique (hfound h hh _ (Nat.le_succ _)) ht
  · exact fun target name ↦ fromNewest_findMember? ht target fun h ↦ h.methods.get? name
  · exact fun target name ↦ fromNewest_findMember? ht target fun h ↦ h.properties.get? name
  · exact fun target name ↦ fromNewest_findMember? ht target fun h ↦ h.classVars.get? name

/-- Two helpers of one type.  The newer one declares nothing, and inherits from a helper of another
type that inherits from it in turn. -/
def roundHelpers : List HelperChange :=
  [.register { name := "a", target := ⟨0⟩, classVars := .ofList [("v", ⟨1⟩)] },
    .register { name := "b", target := ⟨0⟩, parent := some "C" },
    .register { name := "c", target := ⟨2⟩, parent := some "B", classVars := .ofList [("V", ⟨3⟩)] }]

-- what the newer one inherits comes before what the older one declares
example : ((run roundHelpers).findClassVar? ⟨0⟩ "v").map (fun p ↦ (p.1, p.2.name)) =
    some (⟨3⟩, "c") := rfl

end HelperTable

end PascalTypes
