import Mathlib.Order.Compare
import PascalTypes.Proofs.Answers
import PascalTypes.Proofs.Runs
import PascalTypes.TypeEnv.OperatorChoice

/-!
# The least widening

The operands of an operator are widened until the operator has a meaning for them.  This file says
which widening that is, without a word about how widenings are listed:

* `Picks names ds picked` means that going up by `ds` in the lists of names comes to `picked`;
* `Precedes` orders widenings by their total distance, and those of the same distance by the first
  operand that is widened differently.

`combinations` has every widening (`mem_combinations_iff`) and each of them once
(`nodup_combinations`).  Sorted, they ascend (`pairwise_widenings`).  The first of them widens
nothing (`widenings_eq_cons`), so that nothing is lost where the search leaves it out: the operands
as they are have been looked up before (`resolveOperator?_eq`).  Hence the first widening that gives
a meaning is the least one that does (`findSome?_eq_some_iff_least`), and if none is found there is
none.
-/

set_option autoImplicit false

namespace PascalTypes

/-! ## Widenings and their order -/

/-- A widening goes less far than another one, or as far but less so at the first operand where they
differ. -/
def Precedes (ds es : List Nat) : Prop :=
  distance ds < distance es ∨ distance ds = distance es ∧ List.Lex (· < ·) ds es

theorem Precedes.asymm {ds es : List Nat} (h : Precedes ds es) : ¬Precedes es ds := by
  rintro (hlt | ⟨heq, hlex⟩)
  · rcases h with h | ⟨h, -⟩ <;> omega
  · rcases h with h | ⟨-, hlex'⟩
    · omega
    · exact List.lt_asymm hlex hlex'

theorem compare_eq_lt_iff_lex {ds es : List Nat} :
    compare ds es = .lt ↔ List.Lex (· < ·) ds es := by
  induction ds generalizing es with
  | nil => cases es <;> simp
  | cons d ds ih =>
    cases es with
    | nil => simp
    | cons e es =>
      rw [List.compare_cons_cons, Ordering.then_eq_lt, Nat.compare_eq_lt, Nat.compare_eq_eq, ih,
        List.cons_lex_cons_iff]

/-- Widenings are compared as they precede each other. -/
theorem compareWidenings_eq_lt_iff {ds es : List Nat} :
    compareWidenings ds es = .lt ↔ Precedes ds es := by
  rw [compareWidenings, compareLex, Ordering.then_eq_lt, compare_eq_lt_iff_lex, compareOn,
    Nat.compare_eq_lt, Nat.compare_eq_eq, Precedes]

theorem compareWidenings_eq_eq_iff {ds es : List Nat} :
    compareWidenings ds es = .eq ↔ ds = es := by
  rw [compareWidenings, compareLex, Ordering.then_eq_eq, compareOn, Nat.compare_eq_eq,
    Std.LawfulEqCmp.compare_eq_iff_eq]
  exact ⟨And.right, fun h ↦ ⟨congrArg distance h, h⟩⟩

instance : Std.TransCmp compareWidenings :=
  inferInstanceAs (Std.TransCmp (compareLex (compareOn distance) compare))

/-! ## All widenings are listed -/

/-- Going up in each list of names by a distance of its own comes to these names. -/
inductive Picks : List (List String) → List Nat → List String → Prop
  | nil : Picks [] [] []
  | cons {options : List String} {names : List (List String)} {d : Nat} {ds : List Nat}
      {name : String} {picked : List String} (h : options[d]? = some name)
      (hrest : Picks names ds picked) : Picks (options :: names) (d :: ds) (name :: picked)

theorem Picks.pickNames_eq {names : List (List String)} {ds : List Nat} {picked : List String}
    (h : Picks names ds picked) : pickNames names ds = picked := by
  induction h with
  | nil => rfl
  | cons h _ ih =>
    rw [pickNames] at ih ⊢
    simp only [List.zip_cons_cons, List.filterMap_cons, h, ih]

theorem mem_prolong_iff {chosen : List (List Nat)} {options : List String} {ds : List Nat} :
    ds ∈ prolong chosen options ↔ ∃ front ∈ chosen, ∃ d < options.length, ds = front ++ [d] := by
  simp only [prolong, List.mem_flatMap, List.mem_map, List.mem_range, eq_comm]

/-- A widening is what was chosen before and then a place in each of the lists. -/
theorem mem_foldl_prolong_iff {names : List (List String)} {chosen : List (List Nat)}
    {ds : List Nat} : ds ∈ names.foldl prolong chosen ↔
      ∃ front ∈ chosen, ∃ back picked, Picks names back picked ∧ ds = front ++ back := by
  induction names generalizing chosen with
  | nil =>
    rw [List.foldl_nil]
    constructor
    · intro hds
      exact ⟨ds, hds, [], [], .nil, (List.append_nil ds).symm⟩
    · rintro ⟨front, hfront, back, picked, hpicks, rfl⟩
      cases hpicks
      rwa [List.append_nil]
  | cons options names ih =>
    rw [List.foldl_cons, ih]
    constructor
    · rintro ⟨_, hmem, back, picked, hpicks, rfl⟩
      obtain ⟨front, hfront, d, hd, rfl⟩ := mem_prolong_iff.mp hmem
      refine ⟨front, hfront, d :: back, _, .cons (List.getElem?_eq_getElem hd) hpicks, ?_⟩
      rw [List.append_assoc, List.singleton_append]
    · rintro ⟨front, hfront, _, _, hpicks, rfl⟩
      cases hpicks with
      | @cons _ _ d back _ picked h hpicks =>
        obtain ⟨hd, -⟩ := List.getElem?_eq_some_iff.mp h
        refine ⟨front ++ [d], mem_prolong_iff.mpr ⟨front, hfront, d, hd, rfl⟩, back, picked,
          hpicks, ?_⟩
        rw [List.append_assoc, List.singleton_append]

theorem mem_combinations_iff {names : List (List String)} {ds : List Nat} :
    ds ∈ combinations names ↔ ∃ picked, Picks names ds picked := by
  refine mem_foldl_prolong_iff.trans ?_
  simp only [List.mem_singleton, exists_eq_left, List.nil_append]
  constructor
  · rintro ⟨_, picked, hpicks, rfl⟩
    exact ⟨picked, hpicks⟩
  · rintro ⟨picked, hpicks⟩
    exact ⟨ds, picked, hpicks, rfl⟩

theorem nodup_prolong {chosen : List (List Nat)} (h : chosen.Nodup) (options : List String) :
    (prolong chosen options).Nodup := by
  rw [prolong, List.Nodup, List.pairwise_flatMap]
  constructor
  · intro ds _
    refine List.pairwise_map.mpr (List.nodup_range.imp fun hne heq ↦ hne ?_)
    simpa using heq
  · refine h.imp fun {ds es} hne x hx y hy heq ↦ hne ?_
    obtain ⟨d, -, rfl⟩ := List.mem_map.mp hx
    obtain ⟨e, -, rfl⟩ := List.mem_map.mp hy
    exact List.append_inj_left' heq rfl

/-- **No widening is listed twice.** -/
theorem nodup_combinations (names : List (List String)) : (combinations names).Nodup :=
  List.foldlRecOn (motive := List.Nodup) names _ (by simp) fun _ h options _ ↦
    nodup_prolong h options

/-! ## Widenings in order -/

theorem mem_widenings_iff {names : List (List String)} {ds : List Nat} :
    ds ∈ widenings names ↔ ∃ picked, Picks names ds picked := by
  rw [widenings, List.mem_mergeSort, mem_combinations_iff]

/-- **Widenings are tried in order.** -/
theorem pairwise_widenings (names : List (List String)) : (widenings names).Pairwise Precedes := by
  have hsorted : (widenings names).Pairwise fun ds es ↦ (compareWidenings ds es).isLE = true :=
    List.pairwise_mergeSort (fun _ _ _ ↦ Std.TransCmp.isLE_trans)
      (fun ds es ↦ by
        rw [Bool.or_eq_true, ← Std.OrientedCmp.isGE_iff_isLE (a := ds)]
        cases compareWidenings ds es <;> decide) _
  have hnodup : (widenings names).Nodup :=
    (List.mergeSort_perm _ _).nodup_iff.mpr (nodup_combinations names)
  refine hsorted.imp₂ (fun ds es hle hne ↦ ?_) hnodup
  rw [← compareWidenings_eq_lt_iff]
  cases hcompare : compareWidenings ds es with
  | lt => rfl
  | eq => exact absurd (compareWidenings_eq_eq_iff.mp hcompare) hne
  | gt =>
    rw [hcompare] at hle
    cases hle

theorem Picks.eq_of_distance_eq_zero {names : List (List String)} {ds : List Nat}
    {picked : List String} (h : Picks names ds picked) (hzero : distance ds = 0) :
    ds = names.map fun _ ↦ 0 := by
  induction h with
  | nil => rfl
  | @cons options names d ds _ _ _ _ ih =>
    rw [distance] at hzero
    rw [List.map_cons, ih (by omega), Nat.eq_zero_of_add_eq_zero_right hzero]

theorem distance_map_zero (names : List (List String)) : distance (names.map fun _ ↦ 0) = 0 := by
  induction names with
  | nil => rfl
  | cons options names ih => rw [List.map_cons, distance, ih]

/-- The operands as they are. -/
theorem picks_heads {names : List (List String)} (h : ∀ options ∈ names, options ≠ []) :
    Picks names (names.map fun _ ↦ 0) (names.filterMap List.head?) := by
  induction names with
  | nil => exact .nil
  | cons options names ih =>
    obtain ⟨hne, hrest⟩ := List.forall_mem_cons.mp h
    obtain ⟨name, others, rfl⟩ := List.exists_cons_of_ne_nil hne
    exact .cons rfl (ih hrest)

/-- **The first widening leaves the operands as they are.** -/
theorem widenings_eq_cons {names : List (List String)} (h : ∀ options ∈ names, options ≠ []) :
    widenings names = (names.map fun _ ↦ 0) :: (widenings names).drop 1 := by
  have hmem : (names.map fun _ ↦ 0) ∈ widenings names := mem_widenings_iff.mpr ⟨_, picks_heads h⟩
  have hsorted := pairwise_widenings names
  cases hlist : widenings names with
  | nil =>
    rw [hlist] at hmem
    cases hmem
  | cons first rest =>
    rw [List.drop_one, List.tail_cons]
    obtain ⟨picked, hpicks⟩ := mem_widenings_iff.mp (hlist ▸ List.mem_cons_self)
    rw [hlist] at hmem hsorted
    -- nothing but itself comes before the widening that widens nothing
    have hzero : distance first = 0 := by
      rcases List.mem_cons.mp hmem with heq | hrest
      · rw [← heq, distance_map_zero]
      · have hprecedes := (List.pairwise_cons.mp hsorted).1 _ hrest
        rw [Precedes, distance_map_zero] at hprecedes
        omega
    rw [hpicks.eq_of_distance_eq_zero hzero]

/-- In a list in order, the first element with a result is the least one with a result. -/
theorem findSome?_eq_some_iff_least {α β : Type} {r : α → α → Prop} {l : List α}
    (hl : l.Pairwise r) (hr : ∀ a b, r a b → ¬r b a) {f : α → Option β} {result : β} :
    l.findSome? f = some result ↔ ∃ a ∈ l, f a = some result ∧
      ∀ b ∈ l, (f b).isSome = true → b = a ∨ r a b := by
  constructor
  · intro h
    obtain ⟨front, a, back, rfl, ha, hfront⟩ := List.findSome?_eq_some_iff.mp h
    refine ⟨a, List.mem_append_right _ List.mem_cons_self, ha, fun b hb hsome ↦ ?_⟩
    rw [List.mem_append, List.mem_cons] at hb
    rcases hb with hb | rfl | hb
    · rw [hfront b hb] at hsome
      cases hsome
    · exact Or.inl rfl
    · have hback := (List.pairwise_append.mp hl).2.1
      exact Or.inr ((List.pairwise_cons.mp hback).1 b hb)
  · rintro ⟨a, hmem, ha, hleast⟩
    obtain ⟨front, back, rfl⟩ := List.append_of_mem hmem
    refine List.findSome?_eq_some_iff.mpr ⟨front, a, back, rfl, ha, fun b hb ↦ ?_⟩
    -- a result in front of `a` would make its element smaller than `a`
    have hba : r b a := (List.pairwise_append.mp hl).2.2 b hb a List.mem_cons_self
    rw [← Option.not_isSome_iff_eq_none]
    intro hsome
    rcases hleast b (List.mem_append_left _ hb) hsome with rfl | hab
    · exact hr b b hba hba
    · exact hr b a hba hab

/-! ## The meaning of an operator -/

/-- The meaning of an operator for the least of all widenings that give it a meaning. -/
def OperatorTable.LeastMeaning (t : OperatorTable) (operator : String) (names : List (List String))
    (o : OperatorOverload) : Prop :=
  ∃ ds picked, Picks names ds picked ∧ t.lookup? operator picked = some o ∧
    ∀ es others, Picks names es others → (t.lookup? operator others).isSome = true →
      es = ds ∨ Precedes ds es

/-- An operator without any meaning has none for any operands. -/
theorem OperatorTable.lookup?_eq_none {t : OperatorTable} {operator : String}
    (h : (t.meanings operator).isEmpty = true) (operands : List String) :
    t.lookup? operator operands = none := by
  rw [lookup?, List.isEmpty_iff.mp h, List.find?_nil]

namespace TypeEnv

variable {env : TypeEnv} {operator : String} {operands : List Handle} {names : List (List String)}

/-- An operand has a name. -/
theorem operandNames_ne_nil {h : Handle} {options : List String}
    (hoptions : env.operandNames h = .ok options) : options ≠ [] := by
  obtain ⟨own, -, hoptions⟩ := bind_eq_ok.mp hoptions
  obtain ⟨c, -, hoptions⟩ := bind_eq_ok.mp hoptions
  cases c with
  | none =>
    cases hoptions
    simp
  | some c =>
    simp only at hoptions
    split at hoptions <;>
    · cases hoptions
      simp

/-- **All widenings are tried, and the shortcuts do not show.**  An operator without any meaning is
not looked up, and the operands as they are come before the widenings are sorted. -/
theorem resolveOperator?_eq (hnames : operands.mapM env.operandNames = .ok names) :
    env.resolveOperator? operator operands =
      .ok ((widenings names).findSome? fun ds ↦
        env.operators.lookup? operator (pickNames names ds)) := by
  rw [resolveOperator?]
  split
  · rename_i hempty
    have hnone : ∀ ds, env.operators.lookup? operator (pickNames names ds) = none := fun ds ↦
      OperatorTable.lookup?_eq_none hempty _
    simp only [hnone, List.findSome?_eq_none_iff.mpr fun _ _ ↦ rfl]
    rfl
  · have hne := forall_mem_of_mapM_eq_ok hnames fun _ _ ↦ operandNames_ne_nil
    rw [hnames, widenings_eq_cons hne, List.findSome?_cons, (picks_heads hne).pickNames_eq]
    simp only [bind, Except.bind]
    cases env.operators.lookup? operator (names.filterMap List.head?) <;> rfl

/-- **An operator has the meaning of the least widening that gives it one.** -/
theorem resolveOperator?_leastMeaning (env : TypeEnv) (operator : String) (operands : List Handle)
    (names : List (List String)) (hnames : operands.mapM env.operandNames = .ok names) :
    ∃ answer, env.resolveOperator? operator operands = .ok answer ∧
      (∀ o, answer = some o ↔ env.operators.LeastMeaning operator names o) ∧
      (answer = none ↔
        ∀ ds picked, Picks names ds picked → env.operators.lookup? operator picked = none) := by
  refine ⟨_, resolveOperator?_eq hnames, fun o ↦ ?_, ?_⟩
  · rw [findSome?_eq_some_iff_least (pairwise_widenings _) fun _ _ ↦ Precedes.asymm]
    simp only [mem_widenings_iff]
    constructor
    · rintro ⟨ds, ⟨picked, hpicked⟩, ho, hleast⟩
      rw [hpicked.pickNames_eq] at ho
      refine ⟨ds, picked, hpicked, ho, fun es others hothers hsome ↦ ?_⟩
      exact hleast es ⟨others, hothers⟩ (hothers.pickNames_eq ▸ hsome)
    · rintro ⟨ds, picked, hpicked, ho, hleast⟩
      refine ⟨ds, ⟨picked, hpicked⟩, hpicked.pickNames_eq ▸ ho, ?_⟩
      rintro es ⟨others, hothers⟩ hsome
      exact hleast es others hothers (hothers.pickNames_eq ▸ hsome)
  · rw [List.findSome?_eq_none_iff]
    simp only [mem_widenings_iff]
    constructor
    · intro h ds picked hpicked
      rw [← h ds ⟨picked, hpicked⟩, hpicked.pickNames_eq]
    · rintro h ds ⟨picked, hpicked⟩
      rw [hpicked.pickNames_eq]
      exact h ds picked hpicked

/-- Addition of a class and its parent, in both orders, and of the parent alone. -/
def crossed : TypeEnv :=
  (TypeEnv.new { withBuiltins := false }).run
    [.declareNamed (.classType { name := "a" }) ⟨1, 1, 0⟩,
      .declareNamed (.classType { name := "b", parent := some "A" }) ⟨2, 1, 0⟩,
      .editOperators fun t ↦ (t.register ⟨"+", ["a", "a"], "both", none, none, false⟩).2,
      .editOperators fun t ↦ (t.register ⟨"+", ["a", "b"], "left", none, none, false⟩).2,
      .editOperators fun t ↦ (t.register ⟨"+", ["b", "a"], "right", none, none, false⟩).2]

/-- For two operands of the class, it is the second one that is widened. -/
theorem resolveOperator?_crossed :
    [⟨8⟩, ⟨8⟩].mapM crossed.operandNames = .ok [["b", "a"], ["b", "a"]] ∧
      crossed.resolveOperator? "+" [⟨8⟩, ⟨8⟩] =
        .ok (some ⟨"+", ["b", "a"], "right", none, none, false⟩) ∧
      crossed.operators.LeastMeaning "+" [["b", "a"], ["b", "a"]]
        ⟨"+", ["b", "a"], "right", none, none, false⟩ := by
  have hnames : [⟨8⟩, ⟨8⟩].mapM crossed.operandNames = .ok [["b", "a"], ["b", "a"]] := rfl
  have hwidenings : widenings [["b", "a"], ["b", "a"]] = [[0, 0], [0, 1], [1, 0], [1, 1]] :=
    List.mergeSort_of_pairwise (by decide)
  have hanswer : crossed.resolveOperator? "+" [⟨8⟩, ⟨8⟩] =
      .ok (some ⟨"+", ["b", "a"], "right", none, none, false⟩) := by
    rw [resolveOperator?_eq hnames, hwidenings]
    rfl
  obtain ⟨answer, heq, hsome, -⟩ := resolveOperator?_leastMeaning crossed "+" _ _ hnames
  cases hanswer.symm.trans heq
  exact ⟨hnames, hanswer, (hsome _).mp rfl⟩

end TypeEnv

end PascalTypes
