import PascalTypes.Proofs.ClassChains
import PascalTypes.Proofs.OperatorWidening
import PascalTypes.Proofs.WellFormed

/-!
# Operands behind aliases

Operators are looked up by the names of their operands.  A class operand has the names of the class
and its ancestors, also behind an alias.  Any other operand has its text as its only name, and the
text of an alias is the name of the alias.  The same goes for a class that is not in the tree, or
whose ancestors run into a cycle.

`TypeEnv.SeenThrough` are the operands for which an alias makes no difference.  Either the aliases
lead to a class that has a chain, or the alias is spelled like the type behind it.
`resolveOperator?_seenThrough` says that an operator has the same meaning for such operands as for
what stands behind them, and that there are no others.  Any other alias loses an operator that the
type behind it has.
-/

set_option autoImplicit false

namespace PascalTypes

/-! ## Names in other spellings -/

/-- What is picked does not depend on what the names are. -/
theorem pickNames_map (f : String → String) (names : List (List String)) (ds : List Nat) :
    (pickNames names ds).map f = pickNames (names.map (List.map f)) ds := by
  rw [pickNames, pickNames, List.map_filterMap, List.zip_map_left, List.filterMap_map]
  congr 1
  funext p
  exact List.getElem?_map.symm

/-- How operands are widened does not depend on what the names are either. -/
theorem widenings_congr {names names' : List (List String)}
    (h : names.map List.length = names'.map List.length) : widenings names = widenings names' := by
  have hcounts : ∀ names : List (List String), combinations names =
      (names.map List.length).foldl (fun chosen count ↦
        chosen.flatMap fun ds ↦ (List.range count).map fun d ↦ ds ++ [d]) [[]] := by
    intro names
    rw [List.foldl_map]
    rfl
  rw [widenings, widenings, hcounts, hcounts, h]

/-- Operators do not tell upper case from lower case. -/
theorem OperatorTable.lookup?_congr (t : OperatorTable) (operator : String)
    {operands operands' : List String} (h : operands.map Text.lower = operands'.map Text.lower) :
    t.lookup? operator operands = t.lookup? operator operands' := by
  rw [lookup?, lookup?, signatureKey, signatureKey, h]

/-- A table of one operator that is found for operands of one type only. -/
theorem OperatorTable.exists_lookup?_only (operator name : String) : ∃ o : OperatorOverload,
    ∀ operand, OperatorTable.lookup? ⟨[o]⟩ operator [operand] =
      if Text.lower name = Text.lower operand then some o else none := by
  refine ⟨{ operator := operator, operands := [name], binding := "" }, fun operand ↦ ?_⟩
  by_cases h : Text.lower name = Text.lower operand <;>
    simp [lookup?, meanings, OperatorOverload.signature, signatureKey, h]

/-- A class that has a chain stands in it. -/
theorem ClassTree.hierarchy?_ne_nil {α : Type} (t : ClassTree α) (name : String) :
    t.hierarchy? name ≠ some [] := by
  intro h
  obtain ⟨l, hl, hnil⟩ := Option.map_eq_some_iff.mp h
  rw [List.map_eq_nil_iff.mp hnil] at hl
  exact t.chain?_ne_nil name hl

namespace TypeEnv

variable {env : TypeEnv} {h u : Handle} {x : Shape} {operator text : String}
  {operands operands' : List Handle} {names names' : List (List String)}

theorem resolveOperator?_congr (hnames : operands.mapM env.operandNames = .ok names)
    (hnames' : operands'.mapM env.operandNames = .ok names')
    (h : names.map (List.map Text.lower) = names'.map (List.map Text.lower)) :
    env.resolveOperator? operator operands = env.resolveOperator? operator operands' := by
  have hcounts : names.map List.length = names'.map List.length := by
    simpa [Function.comp_def] using congrArg (List.map List.length) h
  have hlookup : ∀ ds, env.operators.lookup? operator (pickNames names ds) =
      env.operators.lookup? operator (pickNames names' ds) := by
    intro ds
    apply OperatorTable.lookup?_congr
    rw [pickNames_map, pickNames_map, h]
  rw [resolveOperator?_eq hnames, resolveOperator?_eq hnames', widenings_congr hcounts]
  simp only [hlookup]

/-! ## The names of an operand -/

/-- The names of a class and its ancestors, if the class has a chain. -/
def ancestorNames? (env : TypeEnv) (x : Shape) : Option (List String) :=
  x.class?.bind fun c ↦ (env.classes.hierarchy? c.name).map (List.map ClassRef.name)

/-- An operand has the names of its class, or else its text. -/
theorem operandNames_eq (hl : env.store.Lands h u x) (ht : env.store.display h = .ok text) :
    env.operandNames h = .ok ((env.ancestorNames? x).getD [text]) := by
  rw [operandNames, ht, hl.class?, ancestorNames?]
  cases x.class? with
  | none => rfl
  | some c =>
    simp only [bind, Except.bind, Option.bind_some]
    cases hh : env.classes.hierarchy? c.name with
    | none => rfl
    | some refs =>
      cases refs with
      | nil => exact absurd hh (env.classes.hierarchy?_ne_nil c.name)
      | cons r refs => rfl

/-- An operand for which aliases make no difference: they lead to a class that has a chain, or they
are spelled like the type that they lead to. -/
def SeenThrough (env : TypeEnv) (h : Handle) : Prop :=
  (∃ c l, env.store.class? h = .ok (some c) ∧ env.classes.chain? c.name = some l) ∨
    ∃ u text text', env.store.underlying h = .ok u ∧ env.store.display h = .ok text ∧
      env.store.display u = .ok text' ∧ Text.lower text = Text.lower text'

theorem SeenThrough.of_not_alias (hs : env.store.WellFormed) (hx : env.store.shape h = .ok x)
    (hk : x.kind ≠ .aliasType) : env.SeenThrough h := by
  obtain ⟨text, ht⟩ := hs.exists_display (TypeStore.contains_of_shape hx)
  exact .inr ⟨h, text, text, (TypeStore.lands_self hx hk).underlying, ht, ht, rfl⟩

theorem ancestorNames?_isSome_iff (hl : env.store.Lands h u x) :
    (env.ancestorNames? x).isSome = true ↔
      ∃ c l, env.store.class? h = .ok (some c) ∧ env.classes.chain? c.name = some l := by
  simp only [ancestorNames?, hl.class?, ClassTree.hierarchy?, Option.isSome_iff_exists,
    Option.bind_eq_some_iff, Option.map_eq_some_iff, Except.ok.injEq]
  constructor
  · rintro ⟨names, c, hc, refs, ⟨l, hl, -⟩, -⟩
    exact ⟨c, l, hc, hl⟩
  · rintro ⟨c, l, hc, hl⟩
    exact ⟨_, c, hc, _, ⟨l, hl, rfl⟩, rfl⟩

/-- The names of an operand and of what it is an alias of.  They are the same up to spelling, or the
text of the alias is the one and the text of the type behind it is the other. -/
theorem operandNames_underlying (hs : env.store.WellFormed) (hc : env.store.contains h = true) :
    ∃ u own bare, env.store.underlying h = .ok u ∧ env.operandNames h = .ok own ∧
      env.operandNames u = .ok bare ∧
      (env.SeenThrough h → own.map Text.lower = bare.map Text.lower) ∧
      (¬env.SeenThrough h → ∃ text text', own = [text] ∧ bare = [text'] ∧
        Text.lower text ≠ Text.lower text') := by
  obtain ⟨u, x, hl⟩ := hs.exists_lands hc
  obtain ⟨text, ht⟩ := hs.exists_display hc
  obtain ⟨text', ht'⟩ := hs.exists_display (TypeStore.contains_of_shape hl.shape)
  refine ⟨u, _, _, hl.underlying, operandNames_eq hl ht, operandNames_eq hl.self ht', ?_, ?_⟩
  · intro hseen
    cases hnames : env.ancestorNames? x with
    | some names => rfl
    | none =>
      rcases hseen with hclass | ⟨v, _, _, hv, hown, hbare, heq⟩
      · rw [← ancestorNames?_isSome_iff hl, hnames] at hclass
        cases hclass
      · cases hl.underlying.symm.trans hv
        cases ht.symm.trans hown
        cases ht'.symm.trans hbare
        rw [Option.getD_none, Option.getD_none, List.map_singleton, List.map_singleton, heq]
  · intro hseen
    have hnames : env.ancestorNames? x = none := by
      rw [← Option.not_isSome_iff_eq_none, ancestorNames?_isSome_iff hl]
      exact fun hclass ↦ hseen (.inl hclass)
    refine ⟨text, text', by rw [hnames]; rfl, by rw [hnames]; rfl, fun heq ↦ hseen ?_⟩
    exact .inr ⟨u, text, text', hl.underlying, ht, ht', heq⟩

/-! ## Operators behind aliases -/

theorem mapM_operandNames_underlying (hs : env.store.WellFormed)
    (hc : ∀ h ∈ operands, env.store.contains h = true) :
    ∃ places names bare, operands.mapM env.store.underlying = .ok places ∧
      operands.mapM env.operandNames = .ok names ∧ places.mapM env.operandNames = .ok bare ∧
      ((∀ h ∈ operands, env.SeenThrough h) →
        names.map (List.map Text.lower) = bare.map (List.map Text.lower)) := by
  induction operands with
  | nil => exact ⟨[], [], [], rfl, rfl, rfl, fun _ ↦ rfl⟩
  | cons h operands ih =>
    obtain ⟨u, own, bare, hu, hown, hbare, hsame, -⟩ :=
      operandNames_underlying hs (hc h List.mem_cons_self)
    obtain ⟨places, names, bares, hplaces, hnames, hbares, hall⟩ :=
      ih fun k hk ↦ hc k (List.mem_cons_of_mem _ hk)
    refine ⟨u :: places, own :: names, bare :: bares, ?_, ?_, ?_, fun hseen ↦ ?_⟩
    · rw [List.mapM_cons, hu, hplaces]
      rfl
    · rw [List.mapM_cons, hown, hnames]
      rfl
    · rw [List.mapM_cons, hbare, hbares]
      rfl
    · rw [List.map_cons, List.map_cons, hsame (hseen h List.mem_cons_self),
        hall fun k hk ↦ hseen k (List.mem_cons_of_mem _ hk)]

/-- An operand with one name is not widened. -/
theorem resolveOperator?_singleton (hname : env.operandNames h = .ok [text]) :
    env.resolveOperator? operator [h] = .ok (env.operators.lookup? operator [text]) := by
  have hnames : [h].mapM env.operandNames = .ok [[text]] := by
    rw [List.mapM_cons, hname]
    rfl
  have hwidenings : widenings [[text]] = [[0]] := List.mergeSort_singleton _
  rw [resolveOperator?_eq hnames, hwidenings, List.findSome?_singleton]
  rfl

/-- **An operator means the same for an alias as for the type behind it if the alias is seen
through**, and any other alias loses an operator. -/
theorem resolveOperator?_seenThrough (hs : env.store.WellFormed) :
    (∀ h x, env.store.shape h = .ok x → x.kind ≠ .aliasType → env.SeenThrough h) ∧
    (∀ operator operands, (∀ h ∈ operands, env.store.contains h = true) →
      ∃ places answer bare, operands.mapM env.store.underlying = .ok places ∧
        env.resolveOperator? operator operands = .ok answer ∧
        env.resolveOperator? operator places = .ok bare ∧
        ((∀ h ∈ operands, env.SeenThrough h) → answer = bare)) ∧
    (∀ operator h, env.store.contains h = true → ¬env.SeenThrough h →
      ∃ u o, env.store.underlying h = .ok u ∧
        { env with operators := ⟨[o]⟩ }.resolveOperator? operator [u] = .ok (some o) ∧
        { env with operators := ⟨[o]⟩ }.resolveOperator? operator [h] = .ok none) := by
  refine ⟨fun h x ↦ .of_not_alias hs, fun operator operands hc ↦ ?_, fun operator h hc hseen ↦ ?_⟩
  · obtain ⟨places, names, bare, hplaces, hnames, hbare, hsame⟩ :=
      mapM_operandNames_underlying hs hc
    refine ⟨places, _, _, hplaces, resolveOperator?_eq hnames, resolveOperator?_eq hbare, ?_⟩
    intro hseen
    have heq : env.resolveOperator? operator operands = env.resolveOperator? operator places :=
      resolveOperator?_congr hnames hbare (hsame hseen)
    rw [resolveOperator?_eq hnames, resolveOperator?_eq hbare] at heq
    exact Except.ok.inj heq
  · obtain ⟨u, own, bare, hu, hown, hbare, -, hopaque⟩ := operandNames_underlying hs hc
    obtain ⟨text, text', rfl, rfl, hne⟩ := hopaque hseen
    obtain ⟨o, ho⟩ := OperatorTable.exists_lookup?_only operator text'
    have hown' : { env with operators := ⟨[o]⟩ }.operandNames h = .ok [text] := hown
    have hbare' : { env with operators := ⟨[o]⟩ }.operandNames u = .ok [text'] := hbare
    refine ⟨u, o, hu, ?_, ?_⟩
    · rw [resolveOperator?_singleton hbare', ho, if_pos rfl]
    · rw [resolveOperator?_singleton hown', ho, if_neg (Ne.symm hne)]

/-- A class and its parent, a class that is not in the tree and an alias for each kind of type, with
an addition for all but the aliases. -/
def spareNames : TypeEnv :=
  (TypeEnv.new {}).run
    [.declareNamed (.classType { name := "TPet" }) ⟨1, 1, 0⟩,
      .declareNamed (.classType { name := "TDog", parent := some "TPet" }) ⟨2, 1, 0⟩,
      .declareNamed (.aliasType ⟨"TPup", ⟨9⟩⟩) ⟨3, 1, 0⟩,
      .push (.classType { name := "TPoint" }),
      .declareNamed (.aliasType ⟨"TSpot", ⟨11⟩⟩) ⟨4, 1, 0⟩,
      .declareNamed (.aliasType ⟨"TCount", ⟨0⟩⟩) ⟨5, 1, 0⟩,
      .editOperators fun t ↦ (t.register ⟨"+", ["TPet", "TPet"], "pets", none, none, false⟩).2,
      .editOperators fun t ↦
        (t.register ⟨"+", ["TPoint", "TPoint"], "points", none, none, false⟩).2,
      .editOperators fun t ↦
        (t.register ⟨"+", ["Integer", "Integer"], "sum", none, none, false⟩).2]

/-- Two points and two integers can be added, but not under their other names. -/
theorem resolveOperator?_spareNames : spareNames.store.WellFormed ∧
    [⟨12⟩, ⟨12⟩].mapM spareNames.store.underlying = .ok [⟨11⟩, ⟨11⟩] ∧
    spareNames.resolveOperator? "+" [⟨11⟩, ⟨11⟩] =
      .ok (some ⟨"+", ["TPoint", "TPoint"], "points", none, none, false⟩) ∧
    spareNames.resolveOperator? "+" [⟨12⟩, ⟨12⟩] = .ok none ∧
    [⟨13⟩, ⟨13⟩].mapM spareNames.store.underlying = .ok [⟨0⟩, ⟨0⟩] ∧
    spareNames.resolveOperator? "+" [⟨0⟩, ⟨0⟩] =
      .ok (some ⟨"+", ["Integer", "Integer"], "sum", none, none, false⟩) ∧
    spareNames.resolveOperator? "+" [⟨13⟩, ⟨13⟩] = .ok none := by
  have hwidenings (a b : String) : widenings [[a], [b]] = [[0, 0]] := List.mergeSort_singleton _
  have hspots : [⟨12⟩, ⟨12⟩].mapM spareNames.operandNames = .ok [["TSpot"], ["TSpot"]] := rfl
  have hcounts : [⟨13⟩, ⟨13⟩].mapM spareNames.operandNames = .ok [["TCount"], ["TCount"]] := rfl
  refine ⟨by decide, rfl, rfl, ?_, rfl, rfl, ?_⟩
  · rw [resolveOperator?_eq hspots, hwidenings]
    rfl
  · rw [resolveOperator?_eq hcounts, hwidenings]
    rfl

/-- The alias of a class in the tree is seen through, that of an integer is not. -/
theorem seenThrough_spareNames : spareNames.store.WellFormed ∧
    spareNames.SeenThrough ⟨10⟩ ∧ ¬spareNames.SeenThrough ⟨13⟩ ∧
    spareNames.resolveOperator? "+" [⟨10⟩, ⟨9⟩] =
      .ok (some ⟨"+", ["TPet", "TPet"], "pets", none, none, false⟩) ∧
    ∃ o, { spareNames with operators := ⟨[o]⟩ }.resolveOperator? "-" [⟨0⟩] = .ok (some o) ∧
      { spareNames with operators := ⟨[o]⟩ }.resolveOperator? "-" [⟨13⟩] = .ok none := by
  have hs : spareNames.store.WellFormed := by decide
  have hpup : spareNames.SeenThrough ⟨10⟩ := .inl ⟨_, _, rfl, rfl⟩
  have hcount : ¬spareNames.SeenThrough ⟨13⟩ := by
    rintro (⟨c, l, hc, -⟩ | ⟨u, text, text', hu, ht, ht', heq⟩)
    · cases hc
    · cases hu
      cases ht
      cases ht'
      exact absurd heq (by decide)
  obtain ⟨hplain, hsame, hdiffers⟩ := resolveOperator?_seenThrough hs
  have hdog : spareNames.SeenThrough ⟨9⟩ := hplain ⟨9⟩ _ rfl (by decide)
  obtain ⟨places, answer, bare, hplaces, hanswer, hbare, heq⟩ :=
    hsame "+" [⟨10⟩, ⟨9⟩] (by decide)
  obtain ⟨u, o, hu, ho, hnone⟩ := hdiffers "-" ⟨13⟩ (by decide) hcount
  have hnames : [⟨9⟩, ⟨9⟩].mapM spareNames.operandNames =
      .ok [["TDog", "TPet"], ["TDog", "TPet"]] := rfl
  have hwidenings : widenings [["TDog", "TPet"], ["TDog", "TPet"]] =
      [[0, 0], [0, 1], [1, 0], [1, 1]] := List.mergeSort_of_pairwise (by decide)
  have hpets : spareNames.resolveOperator? "+" [⟨9⟩, ⟨9⟩] =
      .ok (some ⟨"+", ["TPet", "TPet"], "pets", none, none, false⟩) := by
    rw [resolveOperator?_eq hnames, hwidenings]
    rfl
  cases hplaces
  cases hpets.symm.trans hbare
  cases hu
  rw [heq (by simp [hpup, hdog])] at hanswer
  exact ⟨hs, hpup, hcount, hanswer, o, ho, hnone⟩

end TypeEnv

end PascalTypes
