import PascalTypes.Proofs.InterfaceChains
import PascalTypes.Proofs.Unfolding
import PascalTypes.TypeEnv.Assignment

/-!
# The rules of assignment as a table

`TypeEnv.assignRule?` looks at two types through their handles, their shapes and their kinds, and
asks one question after the other.  Here the same rules stand as a table.  `TypeEnv.Allows` says for
each rule on its own when it lets one type go into another, and it sees nothing of the types but
their trees.  `AssignRule.builtIn` is the order of the rules.

`assignRule?_eq` is the result: the answer of `assignRule?` is the first rule of the table that
allows the assignment.  Only if there is none, a conversion is looked for, which goes by the texts
of the types and is not part of the table.

So whatever holds of the rules can be shown with trees, and no handle comes into it.
-/

set_option autoImplicit false

namespace PascalTypes

/-! ## Trees of classes and interfaces -/

namespace Unfolding

/-- The kind of a tree. -/
def kind : Unfolding → Kind
  | primitive k | nominal k _ | pointer k _ _ => k
  | variant _ => .variant
  | array _ _ => .array
  | subrange _ _ => .subrange
  | metaclass _ => .metaclass

/-- The tree of a class. -/
def ofClass (name : String) : Unfolding :=
  nominal .classType (.of name)

/-- The tree of an interface. -/
def ofInterface (name : String) : Unfolding :=
  nominal .interfaceType (.of name)

theorem ofClass_inj {a b : String} : ofClass a = ofClass b ↔ sameName a b = true := by
  rw [ofClass, ofClass, nominal.injEq, NameKey.of_eq_of_iff, and_iff_right rfl]

theorem ofInterface_inj {a b : String} : ofInterface a = ofInterface b ↔ sameName a b = true := by
  rw [ofInterface, ofInterface, nominal.injEq, NameKey.of_eq_of_iff, and_iff_right rfl]

end Unfolding

namespace Shape

variable {x : Shape} {place : Handle} {tree : Handle → Unfolding}

theorem kind_unfold (hx : x.kind ≠ .aliasType) : (x.unfold place tree).kind = x.kind := by
  cases x with
  | aliasType a => exact absurd rfl hx
  | _ => rfl

/-- Only classes have the tree of a class. -/
theorem unfold_eq_ofClass_iff (hx : x.kind ≠ .aliasType) {name : String} :
    x.unfold place tree = .ofClass name ↔ ∃ c, x.class? = some c ∧ sameName c.name name = true := by
  cases x with
  | aliasType a => exact absurd rfl hx
  | classType c =>
    change Unfolding.ofClass c.name = .ofClass name ↔ _
    rw [Unfolding.ofClass_inj]
    simp [class?]
  | _ => simp [unfold, Unfolding.ofClass, class?]

theorem signature?_eq_some {f : Signature} (h : x.signature? = some f) :
    x.kind.isPointer = true ∧ x.parts = f.parts := by
  cases x with
  | functionPointer g | methodPointer g =>
    cases h
    exact ⟨rfl, rfl⟩
  | _ => cases h

theorem signature?_eq_none (h : x.signature? = none) : x.kind.isPointer = false := by
  cases x with
  | functionPointer g | methodPointer g => cases h
  | _ => rfl

end Shape

theorem TypeStore.Lands.kind_unfolding {s : TypeStore} {h u : Handle} {x : Shape}
    (hl : s.Lands h u x) (hs : s.WellFormed) : (s.unfolding h).kind = x.kind := by
  rw [hl.unfolding_eq hs, Shape.kind_unfold hl.not_alias]

/-! ## The table -/

namespace AssignRule

/-- The rules that lead from a type to one that is above it. -/
def upcasts : List AssignRule :=
  [classUpcast, metaclassUpcast, classToMetaclass, interfaceImplementation, interfaceUpcast]

theorem mem_upcasts_iff {rule : AssignRule} : rule ∈ upcasts ↔ rule = classUpcast ∨
    rule = metaclassUpcast ∨ rule = classToMetaclass ∨ rule = interfaceImplementation ∨
      rule = interfaceUpcast := by
  simp [upcasts]

/-- The rules that lead to the same type or upwards. -/
def upward : List AssignRule :=
  identical :: upcasts

/-- The rules that look into the shapes. -/
def shapeRules : List AssignRule :=
  upcasts ++ ([subrangeToBase] ++ [baseToSubrange])

/-- The last rules that only look at the kinds. -/
def kindRules : List AssignRule :=
  [variantBoxing, variantUnboxing, enumToInteger]

/-- All rules but that of conversions, in the order in which they are tried. -/
def builtIn : List AssignRule :=
  [identical] ++ ([numericWidening] ++ ([nil] ++ (shapeRules ++ (kindRules ++
    [pointerCompatible]))))

/-- The one rule that can lead upwards between types of these kinds. -/
def upcastFor? : Kind → Kind → Option AssignRule
  | .classType, .classType => some classUpcast
  | .metaclass, .metaclass => some metaclassUpcast
  | .classType, .metaclass => some classToMetaclass
  | .classType, .interfaceType => some interfaceImplementation
  | .interfaceType, .interfaceType => some interfaceUpcast
  | _, _ => none

theorem mem_upcasts_of_upcastFor? {k l : Kind} {rule : AssignRule}
    (h : upcastFor? k l = some rule) : rule ∈ upcasts := by
  unfold upcastFor? at h
  split at h <;> cases h <;> decide

/-- Kinds that leave room for an upcast leave none for the rules around the upcasts. -/
theorem kinds_of_upcastFor? {k l : Kind} {rule : AssignRule} (h : upcastFor? k l = some rule) :
    k ≠ .integer ∧ isNilPair k l = false ∧ k ≠ .subrange ∧ l ≠ .subrange := by
  unfold upcastFor? at h
  split at h <;> cases h <;> decide

end AssignRule

namespace TypeEnv

/-- A class is another one or inherits from it. -/
def ClassBelow (env : TypeEnv) (t u : Unfolding) : Prop :=
  ∃ a b, t = .ofClass a ∧ u = .ofClass b ∧ env.classes.AtOrBelow a b

/-- When a rule lets a type go into another one. -/
def Allows (env : TypeEnv) (t u : Unfolding) : AssignRule → Prop
  | .identical => t = u
  | .numericWidening => t.kind = .integer ∧ u.kind = .float
  | .nil => isNilPair t.kind u.kind = true
  | .classUpcast => env.ClassBelow t u
  | .metaclassUpcast => ∃ t' u', t = .metaclass t' ∧ u = .metaclass u' ∧ env.ClassBelow t' u'
  | .classToMetaclass => ∃ u', u = .metaclass u' ∧ env.ClassBelow t u'
  | .interfaceImplementation => ∃ c i, t = .ofClass c ∧ u = .ofInterface i ∧ env.Implements c i
  | .interfaceUpcast => ∃ i j, t = .ofInterface i ∧ u = .ofInterface j ∧ env.Reaches j i
  | .subrangeToBase => ∃ range, t = .subrange range u
  | .baseToSubrange => ∃ range, u = .subrange range t
  | .variantBoxing => u.kind = .variant
  | .variantUnboxing => t.kind = .variant
  | .enumToInteger => t.kind = .enumType ∧ u.kind = .integer
  | .pointerCompatible => t.kind.isPointer = true ∧ u.kind.isPointer = true ∧ t.parts = u.parts
  | .implicitConversion => False

open Classical in
/-- The first rule of a list that allows the assignment. -/
noncomputable def firstAllowed (env : TypeEnv) (t u : Unfolding) (rules : List AssignRule) :
    Option AssignRule :=
  rules.find? fun rule ↦ decide (env.Allows t u rule)

variable {env : TypeEnv} {t u : Unfolding} {rule : AssignRule} {rules : List AssignRule}

theorem firstAllowed_append (rest : List AssignRule) : env.firstAllowed t u (rules ++ rest) =
    (env.firstAllowed t u rules).or (env.firstAllowed t u rest) :=
  List.find?_append

theorem firstAllowed_eq_none_iff :
    env.firstAllowed t u rules = none ↔ ∀ rule ∈ rules, ¬env.Allows t u rule := by
  simp [firstAllowed]

theorem allows_of_firstAllowed (h : env.firstAllowed t u rules = some rule) :
    env.Allows t u rule := by
  simpa using List.find?_some h

theorem mem_of_firstAllowed (h : env.firstAllowed t u rules = some rule) : rule ∈ rules :=
  List.mem_of_find?_eq_some h

theorem firstAllowed_singleton_of_not (h : ¬env.Allows t u rule) :
    env.firstAllowed t u [rule] = none :=
  firstAllowed_eq_none_iff.mpr fun _ hq ↦ List.mem_singleton.mp hq ▸ h

theorem firstAllowed_singleton (h : env.Allows t u rule) :
    env.firstAllowed t u [rule] = some rule := by
  simp [firstAllowed, h]

/-- The rule that was found, or else the answer to a further question. -/
def orAsk (found : Option AssignRule) (ask : Except Fault (Option AssignRule)) :
    Except Fault (Option AssignRule) :=
  match found with
  | some rule => .ok (some rule)
  | none => ask

/-- The rule of conversions, which never lead to pointers. -/
def conversionRule? (env : TypeEnv) (source target : Handle) : Except Fault (Option AssignRule) :=
  if (env.store.unfolding target).kind.isPointer then .ok none
  else ruleIf .implicitConversion (env.hasConversion source target)

theorem orAsk_append (rest : List AssignRule) (ask : Except Fault (Option AssignRule)) :
    orAsk (env.firstAllowed t u (rules ++ rest)) ask =
      orAsk (env.firstAllowed t u rules) (orAsk (env.firstAllowed t u rest) ask) := by
  rw [firstAllowed_append]
  cases env.firstAllowed t u rules <;> rfl

/-- Trying one rule before all else. -/
theorem ite_eq_orAsk {c : Prop} [Decidable c] (h : c ↔ env.Allows t u rule)
    (ask : Except Fault (Option AssignRule)) :
    (if c then .ok (some rule) else ask) = orAsk (env.firstAllowed t u [rule]) ask := by
  split
  · rename_i hc
    rw [firstAllowed_singleton (h.mp hc)]
    rfl
  · rename_i hc
    rw [firstAllowed_singleton_of_not fun ha ↦ hc (h.mpr ha)]
    rfl

/-! ## Upcasts exclude each other -/

theorem ClassBelow.kind (h : env.ClassBelow t u) : t.kind = .classType ∧ u.kind = .classType := by
  obtain ⟨a, b, rfl, rfl, -⟩ := h
  exact ⟨rfl, rfl⟩

/-- The kinds of two types leave room for one upcast at most. -/
theorem upcastFor?_of_allows (h : env.Allows t u rule) (hr : rule ∈ AssignRule.upcasts) :
    AssignRule.upcastFor? t.kind u.kind = some rule := by
  rcases AssignRule.mem_upcasts_iff.mp hr with rfl | rfl | rfl | rfl | rfl
  · have hk := ClassBelow.kind h
    rw [hk.1, hk.2]
    rfl
  · obtain ⟨t', u', rfl, rfl, -⟩ := h
    rfl
  · obtain ⟨u', rfl, hb⟩ := h
    rw [hb.kind.1]
    rfl
  · obtain ⟨c, i, rfl, rfl, -⟩ := h
    rfl
  · obtain ⟨i, j, rfl, rfl, -⟩ := h
    rfl

theorem firstAllowed_upcasts_of_none (h : AssignRule.upcastFor? t.kind u.kind = none) :
    env.firstAllowed t u AssignRule.upcasts = none := by
  refine firstAllowed_eq_none_iff.mpr fun rule hr ha ↦ ?_
  exact nomatch h.symm.trans (upcastFor?_of_allows ha hr)

theorem firstAllowed_upcasts (h : AssignRule.upcastFor? t.kind u.kind = some rule) :
    env.firstAllowed t u AssignRule.upcasts = env.firstAllowed t u [rule] := by
  by_cases ha : env.Allows t u rule
  · rw [firstAllowed_singleton ha]
    cases hf : env.firstAllowed t u AssignRule.upcasts with
    | none =>
      have hr := AssignRule.mem_upcasts_of_upcastFor? h
      exact absurd ha (firstAllowed_eq_none_iff.mp hf rule hr)
    | some q =>
      have hq := upcastFor?_of_allows (allows_of_firstAllowed hf) (mem_of_firstAllowed hf)
      exact hq.symm.trans h
  · rw [firstAllowed_singleton_of_not ha, firstAllowed_eq_none_iff]
    intro q hq hqa
    cases h.symm.trans (upcastFor?_of_allows hqa hq)
    exact ha hqa

theorem not_subrangeToBase (h : t.kind ≠ .subrange) : ¬env.Allows t u .subrangeToBase := by
  rintro ⟨range, rfl⟩
  exact h rfl

theorem not_baseToSubrange (h : u.kind ≠ .subrange) : ¬env.Allows t u .baseToSubrange := by
  rintro ⟨range, rfl⟩
  exact h rfl

/-- Upcasts and the rules about subranges are about different kinds. -/
theorem firstAllowed_shapeRules_of_upcast
    (h : AssignRule.upcastFor? t.kind u.kind = some rule) :
    env.firstAllowed t u AssignRule.shapeRules = env.firstAllowed t u [rule] := by
  obtain ⟨-, -, ht, hu⟩ := AssignRule.kinds_of_upcastFor? h
  rw [AssignRule.shapeRules, firstAllowed_append, firstAllowed_append, firstAllowed_upcasts h,
    firstAllowed_singleton_of_not (not_subrangeToBase ht),
    firstAllowed_singleton_of_not (not_baseToSubrange hu), Option.or_none, Option.or_none]

theorem firstAllowed_shapeRules_of_none (h : AssignRule.upcastFor? t.kind u.kind = none) :
    env.firstAllowed t u AssignRule.shapeRules =
      (env.firstAllowed t u [.subrangeToBase]).or (env.firstAllowed t u [.baseToSubrange]) := by
  rw [AssignRule.shapeRules, firstAllowed_append, firstAllowed_append,
    firstAllowed_upcasts_of_none h, Option.none_or]

/-! ## Each question is that of its rule

`assignRule?` asks about handles and names.  For the shapes that a question is asked for, it is the
question whether its rule allows the assignment, and there is an answer. -/

variable {a b p q : Handle} {x y : Shape} {ask : Except Fault Bool}

theorem ruleIf_eq (h : Decides ask (env.Allows t u rule)) :
    ruleIf rule ask = .ok (env.firstAllowed t u [rule]) := by
  obtain ⟨yes, rfl, hyes⟩ := h
  cases yes with
  | true => rw [firstAllowed_singleton (hyes.mp rfl)]; rfl
  | false =>
    rw [firstAllowed_singleton_of_not fun ha ↦ Bool.false_ne_true (hyes.mpr ha)]
    rfl

theorem classDescends_decides (ha : env.Anchored) (hs : env.store.WellFormed)
    (hca : env.store.contains a = true) (hcb : env.store.contains b = true) :
    Decides (env.classDescends a b)
      (env.ClassBelow (env.store.unfolding a) (env.store.unfolding b)) := by
  obtain ⟨p, x, hx⟩ := hs.exists_lands hca
  obtain ⟨q, y, hy⟩ := hs.exists_lands hcb
  have hclass : ∀ {h p : Handle} {x : Shape}, env.store.Lands h p x → ∀ name,
      env.store.unfolding h = .ofClass name ↔
        ∃ c, x.class? = some c ∧ sameName c.name name = true :=
    fun hl name ↦ by rw [hl.unfolding_eq hs, Shape.unfold_eq_ofClass_iff hl.not_alias]
  simp only [ClassBelow, hclass hx, hclass hy]
  rw [classDescends, hx.class?, hy.class?]
  cases x.class? with
  | none => exact .of_ok (by simp)
  | some c =>
    cases y.class? with
    | none => exact .of_ok (by simp)
    | some d =>
      refine .of_ok (Bool.or_eq_true_iff.trans ⟨fun h ↦ ?_, ?_⟩)
      · exact ⟨c.name, d.name, ⟨c, rfl, sameName_refl _⟩, ⟨d, rfl, sameName_refl _⟩, h⟩
      · rintro ⟨a, b, ⟨_, ⟨⟩, hca⟩, ⟨_, ⟨⟩, hdb⟩, h⟩
        have hcb : env.classes.AtOrBelow c.name b := .trans ha.classes_indexed (.inl hca) h
        exact hcb.trans ha.classes_indexed (.inl (sameName_symm hdb))

theorem metaclassUpcast_decides (ha : env.Anchored) (hs : env.store.WellFormed) {m n : Handle}
    (hx : env.store.Lands a p (.metaclass m)) (hy : env.store.Lands b q (.metaclass n)) :
    Decides (env.classDescends m n)
      (env.Allows (env.store.unfolding a) (env.store.unfolding b) .metaclassUpcast) := by
  have hm := hs.contains_component hx.shape (List.mem_singleton_self m)
  have hn := hs.contains_component hy.shape (List.mem_singleton_self n)
  refine (classDescends_decides ha hs hm hn).of_iff ?_
  rw [hx.unfolding_eq hs, hy.unfolding_eq hs]
  simp [Allows, Shape.unfold]

theorem classToMetaclass_decides (ha : env.Anchored) (hs : env.store.WellFormed) {n : Handle}
    (hca : env.store.contains a = true) (hy : env.store.Lands b q (.metaclass n)) :
    Decides (env.classDescends a n)
      (env.Allows (env.store.unfolding a) (env.store.unfolding b) .classToMetaclass) := by
  have hn := hs.contains_component hy.shape (List.mem_singleton_self n)
  refine (classDescends_decides ha hs hca hn).of_iff ?_
  rw [hy.unfolding_eq hs]
  simp [Allows, Shape.unfold]

theorem interfaceImplementation_decides (ha : env.Anchored) (hs : env.store.WellFormed)
    {c : ClassShape} {i : InterfaceShape} (hx : env.store.Lands a p (.classType c))
    (hy : env.store.Lands b q (.interfaceType i)) :
    Decides (env.implementsInterface c.name i.name)
      (env.Allows (env.store.unfolding a) (env.store.unfolding b) .interfaceImplementation) := by
  rw [hx.unfolding_eq hs, hy.unfolding_eq hs]
  refine ((ha.guidedClass hs c.name).implementsInterface_decides i.name).of_iff
    ⟨fun h ↦ ⟨c.name, i.name, rfl, rfl, h⟩, ?_⟩
  rintro ⟨c', i', hc, hi, h⟩
  exact h.congr (sameName_symm (Unfolding.ofClass_inj.mp hc))
    (.here (sameName_symm (Unfolding.ofInterface_inj.mp hi)))

theorem interfaceUpcast_decides (ha : env.Anchored) (hs : env.store.WellFormed)
    {i j : InterfaceShape} (hx : env.store.Lands a p (.interfaceType i))
    (hy : env.store.Lands b q (.interfaceType j)) :
    Decides (env.interfaceExtends i.name j.name)
      (env.Allows (env.store.unfolding a) (env.store.unfolding b) .interfaceUpcast) := by
  rw [hx.unfolding_eq hs, hy.unfolding_eq hs]
  refine ((ha.guided hs i.name).interfaceExtends_decides j.name).of_iff
    ⟨fun h ↦ ⟨i.name, j.name, rfl, rfl, h⟩, ?_⟩
  rintro ⟨i', j', hi, hj, h⟩
  exact (h.congr (sameName_symm (Unfolding.ofInterface_inj.mp hi))).trans
    (.here (sameName_symm (Unfolding.ofInterface_inj.mp hj)))

/-- What the base of a subrange is decides both rules about subranges, the one that leaves the
subrange and the one that enters it. -/
theorem subrangeBase_decides (hs : env.store.WellFormed) {r : SubrangeShape}
    (hx : env.store.Lands a p (.subrange r)) (hcb : env.store.contains b = true) :
    Decides (env.store.sameType r.base b)
      (∃ range, env.store.unfolding a = .subrange range (env.store.unfolding b)) := by
  have hbase := hs.contains_component hx.shape (List.mem_singleton_self r.base)
  refine (hs.sameType_decides hbase hcb).of_iff ?_
  rw [hx.unfolding_eq hs]
  simp [Shape.unfold]

/-! ## The questions in turn -/

theorem ruleIf_upcast_eq (hk : AssignRule.upcastFor? t.kind u.kind = some rule)
    (h : Decides ask (env.Allows t u rule)) :
    ruleIf rule ask = .ok (env.firstAllowed t u AssignRule.shapeRules) := by
  rw [ruleIf_eq h, firstAllowed_shapeRules_of_upcast hk]

theorem ruleIf_subrangeToBase_eq (hk : AssignRule.upcastFor? t.kind u.kind = none)
    (hu : u.kind ≠ .subrange) (h : Decides ask (env.Allows t u .subrangeToBase)) :
    ruleIf .subrangeToBase ask = .ok (env.firstAllowed t u AssignRule.shapeRules) := by
  rw [ruleIf_eq h, firstAllowed_shapeRules_of_none hk,
    firstAllowed_singleton_of_not (not_baseToSubrange hu), Option.or_none]

theorem ruleIf_baseToSubrange_eq (hk : AssignRule.upcastFor? t.kind u.kind = none)
    (ht : t.kind ≠ .subrange) (h : Decides ask (env.Allows t u .baseToSubrange)) :
    ruleIf .baseToSubrange ask = .ok (env.firstAllowed t u AssignRule.shapeRules) := by
  rw [ruleIf_eq h, firstAllowed_shapeRules_of_none hk,
    firstAllowed_singleton_of_not (not_subrangeToBase ht), Option.none_or]

theorem firstAllowed_shapeRules_eq_none (hk : AssignRule.upcastFor? t.kind u.kind = none)
    (ht : t.kind ≠ .subrange) (hu : u.kind ≠ .subrange) :
    env.firstAllowed t u AssignRule.shapeRules = none := by
  rw [firstAllowed_shapeRules_of_none hk, firstAllowed_singleton_of_not (not_subrangeToBase ht),
    firstAllowed_singleton_of_not (not_baseToSubrange hu), Option.none_or]

theorem shapeRule?_eq (ha : env.Anchored) (hs : env.store.WellFormed)
    (hca : env.store.contains a = true) (hcb : env.store.contains b = true)
    (hx : env.store.Lands a p x) (hy : env.store.Lands b q y) :
    env.shapeRule? a b x y = .ok (env.firstAllowed (env.store.unfolding a)
      (env.store.unfolding b) AssignRule.shapeRules) := by
  have hkx := hx.kind_unfolding hs
  have hky := hy.kind_unfolding hs
  -- the two cases that come up for shapes of many kinds
  have hin : ∀ r, y = .subrange r → AssignRule.upcastFor? x.kind y.kind = none →
      x.kind ≠ .subrange → ruleIf .baseToSubrange (env.store.sameType r.base a) =
        .ok (env.firstAllowed (env.store.unfolding a) (env.store.unfolding b)
          AssignRule.shapeRules) := by
    rw [← hkx, ← hky]
    rintro r rfl hk hnx
    exact ruleIf_baseToSubrange_eq hk hnx (subrangeBase_decides hs hy hca)
  have hnone : AssignRule.upcastFor? x.kind y.kind = none → x.kind ≠ .subrange →
      y.kind ≠ .subrange → (.ok none : Except Fault _) = .ok (env.firstAllowed
        (env.store.unfolding a) (env.store.unfolding b) AssignRule.shapeRules) := by
    rw [← hkx, ← hky]
    intro hk hnx hny
    rw [firstAllowed_shapeRules_eq_none hk hnx hny]
  cases x with
  | classType c =>
    cases y with
    | classType d =>
      exact ruleIf_upcast_eq (by rw [hkx, hky]; rfl) (classDescends_decides ha hs hca hcb)
    | metaclass n =>
      exact ruleIf_upcast_eq (by rw [hkx, hky]; rfl) (classToMetaclass_decides ha hs hca hy)
    | interfaceType i =>
      exact ruleIf_upcast_eq (by rw [hkx, hky]; rfl) (interfaceImplementation_decides ha hs hx hy)
    | subrange r => exact hin r rfl rfl nofun
    | _ => exact hnone rfl nofun nofun
  | metaclass m =>
    cases y with
    | metaclass n =>
      exact ruleIf_upcast_eq (by rw [hkx, hky]; rfl) (metaclassUpcast_decides ha hs hx hy)
    | subrange r => exact hin r rfl rfl nofun
    | _ => exact hnone rfl nofun nofun
  | interfaceType i =>
    cases y with
    | interfaceType j =>
      exact ruleIf_upcast_eq (by rw [hkx, hky]; rfl) (interfaceUpcast_decides ha hs hx hy)
    | subrange r => exact hin r rfl rfl nofun
    | _ => exact hnone rfl nofun nofun
  | subrange r =>
    have hout : Decides (env.store.sameType r.base b) (env.Allows (env.store.unfolding a)
        (env.store.unfolding b) .subrangeToBase) := subrangeBase_decides hs hx hcb
    cases y with
    | subrange r' =>
      have hin : Decides (env.store.sameType r'.base a) (env.Allows (env.store.unfolding a)
          (env.store.unfolding b) .baseToSubrange) := subrangeBase_decides hs hy hca
      rw [firstAllowed_shapeRules_of_none (by rw [hkx]; rfl), shapeRule?, ruleIf_eq hout,
        ruleIf_eq hin]
      cases env.firstAllowed _ _ [AssignRule.subrangeToBase] <;> rfl
    | _ => exact ruleIf_subrangeToBase_eq (by rw [hkx]; rfl) (by rw [hky]; nofun) hout
  | _ =>
    cases y with
    | subrange r => exact hin r rfl rfl nofun
    | _ => exact hnone rfl nofun nofun

theorem kindRule?_eq : kindRule? t.kind u.kind = env.firstAllowed t u AssignRule.kindRules := by
  rw [kindRule?, firstAllowed, AssignRule.kindRules]
  split
  · rename_i h
    simp [Allows, h]
  · split
    · rename_i h h'
      simp [Allows, h, h']
    · split <;> rename_i h h' h'' <;> simp [Allows, h, h', h'']

/-- Parameters and result are the parts of a signature, so its number of parameters is compared
along with them. -/
theorem sameSignature_decides (hs : env.store.WellFormed) {f g : Signature}
    (hf : ∀ h, some h ∈ f.parts → env.store.contains h = true)
    (hg : ∀ h, some h ∈ g.parts → env.store.contains h = true) :
    Decides (env.store.sameSignature f g)
      (f.parts.map (Option.map env.store.unfolding) =
        g.parts.map (Option.map env.store.unfolding)) := by
  rw [TypeStore.sameSignature]
  split
  · exact TypeStore.sameParts_decides fun h h' hh hh' ↦ hs.sameType_decides (hf h hh) (hg h' hh')
  · rename_i harity
    refine .of_ok ⟨nofun, fun heq ↦ ?_⟩
    have hlen := congrArg List.length heq
    simp only [List.length_map, Signature.parts, List.length_append, List.length_singleton] at hlen
    exact absurd (Nat.add_right_cancel hlen) harity

theorem pointerCompatible_decides (hs : env.store.WellFormed) (hx : env.store.Lands a p x)
    (hy : env.store.Lands b q y) {f g : Signature} (hf : x.signature? = some f)
    (hg : y.signature? = some g) : Decides (env.store.sameSignature f g)
      (env.Allows (env.store.unfolding a) (env.store.unfolding b) .pointerCompatible) := by
  obtain ⟨hkx, hpx⟩ := Shape.signature?_eq_some hf
  obtain ⟨hky, hpy⟩ := Shape.signature?_eq_some hg
  rw [← hx.kind_unfolding hs] at hkx
  rw [← hy.kind_unfolding hs] at hky
  have hcx : ∀ h, some h ∈ f.parts → env.store.contains h = true := fun h hh ↦
    hs.contains_component hx.shape (Shape.mem_components_of_mem_parts (hpx.symm ▸ hh))
  have hcy : ∀ h, some h ∈ g.parts → env.store.contains h = true := fun h hh ↦
    hs.contains_component hy.shape (Shape.mem_components_of_mem_parts (hpy.symm ▸ hh))
  refine (sameSignature_decides hs hcx hcy).of_iff ?_
  rw [Allows, and_iff_right hkx, and_iff_right hky, hx.unfolding_eq hs, hy.unfolding_eq hs,
    Shape.parts_unfold _ _ hx.not_alias, Shape.parts_unfold _ _ hy.not_alias, hpx, hpy]

theorem lastRule?_eq (hs : env.store.WellFormed) (hx : env.store.Lands a p x)
    (hy : env.store.Lands b q y) :
    env.lastRule? a b x y = orAsk (env.firstAllowed (env.store.unfolding a)
      (env.store.unfolding b) [.pointerCompatible]) (env.conversionRule? a b) := by
  have hkx := hx.kind_unfolding hs
  have hky := hy.kind_unfolding hs
  rw [lastRule?, conversionRule?, hky]
  cases hg : y.signature? with
  | none =>
    have hny := Shape.signature?_eq_none hg
    have hnot : ¬env.Allows (env.store.unfolding a) (env.store.unfolding b) .pointerCompatible := by
      rintro ⟨-, hu, -⟩
      rw [hky, hny] at hu
      cases hu
    rw [firstAllowed_singleton_of_not hnot, hny]
    rfl
  | some g =>
    rw [(Shape.signature?_eq_some hg).1]
    cases hf : x.signature? with
    | none =>
      have hnot : ¬env.Allows (env.store.unfolding a) (env.store.unfolding b)
          .pointerCompatible := by
        rintro ⟨ht, -, -⟩
        rw [hkx, Shape.signature?_eq_none hf] at ht
        cases ht
      rw [firstAllowed_singleton_of_not hnot]
      rfl
    | some f =>
      change ruleIf .pointerCompatible (env.store.sameSignature f g) = _
      rw [ruleIf_eq (pointerCompatible_decides hs hx hy hf hg)]
      cases env.firstAllowed _ _ [AssignRule.pointerCompatible] <;> rfl

theorem differentRule?_eq (ha : env.Anchored) (hs : env.store.WellFormed)
    (hca : env.store.contains a = true) (hcb : env.store.contains b = true) :
    env.differentRule? a b = orAsk (env.firstAllowed (env.store.unfolding a)
      (env.store.unfolding b) ([.numericWidening] ++ ([.nil] ++ (AssignRule.shapeRules ++
        (AssignRule.kindRules ++ [.pointerCompatible]))))) (env.conversionRule? a b) := by
  obtain ⟨p, x, hx⟩ := hs.exists_lands hca
  obtain ⟨q, y, hy⟩ := hs.exists_lands hcb
  have hwiden : x.kind = .integer ∧ y.kind = .float ↔
      env.Allows (env.store.unfolding a) (env.store.unfolding b) .numericWidening := by
    rw [Allows, hx.kind_unfolding hs, hy.kind_unfolding hs]
  have hnil : isNilPair x.kind y.kind = true ↔
      env.Allows (env.store.unfolding a) (env.store.unfolding b) .nil := by
    rw [Allows, hx.kind_unfolding hs, hy.kind_unfolding hs]
  rw [orAsk_append, orAsk_append, orAsk_append, orAsk_append, ← ite_eq_orAsk hwiden,
    ← ite_eq_orAsk hnil, ← kindRule?_eq, ← lastRule?_eq hs hx hy, hx.kind_unfolding hs,
    hy.kind_unfolding hs, differentRule?, hx.resolved, hy.resolved]
  refine ite_congr rfl (fun _ ↦ rfl) fun _ ↦ ite_congr rfl (fun _ ↦ rfl) fun _ ↦ ?_
  rw [shapeRule?_eq ha hs hca hcb hx hy]
  cases env.firstAllowed _ _ AssignRule.shapeRules with
  | some rule => rfl
  | none => cases kindRule? x.kind y.kind <;> rfl

/-- **The first rule of the table is the answer.**  If the table has none, there may be a
conversion. -/
theorem assignRule?_eq (ha : env.Anchored) (hs : env.store.WellFormed)
    (hca : env.store.contains a = true) (hcb : env.store.contains b = true) :
    env.assignRule? a b = orAsk (env.firstAllowed (env.store.unfolding a)
      (env.store.unfolding b) AssignRule.builtIn) (env.conversionRule? a b) := by
  obtain ⟨yes, hyes, hsame⟩ := hs.sameType_decides hca hcb
  have hid : yes = true ↔ env.Allows (env.store.unfolding a) (env.store.unfolding b) .identical :=
    hsame
  rw [AssignRule.builtIn, orAsk_append, ← differentRule?_eq ha hs hca hcb, ← ite_eq_orAsk hid,
    assignRule?, hyes]
  rfl

end TypeEnv

end PascalTypes
