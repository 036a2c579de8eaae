import PascalTypes.Proofs.AssignmentLaws

/-!
# Assignments in the opposite direction

The order of the rules is fixed and takes no notice of direction, and most rules lead one way only.
Some come in pairs, though, or are their own counterpart (`AssignRule.reverse?`): what the one
allows from `a` to `b`, the other allows from `b` to `a`.  `assignRule?_reversed` says that the
answers come in the same pairs.

A rule is the answer if it allows the assignment and no earlier rule does.  So for each pair one has
to see that nothing comes first in the opposite direction either.

* A rule that leads one way is about six kinds of types, and a rule that has a counterpart is about
  at least one type of another kind (`kinds_of_one_way`, `kinds_of_reverse?`).
* An earlier rule that has a counterpart has it among the earlier rules too, with two exceptions
  (`mem_earlier_of_reverse?`).  Leaving a subrange is tried before entering one, but of two types
  only one can be the base of the other.  And a value is put into a variant before one is taken out
  of it, so between two variants nothing is ever taken out.
-/

set_option autoImplicit false

namespace PascalTypes

/-! ## Pairs of rules -/

namespace AssignRule

/-- The rule for the opposite direction. -/
def reverse? : AssignRule → Option AssignRule
  | identical => some identical
  | nil => some nil
  | subrangeToBase => some baseToSubrange
  | baseToSubrange => some subrangeToBase
  | variantBoxing => some variantUnboxing
  | variantUnboxing => some variantBoxing
  | pointerCompatible => some pointerCompatible
  | _ => none

/-- The rules that are tried before a rule. -/
def earlier (rule : AssignRule) : List AssignRule :=
  builtIn.takeWhile (· ≠ rule)

/-- The kinds of types that rules without a counterpart are about. -/
def oneWayKinds : List Kind :=
  [.integer, .float, .enumType, .classType, .metaclass, .interfaceType]

variable {rule back r r' : AssignRule}

theorem reverse?_symm (h : rule.reverse? = some back) : back.reverse? = some rule := by
  cases rule <;> cases h <;> rfl

theorem mem_builtIn_of_reverse? (h : rule.reverse? = some back) : rule ∈ builtIn := by
  cases rule <;> cases h <;> decide

/-- The order of the rules goes along with the pairs, except within two of these. -/
theorem mem_earlier_of_reverse? (hrule : rule.reverse? = some back) (hr : r.reverse? = some r')
    (h : r ∈ back.earlier) :
    r' ∈ rule.earlier ∨ r = rule ∧ (rule = subrangeToBase ∨ rule = variantBoxing) := by
  have hall : ∀ rule ∈ builtIn, ∀ back ∈ rule.reverse?, ∀ r ∈ back.earlier, ∀ r' ∈ r.reverse?,
      r' ∈ rule.earlier ∨ r = rule ∧ (rule = subrangeToBase ∨ rule = variantBoxing) := by decide
  exact hall rule (mem_builtIn_of_reverse? hrule) back hrule r h r' hr

end AssignRule

/-- No two types are each the base of the other. -/
theorem Unfolding.not_subrange_subrange {t u : Unfolding} {range range' : Interval}
    (ht : t = .subrange range u) (hu : u = .subrange range' t) : False := by
  have hlt : sizeOf u < sizeOf t := by rw [ht, Unfolding.subrange.sizeOf_spec]; omega
  have hgt : sizeOf t < sizeOf u := by rw [hu, Unfolding.subrange.sizeOf_spec]; omega
  omega

namespace TypeEnv

variable {env : TypeEnv} {a b : Handle} {t u : Unfolding} {rule back : AssignRule}
  {rules : List AssignRule}

/-- What a rule allows in one direction, its counterpart allows in the other. -/
theorem allows_reverse (h : rule.reverse? = some back) :
    env.Allows t u rule ↔ env.Allows u t back := by
  cases rule <;> cases h <;> simp only [Allows]
  case identical => exact eq_comm
  case nil => simp [isNilPair, or_comm]
  case pointerCompatible =>
    constructor
    · rintro ⟨ht, hu, h⟩
      exact ⟨hu, ht, h.symm⟩
    · rintro ⟨hu, ht, h⟩
      exact ⟨ht, hu, h.symm⟩

/-! ## Kinds -/

theorem kinds_of_one_way (h : rule.reverse? = none) (ha : env.Allows t u rule) :
    t.kind ∈ AssignRule.oneWayKinds ∧ u.kind ∈ AssignRule.oneWayKinds := by
  have hup : ∀ {k l : Kind}, AssignRule.upcastFor? k l = some rule →
      k ∈ AssignRule.oneWayKinds ∧ l ∈ AssignRule.oneWayKinds := by
    intro k l hk
    unfold AssignRule.upcastFor? at hk
    split at hk <;> cases hk <;> decide
  cases rule with
  | numericWidening | enumToInteger =>
    rw [ha.1, ha.2]
    decide
  | classUpcast | metaclassUpcast | classToMetaclass | interfaceImplementation | interfaceUpcast =>
    exact hup (upcastFor?_of_allows ha (by decide))
  | implicitConversion => exact ha.elim
  | _ => cases h

theorem kinds_of_reverse? (h : rule.reverse? = some back) (hne : rule ≠ .identical)
    (ha : env.Allows t u rule) :
    t.kind ∉ AssignRule.oneWayKinds ∨ u.kind ∉ AssignRule.oneWayKinds := by
  have hpointer : ∀ {k : Kind}, k.isPointer = true → k ∉ AssignRule.oneWayKinds := by
    intro k hk
    cases k <;> cases hk <;> decide
  have hnil : ∀ {k l : Kind}, isNilPair k l = true → k = .nil ∨ l = .nil := by
    intro k l hk
    simp only [isNilPair, Bool.or_eq_true_iff, Bool.and_eq_true_iff, beq_iff_eq] at hk
    exact hk.imp And.left And.left
  have hother : ∀ {k l : Kind}, k = l → l ∉ AssignRule.oneWayKinds →
      k ∉ AssignRule.oneWayKinds := fun hk hl ↦ hk ▸ hl
  cases rule with
  | identical => exact absurd rfl hne
  | nil => exact (hnil ha).imp (hother · (by decide)) (hother · (by decide))
  | subrangeToBase =>
    obtain ⟨range, rfl⟩ := ha
    exact .inl (hother (l := .subrange) rfl (by decide))
  | baseToSubrange =>
    obtain ⟨range, rfl⟩ := ha
    exact .inr (hother (l := .subrange) rfl (by decide))
  | variantBoxing => exact .inr (hother ha (by decide))
  | variantUnboxing => exact .inl (hother ha (by decide))
  | pointerCompatible => exact .inl (hpointer ha.1)
  | _ => cases h

/-! ## The first rule -/

/-- A rule is the first one if it allows the assignment and none before it does. -/
theorem firstAllowed_eq_some_iff : env.firstAllowed t u rules = some rule ↔ rule ∈ rules ∧
    env.Allows t u rule ∧ ∀ r ∈ rules.takeWhile (· ≠ rule), ¬env.Allows t u r := by
  induction rules with
  | nil => simp [firstAllowed]
  | cons first rest ih =>
    rw [firstAllowed] at ih ⊢
    by_cases heq : first = rule
    · subst heq
      -- nothing is tried before it
      rw [List.takeWhile_cons_of_neg (by simp)]
      constructor
      · intro h
        have ha : env.Allows t u first := by simpa using List.find?_some h
        exact ⟨List.mem_cons_self, ha, fun _ hr ↦ absurd hr List.not_mem_nil⟩
      · rintro ⟨-, ha, -⟩
        simp [ha]
    · by_cases hfirst : env.Allows t u first
      · simp [hfirst, heq]
      · rw [List.find?_cons_of_neg (by simpa using hfirst), ih]
        simp [hfirst, heq, Ne.symm heq]

/-- **The first rule in the opposite direction is the counterpart of the first rule**, unless a
value goes from a variant into a variant. -/
theorem firstAllowed_reverse (hback : rule.reverse? = some back)
    (hv : rule = .variantBoxing → t.kind ≠ .variant)
    (h : env.firstAllowed t u AssignRule.builtIn = some rule) :
    env.firstAllowed u t AssignRule.builtIn = some back := by
  obtain ⟨-, ha, hnone⟩ := firstAllowed_eq_some_iff.mp h
  have hmem := AssignRule.mem_builtIn_of_reverse? (AssignRule.reverse?_symm hback)
  refine firstAllowed_eq_some_iff.mpr ⟨hmem, (allows_reverse hback).mp ha, fun r hr har ↦ ?_⟩
  cases hr' : r.reverse? with
  | none =>
    -- the kinds leave no room for a rule that leads one way
    have hne : rule ≠ .identical := by
      rintro rfl
      cases hback
      cases hr
    obtain ⟨hu, ht⟩ := kinds_of_one_way hr' har
    exact (kinds_of_reverse? hback hne ha).elim (· ht) (· hu)
  | some r' =>
    -- the counterpart would have come first in the given direction, except within a pair
    have har' := (allows_reverse hr').mp har
    rcases AssignRule.mem_earlier_of_reverse? hback hr' hr with hearlier | ⟨rfl, rfl | rfl⟩
    · exact hnone r' hearlier har'
    · obtain ⟨range, ht⟩ := ha
      obtain ⟨range', hu⟩ := har
      exact Unfolding.not_subrange_subrange ht hu
    · exact hv rfl har

/-! ## Answers -/

theorem assignRule?_reverse_iff (hr : env.Reachable) (hs : env.store.WellFormed)
    (hca : env.store.contains a = true) (hcb : env.store.contains b = true)
    (hback : rule.reverse? = some back)
    (ha : rule = .variantBoxing → (env.store.unfolding a).kind ≠ .variant)
    (hb : back = .variantBoxing → (env.store.unfolding b).kind ≠ .variant) :
    env.assignRule? a b = .ok (some rule) ↔ env.assignRule? b a = .ok (some back) := by
  have hne : ∀ {r r' : AssignRule}, r.reverse? = some r' → r ≠ .implicitConversion := by
    rintro r r' h rfl
    cases h
  have hrule := AssignRule.reverse?_symm hback
  rw [assignRule?_eq_ok_some_iff hr.anchored hs hca hcb (hne hback),
    assignRule?_eq_ok_some_iff hr.anchored hs hcb hca (hne hrule)]
  exact ⟨firstAllowed_reverse hback ha, firstAllowed_reverse hrule hb⟩

/-- **To reverse an assignment is to reverse its rule.** -/
theorem assignRule?_reversed (hr : env.Reachable) (hs : env.store.WellFormed)
    (hca : env.store.contains a = true) (hcb : env.store.contains b = true) :
    (env.assignRule? a b = .ok (some .identical) ↔ env.assignRule? b a = .ok (some .identical)) ∧
      (env.assignRule? a b = .ok (some .nil) ↔ env.assignRule? b a = .ok (some .nil)) ∧
      (env.assignRule? a b = .ok (some .pointerCompatible) ↔
        env.assignRule? b a = .ok (some .pointerCompatible)) ∧
      (env.assignRule? a b = .ok (some .subrangeToBase) ↔
        env.assignRule? b a = .ok (some .baseToSubrange)) ∧
      (env.store.underlyingKind a ≠ .ok .variant →
        (env.assignRule? a b = .ok (some .variantBoxing) ↔
          env.assignRule? b a = .ok (some .variantUnboxing))) := by
  refine ⟨assignRule?_reverse_iff hr hs hca hcb rfl nofun nofun,
    assignRule?_reverse_iff hr hs hca hcb rfl nofun nofun,
    assignRule?_reverse_iff hr hs hca hcb rfl nofun nofun,
    assignRule?_reverse_iff hr hs hca hcb rfl nofun nofun, fun hkind ↦ ?_⟩
  refine assignRule?_reverse_iff hr hs hca hcb rfl (fun _ hvariant ↦ hkind ?_) nofun
  obtain ⟨p, x, hx⟩ := hs.exists_lands hca
  rw [← hvariant, hx.kind_unfolding hs, TypeStore.underlyingKind, hx.resolved]
  rfl

/-- A subrange, a subrange of that one, a subrange of the variant type, and an alias for the first
subrange. -/
def nestedRanges : TypeEnv :=
  (TypeEnv.new { withBuiltins := false }).run
    [.declareNamed (.subrange ⟨"TDigit", ⟨0⟩, ⟨0, 9⟩⟩) ⟨1, 1, 0⟩,
      .declareNamed (.subrange ⟨"TBit", ⟨7⟩, ⟨0, 1⟩⟩) ⟨2, 1, 0⟩,
      .declareNamed (.subrange ⟨"TAny", ⟨6⟩, ⟨0, 1⟩⟩) ⟨3, 1, 0⟩,
      .declareNamed (.aliasType ⟨"TNum", ⟨7⟩⟩) ⟨4, 1, 0⟩]

/-- Where both types are subranges, only one of them is the base of the other.  The subrange of the
variant type is put into its base as a subrange, and any other type is put into it as a variant. -/
theorem assignRule?_nestedRanges : nestedRanges.store.WellFormed ∧
    nestedRanges.assignRule? ⟨8⟩ ⟨10⟩ = .ok (some .subrangeToBase) ∧
      nestedRanges.assignRule? ⟨10⟩ ⟨8⟩ = .ok (some .baseToSubrange) ∧
      nestedRanges.assignRule? ⟨9⟩ ⟨6⟩ = .ok (some .subrangeToBase) ∧
      nestedRanges.assignRule? ⟨6⟩ ⟨9⟩ = .ok (some .baseToSubrange) ∧
      nestedRanges.assignRule? ⟨7⟩ ⟨6⟩ = .ok (some .variantBoxing) ∧
      nestedRanges.assignRule? ⟨6⟩ ⟨7⟩ = .ok (some .variantUnboxing) := by
  have hr : nestedRanges.Reachable := ⟨_, _, rfl⟩
  have hs : nestedRanges.store.WellFormed := by decide
  have hinner : nestedRanges.assignRule? ⟨8⟩ ⟨10⟩ = .ok (some .subrangeToBase) := rfl
  have hany : nestedRanges.assignRule? ⟨9⟩ ⟨6⟩ = .ok (some .subrangeToBase) := rfl
  have hbox : nestedRanges.assignRule? ⟨7⟩ ⟨6⟩ = .ok (some .variantBoxing) := rfl
  have hkind : nestedRanges.store.underlyingKind ⟨7⟩ ≠ .ok .variant := nofun
  refine ⟨hs, hinner, ?_, hany, ?_, hbox, ?_⟩
  · exact (assignRule?_reversed hr hs rfl rfl).2.2.2.1.mp hinner
  · exact (assignRule?_reversed hr hs rfl rfl).2.2.2.1.mp hany
  · exact ((assignRule?_reversed hr hs rfl rfl).2.2.2.2 hkind).mp hbox

end TypeEnv

end PascalTypes
