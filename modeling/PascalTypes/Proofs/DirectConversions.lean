import PascalTypes.Proofs.AssignmentLaws
import PascalTypes.Proofs.ConversionRoutes

/-!
# Conversions of one step

There are two questions about conversions.  An assignment asks for one conversion, first under the
texts of the two types and then under the texts of what stands behind all aliases.  The search for a
chain of conversions starts from the texts of the two types and never looks behind an alias.

Where no alias is involved, the two agree: an assignment by conversion has a chain of one step.  The
same holds if the conversion was found under the texts of the aliases.  Otherwise the conversion
belongs to the types behind the aliases.  There is a chain of one step between those, but between
the aliases there may be none or a longer one (`conversionRoute?_detours`).
-/

set_option autoImplicit false

namespace PascalTypes

/-- A chain of a single conversion. -/
def IsDirect (route : Option (List String)) : Prop :=
  ∃ name next, route = some [name, next]

/-- A search that may take a step finds a chain of one step exactly if there is a conversion. -/
theorem ConversionGraph.isDirect_route?_iff {g : ConversionGraph} {source target : String}
    {maxLength : Nat} (hmax : 1 ≤ maxLength) : IsDirect (g.route? source target maxLength) ↔
      (g.findImplicit? source target).isSome = true := by
  cases hdirect : g.findImplicit? source target with
  | some direct =>
    refine iff_of_true ⟨source, direct.target, ?_⟩ rfl
    rw [route?_of_direct hdirect, if_neg (Nat.one_le_iff_ne_zero.mp hmax)]
  | none =>
    refine iff_of_false ?_ Bool.false_ne_true
    rintro ⟨name, next, h⟩
    rw [route?_of_no_direct hdirect] at h
    obtain ⟨n, -, t, ht, hnames, -⟩ := firstRoute?_eq_some_iff.mp h
    -- a layer finishes with chains of its own length, so this is the first layer
    have hlen := length_names_of_finish? ht
    rw [hnames, List.length_cons, List.length_singleton] at hlen
    obtain rfl : n = 0 := by omega
    obtain ⟨start, hstart, c, hc, hjoins, -⟩ := exists_of_finish? ht
    cases List.mem_singleton.mp hstart
    have hsome := findImplicit?_isSome_iff.mpr ⟨c, hc, hjoins⟩
    rw [hdirect] at hsome
    cases hsome

namespace TypeEnv

variable {env : TypeEnv} {a b : Handle} {x y : Shape} {rule rule' : AssignRule}
  {applies : Except Fault Bool}

/-! ## Assignments by conversion -/

theorem ruleIf_eq_ok_some_iff :
    ruleIf rule applies = .ok (some rule') ↔ rule = rule' ∧ applies = .ok true := by
  constructor
  · intro h
    obtain ⟨yes, hyes, h⟩ := bind_eq_ok.mp h
    cases yes with
    | true => exact ⟨Option.some.inj (Except.ok.inj h), hyes⟩
    | false => cases h
  · rintro ⟨rfl, rfl⟩
    rfl

theorem ruleIf_ne (hne : rule ≠ rule') : ruleIf rule applies ≠ .ok (some rule') :=
  fun h ↦ hne (ruleIf_eq_ok_some_iff.mp h).1

theorem shapeRule?_ne_implicitConversion :
    env.shapeRule? a b x y ≠ .ok (some .implicitConversion) := by
  fun_cases shapeRule? env a b x y with
  | case6 =>
    intro h
    obtain ⟨first, hfirst, h⟩ := bind_eq_ok.mp h
    cases first with
    | none => exact ruleIf_ne (by decide) h
    | some rule =>
      cases h
      exact ruleIf_ne (by decide) hfirst
  | case9 => nofun
  | _ => exact ruleIf_ne (by decide)

theorem kindRule?_ne_implicitConversion (source target : Kind) :
    kindRule? source target ≠ some .implicitConversion := by
  rw [kindRule?]
  split_ifs <;> decide

/-- An assignment by conversion has a conversion. -/
theorem hasConversion_of_assignRule? (h : env.assignRule? a b = .ok (some .implicitConversion)) :
    env.hasConversion a b = .ok true := by
  obtain ⟨same, -, h⟩ := bind_eq_ok.mp h
  cases same with
  | true => cases h
  | false =>
    change env.differentRule? a b = _ at h
    obtain ⟨x, -, h⟩ := bind_eq_ok.mp h
    obtain ⟨y, -, h⟩ := bind_eq_ok.mp h
    split at h
    · cases h
    split at h
    · cases h
    obtain ⟨first, hfirst, h⟩ := bind_eq_ok.mp h
    cases first with
    | some rule =>
      cases h
      exact absurd hfirst shapeRule?_ne_implicitConversion
    | none =>
      cases hkind : kindRule? x.kind y.kind with
      | some rule =>
        rw [hkind] at h
        cases h
        exact absurd hkind (kindRule?_ne_implicitConversion _ _)
      | none =>
        rw [hkind] at h
        change env.lastRule? a b x y = _ at h
        rw [lastRule?] at h
        split at h
        · split at h
          · exact absurd h (ruleIf_ne (by decide))
          · cases h
        · exact (ruleIf_eq_ok_some_iff.mp h).2

/-! ## The two questions agree -/

/-- A chain of one step is found exactly if a conversion is registered for the texts of the
types. -/
theorem exists_conversionRoute? (hs : env.store.WellFormed)
    (hdepth : 1 ≤ env.settings.conversionDepth) (hca : env.store.contains a = true)
    (hcb : env.store.contains b = true) :
    ∃ route, env.conversionRoute? a b = .ok route ∧ (IsDirect route ↔ env.Converts a b) := by
  obtain ⟨source, ha⟩ := hs.exists_display hca
  obtain ⟨target, hb⟩ := hs.exists_display hcb
  refine ⟨_, by rw [conversionRoute?, ha, hb]; rfl, ?_⟩
  rw [converts_iff ha hb]
  exact ConversionGraph.isDirect_route?_iff (UInt64.le_iff_toNat_le.mp hdepth)

/-- **An assignment by conversion has a chain of one step, between the types themselves or between
what stands behind their aliases.** -/
theorem isDirect_of_implicitConversion (hs : env.store.WellFormed)
    (hdepth : 1 ≤ env.settings.conversionDepth) (hca : env.store.contains a = true)
    (hcb : env.store.contains b = true)
    (h : env.assignRule? a b = .ok (some .implicitConversion)) :
    ∃ p q route bare, env.store.underlying a = .ok p ∧ env.store.underlying b = .ok q ∧
      env.conversionRoute? a b = .ok route ∧ env.conversionRoute? p q = .ok bare ∧
      (IsDirect route ∨ IsDirect bare) ∧ (IsDirect route ↔ env.Converts a b) ∧
      (p = a → q = b → IsDirect route) := by
  obtain ⟨p, x, hx⟩ := hs.exists_lands hca
  obtain ⟨q, y, hy⟩ := hs.exists_lands hcb
  obtain ⟨route, hroute, hdirect⟩ := exists_conversionRoute? hs hdepth hca hcb
  obtain ⟨bare, hbare, hbare_direct⟩ := exists_conversionRoute? hs hdepth
    (TypeStore.contains_of_shape hx.shape) (TypeStore.contains_of_shape hy.shape)
  have hconverts : env.Converts a b ∨ env.Converts p q :=
    (hasConversion_decides hs hca hcb hx hy).eq_true_iff.mp (hasConversion_of_assignRule? h)
  refine ⟨p, q, route, bare, hx.underlying, hy.underlying, hroute, hbare, ?_, hdirect, ?_⟩
  · rw [hdirect, hbare_direct]
    exact hconverts
  · rintro rfl rfl
    rw [hdirect]
    exact hconverts.elim id id

/-- Two aliases of the integers.  Integers can be converted to strings, and the second alias has a
conversion of its own that leads there in two steps. -/
def detours : TypeEnv :=
  (TypeEnv.new {}).run
    [.declareNamed (.aliasType ⟨"TCount", ⟨0⟩⟩) ⟨1, 1, 0⟩,
      .declareNamed (.aliasType ⟨"TTally", ⟨0⟩⟩) ⟨2, 1, 0⟩,
      .editConversions fun g ↦ (g.register ⟨"Integer", "String", "IntToStr", true⟩).2,
      .editConversions fun g ↦ (g.register ⟨"TTally", "Boolean", "AnyLeft", true⟩).2,
      .editConversions fun g ↦ (g.register ⟨"Boolean", "String", "BoolToStr", true⟩).2]

/-- Both aliases can be assigned to a string by conversion.  But from the first there is no chain,
and from the second there is one of two steps. -/
theorem conversionRoute?_detours : detours.store.WellFormed ∧
    1 ≤ detours.settings.conversionDepth ∧
    detours.assignRule? ⟨8⟩ ⟨2⟩ = .ok (some .implicitConversion) ∧
    detours.conversionRoute? ⟨8⟩ ⟨2⟩ = .ok none ∧
    detours.assignRule? ⟨9⟩ ⟨2⟩ = .ok (some .implicitConversion) ∧
    detours.conversionRoute? ⟨9⟩ ⟨2⟩ = .ok (some ["TTally", "Boolean", "String"]) :=
  ⟨by decide, by decide, rfl, rfl, rfl, rfl⟩

/-- There is a chain of one step from the integers. -/
theorem isDirect_detours : detours.assignRule? ⟨8⟩ ⟨2⟩ = .ok (some .implicitConversion) ∧
    detours.store.underlying ⟨8⟩ = .ok ⟨0⟩ ∧
    ∃ name next, detours.conversionRoute? ⟨0⟩ ⟨2⟩ = .ok (some [name, next]) := by
  have hs : detours.store.WellFormed := by decide
  have hdepth : 1 ≤ detours.settings.conversionDepth := by decide
  have hrule : detours.assignRule? ⟨8⟩ ⟨2⟩ = .ok (some .implicitConversion) := rfl
  have hnone : detours.conversionRoute? ⟨8⟩ ⟨2⟩ = .ok none := rfl
  obtain ⟨p, q, route, bare, hp, hq, hroute, hbare, hor, -⟩ :=
    isDirect_of_implicitConversion hs hdepth rfl rfl hrule
  cases hp
  cases hq
  cases hnone.symm.trans hroute
  rcases hor with ⟨_, _, h⟩ | ⟨name, next, rfl⟩
  · cases h
  · exact ⟨hrule, rfl, name, next, hbare⟩

end TypeEnv

end PascalTypes
