import PascalTypes.Proofs.AssignmentRules

/-!
# Laws of assignment

Three laws that hold in every environment that can come up, as long as its types are made of earlier
types.  Classes may be their own ancestors there, interfaces may extend themselves, and names may be
spelled in different ways.

* **Assignment respects type equality** (`assignRule?_respects_sameType`).  The table of rules only
  sees trees, and types that are the same have one tree.  Conversions are the exception, since they
  are registered for texts, and the same type can have many.
* **Assignment looks through aliases** (`assignRule?_underlying`).  An alias has the tree of the
  type that it stands for, so the table has the same answer.  Conversions are looked for under both
  texts (`hasConversion_decides`), and those of the alias come on top.
* **Upcasts compose** (`assignRule?_upward_trans`).  What leads upwards is the same type or one of
  the five upcasts, and two steps upwards can be made in one.  A class can go wherever its ancestors
  can (`ClassBelow.allows`), and from metaclasses and interfaces only one rule leads on.
-/

set_option autoImplicit false

namespace PascalTypes.TypeEnv

variable {env : TypeEnv} {a b c p q : Handle} {x y : Shape} {t u v : Unfolding}
  {rule rule' : AssignRule}

/-! ## Conversions -/

theorem eq_implicitConversion_of_conversionRule? (h : env.conversionRule? a b = .ok (some rule)) :
    rule = .implicitConversion := by
  rw [conversionRule?] at h
  split at h
  · cases h
  · obtain ⟨yes, -, h⟩ := bind_eq_ok.mp h
    cases yes with
    | true => exact (Option.some.inj (Except.ok.inj h)).symm
    | false => cases h

/-- Apart from conversions, the answer is the first rule of the table. -/
theorem assignRule?_eq_ok_some_iff (ha : env.Anchored) (hs : env.store.WellFormed)
    (hca : env.store.contains a = true) (hcb : env.store.contains b = true)
    (hne : rule ≠ .implicitConversion) : env.assignRule? a b = .ok (some rule) ↔
      env.firstAllowed (env.store.unfolding a) (env.store.unfolding b) AssignRule.builtIn =
        some rule := by
  rw [assignRule?_eq ha hs hca hcb]
  cases env.firstAllowed (env.store.unfolding a) (env.store.unfolding b) AssignRule.builtIn with
  | some first => exact ⟨Except.ok.inj, congrArg Except.ok⟩
  | none => exact ⟨fun h ↦ absurd (eq_implicitConversion_of_conversionRule? h) hne, nofun⟩

/-- An implicit conversion is registered for the texts of two types. -/
def Converts (env : TypeEnv) (a b : Handle) : Prop :=
  ∃ source target, env.store.display a = .ok source ∧ env.store.display b = .ok target ∧
    (env.conversions.findImplicit? source target).isSome = true

theorem converts_iff {source target : String} (ha : env.store.display a = .ok source)
    (hb : env.store.display b = .ok target) :
    env.Converts a b ↔ (env.conversions.findImplicit? source target).isSome = true := by
  simp [Converts, ha, hb]

theorem not_converts_of_no_implicits (h : env.conversions.implicits = []) (a b : Handle) :
    ¬env.Converts a b := by
  rintro ⟨source, target, -, -, hfound⟩
  rw [ConversionGraph.findImplicit?, h] at hfound
  cases hfound

/-- A conversion is looked for under the texts that the types have, and then under those that they
have behind all aliases. -/
theorem hasConversion_decides (hs : env.store.WellFormed) (hca : env.store.contains a = true)
    (hcb : env.store.contains b = true) (hx : env.store.Lands a p x) (hy : env.store.Lands b q y) :
    Decides (env.hasConversion a b) (env.Converts a b ∨ env.Converts p q) := by
  rw [hasConversion]
  split
  · rename_i hempty
    have hnone := List.isEmpty_iff.mp (Bool.and_eq_true_iff.mp hempty).1
    have hnot := not_converts_of_no_implicits hnone
    exact .of_ok ⟨nofun, fun h ↦ (h.elim (hnot a b) (hnot p q)).elim⟩
  obtain ⟨atext, ha⟩ := hs.exists_display hca
  obtain ⟨btext, hb⟩ := hs.exists_display hcb
  obtain ⟨ptext, hp⟩ := hs.exists_display (TypeStore.contains_of_shape hx.shape)
  obtain ⟨qtext, hq⟩ := hs.exists_display (TypeStore.contains_of_shape hy.shape)
  simp only [ha, hb, hp, hq, hx.underlying, hy.underlying, bind, Except.bind]
  split
  · rename_i hfound
    exact .of_ok ⟨fun _ ↦ .inl ((converts_iff ha hb).mpr hfound), fun _ ↦ rfl⟩
  · rename_i hfound
    rw [← converts_iff ha hb] at hfound
    split
    · rename_i hsame
      obtain ⟨rfl, rfl⟩ := hsame
      exact .of_ok ⟨nofun, fun h ↦ (h.elim hfound hfound).elim⟩
    · exact .of_ok ((converts_iff hp hq).symm.trans (or_iff_right hfound).symm)

/-- The rule of conversions gives an answer, and says exactly when there is a conversion. -/
theorem exists_conversionRule? (hs : env.store.WellFormed) (hca : env.store.contains a = true)
    (hcb : env.store.contains b = true) (hx : env.store.Lands a p x) (hy : env.store.Lands b q y) :
    ∃ answer, env.conversionRule? a b = .ok answer ∧
      (answer = some .implicitConversion ↔ (env.store.unfolding b).kind.isPointer = false ∧
        (env.Converts a b ∨ env.Converts p q)) := by
  rw [conversionRule?]
  split
  · rename_i hpointer
    exact ⟨none, rfl, by simp [hpointer]⟩
  · rename_i hpointer
    obtain ⟨yes, hyes, hconv⟩ := hasConversion_decides hs hca hcb hx hy
    rw [hyes, and_iff_right (Bool.eq_false_iff.mpr hpointer), ← hconv]
    exact ⟨_, rfl, by cases yes <;> decide⟩

/-- Explicit conversions are looked at too, but none of them is found. -/
theorem conversionRule?_of_no_implicits (hs : env.store.WellFormed)
    (hca : env.store.contains a = true) (hcb : env.store.contains b = true)
    (hnone : env.conversions.implicits = []) : env.conversionRule? a b = .ok none := by
  obtain ⟨p, x, hx⟩ := hs.exists_lands hca
  obtain ⟨q, y, hy⟩ := hs.exists_lands hcb
  obtain ⟨answer, h, hiff⟩ := exists_conversionRule? hs hca hcb hx hy
  cases answer with
  | none => exact h
  | some rule =>
    cases eq_implicitConversion_of_conversionRule? h
    have hnot := not_converts_of_no_implicits hnone
    exact ((hiff.mp rfl).2.elim (hnot a b) (hnot p q)).elim

/-! ## Assignment respects type equality -/

/-- **The rule of an assignment depends on which types are meant, and not on how they are written
down**, unless it is that of a conversion.  Without implicit conversions this holds of rejections
too. -/
theorem assignRule?_respects_sameType (hr : env.Reachable) (hs : env.store.WellFormed)
    {a a' b b' : Handle} (hca : env.store.contains a = true) (hca' : env.store.contains a' = true)
    (hcb : env.store.contains b = true) (hcb' : env.store.contains b' = true)
    (ha : env.store.sameType a a' = .ok true) (hb : env.store.sameType b b' = .ok true) :
    (∀ rule, env.assignRule? a b = .ok (some rule) → rule ≠ .implicitConversion →
        env.assignRule? a' b' = .ok (some rule)) ∧
      (env.conversions.implicits = [] →
        ∃ answer, env.assignRule? a b = .ok answer ∧ env.assignRule? a' b' = .ok answer) := by
  rw [assignRule?_eq hr.anchored hs hca hcb, assignRule?_eq hr.anchored hs hca' hcb',
    ← (hs.sameType_decides hca hca').eq_true_iff.mp ha,
    ← (hs.sameType_decides hcb hcb').eq_true_iff.mp hb]
  cases env.firstAllowed _ _ AssignRule.builtIn with
  | some first => exact ⟨fun _ h _ ↦ h, fun _ ↦ ⟨some first, rfl, rfl⟩⟩
  | none =>
    refine ⟨fun rule h hne ↦ absurd (eq_implicitConversion_of_conversionRule? h) hne, fun hn ↦ ?_⟩
    exact ⟨none, conversionRule?_of_no_implicits hs hca hcb hn,
      conversionRule?_of_no_implicits hs hca' hcb' hn⟩

/-- A class and a descendant, a second body for the descendant under another spelling that only the
store knows, and an alias for the ancestor. -/
def secondBody : TypeEnv :=
  (TypeEnv.new { withBuiltins := false }).run
    [.declareNamed (.classType { name := "TBase" }) ⟨1, 1, 0⟩,
      .declareNamed (.classType { name := "TChild", parent := some "TBASE" }) ⟨2, 1, 0⟩,
      .push (.classType { name := "tchild" }),
      .declareNamed (.aliasType ⟨"TRoot", ⟨7⟩⟩) ⟨3, 1, 0⟩]

/-- The second body has no parent, and still goes where the first one goes. -/
theorem assignRule?_secondBody : secondBody.store.WellFormed ∧
    secondBody.assignRule? ⟨8⟩ ⟨7⟩ = .ok (some .classUpcast) ∧
      secondBody.assignRule? ⟨9⟩ ⟨10⟩ = .ok (some .classUpcast) := by
  have hr : secondBody.Reachable := ⟨_, _, rfl⟩
  have hs : secondBody.store.WellFormed := by decide
  have hrule : secondBody.assignRule? ⟨8⟩ ⟨7⟩ = .ok (some .classUpcast) := rfl
  refine ⟨hs, hrule, ?_⟩
  exact (assignRule?_respects_sameType hr hs rfl rfl rfl rfl rfl rfl).1 _ hrule nofun

/-! ## Assignment looks through aliases -/

/-- An alias keeps the conversions of the type that it stands for, and adds those that are
registered for itself. -/
theorem conversionRule?_underlying (hs : env.store.WellFormed) (hca : env.store.contains a = true)
    (hcb : env.store.contains b = true) (hx : env.store.Lands a p x) (hy : env.store.Lands b q y) :
    ∃ bare answer, env.conversionRule? p q = .ok bare ∧ env.conversionRule? a b = .ok answer ∧
      (∀ rule, bare = some rule → answer = some rule) ∧
      (bare = none → ∀ rule, answer = some rule ↔ rule = .implicitConversion ∧
        env.Converts a b ∧ (env.store.unfolding b).kind.isPointer = false) := by
  have hcp := TypeStore.contains_of_shape hx.shape
  have hcq := TypeStore.contains_of_shape hy.shape
  obtain ⟨bare, hbare, hbare_iff⟩ := exists_conversionRule? hs hcp hcq hx.self hy.self
  obtain ⟨answer, hanswer, hanswer_iff⟩ := exists_conversionRule? hs hca hcb hx hy
  rw [or_self, ← hy.unfolding_underlying hs] at hbare_iff
  refine ⟨bare, answer, hbare, hanswer, ?_, ?_⟩
  · rintro rule rfl
    cases eq_implicitConversion_of_conversionRule? hbare
    obtain ⟨hpointer, hconv⟩ := hbare_iff.mp rfl
    exact hanswer_iff.mpr ⟨hpointer, .inr hconv⟩
  · rintro rfl rule
    constructor
    · rintro rfl
      cases eq_implicitConversion_of_conversionRule? hanswer
      obtain ⟨hpointer, hconv⟩ := hanswer_iff.mp rfl
      have hnot : ¬env.Converts p q := by
        intro hconv
        cases hbare_iff.mpr ⟨hpointer, hconv⟩
      exact ⟨rfl, hconv.resolve_right hnot, hpointer⟩
    · rintro ⟨rfl, hconv, hpointer⟩
      exact hanswer_iff.mpr ⟨hpointer, .inl hconv⟩

/-- **An assignment between aliases is the assignment between what they stand for**, except that an
alias can have conversions of its own.  These are all that it adds. -/
theorem assignRule?_underlying (hr : env.Reachable) (hs : env.store.WellFormed)
    (hca : env.store.contains a = true) (hcb : env.store.contains b = true) :
    ∃ p q bare answer, env.store.underlying a = .ok p ∧ env.store.underlying b = .ok q ∧
      env.assignRule? p q = .ok bare ∧ env.assignRule? a b = .ok answer ∧
      (∀ rule, bare = some rule → answer = some rule) ∧
      (bare = none → ∀ rule, answer = some rule ↔ rule = .implicitConversion ∧
        env.Converts a b ∧ (env.store.unfolding b).kind.isPointer = false) := by
  obtain ⟨p, x, hx⟩ := hs.exists_lands hca
  obtain ⟨q, y, hy⟩ := hs.exists_lands hcb
  obtain ⟨bare, answer, hbare, hanswer, hkeeps, hadds⟩ :=
    conversionRule?_underlying hs hca hcb hx hy
  have hp := assignRule?_eq hr.anchored hs (TypeStore.contains_of_shape hx.shape)
    (TypeStore.contains_of_shape hy.shape)
  have ha := assignRule?_eq hr.anchored hs hca hcb
  rw [hbare, ← hx.unfolding_underlying hs, ← hy.unfolding_underlying hs] at hp
  rw [hanswer] at ha
  -- the table sees the same trees on both sides, and only conversions see the aliases
  cases hf : env.firstAllowed (env.store.unfolding a) (env.store.unfolding b)
      AssignRule.builtIn with
  | some found =>
    rw [hf] at hp ha
    exact ⟨p, q, some found, some found, hx.underlying, hy.underlying, hp, ha, fun _ h ↦ h, nofun⟩
  | none =>
    rw [hf] at hp ha
    exact ⟨p, q, bare, answer, hx.underlying, hy.underlying, hp, ha, hkeeps, hadds⟩

/-- A class, a descendant, an alias for each of them and an alias of an alias, and a conversion that
is registered for the last one. -/
def nicknames : TypeEnv :=
  (TypeEnv.new { withBuiltins := false }).run
    [.declareNamed (.classType { name := "TBase" }) ⟨1, 1, 0⟩,
      .declareNamed (.classType { name := "TChild", parent := some "TBASE" }) ⟨2, 1, 0⟩,
      .declareNamed (.aliasType ⟨"TRoot", ⟨7⟩⟩) ⟨3, 1, 0⟩,
      .declareNamed (.aliasType ⟨"TKid", ⟨8⟩⟩) ⟨4, 1, 0⟩,
      .declareNamed (.aliasType ⟨"TStart", ⟨9⟩⟩) ⟨5, 1, 0⟩,
      .editConversions fun g ↦ (g.register ⟨"Integer", "tstart", "StartFromInteger", true⟩).2]

/-- The upcast stays what it is between aliases.  The conversion leads to the alias, and not to the
class. -/
theorem assignRule?_nicknames : nicknames.store.WellFormed ∧
    nicknames.assignRule? ⟨10⟩ ⟨11⟩ = .ok (some .classUpcast) ∧
      nicknames.assignRule? ⟨0⟩ ⟨7⟩ = .ok none ∧
      nicknames.assignRule? ⟨0⟩ ⟨11⟩ = .ok (some .implicitConversion) := by
  have hr : nicknames.Reachable := ⟨_, _, rfl⟩
  have hs : nicknames.store.WellFormed := by decide
  have hroot : nicknames.store.underlying ⟨11⟩ = .ok ⟨7⟩ := rfl
  have hnone : nicknames.assignRule? ⟨0⟩ ⟨7⟩ = .ok none := rfl
  refine ⟨hs, ?_, hnone, ?_⟩
  · have hkid : nicknames.store.underlying ⟨10⟩ = .ok ⟨8⟩ := rfl
    have hup : nicknames.assignRule? ⟨8⟩ ⟨7⟩ = .ok (some .classUpcast) := rfl
    obtain ⟨p, q, bare, answer, hp, hq, hbare, hanswer, hkeep, -⟩ :=
      assignRule?_underlying (a := ⟨10⟩) (b := ⟨11⟩) hr hs rfl rfl
    cases hkid.symm.trans hp
    cases hroot.symm.trans hq
    cases hup.symm.trans hbare
    rw [hanswer, hkeep _ rfl]
  · have hinteger : nicknames.store.underlying ⟨0⟩ = .ok ⟨0⟩ := rfl
    have hconv : nicknames.Converts ⟨0⟩ ⟨11⟩ := ⟨"Integer", "TStart", rfl, rfl, rfl⟩
    obtain ⟨p, q, bare, answer, hp, hq, hbare, hanswer, -, hadds⟩ :=
      assignRule?_underlying (a := ⟨0⟩) (b := ⟨11⟩) hr hs rfl rfl
    cases hinteger.symm.trans hp
    cases hroot.symm.trans hq
    cases hnone.symm.trans hbare
    rw [hanswer, (hadds rfl _).mpr ⟨rfl, hconv, rfl⟩]

/-! ## Upcasts compose -/

/-- What a class implements is implemented by the classes at or below it. -/
theorem Implements.of_atOrBelow {name other target : String} (h : env.Implements other target)
    (hc : env.classes.classes.Indexed ClassNode.name) (hd : env.classes.AtOrBelow name other) :
    env.Implements name target := by
  rcases hd with hd | hd
  · exact h.congr (sameName_symm hd) (.here (sameName_refl target))
  · exact h.of_descends hc hd

theorem ClassBelow.trans (hc : env.classes.classes.Indexed ClassNode.name)
    (htu : env.ClassBelow t u) (huv : env.ClassBelow u v) : env.ClassBelow t v := by
  obtain ⟨a, b, rfl, rfl, hab⟩ := htu
  obtain ⟨b', c, hb, rfl, hbc⟩ := huv
  have hab' : env.classes.AtOrBelow a b' := hab.trans hc (.inl (Unfolding.ofClass_inj.mp hb))
  exact ⟨a, c, rfl, rfl, hab'.trans hc hbc⟩

/-- **A class can go wherever its ancestors can.** -/
theorem ClassBelow.allows (hc : env.classes.classes.Indexed ClassNode.name)
    (htu : env.ClassBelow t u) (h : env.Allows u v rule) (hr : rule ∈ AssignRule.upcasts) :
    env.Allows t v rule := by
  have hku := htu.kind.2
  rcases AssignRule.mem_upcasts_iff.mp hr with rfl | rfl | rfl | rfl | rfl
  · exact htu.trans hc h
  · obtain ⟨u', v', rfl, -⟩ := h
    cases hku
  · obtain ⟨v', rfl, h⟩ := h
    exact ⟨v', rfl, htu.trans hc h⟩
  · obtain ⟨b', i, rfl, rfl, h⟩ := h
    obtain ⟨a, b, rfl, hb, hab⟩ := htu
    have hab' := hab.trans hc (.inl (sameName_symm (Unfolding.ofClass_inj.mp hb)))
    exact ⟨a, i, rfl, rfl, h.of_atOrBelow hc hab'⟩
  · obtain ⟨i, j, rfl, -⟩ := h
    cases hku

/-- From a metaclass only one upcast leads on. -/
theorem allows_metaclass (h : env.Allows (.metaclass t) v rule) (hr : rule ∈ AssignRule.upcasts) :
    ∃ v', v = .metaclass v' ∧ env.ClassBelow t v' := by
  rcases AssignRule.mem_upcasts_iff.mp hr with rfl | rfl | rfl | rfl | rfl
  · cases (ClassBelow.kind h).1
  · obtain ⟨t', v', ht, rfl, h⟩ := h
    cases ht
    exact ⟨v', rfl, h⟩
  · obtain ⟨v', rfl, h⟩ := h
    cases h.kind.1
  · obtain ⟨c, i, ht, -⟩ := h
    cases ht
  · obtain ⟨i, j, ht, -⟩ := h
    cases ht

/-- From an interface only one upcast leads on. -/
theorem allows_ofInterface {i : String} (h : env.Allows (.ofInterface i) v rule)
    (hr : rule ∈ AssignRule.upcasts) : ∃ j, v = .ofInterface j ∧ env.Reaches j i := by
  rcases AssignRule.mem_upcasts_iff.mp hr with rfl | rfl | rfl | rfl | rfl
  · cases (ClassBelow.kind h).1
  · obtain ⟨t', v', ht, -⟩ := h
    cases ht
  · obtain ⟨v', rfl, h⟩ := h
    cases h.kind.1
  · obtain ⟨c, j, ht, -⟩ := h
    cases congrArg Unfolding.kind ht
  · obtain ⟨i', j, hi, rfl, h⟩ := h
    exact ⟨j, rfl, h.congr (sameName_symm (Unfolding.ofInterface_inj.mp hi))⟩

/-- Two upcasts can be made in one. -/
theorem exists_upcast_of_upcasts (hc : env.classes.classes.Indexed ClassNode.name)
    (htu : env.Allows t u rule) (hr : rule ∈ AssignRule.upcasts) (huv : env.Allows u v rule')
    (hr' : rule' ∈ AssignRule.upcasts) : ∃ r ∈ AssignRule.upcasts, env.Allows t v r := by
  rcases AssignRule.mem_upcasts_iff.mp hr with rfl | rfl | rfl | rfl | rfl
  · exact ⟨rule', hr', ClassBelow.allows hc htu huv hr'⟩
  · obtain ⟨t', u', rfl, rfl, h⟩ := htu
    obtain ⟨v', rfl, h'⟩ := allows_metaclass huv hr'
    exact ⟨_, hr, t', v', rfl, rfl, h.trans hc h'⟩
  · obtain ⟨u', rfl, h⟩ := htu
    obtain ⟨v', rfl, h'⟩ := allows_metaclass huv hr'
    exact ⟨_, hr, v', rfl, h.trans hc h'⟩
  · obtain ⟨c, i, rfl, rfl, h⟩ := htu
    obtain ⟨j, rfl, h'⟩ := allows_ofInterface huv hr'
    exact ⟨_, hr, c, j, rfl, rfl, h.congr (sameName_refl c) h'⟩
  · obtain ⟨i, i', rfl, rfl, h⟩ := htu
    obtain ⟨j, rfl, h'⟩ := allows_ofInterface huv hr'
    exact ⟨_, hr, i, j, rfl, rfl, h.trans h'⟩

/-- The rules around the upcasts do not get in their way. -/
theorem firstAllowed_builtIn_of_upcast (h : env.Allows t u rule) (hr : rule ∈ AssignRule.upcasts)
    (hne : t ≠ u) : env.firstAllowed t u AssignRule.builtIn = some rule := by
  have hk := upcastFor?_of_allows h hr
  obtain ⟨hint, hnil, -, -⟩ := AssignRule.kinds_of_upcastFor? hk
  have hid : ¬env.Allows t u .identical := hne
  have hwiden : ¬env.Allows t u .numericWidening := fun hw ↦ hint hw.1
  have hnil : ¬env.Allows t u .nil := fun hn ↦ Bool.false_ne_true (hnil.symm.trans hn)
  rw [AssignRule.builtIn, firstAllowed_append, firstAllowed_append, firstAllowed_append,
    firstAllowed_append, firstAllowed_singleton_of_not hid, firstAllowed_singleton_of_not hwiden,
    firstAllowed_singleton_of_not hnil, firstAllowed_shapeRules_of_upcast hk,
    firstAllowed_singleton h]
  rfl

/-- An answer leads upwards exactly if one of the rules that lead upwards holds. -/
theorem exists_upward_iff (ha : env.Anchored) (hs : env.store.WellFormed)
    (hca : env.store.contains a = true) (hcb : env.store.contains b = true) :
    (∃ r ∈ AssignRule.upward, env.assignRule? a b = .ok (some r)) ↔
      ∃ r ∈ AssignRule.upward, env.Allows (env.store.unfolding a) (env.store.unfolding b) r := by
  have hiff : ∀ r ∈ AssignRule.upward, env.assignRule? a b = .ok (some r) ↔
      env.firstAllowed (env.store.unfolding a) (env.store.unfolding b) AssignRule.builtIn =
        some r := by
    intro r hr
    refine assignRule?_eq_ok_some_iff ha hs hca hcb ?_
    rintro rfl
    exact absurd hr (by decide)
  constructor
  · rintro ⟨r, hr, h⟩
    exact ⟨r, hr, allows_of_firstAllowed ((hiff r hr).mp h)⟩
  · rintro ⟨r, hr, h⟩
    by_cases heq : env.store.unfolding a = env.store.unfolding b
    · have hid : env.Allows (env.store.unfolding a) (env.store.unfolding b) .identical := heq
      refine ⟨.identical, List.mem_cons_self, (hiff _ List.mem_cons_self).mpr ?_⟩
      rw [AssignRule.builtIn, firstAllowed_append, firstAllowed_singleton hid]
      rfl
    · rcases List.mem_cons.mp hr with rfl | hup
      · exact absurd h heq
      · exact ⟨r, hr, (hiff r hr).mpr (firstAllowed_builtIn_of_upcast h hup heq)⟩

/-- **Upcasts compose.** -/
theorem assignRule?_upward_trans (hr : env.Reachable) (hs : env.store.WellFormed)
    (hca : env.store.contains a = true) (hcb : env.store.contains b = true)
    (hcc : env.store.contains c = true)
    (hab : ∃ r ∈ AssignRule.upward, env.assignRule? a b = .ok (some r))
    (hbc : ∃ r ∈ AssignRule.upward, env.assignRule? b c = .ok (some r)) :
    ∃ r ∈ AssignRule.upward, env.assignRule? a c = .ok (some r) := by
  have ha := hr.anchored
  obtain ⟨r, hr, h⟩ := (exists_upward_iff ha hs hca hcb).mp hab
  obtain ⟨r', hr', h'⟩ := (exists_upward_iff ha hs hcb hcc).mp hbc
  refine (exists_upward_iff ha hs hca hcc).mpr ?_
  rcases List.mem_cons.mp hr with rfl | hup
  · exact ⟨r', hr', (show env.store.unfolding a = _ from h) ▸ h'⟩
  · rcases List.mem_cons.mp hr' with rfl | hup'
    · exact ⟨r, hr, (show env.store.unfolding b = _ from h') ▸ h⟩
    · obtain ⟨q, hq, hac⟩ := exists_upcast_of_upcasts ha.classes_indexed h hup h' hup'
      exact ⟨q, List.mem_cons_of_mem _ hq, hac⟩

/-- An interface that extends itself by way of another one, a class that implements the other one, a
descendant of the class, and an alias for the descendant. -/
def circularInterfaces : TypeEnv :=
  (TypeEnv.new { withBuiltins := false }).run
    [.declareNamed (.interfaceType { name := "IShape", parent := some "iround" }) ⟨1, 1, 0⟩,
      .declareNamed (.interfaceType { name := "IRound", parent := some "ISHAPE" }) ⟨2, 1, 0⟩,
      .declareNamed (.classType { name := "TCircle", interfaces := ["IRound"] }) ⟨3, 1, 0⟩,
      .declareNamed (.classType { name := "TDisc", parent := some "tCircle" }) ⟨4, 1, 0⟩,
      .declareNamed (.aliasType ⟨"TPlate", ⟨10⟩⟩) ⟨5, 1, 0⟩]

theorem assignRule?_circularInterfaces : circularInterfaces.store.WellFormed ∧
    circularInterfaces.assignRule? ⟨11⟩ ⟨9⟩ = .ok (some .classUpcast) ∧
      circularInterfaces.assignRule? ⟨9⟩ ⟨7⟩ = .ok (some .interfaceImplementation) ∧
      ∃ r ∈ AssignRule.upward, circularInterfaces.assignRule? ⟨11⟩ ⟨7⟩ = .ok (some r) := by
  have hr : circularInterfaces.Reachable := ⟨_, _, rfl⟩
  have hs : circularInterfaces.store.WellFormed := by decide
  have hab : circularInterfaces.assignRule? ⟨11⟩ ⟨9⟩ = .ok (some .classUpcast) := rfl
  have hbc : circularInterfaces.assignRule? ⟨9⟩ ⟨7⟩ = .ok (some .interfaceImplementation) := rfl
  refine ⟨hs, hab, hbc, ?_⟩
  exact assignRule?_upward_trans hr hs rfl rfl rfl ⟨_, by decide, hab⟩ ⟨_, by decide, hbc⟩

end PascalTypes.TypeEnv
