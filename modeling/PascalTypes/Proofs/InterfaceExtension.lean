import PascalTypes.Proofs.InterfaceChains

/-!
# The laws of extension

That an interface extends another one is found out by a walk along names, which may come back to
where it was.  `TypeEnv.ExtensionLaws` says what this amounts to.  The walk ends by itself, whatever
the parents are.  Extension is reachability along parents, so it is reflexive and transitive, and a
class implements all that its ancestors and the interfaces they list imply.

Only one thing can go wrong, and it has nothing to do with interfaces.  A name may stand for an
alias of a type that is not there.  A walk that comes by such a name has no answer, not even to the
question whether the name extends itself (`interfaceExtends_strayAlias`).  All other walks have one
(`guided_iff`).
-/

set_option autoImplicit false

namespace PascalTypes.TypeEnv

variable {env : TypeEnv} {name other target : String}

/-! ## The walk ends by itself -/

/-- **The bound on a walk is never used up.**  The names that were met are different, and all of
them are in the table of types. -/
theorem interfaceChainFrom_succ {n : Nat} {met : List NameKey}
    (hfuel : env.types.size + 1 ≤ met.length + n) (hnodup : met.Nodup)
    (hmet : met ⊆ env.types.types.entries.map NameEntry.key) :
    env.interfaceChainFrom (n + 1) met name = env.interfaceChainFrom n met name := by
  induction n generalizing met name with
  | zero =>
    have hle := length_le_size_types hnodup hmet
    omega
  | succ n ih =>
    rw [interfaceChainFrom, interfaceChainFrom]
    split
    · rfl
    · rename_i hname
      cases hi : env.interfaceNamed? name with
      | error e => rfl
      | ok i =>
        cases hp : i.bind InterfaceShape.parent with
        | none => simp only [bind, Except.bind, hp]
        | some parent =>
          obtain ⟨j, rfl, hj⟩ := Option.bind_eq_some_iff.mp hp
          have hkey := ParentInterface.mem_keys ⟨j, hi, hj⟩
          have hrest : env.interfaceChainFrom (n + 1) (NameKey.of name :: met) parent =
              env.interfaceChainFrom n (NameKey.of name :: met) parent :=
            ih (by rw [List.length_cons]; omega) (List.nodup_cons.mpr ⟨hname, hnodup⟩)
              (List.cons_subset.mpr ⟨hkey, hmet⟩)
          simp only [bind, Except.bind, hp, hrest]

theorem interfaceChainFrom_of_le {n : Nat} (h : env.types.size + 1 ≤ n) (name : String) :
    env.interfaceChainFrom n [] name = env.interfaceChain name := by
  induction h with
  | refl => rfl
  | step hle ih =>
    rw [interfaceChainFrom_succ (by rwa [List.length_nil, Nat.zero_add]) List.nodup_nil
      (List.nil_subset _), ih]

/-! ## Walks that have an answer -/

theorem reaches_of_reflTransGen (h : Relation.ReflTransGen env.ParentInterface name other) :
    env.Reaches other name := by
  induction h using Relation.ReflTransGen.head_induction_on with
  | refl => exact .here (sameName_refl other)
  | head hp _ ih => exact .up hp ih

theorem exists_interfaceNamed?_of_mem {n : Nat} {met : List NameKey} {l : List String}
    (h : env.interfaceChainFrom n met name = .ok l) (hm : other ∈ l) :
    ∃ i, env.interfaceNamed? other = .ok i := by
  induction n generalizing met name l with
  | zero =>
    cases h
    cases hm
  | succ n ih =>
    rcases interfaceChainFrom_cases h with
      ⟨-, rfl⟩ | ⟨hi, -, rfl⟩ | ⟨parent, rest, -, ⟨i, hi, -⟩, hrest, rfl⟩
    · cases hm
    · rwa [List.mem_singleton.mp hm]
    · rcases List.mem_cons.mp hm with rfl | hm
      · exact ⟨_, hi⟩
      · exact ih hrest hm

/-- **A walk has an answer exactly if no name on the way stands for an alias that leads out of the
store.** -/
theorem guided_iff : env.Guided name ↔ ∃ l, env.interfaceChain name = .ok l := by
  refine ⟨fun hg ↦ hg.exists_interfaceChainFrom _ _, ?_⟩
  rintro ⟨l, hl⟩ n hn
  obtain ⟨m, hm, hsame⟩ := interfaceChain_complete hl (reaches_of_reflTransGen hn)
  rw [← exists_interfaceNamed?_iff, ← env.interfaceNamed?_congr hsame]
  exact exists_interfaceNamed?_of_mem hl hm

theorem guided_of_interfaceExtends {yes : Bool} (h : env.interfaceExtends name target = .ok yes) :
    env.Guided name := by
  obtain ⟨l, hl, -⟩ := bind_eq_ok.mp h
  exact guided_iff.mpr ⟨l, hl⟩

theorem reaches_of_interfaceExtends (h : env.interfaceExtends name target = .ok true) :
    env.Reaches target name :=
  (interfaceExtends_iff_of_eq_ok h).mp rfl

theorem interfaceExtends_trans (h : env.interfaceExtends name other = .ok true)
    (h' : env.interfaceExtends other target = .ok true) :
    env.interfaceExtends name target = .ok true := by
  have hreach := (reaches_of_interfaceExtends h).trans (reaches_of_interfaceExtends h')
  exact ((guided_of_interfaceExtends h).interfaceExtends_decides target).eq_true_iff.mpr hreach

/-! ## The laws -/

/-- Extension is reachability, and implementation goes along with descent and extension. -/
structure ExtensionLaws (env : TypeEnv) : Prop where
  /-- More steps than a walk may take lead no further. -/
  ends : ∀ f n, env.types.size + 1 ≤ n → env.interfaceChainFrom n [] f = env.interfaceChain f
  answered_iff : ∀ f t, (∃ yes, env.interfaceExtends f t = .ok yes) ↔ env.Guided f
  extends_iff : ∀ f t, env.Guided f → (env.interfaceExtends f t = .ok true ↔ env.Reaches t f)
  refl : ∀ f, env.Guided f → env.interfaceExtends f f = .ok true
  trans : ∀ f g t, env.interfaceExtends f g = .ok true → env.interfaceExtends g t = .ok true →
    env.interfaceExtends f t = .ok true
  implements_answered : ∀ d j, env.GuidedClass d → ∃ yes, env.implementsInterface d j = .ok yes
  /-- Whatever else the class lists, the only answer is yes. -/
  implements : ∀ c d i j yes, env.implementsInterface c i = .ok true →
    env.classes.descends d c = true → env.interfaceExtends i j = .ok true →
      env.implementsInterface d j = .ok yes → yes = true

/-- **The laws of extension hold in every environment whose tables refer to types in its store.** -/
theorem extensionLaws (ha : env.Anchored) : env.ExtensionLaws where
  ends f n hn := interfaceChainFrom_of_le hn f
  answered_iff f t := by
    constructor
    · rintro ⟨yes, hyes⟩
      exact guided_of_interfaceExtends hyes
    · intro hg
      obtain ⟨yes, hyes, -⟩ := hg.interfaceExtends_decides t
      exact ⟨yes, hyes⟩
  extends_iff f t hg := (hg.interfaceExtends_decides t).eq_true_iff
  refl f hg := (hg.interfaceExtends_decides f).eq_true_iff.mpr (.here (sameName_refl f))
  trans f g t hfg hgt := interfaceExtends_trans hfg hgt
  implements_answered d j hg := by
    obtain ⟨yes, hyes, -⟩ := hg.implementsInterface_decides j
    exact ⟨yes, hyes⟩
  implements c d i j yes hci hdc hij hdj := by
    have himplements := (implementsInterface_iff_of_eq_ok hci).mp rfl
    have hdi := himplements.of_descends ha.classes_indexed hdc
    exact (implementsInterface_iff_of_eq_ok hdj).mpr
      (hdi.congr (sameName_refl d) (reaches_of_interfaceExtends hij))

/-- Two interfaces that extend each other, an alias for one of them that a class lists, a descendant
of the class, and an alias for a type that is not there. -/
def roundTrip : TypeEnv :=
  (TypeEnv.new { withBuiltins := false }).run
    [.declareNamed (.interfaceType { name := "IA", parent := some "ib" }) ⟨1, 1, 0⟩,
      .declareNamed (.interfaceType { name := "IB", parent := some "ia" }) ⟨2, 1, 0⟩,
      .declareNamed (.aliasType ⟨"IX", ⟨8⟩⟩) ⟨3, 1, 0⟩,
      .declareNamed (.classType { name := "TC", interfaces := ["ix"] }) ⟨4, 1, 0⟩,
      .declareNamed (.classType { name := "TD", parent := some "tc" }) ⟨5, 1, 0⟩,
      .declareNamed (.aliasType ⟨"A", ⟨99⟩⟩) ⟨6, 1, 0⟩]

/-- The stray alias is in nobody's way but its own. -/
theorem extensionLaws_roundTrip : roundTrip.Anchored ∧
    roundTrip.interfaceExtends "ix" "IB" = .ok true ∧
      roundTrip.interfaceExtends "IB" "ix" = .ok false ∧
      roundTrip.implementsInterface "td" "IA" = .ok true ∧
      ¬roundTrip.Guided "a" ∧ roundTrip.ExtensionLaws := by
  have ha : roundTrip.Anchored := Reachable.anchored ⟨_, _, rfl⟩
  have hlaws := extensionLaws ha
  have hstray : roundTrip.interfaceExtends "a" "a" = .error (.strayHandle ⟨99⟩) := rfl
  refine ⟨ha, rfl, rfl, rfl, fun hg ↦ ?_, hlaws⟩
  cases hstray.symm.trans (hlaws.refl "a" hg)

/-- An alias for a type that is not there. -/
def strayAlias : TypeEnv :=
  (TypeEnv.new {}).run [.declareNamed (.aliasType ⟨"A", ⟨99⟩⟩) ⟨1, 1, 0⟩]

/-- All handles in the tables are good.  Still there is no answer to whether the alias extends
itself. -/
theorem interfaceExtends_strayAlias : strayAlias.Anchored ∧ strayAlias.Reaches "A" "A" ∧
    strayAlias.interfaceExtends "A" "A" = .error (.strayHandle ⟨99⟩) :=
  ⟨Reachable.anchored ⟨_, _, rfl⟩, .here (sameName_refl "A"), rfl⟩

end PascalTypes.TypeEnv
