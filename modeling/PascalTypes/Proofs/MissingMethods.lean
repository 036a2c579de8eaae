import PascalTypes.Proofs.InterfaceExtension
import PascalTypes.Proofs.Unfolding

/-!
# Missing methods

The report of missing methods goes through the chain of an interface, and asks for each method that
is declared there whether the class has one with the same name and signature.  The main statement,
`TypeEnv.missingMethods_exact`, says that there always is a report, as long as signatures are types
of the store, and that it is exact: it has those names that are required somewhere and not provided
(`TypeEnv.Unmet`).

The report on an interface contains the report on every interface it extends.  Where interfaces
extend each other in a circle, their chains start at different places, so neither chain is a part of
the other.  But the names in a chain are those that the interface extends, whatever their order, and
extension is transitive.
-/

set_option autoImplicit false

namespace PascalTypes

/-- The methods that a class or an interface declares. -/
def Shape.methods : Shape → NameMap Method
  | .classType c => c.methods
  | .interfaceType i => i.methods
  | _ => {}

namespace TypeStore

variable {s : TypeStore} {h : Handle} {x : Shape} {m : Method}

/-- The signatures of all methods are types of the store. -/
def SignaturesInside (s : TypeStore) : Prop :=
  ∀ i, (hi : i < s.shapes.size) → ∀ m ∈ s.shapes[i].methods.values, s.contains m.signature = true

instance (s : TypeStore) : Decidable s.SignaturesInside :=
  inferInstanceAs (Decidable (∀ i, (hi : i < s.shapes.size) →
    ∀ m ∈ s.shapes[i].methods.values, s.contains m.signature = true))

theorem SignaturesInside.of_resolved (hsig : s.SignaturesInside) (hx : s.resolved h = .ok x)
    (hm : m ∈ x.methods.values) : s.contains m.signature = true := by
  obtain ⟨u, -, hu⟩ := bind_eq_ok.mp hx
  obtain ⟨hlt, rfl⟩ := Array.getElem?_eq_some_iff.mp (shape_eq_ok_iff.mp hu)
  exact hsig u.index hlt m hm

theorem SignaturesInside.of_class? {c : ClassShape} (hsig : s.SignaturesInside)
    (hc : s.class? h = .ok (some c)) (hm : m ∈ c.methods.values) :
    s.contains m.signature = true := by
  obtain ⟨x, hx, hc⟩ := bind_eq_ok.mp hc
  cases x with
  | classType c' =>
    cases hc
    exact hsig.of_resolved hx hm
  | _ => cases hc

theorem SignaturesInside.of_interface? {i : InterfaceShape} (hsig : s.SignaturesInside)
    (hi : s.interface? h = .ok (some i)) (hm : m ∈ i.methods.values) :
    s.contains m.signature = true := by
  obtain ⟨x, hx, hi⟩ := bind_eq_ok.mp hi
  cases x with
  | interfaceType i' =>
    cases hi
    exact hsig.of_resolved hx hm
  | _ => cases hi

end TypeStore

namespace TypeEnv

variable {env : TypeEnv} {c i j k n : String}

/-! ## What is required, and what is provided -/

/-- The method that a class has under a name is of the type `signature`. -/
def Provides (env : TypeEnv) (c method : String) (signature : Handle) : Prop :=
  ∃ m owner, env.findMethod? c method = .ok (some (m, owner)) ∧
    env.store.sameType m.signature signature = .ok true

/-- The interface behind `k` declares a method with the name `n`, which the class does not
provide. -/
def Unmet (env : TypeEnv) (c k n : String) : Prop :=
  ∃ shape m, env.interfaceNamed? k = .ok (some shape) ∧ (n, m) ∈ shape.methods.toList ∧
    ¬env.Provides c n m.signature

/-- The class provides all methods that the interface and the interfaces it extends declare. -/
def Fulfils (env : TypeEnv) (c i : String) : Prop :=
  ∀ k shape, env.interfaceExtends i k = .ok true → env.interfaceNamed? k = .ok (some shape) →
    ∀ n m, (n, m) ∈ shape.methods.toList → env.Provides c n m.signature

theorem Unmet.congr (h : env.Unmet c k n) (hsame : sameName k j = true) : env.Unmet c j n := by
  rwa [Unmet, ← env.interfaceNamed?_congr hsame]

theorem findMethod?_of_classChain {l : List (String × ClassShape)} (hl : env.classChain c = .ok l)
    (n : String) : env.findMethod? c n = .ok (firstMember? (fun c ↦ c.methods.get? n) l) := by
  rw [findMethod?, hl]
  rfl

/-- A method that is found is declared by a class of the store. -/
theorem contains_signature_of_findMethod? (ha : env.Anchored) (hs : env.store.WellFormed)
    (hsig : env.store.SignaturesInside) {m : Method} {owner : String}
    (h : env.findMethod? c n = .ok (some (m, owner))) : env.store.contains m.signature = true := by
  obtain ⟨l, hl⟩ := (ha.guidedClass hs c).exists_classChain
  rw [findMethod?_of_classChain hl] at h
  obtain ⟨p, hp, hfound⟩ := List.exists_of_findSome?_eq_some (Except.ok.inj h)
  obtain ⟨m', hget, heq⟩ := Option.map_eq_some_iff.mp hfound
  cases heq
  obtain ⟨chain, -, e, -, hclass, -⟩ := (mem_classChain_iff hl).mp hp
  obtain ⟨entry, hentry, rfl⟩ := Option.map_eq_some_iff.mp hget
  obtain ⟨hentry, -⟩ := NameMap.find?_eq_some_iff.mp hentry
  exact hsig.of_class? hclass (List.mem_map.mpr ⟨entry, hentry, rfl⟩)

theorem contains_signature_of_interfaceNamed? (hsig : env.store.SignaturesInside)
    {shape : InterfaceShape} (h : env.interfaceNamed? k = .ok (some shape)) {p : String × Method}
    (hp : p ∈ shape.methods.toList) : env.store.contains p.2.signature = true := by
  rw [interfaceNamed?] at h
  cases hres : env.types.resolve? k with
  | none =>
    rw [hres] at h
    cases h
  | some place =>
    rw [hres] at h
    obtain ⟨entry, hentry, rfl⟩ := List.mem_map.mp hp
    exact hsig.of_interface? h (List.mem_map.mpr ⟨entry, hentry, rfl⟩)

theorem providesMethod_decides (ha : env.Anchored) (hs : env.store.WellFormed)
    (hsig : env.store.SignaturesInside) {signature : Handle}
    (hc : env.store.contains signature = true) :
    Decides (env.providesMethod c n signature) (env.Provides c n signature) := by
  obtain ⟨l, hl⟩ := (ha.guidedClass hs c).exists_classChain
  have hfind := findMethod?_of_classChain hl n
  rw [providesMethod]
  cases hm : firstMember? (fun c ↦ c.methods.get? n) l with
  | none =>
    rw [hm] at hfind
    rw [hfind]
    refine .of_ok (iff_of_false Bool.false_ne_true ?_)
    rintro ⟨m, owner, hfound, -⟩
    cases hfind.symm.trans hfound
  | some found =>
    obtain ⟨m, owner⟩ := found
    rw [hm] at hfind
    have hm := contains_signature_of_findMethod? ha hs hsig hfind
    obtain ⟨yes, hyes, -⟩ := hs.sameType_decides hm hc
    rw [hfind]
    refine ⟨yes, hyes, ?_⟩
    constructor
    · rintro rfl
      exact ⟨m, owner, hfind, hyes⟩
    · rintro ⟨m', owner', hfound, htrue⟩
      cases hfind.symm.trans hfound
      exact Except.ok.inj (hyes.symm.trans htrue)

/-! ## The report -/

/-- The part of the report that comes from one interface. -/
theorem exists_missingFrom (ha : env.Anchored) (hs : env.store.WellFormed)
    (hsig : env.store.SignaturesInside) (c k : String) :
    ∃ l, env.missingFrom c k = .ok l ∧ ∀ n, n ∈ l ↔ env.Unmet c k n := by
  classical
  obtain ⟨found, hfound⟩ := exists_interfaceNamed?_iff.mpr (ha.guided hs k k .refl)
  cases found with
  | none =>
    refine ⟨[], bind_eq_ok.mpr ⟨none, hfound, rfl⟩, fun n ↦ iff_of_false List.not_mem_nil ?_⟩
    rintro ⟨shape, m, hshape, -⟩
    cases hfound.symm.trans hshape
  | some shape =>
    have hprovided : (shape.methods.toList.mapM fun p ↦ env.providesMethod c p.1 p.2.signature) =
        .ok (shape.methods.toList.map fun p ↦ decide (env.Provides c p.1 p.2.signature)) := by
      refine mapM_eq_ok _ fun p hp ↦ Decides.eq_ok_decide ?_
      have hc := contains_signature_of_interfaceNamed? hsig hfound hp
      exact providesMethod_decides ha hs hsig hc
    refine ⟨_, bind_eq_ok.mpr ⟨_, hfound, bind_eq_ok.mpr ⟨_, hprovided, rfl⟩⟩, fun n ↦ ?_⟩
    have hspellings : shape.methods.spellings = shape.methods.toList.map Prod.fst := by
      simp [NameMap.spellings, NameMap.toList]
    rw [hspellings, List.zip_map']
    simp [Unmet, hfound]

/-- **The report has exactly the names that are required in some place and not provided.** -/
theorem exists_missingMethods (ha : env.Anchored) (hs : env.store.WellFormed)
    (hsig : env.store.SignaturesInside) (c i : String) :
    ∃ missing, env.missingMethods c i = .ok missing ∧
      ∀ n, n ∈ missing ↔ ∃ k, env.interfaceExtends i k = .ok true ∧ env.Unmet c k n := by
  obtain ⟨chain, hchain⟩ := guided_iff.mp (ha.guided hs i)
  have hextends : ∀ k, env.interfaceExtends i k = .ok true ↔ ∃ m ∈ chain, sameName m k = true := by
    intro k
    rw [interfaceExtends_of_interfaceChain hchain, Except.ok.injEq, List.any_eq_true]
  choose report hreport hunmet using exists_missingFrom ha hs hsig c
  have hparts : chain.mapM (fun k ↦ env.missingFrom c k) = .ok (chain.map report) :=
    mapM_eq_ok report fun k _ ↦ hreport k
  refine ⟨_, bind_eq_ok.mpr ⟨chain, hchain, bind_eq_ok.mpr ⟨_, hparts, rfl⟩⟩, fun n ↦ ?_⟩
  rw [← List.flatMap_def, List.mem_flatMap]
  constructor
  · rintro ⟨k, hk, hn⟩
    exact ⟨k, (hextends k).mpr ⟨k, hk, sameName_refl k⟩, (hunmet k n).mp hn⟩
  · rintro ⟨k, hk, hn⟩
    obtain ⟨m, hm, hsame⟩ := (hextends k).mp hk
    exact ⟨m, hm, (hunmet m n).mpr (hn.congr (sameName_symm hsame))⟩

/-- **The report of missing methods is exact, and grows with the interface.** -/
theorem missingMethods_exact (ha : env.Anchored) (hs : env.store.WellFormed)
    (hsig : env.store.SignaturesInside) (c i : String) :
    ∃ missing, env.missingMethods c i = .ok missing ∧
      (∀ n, n ∈ missing ↔ ∃ k, env.interfaceExtends i k = .ok true ∧ env.Unmet c k n) ∧
      (missing = [] ↔ env.Fulfils c i) ∧
      ∀ j, env.interfaceExtends i j = .ok true →
        ∃ missing', env.missingMethods c j = .ok missing' ∧ missing' ⊆ missing := by
  obtain ⟨missing, hmissing, hmem⟩ := exists_missingMethods ha hs hsig c i
  refine ⟨missing, hmissing, hmem, ?_, fun j hij ↦ ?_⟩
  · rw [List.eq_nil_iff_forall_not_mem]
    constructor
    · intro hnone k shape hk hshape n m hm
      by_contra hno
      exact hnone n ((hmem n).mpr ⟨k, hk, shape, m, hshape, hm, hno⟩)
    · intro hall n hn
      obtain ⟨k, hk, shape, m, hshape, hm, hno⟩ := (hmem n).mp hn
      exact hno (hall k shape hk hshape n m hm)
  · obtain ⟨missing', hmissing', hmem'⟩ := exists_missingMethods ha hs hsig c j
    refine ⟨missing', hmissing', fun n hn ↦ ?_⟩
    obtain ⟨k, hjk, hunmet⟩ := (hmem' n).mp hn
    exact (hmem n).mpr ⟨k, interfaceExtends_trans hij hjk, hunmet⟩

/-- Two interfaces that extend each other, and an alias for the second.  A base class has one of the
two methods under another spelling and with a signature of its own that is the same type.  The shape
has the other method with a wrong signature, and only the box has it right. -/
def roundDuties : TypeEnv :=
  (TypeEnv.new { withBuiltins := false }).run
    [.push (.methodPointer { params := [] }),
      .push (.methodPointer { params := [] }),
      .push (.methodPointer { params := [], result := some ⟨1⟩ }),
      .declareNamed (.interfaceType
        { name := "IA", parent := some "ib", methods := .ofList [("Draw", { signature := ⟨7⟩ })] })
        ⟨1, 1, 0⟩,
      .declareNamed (.interfaceType
        { name := "IB", parent := some "ia", methods := .ofList [("Area", { signature := ⟨9⟩ })] })
        ⟨2, 1, 0⟩,
      .declareNamed (.aliasType ⟨"IX", ⟨11⟩⟩) ⟨3, 1, 0⟩,
      .declareNamed (.classType
        { name := "TBase", methods := .ofList [("DRAW", { signature := ⟨8⟩ })] }) ⟨4, 1, 0⟩,
      .declareNamed (.classType
        { name := "TShape", parent := some "tbase"
          methods := .ofList [("area", { signature := ⟨7⟩ })] }) ⟨5, 1, 0⟩,
      .declareNamed (.classType
        { name := "TBox", parent := some "tshape"
          methods := .ofList [("Area", { signature := ⟨9⟩ })] }) ⟨6, 1, 0⟩]

/-- The chains of the two interfaces start at different places.  From the alias one comes by the
second interface twice, since the alias is another name, so the wrong method is reported twice. -/
theorem missingMethods_roundDuties : roundDuties.Anchored ∧ roundDuties.store.WellFormed ∧
    roundDuties.store.SignaturesInside ∧
      roundDuties.missingMethods "nobody" "ia" = .ok ["Draw", "Area"] ∧
      roundDuties.missingMethods "nobody" "ib" = .ok ["Area", "Draw"] ∧
      roundDuties.Fulfils "tbox" "ix" ∧ ¬roundDuties.Fulfils "tshape" "ix" ∧
      ∀ j, roundDuties.interfaceExtends "ix" j = .ok true →
        ∃ missing, roundDuties.missingMethods "tshape" j = .ok missing ∧
          missing ⊆ ["Area", "Area"] := by
  have ha : roundDuties.Anchored := Reachable.anchored ⟨_, _, rfl⟩
  have hs : roundDuties.store.WellFormed := by decide
  have hsig : roundDuties.store.SignaturesInside := by decide
  obtain ⟨l, hl, -, hnil, -⟩ := missingMethods_exact ha hs hsig "tbox" "ix"
  obtain ⟨l', hl', -, hnil', hsub⟩ := missingMethods_exact ha hs hsig "tshape" "ix"
  have hbox : roundDuties.missingMethods "tbox" "ix" = .ok [] := rfl
  have hshape : roundDuties.missingMethods "tshape" "ix" = .ok ["Area", "Area"] := rfl
  obtain rfl := Except.ok.inj (hbox.symm.trans hl)
  obtain rfl := Except.ok.inj (hshape.symm.trans hl')
  exact ⟨ha, hs, hsig, rfl, rfl, hnil.mp rfl, fun hful ↦ absurd (hnil'.mpr hful) (by simp), hsub⟩

end TypeEnv

end PascalTypes
