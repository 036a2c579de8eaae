import PascalTypes.Proofs.ClassOrder
import PascalTypes.Proofs.Coherence
import PascalTypes.Proofs.InterfaceChains
import PascalTypes.TypeEnv.Assignment

/-!
# The interfaces that a class lists

A class lists interfaces by their names, and a name may stand for an alias.  To find out whether a
class can go where an interface is expected, the listed names are followed from parent to parent,
and what each of them stands for is looked up behind all aliases.  But it is the names that are
compared with the name of the interface, and these are as the class and the parents spell them.

So a class that lists an interface under its own name can go where the interface is expected
(`ListedName.named`).  A class that lists an alias can go where the parents of the interface are
expected (`ListedName.parents`), and not where the interface itself is expected, unless another
listed name leads there or the parents come back to it (`ListedName.misnamed`).
`listedName_of_declarations` shows this after any run of declarations, and `assignRule?_knownAs` is
the smallest case.
-/

set_option autoImplicit false

namespace PascalTypes.TypeEnv

variable {env : TypeEnv} {a b p q : Handle} {c : ClassShape} {i : InterfaceShape} {name : String}

/-! ## From a class to an interface

No other rule comes before that of interfaces, and no assumption about other types of the store is
needed. -/

theorem sameType_of_class_of_interface (hx : env.store.Lands a p (.classType c))
    (hy : env.store.Lands b q (.interfaceType i)) : env.store.sameType a b = .ok false := by
  have hne : p ≠ q := by
    rintro rfl
    cases hx.shape.symm.trans hy.shape
  simp [TypeStore.sameType, TypeStore.sameTypeWithin, hx.underlying, hy.underlying, hx.shape,
    hy.shape, Shape.head?, bind, Except.bind, pure, Except.pure, hne]

theorem assignRule?_of_class_of_interface (hx : env.store.Lands a p (.classType c))
    (hy : env.store.Lands b q (.interfaceType i)) {yes : Bool}
    (hyes : env.implementsInterface c.name i.name = .ok yes) :
    env.assignRule? a b = if yes then .ok (some .interfaceImplementation)
      else ruleIf .implicitConversion (env.hasConversion a b) := by
  rw [assignRule?, sameType_of_class_of_interface hx hy]
  change env.differentRule? a b = _
  rw [differentRule?, hx.resolved, hy.resolved]
  change (env.shapeRule? a b (.classType c) (.interfaceType i) >>= _) = _
  rw [shapeRule?, hyes]
  cases yes <;> rfl

/-! ## Conversions are not declared -/

theorem conversions_apply {change : Change} (hc : change.isDeclaration = true) :
    (env.apply change).conversions = env.conversions := by
  have hdeclare : ∀ name shape location visibility,
      (env.declare name shape location visibility).2.conversions = env.conversions := by
    intro name shape location visibility
    rcases env.declare_snd_cases name shape location visibility with he | ⟨rtti, -, -, -, he⟩
    · rw [he]
    · rw [he]
      rfl
  cases change with
  | declare name shape location visibility => exact hdeclare _ _ _ _
  | declareNamed shape location => exact hdeclare _ _ _ _
  | completeClass body =>
    rcases env.apply_completeClass_cases body with he | ⟨place, announced, -, -, he⟩
    · rw [he]
    · rw [he]
      rfl
  | registerBuiltins =>
    rcases env.registerBuiltins_cases with ⟨h, i, -, -, he⟩ | he
    · rw [apply, he]
    · rw [apply, he]
  | close | push => rfl
  | _ => cases hc

theorem conversions_run (settings : Settings) {changes : List Change}
    (hc : ∀ change ∈ changes, change.isDeclaration = true) :
    ((TypeEnv.new settings).run changes).conversions = {} := by
  refine run_induction (P := fun env ↦ env.conversions = {}) ?_ changes fun env change hmem ih ↦ ?_
  · rw [TypeEnv.new]
    split
    · have hbuiltins : Change.registerBuiltins.isDeclaration = true := rfl
      exact conversions_apply hbuiltins
    · rfl
  · rw [conversions_apply (hc change hmem), ih]

/-! ## What a listed name gives to a class -/

variable {e : ClassNode ClassRef} {rest : List (ClassNode ClassRef)} {listed : String}
  {h u : Handle}

/-- A class implements what it lists. -/
theorem implements_of_listed (hl : env.classes.chain? name = some (e :: rest))
    (hx : env.store.shape e.info.ty = .ok (.classType c)) (hn : listed ∈ c.interfaces)
    {target : String} (hr : env.Reaches target listed) : env.Implements name target :=
  ⟨_, hl, e, List.mem_cons_self, c, (TypeStore.lands_self hx (by simp [Shape.kind])).class?, listed,
    hn, hr⟩

/-- A name that stands for an interface and not for an alias is the name of that interface. -/
theorem Coherent.sameName_of_resolve? (hcoh : env.Coherent)
    (hres : env.types.resolve? name = some h) (hown : env.store.Unshared h)
    (hx : env.store.shape h = .ok (.interfaceType i)) :
    sameName name i.name = true := by
  obtain ⟨d, hd, rfl⟩ := Option.map_eq_some_iff.mp hres
  obtain ⟨hmem, hname⟩ := hcoh.types_indexed.get?_eq_some_iff.mp hd
  have hdeclared := hcoh.type_name d hmem hown _ i.name hx rfl
  exact sameName_symm (sameName_trans hdeclared hname)

/-- A class lists a name that stands for the interface `i`, which lies at `u`.  The name may stand
for an alias `h` of the interface.  This is what the class at `a` gains from it. -/
structure ListedName (env : TypeEnv) (name : String) (a : Handle) (listed : String) (h u : Handle)
    (i : InterfaceShape) : Prop where
  /-- Where the interface is expected, all that the class and its ancestors list counts. -/
  decided : ∀ b, env.store.Lands b u (.interfaceType i) →
    Decides (env.canAssign a b) (env.Implements name i.name)
  /-- An interface that is listed without an alias is implemented. -/
  named : h = u → env.store.Unshared h → ∀ b, env.store.Lands b u (.interfaceType i) →
    env.assignRule? a b = .ok (some .interfaceImplementation)
  /-- The interfaces above the listed one are implemented, with or without an alias. -/
  parents : ∀ parent b v j, i.parent = some parent → env.store.Lands b v (.interfaceType j) →
    env.Reaches j.name parent → env.assignRule? a b = .ok (some .interfaceImplementation)
  /-- Under another name than its own, an interface is reached only by way of its parents. -/
  misnamed : sameName listed i.name = false →
    (env.Reaches i.name listed ↔ ∃ parent, i.parent = some parent ∧ env.Reaches i.name parent)

/-- The name that a class has in the store is that of its entry in the tree. -/
theorem Coherent.sameName_of_chain? (hcoh : env.Coherent)
    (hl : env.classes.chain? name = some (e :: rest)) (hown : env.store.Unshared e.info.ty)
    (hx : env.store.shape e.info.ty = .ok (.classType c)) : sameName c.name name = true := by
  have ht := hcoh.classes_indexed
  obtain ⟨e', rest', heq, hname⟩ := ClassTree.exists_head_of_chain ht hl
  obtain ⟨rfl, -⟩ := List.cons.inj heq
  have hmem := ClassTree.mem_all_of_mem_chain ht hl List.mem_cons_self
  obtain ⟨c', hx', hname', -⟩ := (hcoh.class_node e hmem).2.2 hown
  cases hx.symm.trans hx'
  exact sameName_trans hname' hname

theorem Coherent.implementsInterface_decides (hcoh : env.Coherent)
    (hl : env.classes.chain? name = some (e :: rest)) (hg : env.GuidedClass name)
    (hown : env.store.Unshared e.info.ty) (hx : env.store.shape e.info.ty = .ok (.classType c))
    (target : String) :
    Decides (env.implementsInterface c.name target) (env.Implements name target) := by
  have hname := hcoh.sameName_of_chain? hl hown hx
  rw [GuidedClass, ← env.classes.chain?_congr hname] at hg
  rw [Implements, ← env.classes.chain?_congr hname]
  exact GuidedClass.implementsInterface_decides hg target

theorem listedName_of_coherent (hcoh : env.Coherent) (hconv : env.conversions = {})
    (hl : env.classes.chain? name = some (e :: rest)) (hg : env.GuidedClass name)
    (hown : env.store.Unshared e.info.ty) (ha : env.store.Lands a e.info.ty (.classType c))
    (hn : listed ∈ c.interfaces) (hres : env.types.resolve? listed = some h)
    (hh : env.store.Lands h u (.interfaceType i)) : env.ListedName name a listed h u i := by
  have hdecides := hcoh.implementsInterface_decides hl hg hown ha.shape
  have hlisted : env.interfaceNamed? listed = .ok (some i) := by
    rw [interfaceNamed?, hres]
    exact hh.interface?
  have hrule : ∀ b v j, env.store.Lands b v (.interfaceType j) → env.Reaches j.name listed →
      env.assignRule? a b = .ok (some .interfaceImplementation) := by
    intro b v j hb hr
    have himplements := implements_of_listed hl ha.shape hn hr
    exact assignRule?_of_class_of_interface ha hb ((hdecides j.name).eq_true_iff.mpr himplements)
  refine ⟨fun b hb ↦ ?_, ?_, ?_, fun hne ↦ ⟨fun hr ↦ ?_, ?_⟩⟩
  · obtain ⟨yes, hyes, hiff⟩ := hdecides i.name
    have hnone : env.hasConversion a b = .ok false := by
      rw [hasConversion, hconv]
      rfl
    rw [canAssign, assignRule?_of_class_of_interface ha hb hyes, hnone]
    refine ⟨yes, ?_, hiff⟩
    cases yes <;> rfl
  · rintro rfl hownh b hb
    exact hrule b h i hb (.here (hcoh.sameName_of_resolve? hres hownh hh.shape))
  · intro parent b v j hparent hb hr
    exact hrule b v j hb (.up ⟨i, hlisted, hparent⟩ hr)
  · cases hr with
    | here hsame => exact absurd (hne.symm.trans hsame) Bool.false_ne_true
    | up hp hr =>
      obtain ⟨j, hj, hparent⟩ := hp
      cases hlisted.symm.trans hj
      exact ⟨_, hparent, hr⟩
  · rintro ⟨parent, hparent, hr⟩
    exact .up ⟨i, hlisted, hparent⟩ hr

/-- **After any run of declarations, what a class gains from a listed name depends on whether the
name is that of the interface or that of an alias.** -/
theorem listedName_of_declarations (settings : Settings) (changes : List Change)
    (hc : ∀ change ∈ changes, change.isDeclaration = true) {env : TypeEnv}
    (henv : env = (TypeEnv.new settings).run changes) {name listed : String}
    {e : ClassNode ClassRef} {rest : List (ClassNode ClassRef)} {a h u : Handle} {c : ClassShape}
    {i : InterfaceShape} (hl : env.classes.chain? name = some (e :: rest))
    (hg : env.GuidedClass name) (hown : env.store.Unshared e.info.ty)
    (ha : env.store.Lands a e.info.ty (.classType c)) (hn : listed ∈ c.interfaces)
    (hres : env.types.resolve? listed = some h) (hh : env.store.Lands h u (.interfaceType i)) :
    env.ListedName name a listed h u i := by
  subst henv
  have hcoh : ((TypeEnv.new settings).run changes).Coherent :=
    run_induction (.new settings) changes fun _ change hmem ih ↦ ih.apply (hc change hmem)
  exact listedName_of_coherent hcoh (conversions_run settings hc) hl hg hown ha hn hres hh

/-- An interface with a parent, an alias for it, and a class that lists the alias. -/
def knownAs : List Change :=
  [.declareNamed (.interfaceType { name := "IBase" }) ⟨1, 1, 0⟩,
    .declareNamed (.interfaceType { name := "IShape", parent := some "IBase" }) ⟨2, 1, 0⟩,
    .declareNamed (.aliasType ⟨"IForm", ⟨9⟩⟩) ⟨3, 1, 0⟩,
    .declareNamed (.classType { name := "TCircle", interfaces := ["IForm"] }) ⟨4, 1, 0⟩]

/-- The class can go where the parent is expected, but not where the interface is expected that it
lists. -/
theorem assignRule?_knownAs : (∀ change ∈ knownAs, change.isDeclaration = true) ∧
    ((TypeEnv.new {}).run knownAs).classes.chain? "TCircle" =
      some [⟨"TCircle", none, ⟨⟨11⟩, "TCircle", none⟩⟩] ∧
    ((TypeEnv.new {}).run knownAs).store.shape ⟨11⟩ =
      .ok (.classType { name := "TCircle", interfaces := ["IForm"] }) ∧
    ((TypeEnv.new {}).run knownAs).types.underlying? ((TypeEnv.new {}).run knownAs).store "IForm" =
      .ok (some ⟨9⟩) ∧
    ((TypeEnv.new {}).run knownAs).store.kind ⟨9⟩ = .ok .interfaceType ∧
    ((TypeEnv.new {}).run knownAs).assignRule? ⟨11⟩ ⟨9⟩ = .ok none ∧
    ((TypeEnv.new {}).run knownAs).assignRule? ⟨11⟩ ⟨8⟩ = .ok (some .interfaceImplementation) :=
  ⟨by decide, rfl, rfl, rfl, rfl, rfl, rfl⟩

/-- What the class gains from the alias. -/
theorem listedName_knownAs : (∀ change ∈ knownAs, change.isDeclaration = true) ∧
    ((TypeEnv.new {}).run knownAs).store.Lands ⟨10⟩ ⟨9⟩
      (.interfaceType { name := "IShape", parent := some "IBase" }) ∧
    ((TypeEnv.new {}).run knownAs).ListedName "tcircle" ⟨11⟩ "IForm" ⟨10⟩ ⟨9⟩
      { name := "IShape", parent := some "IBase" } ∧
    ¬((TypeEnv.new {}).run knownAs).Implements "tcircle" "IShape" ∧
    ((TypeEnv.new {}).run knownAs).assignRule? ⟨11⟩ ⟨8⟩ = .ok (some .interfaceImplementation) := by
  have hc : ∀ change ∈ knownAs, change.isDeclaration = true := by decide
  have hs : ((TypeEnv.new {}).run knownAs).store.WellFormed := by decide
  have hg : ((TypeEnv.new {}).run knownAs).GuidedClass "tcircle" :=
    Anchored.guidedClass (Reachable.anchored ⟨_, _, rfl⟩) hs "tcircle"
  have hl : ((TypeEnv.new {}).run knownAs).classes.chain? "tcircle" =
      some [⟨"TCircle", none, ⟨⟨11⟩, "TCircle", none⟩⟩] := rfl
  have ha : ((TypeEnv.new {}).run knownAs).store.Lands ⟨11⟩ ⟨11⟩
      (.classType { name := "TCircle", interfaces := ["IForm"] }) :=
    TypeStore.lands_self rfl (by decide)
  have hh : ((TypeEnv.new {}).run knownAs).store.Lands ⟨10⟩ ⟨9⟩
      (.interfaceType { name := "IShape", parent := some "IBase" }) :=
    ⟨rfl, rfl, by decide, by decide⟩
  have hlisted := listedName_of_declarations {} knownAs hc rfl hl hg (.inl (by decide)) ha
    List.mem_cons_self rfl hh
  have hbase : ((TypeEnv.new {}).run knownAs).store.Lands ⟨8⟩ ⟨8⟩
      (.interfaceType { name := "IBase" }) := TypeStore.lands_self rfl (by decide)
  have hrejected : ((TypeEnv.new {}).run knownAs).canAssign ⟨11⟩ ⟨9⟩ = .ok false := rfl
  refine ⟨hc, hh, hlisted, (hlisted.decided ⟨9⟩ hh.self).eq_false_iff.mp hrejected, ?_⟩
  exact hlisted.parents "IBase" ⟨8⟩ ⟨8⟩ { name := "IBase" } rfl hbase (.here (sameName_refl _))

end PascalTypes.TypeEnv
