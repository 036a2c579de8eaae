import PascalTypes.Proofs.AliasWalks
import PascalTypes.Proofs.ClassChains
import PascalTypes.Proofs.Runs
import PascalTypes.TypeEnv.Interfaces

/-!
# Chains of interfaces

An interface extends another one by naming it, and `interfaceExtends` follows the names until there
is none, or until one comes up again.  `TypeEnv.Reaches` is what it looks for, without any bound or
list of names that were met: a name reaches a target if it is the target, or if the interface it
stands for has a parent whose name reaches the target.

That the two agree (`interfaceExtends_iff_of_eq_ok`) has two halves.  What is in a chain is
reached, since every step of the chain is a step of `Reaches`.  And what is reached is in the chain,
since the names of a chain are closed under steps (`interfaceChainFrom_closed`): where the chain
comes back to a name that was met, the next name is one of its own.  The bound is no obstacle,
because the names that were met are different and all of them are in the table of types.

There is no answer at all if a name on the way stands for aliases that lead out of the store.
`TypeEnv.Guided` excludes that for the way from one name, and `TypeEnv.GuidedClass` for all that a
class and its ancestors list.  In a well-formed store every name and every class is guided.
-/

set_option autoImplicit false

namespace PascalTypes.TypeEnv

variable {env : TypeEnv} {name other target target' : String}

/-- The interface that `name` stands for has a parent with the name `parent`. -/
def ParentInterface (env : TypeEnv) (name parent : String) : Prop :=
  ∃ i, env.interfaceNamed? name = .ok (some i) ∧ i.parent = some parent

/-- A name is the target, or the interface it stands for extends the target. -/
inductive Reaches (env : TypeEnv) (target : String) : String → Prop
  | here {name : String} (h : sameName name target = true) : Reaches env target name
  | up {name parent : String} (hp : env.ParentInterface name parent)
      (h : Reaches env target parent) : Reaches env target name

/-! ## Names in other spellings -/

theorem interfaceNamed?_congr (env : TypeEnv) (h : sameName name other = true) :
    env.interfaceNamed? name = env.interfaceNamed? other := by
  rw [interfaceNamed?, interfaceNamed?, TypeTable.resolve?, TypeTable.resolve?, TypeTable.find?,
    TypeTable.find?, env.types.types.get?_congr h]

theorem ParentInterface.congr {parent : String} (hp : env.ParentInterface name parent)
    (h : sameName name other = true) : env.ParentInterface other parent := by
  rw [ParentInterface, ← env.interfaceNamed?_congr h]
  exact hp

theorem Reaches.congr (hr : env.Reaches target name) (h : sameName name other = true) :
    env.Reaches target other := by
  cases hr with
  | here hn => exact .here (sameName_trans (sameName_symm h) hn)
  | up hp hr => exact .up (hp.congr h) hr

theorem Reaches.trans (hr : env.Reaches target name) (hr' : env.Reaches target' target) :
    env.Reaches target' name := by
  induction hr with
  | here h => exact hr'.congr (sameName_symm h)
  | up hp _ ih => exact .up hp ih

/-! ## The chain of an interface -/

/-- A name has at most one parent. -/
theorem ParentInterface.unique {p q : String} (hp : env.ParentInterface name p)
    (hq : env.ParentInterface name q) : p = q := by
  obtain ⟨i, hi, hip⟩ := hp
  obtain ⟨j, hj, hjq⟩ := hq
  cases hi.symm.trans hj
  exact Option.some.inj (hip.symm.trans hjq)

/-- One step of a chain: it stops at a name that was met, it ends with a name that has no parent, or
it goes on with the parent. -/
theorem interfaceChainFrom_cases {n : Nat} {met : List NameKey} {l : List String}
    (h : env.interfaceChainFrom (n + 1) met name = .ok l) :
    NameKey.of name ∈ met ∧ l = [] ∨
      ((∃ i, env.interfaceNamed? name = .ok i) ∧ (∀ parent, ¬env.ParentInterface name parent) ∧
        l = [name]) ∨
      ∃ parent rest, NameKey.of name ∉ met ∧ env.ParentInterface name parent ∧
        env.interfaceChainFrom n (NameKey.of name :: met) parent = .ok rest ∧
        l = name :: rest := by
  rw [interfaceChainFrom] at h
  split at h
  · rename_i hmet
    exact Or.inl ⟨hmet, (Except.ok.inj h).symm⟩
  · rename_i hmet
    obtain ⟨i, hi, h⟩ := bind_eq_ok.mp h
    cases hparent : i.bind InterfaceShape.parent with
    | none =>
      rw [hparent] at h
      refine Or.inr (Or.inl ⟨⟨i, hi⟩, ?_, (Except.ok.inj h).symm⟩)
      rintro parent ⟨j, hj, hjp⟩
      cases hi.symm.trans hj
      exact nomatch hparent.symm.trans hjp
    | some parent =>
      rw [hparent] at h
      obtain ⟨rest, hrest, h⟩ := bind_eq_ok.mp h
      obtain ⟨j, rfl, hjp⟩ := Option.bind_eq_some_iff.mp hparent
      exact Or.inr (Or.inr ⟨parent, rest, hmet, ⟨j, hi, hjp⟩, hrest, (Except.ok.inj h).symm⟩)

/-- Every name of a chain is reached from its first name. -/
theorem interfaceChainFrom_sound {n : Nat} {met : List NameKey} {l : List String}
    (h : env.interfaceChainFrom n met name = .ok l) (hm : other ∈ l)
    (ht : sameName other target = true) : env.Reaches target name := by
  induction n generalizing met name l with
  | zero =>
    cases h
    cases hm
  | succ n ih =>
    rcases interfaceChainFrom_cases h with
      ⟨-, rfl⟩ | ⟨-, -, rfl⟩ | ⟨parent, rest, -, hp, hrest, rfl⟩
    · cases hm
    · rw [List.mem_singleton.mp hm] at ht
      exact .here ht
    · rcases List.mem_cons.mp hm with rfl | hm
      · exact .here ht
      · exact .up hp (ih hrest hm)

/-- A name that stands for an interface is in the table of types. -/
theorem ParentInterface.mem_keys {parent : String} (hp : env.ParentInterface name parent) :
    NameKey.of name ∈ env.types.types.entries.map NameEntry.key := by
  obtain ⟨i, hi, -⟩ := hp
  rw [interfaceNamed?, TypeTable.resolve?, TypeTable.find?, NameMap.get?] at hi
  cases hfind : env.types.types.find? name with
  | none =>
    rw [hfind] at hi
    cases hi
  | some e =>
    obtain ⟨hmem, hkey⟩ := NameMap.find?_eq_some_iff.mp hfind
    exact List.mem_map.mpr ⟨e, hmem, hkey⟩

/-- Different names of the table are no more than the table has. -/
theorem length_le_size_types {met : List NameKey} (hnodup : met.Nodup)
    (hmet : met ⊆ env.types.types.entries.map NameEntry.key) : met.length ≤ env.types.size := by
  simpa [TypeTable.size, NameMap.size] using hnodup.length_le_of_subset hmet

/-- **The names of a chain are closed under steps**, apart from those that were met before.  The
names that were met are different and have parents, so they are fewer than the names in the table,
and the bound is never used up. -/
theorem interfaceChainFrom_closed {n : Nat} {met : List NameKey} {l : List String}
    (hfuel : met.length + n = env.types.size + 1) (hnodup : met.Nodup)
    (hmet : met ⊆ env.types.types.entries.map NameEntry.key)
    (h : env.interfaceChainFrom n met name = .ok l) :
    (NameKey.of name ∈ met ∨ NameKey.of name ∈ l.map NameKey.of) ∧
      ∀ m ∈ l, ∀ p, env.ParentInterface m p →
        NameKey.of p ∈ met ∨ NameKey.of p ∈ l.map NameKey.of := by
  induction n generalizing met name l with
  | zero =>
    have hle := length_le_size_types hnodup hmet
    omega
  | succ n ih =>
    rcases interfaceChainFrom_cases h with
      ⟨hname, rfl⟩ | ⟨-, hno, rfl⟩ | ⟨parent, rest, hname, hp, hrest, rfl⟩
    · exact ⟨Or.inl hname, fun m hm ↦ absurd hm List.not_mem_nil⟩
    · refine ⟨Or.inr List.mem_cons_self, fun m hm p hmp ↦ ?_⟩
      rw [List.mem_singleton.mp hm] at hmp
      exact absurd hmp (hno p)
    · obtain ⟨hparent, hclosed⟩ := ih (by rw [List.length_cons]; omega)
        (List.nodup_cons.mpr ⟨hname, hnodup⟩) (List.cons_subset.mpr ⟨hp.mem_keys, hmet⟩) hrest
      -- what was met before `rest` was met before this chain, or is its first name
      have hmove : ∀ k, (k ∈ NameKey.of name :: met ∨ k ∈ rest.map NameKey.of) →
          k ∈ met ∨ k ∈ (name :: rest).map NameKey.of := by
        rintro k (hk | hk)
        · rcases List.mem_cons.mp hk with rfl | hk
          · exact Or.inr List.mem_cons_self
          · exact Or.inl hk
        · exact Or.inr (List.mem_cons_of_mem _ hk)
      refine ⟨Or.inr List.mem_cons_self, fun m hm p hmp ↦ hmove _ ?_⟩
      rcases List.mem_cons.mp hm with rfl | hm
      · rw [hmp.unique hp]
        exact hparent
      · exact hclosed m hm p hmp

theorem interfaceChain_complete {l : List String} (h : env.interfaceChain name = .ok l)
    (hr : env.Reaches target name) : ∃ m ∈ l, sameName m target = true := by
  obtain ⟨hname, hclosed⟩ := interfaceChainFrom_closed (by rw [List.length_nil]; omega)
    List.nodup_nil (List.nil_subset _) h
  simp only [List.not_mem_nil, false_or] at hname hclosed
  clear h
  induction hr with
  | here hn =>
    obtain ⟨m, hm, hk⟩ := List.mem_map.mp hname
    exact ⟨m, hm, sameName_trans (NameKey.of_eq_of_iff.mp hk) hn⟩
  | up hp _ ih =>
    obtain ⟨m, hm, hk⟩ := List.mem_map.mp hname
    exact ih (hclosed m hm _ (hp.congr (sameName_symm (NameKey.of_eq_of_iff.mp hk))))

/-! ## There is an answer -/

/-- The interface behind a name can be looked up exactly if the aliases of the name, if it has any,
stay inside the store. -/
theorem exists_interfaceNamed?_iff : (∃ i, env.interfaceNamed? name = .ok i) ↔
    ∀ h, env.types.resolve? name = some h → env.store.Inside h := by
  rw [interfaceNamed?]
  cases env.types.resolve? name with
  | none => simp [pure, Except.pure]
  | some h =>
    have hiff : (∃ i, env.store.interface? h = .ok i) ↔ ∃ x, env.store.resolved h = .ok x := by
      rw [TypeStore.interface?]
      cases env.store.resolved h with
      | error e => simp [bind, Except.bind]
      | ok x => simp [bind, Except.bind, pure, Except.pure]
    rw [← TypeStore.inside_iff] at hiff
    simpa using hiff

/-- Wherever the parents lead from a name, the aliases of the names on the way stay inside the
store. -/
def Guided (env : TypeEnv) (name : String) : Prop :=
  ∀ n, Relation.ReflTransGen env.ParentInterface name n →
    ∀ h, env.types.resolve? n = some h → env.store.Inside h

theorem Guided.parent {parent : String} (hg : env.Guided name)
    (hp : env.ParentInterface name parent) : env.Guided parent :=
  fun n hn ↦ hg n (hn.head hp)

theorem Guided.exists_interfaceChainFrom : ∀ (n : Nat) (met : List NameKey) {name : String},
    env.Guided name → ∃ l, env.interfaceChainFrom n met name = .ok l
  | 0, _, _, _ => ⟨[], rfl⟩
  | n + 1, met, name, hg => by
    rw [interfaceChainFrom]
    split
    · exact ⟨[], rfl⟩
    · obtain ⟨i, hi⟩ := exists_interfaceNamed?_iff.mpr (hg name .refl)
      rw [hi]
      cases hp : i.bind InterfaceShape.parent with
      | none => exact ⟨[name], by simp only [bind, Except.bind, hp]; rfl⟩
      | some parent =>
        obtain ⟨j, rfl, hj⟩ := Option.bind_eq_some_iff.mp hp
        obtain ⟨rest, hrest⟩ :=
          (hg.parent ⟨j, hi, hj⟩).exists_interfaceChainFrom n (NameKey.of name :: met)
        exact ⟨name :: rest, by simp only [bind, Except.bind, hp, hrest]; rfl⟩

theorem interfaceExtends_of_interfaceChain {l : List String} (h : env.interfaceChain name = .ok l)
    (target : String) :
    env.interfaceExtends name target = .ok (l.any fun n ↦ sameName n target) := by
  rw [interfaceExtends, h]
  rfl

/-- **Extension is reachability.**  The chain of an interface is cut where it comes back to itself,
and this loses nothing. -/
theorem interfaceExtends_iff_of_eq_ok {yes : Bool}
    (h : env.interfaceExtends name target = .ok yes) : yes = true ↔ env.Reaches target name := by
  obtain ⟨l, hl, h⟩ := bind_eq_ok.mp h
  cases h
  rw [List.any_eq_true]
  constructor
  · rintro ⟨m, hm, ht⟩
    exact interfaceChainFrom_sound hl hm ht
  · intro hr
    exact interfaceChain_complete hl hr

theorem Guided.interfaceExtends_decides (hg : env.Guided name) (target : String) :
    Decides (env.interfaceExtends name target) (env.Reaches target name) := by
  obtain ⟨l, hl⟩ := hg.exists_interfaceChainFrom (env.types.size + 1) []
  have hanswer := interfaceExtends_of_interfaceChain hl target
  exact ⟨_, hanswer, interfaceExtends_iff_of_eq_ok hanswer⟩

theorem Anchored.guided (ha : env.Anchored) (hs : env.store.WellFormed) (name : String) :
    env.Guided name := by
  intro n _ h hres
  obtain ⟨d, hd, rfl⟩ := Option.map_eq_some_iff.mp hres
  obtain ⟨hmem, -⟩ := ha.types_indexed.get?_eq_some_iff.mp hd
  exact hs.inside (ha.types_mem d hmem)

/-! ## Implementing an interface -/

/-- A class or one of its ancestors lists an interface that reaches the target. -/
def Implements (env : TypeEnv) (name target : String) : Prop :=
  ∃ l, env.classes.chain? name = some l ∧ ∃ e ∈ l, ∃ c,
    env.store.class? e.info.ty = .ok (some c) ∧ ∃ i ∈ c.interfaces, env.Reaches target i

theorem Implements.congr (h : env.Implements name target) (hn : sameName name other = true)
    (ht : env.Reaches target' target) : env.Implements other target' := by
  obtain ⟨l, hl, e, he, c, hc, i, hi, hr⟩ := h
  rw [Implements, ← env.classes.chain?_congr hn]
  exact ⟨l, hl, e, he, c, hc, i, hi, hr.trans ht⟩

/-- **A class implements what its ancestors implement.** -/
theorem Implements.of_descends (h : env.Implements other target)
    (hc : env.classes.classes.Indexed ClassNode.name)
    (hd : env.classes.descends name other = true) : env.Implements name target := by
  obtain ⟨front, back, hn, ho⟩ := ClassTree.descends_suffix hc hd
  obtain ⟨l, hl, e, he, hrest⟩ := h
  cases ho.symm.trans hl
  exact ⟨_, hn, e, List.mem_append_right _ he, hrest⟩

theorem mem_hierarchy_iff {r : ClassRef} : r ∈ (env.classes.hierarchy? name).getD [] ↔
    ∃ chain, env.classes.chain? name = some chain ∧ ∃ e ∈ chain, e.info = r := by
  rw [ClassTree.hierarchy?]
  cases env.classes.chain? name with
  | none => simp
  | some chain => simp

/-- The classes from `name` upwards can be looked up, and so can all interfaces that they list, with
the interfaces that these extend. -/
def GuidedClass (env : TypeEnv) (name : String) : Prop :=
  ∀ l, env.classes.chain? name = some l → ∀ e ∈ l, env.store.Inside e.info.ty ∧
    ∀ c, env.store.class? e.info.ty = .ok (some c) → ∀ i ∈ c.interfaces, env.Guided i

theorem Anchored.guidedClass (ha : env.Anchored) (hs : env.store.WellFormed) (name : String) :
    env.GuidedClass name := by
  intro l hl e he
  have hmem := ClassTree.mem_all_of_mem_chain ha.classes_indexed hl he
  exact ⟨hs.inside (ha.classes_mem e hmem), fun _ _ i _ ↦ ha.guided hs i⟩

/-- The chain of a class holds the classes that the tree knows, each looked up in the store. -/
theorem mem_classChain_iff {l : List (String × ClassShape)} (hl : env.classChain name = .ok l)
    {p : String × ClassShape} : p ∈ l ↔ ∃ chain, env.classes.chain? name = some chain ∧
      ∃ e ∈ chain, env.store.class? e.info.ty = .ok (some p.2) ∧ p.1 = e.info.name := by
  let look : ClassRef → Option ClassShape := fun r ↦ (env.store.class? r.ty).toOption.join
  obtain ⟨shapes, hshapes, hl⟩ := bind_eq_ok.mp hl
  have hlook : ∀ r ∈ (env.classes.hierarchy? name).getD [],
      env.store.class? r.ty = .ok (look r) := by
    intro r hr
    obtain ⟨x, hx⟩ := exists_of_mapM_eq_ok hshapes r hr
    simp only [look, hx]
    rfl
  have hzip (refs : List ClassRef) : refs.zip (refs.map look) = refs.map fun r ↦ (r, look r) := by
    simpa using List.zip_map' (l := refs) (f := id) (g := look)
  cases hshapes.symm.trans (mapM_eq_ok look hlook)
  cases hl
  rw [hzip, List.mem_filterMap]
  constructor
  · rintro ⟨q, hq, hp⟩
    obtain ⟨r, hr, rfl⟩ := List.mem_map.mp hq
    obtain ⟨c, hc, rfl⟩ := Option.map_eq_some_iff.mp hp
    obtain ⟨chain, hchain, e, he, rfl⟩ := mem_hierarchy_iff.mp hr
    exact ⟨chain, hchain, e, he, (hlook _ hr).trans (congrArg _ hc), rfl⟩
  · rintro ⟨chain, hchain, e, he, hc, hname⟩
    have hr := mem_hierarchy_iff.mpr ⟨chain, hchain, e, he, rfl⟩
    have hl : look e.info = some p.2 := Except.ok.inj ((hlook _ hr).symm.trans hc)
    refine ⟨(e.info, look e.info), List.mem_map.mpr ⟨e.info, hr, rfl⟩, ?_⟩
    rw [hl, Option.map_some, ← hname]

theorem GuidedClass.exists_classChain (hg : env.GuidedClass name) :
    ∃ l, env.classChain name = .ok l := by
  have hlook : ∀ r ∈ (env.classes.hierarchy? name).getD [], ∃ x, env.store.class? r.ty = .ok x := by
    intro r hr
    obtain ⟨chain, hchain, e, he, rfl⟩ := mem_hierarchy_iff.mp hr
    obtain ⟨x, hx⟩ := (hg chain hchain e he).1.exists_resolved
    exact ⟨_, by rw [TypeStore.class?, hx]; rfl⟩
  obtain ⟨shapes, hshapes⟩ := exists_mapM_eq_ok hlook
  exact ⟨_, by rw [classChain, hshapes]; rfl⟩

/-- **An answer about a class is right**, also if some of what the class lists has none. -/
theorem implementsInterface_iff_of_eq_ok {yes : Bool}
    (h : env.implementsInterface name target = .ok yes) :
    yes = true ↔ env.Implements name target := by
  obtain ⟨l, hl, h⟩ := bind_eq_ok.mp h
  have hlisted : yes = true ↔ ∃ p ∈ l, ∃ i ∈ p.2.interfaces, env.Reaches target i :=
    anyM_iff_of_eq_ok h fun p _ _ hp ↦ anyM_iff_of_eq_ok hp fun i _ _ hi ↦
      interfaceExtends_iff_of_eq_ok hi
  refine hlisted.trans ⟨?_, ?_⟩
  · rintro ⟨p, hp, i, hi, hr⟩
    obtain ⟨chain, hchain, e, he, hc, -⟩ := (mem_classChain_iff hl).mp hp
    exact ⟨chain, hchain, e, he, p.2, hc, i, hi, hr⟩
  · rintro ⟨chain, hchain, e, he, c, hc, i, hi, hr⟩
    exact ⟨(e.info.name, c), (mem_classChain_iff hl).mpr ⟨chain, hchain, e, he, hc, rfl⟩, i, hi, hr⟩

theorem GuidedClass.implementsInterface_decides (hg : env.GuidedClass name) (target : String) :
    Decides (env.implementsInterface name target) (env.Implements name target) := by
  obtain ⟨l, hl⟩ := hg.exists_classChain
  have hanswer : ∀ p ∈ l, ∃ yes,
      (p.2.interfaces.anyM fun i ↦ env.interfaceExtends i target) = .ok yes := by
    intro p hp
    obtain ⟨chain, hchain, e, he, hc, -⟩ := (mem_classChain_iff hl).mp hp
    refine exists_anyM_eq_ok fun i hi ↦ ?_
    obtain ⟨yes, hyes, -⟩ := ((hg chain hchain e he).2 p.2 hc i hi).interfaceExtends_decides target
    exact ⟨yes, hyes⟩
  obtain ⟨yes, hyes⟩ := exists_anyM_eq_ok hanswer
  have himplements : env.implementsInterface name target = .ok yes := by
    rw [implementsInterface, hl]
    exact hyes
  exact ⟨yes, himplements, implementsInterface_iff_of_eq_ok himplements⟩

end PascalTypes.TypeEnv
