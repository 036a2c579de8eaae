import Mathlib.Data.List.Forall2
import PascalTypes.Proofs.ClassAncestry
import PascalTypes.Proofs.Coherence
import PascalTypes.Proofs.StoreHistory
import PascalTypes.TypeEnv.Members

/-!
# Members and inheritance

A member is looked for in a list of classes that is made in advance: the classes from the given one
upwards, without those that the store does not know as classes.  What one expects of inheritance is
a recursion instead.  A member is the class's own, or else that of its parent.  This file proves the
recursion, `TypeEnv.Inherits` for members of every sort and `TypeEnv.Overrides` for the method that
an overriding one replaces.

Two facts make the list and the recursion agree.  The chain of a parent is the chain of the class
without its head (`ClassTree.chain?_of_parent`).  And no class is missing from the list
(`TypeEnv.classChain_of_shown`), since every class of the tree lies at its place in the store after
any run of declarations (`TypeEnv.Coherent`).  The second fact is what the search for an overridden
method needs most, because it drops the first entry of the list and takes it for the class itself.

As in `Coherent`, nothing can be said of a class whose handle was given to a second type, when the
store has outgrown its handles (`TypeEnv.OwnHandles`).
-/

set_option autoImplicit false

namespace PascalTypes

/-! ## The chain of a parent -/

namespace ClassTree

variable {α : Type} {t : ClassTree α} {a q : String} {c p : ClassNode α}

theorem ancestry_iff_of_under {l : List (ClassNode α)} (hp : t.Under c p) :
    t.Ancestry c l ↔ ∃ rest, t.Ancestry p rest ∧ c :: rest = l := by
  constructor
  · intro h
    cases h with
    | root hroot => exact absurd (hroot.symm.trans hp) (by simp)
    | up hq hrest =>
      obtain rfl := Option.some.inj (hq.symm.trans hp)
      exact ⟨_, hrest, rfl⟩
  · rintro ⟨rest, hrest, rfl⟩
    exact .up hp hrest

theorem under_of_parent (hq : c.parent = some q) (hp : t.find? q = some p) : t.Under c p := by
  rw [Under, parent?, hq]
  exact hp

/-- **The chain of a class is the class and the chain of its parent.**  If the parent has none, the
class has none. -/
theorem chain?_of_parent (ht : t.classes.Indexed ClassNode.name) (hc : t.find? a = some c)
    (hq : c.parent = some q) (hp : t.find? q = some p) :
    t.chain? a = (t.chain? q).map (c :: ·) := by
  ext l
  rw [Option.map_eq_some_iff]
  simp only [chain?_eq_some_iff ht, hc, hp, Option.some.injEq, exists_eq_left',
    ancestry_iff_of_under (under_of_parent hq hp)]

theorem parent?_eq_none_of_forall (h : ∀ q, c.parent = some q → t.contains q = false) :
    t.parent? c = none := by
  rw [parent?]
  cases hq : c.parent with
  | none => rfl
  | some q => exact contains_eq_false_iff.mp (h q hq)

theorem exists_chain_of_not_entangled (ht : t.classes.Indexed ClassNode.name)
    (hc : t.find? a = some c) (hfree : ¬t.Entangled c) : ∃ l, t.chain? a = some l := by
  have hclimbed := climbed_chain? ht hc
  cases hl : t.chain? a with
  | none =>
    rw [hl] at hclimbed
    exact absurd hclimbed hfree
  | some l => exact ⟨l, rfl⟩

end ClassTree

namespace TypeEnv

variable {env : TypeEnv} {name : String} {β : Type}

/-! ## The chain of a class, as it is searched -/

/-- No class from `name` upwards shares its handle with another type. -/
def OwnHandles (env : TypeEnv) (name : String) : Prop :=
  ∀ l, env.classes.chain? name = some l → ∀ e ∈ l, env.store.Unshared e.info.ty

/-- As long as there are enough handles for all types, no two types share one. -/
theorem ownHandles_of_size (h : env.store.size ≤ Handle.maxIndex + 1) (name : String) :
    env.OwnHandles name :=
  fun _ _ _ _ ↦ Or.inl h

/-- The entry of the tree is searched under its name, in the class that lies at its place. -/
structure Shown (env : TypeEnv) (e : ClassNode ClassRef) (p : String × ClassShape) : Prop where
  name : p.1 = e.name
  info : e.info.name = e.name
  shape : env.store.shape e.info.ty = .ok (.classType p.2)
  named : sameName p.2.name e.name = true

theorem Shown.class? {e : ClassNode ClassRef} {p : String × ClassShape} (h : env.Shown e p) :
    env.store.class? e.info.ty = .ok (some p.2) :=
  (TypeStore.lands_self h.shape (by simp [Shape.kind])).class?

theorem exists_shown (h : env.Coherent) (hown : env.OwnHandles name)
    {l : List (ClassNode ClassRef)} (hl : env.classes.chain? name = some l) :
    ∃ cs, List.Forall₂ env.Shown l cs := by
  have hall : ∀ e ∈ l, ∃ p, env.Shown e p := by
    intro e he
    have hmem := ClassTree.mem_all_of_mem_chain h.classes_indexed hl he
    obtain ⟨hinfo, -, hclass⟩ := h.class_node e hmem
    obtain ⟨c, hc, hname, -⟩ := hclass (hown l hl e he)
    exact ⟨(e.name, c), rfl, hinfo, hc, hname⟩
  clear hl
  induction l with
  | nil => exact ⟨[], .nil⟩
  | cons e rest ih =>
    obtain ⟨p, hp⟩ := hall e List.mem_cons_self
    obtain ⟨ps, hps⟩ := ih fun e' he' ↦ hall e' (List.mem_cons_of_mem _ he')
    exact ⟨p :: ps, .cons hp hps⟩

/-- **No class is missing from the list that is searched.** -/
theorem classChain_of_shown {l : List (ClassNode ClassRef)} {cs : List (String × ClassShape)}
    (hl : env.classes.chain? name = some l) (hcs : List.Forall₂ env.Shown l cs) :
    env.classChain name = .ok cs := by
  have hshapes : (l.map ClassNode.info).mapM (fun r ↦ env.store.class? r.ty) =
      .ok (cs.map fun p ↦ some p.2) := by
    clear hl
    induction hcs with
    | nil => rfl
    | @cons e p l cs he _ ih =>
      rw [List.map_cons, List.mapM_cons, he.class?, ih]
      rfl
  have hzip : ((l.map ClassNode.info).zip (cs.map fun p ↦ some p.2)).filterMap
      (fun q ↦ q.2.map (q.1.name, ·)) = cs := by
    clear hl hshapes
    induction hcs with
    | nil => rfl
    | @cons e p l cs he _ ih =>
      rw [List.map_cons, List.map_cons, List.zip_cons_cons, List.filterMap_cons, ih, he.info,
        ← he.name]
      rfl
  rw [classChain, ClassTree.hierarchy?, hl, Option.map_some, Option.getD_some, hshapes]
  exact congrArg Except.ok hzip

theorem classChain_of_none (hl : env.classes.chain? name = none) :
    env.classChain name = .ok [] := by
  rw [classChain, ClassTree.hierarchy?, hl]
  rfl

/-! ## Members of any sort -/

/-- A member of a class, declared or inherited, where `own` picks it from the class it is declared
in. -/
def findMember? (env : TypeEnv) (own : ClassShape → Option β) (name : String) :
    Except Fault (Option (β × String)) := do
  return firstMember? own (← env.classChain name)

theorem findMember?_of_classChain {own : ClassShape → Option β} {cs : List (String × ClassShape)}
    (h : env.classChain name = .ok cs) :
    env.findMember? own name = .ok (firstMember? own cs) := by
  rw [findMember?, h]
  rfl

theorem firstMember?_cons (own : ClassShape → Option β) (p : String × ClassShape)
    (cs : List (String × ClassShape)) : firstMember? own (p :: cs) =
      match own p.2 with
      | some x => some (x, p.1)
      | none => firstMember? own cs := by
  rw [firstMember?, List.findSome?_cons]
  cases own p.2 <;> rfl

theorem firstMember?_append_isSome {own : ClassShape → Option β}
    {front back : List (String × ClassShape)} (h : (firstMember? own back).isSome = true) :
    (firstMember? own (front ++ back)).isSome = true := by
  rw [firstMember?, List.findSome?_append]
  rw [firstMember?] at h
  simp [h]

/-! ## One step up -/

theorem OwnHandles.parent (hown : env.OwnHandles name)
    (ht : env.classes.classes.Indexed ClassNode.name) {e p : ClassNode ClassRef} {q : String}
    (he : env.classes.find? name = some e) (hq : e.parent = some q)
    (hp : env.classes.find? q = some p) : env.OwnHandles q := by
  intro l hl d hd
  have hchain := ClassTree.chain?_of_parent ht he hq hp
  rw [hl, Option.map_some] at hchain
  exact hown _ hchain d (List.mem_cons_of_mem _ hd)

/-- **What is searched for a class is the class, and then what is searched for its parent.** -/
theorem exists_classChain_step (h : env.Coherent) (hown : env.OwnHandles name)
    {e : ClassNode ClassRef} (he : env.classes.find? name = some e)
    (hfree : ¬env.classes.Entangled e) :
    ∃ p rest, env.Shown e p ∧ env.classChain name = .ok (p :: rest) ∧
      (env.classes.parent? e = none → rest = []) ∧
      ∀ q d, e.parent = some q → env.classes.find? q = some d → env.classChain q = .ok rest := by
  have ht := h.classes_indexed
  obtain ⟨l, hl⟩ := ClassTree.exists_chain_of_not_entangled ht he hfree
  obtain ⟨cs, hcs⟩ := exists_shown h hown hl
  obtain ⟨e', he', hancestry⟩ := (ClassTree.chain?_eq_some_iff ht).mp hl
  obtain rfl := Option.some.inj (he.symm.trans he')
  have hchain := classChain_of_shown hl hcs
  cases hancestry with
  | root hroot =>
    obtain ⟨p, cs, hp, hnil, rfl⟩ := List.forall₂_cons_left_iff.mp hcs
    obtain rfl := List.forall₂_nil_left_iff.mp hnil
    refine ⟨p, [], hp, hchain, fun _ ↦ rfl, fun q d hq hd ↦ ?_⟩
    have hunder : env.classes.parent? e = some d := ClassTree.under_of_parent hq hd
    exact absurd (hroot.symm.trans hunder) (by simp)
  | up hunder _ =>
    obtain ⟨p, rest, hp, hrest, rfl⟩ := List.forall₂_cons_left_iff.mp hcs
    refine ⟨p, rest, hp, hchain, fun hroot ↦ ?_, fun q d hq hd ↦ ?_⟩
    · exact absurd (hroot.symm.trans hunder) (by simp)
    · have hparent := ClassTree.chain?_of_parent ht he hq hd
      rw [hl] at hparent
      obtain ⟨l', hl', hcons⟩ := Option.map_eq_some_iff.mp hparent.symm
      obtain ⟨-, rfl⟩ := List.cons.inj hcons
      exact classChain_of_shown hl' hrest

/-! ## The equations -/

/-- Looking for a member of a class goes from the class to its parent.  There is an answer for every
name, and what an ancestor has is not lost on the way down. -/
structure Inherits (env : TypeEnv) (own : ClassShape → Option β)
    (find : String → Except Fault (Option (β × String))) (name : String) : Prop where
  answered : ∃ r, find name = .ok r
  unregistered : env.classes.contains name = false → find name = .ok none
  entangled : ∀ e, env.classes.find? name = some e → env.classes.Entangled e →
    find name = .ok none
  declared : ∀ e c x, env.classes.find? name = some e → ¬env.classes.Entangled e →
    env.store.shape e.info.ty = .ok (.classType c) → own c = some x →
      find name = .ok (some (x, e.name))
  inherited : ∀ e c p, env.classes.find? name = some e → ¬env.classes.Entangled e →
    env.store.shape e.info.ty = .ok (.classType c) → own c = none →
      e.parent = some p → env.classes.contains p = true → find name = find p
  absent : ∀ e c, env.classes.find? name = some e → ¬env.classes.Entangled e →
    env.store.shape e.info.ty = .ok (.classType c) → own c = none →
      (∀ p, e.parent = some p → env.classes.contains p = false) → find name = .ok none
  kept : ∀ ancestor r, env.classes.descends name ancestor = true →
    find ancestor = .ok (some r) → ∃ r', find name = .ok (some r')

theorem chain?_eq_none_of_entangled (h : env.Coherent) {e : ClassNode ClassRef}
    (he : env.classes.find? name = some e) (hcycle : env.classes.Entangled e) :
    env.classes.chain? name = none :=
  (ClassTree.chain?_eq_none_iff h.classes_indexed).mpr (Or.inr ⟨e, he, hcycle⟩)

theorem chain?_eq_none_of_unregistered (h : env.classes.contains name = false) :
    env.classes.chain? name = none := by
  rw [ClassTree.chain?, ClassTree.contains_eq_false_iff.mp h]
  rfl

theorem exists_classChain_answer (h : env.Coherent) (hown : env.OwnHandles name) :
    ∃ cs, env.classChain name = .ok cs := by
  cases hl : env.classes.chain? name with
  | none => exact ⟨[], classChain_of_none hl⟩
  | some l =>
    obtain ⟨cs, hcs⟩ := exists_shown h hown hl
    exact ⟨cs, classChain_of_shown hl hcs⟩

theorem inherits_findMember? (h : env.Coherent) (hown : env.OwnHandles name)
    (own : ClassShape → Option β) : env.Inherits own (env.findMember? own) name where
  answered := by
    obtain ⟨cs, hcs⟩ := exists_classChain_answer h hown
    exact ⟨_, findMember?_of_classChain hcs⟩
  unregistered hno :=
    findMember?_of_classChain (classChain_of_none (chain?_eq_none_of_unregistered hno))
  entangled e he hcycle :=
    findMember?_of_classChain (classChain_of_none (chain?_eq_none_of_entangled h he hcycle))
  declared e c x he hfree hc hx := by
    obtain ⟨own', rest, hshown, hchain, -, -⟩ := exists_classChain_step h hown he hfree
    cases hc.symm.trans hshown.shape
    rw [findMember?_of_classChain hchain, firstMember?_cons, hx, hshown.name]
  inherited e c p he hfree hc hx hp hreg := by
    obtain ⟨own', rest, hshown, hchain, -, hup⟩ := exists_classChain_step h hown he hfree
    cases hc.symm.trans hshown.shape
    obtain ⟨d, hd⟩ := ClassTree.exists_of_contains hreg
    rw [findMember?_of_classChain hchain, firstMember?_cons, hx,
      findMember?_of_classChain (hup p d hp hd)]
  absent e c he hfree hc hx hp := by
    obtain ⟨own', rest, hshown, hchain, hroot, -⟩ := exists_classChain_step h hown he hfree
    cases hc.symm.trans hshown.shape
    rw [findMember?_of_classChain hchain, firstMember?_cons, hx,
      hroot (ClassTree.parent?_eq_none_of_forall hp)]
    rfl
  kept ancestor r hdesc hr := by
    obtain ⟨front, back, hl, hl'⟩ := ClassTree.descends_suffix h.classes_indexed hdesc
    obtain ⟨cs, hcs⟩ := exists_shown h hown hl
    have hback : List.Forall₂ env.Shown back (cs.drop front.length) := by
      simpa using List.forall₂_drop front.length hcs
    rw [findMember?_of_classChain (classChain_of_shown hl' hback)] at hr
    have hsome : (firstMember? own (cs.take front.length ++ cs.drop front.length)).isSome = true :=
      firstMember?_append_isSome (Option.isSome_of_eq_some (Except.ok.inj hr))
    rw [List.take_append_drop] at hsome
    obtain ⟨r', hr'⟩ := Option.isSome_iff_exists.mp hsome
    exact ⟨r', by rw [findMember?_of_classChain (classChain_of_shown hl hcs), hr']⟩

/-! ## Overridden methods -/

/-- The method that a class declares under a name, if it is dispatched on the instance. -/
def ownDynamic (method : String) (c : ClassShape) : Option Method :=
  (c.methods.get? method).filter fun m ↦ m.flags.isDynamic

theorem overriddenMethod?_of_classChain {cs : List (String × ClassShape)} (method : String)
    (h : env.classChain name = .ok cs) :
    env.overriddenMethod? name method = .ok (firstMember? (ownDynamic method) (cs.drop 1)) := by
  rw [overriddenMethod?, h]
  rfl

/-- Looking for the method that an overriding one replaces starts at the parent of the class, and
passes over methods that are not dispatched on the instance. -/
structure Overrides (env : TypeEnv) (method name : String) : Prop where
  answered : ∃ r, env.overriddenMethod? name method = .ok r
  unregistered : env.classes.contains name = false → env.overriddenMethod? name method = .ok none
  entangled : ∀ e, env.classes.find? name = some e → env.classes.Entangled e →
    env.overriddenMethod? name method = .ok none
  root : ∀ e, env.classes.find? name = some e →
    (∀ p, e.parent = some p → env.classes.contains p = false) →
      env.overriddenMethod? name method = .ok none
  replaced : ∀ e p d c m, env.classes.find? name = some e → ¬env.classes.Entangled e →
    e.parent = some p → env.classes.find? p = some d →
    env.store.shape d.info.ty = .ok (.classType c) → c.methods.get? method = some m →
    (m.flags.virtual = true ∨ m.flags.override = true ∨ m.flags.abstract = true) →
      env.overriddenMethod? name method = .ok (some (m, d.name))
  passed : ∀ e p d c, env.classes.find? name = some e → ¬env.classes.Entangled e →
    e.parent = some p → env.classes.find? p = some d →
    env.store.shape d.info.ty = .ok (.classType c) →
    (∀ m, c.methods.get? method = some m →
      ¬(m.flags.virtual = true ∨ m.flags.override = true ∨ m.flags.abstract = true)) →
      env.overriddenMethod? name method = env.overriddenMethod? p method

theorem isDynamic_iff {f : MethodFlags} : f.isDynamic = true ↔
    f.virtual = true ∨ f.override = true ∨ f.abstract = true := by
  simp [MethodFlags.isDynamic, or_assoc]

/-- Two steps up: what is searched for a class starts with the class, and goes on with its parent
and what is searched for the parent after that. -/
theorem exists_classChain_two_steps (h : env.Coherent) (hown : env.OwnHandles name)
    {e d : ClassNode ClassRef} {p : String} (he : env.classes.find? name = some e)
    (hfree : ¬env.classes.Entangled e) (hp : e.parent = some p)
    (hd : env.classes.find? p = some d) :
    ∃ first second rest, env.Shown d second ∧
      env.classChain name = .ok (first :: second :: rest) ∧
      env.classChain p = .ok (second :: rest) := by
  have hfree' : ¬env.classes.Entangled d := fun hcycle ↦
    hfree (hcycle.under (ClassTree.under_of_parent hp hd))
  obtain ⟨first, rest, -, hchain, -, hup⟩ := exists_classChain_step h hown he hfree
  obtain ⟨second, rest', hshown, hchain', -, -⟩ :=
    exists_classChain_step h (hown.parent h.classes_indexed he hp hd) hd hfree'
  cases (hup p d hp hd).symm.trans hchain'
  exact ⟨first, second, rest', hshown, hchain, hchain'⟩

theorem overrides_of_coherent (h : env.Coherent) (hown : env.OwnHandles name) (method : String) :
    env.Overrides method name where
  answered := by
    obtain ⟨cs, hcs⟩ := exists_classChain_answer h hown
    exact ⟨_, overriddenMethod?_of_classChain method hcs⟩
  unregistered hno :=
    overriddenMethod?_of_classChain method (classChain_of_none (chain?_eq_none_of_unregistered hno))
  entangled e he hcycle :=
    overriddenMethod?_of_classChain method
      (classChain_of_none (chain?_eq_none_of_entangled h he hcycle))
  root e he hp := by
    have hroot := ClassTree.parent?_eq_none_of_forall hp
    have hfree := (ClassTree.Ancestry.root hroot).not_entangled
    obtain ⟨c, rest, -, hchain, hrest, -⟩ := exists_classChain_step h hown he hfree
    rw [overriddenMethod?_of_classChain method hchain, hrest hroot]
    rfl
  replaced e p d c m he hfree hp hd hc hm hflags := by
    obtain ⟨first, second, rest, hshown, hchain, -⟩ :=
      exists_classChain_two_steps h hown he hfree hp hd
    cases hc.symm.trans hshown.shape
    have hdynamic : ownDynamic method second.2 = some m := by
      rw [ownDynamic, hm, Option.filter_some, if_pos (isDynamic_iff.mpr hflags)]
    rw [overriddenMethod?_of_classChain method hchain, List.drop_one, List.tail_cons,
      firstMember?_cons, hdynamic, hshown.name]
  passed e p d c he hfree hp hd hc hpass := by
    obtain ⟨first, second, rest, hshown, hchain, hchain'⟩ :=
      exists_classChain_two_steps h hown he hfree hp hd
    cases hc.symm.trans hshown.shape
    have hdynamic : ownDynamic method second.2 = none := by
      refine Option.filter_eq_none_iff.mpr fun m hm hflags ↦ ?_
      exact hpass m hm (isDynamic_iff.mp hflags)
    rw [overriddenMethod?_of_classChain method hchain,
      overriddenMethod?_of_classChain method hchain', List.drop_one, List.tail_cons,
      firstMember?_cons, hdynamic, List.drop_one, List.tail_cons]

/-! ## After any run of declarations -/

/-- Members of every sort are found as inheritance wants it. -/
structure MembersInherited (env : TypeEnv) (name : String) : Prop where
  /-- A class whose ancestors come to an end lies in the store, under its name. -/
  known : ∀ e, env.classes.find? name = some e → ¬env.classes.Entangled e →
    ∃ c, env.store.shape e.info.ty = .ok (.classType c) ∧ sameName c.name name = true
  methods : ∀ m, env.Inherits (fun c ↦ c.methods.get? m) (fun n ↦ env.findMethod? n m) name
  fields : ∀ f, env.Inherits (fun c ↦ c.fields.get? f) (fun n ↦ env.findField? n f) name
  properties : ∀ p, env.Inherits (fun c ↦ c.properties.get? p) (fun n ↦ env.findProperty? n p) name
  overridden : ∀ m, env.Overrides m name

/-- **Member look-up obeys inheritance after any run of declarations**, also where classes are
completed late, get another parent, or are their own ancestors. -/
theorem membersInherited_of_declarations (settings : Settings) (changes : List Change)
    (hc : ∀ change ∈ changes, change.isDeclaration = true) (name : String)
    (hown : ((TypeEnv.new settings).run changes).OwnHandles name) :
    ((TypeEnv.new settings).run changes).MembersInherited name := by
  have h : ((TypeEnv.new settings).run changes).Coherent :=
    run_induction (.new settings) changes fun _ change hmem ih ↦ ih.apply (hc change hmem)
  refine ⟨fun e he hfree ↦ ?_, fun m ↦ inherits_findMember? h hown _,
    fun f ↦ inherits_findMember? h hown _, fun p ↦ inherits_findMember? h hown _,
    overrides_of_coherent h hown⟩
  obtain ⟨p, rest, hshown, -⟩ := exists_classChain_step h hown he hfree
  have hname := (h.classes_indexed.get?_eq_some_iff.mp he).2
  exact ⟨p.2, hshown.shape, sameName_trans hshown.named hname⟩

/-- A box names its parent before there is one.  The shape is only announced then, and gets a parent
of its own together with its body, under a respelled name.  Beside them two classes are each other's
parent. -/
def lateParents : List Change :=
  [.declareNamed (.classType { name := "TBox", parent := some "tshape" }) ⟨1, 1, 0⟩,
    .declareNamed (.classType { name := "TShape", flags := { forward := true } }) ⟨2, 1, 0⟩,
    .push (.methodPointer { params := [] }),
    .declareNamed (.classType
      { name := "TRoot", methods := .ofList [("Draw", ⟨⟨9⟩, .everywhere, { virtual := true }⟩)] })
      ⟨3, 1, 0⟩,
    .completeClass
      { name := "TSHAPE", parent := some "troot"
        methods := .ofList [("draw", ⟨⟨9⟩, .everywhere, {}⟩)] },
    .declareNamed (.classType { name := "TLeft", parent := some "TRight" }) ⟨4, 1, 0⟩,
    .declareNamed (.classType { name := "TRight", parent := some "tleft" }) ⟨5, 1, 0⟩]

/-- The box inherits the method of the shape, which cannot be replaced.  What a method of the box
would replace is the method of the root.  The two classes in a circle have no members. -/
theorem membersInherited_lateParents :
    (∀ change ∈ lateParents, change.isDeclaration = true) ∧
      (∀ name, ((TypeEnv.new primitivesOnly).run lateParents).OwnHandles name) ∧
      ((TypeEnv.new primitivesOnly).run lateParents).findMethod? "tbox" "DRAW" =
        .ok (some (⟨⟨9⟩, .everywhere, {}⟩, "TShape")) ∧
      ((TypeEnv.new primitivesOnly).run lateParents).overriddenMethod? "tbox" "DRAW" =
        .ok (some (⟨⟨9⟩, .everywhere, { virtual := true }⟩, "TRoot")) ∧
      ((TypeEnv.new primitivesOnly).run lateParents).findMethod? "tleft" "DRAW" = .ok none ∧
      ∀ name, ((TypeEnv.new primitivesOnly).run lateParents).MembersInherited name := by
  have hc : ∀ change ∈ lateParents, change.isDeclaration = true := by decide
  have hown : ∀ name, ((TypeEnv.new primitivesOnly).run lateParents).OwnHandles name :=
    ownHandles_of_size (by decide)
  refine ⟨hc, hown, rfl, rfl, rfl, fun name ↦ ?_⟩
  exact membersInherited_of_declarations primitivesOnly lateParents hc name (hown name)

end TypeEnv

end PascalTypes
