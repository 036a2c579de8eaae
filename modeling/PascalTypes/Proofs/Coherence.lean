import PascalTypes.Proofs.Runs

/-!
# The tables agree with the store

A declaration writes to four places: the store, the table of types, the tree of classes and the
identifiers for run-time type information.  `TypeEnv.Coherent` says how the four belong together
after any number of declarations, and `coherent_of_declarations` proves it.

The delicate part is the tree of classes.  It repeats the parent of a class, which also stands in
the store, and a class changes its parent when its body comes.  The class may then have been found
behind an alias, under another spelling, or although its own name by now stands for something else.
What carries the proof is that the tree has one entry for a name: if an entry refers to the class
that is completed, then it is the entry under the name of that class, and this is the one that is
written anew (`Coherent.completed`).

Handles are words of 32 bits.  A store that has outgrown them gives the last one to every further
type, and then nothing can be said of what that handle means.  It is the one exception
(`TypeStore.Unshared`), and there is none as long as there are enough handles.
-/

set_option autoImplicit false

namespace PascalTypes

/-- A shape passes the test of a declaration if the name it is known by is the declared one. -/
theorem Shape.sameName_of_otherName? {x : Shape} {name declared : String}
    (h : x.otherName? name = none) (hx : x.nominalName? = some declared) :
    sameName declared name = true := by
  rw [otherName?, hx, Option.filter_eq_none_iff] at h
  simpa using h

/-! ## Handles that stand for one type -/

namespace TypeStore

variable {s s' : TypeStore} {h : Handle}

/-- The handle was not given to a second type: there are enough handles for all types, or it is not
the last one. -/
def Unshared (s : TypeStore) (h : Handle) : Prop :=
  s.size ≤ Handle.maxIndex + 1 ∨ h.index < Handle.maxIndex

theorem Unshared.of_le (hu : s'.Unshared h) (hle : s.size ≤ s'.size) : s.Unshared h :=
  hu.imp_left (Nat.le_trans hle)

theorem shape_push_of_unshared {shape : Shape} (hu : (s.push shape).Unshared s.nextHandle) :
    (s.push shape).shape s.nextHandle = .ok shape := by
  refine shape_push_nextHandle ?_ shape
  rcases hu with hsize | hlt
  · rw [size_push] at hsize
    omega
  · change min s.size Handle.maxIndex < Handle.maxIndex at hlt
    omega

end TypeStore

/-- What the tree of classes says of a class is right: the class lies at its place in the store, not
behind an alias, with the same name and parent. -/
def ClassNode.Agrees (store : TypeStore) (e : ClassNode ClassRef) : Prop :=
  e.info.name = e.name ∧ e.info.parent = e.parent ∧ (store.Unshared e.info.ty →
    ∃ c, store.shape e.info.ty = .ok (.classType c) ∧ sameName c.name e.name = true ∧
      c.parent = e.parent)

namespace TypeEnv

/-- The tables agree with each other and with the store. -/
structure Coherent (env : TypeEnv) : Prop extends Anchored env where
  /-- A type that is known by its name is in the table under this name. -/
  type_name : ∀ d ∈ env.types.all, env.store.Unshared d.ty → ∀ x name,
    env.store.shape d.ty = .ok x → x.nominalName? = some name → sameName name d.name = true
  /-- The tree of classes agrees with the store. -/
  class_node : ∀ e ∈ env.classes.all, e.Agrees env.store
  /-- The classes that a user declared are in the tree. -/
  class_known : ∀ d ∈ env.types.all, d.isBuiltin = false → env.store.Unshared d.ty →
    ∀ c, env.store.shape d.ty = .ok (.classType c) → env.classes.contains d.name = true
  /-- The classes, records and enumerations that a user declared have their identifiers. -/
  rtti_known : ∀ d ∈ env.types.all, d.isBuiltin = false → env.store.Unshared d.ty →
    ∀ x category, env.store.shape d.ty = .ok x → x.kind.rttiCategory? = some category →
      (env.rtti.get? category d.name).isSome = true

namespace Coherent

variable {env : TypeEnv}

/-! ## One table at a time -/

theorem push (h : env.Coherent) (shape : Shape) :
    Coherent { env with store := env.store.push shape } := by
  have htypes : ∀ d ∈ env.types.all,
      (env.store.push shape).shape d.ty = env.store.shape d.ty :=
    fun d hd ↦ TypeStore.shape_push_of_contains (h.types_mem d hd) shape
  have hle := env.store.size_le_push shape
  refine ⟨h.toAnchored.push shape, ?_, ?_, ?_, ?_⟩
  · intro d hd hu x name hx
    exact h.type_name d hd (hu.of_le hle) x name (htypes d hd ▸ hx)
  · intro e he
    obtain ⟨hname, hparent, hclass⟩ := h.class_node e he
    refine ⟨hname, hparent, fun hu ↦ ?_⟩
    obtain ⟨c, hx, hc⟩ := hclass (hu.of_le hle)
    have hpush := TypeStore.shape_push_of_contains (TypeStore.contains_of_shape hx) shape
    exact ⟨c, hpush.trans hx, hc⟩
  · intro d hd hb hu c hx
    exact h.class_known d hd hb (hu.of_le hle) c (htypes d hd ▸ hx)
  · intro d hd hb hu x category hx
    exact h.rtti_known d hd hb (hu.of_le hle) x category (htypes d hd ▸ hx)

theorem keepRtti (h : env.Coherent) {rtti : RttiTable} (hkeeps : env.rtti.Keeps rtti) :
    Coherent { env with rtti } := by
  refine ⟨h.toAnchored.of_eq rfl rfl rfl, h.type_name, h.class_node, h.class_known, ?_⟩
  intro d hd hb hu x category hx hcat
  exact hkeeps category d.name (h.rtti_known d hd hb hu x category hx hcat)

/-- A new entry in the table of types has to agree with the store and the other tables. -/
theorem insertType (h : env.Coherent) {d : TypeEntry} {x : Shape}
    (hmem : env.store.contains d.ty = true)
    (hx : env.store.Unshared d.ty → env.store.shape d.ty = .ok x)
    (hname : env.store.Unshared d.ty → ∀ name, x.nominalName? = some name →
      sameName name d.name = true)
    (hclass : d.isBuiltin = false → ∀ c, x = .classType c → env.classes.contains d.name = true)
    (hrtti : d.isBuiltin = false → ∀ category, x.kind.rttiCategory? = some category →
      (env.rtti.get? category d.name).isSome = true) :
    Coherent { env with types := ⟨env.types.types.insert d.name d⟩ } := by
  have hcases : ∀ e, e ∈ (env.types.types.insert d.name d).values → e = d ∨ e ∈ env.types.all :=
    fun e he ↦ (h.types_indexed.mem_values_insert.mp he).imp_right And.left
  refine ⟨h.toAnchored.insertType hmem, ?_, h.class_node, ?_, ?_⟩
  · intro e he hu y name hy
    rcases hcases e he with rfl | he
    · cases (hx hu).symm.trans hy
      exact hname hu name
    · exact h.type_name e he hu y name hy
  · intro e he hb hu c hy
    rcases hcases e he with rfl | he
    · cases (hx hu).symm.trans hy
      exact hclass hb c rfl
    · exact h.class_known e he hb hu c hy
  · intro e he hb hu y category hy
    rcases hcases e he with rfl | he
    · cases (hx hu).symm.trans hy
      exact hrtti hb category
    · exact h.rtti_known e he hb hu y category hy

/-- The tree of classes never forgets a class. -/
theorem contains_register {t : ClassTree ClassRef} {name : String}
    (hc : t.contains name = true) (r : ClassRef) :
    (t.register r.name r r.parent).contains name = true := by
  rw [ClassTree.contains, NameMap.contains_eq_isSome_get?] at hc ⊢
  rw [ClassTree.register, NameMap.get?_insert]
  split
  · rfl
  · exact hc

theorem agrees_register {t : ClassTree ClassRef} {store : TypeStore} {r : ClassRef}
    {c : ClassShape} (ht : t.classes.Indexed ClassNode.name)
    (hx : store.Unshared r.ty → store.shape r.ty = .ok (.classType c))
    (hname : sameName c.name r.name = true) (hparent : c.parent = r.parent)
    (hold : ∀ e ∈ t.all, sameName e.name r.name = false → e.Agrees store) :
    ∀ e ∈ (t.register r.name r r.parent).all, e.Agrees store := by
  intro e he
  rcases ht.mem_values_insert.mp he with rfl | ⟨he, hne⟩
  · exact ⟨rfl, rfl, fun hu ↦ ⟨c, hx hu, hname, hparent⟩⟩
  · exact hold e he hne

theorem registerClass (h : env.Coherent) {r : ClassRef} {c : ClassShape}
    (hmem : env.store.contains r.ty = true)
    (hx : env.store.Unshared r.ty → env.store.shape r.ty = .ok (.classType c))
    (hname : sameName c.name r.name = true) (hparent : c.parent = r.parent) :
    Coherent { env with classes := env.classes.register r.name r r.parent } := by
  refine ⟨h.toAnchored.registerClass r hmem, h.type_name, ?_, ?_, h.rtti_known⟩
  · exact agrees_register h.classes_indexed hx hname hparent fun e he _ ↦ h.class_node e he
  · intro d hd hb hu c' hx'
    exact contains_register (h.class_known d hd hb hu c' hx') r

/-! ## Declarations -/

theorem declared (h : env.Coherent) {name : String} {shape : Shape} {rtti : RttiTable}
    (location : Location) (visibility : TypeVisibility)
    (hother : shape.otherName? name = none) (hkeeps : env.rtti.Keeps rtti)
    (hid : ∀ category, shape.kind.rttiCategory? = some category →
      (rtti.get? category name).isSome = true) :
    (env.declared name shape location visibility rtti).Coherent := by
  have hmem := env.store.contains_push_nextHandle shape
  have hname : ∀ declared, shape.nominalName? = some declared → sameName declared name = true :=
    fun _ ↦ Shape.sameName_of_otherName? hother
  have hstore := (h.push shape).keepRtti hkeeps
  have hclasses : Coherent
      { env with rtti, store := env.store.push shape
                 classes := indexClass env.classes name env.store.nextHandle shape } ∧
      ∀ c, shape = .classType c →
        (indexClass env.classes name env.store.nextHandle shape).contains name = true := by
    cases shape with
    | classType c =>
      refine ⟨hstore.registerClass (r := ⟨env.store.nextHandle, name, c.parent⟩) hmem
        TypeStore.shape_push_of_unshared (hname c.name rfl) rfl, fun _ _ ↦ ?_⟩
      rw [indexClass, ClassTree.contains, NameMap.contains_eq_isSome_get?, ClassTree.register,
        NameMap.get?_insert_self]
      rfl
    | _ => exact ⟨hstore, fun _ hc ↦ nomatch hc⟩
  exact hclasses.1.insertType
    (d := { name, ty := env.store.nextHandle, location, visibility }) hmem
    TypeStore.shape_push_of_unshared (fun _ ↦ hname) (fun _ ↦ hclasses.2) fun _ ↦ hid

/-- **Completing a class.**  The entry of the tree that referred to the announced class is the one
that is written anew, because it stands under the name of that class. -/
theorem completed (h : env.Coherent) {place : Handle} {announced c : ClassShape}
    (hx : env.store.shape place = .ok (.classType announced)) (hname : c.name = announced.name) :
    (env.completed place c).Coherent := by
  have hmem := TypeStore.contains_of_shape hx
  have hself := TypeStore.shape_replaceClass_self hmem c
  have hle : env.store.size ≤ (env.store.replaceClass place c).size :=
    Nat.le_of_eq (TypeStore.size_replaceClass place c).symm
  -- what a look-up in the new store says of the old one
  have hshape : ∀ p y, (env.store.replaceClass place c).shape p = .ok y →
      ∃ x, env.store.shape p = .ok x ∧ x.kind = y.kind ∧ x.nominalName? = y.nominalName? := by
    intro p y hy
    by_cases hp : p = place
    · subst hp
      cases hself.symm.trans hy
      exact ⟨_, hx, rfl, congrArg some hname.symm⟩
    · rw [TypeStore.shape_replaceClass_of_ne hp] at hy
      exact ⟨y, hy, rfl, rfl⟩
  have hanchored := (h.toAnchored.replaceClass hx c).registerClass ⟨place, c.name, c.parent⟩
    ((TypeStore.contains_replaceClass _ _).trans hmem)
  refine ⟨hanchored, ?_, ?_, ?_, ?_⟩
  · intro d hd hu y name hy hn
    obtain ⟨x, hx', -, hxn⟩ := hshape d.ty y hy
    exact h.type_name d hd (hu.of_le hle) x name hx' (hxn.trans hn)
  · refine agrees_register (r := ⟨place, c.name, c.parent⟩) h.classes_indexed (fun _ ↦ hself)
      (sameName_refl _) rfl fun e he hne ↦ ?_
    obtain ⟨hen, hep, hclass⟩ := h.class_node e he
    refine ⟨hen, hep, fun hu ↦ ?_⟩
    obtain ⟨c', hc', hcn, hcp⟩ := hclass (hu.of_le hle)
    have hne' : e.info.ty ≠ place := by
      rintro heq
      rw [heq, hx] at hc'
      cases hc'
      rw [← hname] at hcn
      rw [sameName_symm hcn] at hne
      cases hne
    exact ⟨c', (TypeStore.shape_replaceClass_of_ne hne' c).trans hc', hcn, hcp⟩
  · intro d hd hb hu c' hc'
    obtain ⟨x, hx', hk, -⟩ := hshape d.ty _ hc'
    cases x with
    | classType old =>
      exact contains_register (h.class_known d hd hb (hu.of_le hle) old hx')
        ⟨place, c.name, c.parent⟩
    | _ => cases hk
  · intro d hd hb hu y category hy hcat
    obtain ⟨x, hx', hk, -⟩ := hshape d.ty y hy
    exact h.rtti_known d hd hb (hu.of_le hle) x category hx' (hk ▸ hcat)

theorem declare (h : env.Coherent) (name : String) (shape : Shape) (location : Location)
    (visibility : TypeVisibility) :
    (env.declare name shape location visibility).2.Coherent := by
  rcases env.declare_snd_cases name shape location visibility with
    he | ⟨rtti, hother, hkeeps, hid, he⟩
  · rw [he]
    exact h
  · rw [he]
    exact h.declared location visibility hother hkeeps hid

theorem completeClass (h : env.Coherent) (body : ClassShape) :
    (env.apply (.completeClass body)).Coherent := by
  rcases env.apply_completeClass_cases body with he | ⟨place, announced, hx, -, he⟩
  · rw [he]
    exact h
  · rw [he]
    exact h.completed hx rfl

/-! ## The built-in types -/

/-- Built-in entries need no class and no identifier, only the right name. -/
theorem registerBuiltin (h : env.Coherent) {name : String} {p : Handle} {x : Shape}
    (hmem : env.store.contains p = true)
    (hx : env.store.Unshared p → env.store.shape p = .ok x)
    (hname : env.store.Unshared p → ∀ declared, x.nominalName? = some declared →
      sameName declared name = true) :
    Coherent { env with types := env.types.registerBuiltin name p } :=
  h.insertType (d := { name, ty := p, location := .builtin, isBuiltin := true }) hmem hx hname
    (fun hb ↦ nomatch hb) fun hb ↦ nomatch hb

theorem withPrimitives (h : env.Coherent) :
    Coherent { env with types := env.withPrimitives } := by
  refine List.foldlRecOn (motive := fun t ↦ Coherent { env with types := t }) _ _ h ?_
  intro t ht p hp
  have hall : ∀ p ∈ builtinTypes, TypeStore.initial.contains p.2 = true := by decide
  obtain ⟨x, hx⟩ := TypeStore.exists_shape (hall p hp)
  have hkept := h.initial_kept p.2 x hx
  refine ht.registerBuiltin (TypeStore.contains_of_shape hkept) (fun _ ↦ hkept)
    fun _ declared hdeclared ↦ ?_
  rw [nominalName?_initial hx] at hdeclared
  cases hdeclared

theorem registerBuiltins (h : env.Coherent) : env.registerBuiltins.Coherent := by
  rcases env.registerBuiltins_cases with ⟨p, i, hres, hx, he⟩ | he
  · rw [he]
    -- the name of the root interface stands for an interface, which then has this name
    obtain ⟨d, hd, rfl⟩ := Option.map_eq_some_iff.mp hres
    have hp := h.withPrimitives
    obtain ⟨hmem, hdn⟩ := hp.types_indexed.get?_eq_some_iff.mp hd
    refine hp.registerBuiltin (TypeStore.contains_of_shape hx) (fun _ ↦ hx)
      fun hu declared hdeclared ↦ ?_
    exact sameName_trans (hp.type_name d hmem hu _ declared hx hdeclared) hdn
  · rw [he]
    refine (h.withPrimitives.push _).registerBuiltin (env.store.contains_push_nextHandle _)
      TypeStore.shape_push_of_unshared fun _ declared hdeclared ↦ ?_
    cases hdeclared
    exact sameName_refl _

/-! ## Runs -/

theorem apply (h : env.Coherent) {change : Change} (hc : change.isDeclaration = true) :
    (env.apply change).Coherent := by
  cases change with
  | declare name shape location visibility => exact h.declare name shape location visibility
  | declareNamed shape location => exact h.declare _ shape location _
  | completeClass body => exact h.completeClass body
  | registerBuiltins => exact h.registerBuiltins
  | close =>
    exact ⟨h.toAnchored.apply .close, h.type_name, h.class_node, h.class_known, h.rtti_known⟩
  | push shape => exact h.push shape
  | _ => cases hc

theorem new (settings : Settings) : (TypeEnv.new settings).Coherent := by
  have hempty : Coherent { settings, rtti := .ofBases settings.rtti } :=
    ⟨.empty settings, fun _ hd ↦ absurd hd List.not_mem_nil,
      fun _ he ↦ absurd he List.not_mem_nil, fun _ hd ↦ absurd hd List.not_mem_nil,
      fun _ hd ↦ absurd hd List.not_mem_nil⟩
  rw [TypeEnv.new]
  split
  · exact hempty.registerBuiltins
  · exact hempty

end Coherent

/-- **After any run of declarations the tables agree with the store.** -/
theorem coherent_of_declarations (settings : Settings) (changes : List Change)
    (hc : ∀ change ∈ changes, change.isDeclaration = true) :
    ((TypeEnv.new settings).run changes).Coherent :=
  run_induction (.new settings) changes fun _ change hmem ih ↦ ih.apply (hc change hmem)

/-- A class is announced, gets an alias, and is completed under a respelling of the alias.  Its name
is that of a built-in type, and is taken back in between. -/
def announcedUnderAlias : List Change :=
  [.declareNamed (.classType { name := "Variant", flags := { forward := true } }) ⟨1, 1, 0⟩,
    .declareNamed (.aliasType ⟨"TValue", ⟨8⟩⟩) ⟨2, 1, 0⟩,
    .registerBuiltins,
    .completeClass { name := "TVALUE", parent := some "TObject" },
    .declareNamed (.recordType { name := "TPoint" }) ⟨3, 1, 0⟩,
    .close]

theorem coherent_announcedUnderAlias :
    (∀ change ∈ announcedUnderAlias, change.isDeclaration = true) ∧
      ((TypeEnv.new {}).run announcedUnderAlias).classes.parentName? "variant" = some "TObject" ∧
      ((TypeEnv.new {}).run announcedUnderAlias).Coherent := by
  have hc : ∀ change ∈ announcedUnderAlias, change.isDeclaration = true := by decide
  exact ⟨hc, by decide, coherent_of_declarations {} announcedUnderAlias hc⟩

end TypeEnv

end PascalTypes
