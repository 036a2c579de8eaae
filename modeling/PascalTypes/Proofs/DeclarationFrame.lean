import PascalTypes.Proofs.DeclarationSteps
import PascalTypes.Proofs.MapEdits

/-!
# What a declaration leaves alone

A declaration asks for an identifier and puts its type into the store before the table of types has
the last word, and the completion of a class may find its class behind several aliases.  This file
says what such a call can change at all:

* a call that is refused changes nothing;
* a declaration that goes through changes the entries under its name and adds one type to the store
  (`TypeEnv.DeclareFrame`);
* a completion changes the place of the class in the store and the entry under the name of the class
  (`TypeEnv.CompleteFrame`).

`TypeEnv.declarations_framed` puts the three together.  It holds in every environment, whether or
not it can come up.
-/

set_option autoImplicit false

namespace PascalTypes

/-! ## Identifiers -/

namespace RttiTable

/-- The table has at most given a number to a name, in the category of a kind and only if the name
had none. -/
structure IssueFrame (kind : Kind) (name : String) (t t' : RttiTable) : Prop where
  other : ∀ category, kind.rttiCategory? ≠ some category → t'.counter category = t.counter category
  known : ∀ category, kind.rttiCategory? = some category →
    (t.get? category name).isSome = true → t'.counter category = t.counter category
  new : ∀ category, kind.rttiCategory? = some category → t.get? category name = none →
    ∃ id, (t.counter category).next = some id ∧ (t'.counter category).next = nextId? id ∧
      t'.get? category name = some id ∧
      (t.counter category).issued.AgreeExcept name (t'.counter category).issued

theorem issueFrame_of_allocateFor {t t' : RttiTable} {kind : Kind} {name : String}
    (h : t.allocateFor kind name = (.ok (), t')) : t.IssueFrame kind name t' := by
  rcases t.allocateFor_cases kind name with
    ⟨category, ha⟩ | ⟨ha, hid⟩ | ⟨category, id, hk, hget, hnext, ha⟩
  · cases ha.symm.trans h
  · cases ha.symm.trans h
    refine ⟨fun _ _ ↦ rfl, fun _ _ _ ↦ rfl, fun category hk hget ↦ ?_⟩
    have hsome := hid category hk
    rw [hget] at hsome
    cases hsome
  · cases ha.symm.trans h
    refine ⟨fun category' hk' ↦ ?_, fun category' hk' hsome ↦ ?_, fun category' hk' _ ↦ ?_⟩
    · have hne : category' ≠ category := by
        rintro rfl
        exact hk' hk
      exact counter_setCounter_of_ne hne t _
    · cases hk.symm.trans hk'
      rw [hget] at hsome
      cases hsome
    · cases hk.symm.trans hk'
      refine ⟨id, hnext, ?_, t.get?_issue_self category name id, ?_⟩
      · rw [issue, counter_setCounter_self]
      · rw [issue, counter_setCounter_self]
        exact NameMap.agreeExcept_insert _ name id

end RttiTable

/-! ## The store -/

/-- Aliases lead past a class to the same end, whichever class it is. -/
theorem TypeStore.followAliases_replaceClass {s : TypeStore} {place : Handle} {old : ClassShape}
    (hold : s.shape place = .ok (.classType old)) (c : ClassShape) (n : Nat) (h : Handle) :
    (s.replaceClass place c).followAliases n h = s.followAliases n h := by
  induction n generalizing h with
  | zero => rfl
  | succ n ih =>
    by_cases hp : h = place
    · subst hp
      rw [followAliases, followAliases, shape_replaceClass_self (contains_of_shape hold), hold]
    · rw [followAliases, followAliases, shape_replaceClass_of_ne hp]
      simp only [ih]

theorem TypeStore.underlying_replaceClass {s : TypeStore} {place : Handle} {old : ClassShape}
    (hold : s.shape place = .ok (.classType old)) (c : ClassShape) (h : Handle) :
    (s.replaceClass place c).underlying h = s.underlying h := by
  rw [underlying, underlying, size_replaceClass, followAliases_replaceClass hold]

namespace TypeEnv

/-! ## Declarations -/

/-- The parts of an environment that declarations do not concern. -/
structure SameElsewhere (env env' : TypeEnv) : Prop where
  settings : env'.settings = env.settings
  routines : env'.routines = env.routines
  operators : env'.operators = env.operators
  conversions : env'.conversions = env.conversions
  helpers : env'.helpers = env.helpers

/-- All that a declaration changes when it goes through and gives out the handle `h`. -/
structure DeclareFrame (env : TypeEnv) (name : String) (shape : Shape) (location : Location)
    (visibility : TypeVisibility) (h : Handle) (env' : TypeEnv) : Prop
    extends SameElsewhere env env' where
  handle : h.index = env.store.size
  store : env'.store = env.store.push shape
  type_new : env'.types.find? name = some { name, ty := h, location, visibility }
  types_other : env.types.types.AgreeExcept name env'.types.types
  class_new : ∀ c, shape = .classType c →
    env'.classes.find? name = some ⟨name, c.parent, ⟨h, name, c.parent⟩⟩
  classes_other : env.classes.classes.AgreeExcept name env'.classes.classes
  classes_same : shape.kind ≠ .classType → env'.classes = env.classes
  rtti : env.rtti.IssueFrame shape.kind name env'.rtti

theorem declareFrame_of_declare {env env' : TypeEnv} {name : String} {shape : Shape}
    {location : Location} {visibility : TypeVisibility} {h : Handle}
    (hd : env.declare name shape location visibility = (.ok h, env'))
    (hsize : env.store.size ≤ Handle.maxIndex) :
    env.DeclareFrame name shape location visibility h env' := by
  rcases env.declare_cases name shape location visibility with
    ⟨e, -, he⟩ | ⟨rtti, -, hrtti, he⟩
  · cases he.symm.trans hd
  · cases he.symm.trans hd
    have hclasses : env.classes.classes.AgreeExcept name
        (indexClass env.classes name env.store.nextHandle shape).classes := by
      cases shape with
      | classType c => exact NameMap.agreeExcept_insert _ name _
      | _ => rfl
    exact
      { settings := rfl
        routines := rfl
        operators := rfl
        conversions := rfl
        helpers := rfl
        handle := Nat.min_eq_left hsize
        store := rfl
        type_new := NameMap.get?_insert_self _ name _
        types_other := NameMap.agreeExcept_insert _ name _
        class_new := by
          rintro c rfl
          exact NameMap.get?_insert_self _ name _
        classes_other := hclasses
        classes_same := by
          intro hk
          cases shape with
          | classType c => exact absurd rfl hk
          | _ => rfl
        rtti := RttiTable.issueFrame_of_allocateFor hrtti }

/-! ## Completions -/

/-- All that the completion of a class changes when it goes through.  The name of the body stands
for `h`, and the announced class lies at `place`, behind all aliases of `h`. -/
structure CompleteFrame (env : TypeEnv) (body : ClassShape) (h place : Handle)
    (announced : ClassShape) (env' : TypeEnv) : Prop extends SameElsewhere env env' where
  resolved : env.types.resolve? body.name = some h
  place_old : env.store.underlying h = .ok place
  place_new : env'.store.underlying h = .ok place
  class_old : env.store.shape place = .ok (.classType announced)
  forward_old : announced.isForward = true
  class_new : ∃ c, env'.store.shape place = .ok (.classType c) ∧ c.name = announced.name ∧
    c.isForward = false ∧ c = announced.completing body
  store_other : ∀ p, p ≠ place → env'.store.shape p = env.store.shape p
  store_size : env'.store.size = env.store.size
  store_sealed : env'.store.isSealed = env.store.isSealed
  node_new : env'.classes.find? announced.name =
    some ⟨announced.name, body.parent, ⟨place, announced.name, body.parent⟩⟩
  classes_other : env.classes.classes.AgreeExcept announced.name env'.classes.classes
  types : env'.types = env.types
  rtti : env'.rtti = env.rtti

theorem completeFrame_of_completeClass {env env' : TypeEnv} {body : ClassShape} {h : Handle}
    (hc : env.completeClass body = .ok (.ok h, env')) :
    ∃ place announced, env.CompleteFrame body h place announced env' := by
  rcases env.completeClass_cases body with
    ⟨fault, he⟩ | ⟨e, -, he⟩ | ⟨p, place, announced, hres, hu, hx, ⟨hf, -⟩, he⟩
  · cases he.symm.trans hc
  · cases he.symm.trans hc
  · cases he.symm.trans hc
    have hmem := TypeStore.contains_of_shape hx
    exact ⟨place, announced,
      { settings := rfl
        routines := rfl
        operators := rfl
        conversions := rfl
        helpers := rfl
        resolved := hres
        place_old := hu
        place_new := (TypeStore.underlying_replaceClass hx _ h).trans hu
        class_old := hx
        forward_old := hf
        class_new := ⟨_, TypeStore.shape_replaceClass_self hmem _, rfl, rfl, rfl⟩
        store_other := fun _ hp ↦ TypeStore.shape_replaceClass_of_ne hp _
        store_size := TypeStore.size_replaceClass place _
        store_sealed := rfl
        node_new := NameMap.get?_insert_self _ announced.name _
        classes_other := NameMap.agreeExcept_insert _ announced.name _
        types := rfl
        rtti := rfl }⟩

/-! ## Together -/

/-- **Declarations are all or nothing, and change only what they are about.** -/
theorem declarations_framed (env : TypeEnv) :
    (∀ name shape location visibility e env',
      env.declare name shape location visibility = (.error e, env') →
        env' = env ∧ e.ofDeclaration = true) ∧
    (∀ body e env', env.completeClass body = .ok (.error e, env') →
        env' = env ∧ e.ofCompletion = true) ∧
    (∀ name shape location visibility h env', env.store.size ≤ Handle.maxIndex →
      env.declare name shape location visibility = (.ok h, env') →
        env.DeclareFrame name shape location visibility h env') ∧
    (∀ body h env', env.completeClass body = .ok (.ok h, env') →
        ∃ place announced, env.CompleteFrame body h place announced env') := by
  refine ⟨?_, ?_, ?_, ?_⟩
  · intro name shape location visibility e env' hd
    rcases env.declare_cases name shape location visibility with ⟨e', hkind, he⟩ | ⟨rtti, -, -, he⟩
    · cases he.symm.trans hd
      exact ⟨rfl, hkind⟩
    · cases he.symm.trans hd
  · intro body e env' hc
    rcases env.completeClass_cases body with
      ⟨fault, he⟩ | ⟨e', hkind, he⟩ | ⟨h, place, announced, -, -, -, -, he⟩
    · cases he.symm.trans hc
    · cases he.symm.trans hc
      exact ⟨rfl, hkind⟩
    · cases he.symm.trans hc
  · intro name shape location visibility h env' hsize hd
    exact declareFrame_of_declare hd hsize
  · intro body h env' hc
    exact completeFrame_of_completeClass hc

/-- The last identifier for classes has gone to a class that is announced and has an alias. -/
def lastIdentifier : TypeEnv :=
  let env := TypeEnv.new { rtti := { classBase := 4294967295 }, withBuiltins := false }
  let env := (env.declareNamed (.classType { name := "TNode", flags := { forward := true } })
    ⟨1, 1, 0⟩).2
  (env.declareNamed (.aliasType ⟨"TLink", ⟨7⟩⟩) ⟨2, 1, 0⟩).2

theorem declarations_framed_lastIdentifier :
    (∃ env', lastIdentifier.declare "TItem" (.classType { name := "TItem" }) ⟨3, 1, 0⟩ .everywhere =
        (.error (.rttiExhausted .classType), env') ∧ env' = lastIdentifier) ∧
      (∃ env', lastIdentifier.completeClass { name := "TItem" } =
        .ok (.error (.notAClass "TItem"), env') ∧ env' = lastIdentifier) ∧
      (∃ env', lastIdentifier.declare "tpoint" (.recordType { name := "TPoint" }) ⟨3, 1, 0⟩
          .everywhere = (.ok ⟨9⟩, env') ∧
        lastIdentifier.DeclareFrame "tpoint" (.recordType { name := "TPoint" }) ⟨3, 1, 0⟩
          .everywhere ⟨9⟩ env') ∧
      ∃ env', lastIdentifier.completeClass { name := "TLINK", parent := some "TObject" } =
          .ok (.ok ⟨8⟩, env') ∧
        ∃ place announced, lastIdentifier.CompleteFrame
          { name := "TLINK", parent := some "TObject" } ⟨8⟩ place announced env' := by
  obtain ⟨hrefused, hunfinished, hdeclared, hcompleted⟩ := declarations_framed lastIdentifier
  obtain ⟨env₁, h₁⟩ : ∃ env', lastIdentifier.declare "TItem" (.classType { name := "TItem" })
    ⟨3, 1, 0⟩ .everywhere = (.error (.rttiExhausted .classType), env') := ⟨_, rfl⟩
  obtain ⟨env₂, h₂⟩ : ∃ env', lastIdentifier.completeClass { name := "TItem" } =
    .ok (.error (.notAClass "TItem"), env') := ⟨_, rfl⟩
  obtain ⟨env₃, h₃⟩ : ∃ env', lastIdentifier.declare "tpoint" (.recordType { name := "TPoint" })
    ⟨3, 1, 0⟩ .everywhere = (.ok ⟨9⟩, env') := ⟨_, rfl⟩
  obtain ⟨env₄, h₄⟩ : ∃ env', lastIdentifier.completeClass
    { name := "TLINK", parent := some "TObject" } = .ok (.ok ⟨8⟩, env') := ⟨_, rfl⟩
  exact ⟨⟨env₁, h₁, (hrefused _ _ _ _ _ _ h₁).1⟩, ⟨env₂, h₂, (hunfinished _ _ _ h₂).1⟩,
    ⟨env₃, h₃, hdeclared _ _ _ _ _ _ (by decide) h₃⟩, env₄, h₄, hcompleted _ _ _ h₄⟩

end TypeEnv

end PascalTypes
