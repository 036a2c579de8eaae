import PascalTypes.Proofs.DeclarationSteps

/-!
# Environments that can come up

An environment starts out empty and is changed by one call after the other.  A `Change` is one such
call, `TypeEnv.run` makes a list of them, and `TypeEnv.Reachable` are the environments that come
out.  Refused calls and calls that end in a fault count too, and leave the environment as it was.

Reachable environments can still be odd: classes that are their own ancestors, aliases and arrays
that contain themselves, interfaces that name no interface as their parent.  But the handles in the
tables are good.  `TypeEnv.Anchored` says so, together with the facts about the two tables that a
look-up relies on, and `Reachable.anchored` shows it for every reachable environment.
-/

set_option autoImplicit false

namespace PascalTypes

/-! ## Changes and runs -/

/-- A call that changes an environment. -/
inductive Change
  | declare (name : String) (shape : Shape) (location : Location) (visibility : TypeVisibility)
  /-- Declare a type under the name it carries. -/
  | declareNamed (shape : Shape) (location : Location)
  | completeClass (body : ClassShape)
  | registerBuiltins
  /-- End the time of declarations. -/
  | close
  /-- Add a type to the store that no table knows of. -/
  | push (shape : Shape)
  /-- Change a class in the store, and nothing but the store. -/
  | editClass (h : Handle) (change : ClassShape → ClassShape)
  | editRoutines (change : RoutineTable → RoutineTable)
  | editOperators (change : OperatorTable → OperatorTable)
  | editConversions (change : ConversionGraph → ConversionGraph)
  | editHelpers (change : HelperTable → HelperTable)
  | editRtti (change : RttiTable → RttiTable)

/-- Whether a change belongs to the collection of declarations, rather than reaching into the parts
of an environment from outside. -/
def Change.isDeclaration : Change → Bool
  | declare .. | declareNamed .. | completeClass _ | registerBuiltins | close | push _ => true
  | _ => false

namespace TypeEnv

/-- The environment after one change. -/
def apply (env : TypeEnv) : Change → TypeEnv
  | .declare name shape location visibility => (env.declare name shape location visibility).2
  | .declareNamed shape location => (env.declareNamed shape location).2
  | .completeClass body =>
    match env.completeClass body with
    | .ok (_, env) => env
    | .error _ => env
  | .registerBuiltins => env.registerBuiltins
  | .close => env.close
  | .push shape => { env with store := env.store.push shape }
  | .editClass h change =>
    match env.store.editClass h change with
    | .ok (_, store) => { env with store }
    | .error _ => env
  | .editRoutines change => { env with routines := change env.routines }
  | .editOperators change => { env with operators := change env.operators }
  | .editConversions change => { env with conversions := change env.conversions }
  | .editHelpers change => { env with helpers := change env.helpers }
  | .editRtti change => { env with rtti := change env.rtti }

/-- The environment after several changes. -/
def run (env : TypeEnv) (changes : List Change) : TypeEnv :=
  changes.foldl apply env

/-- The environments that come up. -/
def Reachable (env : TypeEnv) : Prop :=
  ∃ settings changes, env = (TypeEnv.new settings).run changes

/-- What holds at the start and is kept by every change holds after every run. -/
theorem run_induction {P : TypeEnv → Prop} {env : TypeEnv} (h : P env) (changes : List Change)
    (hstep : ∀ env change, change ∈ changes → P env → P (env.apply change)) :
    P (env.run changes) := by
  induction changes generalizing env with
  | nil => exact h
  | cons change rest ih =>
    refine ih (hstep env change List.mem_cons_self h) fun env' change' hmem ↦ ?_
    exact hstep env' change' (List.mem_cons_of_mem _ hmem)

/-! ## What a change can do

A change that is refused or that faults does nothing.  So for each of the calls that can fail there
are two cases. -/

theorem declare_snd_cases (env : TypeEnv) (name : String) (shape : Shape) (location : Location)
    (visibility : TypeVisibility) :
    (env.declare name shape location visibility).2 = env ∨
      ∃ rtti, shape.otherName? name = none ∧ env.rtti.Keeps rtti ∧
        (∀ category, shape.kind.rttiCategory? = some category →
          (rtti.get? category name).isSome = true) ∧
        (env.declare name shape location visibility).2 =
          env.declared name shape location visibility rtti := by
  rcases env.declare_cases name shape location visibility with
    ⟨e, -, he⟩ | ⟨rtti, hother, hrtti, he⟩
  · exact Or.inl (congrArg Prod.snd he)
  · obtain ⟨hkeeps, hid⟩ := RttiTable.keeps_of_allocateFor hrtti
    exact Or.inr ⟨rtti, hother, hkeeps, hid, congrArg Prod.snd he⟩

theorem apply_completeClass_cases (env : TypeEnv) (body : ClassShape) :
    env.apply (.completeClass body) = env ∨
      ∃ place announced, env.store.shape place = .ok (.classType announced) ∧
        env.store.isSealed = false ∧
        env.apply (.completeClass body) = env.completed place (announced.completing body) := by
  rw [apply]
  rcases env.completeClass_cases body with
    ⟨fault, he⟩ | ⟨e, -, he⟩ | ⟨h, place, announced, -, -, hx, ⟨-, hopen⟩, he⟩
  · exact Or.inl (by rw [he])
  · exact Or.inl (by rw [he])
  · exact Or.inr ⟨place, announced, hx, hopen, by rw [he]⟩

theorem apply_editClass_cases (env : TypeEnv) (h : Handle) (change : ClassShape → ClassShape) :
    env.apply (.editClass h change) = env ∨
      ∃ place c, env.store.shape place = .ok (.classType c) ∧ env.store.isSealed = false ∧
        env.apply (.editClass h change) =
          { env with store := env.store.replaceClass place (change c) } := by
  rw [apply]
  rcases env.store.editClass_cases h change with ⟨fault, he⟩ | ⟨e, he⟩ | ⟨place, c, hx, hopen, he⟩
  · exact Or.inl (by rw [he])
  · exact Or.inl (by rw [he])
  · exact Or.inr ⟨place, c, hx, hopen, by rw [he]⟩

/-! ## The handles in the tables are good -/

/-- The handles in the tables lead into the store, where the built-in types lie in their places, and
the tables find their entries under the names that these carry. -/
structure Anchored (env : TypeEnv) : Prop where
  initial_kept : ∀ h x, TypeStore.initial.shape h = .ok x → env.store.shape h = .ok x
  types_indexed : env.types.types.Indexed TypeEntry.name
  types_mem : ∀ d ∈ env.types.all, env.store.contains d.ty = true
  classes_indexed : env.classes.classes.Indexed ClassNode.name
  classes_mem : ∀ c ∈ env.classes.all, env.store.contains c.info.ty = true

/-- None of the built-in types has a name of its own, so none of them is a class. -/
theorem nominalName?_initial {h : Handle} {x : Shape} (hx : TypeStore.initial.shape h = .ok x) :
    x.nominalName? = none := by
  have hall : ∀ x ∈ TypeStore.initial.shapes.toList, x.nominalName? = none := by decide
  exact hall x (Array.mem_toList_iff.mpr (Array.mem_of_getElem? (TypeStore.shape_eq_ok_iff.mp hx)))

namespace Anchored

variable {env : TypeEnv}

/-- Only the store and the tables of types and classes matter. -/
theorem of_eq (h : env.Anchored) {env' : TypeEnv} (hs : env'.store = env.store)
    (ht : env'.types = env.types) (hc : env'.classes = env.classes) : env'.Anchored := by
  refine ⟨?_, ?_, ?_, ?_, ?_⟩
  · rw [hs]; exact h.initial_kept
  · rw [ht]; exact h.types_indexed
  · rw [hs, ht]; exact h.types_mem
  · rw [hc]; exact h.classes_indexed
  · rw [hs, hc]; exact h.classes_mem

theorem push (h : env.Anchored) (shape : Shape) :
    Anchored { env with store := env.store.push shape } where
  initial_kept p x hx := by
    have hp := h.initial_kept p x hx
    rwa [TypeStore.shape_push_of_contains (TypeStore.contains_of_shape hp)]
  types_indexed := h.types_indexed
  types_mem d hd := TypeStore.contains_push (h.types_mem d hd) shape
  classes_indexed := h.classes_indexed
  classes_mem c hc := TypeStore.contains_push (h.classes_mem c hc) shape

/-- Classes can be replaced, because the built-in types are not among them. -/
theorem replaceClass (h : env.Anchored) {place : Handle} {old : ClassShape}
    (hold : env.store.shape place = .ok (.classType old)) (c : ClassShape) :
    Anchored { env with store := env.store.replaceClass place c } where
  initial_kept p x hx := by
    have hp := h.initial_kept p x hx
    have hne : p ≠ place := by
      rintro rfl
      rw [hold] at hp
      cases hp
      exact nomatch nominalName?_initial hx
    rwa [TypeStore.shape_replaceClass_of_ne hne]
  types_indexed := h.types_indexed
  types_mem d hd := (TypeStore.contains_replaceClass place c).trans (h.types_mem d hd)
  classes_indexed := h.classes_indexed
  classes_mem e he := (TypeStore.contains_replaceClass place c).trans (h.classes_mem e he)

theorem insertType (h : env.Anchored) {d : TypeEntry} (hd : env.store.contains d.ty = true) :
    Anchored { env with types := ⟨env.types.types.insert d.name d⟩ } where
  initial_kept := h.initial_kept
  types_indexed := h.types_indexed.insert d.name (sameName_refl _)
  types_mem e he := by
    rcases h.types_indexed.mem_values_insert.mp he with rfl | ⟨he, -⟩
    · exact hd
    · exact h.types_mem e he
  classes_indexed := h.classes_indexed
  classes_mem := h.classes_mem

theorem registerClass (h : env.Anchored) (r : ClassRef) (hr : env.store.contains r.ty = true) :
    Anchored { env with classes := env.classes.register r.name r r.parent } where
  initial_kept := h.initial_kept
  types_indexed := h.types_indexed
  types_mem := h.types_mem
  classes_indexed := h.classes_indexed.insert r.name (sameName_refl _)
  classes_mem e he := by
    rcases h.classes_indexed.mem_values_insert.mp he with rfl | ⟨he, -⟩
    · exact hr
    · exact h.classes_mem e he

/-! ### Every change keeps them good -/

theorem indexClass (h : env.Anchored) (name : String) {p : Handle}
    (hp : env.store.contains p = true) (shape : Shape) :
    Anchored { env with classes := TypeEnv.indexClass env.classes name p shape } := by
  cases shape with
  | classType c => exact h.registerClass ⟨p, name, c.parent⟩ hp
  | _ => exact h

theorem declare (h : env.Anchored) (name : String) (shape : Shape) (location : Location)
    (visibility : TypeVisibility) : (env.declare name shape location visibility).2.Anchored := by
  rcases env.declare_snd_cases name shape location visibility with he | ⟨rtti, -, -, -, he⟩
  · rw [he]
    exact h
  · rw [he]
    have hp := env.store.contains_push_nextHandle shape
    have htypes := (h.push shape).insertType
      (d := { name, ty := env.store.nextHandle, location, visibility }) hp
    exact (htypes.indexClass name hp shape).of_eq rfl rfl rfl

theorem completeClass (h : env.Anchored) (body : ClassShape) :
    (env.apply (.completeClass body)).Anchored := by
  rcases env.apply_completeClass_cases body with he | ⟨place, announced, hx, -, he⟩
  · rw [he]
    exact h
  · rw [he]
    have hmem := TypeStore.contains_of_shape hx
    have hstore := h.replaceClass hx (announced.completing body)
    exact hstore.registerClass ⟨place, announced.name, body.parent⟩
      ((TypeStore.contains_replaceClass _ _).trans hmem)

theorem editClass (h : env.Anchored) (p : Handle) (change : ClassShape → ClassShape) :
    (env.apply (.editClass p change)).Anchored := by
  rcases env.apply_editClass_cases p change with he | ⟨place, c, hx, -, he⟩
  · rw [he]
    exact h
  · rw [he]
    exact h.replaceClass hx (change c)

theorem contains_builtin (h : env.Anchored) {p : String × Handle} (hp : p ∈ builtinTypes) :
    env.store.contains p.2 = true := by
  have hall : ∀ p ∈ builtinTypes, TypeStore.initial.contains p.2 = true := by decide
  obtain ⟨x, hx⟩ := TypeStore.exists_shape (hall p hp)
  exact TypeStore.contains_of_shape (h.initial_kept p.2 x hx)

theorem withPrimitives (h : env.Anchored) :
    Anchored { env with types := env.withPrimitives } := by
  refine List.foldlRecOn (motive := fun t ↦ Anchored { env with types := t }) _ _ h ?_
  intro t ht p hp
  exact ht.insertType (d := { name := p.1, ty := p.2, location := .builtin, isBuiltin := true })
    (h.contains_builtin hp)

theorem registerBuiltins (h : env.Anchored) : env.registerBuiltins.Anchored := by
  rcases env.registerBuiltins_cases with ⟨p, i, hres, hx, he⟩ | he
  · rw [he]
    exact h.withPrimitives.insertType
      (d := { name := rootInterface, ty := p, location := .builtin, isBuiltin := true })
      (TypeStore.contains_of_shape hx)
  · rw [he]
    exact (h.withPrimitives.push _).insertType
      (d := { name := rootInterface, ty := env.store.nextHandle, location := .builtin,
              isBuiltin := true })
      (env.store.contains_push_nextHandle _)

theorem apply (h : env.Anchored) (change : Change) : (env.apply change).Anchored := by
  cases change with
  | declare name shape location visibility => exact h.declare name shape location visibility
  | declareNamed shape location => exact h.declare _ shape location _
  | completeClass body => exact h.completeClass body
  | registerBuiltins => exact h.registerBuiltins
  | close =>
    exact ⟨h.initial_kept, h.types_indexed, h.types_mem, h.classes_indexed, h.classes_mem⟩
  | push shape => exact h.push shape
  | editClass p change => exact h.editClass p change
  | _ => exact h.of_eq rfl rfl rfl

theorem empty (settings : Settings) :
    Anchored { settings, rtti := .ofBases settings.rtti } :=
  ⟨fun _ _ hx ↦ hx, .empty _, fun _ hd ↦ absurd hd List.not_mem_nil, .empty _,
    fun _ hc ↦ absurd hc List.not_mem_nil⟩

theorem new (settings : Settings) : (TypeEnv.new settings).Anchored := by
  rw [TypeEnv.new]
  split
  · exact (Anchored.empty settings).registerBuiltins
  · exact Anchored.empty settings

end Anchored

/-- **The handles in the tables of a reachable environment lead into its store.** -/
theorem Reachable.anchored {env : TypeEnv} (h : env.Reachable) : env.Anchored := by
  obtain ⟨settings, changes, rfl⟩ := h
  exact run_induction (Anchored.new settings) changes fun _ change _ henv ↦ henv.apply change

end TypeEnv

end PascalTypes
