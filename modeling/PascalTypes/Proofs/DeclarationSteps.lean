import PascalTypes.Proofs.Answers
import PascalTypes.Proofs.IndexedMap
import PascalTypes.Proofs.WellFormed
import PascalTypes.TypeEnv.Declare

/-!
# What a declaration does

Declaring a type, completing a class and registering the built-in types touch the store and several
tables, one after the other, and may stop on the way.  This file says once what can come out of
each of them, so that later proofs need not follow the steps again:

* `TypeEnv.declare_cases`: a declaration is refused and changes nothing, or every table gets its new
  entry;
* `TypeEnv.completeClass_cases`: the same for the completion of a class, where the class may have
  been found behind aliases;
* `TypeEnv.registerBuiltins_cases`: the root interface is kept, or it is made anew.

Before them stand the effects on the single parts, the store and the identifiers.
-/

set_option autoImplicit false

namespace PascalTypes

/-- The refusals that a declaration can meet with. -/
def Refusal.ofDeclaration : Refusal → Bool
  | emptyName | duplicateType .. | nameMismatch .. | rttiExhausted _ => true
  | _ => false

/-- The refusals that the completion of a class can meet with. -/
def Refusal.ofCompletion : Refusal → Bool
  | notAClass _ | sealedStore _ | notForward _ => true
  | _ => false

/-! ## The store -/

namespace TypeStore

variable {s : TypeStore} {h place : Handle} {c : ClassShape}

theorem size_push (s : TypeStore) (new : Shape) : (s.push new).size = s.size + 1 :=
  Array.size_push new

theorem size_le_push (s : TypeStore) (new : Shape) : s.size ≤ (s.push new).size := by
  rw [size_push]
  exact Nat.le_succ _

theorem size_replaceClass (place : Handle) (c : ClassShape) :
    (s.replaceClass place c).size = s.size :=
  Array.size_setIfInBounds

theorem contains_push (hc : s.contains h = true) (new : Shape) :
    (s.push new).contains h = true :=
  contains_iff.mpr (Nat.lt_of_lt_of_le (contains_iff.mp hc) (s.size_le_push new))

/-- The handle of a new type is good, even where the store has outgrown its handles. -/
theorem contains_push_nextHandle (s : TypeStore) (new : Shape) :
    (s.push new).contains s.nextHandle = true := by
  have hle : s.nextHandle.index ≤ s.size := Nat.min_le_left _ _
  rw [contains, size_push]
  exact decide_eq_true (Nat.lt_succ_of_le hle)

theorem contains_replaceClass (place : Handle) (c : ClassShape) :
    (s.replaceClass place c).contains h = s.contains h := by
  rw [contains, contains, size_replaceClass]

theorem shape_replaceClass_self (hc : s.contains place = true) (c : ClassShape) :
    (s.replaceClass place c).shape place = .ok (.classType c) := by
  have hlt := contains_iff.mp hc
  rw [shape_eq_ok_iff, replaceClass]
  exact Array.getElem?_setIfInBounds_self_of_lt hlt

theorem shape_replaceClass_of_ne (hne : h ≠ place) (c : ClassShape) :
    (s.replaceClass place c).shape h = s.shape h := by
  have hi : place.index ≠ h.index := fun he ↦ hne (congrArg Handle.mk he.symm)
  rw [shape, shape, replaceClass, Array.getElem?_setIfInBounds_ne hi]

/-- A class that can be edited lies behind the aliases of its handle, in a store that is open. -/
theorem editableClass_eq_ok (hc : s.editableClass h = .ok (.ok (place, c))) :
    s.underlying h = .ok place ∧ s.shape place = .ok (.classType c) ∧ s.isSealed = false := by
  obtain ⟨u, hu, hc⟩ := bind_eq_ok.mp hc
  obtain ⟨x, hx, hc⟩ := bind_eq_ok.mp hc
  cases x with
  | classType d =>
    change (if s.isSealed then _ else _) = _ at hc
    split at hc
    · cases hc
    · rename_i hopen
      cases hc
      exact ⟨hu, hx, Bool.eq_false_iff.mpr hopen⟩
  | _ => cases hc

theorem editableClass_eq_error {e : Refusal} (hc : s.editableClass h = .ok (.error e)) :
    e.ofCompletion = true := by
  obtain ⟨u, -, hc⟩ := bind_eq_ok.mp hc
  obtain ⟨x, -, hc⟩ := bind_eq_ok.mp hc
  cases x with
  | classType d =>
    change (if s.isSealed then _ else _) = _ at hc
    split at hc
    · cases hc
      rfl
    · cases hc
  | _ =>
    cases hc
    rfl

/-- Editing a class changes nothing, or puts another class in the place of the class. -/
theorem editClass_cases (s : TypeStore) (h : Handle) (change : ClassShape → ClassShape) :
    (∃ fault, s.editClass h change = .error fault) ∨
      (∃ e, s.editClass h change = .ok (.error e, s)) ∨
      ∃ place c, s.shape place = .ok (.classType c) ∧ s.isSealed = false ∧
        s.editClass h change = .ok (.ok (change c), s.replaceClass place (change c)) := by
  rw [editClass]
  cases hc : s.editableClass h with
  | error fault => exact Or.inl ⟨fault, rfl⟩
  | ok r =>
    cases r with
    | error e => exact Or.inr (Or.inl ⟨e, rfl⟩)
    | ok p =>
      obtain ⟨-, hx, hopen⟩ := editableClass_eq_ok hc
      exact Or.inr (Or.inr ⟨p.1, p.2, hx, hopen, rfl⟩)

end TypeStore

/-! ## Identifiers -/

namespace RttiTable

variable {t t' : RttiTable} {kind : Kind} {category : RttiCategory} {name : String}

/-- The table after it has given the number `id` to a name. -/
def issue (t : RttiTable) (category : RttiCategory) (name : String) (id : UInt32) : RttiTable :=
  t.setCounter category
    { next := nextId? id, issued := (t.counter category).issued.insert name id }

/-- A name has its number, there is none left for it, or it is given the next one. -/
theorem allocate_cases (t : RttiTable) (category : RttiCategory) (name : String) :
    (∃ id, t.get? category name = some id ∧ t.allocate category name = (.ok id, t)) ∨
      (t.get? category name = none ∧ (t.counter category).next = none ∧
        t.allocate category name = (.error (.rttiExhausted category), t)) ∨
      ∃ id, t.get? category name = none ∧ (t.counter category).next = some id ∧
        t.allocate category name = (.ok id, t.issue category name id) := by
  rw [allocate]
  cases hget : t.get? category name with
  | some id => exact Or.inl ⟨id, rfl, rfl⟩
  | none =>
    cases hnext : (t.counter category).next with
    | none => exact Or.inr (Or.inl ⟨rfl, rfl, rfl⟩)
    | some id => exact Or.inr (Or.inr ⟨id, rfl, rfl, rfl⟩)

/-- The same for a request on behalf of a kind, where many kinds have no numbers at all. -/
theorem allocateFor_cases (t : RttiTable) (kind : Kind) (name : String) :
    (∃ category, t.allocateFor kind name = (.error (.rttiExhausted category), t)) ∨
      (t.allocateFor kind name = (.ok (), t) ∧ ∀ category, kind.rttiCategory? = some category →
        (t.get? category name).isSome = true) ∨
      ∃ category id, kind.rttiCategory? = some category ∧ t.get? category name = none ∧
        (t.counter category).next = some id ∧
        t.allocateFor kind name = (.ok (), t.issue category name id) := by
  cases hk : kind.rttiCategory? with
  | none =>
    refine Or.inr (Or.inl ⟨?_, fun _ hcat ↦ nomatch hcat⟩)
    rw [allocateFor, hk]
  | some category =>
    rcases t.allocate_cases category name with
      ⟨id, hget, ha⟩ | ⟨-, -, ha⟩ | ⟨id, hget, hnext, ha⟩
    · refine Or.inr (Or.inl ⟨?_, fun _ hcat ↦ ?_⟩)
      · simp only [allocateFor, hk, ha]
      · cases hcat
        exact Option.isSome_of_eq_some hget
    · refine Or.inl ⟨category, ?_⟩
      simp only [allocateFor, hk, ha]
    · refine Or.inr (Or.inr ⟨category, id, rfl, hget, hnext, ?_⟩)
      simp only [allocateFor, hk, ha]

theorem allocateFor_eq_error {e : Refusal} (h : t.allocateFor kind name = (.error e, t')) :
    ∃ category, e = .rttiExhausted category ∧ t' = t := by
  rcases t.allocateFor_cases kind name with ⟨category, ha⟩ | ⟨ha, -⟩ | ⟨category, id, -, -, -, ha⟩
  · cases ha.symm.trans h
    exact ⟨category, rfl, rfl⟩
  · cases ha.symm.trans h
  · cases ha.symm.trans h

/-- A name that has an identifier keeps one. -/
def Keeps (t t' : RttiTable) : Prop :=
  ∀ category name, (t.get? category name).isSome = true → (t'.get? category name).isSome = true

theorem get?_issue_self (t : RttiTable) (category : RttiCategory) (name : String) (id : UInt32) :
    (t.issue category name id).get? category name = some id := by
  rw [get?, issue, counter_setCounter_self, NameMap.get?_insert_self]

/-- Giving out an identifier takes none away. -/
theorem keeps_issue (t : RttiTable) (category : RttiCategory) (name : String) (id : UInt32) :
    t.Keeps (t.issue category name id) := by
  intro category' name' h
  by_cases hcat : category' = category
  · subst hcat
    rw [get?, issue, counter_setCounter_self, NameMap.get?_insert]
    split
    · rfl
    · exact h
  · rwa [get?, issue, counter_setCounter_of_ne hcat]

/-- After a request that is not refused, the name has an identifier, and so have all that had one
before. -/
theorem keeps_of_allocateFor (h : t.allocateFor kind name = (.ok (), t')) :
    t.Keeps t' ∧ ∀ category, kind.rttiCategory? = some category →
      (t'.get? category name).isSome = true := by
  rcases t.allocateFor_cases kind name with
    ⟨category, ha⟩ | ⟨ha, hid⟩ | ⟨category, id, hk, -, -, ha⟩
  · cases ha.symm.trans h
  · cases ha.symm.trans h
    exact ⟨fun _ _ h ↦ h, hid⟩
  · cases ha.symm.trans h
    refine ⟨t.keeps_issue category name id, fun category' hk' ↦ ?_⟩
    cases hk.symm.trans hk'
    exact Option.isSome_of_eq_some (t.get?_issue_self category name id)

end RttiTable

/-! ## Declarations -/

/-- The class that takes the place of an announced one when its body has come. -/
def ClassShape.completing (announced body : ClassShape) : ClassShape :=
  { body with name := announced.name, flags := { body.flags with forward := false } }

theorem TypeTable.available_eq_error {t : TypeTable} {name : String} {e : Refusal}
    (h : t.available name = .error e) : e.ofDeclaration = true := by
  rw [available] at h
  split at h
  · cases h
    rfl
  · split at h
    · split at h
      · cases h
      · cases h
        rfl
    · cases h

theorem TypeTable.register_of_available {t : TypeTable} {name : String}
    (h : t.available name = .ok ()) (ty : Handle) (location : Location)
    (visibility : TypeVisibility) : t.register name ty location visibility =
      (.ok (), ⟨t.types.insert name { name, ty, location, visibility }⟩) := by
  rw [register, h]

namespace TypeEnv

/-- The environment after a declaration that is not refused. -/
def declared (env : TypeEnv) (name : String) (shape : Shape) (location : Location)
    (visibility : TypeVisibility) (rtti : RttiTable) : TypeEnv :=
  { env with
    rtti
    store := env.store.push shape
    types := ⟨env.types.types.insert name
      { name, ty := env.store.nextHandle, location, visibility }⟩
    classes := indexClass env.classes name env.store.nextHandle shape }

/-- **A declaration is refused and changes nothing, or it goes through as a whole.** -/
theorem declare_cases (env : TypeEnv) (name : String) (shape : Shape) (location : Location)
    (visibility : TypeVisibility) :
    (∃ e, e.ofDeclaration = true ∧
        env.declare name shape location visibility = (.error e, env)) ∨
      ∃ rtti, shape.otherName? name = none ∧
        env.rtti.allocateFor shape.kind name = (.ok (), rtti) ∧
        env.declare name shape location visibility =
          (.ok env.store.nextHandle, env.declared name shape location visibility rtti) := by
  rw [declare]
  cases hav : env.types.available name with
  | error e => exact Or.inl ⟨e, TypeTable.available_eq_error hav, rfl⟩
  | ok u =>
    cases hother : shape.otherName? name with
    | some declared => exact Or.inl ⟨_, rfl, rfl⟩
    | none =>
      rcases hr : env.rtti.allocateFor shape.kind name with ⟨r, rtti⟩
      cases r with
      | error e =>
        obtain ⟨category, rfl, rfl⟩ := RttiTable.allocateFor_eq_error hr
        exact Or.inl ⟨.rttiExhausted category, rfl, rfl⟩
      | ok u =>
        refine Or.inr ⟨rtti, rfl, rfl, ?_⟩
        simp only [TypeTable.register_of_available hav]
        rfl

/-- The environment after the completion of a class that lies at `place`. -/
def completed (env : TypeEnv) (place : Handle) (c : ClassShape) : TypeEnv :=
  { env with
    store := env.store.replaceClass place c
    classes := env.classes.register c.name ⟨place, c.name, c.parent⟩ c.parent }

theorem completeClass_of_resolve {env : TypeEnv} {body : ClassShape} {h : Handle}
    (hres : env.types.resolve? body.name = some h) : env.completeClass body =
      env.store.editableClass h >>= fun
        | .error e => .ok (.error e, env)
        | .ok (place, announced) =>
          if announced.isForward then
            .ok (.ok h, env.completed place (announced.completing body))
          else .ok (.error (.notForward announced.name), env) := by
  rw [completeClass, hres]
  rfl

/-- **A completion leads nowhere, is refused, or puts a class with the announced name in the place
of the announced class.** -/
theorem completeClass_cases (env : TypeEnv) (body : ClassShape) :
    (∃ fault, env.completeClass body = .error fault) ∨
      (∃ e, e.ofCompletion = true ∧ env.completeClass body = .ok (.error e, env)) ∨
      ∃ h place announced, env.types.resolve? body.name = some h ∧
        env.store.underlying h = .ok place ∧
        env.store.shape place = .ok (.classType announced) ∧
        (announced.isForward = true ∧ env.store.isSealed = false) ∧
        env.completeClass body = .ok (.ok h, env.completed place (announced.completing body)) := by
  cases hres : env.types.resolve? body.name with
  | none =>
    refine Or.inr (Or.inl ⟨.notAClass body.name, rfl, ?_⟩)
    rw [completeClass, hres]
    rfl
  | some h =>
    rw [completeClass_of_resolve hres]
    cases hc : env.store.editableClass h with
    | error fault => exact Or.inl ⟨fault, rfl⟩
    | ok r =>
      cases r with
      | error e => exact Or.inr (Or.inl ⟨e, TypeStore.editableClass_eq_error hc, rfl⟩)
      | ok p =>
        obtain ⟨place, announced⟩ := p
        obtain ⟨hu, hx, hopen⟩ := TypeStore.editableClass_eq_ok hc
        by_cases hf : announced.isForward = true
        · exact Or.inr (Or.inr ⟨h, place, announced, rfl, hu, hx, ⟨hf, hopen⟩, if_pos hf⟩)
        · exact Or.inr (Or.inl ⟨.notForward announced.name, rfl, if_neg hf⟩)

/-! ## The built-in types -/

/-- The table of types after the primitive types have been registered. -/
def withPrimitives (env : TypeEnv) : TypeTable :=
  builtinTypes.foldl (fun t p ↦ t.registerBuiltin p.1 p.2) env.types

theorem rootHandle?_eq_some {env : TypeEnv} {h : Handle} (hroot : env.rootHandle? = some h) :
    env.types.resolve? rootInterface = some h ∧
      ∃ i, env.store.shape h = .ok (.interfaceType i) := by
  obtain ⟨hres, hshape⟩ := Option.filter_eq_some_iff.mp hroot
  refine ⟨hres, ?_⟩
  split at hshape
  · rename_i i hx
    exact ⟨i, hx⟩
  · cases hshape

/-- **The root interface is the one that is there, or it is made anew.** -/
theorem registerBuiltins_cases (env : TypeEnv) :
    (∃ h i, env.withPrimitives.resolve? rootInterface = some h ∧
        env.store.shape h = .ok (.interfaceType i) ∧
        env.registerBuiltins =
          { env with types := env.withPrimitives.registerBuiltin rootInterface h }) ∨
      env.registerBuiltins =
        { env with
          types := env.withPrimitives.registerBuiltin rootInterface env.store.nextHandle
          store := env.store.push (.interfaceType { name := rootInterface }) } := by
  cases hroot : rootHandle? { env with types := env.withPrimitives } with
  | none =>
    refine Or.inr ?_
    rw [withPrimitives] at hroot ⊢
    simp only [registerBuiltins, hroot]
  | some h =>
    obtain ⟨hres, i, hx⟩ := rootHandle?_eq_some hroot
    refine Or.inl ⟨h, i, hres, hx, ?_⟩
    rw [withPrimitives] at hroot ⊢
    simp only [registerBuiltins, hroot]

end TypeEnv

end PascalTypes
