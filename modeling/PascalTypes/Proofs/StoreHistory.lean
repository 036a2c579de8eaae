import PascalTypes.Proofs.Runs

/-!
# What becomes of a type

Handles are plain numbers that other parts of a program keep for later.  So what lies at a handle
must not change its meaning while declarations go on, and nothing at all may change once the store
is sealed.

`TypeEnv.store_apply_cases` says what a change can do to the store.  It adds a type, or it puts a
class in the place of a class, and the latter only while the store is open.  Everything else follows
from there: `store_run` for the types of an open store, `store_run_of_isSealed` for those of a
sealed one, and `entries_permanent` for both.
-/

set_option autoImplicit false

namespace PascalTypes

/-- Whether a change leaves the names of classes alone. -/
def Change.KeepsNames : Change → Prop
  | editClass _ change => ∀ c, (change c).name = c.name
  | _ => True

/-! ## Versions of a type -/

/-- `y` is a later version of `x`.  Only classes have other versions than themselves, and these have
the same name. -/
structure Shape.Version (x y : Shape) : Prop where
  kind : y.kind = x.kind
  same : x.kind ≠ .classType → y = x
  name : ∀ c, x = .classType c → ∃ d, y = .classType d ∧ d.name = c.name

namespace Shape.Version

variable {x y z : Shape}

theorem refl (x : Shape) : x.Version x :=
  ⟨rfl, fun _ ↦ rfl, fun c hc ↦ ⟨c, hc, rfl⟩⟩

theorem ofName {c d : ClassShape} (h : d.name = c.name) :
    Version (.classType c) (.classType d) := by
  refine ⟨rfl, fun hk ↦ absurd rfl hk, ?_⟩
  rintro _ ⟨⟩
  exact ⟨d, rfl, h⟩

theorem trans (hxy : x.Version y) (hyz : y.Version z) : x.Version z := by
  refine ⟨hyz.kind.trans hxy.kind, fun hk ↦ ?_, fun c hc ↦ ?_⟩
  · rw [hyz.same (hxy.kind ▸ hk), hxy.same hk]
  · obtain ⟨d, hd, hdc⟩ := hxy.name c hc
    obtain ⟨e, he, hed⟩ := hyz.name d hd
    exact ⟨e, he, hed.trans hdc⟩

end Shape.Version

namespace TypeStore

/-- Every handle of `s` leads in `s'` to a type that is related to the one it led to before. -/
def Keeps (R : Shape → Shape → Prop) (s s' : TypeStore) : Prop :=
  ∀ h x, s.shape h = .ok x → ∃ y, s'.shape h = .ok y ∧ R x y

variable {R : Shape → Shape → Prop} {s s' s'' : TypeStore}

theorem Keeps.trans (hR : ∀ x y z, R x y → R y z → R x z) (h : s.Keeps R s')
    (h' : s'.Keeps R s'') : s.Keeps R s'' := by
  intro p x hx
  obtain ⟨y, hy, hxy⟩ := h p x hx
  obtain ⟨z, hz, hyz⟩ := h' p y hy
  exact ⟨z, hz, hR x y z hxy hyz⟩

theorem keeps_of_shape (hR : ∀ x, R x x) (h : ∀ p, s'.shape p = s.shape p) : s.Keeps R s' :=
  fun p x hx ↦ ⟨x, (h p).trans hx, hR x⟩

theorem keeps_push (hR : ∀ x, R x x) (shape : Shape) : s.Keeps R (s.push shape) :=
  fun _ x hx ↦ ⟨x, (shape_push_of_contains (contains_of_shape hx) shape).trans hx, hR x⟩

theorem keeps_replaceClass (hR : ∀ x, R x x) {place : Handle} {old new : ClassShape}
    (hold : s.shape place = .ok (.classType old)) (hnew : R (.classType old) (.classType new)) :
    s.Keeps R (s.replaceClass place new) := by
  intro p x hx
  by_cases hp : p = place
  · subst hp
    cases hold.symm.trans hx
    exact ⟨_, shape_replaceClass_self (contains_of_shape hold) new, hnew⟩
  · exact ⟨x, (shape_replaceClass_of_ne hp new).trans hx, hR x⟩

end TypeStore

namespace TypeEnv

variable {env : TypeEnv}

/-! ## What a change does to the store -/

/-- **A change leaves the store as it is, seals it, adds a type at its end, or puts a class in the
place of a class.**  The last only happens in a store that is open. -/
theorem store_apply_cases (env : TypeEnv) (change : Change) :
    (env.apply change).store = env.store ∨ (env.apply change).store = env.store.close ∨
      (∃ shape, (env.apply change).store = env.store.push shape) ∨
      ∃ place old new, env.store.isSealed = false ∧
        env.store.shape place = .ok (.classType old) ∧
        (change.KeepsNames → new.name = old.name) ∧
        (env.apply change).store = env.store.replaceClass place new := by
  have hdeclare : ∀ name shape location visibility,
      (env.declare name shape location visibility).2.store = env.store ∨
        ∃ shape', (env.declare name shape location visibility).2.store = env.store.push shape' := by
    intro name shape location visibility
    rcases env.declare_snd_cases name shape location visibility with he | ⟨rtti, -, -, -, he⟩
    · exact Or.inl (congrArg store he)
    · exact Or.inr ⟨shape, congrArg store he⟩
  cases change with
  | declare name shape location visibility =>
    rcases hdeclare name shape location visibility with h | h
    · exact Or.inl h
    · exact Or.inr (Or.inr (Or.inl h))
  | declareNamed shape location =>
    rcases hdeclare (shape.declaredName?.getD "") shape location .everywhere with h | h
    · exact Or.inl h
    · exact Or.inr (Or.inr (Or.inl h))
  | completeClass body =>
    rcases env.apply_completeClass_cases body with he | ⟨place, announced, hx, hopen, he⟩
    · exact Or.inl (congrArg store he)
    · exact Or.inr (Or.inr (Or.inr ⟨place, announced, announced.completing body, hopen, hx,
        fun _ ↦ rfl, congrArg store he⟩))
  | registerBuiltins =>
    rcases env.registerBuiltins_cases with ⟨h, i, -, -, he⟩ | he
    · exact Or.inl (by rw [apply, he])
    · exact Or.inr (Or.inr (Or.inl ⟨_, by rw [apply, he]⟩))
  | close => exact Or.inr (Or.inl rfl)
  | push shape => exact Or.inr (Or.inr (Or.inl ⟨shape, rfl⟩))
  | editClass h change =>
    rcases env.apply_editClass_cases h change with he | ⟨place, c, hx, hopen, he⟩
    · exact Or.inl (congrArg store he)
    · exact Or.inr (Or.inr (Or.inr ⟨place, c, change c, hopen, hx, fun hk ↦ hk c,
        congrArg store he⟩))
  | _ => exact Or.inl rfl

/-- One change makes a later version of every type. -/
theorem store_apply (env : TypeEnv) {change : Change} (hk : change.KeepsNames) :
    env.store.Keeps Shape.Version (env.apply change).store := by
  rcases env.store_apply_cases change with
    he | he | ⟨shape, he⟩ | ⟨place, old, new, -, hold, hname, he⟩
  · exact TypeStore.keeps_of_shape .refl fun p ↦ by rw [he]
  · exact TypeStore.keeps_of_shape .refl fun p ↦ by rw [he]; rfl
  · exact he ▸ TypeStore.keeps_push .refl shape
  · exact he ▸ TypeStore.keeps_replaceClass .refl hold (.ofName (hname hk))

/-- Once the store is sealed it stays sealed, and no change makes another version of a type. -/
theorem store_apply_of_isSealed (h : env.store.isSealed = true) (change : Change) :
    (env.apply change).store.isSealed = true ∧
      env.store.Keeps Eq (env.apply change).store := by
  rcases env.store_apply_cases change with he | he | ⟨shape, he⟩ | ⟨place, old, new, hopen, -⟩
  · exact ⟨he ▸ h, TypeStore.keeps_of_shape (fun _ ↦ rfl) fun p ↦ by rw [he]⟩
  · exact ⟨he ▸ rfl, TypeStore.keeps_of_shape (fun _ ↦ rfl) fun p ↦ by rw [he]; rfl⟩
  · exact ⟨he ▸ h, he ▸ TypeStore.keeps_push (fun _ ↦ rfl) shape⟩
  · rw [h] at hopen
    cases hopen

/-! ## Runs -/

/-- A run makes later versions of the types that were there before. -/
theorem store_run (env : TypeEnv) {changes : List Change}
    (hk : ∀ change ∈ changes, change.KeepsNames) :
    env.store.Keeps Shape.Version (env.run changes).store := by
  refine run_induction (P := fun env' ↦ env.store.Keeps Shape.Version env'.store)
    (TypeStore.keeps_of_shape .refl fun _ ↦ rfl) changes fun env' change hmem ih ↦ ?_
  exact ih.trans (fun _ _ _ ↦ .trans) (env'.store_apply (hk change hmem))

/-- A run in a sealed store leaves all types that were there before as they are. -/
theorem store_run_of_isSealed (h : env.store.isSealed = true) (changes : List Change) :
    (env.run changes).store.isSealed = true ∧ env.store.Keeps Eq (env.run changes).store := by
  refine run_induction
    (P := fun env' ↦ env'.store.isSealed = true ∧ env.store.Keeps Eq env'.store)
    ⟨h, TypeStore.keeps_of_shape (fun _ ↦ rfl) fun _ ↦ rfl⟩ changes fun env' change _ ih ↦ ?_
  obtain ⟨hsealed, hkeeps⟩ := store_apply_of_isSealed ih.1 change
  exact ⟨hsealed, ih.2.trans (fun _ _ _ ↦ .trans) hkeeps⟩

theorem run_append (env : TypeEnv) (before after : List Change) :
    env.run (before ++ after) = (env.run before).run after :=
  List.foldl_append

/-- A run that seals the store ends with a sealed store. -/
theorem isSealed_run_of_mem (env : TypeEnv) {changes : List Change} (h : .close ∈ changes) :
    (env.run changes).store.isSealed = true := by
  obtain ⟨before, after, rfl⟩ := List.append_of_mem h
  rw [run_append]
  have hclosed : ((env.run before).apply .close).store.isSealed = true := rfl
  exact (store_run_of_isSealed hclosed after).1

/-- **What lies at a handle is there to stay.**  At every later point of a run it is a version of
what it was, and once the store is sealed it is what it was, whatever is tried. -/
theorem entries_permanent (settings : Settings) (before after : List Change) {h : Handle}
    {x : Shape} (hx : ((TypeEnv.new settings).run before).store.shape h = .ok x) :
    ((∀ change ∈ after, change.KeepsNames) →
        ∃ y, ((TypeEnv.new settings).run (before ++ after)).store.shape h = .ok y ∧ x.Version y) ∧
      (.close ∈ before →
        ((TypeEnv.new settings).run (before ++ after)).store.shape h = .ok x) := by
  rw [run_append]
  refine ⟨fun hk ↦ store_run _ hk h x hx, fun hclose ↦ ?_⟩
  have hsealed := (TypeEnv.new settings).isSealed_run_of_mem hclose
  obtain ⟨y, hy, rfl⟩ := (store_run_of_isSealed hsealed after).2 h x hx
  exact hy

def primitivesOnly : Settings :=
  { withBuiltins := false }

/-- A class is announced and has an alias. -/
def announcing : List Change :=
  [.declareNamed (.classType { name := "TNode", flags := { forward := true } }) ⟨1, 1, 0⟩,
    .declareNamed (.aliasType ⟨"TLink", ⟨7⟩⟩) ⟨2, 1, 0⟩]

/-- The class is completed under its alias, gets another parent, and the store is sealed. -/
def completing : List Change :=
  [.completeClass { name := "TLINK", parent := some "TList" },
    .editClass ⟨8⟩ fun c ↦ { c with parent := some "TObject" },
    .close]

/-- All that can be tried on a class, and a new class beside it. -/
def tampering : List Change :=
  [.completeClass { name := "TNode" }, .completeClass { name := "TLink" },
    .editClass ⟨7⟩ fun c ↦ { c with name := "TLeaf", parent := none },
    .registerBuiltins, .declareNamed (.classType { name := "TLeaf" }) ⟨3, 1, 0⟩]

theorem entries_permanent_announced :
    ∃ x y, ((TypeEnv.new primitivesOnly).run announcing).store.shape ⟨7⟩ = .ok x ∧ y ≠ x ∧
      ((TypeEnv.new primitivesOnly).run (announcing ++ completing)).store.shape ⟨7⟩ = .ok y ∧
      x.Version y ∧
      ((TypeEnv.new primitivesOnly).run (announcing ++ completing ++ tampering)).store.shape ⟨7⟩ =
        .ok y := by
  have hx : ((TypeEnv.new primitivesOnly).run announcing).store.shape ⟨7⟩ =
    .ok (.classType { name := "TNode", flags := { forward := true } }) := rfl
  have hy : ((TypeEnv.new primitivesOnly).run (announcing ++ completing)).store.shape ⟨7⟩ =
    .ok (.classType { name := "TNode", parent := some "TObject" }) := rfl
  have hk : ∀ change ∈ completing, change.KeepsNames := by
    simp [completing, Change.KeepsNames]
  have hclose : .close ∈ announcing ++ completing := by simp [completing]
  obtain ⟨y, hy', hversion⟩ := (entries_permanent _ announcing completing hx).1 hk
  cases hy.symm.trans hy'
  have hlast := (entries_permanent _ (announcing ++ completing) tampering hy).2 hclose
  exact ⟨_, _, hx, by decide, hy, hversion, hlast⟩

end TypeEnv

end PascalTypes
