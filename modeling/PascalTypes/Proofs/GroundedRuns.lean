import PascalTypes.Proofs.AssignmentLaws
import PascalTypes.Proofs.StoreHistory

/-!
# Questions that never go astray

A question about a type can go wrong in two ways.  It can come to a handle that the store never
issued, or it can go round in circles, since nothing stops a caller from storing a type that is made
of itself.  Neither happens after a run in which every type that is added is made of types that are
there already (`TypeEnv.GroundedRun`).  What refused declarations would have added does not count.

* Such a run ends with a well-formed store (`wellFormed_run`).  Every change keeps what the types
  of the store are made of, also one that puts a class in the place of another.
* In a well-formed store, what is asked about a type on the way to an answer is asked about types
  at smaller handles.  To state this, a question is opened by one step: `TypeStore.displayVia` and
  `TypeStore.sameTypeVia` have the questions that come up on the way as a parameter, and it makes no
  difference what that parameter says about any other handles (`WellFormed.displayVia_eq`,
  `WellFormed.sameTypeVia_eq`).

`answered_of_groundedRun` puts this together for all questions that an assignment needs.
-/

set_option autoImplicit false

namespace PascalTypes

/-! ## One step of a question -/

namespace TypeStore

/-- The text of a type, given how the types it is made of are shown. -/
def displayVia (s : TypeStore) (typeText : Handle → Except Fault String) (h : Handle) :
    Except Fault String := do
  (← s.shape h).display typeText

/-- Whether two handles mean the same type, given how the types they are made of compare. -/
def sameTypeVia (s : TypeStore) (same : Handle → Handle → Except Fault Bool) (a b : Handle) :
    Except Fault Bool := do
  let a ← s.underlying a
  let b ← s.underlying b
  if a = b then return true
  else
    let x ← s.shape a
    let y ← s.shape b
    match x.head?, y.head? with
    | some p, some q => if p = q then sameParts same x.parts y.parts else return false
    | _, _ => return false

theorem displayWithin_succ (s : TypeStore) (n : Nat) (h : Handle) :
    s.displayWithin (n + 1) h = s.displayVia (s.displayWithin n) h :=
  rfl

theorem sameTypeWithin_succ (s : TypeStore) (n : Nat) (a b : Handle) :
    s.sameTypeWithin (n + 1) a b = s.sameTypeVia (s.sameTypeWithin n) a b :=
  rfl

end TypeStore

/-! ### Only the components matter -/

theorem Signature.display_congr {f g : Handle → Except Fault String} (sig : Signature)
    (h : ∀ p ∈ sig.params ++ sig.result.toList, f p = g p) : sig.display f = sig.display g := by
  rw [display, display, mapM_congr fun p hp ↦ h p (List.mem_append_left _ hp)]
  cases hr : sig.result with
  | none => rfl
  | some r =>
    have hmem : r ∈ sig.result.toList := Option.mem_toList.mpr hr
    simp only [h r (List.mem_append_right _ hmem)]

theorem Shape.display_congr {f g : Handle → Except Fault String} (x : Shape)
    (h : ∀ p ∈ x.components, f p = g p) : x.display f = x.display g := by
  cases x with
  | array a => rw [display, display, h a.element (List.mem_singleton_self _)]
  | metaclass t => rw [display, display, h t (List.mem_singleton_self _)]
  | functionPointer sig => exact sig.display_congr h
  | methodPointer sig => rw [display, display, sig.display_congr h]
  | _ => rfl

theorem sameParts_congr {f g : Handle → Handle → Except Fault Bool} :
    ∀ {ps qs : List (Option Handle)}, (∀ p q, some p ∈ ps → some q ∈ qs → f p q = g p q) →
      sameParts f ps qs = sameParts g ps qs
  | [], [], _ | [], _ :: _, _ | none :: _, [], _ | some _ :: _, [], _ => rfl
  | none :: _, some _ :: _, _ | some _ :: _, none :: _, _ => rfl
  | none :: ps, none :: qs, h => by
    rw [sameParts, sameParts]
    exact sameParts_congr fun p q hp hq ↦
      h p q (List.mem_cons_of_mem _ hp) (List.mem_cons_of_mem _ hq)
  | some p :: ps, some q :: qs, h => by
    have ih : sameParts f ps qs = sameParts g ps qs := sameParts_congr fun p q hp hq ↦
      h p q (List.mem_cons_of_mem _ hp) (List.mem_cons_of_mem _ hq)
    rw [sameParts, sameParts, h p q List.mem_cons_self List.mem_cons_self, ih]

namespace TypeStore

variable {s : TypeStore} {a b u v : Handle} {x y : Shape}

theorem Lands.sameTypeVia_congr {f g : Handle → Handle → Except Fault Bool} (ha : s.Lands a u x)
    (hb : s.Lands b v y) (h : ∀ p q, some p ∈ x.parts → some q ∈ y.parts → f p q = g p q) :
    s.sameTypeVia f a b = s.sameTypeVia g a b := by
  simp only [sameTypeVia, ha.underlying, hb.underlying, ha.shape, hb.shape, bind, Except.bind,
    sameParts_congr h]

/-! ### Questions on the way are about smaller handles -/

/-- A bound that is large enough does not matter. -/
theorem WellFormed.displayWithin_eq (hs : s.WellFormed) : ∀ (n m : Nat) (h : Handle),
    h.index < n → h.index < m → s.displayWithin n h = s.displayWithin m h
  | 0, _, _, hn, _ => absurd hn (Nat.not_lt_zero _)
  | _, 0, _, _, hm => absurd hm (Nat.not_lt_zero _)
  | n + 1, m + 1, h, hn, hm => by
    rw [displayWithin_succ, displayWithin_succ, displayVia, displayVia]
    cases hx : s.shape h with
    | error e => rfl
    | ok x =>
      refine x.display_congr fun p hp ↦ ?_
      have hlt := hs.component_lt hx hp
      exact hs.displayWithin_eq n m p (by omega) (by omega)

/-- **To show a type, only types at smaller handles are shown.** -/
theorem WellFormed.displayVia_eq (hs : s.WellFormed) (ha : s.contains a = true)
    {typeText : Handle → Except Fault String}
    (h : ∀ p, s.contains p = true → p.index < a.index → typeText p = s.display p) :
    s.displayVia typeText a = s.display a := by
  obtain ⟨x, hx⟩ := exists_shape ha
  have hsize : a.index < s.size := contains_iff.mp ha
  rw [display, displayWithin_succ, displayVia, displayVia, hx]
  refine x.display_congr fun p hp ↦ ?_
  have hlt := hs.component_lt hx hp
  rw [h p (hs.contains_component hx hp) hlt]
  exact hs.displayWithin_eq _ _ p (by omega) (by omega)

/-- **To compare two types, only types at smaller handles are compared.** -/
theorem WellFormed.sameTypeVia_eq (hs : s.WellFormed) (ha : s.contains a = true)
    (hb : s.contains b = true) {same : Handle → Handle → Except Fault Bool}
    (h : ∀ p q, s.contains p = true → s.contains q = true → p.index < a.index →
      q.index < b.index → same p q = s.sameType p q) :
    s.sameTypeVia same a b = s.sameType a b := by
  obtain ⟨u, x, hx⟩ := hs.exists_lands ha
  obtain ⟨v, y, hy⟩ := hs.exists_lands hb
  have hsize : a.index < s.size := contains_iff.mp ha
  have hle : s.size ≤ s.size * s.size := Nat.le_mul_self s.size
  rw [sameType, sameTypeWithin_succ]
  refine hx.sameTypeVia_congr hy fun p q hp hq ↦ ?_
  have hp' := Shape.mem_components_of_mem_parts hp
  have hq' := Shape.mem_components_of_mem_parts hq
  have hlt := hx.component_lt hs hp'
  have hcp := hs.contains_component hx.shape hp'
  have hcq := hs.contains_component hy.shape hq'
  rw [h p q hcp hcq hlt (hy.component_lt hs hq')]
  exact (hs.sameType_decides hcp hcq).unique (hs.sameTypeWithin_decides _ p q hcp hcq (by omega))

end TypeStore

/-! ## Runs that build on what is there -/

namespace TypeEnv

variable {env : TypeEnv} {a b : Handle}

/-- The types that a change adds to the store. -/
def added (env : TypeEnv) (change : Change) : List Shape :=
  (env.apply change).store.shapes.toList.drop env.store.size

/-- What a change adds to the store is made of types that were there before. -/
def Grounded (env : TypeEnv) (change : Change) : Prop :=
  ∀ x ∈ env.added change, ∀ p ∈ x.components, env.store.contains p = true

instance (env : TypeEnv) (change : Change) : Decidable (env.Grounded change) :=
  inferInstanceAs (Decidable (∀ x ∈ env.added change, ∀ p ∈ x.components,
    env.store.contains p = true))

/-- Each change of a run is grounded at the time when it is made. -/
def GroundedRun : TypeEnv → List Change → Prop
  | _, [] => True
  | env, change :: rest => env.Grounded change ∧ (env.apply change).GroundedRun rest

instance GroundedRun.decidable : (env : TypeEnv) → (changes : List Change) →
    Decidable (env.GroundedRun changes)
  | _, [] => .isTrue trivial
  | env, change :: rest =>
    have := GroundedRun.decidable (env.apply change) rest
    inferInstanceAs (Decidable (env.Grounded change ∧ (env.apply change).GroundedRun rest))

/-- No change touches what the types of the store are made of.  A class is made of nothing, so
another class can take its place. -/
theorem components_apply (env : TypeEnv) (change : Change) :
    env.store.Keeps (fun x y ↦ y.components = x.components) (env.apply change).store := by
  have hrefl : ∀ x : Shape, x.components = x.components := fun _ ↦ rfl
  rcases env.store_apply_cases change with
    he | he | ⟨shape, he⟩ | ⟨place, old, new, -, hold, -, he⟩
  · exact TypeStore.keeps_of_shape hrefl fun p ↦ by rw [he]
  · exact TypeStore.keeps_of_shape hrefl fun p ↦ by rw [he]; rfl
  · rw [he]
    exact TypeStore.keeps_push hrefl shape
  · rw [he]
    exact TypeStore.keeps_replaceClass hrefl hold rfl

theorem wellFormed_apply (hs : env.store.WellFormed) {change : Change}
    (hg : env.Grounded change) : (env.apply change).store.WellFormed := by
  intro i hi p hp
  by_cases hold : i < env.store.shapes.size
  · have hx : env.store.shape ⟨i⟩ = .ok env.store.shapes[i] :=
      TypeStore.shape_eq_ok_iff.mpr (Array.getElem?_eq_getElem hold)
    obtain ⟨y, hy, hcomponents⟩ := env.components_apply change _ _ hx
    obtain ⟨hlt, rfl⟩ := Array.getElem?_eq_some_iff.mp (TypeStore.shape_eq_ok_iff.mp hy)
    exact hs i hold p (hcomponents ▸ hp)
  · have hnew : env.store.size ≤ i := Nat.le_of_not_lt hold
    have hmem : (env.apply change).store.shapes[i] ∈ env.added change := by
      refine List.mem_drop_iff_getElem.mpr ⟨i - env.store.size, ?_, ?_⟩
      · rw [Array.length_toList]
        omega
      · simp only [Nat.add_sub_cancel' hnew, Array.getElem_toList]
    have hlt := TypeStore.contains_iff.mp (hg _ hmem p hp)
    omega

/-- **A run that builds on what is there keeps the store well-formed.** -/
theorem wellFormed_run {changes : List Change} (hs : env.store.WellFormed)
    (hrun : env.GroundedRun changes) : (env.run changes).store.WellFormed := by
  induction changes generalizing env with
  | nil => exact hs
  | cons change rest ih => exact ih (wellFormed_apply hs hrun.1) hrun.2

/-- The root interface is made of nothing. -/
theorem grounded_registerBuiltins (env : TypeEnv) : env.Grounded .registerBuiltins := by
  intro x hx p hp
  rcases env.registerBuiltins_cases with ⟨h, i, -, -, he⟩ | he
  · rw [added, apply, he, TypeStore.size, ← Array.length_toList, List.drop_length] at hx
    cases hx
  · rw [added, apply, he, TypeStore.size, TypeStore.push, Array.toList_push,
      ← Array.length_toList, List.drop_left, List.mem_singleton] at hx
    subst hx
    cases hp

theorem wellFormed_new (settings : Settings) : (TypeEnv.new settings).store.WellFormed := by
  have hinitial : TypeStore.initial.WellFormed := by decide
  rw [TypeEnv.new]
  split
  · exact wellFormed_apply hinitial (grounded_registerBuiltins _)
  · exact hinitial

/-! ## All questions have an answer -/

theorem exists_assignRule? (ha : env.Anchored) (hs : env.store.WellFormed)
    (hca : env.store.contains a = true) (hcb : env.store.contains b = true) :
    ∃ answer, env.assignRule? a b = .ok answer := by
  obtain ⟨p, x, hx⟩ := hs.exists_lands hca
  obtain ⟨q, y, hy⟩ := hs.exists_lands hcb
  obtain ⟨answer, hanswer, -⟩ := exists_conversionRule? hs hca hcb hx hy
  rw [assignRule?_eq ha hs hca hcb, hanswer]
  cases env.firstAllowed _ _ AssignRule.builtIn with
  | some first => exact ⟨some first, rfl⟩
  | none => exact ⟨answer, rfl⟩

/-- Questions about two types have an answer, and come to smaller handles with every step. -/
structure Answered (env : TypeEnv) (a b : Handle) : Prop where
  lands : ∃ u x, env.store.Lands a u x
  text : ∃ text, env.store.display a = .ok text
  same : ∃ yes, env.store.sameType a b = .ok yes
  rule : ∃ answer, env.assignRule? a b = .ok answer
  component_lt : ∀ x, env.store.shape a = .ok x → ∀ p ∈ x.components, p.index < a.index
  text_nested : ∀ typeText, (∀ p, env.store.contains p = true → p.index < a.index →
    typeText p = env.store.display p) → env.store.displayVia typeText a = env.store.display a
  same_nested : ∀ same, (∀ p q, env.store.contains p = true → env.store.contains q = true →
    p.index < a.index → q.index < b.index → same p q = env.store.sameType p q) →
      env.store.sameTypeVia same a b = env.store.sameType a b

/-- **After a run that builds on what is there, every question about types has an answer**, and no
question asks about a stray handle or goes round in circles. -/
theorem answered_of_groundedRun (settings : Settings) (changes : List Change)
    (hrun : (TypeEnv.new settings).GroundedRun changes) {a b : Handle}
    (hca : ((TypeEnv.new settings).run changes).store.contains a = true)
    (hcb : ((TypeEnv.new settings).run changes).store.contains b = true) :
    ((TypeEnv.new settings).run changes).Answered a b := by
  have hr : ((TypeEnv.new settings).run changes).Reachable := ⟨settings, changes, rfl⟩
  have hs := wellFormed_run (wellFormed_new settings) hrun
  obtain ⟨yes, hyes, -⟩ := hs.sameType_decides hca hcb
  exact ⟨hs.exists_lands hca, hs.exists_display hca, ⟨yes, hyes⟩,
    exists_assignRule? hr.anchored hs hca hcb, fun _ hx _ hp ↦ hs.component_lt hx hp,
    fun _ ↦ hs.displayVia_eq hca, fun _ ↦ hs.sameTypeVia_eq hca hcb⟩

/-- An announced class and its alias, arrays of both, and a metaclass.  The class becomes its own
parent, and a declaration that would have been made of a stray handle is refused. -/
def selfMade : List Change :=
  [.declareNamed (.classType { name := "TNode", flags := { forward := true } }) ⟨1, 1, 0⟩,
    .declareNamed (.aliasType ⟨"TLink", ⟨7⟩⟩) ⟨2, 1, 0⟩,
    .declareNamed (.aliasType ⟨"TNODE", ⟨99⟩⟩) ⟨3, 1, 0⟩,
    .push (.array ⟨⟨8⟩, none⟩),
    .completeClass { name := "TLink", parent := some "TLINK" },
    .editClass ⟨8⟩ fun c ↦ { c with parent := some "tnode" },
    .close,
    .push (.metaclass ⟨8⟩),
    .push (.array ⟨⟨7⟩, none⟩)]

/-- Nine changes leave five new types. -/
theorem answered_selfMade : ((TypeEnv.new primitivesOnly).run selfMade).store.size = 12 ∧
    ((TypeEnv.new primitivesOnly).run selfMade).Answered ⟨9⟩ ⟨11⟩ ∧
      ((TypeEnv.new primitivesOnly).run selfMade).Answered ⟨7⟩ ⟨10⟩ := by
  have hrun : (TypeEnv.new primitivesOnly).GroundedRun selfMade := by decide
  exact ⟨rfl, answered_of_groundedRun _ _ hrun rfl rfl, answered_of_groundedRun _ _ hrun rfl rfl⟩

end TypeEnv

end PascalTypes
