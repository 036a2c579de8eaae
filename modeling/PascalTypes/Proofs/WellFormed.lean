import PascalTypes.Proofs.Answers
import PascalTypes.TypeStore.Display
import PascalTypes.TypeStore.Equality

/-!
# Stores whose types are made of earlier types

A shape refers to other types by plain handles, and nothing forces these to lead anywhere.  In a
store that is filled in the natural way, though, a type can only be made of types that are there
already.  `TypeStore.WellFormed` says so: the handles that a shape is made of (`Shape.components`)
are smaller than the handle of the shape itself.  Members of classes and the names of parents do
not count, since no question about a type follows them through the store.

In a well-formed store every chain of aliases ends, and it ends at a type that is not an alias.
`TypeStore.Lands` puts together what is known of that end, and `WellFormed.exists_lands` is all that
later proofs need of the walk along aliases.  For the same reason every type has a text
(`WellFormed.exists_display`).
-/

set_option autoImplicit false

namespace PascalTypes

/-- The handles that a type is made of. -/
def Shape.components : Shape → List Handle
  | .array a => [a.element]
  | .subrange s => [s.base]
  | .functionPointer s | .methodPointer s => s.params ++ s.result.toList
  | .metaclass h => [h]
  | .aliasType a => [a.target]
  | _ => []

namespace TypeStore

/-- Every type is made of types that come before it. -/
def WellFormed (s : TypeStore) : Prop :=
  ∀ i, (hi : i < s.shapes.size) → ∀ p ∈ s.shapes[i].components, p.index < i

instance (s : TypeStore) : Decidable s.WellFormed :=
  inferInstanceAs (Decidable (∀ i, (hi : i < s.shapes.size) → ∀ p ∈ s.shapes[i].components,
    p.index < i))

variable {s : TypeStore} {h u p : Handle} {x : Shape}

/-! ## Looking up -/

theorem contains_iff : s.contains h = true ↔ h.index < s.shapes.size :=
  decide_eq_true_iff

theorem shape_eq_ok_iff : s.shape h = .ok x ↔ s.shapes[h.index]? = some x := by
  rw [shape]
  cases s.shapes[h.index]? <;> simp

theorem exists_shape (hc : s.contains h = true) : ∃ x, s.shape h = .ok x :=
  ⟨_, shape_eq_ok_iff.mpr (Array.getElem?_eq_getElem (contains_iff.mp hc))⟩

theorem contains_of_shape (hx : s.shape h = .ok x) : s.contains h = true := by
  obtain ⟨hlt, -⟩ := Array.getElem?_eq_some_iff.mp (shape_eq_ok_iff.mp hx)
  exact contains_iff.mpr hlt

theorem WellFormed.component_lt (hs : s.WellFormed) (hx : s.shape h = .ok x)
    (hp : p ∈ x.components) : p.index < h.index := by
  obtain ⟨hlt, rfl⟩ := Array.getElem?_eq_some_iff.mp (shape_eq_ok_iff.mp hx)
  exact hs h.index hlt p hp

theorem WellFormed.contains_component (hs : s.WellFormed) (hx : s.shape h = .ok x)
    (hp : p ∈ x.components) : s.contains p = true := by
  have hlt := hs.component_lt hx hp
  have hh := contains_iff.mp (contains_of_shape hx)
  exact contains_iff.mpr (Nat.lt_trans hlt hh)

/-! ## Behind all aliases -/

/-- The aliases that start at `h` end at the place `u`, where the shape `x` lies. -/
structure Lands (s : TypeStore) (h u : Handle) (x : Shape) : Prop where
  underlying : s.underlying h = .ok u
  shape : s.shape u = .ok x
  not_alias : x.kind ≠ .aliasType
  le : u.index ≤ h.index

theorem Lands.resolved (hl : s.Lands h u x) : s.resolved h = .ok x := by
  rw [TypeStore.resolved, hl.underlying]
  exact hl.shape

theorem Lands.class? (hl : s.Lands h u x) : s.class? h = .ok x.class? := by
  rw [TypeStore.class?, hl.resolved]
  rfl

theorem Lands.interface? (hl : s.Lands h u x) : s.interface? h = .ok x.interface? := by
  rw [TypeStore.interface?, hl.resolved]
  rfl

theorem followAliases_of_not_alias (n : Nat) (hx : s.shape h = .ok x) (hk : x.kind ≠ .aliasType) :
    s.followAliases (n + 1) h = .ok h := by
  rw [followAliases, hx]
  cases x with
  | aliasType a => exact absurd rfl hk
  | _ => rfl

/-- As many steps as the handle says lead to the end of its aliases, because every step leads to a
smaller handle. -/
theorem WellFormed.followAliases_lands (hs : s.WellFormed) : ∀ (n : Nat) (h : Handle),
    s.contains h = true → h.index < n → ∃ u x, s.followAliases n h = .ok u ∧
      s.shape u = .ok x ∧ x.kind ≠ .aliasType ∧ u.index ≤ h.index
  | 0, _, _, hn => absurd hn (Nat.not_lt_zero _)
  | n + 1, h, hc, hn => by
    obtain ⟨x, hx⟩ := exists_shape hc
    by_cases hk : x.kind = .aliasType
    · cases x with
      | aliasType a =>
        have hmem : a.target ∈ (Shape.aliasType a).components := List.mem_singleton.mpr rfl
        have hlt := hs.component_lt hx hmem
        obtain ⟨u, y, hu, hy, hky, hle⟩ :=
          hs.followAliases_lands n a.target (hs.contains_component hx hmem) (by omega)
        refine ⟨u, y, ?_, hy, hky, by omega⟩
        rw [followAliases, hx]
        exact hu
      | _ => cases hk
    · exact ⟨h, x, followAliases_of_not_alias n hx hk, hx, hk, Nat.le_refl _⟩

/-- **Aliases have an end.**  Every handle of a well-formed store stands for a type that is not an
alias. -/
theorem WellFormed.exists_lands (hs : s.WellFormed) (hc : s.contains h = true) :
    ∃ u x, s.Lands h u x := by
  obtain ⟨u, x, hu, hx, hk, hle⟩ := hs.followAliases_lands s.size h hc (contains_iff.mp hc)
  exact ⟨u, x, hu, hx, hk, hle⟩

/-- A type that is not an alias stands for itself. -/
theorem lands_self (hx : s.shape h = .ok x) (hk : x.kind ≠ .aliasType) : s.Lands h h x where
  underlying := by
    have hlt := contains_iff.mp (contains_of_shape hx)
    obtain ⟨n, hn⟩ : ∃ n, s.size = n + 1 := Nat.exists_eq_add_one.mpr (Nat.zero_lt_of_lt hlt)
    rw [TypeStore.underlying, hn]
    exact followAliases_of_not_alias n hx hk
  shape := hx
  not_alias := hk
  le := Nat.le_refl _

theorem Lands.self (hl : s.Lands h u x) : s.Lands u u x :=
  lands_self hl.shape hl.not_alias

/-- A part of the type at the end of the aliases comes before the handle that they start from. -/
theorem Lands.component_lt (hl : s.Lands h u x) (hs : s.WellFormed) (hp : p ∈ x.components) :
    p.index < h.index :=
  Nat.lt_of_lt_of_le (hs.component_lt hl.shape hp) hl.le

end TypeStore

/-! ## Texts -/

theorem Signature.exists_display {typeText : Handle → Except Fault String} (sig : Signature)
    (h : ∀ p ∈ sig.params ++ sig.result.toList, ∃ text, typeText p = .ok text) :
    ∃ text, sig.display typeText = .ok text := by
  obtain ⟨params, hparams⟩ := exists_mapM_eq_ok fun p hp ↦ h p (List.mem_append_left _ hp)
  rw [display, hparams]
  cases hr : sig.result with
  | none => exact ⟨_, rfl⟩
  | some r =>
    have hmem : r ∈ sig.result.toList := Option.mem_toList.mpr hr
    obtain ⟨text, htext⟩ := h r (List.mem_append_right _ hmem)
    exact ⟨_, by simp only [bind, Except.bind, htext]; rfl⟩

/-- A shape has a text if its components have one. -/
theorem Shape.exists_display {typeText : Handle → Except Fault String} (x : Shape)
    (h : ∀ p ∈ x.components, ∃ text, typeText p = .ok text) :
    ∃ text, x.display typeText = .ok text := by
  cases x with
  | array a =>
    obtain ⟨text, htext⟩ := h a.element (List.mem_singleton_self _)
    exact ⟨_, by rw [display, htext]; rfl⟩
  | metaclass t =>
    obtain ⟨text, htext⟩ := h t (List.mem_singleton_self _)
    exact ⟨_, by rw [display, htext]; rfl⟩
  | functionPointer sig => exact sig.exists_display h
  | methodPointer sig =>
    obtain ⟨text, htext⟩ := sig.exists_display h
    exact ⟨_, by rw [display, htext]; rfl⟩
  | _ => exact ⟨_, rfl⟩

namespace TypeStore

variable {s : TypeStore}

theorem WellFormed.exists_displayWithin (hs : s.WellFormed) : ∀ (n : Nat) (h : Handle),
    s.contains h = true → h.index < n → ∃ text, s.displayWithin n h = .ok text
  | 0, _, _, hn => absurd hn (Nat.not_lt_zero _)
  | n + 1, h, hc, hn => by
    obtain ⟨x, hx⟩ := exists_shape hc
    rw [displayWithin, hx]
    refine x.exists_display fun p hp ↦ ?_
    have hlt := hs.component_lt hx hp
    exact hs.exists_displayWithin n p (hs.contains_component hx hp) (by omega)

/-- **Every type has a text.** -/
theorem WellFormed.exists_display (hs : s.WellFormed) {h : Handle} (hc : s.contains h = true) :
    ∃ text, s.display h = .ok text :=
  hs.exists_displayWithin _ h hc (Nat.lt_succ_of_lt (contains_iff.mp hc))

end TypeStore

end PascalTypes
