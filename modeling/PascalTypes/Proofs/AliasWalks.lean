import Mathlib.Data.List.Nodup
import Mathlib.Logic.Relation
import PascalTypes.Proofs.WellFormed

/-!
# Walks along aliases

An alias refers to its target by a plain handle.  Nothing forces that handle to lie before the
alias, or to lie in the store at all.  `TypeStore.Inside` says that this does no harm where one
starts from `h`: every handle that aliases lead to from there is in the store.  They may go round in
circles.  `TypeStore.AliasesInside` says it of all aliases at once.

Looking through aliases stops after as many steps as there are types.  That is enough to come by
every handle that the aliases lead to, since a walk that has an end meets no alias twice
(`AliasWalk.nodup`).  So the type behind a handle is found exactly if the aliases stay inside
(`inside_iff`), and the bound is never what hides a stray handle.
-/

set_option autoImplicit false

namespace PascalTypes.TypeStore

variable {s : TypeStore} {h u v : Handle} {l l' : List Handle}

/-- An alias leads from the first handle to the second. -/
def AliasTo (s : TypeStore) (h u : Handle) : Prop :=
  ∃ a, s.shape h = .ok (.aliasType a) ∧ a.target = u

/-- The handle is in the store, and so are all handles that aliases lead to from there. -/
def Inside (s : TypeStore) (h : Handle) : Prop :=
  ∀ u, Relation.ReflTransGen s.AliasTo h u → s.contains u = true

/-- A type lies at the handle, and it is not an alias. -/
def IsPlain (s : TypeStore) (h : Handle) : Prop :=
  ∃ x, s.shape h = .ok x ∧ x.kind ≠ .aliasType

theorem AliasTo.unique (hu : s.AliasTo h u) (hv : s.AliasTo h v) : u = v := by
  obtain ⟨a, ha, rfl⟩ := hu
  obtain ⟨b, hb, rfl⟩ := hv
  cases ha.symm.trans hb
  rfl

theorem AliasTo.contains (hu : s.AliasTo h u) : s.contains h = true := by
  obtain ⟨a, ha, -⟩ := hu
  exact contains_of_shape ha

theorem AliasTo.followAliases (hu : s.AliasTo h u) (n : Nat) :
    s.followAliases (n + 1) h = s.followAliases n u := by
  obtain ⟨a, ha, rfl⟩ := hu
  rw [TypeStore.followAliases, ha]

theorem shape_of_not_contains (hc : ¬s.contains h = true) :
    s.shape h = .error (.strayHandle h) := by
  have hnone : s.shapes[h.index]? = none :=
    Array.getElem?_eq_none (Nat.le_of_not_lt fun hlt ↦ hc (contains_iff.mpr hlt))
  rw [shape, hnone]

theorem followAliases_of_not_contains (hc : ¬s.contains h = true) (n : Nat) :
    s.followAliases (n + 1) h = .error (.strayHandle h) := by
  rw [followAliases, shape_of_not_contains hc]

theorem isPlain_or_aliasTo (hc : s.contains h = true) : s.IsPlain h ∨ ∃ u, s.AliasTo h u := by
  obtain ⟨x, hx⟩ := exists_shape hc
  by_cases hk : x.kind = .aliasType
  · cases x with
    | aliasType a => exact Or.inr ⟨a.target, a, hx, rfl⟩
    | _ => cases hk
  · exact Or.inl ⟨x, hx, hk⟩

theorem IsPlain.not_aliasTo (hp : s.IsPlain h) : ¬s.AliasTo h u := by
  obtain ⟨x, hx, hk⟩ := hp
  rintro ⟨a, ha, -⟩
  cases hx.symm.trans ha
  exact hk rfl

theorem IsPlain.followAliases (hp : s.IsPlain h) (n : Nat) : s.followAliases n h = .ok h := by
  obtain ⟨x, hx, hk⟩ := hp
  cases n with
  | zero => rfl
  | succ n => exact followAliases_of_not_alias n hx hk

/-! ## Walks that stay inside -/

theorem Inside.contains (hin : s.Inside h) : s.contains h = true :=
  hin h .refl

theorem Inside.aliasTo (hin : s.Inside h) (hu : s.AliasTo h u) : s.Inside u :=
  fun v hv ↦ hin v (hv.head hu)

theorem Inside.exists_followAliases : ∀ (n : Nat) {h : Handle}, s.Inside h →
    ∃ u, s.followAliases n h = .ok u ∧ s.contains u = true
  | 0, h, hin => ⟨h, rfl, hin.contains⟩
  | n + 1, h, hin => by
    rcases isPlain_or_aliasTo hin.contains with hp | ⟨u, hu⟩
    · exact ⟨h, hp.followAliases (n + 1), hin.contains⟩
    · rw [hu.followAliases]
      exact (hin.aliasTo hu).exists_followAliases n

theorem Inside.exists_resolved (hin : s.Inside h) : ∃ x, s.resolved h = .ok x := by
  obtain ⟨u, hu, hc⟩ := hin.exists_followAliases s.size
  obtain ⟨x, hx⟩ := exists_shape hc
  refine ⟨x, ?_⟩
  rw [resolved, underlying, hu]
  exact hx

/-- Every alias refers to a type of the store. -/
def AliasesInside (s : TypeStore) : Prop :=
  ∀ i, (hi : i < s.shapes.size) → s.shapes[i].kind = .aliasType →
    ∀ p ∈ s.shapes[i].components, s.contains p = true

instance (s : TypeStore) : Decidable s.AliasesInside :=
  inferInstanceAs (Decidable (∀ i, (hi : i < s.shapes.size) → s.shapes[i].kind = .aliasType →
    ∀ p ∈ s.shapes[i].components, s.contains p = true))

theorem AliasesInside.contains (hs : s.AliasesInside) (hu : s.AliasTo h u) :
    s.contains u = true := by
  obtain ⟨a, ha, rfl⟩ := hu
  obtain ⟨hlt, hshape⟩ := Array.getElem?_eq_some_iff.mp (shape_eq_ok_iff.mp ha)
  refine hs h.index hlt ?_ a.target ?_
  · rw [hshape]
    rfl
  · rw [hshape]
    exact List.mem_singleton_self a.target

theorem AliasesInside.inside (hs : s.AliasesInside) (hc : s.contains h = true) : s.Inside h := by
  intro u hu
  induction hu with
  | refl => exact hc
  | tail _ hstep _ => exact hs.contains hstep

theorem WellFormed.inside (hs : s.WellFormed) (hc : s.contains h = true) : s.Inside h := by
  have haliases : s.AliasesInside := fun i hi _ p hp ↦
    contains_iff.mpr (Nat.lt_trans (hs i hi p hp) hi)
  exact haliases.inside hc

/-! ## Walks that have an end -/

/-- A walk along aliases, with the aliases that it comes by. -/
inductive AliasWalk (s : TypeStore) : Handle → List Handle → Handle → Prop
  | stop (h : Handle) : AliasWalk s h [] h
  | step {h u v : Handle} {l : List Handle} (hu : s.AliasTo h u) (hl : AliasWalk s u l v) :
      AliasWalk s h (h :: l) v

namespace AliasWalk

theorem of_reflTransGen (hu : Relation.ReflTransGen s.AliasTo h u) : ∃ l, s.AliasWalk h l u := by
  induction hu using Relation.ReflTransGen.head_induction_on with
  | refl => exact ⟨[], .stop u⟩
  | head hstep _ ih =>
    obtain ⟨l, hl⟩ := ih
    exact ⟨_, .step hstep hl⟩

theorem contains (hw : s.AliasWalk h l u) : ∀ v ∈ l, s.contains v = true := by
  induction hw with
  | stop h => simp
  | step hu _ ih => exact List.forall_mem_cons.mpr ⟨hu.contains, ih⟩

theorem suffix {front back : List Handle} (hw : s.AliasWalk h (front ++ v :: back) u) :
    s.AliasWalk v (v :: back) u := by
  induction front generalizing h with
  | nil =>
    cases hw with
    | step hstep hl => exact .step hstep hl
  | cons f front ih =>
    cases hw with
    | step hstep hl => exact ih hl

/-- Two walks from one handle to an end are the same walk. -/
theorem unique (hw : s.AliasWalk h l u) (hw' : s.AliasWalk h l' u) (hend : ∀ v, ¬s.AliasTo u v) :
    l = l' := by
  induction hw generalizing l' with
  | stop h =>
    cases hw' with
    | stop => rfl
    | step hstep _ => exact absurd hstep (hend _)
  | step hstep _ ih =>
    cases hw' with
    | stop => exact absurd hstep (hend _)
    | step hstep' hl' =>
      obtain rfl := hstep.unique hstep'
      rw [ih hl' hend]

/-- A walk that has an end meets no alias twice. -/
theorem nodup (hw : s.AliasWalk h l u) (hend : ∀ v, ¬s.AliasTo u v) : l.Nodup := by
  induction hw with
  | stop h => exact List.nodup_nil
  | @step h u v l hstep hl ih =>
    refine List.nodup_cons.mpr ⟨fun hmem ↦ ?_, ih hend⟩
    -- from the second time on, the walk would have to be as long as from the first
    obtain ⟨front, back, rfl⟩ := List.append_of_mem hmem
    have heq := (AliasWalk.step hstep hl).unique hl.suffix hend
    have hlen := congrArg List.length heq
    simp only [List.length_cons, List.length_append] at hlen
    omega

/-- There are not more aliases to meet than types. -/
theorem length_le_of_nodup (hw : s.AliasWalk h l u) (hl : l.Nodup) : l.length ≤ s.size := by
  have hindices : (l.map Handle.index).Nodup :=
    hl.map fun a b hab ↦ congrArg Handle.mk hab
  have hsub : l.map Handle.index ⊆ List.range s.size := by
    intro i hi
    obtain ⟨v, hv, rfl⟩ := List.mem_map.mp hi
    exact List.mem_range.mpr (contains_iff.mp (hw.contains v hv))
  simpa using hindices.length_le_of_subset hsub

theorem length_le_size (hw : s.AliasWalk h l u) (hend : ∀ v, ¬s.AliasTo u v) :
    l.length ≤ s.size :=
  hw.length_le_of_nodup (hw.nodup hend)

theorem followAliases (hw : s.AliasWalk h l u) (n : Nat) :
    s.followAliases (l.length + n) h = s.followAliases n u := by
  induction hw with
  | stop h => rw [List.length_nil, Nat.zero_add]
  | step hstep _ ih => rw [List.length_cons, Nat.add_right_comm, hstep.followAliases, ih]

end AliasWalk

/-- A walk that leaves the store is noticed, also if it takes all steps that are allowed. -/
theorem resolved_of_leaves (hu : Relation.ReflTransGen s.AliasTo h u)
    (hout : ¬s.contains u = true) : s.resolved h = .error (.strayHandle u) := by
  obtain ⟨l, hw⟩ := AliasWalk.of_reflTransGen hu
  have hend : ∀ v, ¬s.AliasTo u v := fun v hv ↦ hout hv.contains
  obtain ⟨n, hn⟩ := Nat.exists_eq_add_of_le (hw.length_le_size hend)
  rw [resolved, underlying, hn, hw.followAliases]
  cases n with
  | zero => exact shape_of_not_contains hout
  | succ n =>
    rw [followAliases_of_not_contains hout]
    rfl

/-- **The type behind a handle is found exactly if the aliases stay inside the store.** -/
theorem inside_iff : s.Inside h ↔ ∃ x, s.resolved h = .ok x := by
  refine ⟨Inside.exists_resolved, ?_⟩
  rintro ⟨x, hx⟩ u hu
  by_contra hout
  rw [resolved_of_leaves hu hout] at hx
  cases hx

end PascalTypes.TypeStore
