import PascalTypes.Proofs.RoutineHistory

/-!
# Overloads that were checked before

The table of routines takes every routine that is registered.  Whether a routine can be told from
the others of its name is a question on its own, `checkConflict`, and whoever registers routines has
to ask it first.  The check is short.  It does not look at the table for a routine that is declared
to share its name, and for others it only looks for routines that are not declared so.

If every registration in a run was checked, then no two routines of a name clash
(`keptApart_of_guarded`), in whatever order they came and whatever was removed in between.  And the
check asks for no more than that: a routine fails it exactly if it would bring in a clash
(`ConflictFree.apply_iff`).
-/

set_option autoImplicit false

namespace PascalTypes

/-- Two routines have equally many parameters, and neither is declared to share its name. -/
def Overload.Clashes (o o' : Overload) : Prop :=
  o.arity = o'.arity ∧ o.routine.isOverload = false ∧ o'.routine.isOverload = false

theorem Overload.Clashes.symm {o o' : Overload} (h : o.Clashes o') : o'.Clashes o :=
  ⟨h.1.symm, h.2.2, h.2.1⟩

namespace RoutineTable

variable {t : RoutineTable} {c : RoutineChange}

/-! ## The check -/

/-- The check refuses what clashes with a routine of the name. -/
theorem isOk_checkConflict_iff (t : RoutineTable) (o : Overload) :
    (t.checkConflict o.name o.arity o.routine.isOverload).isOk = true ↔
      ∀ old ∈ t.lookup o.name, ¬old.Clashes o := by
  rw [checkConflict]
  split
  · rename_i hshares
    simp [Except.isOk, Except.toBool, Overload.Clashes, hshares]
  · rename_i hshares
    rw [Bool.not_eq_true] at hshares
    split
    · rename_i old hfind
      have hmem := List.mem_of_find?_eq_some hfind
      have hclash := List.find?_some hfind
      simp only [Bool.and_eq_true, beq_iff_eq, Bool.not_eq_true'] at hclash
      refine iff_of_false (by simp [Except.isOk, Except.toBool]) fun h ↦ ?_
      exact h old hmem ⟨hclash.1, hclash.2, hshares⟩
    · rename_i hfind
      refine iff_of_true rfl fun old hmem hclash ↦ ?_
      have hpass := List.find?_eq_none.mp hfind old hmem
      simp [hclash.1, hclash.2.1] at hpass

/-- Whether what a change registers was checked to have no clash. -/
def allows (t : RoutineTable) (c : RoutineChange) : Bool :=
  c.overload?.all fun o ↦ (t.checkConflict o.name o.arity o.routine.isOverload).isOk

theorem allows_iff : t.allows c = true ↔
    ∀ o, c.overload? = some o → ∀ old ∈ t.lookup o.name, ¬old.Clashes o := by
  rw [allows, Option.all_eq_true]
  exact forall₂_congr fun o _ ↦ t.isOk_checkConflict_iff o

/-! ## One change -/

/-- No two routines of a name clash. -/
def ConflictFree (t : RoutineTable) : Prop :=
  ∀ name, (t.lookup name).Pairwise fun o o' ↦ ¬o.Clashes o'

theorem lookup_congr (t : RoutineTable) {a b : String} (h : sameName a b = true) :
    t.lookup a = t.lookup b := by
  rw [lookup, lookup, t.bare.get?_congr h]

/-- A routine comes last among those of its name. -/
theorem lookup_apply_self {o : Overload} (hc : c.overload? = some o) (t : RoutineTable) :
    (t.apply c).lookup o.name = t.lookup o.name ++ [o] := by
  have hadds : c.overloadAs? o.name = some o := by
    simp [RoutineChange.overloadAs?, hc, sameName_refl]
  have hkeeps : t.forgets o.name c = false := by
    cases c with
    | register name routine => rfl
    | registerInUnit unit name routine => rfl
    | remove name => cases hc
    | clear => cases hc
  rw [lookup_apply, hadds, hkeeps]
  rfl

namespace ConflictFree

theorem empty : ConflictFree {} :=
  fun _ ↦ List.Pairwise.nil

theorem apply (ht : t.ConflictFree) (hc : t.allows c = true) : (t.apply c).ConflictFree := by
  intro name
  rw [lookup_apply]
  split
  · exact List.Pairwise.nil
  · refine List.pairwise_append.mpr ⟨ht name, ?_, fun old hold o ho ↦ ?_⟩
    · -- a change adds one routine at most
      cases c.overloadAs? name with
      | none => exact List.Pairwise.nil
      | some o => exact List.pairwise_singleton _ o
    · obtain ⟨ho, hname⟩ := Option.filter_eq_some_iff.mp (Option.mem_toList.mp ho)
      rw [t.lookup_congr hname] at hold
      exact allows_iff.mp hc o ho old hold

/-- **The check asks for no more than is needed.** -/
theorem apply_iff (ht : t.ConflictFree) : (t.apply c).ConflictFree ↔ t.allows c = true := by
  refine ⟨fun h ↦ allows_iff.mpr fun o ho old hold ↦ ?_, ht.apply⟩
  have hname := h o.name
  rw [lookup_apply_self ho] at hname
  exact (List.pairwise_append.mp hname).2.2 old hold o (List.mem_singleton_self o)

end ConflictFree

/-! ## Runs -/

/-- Everything that a run registers was checked in the table that it met. -/
def Guarded (changes : List RoutineChange) : Prop :=
  ∀ s ∈ Chronicle.steps apply {} changes, s.1.allows s.2 = true

instance (changes : List RoutineChange) : Decidable (Guarded changes) :=
  inferInstanceAs (Decidable (∀ s ∈ Chronicle.steps apply {} changes, s.1.allows s.2 = true))

theorem guarded_concat {changes : List RoutineChange} :
    Guarded (changes ++ [c]) ↔ Guarded changes ∧ (run changes).allows c = true := by
  simp [Guarded, Chronicle.steps_concat, or_imp, forall_and, run]

theorem conflictFree_run {changes : List RoutineChange} (h : Guarded changes) :
    (run changes).ConflictFree := by
  induction changes using List.reverseRecOn with
  | nil => exact .empty
  | append_singleton changes c ih =>
    obtain ⟨hbefore, hc⟩ := guarded_concat.mp h
    rw [run_concat]
    exact (ih hbefore).apply hc

/-- The routines of a name do not clash, and the check keeps it so. -/
structure KeptApart (changes : List RoutineChange) : Prop where
  /-- Of two routines with equally many parameters one is declared to share its name. -/
  one_shares : ∀ name (i j : Nat) (o o' : Overload), i ≠ j →
    ((run changes).lookup name)[i]? = some o →
    ((run changes).lookup name)[j]? = some o' → o.arity = o'.arity →
      o.routine.isOverload = true ∨ o'.routine.isOverload = true
  /-- A further routine fails the check only if it clashes. -/
  allows_iff : ∀ c, (run changes).allows c = true ↔ (run (changes ++ [c])).ConflictFree

/-- **Routines that were checked before they were registered do not clash.** -/
theorem keptApart_of_guarded (changes : List RoutineChange) (h : Guarded changes) :
    KeptApart changes := by
  have hfree := conflictFree_run h
  refine ⟨fun name i j o o' hne ho ho' harity ↦ ?_, fun c ↦ ?_⟩
  · obtain ⟨hi, rfl⟩ := List.getElem?_eq_some_iff.mp ho
    obtain ⟨hj, rfl⟩ := List.getElem?_eq_some_iff.mp ho'
    have hapart := List.pairwise_iff_getElem.mp (hfree name)
    by_contra hneither
    rw [not_or, Bool.not_eq_true, Bool.not_eq_true] at hneither
    rcases Nat.lt_or_gt_of_ne hne with hlt | hlt
    · exact hapart i j hi hj hlt ⟨harity, hneither⟩
    · exact hapart j i hj hi hlt (Overload.Clashes.symm ⟨harity, hneither⟩)
  · rw [run_concat]
    exact hfree.apply_iff.symm

/-- A routine `Go` with one parameter, and two without: one that is declared to share its name and
comes from a unit, and one that is not.  An earlier one, which would clash, was removed. -/
def sharedGo : List RoutineChange :=
  [.register "go" { name := "go" },
    .remove "GO",
    .registerInUnit "Moves" "Go" { name := "Go", isOverload := true },
    .register "gO" { name := "gO", params := [{ name := "far", ty := .boolean }] },
    .register "GO" { name := "GO" }]

/-- The run is checked, the first and the last of its routines could be taken for each other, and a
second routine without parameters that is not declared to share its name is refused. -/
theorem keptApart_sharedGo :
    Guarded sharedGo ∧
      (∃ o o', ((run sharedGo).lookup "go")[0]? = some o ∧
        ((run sharedGo).lookup "go")[2]? = some o' ∧ o.arity = o'.arity ∧
        (o.routine.isOverload = true ∨ o'.routine.isOverload = true)) ∧
      ¬(run (sharedGo ++ [.register "go" { name := "go" }])).ConflictFree := by
  have hguarded : Guarded sharedGo := by decide
  have hapart := keptApart_of_guarded sharedGo hguarded
  refine ⟨hguarded, ⟨⟨"Go", some "Moves", { name := "Go", isOverload := true }⟩,
    ⟨"GO", none, { name := "GO" }⟩, by decide, by decide, rfl, ?_⟩, ?_⟩
  · exact hapart.one_shares "go" 0 2 _ _ (by decide) (by decide) (by decide) rfl
  · rw [← hapart.allows_iff]
    decide

end RoutineTable

end PascalTypes
