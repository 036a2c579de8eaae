import PascalTypes.Proofs.ClassClimbs

/-!
# Chains of classes

A class with its ancestors is found by climbing from parent to parent.  This file has what follows
from a chain being an ancestry (`chain?_eq_some_iff`):

* a chain does not depend on the spelling of the name it starts from (`chain?_congr`);
* the chain of an ancestor is the rest of the chain from that ancestor on (`descends_suffix`), which
  makes descent transitive (`descends_trans`).
-/

set_option autoImplicit false

namespace PascalTypes.ClassTree

variable {α : Type} {t : ClassTree α} {a b c : String}

/-! ## Names in other spellings -/

theorem chain?_congr (t : ClassTree α) (h : sameName a b = true) : t.chain? a = t.chain? b := by
  rw [chain?, chain?, t.find?_congr h]

theorem descends_congr (t : ClassTree α) {a' b' : String} (ha : sameName a a' = true)
    (hb : sameName b b' = true) : t.descends a b = t.descends a' b' := by
  have hany : ∀ e : ClassNode α, sameName e.name b = sameName e.name b' := fun e ↦ by
    rw [sameName, sameName, sameName_iff.mp hb]
  simp only [descends, t.chain?_congr ha, hany]

/-- A chain has the class it is the chain of, in whatever tree. -/
theorem chain?_ne_nil (t : ClassTree α) (name : String) : t.chain? name ≠ some [] := by
  intro h
  obtain ⟨c, -, hjoin⟩ := Option.bind_eq_some_iff.mp h
  have hclimb := Option.join_eq_some_iff.mp hjoin
  refine runLoop_induction (P := fun _ ↦ True) (Q := (· ≠ some [])) (fun _ _ _ _ ↦ trivial)
    (fun s answer _ hturn ↦ ?_) trivial hclimb rfl
  rcases t.climbTurn_cases s with ⟨-, hs⟩ | ⟨-, -, hs⟩ | ⟨-, up, -, hs⟩
  · cases hturn.symm.trans hs
    simp
  · cases hturn.symm.trans hs
    simp
  · cases hturn.symm.trans hs

/-! ## The rest of a chain is a chain -/

/-- An ancestry starts with the class it is the ancestry of. -/
theorem Ancestry.exists_tail {e : ClassNode α} {l : List (ClassNode α)} (h : t.Ancestry e l) :
    ∃ rest, l = e :: rest := by
  cases h with
  | root => exact ⟨[], rfl⟩
  | up _ _ => exact ⟨_, rfl⟩

theorem Ancestry.suffix {e d : ClassNode α} {front back : List (ClassNode α)}
    (h : t.Ancestry e (front ++ d :: back)) : t.Ancestry d (d :: back) := by
  induction front generalizing e with
  | nil =>
    obtain ⟨rest, heq⟩ := h.exists_tail
    obtain ⟨rfl, -⟩ := List.cons.inj heq
    exact h
  | cons f front ih =>
    generalize hl : f :: front ++ d :: back = l at h
    cases h with
    | root => simp at hl
    | up _ hrest =>
      obtain ⟨-, rfl⟩ := List.cons.inj hl
      exact ih hrest

theorem mem_all_of_mem_chain (ht : t.classes.Indexed ClassNode.name) {d : ClassNode α}
    {l : List (ClassNode α)} (h : t.chain? a = some l) (hd : d ∈ l) : d ∈ t.all := by
  obtain ⟨e, he, hl⟩ := (chain?_eq_some_iff ht).mp h
  exact (hl.climbed ht (mem_all_of_find? ht he)).2.2 d hd

theorem chain?_of_mem (ht : t.classes.Indexed ClassNode.name) {d : ClassNode α}
    {front back : List (ClassNode α)} (h : t.chain? a = some (front ++ d :: back)) :
    t.chain? d.name = some (d :: back) := by
  have hd := mem_all_of_mem_chain ht h (List.mem_append_right _ List.mem_cons_self)
  obtain ⟨e, -, hl⟩ := (chain?_eq_some_iff ht).mp h
  exact (chain?_eq_some_iff ht).mpr ⟨d, (find?_name_iff ht).mpr hd, hl.suffix⟩

/-! ## Descent -/

theorem descends_iff : t.descends a b = true ↔
    ∃ l, t.chain? a = some l ∧ ∃ d ∈ l, sameName d.name b = true := by
  rw [descends]
  cases t.chain? a with
  | none => simp
  | some l => simp

/-- **The chain of an ancestor is the rest of the chain.** -/
theorem descends_suffix (ht : t.classes.Indexed ClassNode.name) (h : t.descends a b = true) :
    ∃ front back, t.chain? a = some (front ++ back) ∧ t.chain? b = some back := by
  obtain ⟨l, hl, d, hd, hname⟩ := descends_iff.mp h
  obtain ⟨front, back, rfl⟩ := List.append_of_mem hd
  refine ⟨front, d :: back, hl, ?_⟩
  rw [← t.chain?_congr hname]
  exact chain?_of_mem ht hl

/-- **Descent is transitive.** -/
theorem descends_trans (ht : t.classes.Indexed ClassNode.name) (hab : t.descends a b = true)
    (hbc : t.descends b c = true) : t.descends a c = true := by
  obtain ⟨front, back, ha, hb⟩ := descends_suffix ht hab
  obtain ⟨l, hl, d, hd, hname⟩ := descends_iff.mp hbc
  cases hb.symm.trans hl
  exact descends_iff.mpr ⟨_, ha, d, List.mem_append_right _ hd, hname⟩

/-- Whether a class is another one or inherits from it, where a class that is not registered is
still itself. -/
def AtOrBelow (t : ClassTree α) (a b : String) : Prop :=
  sameName a b = true ∨ t.descends a b = true

theorem AtOrBelow.trans (ht : t.classes.Indexed ClassNode.name) (hab : t.AtOrBelow a b)
    (hbc : t.AtOrBelow b c) : t.AtOrBelow a c := by
  rcases hab with hab | hab
  · rcases hbc with hbc | hbc
    · exact Or.inl (sameName_trans hab hbc)
    · exact Or.inr ((t.descends_congr hab (sameName_refl c)).trans hbc)
  · rcases hbc with hbc | hbc
    · exact Or.inr ((t.descends_congr (sameName_refl a) (sameName_symm hbc)).trans hab)
    · exact Or.inr (descends_trans ht hab hbc)

end PascalTypes.ClassTree
