import Mathlib.Data.List.Induction
import PascalTypes.TypeEnv.Calls

/-!
# Arguments that a call leaves out

A parameter with a default can stand before one without, and then it has to be given after all,
because a call leaves out arguments from the back only.  A routine works out the least number of
arguments by going through its parameters from the back and stopping at the first without a default.

`Routine.DefaultsFrom` says the same about the positions: from `n` on, each parameter has a default.
The least number of arguments is the first such `n` (`minArity_le_iff`), so a number of arguments is
accepted exactly if nothing is left out that has no default (`acceptsArity_iff`).
-/

set_option autoImplicit false

namespace PascalTypes

namespace Routine

variable {r : Routine} {n : Nat}

/-- Every parameter from position `n` on has a default. -/
def DefaultsFrom (r : Routine) (n : Nat) : Prop :=
  ∀ i p, n ≤ i → r.params[i]? = some p → p.hasDefault = true

theorem defaultsFrom_iff : r.DefaultsFrom n ↔ ∀ p ∈ r.params.drop n, p.hasDefault = true := by
  constructor
  · intro h p hp
    obtain ⟨i, hi⟩ := List.mem_iff_getElem?.mp hp
    rw [List.getElem?_drop] at hi
    exact h (n + i) p (Nat.le_add_right n i) hi
  · intro h i p hle hp
    obtain ⟨k, rfl⟩ := Nat.exists_eq_add_of_le hle
    rw [← List.getElem?_drop] at hp
    exact h p (List.mem_of_getElem? hp)

/-- What is left of a list without the last elements that pass a test fits into `n` places exactly
if all elements behind the first `n` pass. -/
theorem length_sub_takeWhile_reverse_le_iff {α : Type} (p : α → Bool) (l : List α) (n : Nat) :
    l.length - (l.reverse.takeWhile p).length ≤ n ↔ ∀ x ∈ l.drop n, p x = true := by
  -- from the back, as the elements are tested
  induction l using List.reverseRecOn with
  | nil => simp
  | append_singleton l a ih =>
    have hshort : (l.reverse.takeWhile p).length ≤ l.length := by
      simpa using (List.takeWhile_sublist p (l := l.reverse)).length_le
    rw [List.reverse_append, List.reverse_singleton, List.singleton_append, List.length_append,
      List.length_singleton]
    rcases Nat.lt_or_ge l.length n with hlt | hge
    · -- behind the first `n` there is nothing
      rw [List.drop_of_length_le (by simp only [List.length_append, List.length_singleton]; omega)]
      exact iff_of_true (by omega) (by simp)
    · rw [List.drop_append_of_le_length hge]
      cases ha : p a with
      | true =>
        rw [List.takeWhile_cons_of_pos ha, List.length_cons, Nat.add_sub_add_right, ih]
        simp [ha, or_imp, forall_and]
      | false =>
        rw [List.takeWhile_cons_of_neg (by simp [ha])]
        refine iff_of_false (by rw [List.length_nil]; omega) fun h ↦ ?_
        have hpass := h a (List.mem_append_right _ (List.mem_singleton_self a))
        simp [ha] at hpass

theorem minArity_le_iff : r.minArity ≤ n ↔ r.DefaultsFrom n := by
  rw [defaultsFrom_iff]
  exact length_sub_takeWhile_reverse_le_iff Param.hasDefault r.params n

theorem minArity_le_arity (r : Routine) : r.minArity ≤ r.arity :=
  Nat.sub_le _ _

theorem acceptsArity_iff_between : r.acceptsArity n = true ↔ r.minArity ≤ n ∧ n ≤ r.arity := by
  simp [acceptsArity]

/-- **A number of arguments is accepted exactly if all that is left out has a default.** -/
theorem acceptsArity_iff : r.acceptsArity n = true ↔ n ≤ r.arity ∧ r.DefaultsFrom n := by
  rw [acceptsArity_iff_between, minArity_le_iff, and_comm]

/-! ## All numbers of arguments -/

/-- Which numbers of arguments a routine accepts, and what follows for calls of it. -/
structure OmitsDefaults (r : Routine) : Prop where
  accepts_iff : ∀ n, r.acceptsArity n = true ↔ n ≤ r.arity ∧
    ∀ i p, n ≤ i → r.params[i]? = some p → p.hasDefault = true
  accepts_minArity : r.acceptsArity r.minArity = true
  minArity_least : ∀ n, r.acceptsArity n = true → r.minArity ≤ n
  /-- The numbers that are accepted have no gap. -/
  accepts_between : ∀ a b n, r.acceptsArity a = true → r.acceptsArity b = true → a ≤ n → n ≤ b →
    r.acceptsArity n = true
  /-- A call that leaves out an argument without a default is turned down whatever the other
  arguments are, also if they are not in the store. -/
  no_cost : ∀ (env : TypeEnv) (o : Overload) (args : List Handle), o.routine = r →
    (∃ i p, args.length ≤ i ∧ r.params[i]? = some p ∧ p.hasDefault = false) →
      env.callCost? o args = .ok none

/-- **The trailing parameters with a default are those that a call can leave out.** -/
theorem omitsDefaults (r : Routine) : OmitsDefaults r where
  accepts_iff _ := acceptsArity_iff
  accepts_minArity := acceptsArity_iff_between.mpr ⟨Nat.le_refl _, r.minArity_le_arity⟩
  minArity_least _ h := (acceptsArity_iff_between.mp h).1
  accepts_between a b n ha hb hle hle' := by
    have hlow := (acceptsArity_iff_between.mp ha).1
    have hhigh := (acceptsArity_iff_between.mp hb).2
    exact acceptsArity_iff_between.mpr ⟨Nat.le_trans hlow hle, Nat.le_trans hle' hhigh⟩
  no_cost env o args ho hplain := by
    subst ho
    obtain ⟨i, p, hle, hp, hno⟩ := hplain
    have hturned : ¬o.routine.acceptsArity args.length = true := by
      intro haccepts
      have hdefault := (acceptsArity_iff.mp haccepts).2 i p hle hp
      exact absurd (hdefault.symm.trans hno) nofun
    rw [TypeEnv.callCost?, if_neg hturned]
    rfl

-- the default of the first parameter is of no use
example : (Routine.mk "Pad" [⟨"a", ⟨0⟩, .byValue, true⟩, ⟨"b", ⟨0⟩, .byValue, false⟩,
    ⟨"c", ⟨0⟩, .byValue, true⟩] none false false .builtin).minArity = 2 := by
  decide

end Routine

end PascalTypes
