import PascalTypes.Refusal

/-!
# Questions that have an answer

Questions about types have their answers in `Except Fault`, because a handle may lead nowhere.
Statements about them have two sides: there is an answer at all, and it is the right one.
`Decides` keeps both together, so that a proof cannot speak of one and lose the other.

The other lemmas are about questions that are asked in steps or for each element of a list.
-/

set_option autoImplicit false

namespace PascalTypes

variable {α β : Type}

/-- There is an answer, and it is yes exactly if `P` holds. -/
def Decides (answer : Except Fault Bool) (P : Prop) : Prop :=
  ∃ yes, answer = .ok yes ∧ (yes = true ↔ P)

namespace Decides

variable {r r' : Except Fault Bool} {P Q : Prop}

theorem of_ok {b : Bool} (h : b = true ↔ P) : Decides (.ok b) P :=
  ⟨b, rfl, h⟩

theorem eq_true_iff (h : Decides r P) : r = .ok true ↔ P := by
  obtain ⟨yes, rfl, hP⟩ := h
  rw [Except.ok.injEq, hP]

theorem eq_false_iff (h : Decides r P) : r = .ok false ↔ ¬P := by
  obtain ⟨yes, rfl, hP⟩ := h
  rw [Except.ok.injEq, ← hP, Bool.not_eq_true]

theorem of_iff (h : Decides r P) (hPQ : P ↔ Q) : Decides r Q := by
  obtain ⟨yes, hyes, hP⟩ := h
  exact ⟨yes, hyes, hP.trans hPQ⟩

theorem eq_ok_decide [Decidable P] (h : Decides r P) : r = .ok (decide P) := by
  obtain ⟨yes, rfl, hP⟩ := h
  rw [Bool.eq_iff_iff.mpr (hP.trans decide_eq_true_iff.symm)]

/-- A question has one answer. -/
theorem unique (h : Decides r P) (h' : Decides r' P) : r = r' := by
  obtain ⟨yes, rfl, hP⟩ := h
  obtain ⟨yes', rfl, hP'⟩ := h'
  rw [Bool.eq_iff_iff.mpr (hP.trans hP'.symm)]

end Decides

/-- A question in two steps has an answer if both steps have one. -/
theorem bind_eq_ok {x : Except Fault α} {f : α → Except Fault β} {r : β} :
    x >>= f = .ok r ↔ ∃ a, x = .ok a ∧ f a = .ok r := by
  constructor
  · intro h
    cases x with
    | error fault => cases h
    | ok a => exact ⟨a, rfl, h⟩
  · rintro ⟨a, rfl, h⟩
    exact h

/-- If each element has its answer, so has the list. -/
theorem mapM_eq_ok {l : List α} {ask : α → Except Fault β} (answer : α → β)
    (h : ∀ a ∈ l, ask a = .ok (answer a)) : l.mapM ask = .ok (l.map answer) := by
  induction l with
  | nil => rfl
  | cons a rest ih =>
    rw [List.mapM_cons, h a List.mem_cons_self, ih fun b hb ↦ h b (List.mem_cons_of_mem _ hb)]
    rfl

theorem mapM_congr {l : List α} {f g : α → Except Fault β} (h : ∀ a ∈ l, f a = g a) :
    l.mapM f = l.mapM g := by
  induction l with
  | nil => rfl
  | cons a rest ih =>
    rw [List.mapM_cons, List.mapM_cons, h a List.mem_cons_self,
      ih fun b hb ↦ h b (List.mem_cons_of_mem _ hb)]

/-- If the list has its answer, so has each element. -/
theorem exists_of_mapM_eq_ok {l : List α} {ask : α → Except Fault β} {bs : List β}
    (h : l.mapM ask = .ok bs) : ∀ a ∈ l, ∃ b, ask a = .ok b := by
  induction l generalizing bs with
  | nil => exact fun _ ha ↦ absurd ha List.not_mem_nil
  | cons a rest ih =>
    rw [List.mapM_cons] at h
    obtain ⟨b, hb, h⟩ := bind_eq_ok.mp h
    obtain ⟨cs, hcs, -⟩ := bind_eq_ok.mp h
    intro a' ha'
    rcases List.mem_cons.mp ha' with rfl | ha'
    · exact ⟨b, hb⟩
    · exact ih hcs a' ha'

/-- What holds of the answers for the elements holds of all answers of the list. -/
theorem forall_mem_of_mapM_eq_ok {l : List α} {ask : α → Except Fault β} {bs : List β}
    {P : β → Prop} (h : l.mapM ask = .ok bs) (hP : ∀ a b, ask a = .ok b → P b) : ∀ b ∈ bs, P b := by
  induction l generalizing bs with
  | nil =>
    cases h
    exact fun _ hb ↦ absurd hb List.not_mem_nil
  | cons a rest ih =>
    rw [List.mapM_cons] at h
    obtain ⟨b, hb, h⟩ := bind_eq_ok.mp h
    obtain ⟨cs, hcs, h⟩ := bind_eq_ok.mp h
    cases h
    exact List.forall_mem_cons.mpr ⟨hP a b hb, ih hcs⟩

theorem exists_mapM_eq_ok {l : List α} {ask : α → Except Fault β}
    (h : ∀ a ∈ l, ∃ b, ask a = .ok b) : ∃ bs, l.mapM ask = .ok bs := by
  induction l with
  | nil => exact ⟨[], rfl⟩
  | cons a rest ih =>
    obtain ⟨b, hb⟩ := h a List.mem_cons_self
    obtain ⟨bs, hbs⟩ := ih fun a' ha' ↦ h a' (List.mem_cons_of_mem _ ha')
    exact ⟨b :: bs, by rw [List.mapM_cons, hb, hbs]; rfl⟩

/-- An answer for a list is yes exactly if something holds of one of its elements, if this is what
the answers for the elements say.  An element behind the first yes need not have an answer. -/
theorem anyM_iff_of_eq_ok {l : List α} {ask : α → Except Fault Bool} {P : α → Prop} {yes : Bool}
    (h : l.anyM ask = .ok yes) (hP : ∀ a ∈ l, ∀ b, ask a = .ok b → (b = true ↔ P a)) :
    yes = true ↔ ∃ a ∈ l, P a := by
  induction l generalizing yes with
  | nil =>
    cases h
    simp
  | cons a rest ih =>
    rw [List.anyM_cons] at h
    obtain ⟨b, hb, h⟩ := bind_eq_ok.mp h
    have hhead := hP a List.mem_cons_self b hb
    simp only [List.mem_cons, exists_eq_or_imp]
    cases b with
    | true =>
      cases h
      exact iff_of_true rfl (Or.inl (hhead.mp rfl))
    | false =>
      have hna : ¬P a := fun hPa ↦ Bool.false_ne_true (hhead.mpr hPa)
      rw [or_iff_right hna]
      exact ih h fun a' ha' ↦ hP a' (List.mem_cons_of_mem _ ha')

theorem exists_anyM_eq_ok {l : List α} {ask : α → Except Fault Bool}
    (h : ∀ a ∈ l, ∃ b, ask a = .ok b) : ∃ yes, l.anyM ask = .ok yes := by
  induction l with
  | nil => exact ⟨false, rfl⟩
  | cons a rest ih =>
    obtain ⟨b, hb⟩ := h a List.mem_cons_self
    rw [List.anyM_cons, hb]
    cases b with
    | true => exact ⟨true, rfl⟩
    | false => exact ih fun a' ha' ↦ h a' (List.mem_cons_of_mem _ ha')

end PascalTypes
