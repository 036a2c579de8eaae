/-!
# Loops

Some questions are answered by a loop that keeps a set of what it has met, and ends because the set
cannot grow for ever.  Such a loop is given by what one turn of it does.  `runLoop` takes a number
of turns and says what the loop has answered by then, if it has.

An answer stays the same however many more turns there are (`runLoop_of_le`).  That there is one
after so many turns is a theorem about the loop (`exists_runLoop`), which needs a rank that falls
with every turn.  What the answer is like follows from an invariant (`runLoop_induction`).
-/

set_option autoImplicit false

namespace PascalTypes

/-- What a turn of a loop comes to: one more turn, or an answer. -/
inductive Turn (σ ρ : Type) where
  | again (s : σ)
  | done (r : ρ)
deriving DecidableEq, Repr

variable {σ ρ : Type} {turn : σ → Turn σ ρ} {s s' : σ} {r : ρ} {n m : Nat}

/-- The answer of a loop within `n` turns.  There is none if the loop would go on. -/
def runLoop (turn : σ → Turn σ ρ) : Nat → σ → Option ρ
  | 0, _ => none
  | n + 1, s =>
    match turn s with
    | .again s' => runLoop turn n s'
    | .done r => some r

theorem runLoop_of_again (h : turn s = .again s') :
    runLoop turn (n + 1) s = runLoop turn n s' := by
  rw [runLoop, h]

theorem runLoop_of_done (h : turn s = .done r) : runLoop turn (n + 1) s = some r := by
  rw [runLoop, h]

/-- More turns do not change an answer. -/
theorem runLoop_of_le (h : runLoop turn n s = some r) (hle : n ≤ m) :
    runLoop turn m s = some r := by
  induction n generalizing m s with
  | zero => cases h
  | succ n ih =>
    obtain ⟨m, rfl⟩ := Nat.exists_eq_add_one.mpr (Nat.lt_of_lt_of_le n.succ_pos hle)
    cases hturn : turn s with
    | again s' =>
      rw [runLoop_of_again hturn] at h ⊢
      exact ih h (Nat.le_of_succ_le_succ hle)
    | done r' =>
      rw [runLoop_of_done hturn] at h ⊢
      exact h

/-- **A loop has an answer after so many turns as a rank allows** that falls with each of them. -/
theorem exists_runLoop {P : σ → Prop} (rank : σ → Nat)
    (hagain : ∀ s s', P s → turn s = .again s' → P s' ∧ rank s' < rank s) (hs : P s)
    (hn : rank s < n) : ∃ r, runLoop turn n s = some r := by
  induction n generalizing s with
  | zero => exact absurd hn (Nat.not_lt_zero _)
  | succ n ih =>
    cases hturn : turn s with
    | again s' =>
      obtain ⟨hs', hlt⟩ := hagain s s' hs hturn
      rw [runLoop_of_again hturn]
      exact ih hs' (Nat.lt_of_lt_of_le hlt (Nat.le_of_lt_succ hn))
    | done r => exact ⟨r, runLoop_of_done hturn⟩

/-- **What every turn keeps, and what the last turn makes of it.** -/
theorem runLoop_induction {P : σ → Prop} {Q : ρ → Prop}
    (hagain : ∀ s s', P s → turn s = .again s' → P s')
    (hdone : ∀ s r, P s → turn s = .done r → Q r) (hs : P s)
    (h : runLoop turn n s = some r) : Q r := by
  induction n generalizing s with
  | zero => cases h
  | succ n ih =>
    cases hturn : turn s with
    | again s' =>
      rw [runLoop_of_again hturn] at h
      exact ih (hagain s s' hs hturn) h
    | done r' =>
      rw [runLoop_of_done hturn] at h
      cases h
      exact hdone s r hs hturn

end PascalTypes
