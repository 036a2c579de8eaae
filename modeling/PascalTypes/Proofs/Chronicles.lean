import Mathlib.Data.List.DropRight
import Mathlib.Data.List.Induction

/-!
# What calls have added since the last clearing

Several tables are changed in the same way.  A call adds an entry, unless the table refuses it, or
makes the table forget all its entries.  What such a table has after many calls can be said without
looking at the table: it has what was added since it last forgot everything, in the order of the
calls.  Both what a call adds and whether it clears the table may depend on the table that it meets.

* `RefusedIf` is the outcome of a call that may be refused.
* `Chronicle.added` reads off the calls what they have added, and `entries_foldl` says that a table
  has these entries if each single call does to them what it should.  Where a new entry takes the
  place of an old one, the table has the last of them (`latest_foldl`).
* The tables refuse an entry that could be taken for another one.  So there is one entry at most
  that answers a question, and it is found wherever it stands (`find?_eq_some_iff_of_pairwise`).
-/

set_option autoImplicit false

namespace PascalTypes

/-! ## One call -/

section
variable {ε τ : Type} {why : Prop} {t t' : τ} {out : Except ε Unit × τ}

/-- The outcome of a call that makes the table `t'` of `t`, or is refused for the reason `why`. -/
def RefusedIf (why : Prop) (t t' : τ) (out : Except ε Unit × τ) : Prop :=
  why ∧ (∃ e, out = (.error e, t)) ∨ ¬why ∧ out = (.ok (), t')

theorem RefusedIf.refused_iff (h : RefusedIf why t t' out) : (∃ e, out.1 = .error e) ↔ why := by
  rcases h with ⟨hwhy, e, rfl⟩ | ⟨hwhy, rfl⟩
  · exact iff_of_true ⟨e, rfl⟩ hwhy
  · refine iff_of_false ?_ hwhy
    rintro ⟨e, he⟩
    cases he

/-- A call that is refused changes nothing. -/
theorem RefusedIf.unchanged (h : RefusedIf why t t' out) {e : ε} (he : out.1 = .error e) :
    out.2 = t := by
  rcases h with ⟨-, e', rfl⟩ | ⟨-, rfl⟩
  · rfl
  · cases he

end

/-- Where one entry at most passes a test, it is the one that is found. -/
theorem find?_eq_some_iff_of_pairwise {α : Type} {entries : List α} {p : α → Bool}
    (h : entries.Pairwise fun x y ↦ p x = true → p y = false) {x : α} :
    entries.find? p = some x ↔ x ∈ entries ∧ p x = true := by
  constructor
  · intro hx
    exact ⟨List.mem_of_find?_eq_some hx, List.find?_some hx⟩
  · rintro ⟨hmem, hx⟩
    obtain ⟨front, back, rfl⟩ := List.append_of_mem hmem
    refine List.find?_eq_some_iff_append.mpr ⟨hx, front, back, rfl, fun y hy ↦ ?_⟩
    have hother := (List.pairwise_append.mp h).2.2 y hy x List.mem_cons_self
    rw [Bool.not_eq_true', ← Bool.not_eq_true]
    exact fun hpass ↦ absurd (hx.symm.trans (hother hpass)) Bool.noConfusion

/-- Where one entry at most passes a test, it is all that is left of the entries. -/
theorem filter_eq_toList_find? {α : Type} {entries : List α} {p : α → Bool}
    (h : entries.Pairwise fun x y ↦ p x = true → p y = false) :
    entries.filter p = (entries.find? p).toList := by
  induction entries with
  | nil => rfl
  | cons x rest ih =>
    obtain ⟨hx, hrest⟩ := List.pairwise_cons.mp h
    cases hp : p x with
    | true =>
      have hnone : rest.filter p = [] :=
        List.filter_eq_nil_iff.mpr fun y hy ↦ by simp [hx y hy hp]
      simp [hp, hnone]
    | false => simp [hp, ih hrest]

/-! ## Many calls -/

namespace Chronicle

variable {τ γ β : Type} (apply : τ → γ → τ) (isClear : τ → γ → Bool) (added? : τ → γ → Option β)

/-- The calls of a run, each with the table that it meets. -/
def steps (t : τ) : List γ → List (τ × γ)
  | [] => []
  | c :: rest => (t, c) :: steps (apply t c) rest

/-- The entries that were added since the table was last cleared, the oldest first. -/
def added (t : τ) (changes : List γ) : List β :=
  ((steps apply t changes).rtakeWhile fun s ↦ !isClear s.1 s.2).filterMap fun s ↦ added? s.1 s.2

theorem steps_concat (t : τ) (changes : List γ) (c : γ) :
    steps apply t (changes ++ [c]) = steps apply t changes ++ [(changes.foldl apply t, c)] := by
  induction changes generalizing t with
  | nil => rfl
  | cons d rest ih =>
    rw [List.cons_append, steps, ih, List.foldl_cons]
    rfl

variable {apply} in
theorem mem_of_mem_steps {s : τ × γ} {t : τ} {changes : List γ} (h : s ∈ steps apply t changes) :
    s.2 ∈ changes := by
  induction changes generalizing t with
  | nil => exact absurd h List.not_mem_nil
  | cons c rest ih =>
    rcases List.mem_cons.mp h with rfl | h
    · exact List.mem_cons_self
    · exact List.mem_cons_of_mem _ (ih h)

theorem added_concat (t : τ) (changes : List γ) (c : γ) :
    added apply isClear added? t (changes ++ [c]) =
      if isClear (changes.foldl apply t) c then [] else
        added apply isClear added? t changes ++ (added? (changes.foldl apply t) c).toList := by
  rw [added, steps_concat]
  cases hc : isClear (changes.foldl apply t) c with
  | true =>
    rw [List.rtakeWhile_concat_neg _ _ _ (by simp [hc])]
    rfl
  | false =>
    rw [List.rtakeWhile_concat_pos _ _ _ (by simp [hc]), List.filterMap_append, ← added]
    cases hadd : added? (changes.foldl apply t) c <;> simp [hadd]

/-- Some of the entries that were added. -/
theorem filter_added (p : β → Bool) (t : τ) (changes : List γ) :
    (added apply isClear added? t changes).filter p =
      added apply isClear (fun s c ↦ (added? s c).filter p) t changes :=
  List.filter_filterMap

/-- **A table has the entries that were added since it was last cleared**, if this is what each call
makes of its entries. -/
theorem entries_foldl (entries : τ → List β) {t : τ} (hstart : entries t = [])
    (hstep : ∀ s c, entries (apply s c) =
      if isClear s c then [] else entries s ++ (added? s c).toList) (changes : List γ) :
    entries (changes.foldl apply t) = added apply isClear added? t changes := by
  induction changes using List.reverseRecOn with
  | nil => exact hstart
  | append_singleton changes c ih => rw [List.foldl_concat, hstep, added_concat, ih]

/-- **A place that holds one entry holds the last that was added**, if each call replaces the entry,
clears the place or leaves it alone. -/
theorem latest_foldl (value : τ → Option β) {t : τ} (hstart : value t = none)
    (hstep : ∀ s c, value (apply s c) =
      if isClear s c then none else (added? s c).or (value s)) (changes : List γ) :
    value (changes.foldl apply t) = (added apply isClear added? t changes).getLast? := by
  induction changes using List.reverseRecOn with
  | nil => exact hstart
  | append_singleton changes c ih =>
    rw [List.foldl_concat, hstep, added_concat, ih]
    split
    · rfl
    · cases added? (changes.foldl apply t) c <;> simp

end Chronicle

end PascalTypes
