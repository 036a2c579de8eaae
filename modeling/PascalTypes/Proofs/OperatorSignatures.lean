import Mathlib.Data.List.Forall2
import PascalTypes.OperatorTable
import PascalTypes.Proofs.Chronicles
import PascalTypes.Proofs.Lowering

/-!
# Operators and their operands

The table of operators does not compare operands one by one.  It joins their names in lower case to
one text, with bars in between, and compares these texts.  This can go wrong in two ways.  A name
may have a bar in it, and the text for no operands is that for one operand with an empty name.

For all other operands the texts are as good as the operands themselves.  Lowering makes a bar of
nothing but a bar (`Text.bar_mem_of_lower`), so the names can be read back from the text by
splitting it at the bars (`signatureKey_eq_iff`).  `matchedExactly_run` draws the conclusion for
tables: whatever was registered, refused or cleared, an operator is found exactly if it was
registered for operands that agree one by one, and there is never a second one.
-/

set_option autoImplicit false

namespace PascalTypes

/-! ## Lowering and bars -/

namespace Text

/-- No range of capital letters goes to the bar. -/
theorem lowerShifts_miss_bar : ∀ r ∈ lowerShifts,
    ('|'.toNat : Int) < r.first + r.shift ∨ (r.last : Int) + r.shift < '|'.toNat := by
  decide +kernel

theorem lowerChar_eq_bar {c : Char} (h : lowerChar c = '|') : c = '|' :=
  eq_of_lowerChar_eq (by decide) lowerShifts_miss_bar h

theorem bar_mem_of_lowerAt {before after : List Char} {c : Char}
    (h : '|' ∈ lowerAt before c after) : c = '|' := by
  rw [lowerAt] at h
  split_ifs at h
  · exact absurd h (by decide)
  · exact absurd h (by decide)
  · exact absurd h (by decide)
  · exact lowerChar_eq_bar (List.mem_singleton.mp h).symm

theorem bar_mem_of_lowerFrom {before cs : List Char} (h : '|' ∈ lowerFrom before cs) :
    '|' ∈ cs := by
  induction cs generalizing before with
  | nil => exact h
  | cons c rest ih =>
    rcases List.mem_append.mp h with h | h
    · rw [bar_mem_of_lowerAt h]
      exact List.mem_cons_self
    · exact List.mem_cons_of_mem _ (ih h)

/-- **Lowering makes no bars.** -/
theorem bar_mem_of_lower {s : String} (h : '|' ∈ (lower s).toList) : '|' ∈ s.toList := by
  rw [lower, String.toList_ofList] at h
  exact bar_mem_of_lowerFrom h

end Text

/-! ## Signatures -/

/-- Whether there are operands, and none of their names has a bar. -/
def isPlainSignature (operands : List String) : Bool :=
  !operands.isEmpty && operands.all fun name ↦ !name.toList.contains '|'

theorem isPlainSignature_iff {operands : List String} : isPlainSignature operands = true ↔
    operands ≠ [] ∧ ∀ name ∈ operands, '|' ∉ name.toList := by
  simp [isPlainSignature]

/-- Two lists of operands are equally long and have the same names in the same order, up to upper
and lower case. -/
def SameOperands (operands operands' : List String) : Prop :=
  List.Forall₂ (fun a b ↦ Text.lower a = Text.lower b) operands operands'

theorem sameOperands_iff_map {operands operands' : List String} :
    SameOperands operands operands' ↔ operands.map Text.lower = operands'.map Text.lower := by
  rw [← List.forall₂_eq_eq_eq, List.forall₂_map_left_iff, List.forall₂_map_right_iff]
  rfl

/-- The names are read back from a signature by splitting it. -/
theorem splitOn_signatureKey {operands : List String} (h : isPlainSignature operands = true) :
    (signatureKey operands).toList.splitOn '|' =
      (operands.map Text.lower).map String.toList := by
  obtain ⟨hne, hplain⟩ := isPlainSignature_iff.mp h
  rw [signatureKey, String.toList_intercalate]
  refine List.splitOn_intercalate '|' (fun l hl hbar ↦ ?_) (by simpa using hne)
  rw [List.map_map] at hl
  obtain ⟨name, hname, rfl⟩ := List.mem_map.mp hl
  exact hplain name hname (Text.bar_mem_of_lower hbar)

/-- **Plain operands have the same signature exactly if they agree one by one.** -/
theorem signatureKey_eq_iff {operands operands' : List String}
    (h : isPlainSignature operands = true) (h' : isPlainSignature operands' = true) :
    signatureKey operands = signatureKey operands' ↔ SameOperands operands operands' := by
  rw [sameOperands_iff_map]
  constructor
  · intro hkey
    have hsplit := splitOn_signatureKey h
    rw [hkey, splitOn_signatureKey h'] at hsplit
    exact (List.map_inj_right fun _ _ ↦ String.toList_inj.mp).mp hsplit.symm
  · intro hmap
    rw [signatureKey, signatureKey, hmap]

-- neither condition can be left out
example : signatureKey ["a|b"] = signatureKey ["a", "b"] ∧ signatureKey [] = signatureKey [""] := by
  decide

/-! ## Tables that can come up -/

/-- A call that changes a table of operators. -/
inductive OperatorChange
  | register (o : OperatorOverload)
  /-- Forget all operators. -/
  | clear

namespace OperatorChange

/-- Whether a change makes a table forget its operators. -/
def isClear : OperatorChange → Bool
  | register _ => false
  | clear => true

/-- Whether what a change registers has operands, and no bar in their names. -/
def isPlain : OperatorChange → Bool
  | register o => isPlainSignature o.operands
  | clear => true

end OperatorChange

/-- Whether a meaning is one of this operator for these operands. -/
def OperatorOverload.Fits (o : OperatorOverload) (operator : String) (operands : List String) :
    Prop :=
  Text.lower o.operator = Text.lower operator ∧ SameOperands o.operands operands

namespace OperatorTable

variable {t : OperatorTable} {o : OperatorOverload} {operator : String} {operands : List String}

/-- The table after one change. -/
def apply (t : OperatorTable) : OperatorChange → OperatorTable
  | .register o => (t.register o).2
  | .clear => {}

/-- The table that is left of an empty one after several changes. -/
def run (changes : List OperatorChange) : OperatorTable :=
  changes.foldl apply {}

/-- **A meaning comes last, unless one is found for its operands.** -/
theorem register_refusedIf (t : OperatorTable) (o : OperatorOverload) :
    RefusedIf ((t.lookup? o.operator o.operands).isSome = true) t ⟨t.overloads ++ [o]⟩
      (t.register o) := by
  rw [register]
  split
  · rename_i hfound
    exact Or.inl ⟨hfound, _, rfl⟩
  · rename_i hnew
    exact Or.inr ⟨hnew, rfl⟩

/-! ### What the calls have registered -/

/-- The meaning that a change adds to a table, if it adds one and the table does not refuse it. -/
def added? (t : OperatorTable) : OperatorChange → Option OperatorOverload
  | .register o =>
    match (t.register o).1 with
    | .ok _ => some o
    | .error _ => none
  | .clear => none

/-- The meanings that were registered since the table was last cleared, the oldest first. -/
def chronicle (changes : List OperatorChange) : List OperatorOverload :=
  Chronicle.added apply (fun _ ↦ OperatorChange.isClear) added? {} changes

theorem overloads_apply (t : OperatorTable) (c : OperatorChange) :
    (t.apply c).overloads = if c.isClear then [] else t.overloads ++ (t.added? c).toList := by
  cases c with
  | clear => rfl
  | register o =>
    rcases t.register_refusedIf o with ⟨-, e, he⟩ | ⟨-, he⟩ <;>
      simp [apply, added?, he, OperatorChange.isClear]

/-- **The meanings of a table are those registered since it was last cleared.** -/
theorem overloads_run (changes : List OperatorChange) :
    (run changes).overloads = chronicle changes :=
  Chronicle.entries_foldl _ _ _ overloads rfl overloads_apply changes

/-! ### One meaning for each signature -/

/-- All signatures are plain, and no two meanings of an operator share one. -/
structure Settled (t : OperatorTable) : Prop where
  plain : ∀ o ∈ t.overloads, isPlainSignature o.operands = true
  distinct : t.overloads.Pairwise fun o o' ↦
    Text.lower o.operator = Text.lower o'.operator → o.signature ≠ o'.signature

theorem lookup?_eq_none_iff : t.lookup? operator operands = none ↔
    ∀ o ∈ t.overloads, Text.lower o.operator = Text.lower operator →
      o.signature ≠ signatureKey operands := by
  simp [lookup?, meanings]

namespace Settled

theorem empty : Settled {} :=
  ⟨fun _ ho ↦ absurd ho List.not_mem_nil, List.Pairwise.nil⟩

theorem register (ht : t.Settled) (ho : isPlainSignature o.operands = true) :
    (t.register o).2.Settled := by
  rcases t.register_refusedIf o with ⟨-, e, he⟩ | ⟨hnew, he⟩
  · rw [he]
    exact ht
  · rw [he]
    refine ⟨fun o' ho' ↦ ?_, ?_⟩
    · rcases List.mem_append.mp ho' with ho' | ho'
      · exact ht.plain o' ho'
      · rwa [List.mem_singleton.mp ho']
    · refine List.pairwise_append.mpr ⟨ht.distinct, List.pairwise_singleton _ _, ?_⟩
      intro o' ho' last hlast
      rw [List.mem_singleton.mp hlast]
      exact lookup?_eq_none_iff.mp (Option.not_isSome_iff_eq_none.mp hnew) o' ho'

theorem apply (ht : t.Settled) {c : OperatorChange} (hc : c.isPlain = true) :
    (t.apply c).Settled := by
  cases c with
  | register o => exact ht.register hc
  | clear => exact .empty

/-- A meaning is found exactly under its operator and signature. -/
theorem lookup?_eq_some_iff (ht : t.Settled) : t.lookup? operator operands = some o ↔
    o ∈ t.overloads ∧ Text.lower o.operator = Text.lower operator ∧
      o.signature = signatureKey operands := by
  rw [lookup?, meanings, List.find?_filter, find?_eq_some_iff_of_pairwise]
  · simp
  · refine ht.distinct.imp fun {a b} hab ha ↦ ?_
    simp only [beq_iff_eq, decide_eq_true_eq, decide_eq_false_iff_not, not_and] at ha ⊢
    intro hb hsig
    exact hab (ha.1.trans hb.symm) (ha.2.trans hsig.symm)

theorem lookup?_eq_some_iff_fits (ht : t.Settled) (hplain : isPlainSignature operands = true) :
    t.lookup? operator operands = some o ↔ o ∈ t.overloads ∧ o.Fits operator operands := by
  rw [ht.lookup?_eq_some_iff]
  refine and_congr_right fun ho ↦ and_congr_right fun _ ↦ ?_
  exact signatureKey_eq_iff (ht.plain o ho) hplain

/-- No two meanings fit the same operator and operands. -/
theorem pairwise_fits (ht : t.Settled) : t.overloads.Pairwise fun o o' ↦
    ∀ operator operands, o.Fits operator operands → ¬o'.Fits operator operands := by
  refine ht.distinct.imp fun {a b} hab operator operands ha hb ↦ ?_
  refine hab (ha.1.trans hb.1.symm) ?_
  rw [OperatorOverload.signature, OperatorOverload.signature, signatureKey, signatureKey,
    sameOperands_iff_map.mp ha.2, sameOperands_iff_map.mp hb.2]

end Settled

theorem settled_run {changes : List OperatorChange} (h : ∀ c ∈ changes, c.isPlain = true) :
    (run changes).Settled :=
  List.foldlRecOn (motive := Settled) changes _ .empty fun _ ht c hc ↦ ht.apply (h c hc)

/-! ## After any number of calls -/

/-- Operators are found by their operands one by one. -/
structure MatchedExactly (changes : List OperatorChange) : Prop where
  found_iff : ∀ operator operands o, isPlainSignature operands = true →
    ((run changes).lookup? operator operands = some o ↔
      o ∈ chronicle changes ∧ o.Fits operator operands)
  one_at_most : (chronicle changes).Pairwise fun o o' ↦
    ∀ operator operands, o.Fits operator operands → ¬o'.Fits operator operands
  refused_iff : ∀ o, isPlainSignature o.operands = true →
    ((∃ e, ((run changes).register o).1 = .error e) ↔
      ∃ o' ∈ chronicle changes, o'.Fits o.operator o.operands)
  refused_unchanged : ∀ o e, ((run changes).register o).1 = .error e →
    ((run changes).register o).2 = run changes

/-- **A look-up by joined names is a look-up by operands**, as long as there are operands and no
bars in their names. -/
theorem matchedExactly_run (changes : List OperatorChange)
    (hplain : ∀ c ∈ changes, c.isPlain = true) : MatchedExactly changes := by
  have ht := settled_run hplain
  have hrun := overloads_run changes
  refine ⟨fun operator operands o ho ↦ ?_, hrun ▸ ht.pairwise_fits, fun o ho ↦ ?_,
    fun o e he ↦ ?_⟩
  · rw [ht.lookup?_eq_some_iff_fits ho, hrun]
  · have hfound : ((run changes).lookup? o.operator o.operands).isSome = true ↔
        ∃ o' ∈ chronicle changes, o'.Fits o.operator o.operands := by
      rw [Option.isSome_iff_exists, ← hrun]
      exact exists_congr fun o' ↦ ht.lookup?_eq_some_iff_fits ho
    rw [← hfound]
    exact ((run changes).register_refusedIf o).refused_iff
  · exact ((run changes).register_refusedIf o).unchanged he

/-- The operator `in` for a type and an empty name. -/
def inPair : OperatorOverload :=
  { operator := "in", operands := ["a", ""], binding := "pair" }

/-- The operator `in` for the type alone. -/
def inAlone : OperatorOverload :=
  { operator := "In", operands := ["A"], binding := "alone" }

/-- Both are registered after everything was cleared, with a second spelling of the first of them in
between, which is refused. -/
def respelledOperators : List OperatorChange :=
  [.register { inAlone with binding := "cleared" }, .clear, .register inPair,
    .register { operator := "IN", operands := ["A", ""], binding := "refused" }, .register inAlone]

/-- Two meanings are left, and operands in any spelling lead to the right one. -/
theorem matchedExactly_respelledOperators :
    (∀ c ∈ respelledOperators, c.isPlain = true) ∧
      chronicle respelledOperators = [inPair, inAlone] ∧
      (run respelledOperators).lookup? "iN" ["A", ""] = some inPair ∧
      (run respelledOperators).lookup? "iN" ["a"] = some inAlone ∧
      ∃ e, ((run respelledOperators).register { inAlone with operands := ["a"] }).1 = .error e := by
  have hplain : ∀ c ∈ respelledOperators, c.isPlain = true := by decide
  have hleft : chronicle respelledOperators = [inPair, inAlone] := by decide
  have hmatched := matchedExactly_run respelledOperators hplain
  have hpair : inPair ∈ chronicle respelledOperators := by simp [hleft]
  have halone : inAlone ∈ chronicle respelledOperators := by simp [hleft]
  have hfits : inAlone.Fits "iN" ["a"] := ⟨rfl, .cons rfl .nil⟩
  refine ⟨hplain, hleft, (hmatched.found_iff _ _ _ rfl).mpr ⟨hpair, rfl, ?_⟩,
    (hmatched.found_iff _ _ _ rfl).mpr ⟨halone, hfits⟩,
    (hmatched.refused_iff _ rfl).mpr ⟨inAlone, halone, rfl, hfits.2⟩⟩
  exact .cons rfl (.cons rfl .nil)

end OperatorTable

end PascalTypes
