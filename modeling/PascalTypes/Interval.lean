/-!
# Intervals of ordinals

Static arrays and subranges are cut out of an ordinal type by a lowest and a highest value, both
included.  Ordinals are 64-bit signed words.  Nothing forces the lowest value to be below the
highest, and an interval with inverted bounds is empty.

Words wrap around where a result is out of their reach.  So the length of an interval is worked out
by operations that rather have no result there.  `Word.sub?_eq_some_iff` and its like say that the
results they do have are the right numbers.
-/

set_option autoImplicit false

namespace PascalTypes

namespace Word

/-- The difference of two words, unless no word is that number. -/
def sub? (a b : Int64) : Option Int64 :=
  if BitVec.ssubOverflow a.toBitVec b.toBitVec then none else some (a - b)

/-- The sum of two words, unless no word is that number. -/
def add? (a b : Int64) : Option Int64 :=
  if BitVec.saddOverflow a.toBitVec b.toBitVec then none else some (a + b)

/-- A word without its sign, unless it is negative. -/
def unsigned? (a : Int64) : Option UInt64 :=
  if a < 0 then none else some a.toUInt64

/-- A result that is held back exactly if no word is the number `n`, and else is the word for it. -/
theorem unless_eq_some_iff {overflows : Bool} {w c : Int64} {n : Int}
    (hover : overflows = true ↔ n ≥ 9223372036854775808 ∨ n < -9223372036854775808)
    (hexact : ¬overflows = true → w.toInt = n) :
    (if overflows then none else some w) = some c ↔ c.toInt = n := by
  split
  · rename_i h
    have hout := hover.mp h
    have hlow := c.le_toInt
    have hhigh := c.toInt_lt
    exact iff_of_false nofun fun hc ↦ by omega
  · rename_i h
    rw [Option.some_inj, ← hexact h, Int64.toInt_inj, eq_comm]

theorem sub?_eq_some_iff {a b c : Int64} : sub? a b = some c ↔ c.toInt = a.toInt - b.toInt := by
  refine unless_eq_some_iff ?_ BitVec.toInt_sub_of_not_ssubOverflow
  rw [BitVec.ssubOverflow, Bool.or_eq_true, decide_eq_true_eq, decide_eq_true_eq]
  rfl

theorem add?_eq_some_iff {a b c : Int64} : add? a b = some c ↔ c.toInt = a.toInt + b.toInt := by
  refine unless_eq_some_iff ?_ BitVec.toInt_add_of_not_saddOverflow
  rw [BitVec.saddOverflow, Bool.or_eq_true, decide_eq_true_eq, decide_eq_true_eq]
  rfl

theorem unsigned?_eq_some_iff {a : Int64} {n : UInt64} :
    unsigned? a = some n ↔ (n.toNat : Int) = a.toInt := by
  rw [unsigned?]
  split
  · rename_i hneg
    have hlt : a.toInt < 0 := Int64.lt_iff_toInt_lt.mp hneg
    exact iff_of_false nofun fun hn ↦ by omega
  · rename_i hneg
    have hle : 0 ≤ a := Int64.not_lt.mp hneg
    have hexact : (a.toUInt64.toNat : Int) = a.toInt := by
      rw [Int64.toNat_toUInt64_of_le hle]
      exact Int.toNat_of_nonneg (Int64.le_iff_toInt_le.mp hle)
    rw [Option.some_inj, ← hexact, Int.ofNat_inj, UInt64.toNat_inj, eq_comm]

end Word

/-- The ordinals from `low` to `high`. -/
structure Interval where
  low : Int64
  high : Int64
deriving DecidableEq, Repr

namespace Interval

/-- Whether `v` is between the bounds. -/
def contains (i : Interval) (v : Int64) : Bool :=
  decide (i.low ≤ v) && decide (v ≤ i.high)

/-- The number of ordinals, unless it or a number on the way to it is out of reach. -/
def count? (i : Interval) : Option UInt64 :=
  (Word.sub? i.high i.low).bind fun span ↦ (Word.add? span 1).bind Word.unsigned?

/-- How many ordinals the interval has.  An interval with inverted bounds and an interval with too
many ordinals to count them in signed words have the length zero. -/
def length (i : Interval) : UInt64 :=
  i.count?.getD 0

/-- The bounds as a source text writes them. -/
def text (i : Interval) : String :=
  toString i.low.toInt ++ ".." ++ toString i.high.toInt

end Interval

end PascalTypes
