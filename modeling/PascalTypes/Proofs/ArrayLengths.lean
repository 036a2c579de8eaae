import Mathlib.Data.Int.ConditionallyCompleteOrder
import Mathlib.Data.Int.Interval
import Mathlib.Data.Set.Card
import PascalTypes.Shape

/-!
# How long a static array is

A static array has as many elements as a subrange with the same bounds holds ordinals.  The two do
not work this out in the same way.  A subrange compares a value with its bounds, and an array takes
the bounds apart in words, where the distance of the bounds can be out of reach although the bounds
are not.

`Interval.members` are the ordinals that the comparison lets through.  There are as many as numbers
from the lowest to the highest (`ncard_members`), because a number between two words is a word.  The
steps in words come to the same number, unless it is too large for a signed word
(`count?_eq_some_iff`).  All bounds are covered: inverted ones, and those of all ordinals at once.
-/

set_option autoImplicit false

namespace PascalTypes

/-- The words are the numbers from `-2^63` up to, but without, `2^63`. -/
theorem Word.exists_toInt_eq_iff {n : Int} :
    (∃ w : Int64, w.toInt = n) ↔ -9223372036854775808 ≤ n ∧ n < 9223372036854775808 := by
  constructor
  · rintro ⟨w, rfl⟩
    exact ⟨w.le_toInt, w.toInt_lt⟩
  · rintro ⟨hlow, hhigh⟩
    exact ⟨Int64.ofInt n, Int64.toInt_ofInt_of_le hlow hhigh⟩

namespace Interval

variable {i : Interval}

/-- The ordinals between the bounds. -/
def members (i : Interval) : Set Int64 :=
  {v | i.contains v = true}

theorem mem_members_iff {v : Int64} :
    v ∈ i.members ↔ i.low.toInt ≤ v.toInt ∧ v.toInt ≤ i.high.toInt := by
  simp [members, contains, Int64.le_iff_toInt_le]

theorem image_toInt_members (i : Interval) :
    Int64.toInt '' i.members = ↑(Finset.Icc i.low.toInt i.high.toInt) := by
  ext n
  rw [Finset.coe_Icc, Set.mem_Icc]
  constructor
  · rintro ⟨v, hv, rfl⟩
    exact mem_members_iff.mp hv
  · rintro ⟨hlow, hhigh⟩
    obtain ⟨v, rfl⟩ := Word.exists_toInt_eq_iff.mpr
      ⟨Int.le_trans i.low.le_toInt hlow, Int.lt_of_le_of_lt hhigh i.high.toInt_lt⟩
    exact ⟨v, mem_members_iff.mpr ⟨hlow, hhigh⟩, rfl⟩

/-- There are as many members as numbers from the lowest to the highest. -/
theorem ncard_members (i : Interval) :
    i.members.ncard = (i.high.toInt + 1 - i.low.toInt).toNat := by
  have hinj : Function.Injective Int64.toInt := fun v w h ↦ Int64.toInt_inj.mp h
  rw [← Set.ncard_image_of_injective i.members hinj, image_toInt_members, Set.ncard_coe_finset,
    Int.card_Icc]

/-! ## Counting in words -/

/-- Each step of the counting has the right number as its result, and has a result exactly if a word
is that number. -/
structure CountedInSteps (i : Interval) : Prop where
  span_iff : ∀ span, Word.sub? i.high i.low = some span ↔
    span.toInt = i.high.toInt - i.low.toInt
  count_iff : ∀ span, Word.sub? i.high i.low = some span → ∀ count,
    (Word.add? span 1 = some count ↔ count.toInt = i.high.toInt - i.low.toInt + 1)
  unsigned_iff : ∀ span, Word.sub? i.high i.low = some span → ∀ count,
    Word.add? span 1 = some count → ∀ n,
      (Word.unsigned? count = some n ↔ (n.toNat : Int) = i.high.toInt - i.low.toInt + 1)

theorem countedInSteps (i : Interval) : i.CountedInSteps := by
  have hcount : ∀ span, Word.sub? i.high i.low = some span → ∀ count,
      (Word.add? span 1 = some count ↔ count.toInt = i.high.toInt - i.low.toInt + 1) := by
    intro span hspan count
    rw [Word.add?_eq_some_iff, Word.sub?_eq_some_iff.mp hspan]
    rfl
  refine ⟨fun span ↦ Word.sub?_eq_some_iff, hcount, fun span hspan count hadd n ↦ ?_⟩
  rw [Word.unsigned?_eq_some_iff, (hcount span hspan count).mp hadd]

/-- **The members are counted exactly if a signed word can count them**, and if the bounds are not
inverted by more than one. -/
theorem count?_eq_some_iff {n : UInt64} :
    i.count? = some n ↔ (n.toNat : Int) = i.high.toInt - i.low.toInt + 1 ∧
      n.toNat < 9223372036854775808 := by
  have hsteps := i.countedInSteps
  rw [count?, Option.bind_eq_some_iff]
  constructor
  · rintro ⟨span, hspan, hrest⟩
    obtain ⟨count, hcount, hn⟩ := Option.bind_eq_some_iff.mp hrest
    have hn := (hsteps.unsigned_iff span hspan count hcount n).mp hn
    have hvalue := (hsteps.count_iff span hspan count).mp hcount
    have hlt := count.toInt_lt
    exact ⟨hn, by omega⟩
  · rintro ⟨hn, hlt⟩
    obtain ⟨span, hspan⟩ : ∃ span : Int64, span.toInt = i.high.toInt - i.low.toInt :=
      Word.exists_toInt_eq_iff.mpr (by omega)
    obtain ⟨count, hcount⟩ : ∃ count : Int64, count.toInt = i.high.toInt - i.low.toInt + 1 :=
      Word.exists_toInt_eq_iff.mpr (by omega)
    have hspan := (hsteps.span_iff span).mpr hspan
    have hcount := (hsteps.count_iff span hspan count).mpr hcount
    exact ⟨span, hspan, Option.bind_eq_some_iff.mpr
      ⟨count, hcount, (hsteps.unsigned_iff span hspan count hcount n).mpr hn⟩⟩

/-- The length is the number of members, or zero if this number is too large. -/
theorem toNat_length (i : Interval) :
    i.length.toNat = if i.members.ncard < 9223372036854775808 then i.members.ncard else 0 := by
  rw [ncard_members, length]
  cases hcount : i.count? with
  | some n =>
    obtain ⟨hn, hlt⟩ := count?_eq_some_iff.mp hcount
    rw [Option.getD_some, if_pos (by omega)]
    omega
  | none =>
    -- a number of members that is neither zero nor too large would have been counted
    rw [Option.getD_none]
    split
    · rename_i hlt
      by_contra hne
      have hsmall : (i.high.toInt + 1 - i.low.toInt).toNat < UInt64.size :=
        Nat.lt_trans hlt (by decide)
      have hsome := count?_eq_some_iff (i := i)
        (n := UInt64.ofNat (i.high.toInt + 1 - i.low.toInt).toNat)
      rw [UInt64.toNat_ofNat_of_lt' hsmall, hcount] at hsome
      have hzero : (0 : UInt64).toNat = 0 := rfl
      exact absurd (hsome.mpr (by omega)) nofun
    · rfl

end Interval

/-! ## Arrays and subranges -/

theorem SubrangeShape.store_eq_ok_iff {s : SubrangeShape} {v w : Int64} :
    s.store v = .ok w ↔ v ∈ s.range.members ∧ w = v := by
  rw [store]
  split
  · rename_i h
    rw [Except.ok.injEq, eq_comm]
    exact (and_iff_right h).symm
  · rename_i h
    exact iff_of_false nofun fun hw ↦ h hw.1

/-- An array has one element for each ordinal that the subrange holds, as far as these can be
counted. -/
structure CountsMembers (a : ArrayShape) (s : SubrangeShape) : Prop where
  /-- The subrange stores its members and nothing else. -/
  stored_iff : ∀ v, (∃ w, s.store v = .ok w) ↔ v ∈ s.range.members
  counted : s.range.members.ncard ≤ 9223372036854775807 →
    ∃ n, a.length? = some n ∧ n.toNat = s.range.members.ncard
  uncounted : 9223372036854775808 ≤ s.range.members.ncard → a.length? = some 0
  steps : s.range.CountedInSteps

/-- **The length of a static array is the number of its indices**, at all bounds. -/
theorem ArrayShape.countsMembers (low high : Int64) (element base : Handle) (name : String) :
    CountsMembers ⟨element, some ⟨low, high⟩⟩ ⟨name, base, ⟨low, high⟩⟩ := by
  have hlength := (Interval.mk low high).toNat_length
  refine ⟨fun v ↦ ?_, fun hle ↦ ?_, fun hge ↦ ?_, Interval.countedInSteps _⟩
  · simp [SubrangeShape.store_eq_ok_iff]
  · exact ⟨_, rfl, hlength.trans (if_pos (Nat.lt_succ_of_le hle))⟩
  · rw [if_neg (Nat.not_lt.mpr hge)] at hlength
    exact congrArg some (UInt64.toNat_inj.mp hlength)

-- one index more, and there are too many
example : (Interval.mk 1 9223372036854775807).length = 9223372036854775807 := by decide

example : (Interval.mk 0 9223372036854775807).length = 0 := by decide

end PascalTypes
