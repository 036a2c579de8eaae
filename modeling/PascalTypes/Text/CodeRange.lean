/-!
# Sets of code points

The character properties of this library are sets of code points given by tables in ascending
order.  A table is either a list of runs, each a first and a last code point, or a list of
`CodeRange`s, which can also leave out every other code point: in many scripts capital and small
letters alternate.

Look-ups stop at the first entry that begins behind the code point asked for.
-/

set_option autoImplicit false

namespace PascalTypes.Text

/-- The code points `first`, `first + step`, and so on up to `last`. -/
structure CodeRange where
  first : Nat
  last : Nat
  step : Nat
deriving DecidableEq, Repr

namespace CodeRange

/-- Whether `n` is one of the code points of `r`. -/
def covers (r : CodeRange) (n : Nat) : Bool :=
  decide (r.first ≤ n) && decide (n ≤ r.last) && (n - r.first) % r.step == 0

/-- Whether `n` is in one of the ranges of an ascending table. -/
def anyCovers : List CodeRange → Nat → Bool
  | [], _ => false
  | r :: rest, n => if n < r.first then false else r.covers n || anyCovers rest n

end CodeRange

/-- Whether `n` is in one of the runs of an ascending table. -/
def inRuns : List (Nat × Nat) → Nat → Bool
  | [], _ => false
  | (first, last) :: rest, n => if n < first then false else decide (n ≤ last) || inRuns rest n

end PascalTypes.Text
