-- Sets of characters given by their boundaries, the form in which properties of the
-- character standard are kept.

namespace SchemaChart.Text

/-- A set of code points, kept as the ascending points at which membership flips: a point is in
the set when the number of boundaries at or below it is odd. -/
structure CharSet where
  boundaries : Array Nat

namespace CharSet

/-- The number of boundaries at or below `n`, by halving the window from `lo` to `hi`. The first
argument bounds the number of halvings; the size of the table is always enough. -/
def rank (bs : Array Nat) (n : Nat) : Nat → Nat → Nat → Nat
  | 0, lo, _ => lo
  | steps + 1, lo, hi =>
    if lo < hi then
      let mid := (lo + hi) / 2
      if bs.getD mid 0 ≤ n then rank bs n steps (mid + 1) hi else rank bs n steps lo mid
    else lo

/-- Membership of a character. -/
def contains (s : CharSet) (c : Char) : Bool :=
  rank s.boundaries c.toNat s.boundaries.size 0 s.boundaries.size % 2 == 1

end CharSet

end SchemaChart.Text
