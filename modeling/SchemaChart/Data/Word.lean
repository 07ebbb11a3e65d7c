-- Machine words of 64 bits. A word is a number below `2 ^ 64`; a result that is none is a fault
-- where arithmetic is checked, and is taken modulo `2 ^ 64` where it is not.
import SchemaChart.Fault

namespace SchemaChart.Data

/-- What becomes of results that do not fit into a word. -/
inductive Arithmetic where
  | checked
  | wrapping
deriving Repr, DecidableEq

namespace Arithmetic

/-- A result that does not fit. -/
def overflow (a : Arithmetic) (wrapped : Nat) : Except Fault Nat :=
  match a with
  | checked => .error .overflow
  | wrapping => .ok (wrapped % Nat.pow 2 64)

/-- The sum of two words. -/
def add (a : Arithmetic) (m n : Nat) : Except Fault Nat :=
  if m + n < Nat.pow 2 64 then .ok (m + n) else a.overflow (m + n)

/-- The difference of two words. -/
def sub (a : Arithmetic) (m n : Nat) : Except Fault Nat :=
  if n ≤ m then .ok (m - n) else a.overflow (Nat.pow 2 64 + m - n)

end Arithmetic

end SchemaChart.Data
