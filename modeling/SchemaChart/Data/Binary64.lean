-- Binary floating-point numbers of 64 bits, in exact integer arithmetic: rounding, reading from
-- decimals, products and quotients, and the shortest decimal that reads back.

namespace SchemaChart.Data

/-- A binary floating-point number of 64 bits. A finite one is its mantissa times two to its
exponent; the mantissa has 53 bits, or fewer at the least exponent. -/
inductive Binary64 where
  | finite (negative : Bool) (mantissa : Nat) (exponent : Int)
  | infinite (negative : Bool)
  | nan
deriving Repr, DecidableEq, Inhabited

namespace Binary64

/-- The least exponent. -/
def minExponent : Int := -1074

/-- The greatest exponent. -/
def maxExponent : Int := 971

def zero (negative : Bool) : Binary64 := finite negative 0 minExponent

/-! ## Rounding -/

/-- A quotient rounded to the nearest integer; a half goes to the even neighbour. -/
def roundDiv (n d : Nat) : Nat :=
  let q := n / d
  let r := n % d
  if 2 * r > d || (2 * r == d && q % 2 == 1) then q + 1 else q

/-- Two to the power `e` as a fraction. -/
def powerOfTwo (e : Int) : Nat × Nat :=
  if e ≥ 0 then (Nat.pow 2 e.toNat, 1) else (1, Nat.pow 2 (-e).toNat)

/-- The quotient `n / d` in units of two to the power `e`, rounded. -/
def scaled (n d : Nat) (e : Int) : Nat :=
  let (up, down) := powerOfTwo e
  roundDiv (n * down) (d * up)

/-- The number nearest to the quotient `n / d`; a half goes to the even neighbour. -/
def round (negative : Bool) (n d : Nat) : Binary64 :=
  if n == 0 || d == 0 then zero negative
  else
    let guess : Int := (Nat.log2 n : Int) - (Nat.log2 d : Int) - 53
    let start := max guess minExponent
    let e := if scaled n d start < Nat.pow 2 53 then start else start + 1
    let e := if scaled n d e < Nat.pow 2 53 then e else e + 1
    let m := scaled n d e
    if e > maxExponent then infinite negative else finite negative m e

/-- The number nearest to a natural number. -/
def ofNat (n : Nat) : Binary64 := round false n 1

/-- The number nearest to an integer. -/
def ofInt (n : Int) : Binary64 := round (n < 0) n.natAbs 1

/-- The number of decimal digits of a natural number. -/
def digitCount (n : Nat) : Nat := (Nat.toDigits 10 n).length

/-- The number nearest to `digits` times ten to the power `e`. Powers that are far out of range
are not computed. -/
def ofDecimal (negative : Bool) (digits : Nat) (e : Int) : Binary64 :=
  let size : Int := e + digitCount digits
  if digits == 0 || size < -400 then zero negative
  else if size > 400 then infinite negative
  else if e ≥ 0 then round negative (digits * Nat.pow 10 e.toNat) 1
  else round negative digits (Nat.pow 10 (-e).toNat)

/-- The product, rounded. -/
def mul : Binary64 → Binary64 → Binary64
  | finite s m e, finite t n f =>
    let (up, down) := powerOfTwo (e + f)
    round (s != t) (m * n * up) down
  | finite s m _, infinite t => if m == 0 then nan else infinite (s != t)
  | infinite s, finite t m _ => if m == 0 then nan else infinite (s != t)
  | infinite s, infinite t => infinite (s != t)
  | nan, _ => nan
  | _, nan => nan

/-- The quotient by a finite number other than zero, rounded. -/
def div : Binary64 → Binary64 → Binary64
  | finite s m e, finite t n f =>
    let (up, down) := powerOfTwo (e - f)
    round (s != t) (m * up) (n * down)
  | infinite s, finite t _ _ => infinite (s != t)
  | _, _ => nan

def isZero : Binary64 → Bool
  | finite _ m _ => m == 0
  | _ => false

/-- Ten to the power `n`, rounded. -/
def powerOfTen (n : Nat) : Binary64 := ofNat (Nat.pow 10 n)

/-- A number times ten to the power `e`, with one product or quotient if the power is in range.
The first argument bounds the steps that a power far below needs. -/
def shift : Nat → Binary64 → Int → Binary64
  | 0, x, _ => x
  | n + 1, x, e =>
    if e.natAbs ≤ 308 then
      if e ≥ 0 then x.mul (powerOfTen e.natAbs) else x.div (powerOfTen e.natAbs)
    else if x.isZero then x
    else if e > 0 then x.mul (infinite false)
    else shift n (x.div (powerOfTen 308)) (e + 308)

/-! ## The shortest decimal -/

/-- Drops zeros at the end of a number; each raises the power of ten. -/
def dropZeros : Nat → Nat → Int → Nat × Int
  | 0, n, p => (n, p)
  | k + 1, n, p => if n != 0 && n % 10 == 0 then dropZeros k (n / 10) (p + 1) else (n, p)

/-- The power of ten of the first digit of `n / d`, which is below one: how often it has to be
multiplied by ten to reach one. The first argument bounds the search. -/
def leadingPower : Nat → Nat → Nat → Int → Int
  | 0, _, _, p => p
  | k + 1, n, d, p => if n ≥ d then p else leadingPower k (n * 10) d (p - 1)

/-- Of the two neighbours of `value / d` on the grid of multiples of ten to the power `p`, the
nearer one that lies between `low / d` and `high / d`, the ends counting if `closed`. -/
def onGrid? (low value high d : Nat) (closed : Bool) (p : Int) : Option Nat :=
  let (up, down) := if p ≥ 0 then (Nat.pow 10 p.toNat, 1) else (1, Nat.pow 10 (-p).toNat)
  let unit := d * up
  let inside (c : Nat) : Bool :=
    let x := c * unit
    if closed then low * down ≤ x && x ≤ high * down else low * down < x && x < high * down
  let below := value * down / unit
  let above := below + 1
  let aboveNearer := above * unit - value * down < value * down - below * unit
  match inside below, inside above with
  | true, true => some (if aboveNearer then above else below)
  | true, false => some below
  | false, true => some above
  | false, false => none

/-- The first grid, from the one with power `p` down, on which a decimal reads back. -/
def shortestFrom (low value high d : Nat) (closed : Bool) : Nat → Int → Nat × Int
  | 0, p => (value / d, p)
  | k + 1, p =>
    match onGrid? low value high d closed p with
    | some c => dropZeros 20 c p
    | none => shortestFrom low value high d closed k (p - 1)

/-- The decimal with the fewest digits that reads back as mantissa `m` and exponent `e`, and of
those the nearest: its digits and the power of ten of the last one. -/
def shortest (m : Nat) (e : Int) : Nat × Int :=
  if m == 0 then (0, 0)
  else
    let (up, down) := powerOfTwo (e - 2)
    let gap := if m == Nat.pow 2 52 && e > minExponent then 1 else 2
    let value := 4 * m * up
    let p : Int :=
      if value ≥ down then (digitCount (value / down) : Int) - 1 else leadingPower 400 value down 0
    shortestFrom ((4 * m - gap) * up) value ((4 * m + 2) * up) down (m % 2 == 0) 20 p

end Binary64

end SchemaChart.Data
