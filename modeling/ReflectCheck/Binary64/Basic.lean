/-!
# Binary64 numbers

A binary64 number is a number of the double-precision format of IEEE 754: a sign and
either a finite magnitude `m · 2^e`, with a significand `m` of at most 53 bits and an
exponent `e` from `-1074` to `971`, an infinity, or not a number.

Every value here is computed exactly, in natural numbers, and then rounded: a number
is read as the binary64 number nearest to its exact value, a tie going to the even
significand, and a magnitude that rounds past the greatest finite one becomes an
infinity (`ofFraction`, `ofDecimal`). Sums and quotients are the exact sum or quotient
of the operands, rounded the same way (`add`, `div`), and numbers compare by their
exact values (`lt`), so that no two ways of computing a result can differ.
-/

namespace ReflectCheck

/-- A binary64 number. -/
inductive Binary64 where
  /-- `±significand · 2^exponent`: the significand below `2^53`, the exponent from
      `-1074` to `971`, and the significand at least `2^52` unless the exponent is
      `-1074` (so every finite number has one form, zeros included). -/
  | finite (negative : Bool) (significand : Nat) (exponent : Int)
  /-- An infinity. -/
  | infinite (negative : Bool)
  /-- Not a number. -/
  | nan
  deriving DecidableEq, Inhabited

namespace Binary64

/-- The least exponent: that of the zeros and the numbers below `2^-1022`. -/
def minExponent : Int := -1074

/-- The greatest exponent of a finite number. -/
def maxExponent : Int := 971

/-- `2^n`. -/
def twoPow (n : Nat) : Nat := Nat.pow 2 n

/-- `10^n`. -/
def tenPow (n : Nat) : Nat := Nat.pow 10 n

/-- A zero of a sign. -/
def zero (negative : Bool) : Binary64 := .finite negative 0 minExponent

/-- The fraction `num / den` divided by `2^e`, as a numerator and a denominator. -/
def shiftFraction (num den : Nat) (e : Int) : Nat × Nat :=
  if 0 ≤ e then (num, den * twoPow e.toNat) else (num * twoPow (-e).toNat, den)

/-- The quotient `num / den` rounded to the nearest whole number, a tie to the even one. -/
def divRound (num den : Nat) : Nat :=
  let q := num / den
  let r := num % den
  if 2 * r < den then q
  else if den < 2 * r then q + 1
  else if q % 2 = 0 then q
  else q + 1

/-- `⌊log₂ (num / den)⌋` of positive `num` and `den`: the quotient lies between
    `2^(k - 1)` and `2^(k + 1)` for `k` the difference of their logarithms, and one
    comparison decides. -/
def floorLog2 (num den : Nat) : Int :=
  let k : Int := (Nat.log2 num : Int) - (Nat.log2 den : Int)
  let (a, b) := shiftFraction num den k
  if b ≤ a then k else k - 1

/-- The binary64 number nearest to `±num / den` (with `den > 0`): the exponent puts the
    significand's leading bit at bit 52 (or is the least one), the quotient is rounded,
    and a significand carried to `2^53` moves up one exponent. -/
def ofFraction (negative : Bool) (num den : Nat) : Binary64 :=
  if num = 0 then zero negative
  else
    let e := max (floorLog2 num den - 52) minExponent
    let (a, b) := shiftFraction num den e
    let m := divRound a b
    let (m, e) : Nat × Int := if m = twoPow 53 then (twoPow 52, e + 1) else (m, e)
    if maxExponent < e then .infinite negative else .finite negative m e

/-- The binary64 number nearest to a natural number. -/
def ofNat (n : Nat) : Binary64 := ofFraction false n 1

/-- The number of decimal digits of a natural number (one for zero). -/
def decimalLength (n : Nat) : Nat := (Nat.toDigits 10 n).length

/-- The binary64 number nearest to `±digits · 10^exponent`. A value of more than 310
    integer digits is beyond the greatest finite number, and one below `10^-330` is
    below half the least positive number, so those are decided without computing. -/
def ofDecimal (negative : Bool) (digits : Nat) (exponent : Int) : Binary64 :=
  let size := (decimalLength digits : Int) + exponent
  if digits = 0 then zero negative
  else if 310 < size then .infinite negative
  else if size < -330 then zero negative
  else if 0 ≤ exponent then ofFraction negative (digits * tenPow exponent.toNat) 1
  else ofFraction negative digits (tenPow (-exponent).toNat)

/-- The magnitude `m · 2^e` as a fraction. -/
def magnitudeFraction (m : Nat) (e : Int) : Nat × Nat := shiftFraction m 1 (-e)

/-- The sum of two numbers: the exact sum rounded, an exact zero being negative only
    when both operands are; infinities of one sign stay, of two signs give no number. -/
def add : Binary64 → Binary64 → Binary64
  | .nan, _ => .nan
  | _, .nan => .nan
  | .infinite s, .infinite t => if s = t then .infinite s else .nan
  | .infinite s, .finite _ _ _ => .infinite s
  | .finite _ _ _, .infinite t => .infinite t
  | .finite s m e, .finite t n f =>
    let g := min e f
    let x : Int := (if s then -1 else 1) * (m * twoPow (e - g).toNat : Nat)
    let y : Int := (if t then -1 else 1) * (n * twoPow (f - g).toNat : Nat)
    let sum := x + y
    if sum = 0 then zero (s && t)
    else
      let (num, den) := magnitudeFraction sum.natAbs g
      ofFraction (sum < 0) num den

/-- The quotient of two numbers: the exact quotient rounded; a nonzero number over zero
    is an infinity, and zero over zero or an infinity over an infinity is no number. -/
def div : Binary64 → Binary64 → Binary64
  | .nan, _ => .nan
  | _, .nan => .nan
  | .infinite _, .infinite _ => .nan
  | .infinite s, .finite t _ _ => .infinite (s != t)
  | .finite s _ _, .infinite t => zero (s != t)
  | .finite s m e, .finite t n f =>
    if n = 0 then (if m = 0 then .nan else .infinite (s != t))
    else if m = 0 then zero (s != t)
    else
      let (a, b) := magnitudeFraction m e
      let (c, d) := magnitudeFraction n f
      ofFraction (s != t) (a * d) (b * c)

/-- The signed exact value of a finite number as an integer numerator over a common
    denominator `2^1074`. -/
def scaled (negative : Bool) (m : Nat) (e : Int) : Int :=
  (if negative then -1 else 1) * (m * twoPow (e - minExponent).toNat : Nat)

/-- Whether one number is less than another: finite numbers by their exact values (the
    two zeros are equal), an infinity beyond every finite number, and nothing is less
    or greater than a non-number. -/
def lt : Binary64 → Binary64 → Bool
  | .nan, _ => false
  | _, .nan => false
  | .infinite s, .infinite t => s && !t
  | .infinite s, .finite _ _ _ => s
  | .finite _ _ _, .infinite t => !t
  | .finite s m e, .finite t n f => decide (scaled s m e < scaled t n f)

end Binary64

end ReflectCheck
