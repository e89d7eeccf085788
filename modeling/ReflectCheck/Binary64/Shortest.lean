import ReflectCheck.Binary64.Basic

/-!
# The shortest decimal of a binary64 number

A positive finite number stands for the interval of reals that round to it: half the
gap to each neighbour on either side, both ends included when its significand is even
(a tie rounds to it then) and excluded otherwise. Its shortest decimal is the decimal
`d · 10^k` in that interval with the fewest significant digits, and of two such the one
nearer to the number (`shortestDecimal`).

Grids of decimals are tried from the coarsest that can reach the interval, `10^k` with
`k` one above the number's decimal exponent, to finer ones: on each grid only the two
points next to the number can lie in the interval, and the first grid with a point in
it gives the fewest digits. Seventeen significant digits always reach the interval, so
twenty grids suffice. No two grid points are ever equally near: a number of the format
is never the midpoint of a grid its interval holds two points of.

A number is shown in plain decimal, without an exponent: its shortest digits, padded
with zeros to the point, `.0` added when no point is written, a sign for negative
numbers and the negative zero, and `inf`, `-inf` and `NaN` for the others (`display`).
-/

namespace ReflectCheck

namespace Binary64

/-- `⌊log₁₀ (num / den)⌋` of positive `num` and `den`: the quotient lies between
    `10^(k - 1)` and `10^(k + 1)` for `k` the difference of their digit counts, and one
    comparison decides. -/
def floorLog10 (num den : Nat) : Int :=
  let k : Int := (decimalLength num : Int) - (decimalLength den : Int)
  let reached := if 0 ≤ k then den * tenPow k.toNat ≤ num else den ≤ num * tenPow (-k).toNat
  if reached then k else k - 1

/-- Compare `g · 10^k` with `x · 2^j` exactly. -/
def compareScaled (g : Nat) (k : Int) (x : Nat) (j : Int) : Ordering :=
  let lhs := g * tenPow k.toNat * twoPow (-j).toNat
  let rhs := x * twoPow j.toNat * tenPow (-k).toNat
  Ord.compare lhs rhs

/-- The interval of a positive finite number `m · 2^e`, in units of `2^(e - 2)`: its low
    end, its high end, and whether the ends belong to it. The gap below is half as wide
    at the least significand of an exponent above the least. -/
def roundingInterval (m : Nat) (e : Int) : Nat × Nat × Bool :=
  let below := if m = twoPow 52 && minExponent < e then 1 else 2
  (4 * m - below, 4 * m + 2, m % 2 = 0)

/-- Whether `g · 10^k` lies in the interval of `m · 2^e`. -/
def inInterval (m : Nat) (e : Int) (g : Nat) (k : Int) : Bool :=
  let (lo, hi, closed) := roundingInterval m e
  let j := e - 2
  match compareScaled g k lo j, compareScaled g k hi j with
  | .gt, .lt => true
  | .eq, _ => closed
  | _, .eq => closed
  | _, _ => false

/-- Drop the trailing zeros of `d · 10^k`, raising `k`. -/
def trimZeros (d : Nat) (k : Int) : (fuel : Nat) → Nat × Int
  | 0 => (d, k)
  | fuel + 1 => if d ≠ 0 && d % 10 = 0 then trimZeros (d / 10) (k + 1) fuel else (d, k)

/-- Search grids `10^k`, `10^(k-1)`, … for the point of the interval of `m · 2^e`
    nearest to it, on the first grid that has one in the interval. -/
def searchGrids (m : Nat) (e : Int) (k : Int) : (fuel : Nat) → Option (Nat × Int)
  | 0 => none
  | fuel + 1 =>
    -- `m · 2^e / 10^k` as a fraction, its floor and its remainder
    let num := 4 * m * twoPow (e - 2).toNat * tenPow (-k).toNat
    let den := twoPow (2 - e).toNat * tenPow k.toNat
    let below := num / den
    let r := num % den
    let lowIn := inInterval m e below k
    let highIn := inInterval m e (below + 1) k
    if r = 0 && lowIn then some (below, k)
    else if lowIn && highIn then some (if 2 * r < den then below else below + 1, k)
    else if lowIn then some (below, k)
    else if highIn then some (below + 1, k)
    else searchGrids m e (k - 1) fuel

/-- The shortest decimal `d · 10^k` of a positive finite number `m · 2^e`, with no
    trailing zero in `d`. -/
def shortestDecimal (m : Nat) (e : Int) : Nat × Int :=
  let (a, b) := magnitudeFraction m e
  match searchGrids m e (floorLog10 a b + 1) 20 with
  | some (d, k) => trimZeros d k (decimalLength d)
  | none => (m, 0)

/-- The plain decimal text of `d · 10^k`. -/
def plainDecimal (d : Nat) (k : Int) : String :=
  let ds := Nat.toDigits 10 d
  if 0 ≤ k then String.ofList (ds ++ List.replicate k.toNat '0')
  else
    let shift := (-k).toNat
    if shift < ds.length then
      String.ofList (ds.take (ds.length - shift) ++ '.' :: ds.drop (ds.length - shift))
    else String.ofList ('0' :: '.' :: List.replicate (shift - ds.length) '0' ++ ds)

/-- The number in plain decimal: the shortest digits, `.0` added when no point is
    written, and `inf`, `-inf` and `NaN` for the numbers that are not finite. -/
def display : Binary64 → String
  | .finite negative m e =>
    let body := if m = 0 then "0" else
      let (d, k) := shortestDecimal m e
      plainDecimal d k
    let body := if body.contains '.' then body else body ++ ".0"
    if negative then "-" ++ body else body
  | .infinite negative => if negative then "-inf" else "inf"
  | .nan => "NaN"

end Binary64

end ReflectCheck
