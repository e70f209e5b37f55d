/-!
# Shortest decimals

The decimal with the fewest digits among those that round to a given double;
of two with as few digits the nearer one, and on a tie the even one. A double
is taken as `m · 2^q`; all comparisons are between natural numbers.
-/
namespace LayeredMap.Decimal

/-- A positive double, the ends of the interval of numbers that round to it, all over one
denominator, and whether the ends round to it too. -/
structure Rounding where
  low : Nat
  value : Nat
  high : Nat
  den : Nat
  closed : Bool

/-- The least mantissa of 53 bits. -/
def leastNormal : Nat := 0x10000000000000

/-- The gap below a power of two is half as wide as the one above. -/
def Rounding.of (m : Nat) (q : Int) : Rounding :=
  let below := if m = leastNormal ∧ -1074 < q then 1 else 2
  let num (n : Nat) : Nat := n <<< (q - 2).toNat
  { low := num (4 * m - below), value := num (4 * m), high := num (4 * m + 2)
    den := 1 <<< (2 - q).toNat, closed := m % 2 == 0 }

namespace Rounding

/-- Does `c / d`, in units of the denominator, round to the value? -/
def hits (r : Rounding) (c d : Nat) : Bool :=
  if r.closed then r.low * d ≤ c && c ≤ r.high * d else r.low * d < c && c < r.high * d

/-- The place of the leading digit of a fraction below one. -/
def leadingPlaceBelowOne (num den : Nat) : (fuel : Nat) → (k : Nat) → Nat
  | 0, k => k
  | fuel + 1, k => if den ≤ num * Nat.pow 10 k then k else leadingPlaceBelowOne num den fuel (k + 1)

/-- The exponent of the leading digit. -/
def leadingPlace (r : Rounding) : Int :=
  if r.den ≤ r.value then (Nat.toDigits 10 (r.value / r.den)).length - 1
  else -(leadingPlaceBelowOne r.value r.den 400 1 : Nat)

/-- The better of the two neighbours of the value on the grid of multiples of `10^k`. -/
def onGrid (r : Rounding) (k : Int) : Option Nat :=
  let up := Nat.pow 10 (-k).toNat
  let unit := r.den * Nat.pow 10 k.toNat
  let c := r.value * up / unit
  let below := r.value * up - c * unit
  let above := (c + 1) * unit - r.value * up
  match r.hits (c * unit) up, r.hits ((c + 1) * unit) up with
  | true, true =>
    if below < above ∨ (below = above ∧ c % 2 = 0) then some c else some (c + 1)
  | true, false => some c
  | false, true => some (c + 1)
  | false, false => none

/-- Tries grids from the coarsest on. -/
def search (r : Rounding) : (fuel : Nat) → (k : Int) → Nat × Int
  | 0, k => (r.value * Nat.pow 10 (-k).toNat / (r.den * Nat.pow 10 k.toNat), k)
  | fuel + 1, k =>
    match r.onGrid k with
    | some c => (c, k)
    | none => search r fuel (k - 1)

end Rounding

def dropZeros : (fuel : Nat) → Nat → Int → Nat × Int
  | 0, c, k => (c, k)
  | fuel + 1, c, k => if c % 10 = 0 ∧ c ≠ 0 then dropZeros fuel (c / 10) (k + 1) else (c, k)

/-- The shortest decimal `c · 10^k` for `m · 2^q`, where `m` is positive. -/
def shortest (m : Nat) (q : Int) : Nat × Int :=
  let r := Rounding.of m q
  let (c, k) := r.search 17 r.leadingPlace
  dropZeros 20 c k

/-- The mantissa and exponent of the double with the given bits, sign apart. -/
def ofBits (bits : UInt64) : Nat × Int :=
  let e : Nat := bits.toNat / leastNormal % 2048
  let f : Nat := bits.toNat % leastNormal
  if e = 0 then (f, -1074) else (leastNormal + f, (e : Int) - 1075)

end LayeredMap.Decimal
