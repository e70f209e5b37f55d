/-!
# Numerals

The parts of a written number: sign, whole digits, and perhaps a fraction and
an exponent. A numeral is read in two steps that can lose accuracy: as many
digits as fit into 64 bits are collected, and the double nearest to them is
scaled by a power of ten, by at most 308 places at a time. Digits that do not
fit count for nothing but their place. A number beyond the doubles cannot be
read.
-/
namespace LayeredMap

/-- What a number in a document is: whole numbers are kept apart from doubles. -/
inductive Number where
  | integer (n : Int)
  | real (x : Float)
  deriving DecidableEq

def Number.toFloat : Number → Float
  | .integer n => Float.ofInt n
  | .real x => x

structure Numeral where
  negative : Bool
  whole : List Nat
  fraction : Option (List Nat)
  exponent : Option Int
  deriving DecidableEq

namespace Numeral

def digits (cs : List Char) : List Nat × List Char :=
  ((cs.takeWhile Char.isDigit).map (·.toNat - '0'.toNat), cs.dropWhile Char.isDigit)

def decimalValue (ds : List Nat) : Nat := ds.foldl (10 * · + ·) 0

/-- One digit or more. -/
def digits₁ (cs : List Char) : Option (List Nat × List Char) :=
  match digits cs with
  | ([], _) => none
  | r => some r

/-- The digits before the point; a zero stands alone. -/
def scanWhole (cs : List Char) : Option (List Nat × List Char) :=
  match digits cs with
  | ([], _) => none
  | (0 :: _ :: _, _) => none
  | r => some r

def scanFraction : List Char → Option (Option (List Nat) × List Char)
  | '.' :: cs => (digits₁ cs).map fun (ds, rest) => (some ds, rest)
  | cs => some (none, cs)

def scanPower (cs : List Char) : Option (Option Int × List Char) :=
  match cs with
  | '-' :: cs => (digits₁ cs).map fun (ds, rest) => (some (-(decimalValue ds : Int)), rest)
  | '+' :: cs => (digits₁ cs).map fun (ds, rest) => (some (decimalValue ds : Int), rest)
  | cs => (digits₁ cs).map fun (ds, rest) => (some (decimalValue ds : Int), rest)

def scanExponent : List Char → Option (Option Int × List Char)
  | 'e' :: cs | 'E' :: cs => scanPower cs
  | cs => some (none, cs)

/-- The longest numeral at the start of a text, with what follows it. -/
def scan (cs : List Char) : Option (Numeral × List Char) := do
  let (negative, cs) := match cs with
    | '-' :: rest => (true, rest)
    | _ => (false, cs)
  let (whole, cs) ← scanWhole cs
  let (fraction, cs) ← scanFraction cs
  let (exponent, cs) ← scanExponent cs
  return ({ negative, whole, fraction, exponent }, cs)

/-! ### What is left of the text -/

theorem length_digits_le (cs : List Char) : (digits cs).2.length ≤ cs.length :=
  (List.dropWhile_suffix Char.isDigit).length_le

theorem length_le_of_digits₁ {cs rest : List Char} {ds : List Nat}
    (h : digits₁ cs = some (ds, rest)) : rest.length ≤ cs.length := by
  have := length_digits_le cs
  unfold digits₁ at h
  grind

theorem length_lt_of_scanWhole {cs rest : List Char} {ds : List Nat}
    (h : scanWhole cs = some (ds, rest)) : rest.length < cs.length := by
  cases cs with
  | nil => simp [scanWhole, digits] at h
  | cons c cs =>
    by_cases hc : c.isDigit
    · have := (List.dropWhile_suffix (l := cs) Char.isDigit).length_le
      have hd : (digits (c :: cs)).2 = cs.dropWhile Char.isDigit := by simp [digits, hc]
      unfold scanWhole at h
      grind
    · simp [scanWhole, digits, hc] at h

theorem length_le_of_scanFraction {cs rest : List Char} {f : Option (List Nat)}
    (h : scanFraction cs = some (f, rest)) : rest.length ≤ cs.length := by
  unfold scanFraction at h
  split at h
  · obtain ⟨⟨ds, r⟩, hr, h⟩ := Option.map_eq_some_iff.1 h
    have := length_le_of_digits₁ hr
    simp_all
    omega
  · simp_all

theorem length_le_of_scanPower {cs rest : List Char} {e : Option Int}
    (h : scanPower cs = some (e, rest)) : rest.length ≤ cs.length := by
  unfold scanPower at h
  split at h <;> obtain ⟨⟨ds, r⟩, hr, h⟩ := Option.map_eq_some_iff.1 h <;>
    have := length_le_of_digits₁ hr <;> simp_all <;> omega

theorem length_le_of_scanExponent {cs rest : List Char} {e : Option Int}
    (h : scanExponent cs = some (e, rest)) : rest.length ≤ cs.length := by
  unfold scanExponent at h
  split at h
  · have := length_le_of_scanPower h
    simp
    omega
  · have := length_le_of_scanPower h
    simp
    omega
  · simp_all

theorem length_lt_of_scan {cs rest : List Char} {n : Numeral} (h : scan cs = some (n, rest)) :
    rest.length < cs.length := by
  unfold scan at h
  simp only [Option.bind_eq_bind, Option.bind_eq_some_iff] at h
  obtain ⟨⟨whole, r₁⟩, h₁, ⟨f, r₂⟩, h₂, ⟨e, r₃⟩, h₃, h⟩ := h
  have := length_lt_of_scanWhole h₁
  have := length_le_of_scanFraction h₂
  have := length_le_of_scanExponent h₃
  split at * <;> simp_all <;> omega

/-! ### Values -/

/-- Appends digits to a number while it stays below 2⁶⁴, and counts them. -/
def absorb : Nat → List Nat → Nat × Nat
  | n, [] => (n, 0)
  | n, d :: ds =>
    if 10 * n + d < 0x10000000000000000 then
      let (m, k) := absorb (10 * n + d) ds
      (m, k + 1)
    else (n, 0)

def powerOfTen (n : Nat) : Float := Float.ofScientific 1 false n

/-- Multiplies by a power of ten. -/
def scale (x : Float) (e : Int) : Option Float :=
  if e.natAbs ≤ 308 then
    if 0 ≤ e then
      let y := x * powerOfTen e.natAbs
      if y.isInf then none else some y
    else some (x / powerOfTen e.natAbs)
  else if x == 0.0 then some x
  else if 0 ≤ e then none
  else scale (x / powerOfTen 308) (e + 308)
termination_by e.natAbs
decreasing_by omega

def read (n : Numeral) : Option Number :=
  let (m, kept) := absorb 0 n.whole
  let dropped := n.whole.length - kept
  if dropped = 0 ∧ n.fraction = none ∧ n.exponent = none then
    if n.negative then
      if 0 < m ∧ m ≤ 0x8000000000000000 then some (.integer (-m))
      else some (.real (-(Float.ofNat m)))
    else some (.integer m)
  else
    let (m, places) := absorb m (n.fraction.getD [])
    let e := (dropped : Int) - places + n.exponent.getD 0
    (scale (Float.ofNat m) e).map fun x => .real (if n.negative then -x else x)

end Numeral

end LayeredMap
