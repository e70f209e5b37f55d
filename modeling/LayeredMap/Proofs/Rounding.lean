import Mathlib
import LayeredMap.Proofs.Magnitude

/-!
# Rounding to the nearest double

A double that is neither infinite nor NaN stands for a rational number. Let the
grid be what 53 bits of mantissa reach with exponents from -1074 on, without a
bound upwards. Rounding yields a number of the grid such that no other one is
nearer. Which one of two that are equally near is taken does not matter for the
order: of two different numbers the smaller one is not rounded to the larger
result.
-/

namespace LayeredMap.Double

open Float.Model
open UnpackedFloat (Accuracy ExtendedMantissa roundWithAccuracy)

/-! ## What doubles stand for -/

/-- A magnitude with a sign. -/
def signed : UnpackedFloat.Sign → ℚ → ℚ
  | .negative, q => -q
  | .positive, q => q

/-- The number that an unpacked double stands for, if it is neither infinite nor NaN. -/
def value : UnpackedFloat → ℚ
  | .finite s m e _ => signed s (m * 2 ^ e)
  | _ => 0

@[simp] theorem value_zero (s : UnpackedFloat.Sign) : value (.zero s) = 0 := rfl

theorem abs_signed_sub (s : UnpackedFloat.Sign) (p q : ℚ) :
    |signed s p - signed s q| = |p - q| := by
  cases s with
  | positive => rfl
  | negative =>
    rw [signed, signed, neg_sub_neg]
    exact abs_sub_comm q p

theorem signed_signed (s : UnpackedFloat.Sign) (q : ℚ) : signed s (signed s q) = q := by
  cases s with
  | positive => rfl
  | negative => exact neg_neg q

theorem signed_mul (s s' : UnpackedFloat.Sign) (p q : ℚ) :
    signed (s * s') (p * q) = signed s p * signed s' q := by
  cases s <;> cases s'
  · exact (neg_mul_neg p q).symm
  · exact (neg_mul p q).symm
  · exact (mul_neg p q).symm
  · rfl

/-- What 53 bits of mantissa reach. -/
def OnGrid (g : ℚ) : Prop := ∃ n k : ℤ, |n| < 2 ^ 53 ∧ -1074 ≤ k ∧ g = n * 2 ^ k

theorem onGrid_zero : OnGrid 0 := ⟨0, 0, by decide, by decide, by simp⟩

theorem OnGrid.signed {g : ℚ} (h : OnGrid g) (s : UnpackedFloat.Sign) : OnGrid (signed s g) := by
  obtain ⟨n, k, bits, small, rfl⟩ := h
  cases s with
  | positive => exact ⟨n, k, bits, small, rfl⟩
  | negative => exact ⟨-n, k, by rwa [abs_neg], small, by simp [Double.signed]⟩

/-- Zero, or with the leading bit where the exponent has it. -/
inductive Canonical : UnpackedFloat → Prop
  | zero (s : UnpackedFloat.Sign) : Canonical (.zero s)
  | finite {s : UnpackedFloat.Sign} {m : ℕ} {e : ℤ} (pos : 0 < m)
      (leading : e = ulp (totalExponent m e)) : Canonical (.finite s m e pos)

theorem Canonical.onGrid {a : UnpackedFloat} (h : Canonical a) : OnGrid (value a) := by
  cases h with
  | zero s => exact onGrid_zero
  | @finite s m e pos leading =>
    obtain ⟨bits, small⟩ := log2_le_of_canonical leading
    have bounded : m < 2 ^ 53 := (Nat.log2_lt pos.ne').mp (by omega)
    have magnitude : OnGrid (m * 2 ^ e) :=
      ⟨m, e, by rw [Nat.abs_cast]; exact_mod_cast bounded, small, by push_cast; rfl⟩
    exact magnitude.signed s

theorem canonical_unpack {b : BitVec 64}
    (finite : (UnpackedFloat.unpack Format.binary64 b).isFinite = true) :
    Canonical (UnpackedFloat.unpack Format.binary64 b) := by
  cases shape : UnpackedFloat.unpack Format.binary64 b with
  | zero s => exact .zero s
  | finite s m e pos => exact .finite pos (unpack_canonical shape).1
  | infinity | notANumber =>
    rw [shape] at finite
    exact absurd finite Bool.false_ne_true

/-! ## Bits that are dropped -/

/-- The number lies between a mantissa and the next one, on the side of their middle that the two
bits behind the mantissa tell. -/
def Holds (em : ExtendedMantissa) (q : ℚ) : Prop :=
  match em.roundBit, em.stickyBit with
  | false, false => q = em.mantissa
  | false, true => em.mantissa < q ∧ q < em.mantissa + 1 / 2
  | true, false => q = em.mantissa + 1 / 2
  | true, true => em.mantissa + 1 / 2 < q ∧ q < em.mantissa + 1

/-- The lowest bit of the mantissa becomes the round bit, and the sticky bit keeps the old one. -/
theorem shiftRightOne_eq (half : ℕ) (odd round sticky : Bool) :
    ExtendedMantissa.shiftRightOne ⟨2 * half + odd.toNat, round, sticky⟩ =
      ⟨half, odd, round || sticky⟩ := by
  cases odd <;> simp [ExtendedMantissa.shiftRightOne, Nat.add_div]

theorem Holds.shiftRightOne {em : ExtendedMantissa} {q : ℚ} (h : Holds em q) :
    Holds em.shiftRightOne (q / 2) := by
  obtain ⟨m, round, sticky⟩ := em
  obtain ⟨half, odd, rfl⟩ : ∃ half : ℕ, ∃ odd : Bool, m = 2 * half + odd.toNat :=
    ⟨m.div2, m.bodd, by rw [add_comm, Nat.bodd_add_div2]⟩
  rw [shiftRightOne_eq]
  cases odd <;> cases round <;> cases sticky <;>
    simp only [Holds, Bool.toNat, cond_true, cond_false, Bool.or_true, Bool.or_false] at h ⊢ <;>
    push_cast at h
  all_goals grind

theorem Holds.shiftRight {em : ExtendedMantissa} {q : ℚ} (h : Holds em q) (n : ℕ) :
    Holds (em >>> n) (q / 2 ^ n) := by
  induction n with
  | zero => rwa [pow_zero, div_one]
  | succ n ih =>
    rw [pow_succ, ← div_div]
    exact ih.shiftRightOne

theorem holds_exact (m : ℕ) : Holds (.ofMantissaAndAccuracy m .exact) m := rfl

/-- The rounded mantissa is at most one half away. -/
theorem Holds.near {em : ExtendedMantissa} {q : ℚ} (h : Holds em q) :
    |q - em.roundedMantissa| ≤ 1 / 2 := by
  obtain ⟨m, round, sticky⟩ := em
  rw [abs_le]
  cases round <;> cases sticky <;>
    simp only [Holds, ExtendedMantissa.roundedMantissa, ExtendedMantissa.accuracy,
      Accuracy.roundToNearestEven] at h ⊢
  · grind
  · grind
  · obtain even | odd := Nat.mod_two_eq_zero_or_one m
    · rw [even]
      push_cast
      grind
    · rw [odd]
      push_cast
      grind
  · push_cast
    grind

/-! ## Nearest on the grid -/

/-- An integer that is at most one half away is a nearest one. -/
theorem nearest_integer {q : ℚ} {r : ℤ} (near : |q - r| ≤ 1 / 2) (j : ℤ) : |q - r| ≤ |q - j| := by
  by_cases same : j = r
  · rw [same]
  · have apart : (1 : ℚ) ≤ |(j : ℚ) - r| := by
      have distinct : 1 ≤ |j - r| := Int.one_le_abs (sub_ne_zero.mpr same)
      exact_mod_cast distinct
    have detour : |(j : ℚ) - r| ≤ |q - j| + |q - r| := by
      have := abs_sub_le (j : ℚ) q r
      rwa [abs_sub_comm (j : ℚ) q] at this
    linarith

/-- A result that is on the grid and as near to a number as anything there. -/
structure Rounds (v : ℚ) (a : UnpackedFloat) : Prop where
  canonical : Canonical a
  nearest : ∀ g, OnGrid g → |v - value a| ≤ |v - g|

theorem Canonical.rounds {a : UnpackedFloat} (h : Canonical a) : Rounds (value a) a where
  canonical := h
  nearest g _ := by
    rw [sub_self, abs_zero]
    exact abs_nonneg _

theorem rounds_zero (s : UnpackedFloat.Sign) : Rounds 0 (.zero s) := (Canonical.zero s).rounds

/-- What is on the grid is rounded to itself. -/
theorem Rounds.value_eq {v : ℚ} {a : UnpackedFloat} (h : Rounds v a) (exact_value : OnGrid v) :
    value a = v := by
  have still := h.nearest v exact_value
  rw [sub_self, abs_zero] at still
  exact (sub_eq_zero.mp (abs_nonpos_iff.mp still)).symm

/-- Of two numbers the smaller one is not rounded to the larger result. -/
theorem Rounds.value_le {v w : ℚ} {a b : UnpackedFloat} (ha : Rounds v a) (hb : Rounds w b)
    (below : v < w) : value a ≤ value b := by
  have first := ha.nearest _ hb.canonical.onGrid
  have second := hb.nearest _ ha.canonical.onGrid
  by_contra crossed
  rw [not_le] at crossed
  have middle : value a + value b ≤ 2 * v := by
    have := sq_le_sq.mpr first
    nlinarith
  have middle' : 2 * w ≤ value a + value b := by
    have := sq_le_sq.mpr second
    nlinarith
  linarith

/-- Rounding to an integer multiple of the last place is rounding to the grid, since what the grid
has below is not nearer than the power of two at the leading bit. -/
theorem nearest_on_grid {v : ℚ} {r E : ℤ} (near : |v / 2 ^ E - r| ≤ 1 / 2)
    (leading : E = -1074 ∨ 2 ^ (52 + E) ≤ v) {g : ℚ} (on_grid : OnGrid g) :
    |v - r * 2 ^ E| ≤ |v - g| := by
  have unit : (0 : ℚ) < 2 ^ E := by positivity
  have scaled (j : ℤ) : |v - j * 2 ^ E| = |v / 2 ^ E - j| * 2 ^ E := by
    rw [← abs_of_pos unit, ← abs_mul, abs_of_pos unit, sub_mul, div_mul_cancel₀ v unit.ne']
  have multiples (j : ℤ) : |v - r * 2 ^ E| ≤ |v - j * 2 ^ E| := by
    rw [scaled, scaled]
    exact mul_le_mul_of_nonneg_right (nearest_integer near j) unit.le
  obtain ⟨n, k, bits, small, rfl⟩ := on_grid
  rcases le_or_gt E k with coarse | fine
  · have multiple : (n : ℚ) * 2 ^ k = (n * 2 ^ (k - E).toNat : ℤ) * 2 ^ E := by
      have exponent : k = (k - E).toNat + E := by omega
      push_cast
      rw [mul_assoc, ← zpow_natCast, ← zpow_add₀ two_ne_zero, ← exponent]
    rw [multiple]
    exact multiples _
  · have large : (2 : ℚ) ^ (52 + E) ≤ v := leading.resolve_left (by omega)
    have magnitude : (n : ℚ) * 2 ^ k ≤ 2 ^ (52 + E) := by
      have reach : (n : ℚ) ≤ 2 ^ (53 : ℤ) := by
        have := (le_abs_self n).trans bits.le
        exact_mod_cast this
      calc
        (n : ℚ) * 2 ^ k ≤ 2 ^ (53 : ℤ) * 2 ^ k := mul_le_mul_of_nonneg_right reach (by positivity)
        _ = 2 ^ (53 + k) := (zpow_add₀ two_ne_zero _ _).symm
        _ ≤ 2 ^ (52 + E) := zpow_le_zpow_right₀ one_le_two (by omega)
    have power : (2 : ℚ) ^ (52 + E) = ((2 ^ 52 : ℤ) : ℚ) * 2 ^ E := by
      rw [zpow_add₀ two_ne_zero]
      norm_cast
    calc
      |v - r * 2 ^ E| ≤ |v - 2 ^ (52 + E)| := power ▸ multiples (2 ^ 52)
      _ = v - 2 ^ (52 + E) := abs_of_nonneg (by linarith)
      _ ≤ v - n * 2 ^ k := by linarith
      _ ≤ |v - n * 2 ^ k| := le_abs_self _

/-! ## Rounding a mantissa -/

/-- A carry moves the leading bit and nothing else. -/
theorem settled_of_carry {r : ℕ} {e₁ e₂ : ℤ} (second : e₂ = max e₁ (ulp (totalExponent r e₁)))
    (small : -1074 ≤ e₁) (top : r ≤ 2 ^ 53) (full : e₁ = -1074 ∨ 2 ^ 52 ≤ r) :
    let r' := r >>> (e₂ - e₁).toNat
    (r' : ℚ) * 2 ^ e₂ = r * 2 ^ e₁ ∧ e₂ = ulp (totalExponent r' e₂) := by
  intro r'
  rcases top.lt_or_eq with within | rfl
  · have bits : r.log2 ≤ 52 := by
      by_cases zero : r = 0
      · simp [zero]
      · exact Nat.lt_succ_iff.mp ((Nat.log2_lt zero).mpr within)
    have still : e₂ = e₁ := by
      rw [second]
      simp only [ulp, totalExponent]
      omega
    have kept : r' = r := by
      rw [show r' = r >>> (e₂ - e₁).toNat from rfl, still, sub_self]
      rfl
    have leading : e₁ = -1074 ∨ r.log2 = 52 := by
      refine full.imp_right fun high => ?_
      exact (Nat.log2_eq_iff (by omega)).mpr ⟨high, within⟩
    rw [kept, still]
    refine ⟨rfl, ?_⟩
    simp only [ulp, totalExponent]
    omega
  · have log : (2 ^ 53).log2 = 53 := by decide
    have next : e₂ = e₁ + 1 := by
      rw [second]
      simp only [ulp, totalExponent, log]
      omega
    have halved : r' = 2 ^ 52 := by
      rw [show r' = 2 ^ 53 >>> (e₂ - e₁).toNat from rfl, next, add_sub_cancel_left]
      decide
    have log' : (2 ^ 52).log2 = 52 := by decide
    rw [halved, next]
    constructor
    · rw [zpow_add₀ two_ne_zero]
      push_cast
      ring
    · simp only [ulp, totalExponent, log']
      omega

section Placed

variable {m : ℕ} {e e₁ : ℤ}

/-- Shifted to its place a mantissa has at most 53 bits, and all of them unless the exponent is the
least one. -/
theorem shifted_bits (pos : 0 < m) (place : e₁ = ulp (totalExponent m e)) (enough : e ≤ e₁) :
    m >>> (e₁ - e).toNat < 2 ^ 53 ∧ (e₁ = -1074 ∨ 2 ^ 52 ≤ m >>> (e₁ - e).toNat) := by
  simp only [ulp, totalExponent] at place
  rw [Nat.shiftRight_eq_div_pow, Nat.div_lt_iff_lt_mul (by positivity),
    Nat.le_div_iff_mul_le (by positivity), ← pow_add, ← pow_add]
  constructor
  · exact Nat.lt_log2_self.trans_le (Nat.pow_le_pow_right (by decide) (by omega))
  · by_cases least : e₁ = -1074
    · exact .inl least
    · have kept : 52 + (e₁ - e).toNat ≤ m.log2 := by omega
      exact .inr ((Nat.pow_le_pow_right (by decide) kept).trans (Nat.log2_self_le pos.ne'))

/-- The leading bit is kept unless the exponent is the least one. -/
theorem leading_le (pos : 0 < m) (place : e₁ = ulp (totalExponent m e)) :
    e₁ = -1074 ∨ (2 : ℚ) ^ (52 + e₁) ≤ m * 2 ^ e := by
  simp only [ulp, totalExponent] at place
  by_cases least : e₁ = -1074
  · exact .inl least
  · have split : 52 + e₁ = m.log2 + e := by omega
    have bit : (2 : ℚ) ^ m.log2 ≤ m := by exact_mod_cast Nat.log2_self_le pos.ne'
    rw [split, zpow_add₀ two_ne_zero, zpow_natCast]
    exact .inr (mul_le_mul_of_nonneg_right bit (by positivity))

/-- Rounding yields what is nearest, as long as it starts from enough bits. -/
theorem rounds_roundWithAccuracy (s : UnpackedFloat.Sign) (pos : 0 < m)
    (enough : e ≤ ulp (totalExponent m e)) :
    Rounds (signed s (m * 2 ^ e)) (roundWithAccuracy Format.binary64 s m e .exact) := by
  obtain ⟨r, e₁, e₂, first, rounded, low, carried, second, outcome⟩ :=
    roundWithAccuracy_cases s m e .exact
  have place : e₁ = ulp (totalExponent m e) := first.trans (max_eq_right enough)
  have small : -1074 ≤ e₁ := place ▸ le_max_right _ _
  have dropped : e₁ = (e₁ - e).toNat + e := by omega
  have value_eq : (m * 2 ^ e : ℚ) / 2 ^ e₁ = m / 2 ^ (e₁ - e).toNat := by
    rw [dropped, zpow_add₀ two_ne_zero, zpow_natCast, ← dropped]
    field_simp
  have near : |(m * 2 ^ e : ℚ) / 2 ^ e₁ - (r : ℤ)| ≤ 1 / 2 := by
    rw [value_eq, rounded, Int.cast_natCast]
    exact ((holds_exact m).shiftRight _).near
  obtain ⟨within, all_bits⟩ := shifted_bits pos place (by omega)
  have top : r ≤ 2 ^ 53 := carried.trans within
  have full : e₁ = -1074 ∨ 2 ^ 52 ≤ r := all_bits.imp_right low.trans'
  obtain ⟨same, canonical⟩ := settled_of_carry second small top full
  have nearest : ∀ g, OnGrid g → |signed s (m * 2 ^ e) - signed s (r * 2 ^ e₁)| ≤
      |signed s (m * 2 ^ e) - g| := by
    intro g on_grid
    rw [← signed_signed s g, abs_signed_sub, abs_signed_sub]
    have closest := nearest_on_grid near (leading_le pos place) (on_grid.signed s)
    rwa [Int.cast_natCast] at closest
  rcases outcome with ⟨nothing, zero⟩ | ⟨pos', finite⟩
  · have vanishes : (r : ℚ) * 2 ^ e₁ = 0 := by
      rw [← same, nothing, Nat.cast_zero, zero_mul]
    have none_left : signed s 0 = 0 := by cases s <;> simp [signed]
    rw [vanishes, none_left] at nearest
    rw [zero]
    exact ⟨.zero s, nearest⟩
  · rw [← same] at nearest
    rw [finite]
    exact ⟨.finite pos' canonical, nearest⟩

end Placed

/-- The bits that are missing are added first. -/
theorem rounds_round (s : UnpackedFloat.Sign) {m : ℕ} (pos : 0 < m) (e : ℤ) :
    Rounds (signed s (m * 2 ^ e)) (.round Format.binary64 s m e) := by
  let shift := (e - ulp (totalExponent m e)).toNat
  have rounded : UnpackedFloat.round Format.binary64 s m e =
      roundWithAccuracy Format.binary64 s (m <<< shift) (e - shift) .exact := rfl
  have total : totalExponent (m <<< shift) (e - shift) = totalExponent m e := by
    simp only [totalExponent, log2_shiftLeft pos.ne']
    omega
  have same : (m * 2 ^ e : ℚ) = (m <<< shift : ℕ) * 2 ^ (e - shift) := by
    rw [Nat.shiftLeft_eq, zpow_sub₀ two_ne_zero, zpow_natCast]
    push_cast
    field_simp
  rw [rounded, same]
  refine rounds_roundWithAccuracy s ?_ ?_
  · rw [Nat.shiftLeft_eq]
    positivity
  · rw [total]
    omega

theorem rounds_normalize (n e : ℤ) (s : UnpackedFloat.Sign) :
    Rounds (n * 2 ^ e) (.normalize Format.binary64 n e s) := by
  have whole {k : ℤ} (nonneg : 0 ≤ k) : (k : ℚ) = (k.toNat : ℕ) := by
    rw [← Int.cast_natCast, Int.toNat_of_nonneg nonneg]
  rcases lt_trichotomy n 0 with below | rfl | above
  · have rounded : UnpackedFloat.normalize Format.binary64 n e s =
        .round Format.binary64 .negative (-n).toNat e := by
      rw [UnpackedFloat.normalize, compare_lt_iff_lt.mpr below]
    have magnitude : (n * 2 ^ e : ℚ) = signed .negative ((-n).toNat * 2 ^ e) := by
      rw [← whole (by omega), signed]
      push_cast
      ring
    rw [rounded, magnitude]
    exact rounds_round .negative (by omega) e
  · rw [Int.cast_zero, zero_mul]
    exact rounds_zero s
  · have rounded : UnpackedFloat.normalize Format.binary64 n e s =
        .round Format.binary64 .positive n.toNat e := by
      rw [UnpackedFloat.normalize, compare_gt_iff_gt.mpr above]
    have magnitude : (n * 2 ^ e : ℚ) = signed .positive (n.toNat * 2 ^ e) := by
      rw [← whole above.le, signed]
    rw [rounded, magnitude]
    exact rounds_round .positive (by omega) e

end LayeredMap.Double
