import LayeredMap.Decimal.Numeral
import LayeredMap.Proofs.Magnitude

/-!
# Numbers that are read are finite

A numeral is read as a whole number below 2⁶⁴ times or divided by powers of ten.
What is multiplied is refused if it is infinite, and what is divided by ten or
more stays finite. So a number in a document is finite, however it is written.
-/

namespace LayeredMap

namespace Double

open Float.Model
open UnpackedFloat (roundWithAccuracy)

variable {x y : Float}

theorem isFinite_of_upTo {k : ℤ} {a : UnpackedFloat} (h : UpTo k a) : a.isFinite = true := by
  cases h <;> rfl

theorem upTo_of_isFinite (h : x.isFinite = true) : UpTo 971 x.toModel.unpack := by
  have finite : x.toModel.unpack.isFinite = true := h
  cases shape : x.toModel.unpack with
  | zero s => exact .zero s
  | finite s m e pos => exact .finite pos (unpack_bounds shape).2.2
  | _ =>
    rw [shape] at finite
    exact absurd finite Bool.false_ne_true

/-- What is rounded and packed is a number, if perhaps an infinite one. -/
theorem isFinite_of_not_isInf {k : ℤ} {a : UnpackedFloat} (h : UpTo k a)
    (bounded : (UnpackedFloat.unpack Format.binary64 (a.pack Format.binary64)).isInf = false) :
    (UnpackedFloat.unpack Format.binary64 (a.pack Format.binary64)).isFinite = true := by
  cases h with
  | zero s => exact isFinite_of_upTo (upTo_unpack_pack (.zero s) (le_refl (-1074)) (by decide))
  | @finite s m e pos within =>
    by_cases small : e ≤ 971
    · exact isFinite_of_upTo (upTo_unpack_pack (.finite pos small) (by decide) le_rfl)
    · rw [unpack_pack_of_overflow s pos (by omega)] at bounded
      exact absurd bounded.symm Bool.false_ne_true

theorem upTo_mul {k l : ℤ} (hx : UpTo k x.toModel.unpack) (hy : UpTo l y.toModel.unpack) :
    UpTo (max (k + l) (ulp (k + l + 107)))
      (UnpackedFloat.mul Format.binary64 x.toModel.unpack y.toModel.unpack) := by
  generalize first : x.toModel.unpack = a at hx
  generalize second : y.toModel.unpack = b at hy
  cases hx with
  | zero s => cases hy <;> exact .zero _
  | @finite s m e pos within =>
    cases hy with
    | zero s' => exact .zero _
    | @finite s' m' e' pos' within' =>
      have bits : m * m' < 2 ^ 53 * 2 ^ 53 :=
        Nat.mul_lt_mul'' (unpack_bounds first).1 (unpack_bounds second).1
      have leading : (m * m').log2 < 106 := (Nat.log2_lt (Nat.mul_pos pos pos').ne').mpr bits
      refine (upTo_roundWithAccuracy (s * s') (m * m') (e + e') .exact).mono ?_
      simp only [ulp, totalExponent]
      omega

theorem isFinite_mul (hx : x.isFinite = true) (hy : y.isFinite = true)
    (bounded : (x * y).isInf = false) : (x * y).isFinite = true :=
  isFinite_of_not_isInf (upTo_mul (upTo_of_isFinite hx) (upTo_of_isFinite hy)) bounded

/-! ## Quotients -/

theorem log2_div_le {m n : ℕ} (pos : 0 < n) : (m / n).log2 ≤ m.log2 - n.log2 := by
  by_cases zero : m / n = 0
  · simp [zero]
  · have bound : m < 2 ^ (m.log2 - n.log2 + 1) * n := by
      calc
        m < 2 ^ (m.log2 + 1) := Nat.lt_log2_self
        _ ≤ 2 ^ (m.log2 - n.log2 + 1 + n.log2) := Nat.pow_le_pow_right (by decide) (by omega)
        _ = 2 ^ (m.log2 - n.log2 + 1) * 2 ^ n.log2 := pow_add ..
        _ ≤ _ := Nat.mul_le_mul_left _ (Nat.log2_self_le pos.ne')
    have below : m / n < 2 ^ (m.log2 - n.log2 + 1) := (Nat.div_lt_iff_lt_mul pos).mpr bound
    exact Nat.lt_succ_iff.mp ((Nat.log2_lt zero).mpr below)

/-- At least eight, not counting the sign, and finite. -/
inductive Large : UnpackedFloat → Prop
  | finite {s : UnpackedFloat.Sign} {m : ℕ} {e : ℤ} (pos : 0 < m)
      (large : 4 ≤ totalExponent m e) : Large (.finite s m e pos)

theorem Large.isFinite {a : UnpackedFloat} (h : Large a) : a.isFinite = true := by
  cases h
  rfl

instance : DecidablePred Large
  | .finite _ m e pos => decidable_of_iff (4 ≤ totalExponent m e)
      ⟨.finite pos, fun h => by cases h; assumption⟩
  | .zero _ | .infinity _ | .notANumber => .isFalse nofun

/-- Dividing by a large number does not lead beyond the doubles. -/
theorem isFinite_div (hx : x.isFinite = true) (hy : Large y.toModel.unpack) :
    (x / y).isFinite = true := by
  generalize divisor : y.toModel.unpack = b at hy
  obtain @⟨s', m', e', pos', large⟩ := hy
  have quotient :
      UpTo 971 (UnpackedFloat.div Format.binary64 x.toModel.unpack y.toModel.unpack) := by
    have hx := upTo_of_isFinite hx
    rw [divisor]
    generalize dividend : x.toModel.unpack = a at hx
    cases hx with
    | zero s => exact .zero _
    | @finite s m e pos _ =>
      obtain ⟨bits, -, small⟩ := unpack_bounds dividend
      have leading : m.log2 < 53 := (Nat.log2_lt pos.ne').mpr bits
      let place := min (e - e') (ulp (totalExponent m e - totalExponent m' e'))
      let q := m <<< (e - e' - place).toNat / m'
      have rounded : UnpackedFloat.div Format.binary64 (.finite s m e pos) (.finite s' m' e' pos') =
          roundWithAccuracy Format.binary64 (s / s') q place
            (UnpackedFloat.accuracyOfFraction (m <<< (e - e' - place).toNat % m') m') := rfl
      have size : q.log2 ≤ m.log2 + (e - e' - place).toNat - m'.log2 := by
        rw [← log2_shiftLeft pos.ne']
        exact log2_div_le pos'
      rw [rounded]
      refine (upTo_roundWithAccuracy _ q place _).mono ?_
      simp only [ulp, totalExponent, place] at size large ⊢
      omega
  exact isFinite_of_upTo (upTo_unpack_pack quotient (by decide) le_rfl)

/-! ## Whole numbers and powers of ten -/

theorem isFinite_of_model {k : ℤ} {a : UnpackedFloat} (h : UpTo k a) (large : k ≤ 971) :
    (Float.ofModel (.pack a)).isFinite = true :=
  isFinite_of_upTo (upTo_unpack_pack (h.mono large) (by decide) le_rfl)

/-- A whole number below 2⁶⁴ as a double. -/
theorem upTo_ofNat {n : ℕ} (h : n < 2 ^ 64) : UpTo 12 (UnpackedFloat.ofNat Format.binary64 n) := by
  have normalized : UnpackedFloat.ofNat Format.binary64 n =
      UnpackedFloat.normalize Format.binary64 n 0 .positive := rfl
  rw [normalized, UnpackedFloat.normalize]
  rcases Nat.eq_zero_or_pos n with rfl | pos
  · exact .zero _
  · have above : compare (n : ℤ) 0 = .gt := compare_gt_iff_gt.mpr (by omega)
    have leading : n.log2 < 64 := (Nat.log2_lt pos.ne').mpr h
    rw [above]
    let shift := ((0 : ℤ) - ulp (totalExponent n 0)).toNat
    have rounded : UnpackedFloat.round Format.binary64 .positive (n : ℤ).toNat 0 =
        roundWithAccuracy Format.binary64 .positive (n <<< shift) (0 - shift) .exact := rfl
    show UpTo 12 (UnpackedFloat.round Format.binary64 .positive (n : ℤ).toNat 0)
    rw [rounded]
    refine (upTo_roundWithAccuracy .positive _ _ _).mono ?_
    simp only [totalExponent, log2_shiftLeft pos.ne', ulp]
    omega

theorem ofScientific_eq {m k : ℕ} (pos : m ≠ 0) (small : k ≤ 2048) :
    UnpackedFloat.ofScientific Format.binary64 m (Int.ofNat k) =
      roundWithAccuracy Format.binary64 .positive (m <<< 53 * 10 ^ k) (-53) .exact := by
  have not_huge : ¬ (Int.ofNat k > 2 ^ Format.binary64.exponentBits) := by
    show ¬ ((k : ℤ) > 2048)
    omega
  have not_tiny : ¬ (Int.ofNat k < -((2 ^ Format.binary64.exponentBits : ℤ) + m.log2)) := by
    show ¬ ((k : ℤ) < -(2048 + (m.log2 : ℤ)))
    omega
  have whole : 0 ≤ Int.ofNat k := Int.natCast_nonneg k
  rw [UnpackedFloat.ofScientific, dif_neg pos, if_neg not_huge, if_neg not_tiny, if_pos whole]
  rfl

/-- A numeral starts from a finite double. -/
theorem isFinite_ofNat {n : ℕ} (h : n < 2 ^ 64) : (Float.ofNat n).isFinite = true := by
  by_cases exact_bits : n < 2 ^ 53
  · have converted : Float.ofNat n = n.toUInt64.toFloat * Float.ofBits 0x3FF0000000000000 :=
      dif_pos ⟨exact_bits, by decide⟩
    have value : n.toUInt64.toNat = n := by
      rw [Nat.toUInt64_eq, UInt64.toNat_ofNat_of_lt' h]
    have whole : UpTo 12 (n.toUInt64.toFloat).toModel.unpack := by
      have within := upTo_ofNat h
      rw [← value] at within
      exact upTo_unpack_pack within (by decide) (by decide)
    have one : UpTo (-52) (Float.ofBits 0x3FF0000000000000).toModel.unpack :=
      .finite (by decide) le_rfl
    rw [converted]
    exact isFinite_of_model (upTo_mul whole one) (by decide)
  · have converted : Float.ofNat n = .ofModel (.pack (UnpackedFloat.ofScientific Format.binary64 n
        (Int.ofNat 0))) := dif_neg fun fast => exact_bits fast.1
    have nonzero : n ≠ 0 := by omega
    have leading : n.log2 < 64 := (Nat.log2_lt nonzero).mpr h
    have rounded : UpTo 12 (UnpackedFloat.ofScientific Format.binary64 n (Int.ofNat 0)) := by
      have within := upTo_roundWithAccuracy .positive (n <<< 53) (-53) .exact
      rw [ofScientific_eq nonzero (by decide), pow_zero, mul_one]
      refine within.mono ?_
      rw [totalExponent, log2_shiftLeft nonzero, ulp]
      omega
    rw [converted]
    exact isFinite_of_model rounded (by decide)

/-- Powers of ten beyond the table, which have to be rounded. -/
theorem large_powerOfTen_of_rounded {k : ℕ} (rounded : 23 ≤ k) (within : k ≤ 307) :
    Large (Numeral.powerOfTen k).toModel.unpack := by
  have low : 2 ^ 69 ≤ 10 ^ k := by
    have least : 2 ^ 69 ≤ 10 ^ 23 := by decide
    exact least.trans (Nat.pow_le_pow_right (by decide) rounded)
  have high : 10 ^ k < 2 ^ 1020 := by
    calc
      10 ^ k ≤ 10 ^ 307 := Nat.pow_le_pow_right (by decide) within
      _ < 2 ^ 1020 := by decide +kernel
  have nonzero : 10 ^ k ≠ 0 := by positivity
  have above : 69 ≤ (10 ^ k).log2 := (Nat.le_log2 nonzero).mpr low
  have leading := (@Nat.log2_lt (10 ^ k) 1020 nonzero).mpr high
  -- The digits are moved to the left by 53 places, and the exponent takes it back.
  have shifted : 1 <<< 53 * 10 ^ k = 10 ^ k <<< 53 := by
    rw [Nat.shiftLeft_eq, Nat.shiftLeft_eq, one_mul, mul_comm]
  have total : totalExponent (10 ^ k <<< 53) (-53) = (10 ^ k).log2 + 1 := by
    rw [totalExponent, log2_shiftLeft nonzero]
    omega
  have bits : 52 ≤ (10 ^ k <<< 53).log2 := by
    rw [log2_shiftLeft nonzero]
    omega
  have normal : -1021 ≤ totalExponent (10 ^ k <<< 53) (-53) := by omega
  have bounded := upTo_roundWithAccuracy .positive (10 ^ k <<< 53) (-53) .exact
  obtain ⟨m, e, pos, finite, full, place⟩ := roundWithAccuracy_of_bits .positive .exact bits normal
  rw [finite, total] at bounded
  have small : e ≤ 971 := by
    cases bounded with
    | finite _ within =>
      simp only [ulp] at within
      omega
  have canonical : e = ulp (totalExponent m e) := by
    simp only [ulp, totalExponent, full] at place total normal ⊢
    omega
  have same := unpack_pack .positive pos canonical small
  have value : (Numeral.powerOfTen k).toModel.unpack = .finite .positive m e pos := by
    have converted : Numeral.powerOfTen k = .ofModel (.pack
        (UnpackedFloat.ofScientific Format.binary64 1 (Int.ofNat k))) :=
      dif_neg fun fast => absurd fast.2 (by omega)
    rw [converted, ofScientific_eq (by decide) (by omega), shifted, finite]
    exact same
  rw [value]
  refine .finite pos ?_
  rw [totalExponent, full]
  omega

theorem large_powerOfTen {k : ℕ} (some_place : 1 ≤ k) (within : k ≤ 308) :
    Large (Numeral.powerOfTen k).toModel.unpack := by
  have table : ∀ k < 22, Large (Numeral.powerOfTen (k + 1)).toModel.unpack := by decide +kernel
  have greatest : Large (Numeral.powerOfTen 308).toModel.unpack := by decide +kernel
  rcases Nat.lt_or_ge k 23 with small | rounded
  · obtain ⟨k, rfl⟩ := Nat.exists_eq_add_of_le' some_place
    exact table k (by omega)
  · rcases within.lt_or_eq with below | rfl
    · exact large_powerOfTen_of_rounded rounded (by omega)
    · exact greatest

theorem isFinite_powerOfTen {k : ℕ} (within : k ≤ 308) :
    (Numeral.powerOfTen k).isFinite = true := by
  rcases Nat.eq_zero_or_pos k with rfl | some_place
  · decide +kernel
  · exact (large_powerOfTen some_place within).isFinite

theorem UpTo.neg {k : ℤ} {a : UnpackedFloat} (h : UpTo k a) : UpTo k a.neg := by
  cases h with
  | zero s => exact .zero _
  | finite pos within => exact .finite pos within

theorem isFinite_neg (hx : x.isFinite = true) : (-x).isFinite = true :=
  isFinite_of_model (upTo_of_isFinite hx).neg le_rfl

end Double

namespace Numeral

theorem absorb_lt {n : ℕ} (h : n < 2 ^ 64) (ds : List ℕ) : (absorb n ds).1 < 2 ^ 64 := by
  induction ds generalizing n with
  | nil => exact h
  | cons d ds ih =>
    rw [absorb]
    split
    · next room => exact ih room
    · exact h

/-- What is scaled stays finite, or it cannot be read. -/
theorem isFinite_of_scale {x y : Float} {e : Int} (finite : x.isFinite = true)
    (h : scale x e = some y) : y.isFinite = true := by
  fun_induction scale x e with
  | case1 => exact absurd h.symm (Option.some_ne_none y)
  | case2 x e places upward product bounded =>
    rw [← Option.some.inj h]
    exact Double.isFinite_mul finite (Double.isFinite_powerOfTen places)
      (Bool.eq_false_iff.mpr bounded)
  | case3 x e places downward =>
    rw [← Option.some.inj h]
    exact Double.isFinite_div finite (Double.large_powerOfTen (by omega) places)
  | case4 x e => exact Option.some.inj h ▸ finite
  | case5 => exact absurd h.symm (Option.some_ne_none y)
  | case6 x e far nonzero downward ih =>
    exact ih (Double.isFinite_div finite (Double.large_powerOfTen (by decide) le_rfl)) h

end Numeral

/-- What is read of a numeral is finite as a double. -/
theorem Numeral.isFinite_of_read {n : Numeral} {v : Number} (h : n.read = some v) :
    v.toFloat.isFinite = true := by
  have whole := absorb_lt (by decide : 0 < 2 ^ 64) n.whole
  rw [read] at h
  generalize absorb 0 n.whole = digits at h whole
  obtain ⟨m, kept⟩ := digits
  dsimp only at h
  by_cases plain : n.whole.length - kept = 0 ∧ n.fraction = none ∧ n.exponent = none
  · have unscaled : (Float.ofNat m).isFinite = true := Double.isFinite_ofNat whole
    rw [if_pos plain] at h
    split_ifs at h with negative small
    · obtain ⟨k, rfl⟩ := Nat.exists_eq_succ_of_ne_zero small.1.ne'
      rw [← Option.some.inj h]
      exact Double.isFinite_neg unscaled
    · rw [← Option.some.inj h]
      exact Double.isFinite_neg unscaled
    · rw [← Option.some.inj h]
      exact unscaled
  · rw [if_neg plain] at h
    obtain ⟨x, scaled, value⟩ := Option.map_eq_some_iff.mp h
    have finite : x.isFinite = true :=
      isFinite_of_scale (Double.isFinite_ofNat (absorb_lt whole _)) scaled
    rw [← value]
    cases n.negative with
    | true => exact Double.isFinite_neg finite
    | false => exact finite

end LayeredMap
