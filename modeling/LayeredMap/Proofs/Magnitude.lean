import Mathlib
import LayeredMap.Proofs.Order

/-!
# How large doubles get

A double that is neither zero nor infinite nor NaN has a mantissa of at most 53
bits and an exponent of at most 971. An operation first yields a mantissa of any
length, which is rounded to 53 bits. This carries over into one more bit at
most, so that the exponent of the result can be told from the number of bits and
the exponent before. With it goes whether the result is finite.
-/

namespace LayeredMap.Double

open Float.Model
open UnpackedFloat (Accuracy ExtendedMantissa shiftToTargetExponent roundWithAccuracy)

/-! ## Rounding -/

/-- The exponent that a number with the given place of the leading bit is written with. -/
def ulp (total : ℤ) : ℤ := max (total - 53) (-1074)

theorem mantissa_shiftRight (em : ExtendedMantissa) (n : ℕ) :
    (em >>> n).mantissa = em.mantissa >>> n := by
  induction n with
  | zero => rfl
  | succ n ih =>
    have half : (em >>> (n + 1)).mantissa = (em >>> n).mantissa / 2 := rfl
    rw [half, ih, Nat.shiftRight_succ]

/-- Rounding adds one at most. -/
theorem roundedMantissa_bounds (em : ExtendedMantissa) :
    em.mantissa ≤ em.roundedMantissa ∧ em.roundedMantissa ≤ em.mantissa + 1 := by
  have even : em.mantissa % 2 < 2 := Nat.mod_lt _ (by decide)
  obtain ⟨mantissa, _ | _, _ | _⟩ := em <;>
    simp only [ExtendedMantissa.roundedMantissa, ExtendedMantissa.accuracy,
      Accuracy.roundToNearestEven] at even ⊢ <;>
    omega

theorem mantissa_ofMantissaAndAccuracy (m : ℕ) (acc : Accuracy) :
    (ExtendedMantissa.ofMantissaAndAccuracy m acc).mantissa = m := by
  rcases acc with _ | _ | _ | _ <;> rfl

/-- Bits are dropped until the exponent is that of the leading bit. -/
theorem shiftToTargetExponent_eq (m : ℕ) (e : ℤ) (acc : Accuracy) :
    let shift := (ulp (totalExponent m e) - e).toNat
    (shiftToTargetExponent Format.binary64 m e acc).1.mantissa = m >>> shift ∧
      (shiftToTargetExponent Format.binary64 m e acc).2 = e + shift := by
  intro shift
  refine ⟨?_, rfl⟩
  have shifted : (shiftToTargetExponent Format.binary64 m e acc).1 =
      ExtendedMantissa.ofMantissaAndAccuracy m acc >>> shift := rfl
  rw [shifted, mantissa_shiftRight, mantissa_ofMantissaAndAccuracy]

/-- Of a mantissa that is shifted to the right and rounded, the place of the leading bit. -/
theorem log2_le_of_rounded {m r n : ℕ} (h : r ≤ (m >>> n) + 1) : r.log2 ≤ m.log2 + 1 - n := by
  by_cases zero : r = 0
  · simp [zero]
  · have below : m >>> n < 2 ^ (m.log2 + 1 - n) := by
      rw [Nat.shiftRight_eq_div_pow, Nat.div_lt_iff_lt_mul (by positivity), ← pow_add]
      exact lt_of_lt_of_le Nat.lt_log2_self (Nat.pow_le_pow_right (by decide) (by omega))
    have bound : r < 2 ^ (m.log2 + 1 - n + 1) := by
      rw [pow_succ]
      omega
    exact Nat.lt_succ_iff.mp ((Nat.log2_lt zero).mpr bound)

variable {m : ℕ} {e : ℤ}

/-- What rounding makes of a mantissa: bits are dropped, there may be a carry, and again bits are
dropped. -/
theorem roundWithAccuracy_cases (s : UnpackedFloat.Sign) (m : ℕ) (e : ℤ) (acc : Accuracy) :
    ∃ (r : ℕ) (e₁ e₂ : ℤ), e₁ = max e (ulp (totalExponent m e)) ∧
      r = (ExtendedMantissa.ofMantissaAndAccuracy m acc >>> (e₁ - e).toNat).roundedMantissa ∧
      m >>> (e₁ - e).toNat ≤ r ∧ r ≤ m >>> (e₁ - e).toNat + 1 ∧
      e₂ = max e₁ (ulp (totalExponent r e₁)) ∧
      (r >>> (e₂ - e₁).toNat = 0 ∧ roundWithAccuracy Format.binary64 s m e acc = .zero s ∨
        ∃ h, roundWithAccuracy Format.binary64 s m e acc =
          .finite s (r >>> (e₂ - e₁).toNat) e₂ h) := by
  obtain ⟨first, first_exponent⟩ := shiftToTargetExponent_eq m e acc
  let em := shiftToTargetExponent Format.binary64 m e acc
  obtain ⟨low, high⟩ := roundedMantissa_bounds em.1
  obtain ⟨second, second_exponent⟩ := shiftToTargetExponent_eq em.1.roundedMantissa em.2 .exact
  let em' := shiftToTargetExponent Format.binary64 em.1.roundedMantissa em.2 .exact
  have e₁ : em.2 = max e (ulp (totalExponent m e)) := by
    rw [first_exponent]
    omega
  have e₂ : em'.2 = max em.2 (ulp (totalExponent em.1.roundedMantissa em.2)) := by
    rw [second_exponent]
    omega
  have shift : (ulp (totalExponent m e) - e).toNat = (em.2 - e).toNat := by
    rw [e₁]
    omega
  have shift' : (ulp (totalExponent em.1.roundedMantissa em.2) - em.2).toNat =
      (em'.2 - em.2).toNat := by
    rw [e₂]
    omega
  have kept : em.1 = ExtendedMantissa.ofMantissaAndAccuracy m acc >>> (em.2 - e).toNat := by
    rw [← shift]
    rfl
  rw [shift] at first
  rw [shift'] at second
  refine ⟨em.1.roundedMantissa, em.2, em'.2, e₁, congrArg _ kept, first ▸ low, first ▸ high, e₂, ?_⟩
  have rounded : roundWithAccuracy Format.binary64 s m e acc =
      if h : em'.1.mantissa = 0 then .zero s
      else .finite s em'.1.mantissa em'.2 (Nat.pos_of_ne_zero h) := rfl
  rw [rounded, ← second]
  by_cases zero : em'.1.mantissa = 0
  · exact .inl ⟨zero, dif_pos zero⟩
  · exact .inr ⟨Nat.pos_of_ne_zero zero, dif_neg zero⟩

/-- Zero, or finite with at most the given exponent. -/
inductive UpTo (k : ℤ) : UnpackedFloat → Prop
  | zero (s : UnpackedFloat.Sign) : UpTo k (.zero s)
  | finite {s : UnpackedFloat.Sign} {m : ℕ} {e : ℤ} (pos : 0 < m) (within : e ≤ k) :
      UpTo k (.finite s m e pos)

theorem UpTo.mono {k l : ℤ} {a : UnpackedFloat} (h : UpTo k a) (below : k ≤ l) : UpTo l a := by
  cases h with
  | zero s => exact .zero s
  | finite pos within => exact .finite pos (within.trans below)

theorem upTo_roundWithAccuracy (s : UnpackedFloat.Sign) (m : ℕ) (e : ℤ) (acc : Accuracy) :
    UpTo (max e (ulp (totalExponent m e + 1))) (roundWithAccuracy Format.binary64 s m e acc) := by
  obtain ⟨r, e₁, e₂, first, -, -, carried, second, ⟨-, zero⟩ | ⟨pos, finite⟩⟩ :=
    roundWithAccuracy_cases s m e acc
  · rw [zero]
    exact .zero s
  · rw [finite]
    refine .finite pos ?_
    have leading := log2_le_of_rounded carried
    simp only [ulp, totalExponent] at first second ⊢
    omega

theorem log2_shiftRight {n : ℕ} (some_bit : m ≠ 0) (within : n ≤ m.log2) :
    2 ^ (m.log2 - n) ≤ m >>> n ∧ m >>> n < 2 ^ (m.log2 - n + 1) := by
  rw [Nat.shiftRight_eq_div_pow, Nat.le_div_iff_mul_le (by positivity),
    Nat.div_lt_iff_lt_mul (by positivity), ← pow_add, ← pow_add, Nat.sub_add_cancel within,
    Nat.add_right_comm, Nat.sub_add_cancel within]
  exact ⟨Nat.log2_self_le some_bit, Nat.lt_log2_self⟩

theorem log2_shiftLeft (some_bit : m ≠ 0) (n : ℕ) : (m <<< n).log2 = m.log2 + n := by
  rw [Nat.shiftLeft_eq]
  have nonzero : m * 2 ^ n ≠ 0 := by positivity
  rw [Nat.log2_eq_iff nonzero, Nat.add_right_comm, pow_add, pow_add]
  exact ⟨Nat.mul_le_mul_right _ (Nat.log2_self_le some_bit),
    Nat.mul_lt_mul_of_pos_right Nat.lt_log2_self (by positivity)⟩

/-- A mantissa with enough bits has 53 of them afterwards. -/
theorem roundWithAccuracy_of_bits (s : UnpackedFloat.Sign) (acc : Accuracy) (bits : 52 ≤ m.log2)
    (large : -1021 ≤ totalExponent m e) :
    ∃ m' e' h, roundWithAccuracy Format.binary64 s m e acc = .finite s m' e' h ∧
      m'.log2 = 52 ∧ totalExponent m e - 53 ≤ e' := by
  obtain ⟨r, e₁, e₂, first, -, low, carried, second, outcome⟩ := roundWithAccuracy_cases s m e acc
  have place : e₁ = totalExponent m e - 53 := by
    simp only [ulp, totalExponent] at first large ⊢
    omega
  have dropped : (e₁ - e).toNat = m.log2 - 52 := by
    rw [place, totalExponent]
    omega
  have some_bit : m ≠ 0 := by
    rintro rfl
    exact absurd bits (by decide)
  obtain ⟨above, below⟩ := log2_shiftRight some_bit (Nat.sub_le m.log2 52)
  have left : m.log2 - (m.log2 - 52) = 52 := Nat.sub_sub_self bits
  rw [left] at above below
  rw [dropped] at low carried
  have nonzero : r ≠ 0 := by omega
  -- Either there is no carry, or all 53 bits were set and one is left.
  have kept : (r >>> (e₂ - e₁).toNat).log2 = 52 := by
    by_cases carry : r < 2 ^ 53
    · have leading : r.log2 = 52 := (Nat.log2_eq_iff nonzero).mpr ⟨by omega, carry⟩
      have still : e₂ = e₁ := by
        simp only [ulp, totalExponent, leading] at second large place
        omega
      rw [still, sub_self]
      exact leading
    · obtain rfl : r = 2 ^ 53 := by omega
      have next : e₂ = e₁ + 1 := by
        have leading : (2 ^ 53).log2 = 53 := by decide
        simp only [ulp, totalExponent, leading] at second large place
        omega
      rw [next, add_sub_cancel_left]
      decide
  have upward : totalExponent m e - 53 ≤ e₂ := by
    rw [second, ← place]
    exact le_max_left _ _
  rcases outcome with ⟨nothing, -⟩ | ⟨pos, finite⟩
  · rw [nothing] at kept
    exact absurd kept (by decide)
  · exact ⟨_, _, pos, finite, kept, upward⟩

/-! ## Packing -/

open UnpackedFloat (unpackMantissa unpackExponent unpackSign packComponents)

/-- The leading bit of a number that is read is where its exponent has it. -/
theorem unpack_canonical {b : BitVec 64} {s : UnpackedFloat.Sign} {pos : 0 < m}
    (finite : UnpackedFloat.unpack Format.binary64 b = .finite s m e pos) :
    e = ulp (totalExponent m e) ∧ e ≤ 971 := by
  have bias : (Format.binary64.exponentBias : ℤ) = 1023 := rfl
  have mantissa : (@unpackMantissa Format.binary64 b).toNat < 2 ^ 52 := BitVec.isLt _
  have exponent : (@unpackExponent Format.binary64 b).toNat < 2 ^ 11 := BitVec.isLt _
  rw [UnpackedFloat.unpack] at finite
  split_ifs at finite with infinite special subnormal zero
  · injection finite with _ same_mantissa same_exponent
    have field : (0#11).toNat = 0 := rfl
    have leading : m.log2 < 52 := (Nat.log2_lt pos.ne').mpr (same_mantissa ▸ mantissa)
    rw [subnormal] at same_exponent
    simp only [bias] at same_exponent
    simp only [ulp, totalExponent]
    omega
  · injection finite with _ same_mantissa same_exponent
    have implicit : (1#1 ++ @unpackMantissa Format.binary64 b).toNat < 2 ^ 53 := BitVec.isLt _
    have leading_bit : 2 ^ 52 ≤ (1#1 ++ @unpackMantissa Format.binary64 b).toNat := by
      rw [BitVec.toNat_append]
      exact Nat.left_le_or
    have leading : m.log2 = 52 :=
      (Nat.log2_eq_iff pos.ne').mpr ⟨same_mantissa ▸ leading_bit, same_mantissa ▸ implicit⟩
    have low : (@unpackExponent Format.binary64 b).toNat ≠ 0 := fun none_set =>
      subnormal (BitVec.eq_of_toNat_eq none_set)
    have high : (@unpackExponent Format.binary64 b).toNat ≠ 2047 := fun all_set =>
      infinite (BitVec.eq_of_toNat_eq all_set)
    simp only [bias] at same_exponent
    simp only [ulp, totalExponent]
    omega

theorem log2_le_of_canonical (canonical : e = ulp (totalExponent m e)) :
    m.log2 ≤ 52 ∧ -1074 ≤ e := by
  simp only [ulp, totalExponent] at canonical
  omega

/-- The bits of what is neither zero nor infinite nor NaN. -/
theorem unpack_bounds {b : BitVec 64} {s : UnpackedFloat.Sign} {pos : 0 < m}
    (finite : UnpackedFloat.unpack Format.binary64 b = .finite s m e pos) :
    m < 2 ^ 53 ∧ -1074 ≤ e ∧ e ≤ 971 := by
  obtain ⟨canonical, large⟩ := unpack_canonical finite
  obtain ⟨bits, small⟩ := log2_le_of_canonical canonical
  exact ⟨(Nat.log2_lt pos.ne').mp (by omega), small, large⟩

theorem unpackSign_packComponents {spec : Format} {s : UnpackedFloat.Sign}
    {exponent : BitVec spec.exponentBits} {mantissa : BitVec spec.mantissaBitsWithoutImplicit} :
    unpackSign (packComponents spec s exponent mantissa) = s.toBitVec := by
  ext i hi
  have first : i = 0 := by omega
  simp [unpackSign, packComponents, BitVec.getLsbD_append, BitVec.getElem_append, first]

theorem ofBitVec_toBitVec (s : UnpackedFloat.Sign) :
    UnpackedFloat.Sign.ofBitVec s.toBitVec = s := by
  cases s <;> rfl

/-- Without an exponent in its field a number is zero or has the least exponent. -/
theorem unpack_of_no_exponent (s : UnpackedFloat.Sign) (mantissa : BitVec 52) :
    let a := UnpackedFloat.unpack Format.binary64 (packComponents Format.binary64 s 0#11 mantissa)
    mantissa = 0#52 ∧ a = .zero s ∨ ∃ h, a = .finite s mantissa.toNat (-1074) h := by
  intro a
  have read : a = UnpackedFloat.unpack Format.binary64
      (packComponents Format.binary64 s 0#11 mantissa) := rfl
  rw [UnpackedFloat.unpack] at read
  simp only [UnpackedFloat.unpackExponent_packComponents,
    UnpackedFloat.unpackMantissa_packComponents, unpackSign_packComponents,
    ofBitVec_toBitVec] at read
  rw [if_neg (by decide), if_pos trivial] at read
  by_cases zero : mantissa = 0#52
  · rw [dif_pos zero] at read
    exact .inl ⟨zero, read⟩
  · rw [dif_neg zero] at read
    exact .inr ⟨_, read⟩

theorem unpack_of_exponent (s : UnpackedFloat.Sign) {exponent : BitVec 11} (mantissa : BitVec 52)
    (infinite : exponent ≠ -1#11) (normal : exponent ≠ 0#11) :
    ∃ h, UnpackedFloat.unpack Format.binary64
        (packComponents Format.binary64 s exponent mantissa) =
      .finite s (1#1 ++ mantissa).toNat (exponent.toNat - 1075) h := by
  rw [UnpackedFloat.unpack]
  simp only [UnpackedFloat.unpackExponent_packComponents,
    UnpackedFloat.unpackMantissa_packComponents, unpackSign_packComponents, ofBitVec_toBitVec]
  rw [if_neg infinite, if_neg normal]
  have positive : 0 < (1#1 ++ mantissa).toNat := by
    rw [BitVec.toNat_append]
    exact Nat.lt_of_lt_of_le (by decide) Nat.left_le_or
  exact ⟨positive, rfl⟩

/-- A finite number is packed with an exponent in its field or without. -/
theorem pack_finite (s : UnpackedFloat.Sign) (pos : 0 < m) (large : e ≤ 971) :
    ∃ exponent : BitVec 11, exponent ≠ -1#11 ∧ (exponent.toNat : ℤ) ≤ max (e + 1075) 0 ∧
      (m.log2 = 52 → -1074 ≤ e → (exponent.toNat : ℤ) = e + 1075) ∧
      (m.log2 ≠ 52 → exponent = 0#11) ∧
      UnpackedFloat.pack Format.binary64 (.finite s m e pos) =
        packComponents Format.binary64 s exponent (BitVec.ofNat 52 m) := by
  have biased : e + Format.binary64.exponentBias + Format.binary64.mantissaBitsWithoutImplicit =
      e + 1075 := by
    show e + 1023 + 52 = e + 1075
    omega
  have room : ¬ 2 ^ Format.binary64.exponentBits ≤ (e + 1075).toNat + 1 := by
    show ¬ 2 ^ 11 ≤ (e + 1075).toNat + 1
    omega
  rw [UnpackedFloat.pack]
  simp only [biased]
  rw [if_neg room]
  by_cases bits : m.log2 + 1 = Format.binary64.mantissaBits
  · have full : m.log2 = 52 := Nat.succ_injective bits
    have field : (BitVec.ofNat 11 (e + 1075).toNat).toNat = (e + 1075).toNat := by
      rw [BitVec.toNat_ofNat]
      omega
    rw [if_pos bits]
    refine ⟨BitVec.ofNat 11 (e + 1075).toNat, ?_, ?_, ?_, ?_, rfl⟩
    · intro all_set
      have value : (e + 1075).toNat = 2047 := field.symm.trans (congrArg BitVec.toNat all_set)
      omega
    · omega
    · omega
    · exact fun other => absurd full other
  · rw [if_neg bits]
    refine ⟨0#11, by decide, le_max_right _ _, ?_, fun _ => rfl, rfl⟩
    intro full
    exact absurd (congrArg (· + 1) full) bits

theorem upTo_unpack_pack {k : ℤ} {a : UnpackedFloat} (h : UpTo k a) (small : -1074 ≤ k)
    (large : k ≤ 971) : UpTo k (UnpackedFloat.unpack Format.binary64 (a.pack Format.binary64)) := by
  have subnormal (s : UnpackedFloat.Sign) (mantissa : BitVec 52) : UpTo k
      (UnpackedFloat.unpack Format.binary64 (packComponents Format.binary64 s 0#11 mantissa)) := by
    rcases unpack_of_no_exponent s mantissa with ⟨-, zero⟩ | ⟨pos, least⟩
    · rw [zero]
      exact .zero s
    · rw [least]
      exact .finite pos small
  cases h with
  | zero s => exact subnormal s 0#52
  | @finite s m e pos within =>
    obtain ⟨exponent, infinite, below, -, -, packed⟩ :=
      pack_finite s pos (within.trans large)
    rw [packed]
    by_cases normal : exponent = 0#11
    · rw [normal]
      exact subnormal s _
    · obtain ⟨pos', finite⟩ := unpack_of_exponent s (BitVec.ofNat 52 m) infinite normal
      rw [finite]
      exact .finite pos' (by omega)

/-- What is packed with its leading bit where the exponent has it is read back as it was. -/
theorem unpack_pack (s : UnpackedFloat.Sign) (pos : 0 < m)
    (canonical : e = ulp (totalExponent m e)) (large : e ≤ 971) :
    UnpackedFloat.unpack Format.binary64
      (UnpackedFloat.pack Format.binary64 (.finite s m e pos)) = .finite s m e pos := by
  obtain ⟨bits, small⟩ := log2_le_of_canonical canonical
  have rest : (BitVec.ofNat 52 m).toNat = m % 2 ^ 52 := BitVec.toNat_ofNat _ _
  obtain ⟨exponent, infinite, -, value, absent, packed⟩ := pack_finite s pos large
  rw [packed]
  by_cases full : m.log2 = 52
  · have field := value full small
    have normal : exponent ≠ 0#11 := by
      rintro rfl
      have none_set : (0#11).toNat = 0 := rfl
      omega
    have implicit : (1#1 ++ BitVec.ofNat 52 m).toNat = m := by
      obtain ⟨low, high⟩ := (Nat.log2_eq_iff pos.ne').mp full
      have below : (BitVec.ofNat 52 m).toNat < 2 ^ 52 := BitVec.isLt _
      rw [BitVec.toNat_append, ← Nat.shiftLeft_add_eq_or_of_lt below, rest, Nat.shiftLeft_eq]
      show 1 * 2 ^ 52 + m % 2 ^ 52 = m
      omega
    obtain ⟨pos', finite⟩ := unpack_of_exponent s (BitVec.ofNat 52 m) infinite normal
    rw [finite]
    congr 1
    omega
  · have least : e = -1074 := by
      simp only [ulp, totalExponent] at canonical
      omega
    have kept : (BitVec.ofNat 52 m).toNat = m := by
      rw [rest, Nat.mod_eq_of_lt ((Nat.log2_lt pos.ne').mp (by omega))]
    rw [absent full]
    rcases unpack_of_no_exponent s (BitVec.ofNat 52 m) with ⟨zero, -⟩ | ⟨pos', finite⟩
    · rw [zero] at kept
      exact absurd kept.symm pos.ne'
    · rw [finite]
      congr 1
      exact least.symm

/-- Beyond the largest exponent there is nothing but infinity. -/
theorem unpack_pack_of_overflow (s : UnpackedFloat.Sign) (pos : 0 < m) (beyond : 971 < e) :
    UnpackedFloat.unpack Format.binary64
      (UnpackedFloat.pack Format.binary64 (.finite s m e pos)) = .infinity s := by
  have overflows : 2 ^ Format.binary64.exponentBits ≤ (e + Format.binary64.exponentBias +
      Format.binary64.mantissaBitsWithoutImplicit).toNat + 1 := by
    show 2 ^ 11 ≤ (e + 1023 + 52).toNat + 1
    omega
  rw [UnpackedFloat.pack]
  simp only [if_pos overflows]
  cases s <;> rfl

end LayeredMap.Double
