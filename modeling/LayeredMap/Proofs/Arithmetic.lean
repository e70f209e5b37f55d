import Mathlib
import LayeredMap.Proofs.Rounding
import LayeredMap.Proofs.ZeroSigns

/-!
# Products and sums keep their order

The comparison of doubles is that of the numbers they stand for. A product or a
sum of finite doubles is rounded from the exact one, and what is too large then
becomes infinite with its sign. Neither step puts a larger result in front of a
smaller one.
-/

namespace LayeredMap.Double

open Float.Model
open UnpackedFloat (roundWithAccuracy)

/-! ## Rank and value -/

section Rank

variable {m m' : ℕ} {e e' : ℤ} {a b : UnpackedFloat}

/-- With the leading bits where the exponents have them, the larger exponent decides. -/
theorem scaled_lt (pos : 0 < m) (leading : e = ulp (totalExponent m e))
    (leading' : e' = ulp (totalExponent m' e')) (h : e < e' ∨ e = e' ∧ m < m') :
    (m : ℚ) * 2 ^ e < m' * 2 ^ e' := by
  rcases h with below | ⟨rfl, below⟩
  · obtain ⟨bits, small⟩ := log2_le_of_canonical leading
    have bounded : (m : ℚ) < 2 ^ (53 : ℤ) := by
      have := (Nat.log2_lt pos.ne').mp (show m.log2 < 53 by omega)
      exact_mod_cast this
    have full : m'.log2 = 52 := by
      simp only [ulp, totalExponent] at leading'
      omega
    have high : (2 : ℚ) ^ (52 : ℤ) ≤ m' := by
      have some_bit : m' ≠ 0 := by
        rintro rfl
        exact absurd full (by decide)
      have := full ▸ Nat.log2_self_le some_bit
      exact_mod_cast this
    calc
      (m : ℚ) * 2 ^ e < 2 ^ (53 : ℤ) * 2 ^ e := mul_lt_mul_of_pos_right bounded (by positivity)
      _ = 2 ^ (53 + e) := (zpow_add₀ two_ne_zero _ _).symm
      _ ≤ 2 ^ (52 + e') := zpow_le_zpow_right₀ one_le_two (by omega)
      _ = 2 ^ (52 : ℤ) * 2 ^ e' := zpow_add₀ two_ne_zero _ _
      _ ≤ m' * 2 ^ e' := mul_le_mul_of_nonneg_right high (by positivity)
  · exact mul_lt_mul_of_pos_right (by exact_mod_cast below) (by positivity)

theorem value_lt_of_rank_lt (ha : Canonical a) (hb : Canonical b) (h : rank a < rank b) :
    value a < value b := by
  have magnitude {m : ℕ} (pos : 0 < m) (e : ℤ) : (0 : ℚ) < m * 2 ^ e := by positivity
  cases ha with
  | zero s =>
    cases hb with
    | zero s' => exact absurd h (lt_irrefl _)
    | @finite s' m' e' pos' leading' =>
      cases s' with
      | negative => simp [rank, Prod.Lex.toLex_lt_toLex] at h
      | positive => exact magnitude pos' e'
  | @finite s m e pos leading =>
    cases hb with
    | zero s' =>
      cases s with
      | negative => exact neg_lt_zero.mpr (magnitude pos e)
      | positive => simp [rank, Prod.Lex.toLex_lt_toLex] at h
    | @finite s' m' e' pos' leading' =>
      cases s <;> cases s' <;> simp [rank, Prod.Lex.toLex_lt_toLex] at h
      · have turned : e' < e ∨ e' = e ∧ m' < m := h.imp_right (And.imp_left Eq.symm)
        exact neg_lt_neg (scaled_lt pos' leading' leading turned)
      · exact (neg_lt_zero.mpr (magnitude pos e)).trans (magnitude pos' e')
      · exact scaled_lt pos leading leading' h

theorem value_eq_of_rank_eq (ha : Canonical a) (hb : Canonical b) (h : rank a = rank b) :
    value a = value b := by
  have number {c : UnpackedFloat} (hc : Canonical c) : c.isNaN = false := by cases hc <;> rfl
  cases AkinUnpacked.of_rank_eq (number ha) (number hb) h <;> rfl

/-- Finite doubles are ordered by what they stand for. -/
theorem rank_le_iff_value_le (ha : Canonical a) (hb : Canonical b) :
    rank a ≤ rank b ↔ value a ≤ value b := by
  rcases lt_trichotomy (rank a) (rank b) with below | same | above
  · exact iff_of_true below.le (value_lt_of_rank_lt ha hb below).le
  · exact iff_of_true same.le (value_eq_of_rank_eq ha hb same).le
  · exact iff_of_false above.not_ge (value_lt_of_rank_lt hb ha above).not_ge

end Rank

/-! ## Overflow -/

/-- What is left of a rounded result when it is packed. -/
def bounded : UnpackedFloat → UnpackedFloat
  | .finite s m e pos => if e ≤ 971 then .finite s m e pos else .infinity s
  | a => a

theorem bounded_zero (s : UnpackedFloat.Sign) : bounded (.zero s) = .zero s := rfl

theorem bounded_finite (s : UnpackedFloat.Sign) {m : ℕ} {e : ℤ} (pos : 0 < m) :
    bounded (.finite s m e pos) = if e ≤ 971 then .finite s m e pos else .infinity s := rfl

theorem unpack_pack_eq_bounded {a : UnpackedFloat} (h : Canonical a) :
    UnpackedFloat.unpack Format.binary64 (a.pack Format.binary64) = bounded a := by
  cases h with
  | zero s => cases s <;> rfl
  | @finite s m e pos leading =>
    rcases le_or_gt e 971 with small | beyond
    · rw [bounded, if_pos small]
      exact unpack_pack s pos leading small
    · rw [bounded, if_neg beyond.not_ge]
      exact unpack_pack_of_overflow s pos beyond

theorem isNaN_bounded {a : UnpackedFloat} (h : Canonical a) : (bounded a).isNaN = false := by
  cases h with
  | zero s => rfl
  | finite pos leading =>
    rw [bounded]
    split <;> rfl

/-- Overflow keeps the order. -/
theorem rank_bounded_le {a b : UnpackedFloat} (ha : Canonical a) (hb : Canonical b)
    (h : rank a ≤ rank b) : rank (bounded a) ≤ rank (bounded b) := by
  cases ha with
  | zero s =>
    cases hb with
    | zero s' => exact h
    | @finite s' m' e' pos' leading' =>
      rw [bounded_zero, bounded_finite]
      split_ifs
      · exact h
      · cases s' <;> simp [rank, Prod.Lex.toLex_le_toLex] at h ⊢
  | @finite s m e pos leading =>
    cases hb with
    | zero s' =>
      rw [bounded_zero, bounded_finite]
      split_ifs
      · exact h
      · cases s <;> simp [rank, Prod.Lex.toLex_le_toLex] at h ⊢
    | @finite s' m' e' pos' leading' =>
      rw [bounded_finite, bounded_finite]
      split_ifs with small small'
      · exact h
      -- A larger positive number, or a smaller negative one, has no smaller exponent.
      all_goals cases s <;> cases s' <;> simp [rank, Prod.Lex.toLex_le_toLex] at h ⊢
      all_goals omega

/-! ## Results -/

theorem isNaN_eq (x : Float) : x.isNaN = x.toModel.unpack.isNaN := rfl

/-- A double that comes from rounding a number, or that is infinite because the number is too
large. -/
def Gives (v : ℚ) (x : Float) : Prop := ∃ a, Rounds v a ∧ x.toModel.unpack = bounded a

namespace Gives

variable {v w : ℚ} {x y : Float}

theorem number (h : Gives v x) : x.isNaN = false := by
  obtain ⟨a, rounds, unpacked⟩ := h
  rw [isNaN_eq, unpacked]
  exact isNaN_bounded rounds.canonical

theorem le_of_value_le {a b : UnpackedFloat} (ha : Canonical a) (hb : Canonical b)
    (first : x.toModel.unpack = bounded a) (second : y.toModel.unpack = bounded b)
    (below : value a ≤ value b) : x ≤ y := by
  rw [le_iff, isNaN_eq, isNaN_eq, first, second]
  exact ⟨isNaN_bounded ha, isNaN_bounded hb,
    rank_bounded_le ha hb ((rank_le_iff_value_le ha hb).mpr below)⟩

theorem le_of_lt (hx : Gives v x) (hy : Gives w y) (below : v < w) : x ≤ y := by
  obtain ⟨a, rounds, first⟩ := hx
  obtain ⟨b, rounds', second⟩ := hy
  exact le_of_value_le rounds.canonical rounds'.canonical first second
    (rounds.value_le rounds' below)

theorem le_of_onGrid (hx : Gives v x) (hy : Gives v y) (exact_value : OnGrid v) : x ≤ y := by
  obtain ⟨a, rounds, first⟩ := hx
  obtain ⟨b, rounds', second⟩ := hy
  refine le_of_value_le rounds.canonical rounds'.canonical first second ?_
  rw [rounds.value_eq exact_value, rounds'.value_eq exact_value]

end Gives

/-- The number that a finite double stands for. -/
def worth (x : Float) : ℚ := value x.toModel.unpack

section Operations

variable {x y s o : Float}

theorem canonical_of_isFinite (hx : x.isFinite = true) : Canonical x.toModel.unpack :=
  canonical_unpack hx

theorem le_iff_worth_le (hx : x.isFinite = true) (hy : y.isFinite = true) :
    x ≤ y ↔ worth x ≤ worth y := by
  rw [le_iff, rank_le_iff_value_le (canonical_of_isFinite hx) (canonical_of_isFinite hy)]
  exact ⟨fun h => h.2.2, fun h => ⟨isNaN_of_isFinite hx, isNaN_of_isFinite hy, h⟩⟩

theorem akin_of_worth_eq (hx : x.isFinite = true) (hy : y.isFinite = true)
    (same : worth x = worth y) : Akin x y :=
  akin_of_le ((le_iff_worth_le hx hy).mpr same.le) ((le_iff_worth_le hy hx).mpr same.ge)

/-- A product has all the bits that rounding needs: if both factors are short of bits, its exponent
is far below the least one. -/
theorem enough_of_product {m m' : ℕ} {e e' : ℤ} (pos : 0 < m) (pos' : 0 < m')
    (leading : e = ulp (totalExponent m e)) (leading' : e' = ulp (totalExponent m' e')) :
    e + e' ≤ ulp (totalExponent (m * m') (e + e')) := by
  have first : m.log2 ≤ (m * m').log2 := by
    refine (Nat.le_log2 (Nat.mul_pos pos pos').ne').mpr ?_
    exact (Nat.log2_self_le pos.ne').trans (Nat.le_mul_of_pos_right m pos')
  have second : m'.log2 ≤ (m * m').log2 := by
    refine (Nat.le_log2 (Nat.mul_pos pos pos').ne').mpr ?_
    exact (Nat.log2_self_le pos'.ne').trans (Nat.le_mul_of_pos_left m' pos)
  simp only [ulp, totalExponent] at leading leading' ⊢
  omega

theorem rounds_mul {a b : UnpackedFloat} (ha : Canonical a) (hb : Canonical b) :
    Rounds (value a * value b) (.mul Format.binary64 a b) := by
  cases ha with
  | zero s =>
    rw [value_zero, zero_mul]
    cases hb <;> exact rounds_zero _
  | @finite s m e pos leading =>
    cases hb with
    | zero s' =>
      rw [value_zero, mul_zero]
      exact rounds_zero _
    | @finite s' m' e' pos' leading' =>
      have product : value (.finite s m e pos) * value (.finite s' m' e' pos') =
          signed (s * s') ((m * m' : ℕ) * 2 ^ (e + e')) := by
        rw [value, value, ← signed_mul, zpow_add₀ two_ne_zero]
        push_cast
        congr 1
        ring
      rw [product]
      exact rounds_roundWithAccuracy _ (Nat.mul_pos pos pos')
        (enough_of_product pos pos' leading leading')

theorem signed_apply (s : UnpackedFloat.Sign) (n : ℕ) (q : ℚ) :
    ((s.apply n : ℤ) : ℚ) * q = signed s (n * q) := by
  cases s with
  | positive => rfl
  | negative =>
    rw [signed, UnpackedFloat.Sign.apply]
    push_cast
    ring

/-- A mantissa written with a smaller exponent. -/
theorem signed_shiftLeft (s : UnpackedFloat.Sign) (m : ℕ) {e k : ℤ} (below : k ≤ e) :
    ((s.apply (m <<< (e - k).toNat : ℕ) : ℤ) : ℚ) * 2 ^ k = signed s (m * 2 ^ e) := by
  have exponent : e = (e - k).toNat + k := by omega
  rw [signed_apply, Nat.shiftLeft_eq]
  push_cast
  rw [mul_assoc, ← zpow_natCast, ← zpow_add₀ two_ne_zero, ← exponent]

theorem rounds_add {a b : UnpackedFloat} (ha : Canonical a) (hb : Canonical b) :
    Rounds (value a + value b) (.add Format.binary64 a b) := by
  cases ha with
  | zero s =>
    rw [value_zero, zero_add]
    cases hb with
    | zero s' => cases s <;> cases s' <;> exact rounds_zero _
    | finite pos' leading' => exact (Canonical.finite pos' leading').rounds
  | @finite s m e pos leading =>
    cases hb with
    | zero s' =>
      rw [value_zero, add_zero]
      exact (Canonical.finite pos leading).rounds
    | @finite s' m' e' pos' leading' =>
      let k := min e e'
      have added : UnpackedFloat.add Format.binary64 (.finite s m e pos) (.finite s' m' e' pos') =
          .normalize Format.binary64 (s.apply (m <<< (e - k).toNat : ℕ) +
            s'.apply (m' <<< (e' - k).toNat : ℕ)) k .positive := rfl
      have sum : value (.finite s m e pos) + value (.finite s' m' e' pos') =
          (s.apply (m <<< (e - k).toNat : ℕ) + s'.apply (m' <<< (e' - k).toNat : ℕ) : ℤ) *
            2 ^ k := by
        rw [Int.cast_add, add_mul, signed_shiftLeft s m (min_le_left e e'),
          signed_shiftLeft s' m' (min_le_right e e')]
        rfl
      rw [added, sum]
      exact rounds_normalize _ k .positive

/-! ## Doubles -/

theorem gives_mul (hx : x.isFinite = true) (hs : s.isFinite = true) :
    Gives (worth x * worth s) (x * s) :=
  have rounds := rounds_mul (canonical_of_isFinite hx) (canonical_of_isFinite hs)
  ⟨_, rounds, unpack_pack_eq_bounded rounds.canonical⟩

theorem gives_add (hx : x.isFinite = true) (ho : o.isFinite = true) :
    Gives (worth x + worth o) (x + o) :=
  have rounds := rounds_add (canonical_of_isFinite hx) (canonical_of_isFinite ho)
  ⟨_, rounds, unpack_pack_eq_bounded rounds.canonical⟩

/-- Products with one factor in common are in the order of the exact ones. -/
theorem mul_le_mul_of_worth (hx : x.isFinite = true) (hy : y.isFinite = true)
    (hs : s.isFinite = true) (below : worth x * worth s ≤ worth y * worth s) : x * s ≤ y * s := by
  have left := gives_mul hx hs
  have right := gives_mul hy hs
  rcases below.lt_or_eq with less | same
  · exact left.le_of_lt right less
  · rcases mul_eq_mul_right_iff.mp same with equal | zero
    · have akin : Akin (x * s) (y * s) :=
        ((akin_of_worth_eq hx hy equal).mul Format.binary64 _).packed
      exact ((Akin.refl _).le_iff akin).mp (self_le_iff.mpr left.number)
    · rw [← same] at right
      refine left.le_of_onGrid right ?_
      rw [zero, mul_zero]
      exact onGrid_zero

theorem add_le_add_of_finite (hx : x.isFinite = true) (hy : y.isFinite = true)
    (ho : o.isFinite = true) (below : x ≤ y) : x + o ≤ y + o := by
  have left := gives_add hx ho
  have right := gives_add hy ho
  rcases ((le_iff_worth_le hx hy).mp below).lt_or_eq with less | same
  · exact left.le_of_lt right (add_lt_add_left less _)
  · have akin : Akin (x + o) (y + o) :=
      ((akin_of_worth_eq hx hy same).add Format.binary64 _).packed
    exact ((Akin.refl _).le_iff akin).mp (self_le_iff.mpr left.number)

/-! ## Infinite summands -/

theorem unpack_add_of_infinity {sign : UnpackedFloat.Sign}
    (infinite : x.toModel.unpack = .infinity sign) (ho : o.isFinite = true) :
    (x + o).toModel.unpack = .infinity sign := by
  have unpacked : (x + o).toModel.unpack = UnpackedFloat.unpack Format.binary64
      ((UnpackedFloat.add Format.binary64 x.toModel.unpack o.toModel.unpack).pack _) := rfl
  have absorbed : UnpackedFloat.add Format.binary64 (.infinity sign) o.toModel.unpack =
      .infinity sign := by
    have finite := canonical_of_isFinite ho
    generalize o.toModel.unpack = b at finite ⊢
    cases finite <;> rfl
  rw [unpacked, infinite, absorbed]
  cases sign <;> rfl

/-- A number is finite or one of the two infinities. -/
theorem isFinite_or_infinity (number : x.isNaN = false) :
    x.isFinite = true ∨ ∃ sign, x.toModel.unpack = .infinity sign := by
  have finite : x.isFinite = x.toModel.unpack.isFinite := rfl
  rw [isNaN_eq] at number
  rw [finite]
  generalize x.toModel.unpack = a at number ⊢
  cases a with
  | notANumber => exact absurd number.symm Bool.false_ne_true
  | infinity sign => exact .inr ⟨sign, rfl⟩
  | zero | finite => exact .inl rfl

theorem isNaN_of_infinity {sign : UnpackedFloat.Sign}
    (infinite : x.toModel.unpack = .infinity sign) : x.isNaN = false := by
  rw [isNaN_eq, infinite]
  rfl

theorem isNaN_add (number : x.isNaN = false) (ho : o.isFinite = true) : (x + o).isNaN = false := by
  rcases isFinite_or_infinity number with hx | ⟨sign, infinite⟩
  · exact (gives_add hx ho).number
  · exact isNaN_of_infinity (unpack_add_of_infinity infinite ho)

/-- All numbers stand between the infinities. -/
theorem rank_between {a : UnpackedFloat} (number : a.isNaN = false) :
    rank (.infinity .negative) ≤ rank a ∧ rank a ≤ rank (.infinity .positive) := by
  by_cases finite : a.isFinite = true
  · obtain ⟨above, below⟩ := (isFinite_iff_rank a).mp finite
    exact ⟨above.le, below.le⟩
  · cases a with
    | notANumber => exact absurd number.symm Bool.false_ne_true
    | infinity sign => cases sign <;> decide
    | zero | finite => exact absurd rfl finite

theorem negative_infinity_le (infinite : x.toModel.unpack = .infinity .negative)
    (number : y.isNaN = false) : x ≤ y := by
  refine le_iff.mpr ⟨isNaN_of_infinity infinite, number, ?_⟩
  rw [infinite]
  exact (rank_between number).1

theorem le_positive_infinity (number : x.isNaN = false)
    (infinite : y.toModel.unpack = .infinity .positive) : x ≤ y := by
  refine le_iff.mpr ⟨number, isNaN_of_infinity infinite, ?_⟩
  rw [infinite]
  exact (rank_between number).2

theorem eq_infinity_of_rank {sign : UnpackedFloat.Sign} {a : UnpackedFloat}
    (number : a.isNaN = false) (same : rank (.infinity sign) = rank a) : a = .infinity sign := by
  cases AkinUnpacked.of_rank_eq rfl number same
  rfl

/-- Below negative infinity there is nothing else. -/
theorem negative_infinity_of_le (below : x ≤ y)
    (infinite : y.toModel.unpack = .infinity .negative) :
    x.toModel.unpack = .infinity .negative := by
  obtain ⟨number, -, ranked⟩ := le_iff.mp below
  rw [infinite] at ranked
  exact eq_infinity_of_rank number (le_antisymm (rank_between number).1 ranked)

theorem positive_infinity_of_le (below : x ≤ y)
    (infinite : x.toModel.unpack = .infinity .positive) :
    y.toModel.unpack = .infinity .positive := by
  obtain ⟨-, number, ranked⟩ := le_iff.mp below
  rw [infinite] at ranked
  exact eq_infinity_of_rank number (le_antisymm ranked (rank_between number).2)

/-- Adding a finite number keeps the order, also of infinities. -/
theorem add_le_add (below : x ≤ y) (ho : o.isFinite = true) : x + o ≤ y + o := by
  obtain ⟨number, number', -⟩ := le_iff.mp below
  have sum := isNaN_add number ho
  have sum' := isNaN_add number' ho
  have bottom (infinite : x.toModel.unpack = .infinity .negative) : x + o ≤ y + o :=
    negative_infinity_le (unpack_add_of_infinity infinite ho) sum'
  have top (infinite : y.toModel.unpack = .infinity .positive) : x + o ≤ y + o :=
    le_positive_infinity sum (unpack_add_of_infinity infinite ho)
  rcases isFinite_or_infinity number with hx | ⟨_ | _, infinite⟩
  · rcases isFinite_or_infinity number' with hy | ⟨_ | _, infinite'⟩
    · exact add_le_add_of_finite hx hy ho below
    · exact bottom (negative_infinity_of_le below infinite')
    · exact top infinite'
  · exact bottom infinite
  · exact top (positive_infinity_of_le below infinite)

end Operations

end LayeredMap.Double
