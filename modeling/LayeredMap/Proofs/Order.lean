import Mathlib.Data.Int.CharZero
import Mathlib.Data.Prod.Lex
import Mathlib.Order.Compare
import LayeredMap.Coordinate

/-!
# Laws of coordinates

What boxes rely on, whatever their numbers are: the order is transitive and
total on numbers that are below themselves, a number between two finite ones is
finite, and nothing becomes finite by being scaled and shifted. No law says
that a number is below itself, since NaN is not.

Doubles obey these laws. They are ordered by class first, from negative infinity
to positive infinity, and within the finite classes by exponent and mantissa.
-/

namespace LayeredMap

/-- The laws of order and finiteness that boxes rely on. -/
class Coordinate.Lawful (α : Type) [Coordinate α] : Prop where
  le_trans {x y z : α} : x ≤ y → y ≤ z → x ≤ z
  le_total {x y : α} : x ≤ x → y ≤ y → x ≤ y ∨ y ≤ x
  self_le_of_le {x y : α} : x ≤ y → x ≤ x ∧ y ≤ y
  self_le_of_isFinite {x : α} : Coordinate.isFinite x = true → x ≤ x
  isFinite_of_between {x y z : α} : x ≤ y → y ≤ z → Coordinate.isFinite x = true →
    Coordinate.isFinite z = true → Coordinate.isFinite y = true
  isFinite_of_affine {x s o : α} : Coordinate.isFinite (x * s + o) = true →
    Coordinate.isFinite x = true
  not_zero_le_neg_one : ¬ (0 : α) ≤ -1

namespace Double

open Float.Model

/-! ## The order of doubles -/

/-- Where a double stands among those that are not NaN: its class, then exponent and mantissa. -/
def rank : UnpackedFloat → ℤ ×ₗ ℤ ×ₗ ℤ
  | .infinity .negative => toLex (-2, toLex (0, 0))
  | .finite .negative m e _ => toLex (-1, toLex (-e, -m))
  | .zero _ => toLex (0, toLex (0, 0))
  | .finite .positive m e _ => toLex (1, toLex (e, m))
  | .infinity .positive => toLex (2, toLex (0, 0))
  | .notANumber => toLex (3, toLex (0, 0))

theorem isLE_then_compare (e e' : ℤ) (m m' : ℕ) :
    ((compare e e').then (compare m m')).isLE = true ↔ e < e' ∨ e = e' ∧ m ≤ m' := by
  rw [Ordering.isLE_then_iff_or, compare_lt_iff_lt, compare_eq_iff_eq, Nat.isLE_compare]

theorem isGE_then_compare (e e' : ℤ) (m m' : ℕ) :
    ((compare e e').then (compare m m')).isGE = true ↔ e' < e ∨ e = e' ∧ m' ≤ m := by
  have split (o o' : Ordering) : (o.then o').isGE = true ↔ o = .gt ∨ o = .eq ∧ o'.isGE = true := by
    cases o <;> simp
  rw [split, compare_gt_iff_gt, compare_eq_iff_eq, Nat.isGE_compare]

/-- The comparison of doubles in one line: NaN is out of it, the others go by rank. -/
theorem le_iff_rank_le (a b : UnpackedFloat) :
    a.le b = true ↔ a.isNaN = false ∧ b.isNaN = false ∧ rank a ≤ rank b := by
  rcases a with (_ | _) | _ | _ | ⟨_ | _, m, e, hm⟩ <;>
    rcases b with (_ | _) | _ | _ | ⟨_ | _, m', e', hm'⟩ <;>
    dsimp only [UnpackedFloat.le, UnpackedFloat.compare, UnpackedFloat.isNaN, rank] <;>
    simp [Prod.Lex.toLex_le_toLex, isLE_then_compare, isGE_then_compare]
  all_goals decide

/-- Zeros of either sign stand at one place, so equality goes by rank as well. -/
theorem beq_iff_rank_eq (a b : UnpackedFloat) :
    a.beq b = true ↔ a.isNaN = false ∧ b.isNaN = false ∧ rank a = rank b := by
  rcases a with (_ | _) | _ | _ | ⟨_ | _, m, e, hm⟩ <;>
    rcases b with (_ | _) | _ | _ | ⟨_ | _, m', e', hm'⟩ <;>
    dsimp only [UnpackedFloat.beq, UnpackedFloat.compare, UnpackedFloat.isNaN, rank] <;>
    simp
  all_goals decide

theorem isFinite_iff_rank (a : UnpackedFloat) :
    a.isFinite = true ↔ toLex (-2, toLex (0, 0)) < rank a ∧ rank a < toLex (2, toLex (0, 0)) := by
  rcases a with (_ | _) | _ | _ | ⟨_ | _, m, e, hm⟩ <;>
    dsimp only [UnpackedFloat.isFinite, rank] <;>
    simp [Prod.Lex.toLex_lt_toLex]

theorem isNaN_of_isFinite {a : UnpackedFloat} (h : a.isFinite = true) : a.isNaN = false := by
  cases a with
  | notANumber => exact absurd h Bool.false_ne_true
  | _ => rfl

/-! ## Infinities and NaN stay what they are -/

theorem isFinite_of_pack {a : UnpackedFloat}
    (h : (UnpackedFloat.unpack Format.binary64 (a.pack Format.binary64)).isFinite = true) :
    a.isFinite = true := by
  cases a with
  | zero | finite => rfl
  | notANumber => exact absurd h (by decide)
  | infinity s => exact absurd h (by cases s <;> decide)

theorem isFinite_of_mul {spec : Format} {a b : UnpackedFloat}
    (h : (UnpackedFloat.mul spec a b).isFinite = true) : a.isFinite = true := by
  cases a with
  | zero | finite => rfl
  | notANumber | infinity => cases b <;> exact absurd h Bool.false_ne_true

theorem isFinite_of_add {spec : Format} {a b : UnpackedFloat}
    (h : (UnpackedFloat.add spec a b).isFinite = true) : a.isFinite = true := by
  cases a with
  | zero | finite => rfl
  | notANumber => exact absurd h Bool.false_ne_true
  | infinity s =>
    cases b with
    | infinity s' => cases s <;> cases s' <;> exact absurd h Bool.false_ne_true
    | _ => exact absurd h Bool.false_ne_true

/-! ## Doubles -/

theorem le_iff {x y : Float} : x ≤ y ↔ x.isNaN = false ∧ y.isNaN = false ∧
    rank x.toModel.unpack ≤ rank y.toModel.unpack := by
  have compared : x ≤ y ↔ x.toModel.unpack.le y.toModel.unpack = true := decide_eq_true_iff
  rw [compared, le_iff_rank_le]
  rfl

theorem beq_iff {x y : Float} : (x == y) = true ↔ x ≤ y ∧ y ≤ x := by
  have compared : (x == y) = true ↔ x.toModel.unpack.beq y.toModel.unpack = true := Iff.rfl
  rw [compared, beq_iff_rank_eq, le_iff, le_iff]
  constructor
  · rintro ⟨number, number', same⟩
    exact ⟨⟨number, number', same.le⟩, ⟨number', number, same.ge⟩⟩
  · rintro ⟨⟨number, number', below⟩, ⟨-, -, above⟩⟩
    exact ⟨number, number', le_antisymm below above⟩

theorem self_le_iff {x : Float} : x ≤ x ↔ x.isNaN = false := by
  rw [le_iff]
  constructor
  · rintro ⟨number, -, -⟩
    exact number
  · intro number
    exact ⟨number, number, le_refl _⟩

end Double

instance : Coordinate.Lawful Float where
  le_trans h h' := by
    obtain ⟨number, -, below⟩ := Double.le_iff.mp h
    obtain ⟨-, number', below'⟩ := Double.le_iff.mp h'
    exact Double.le_iff.mpr ⟨number, number', le_trans below below'⟩
  le_total h h' := by
    have number := Double.self_le_iff.mp h
    have number' := Double.self_le_iff.mp h'
    rcases le_total (Double.rank _) (Double.rank _) with below | above
    · exact .inl (Double.le_iff.mpr ⟨number, number', below⟩)
    · exact .inr (Double.le_iff.mpr ⟨number', number, above⟩)
  self_le_of_le h := by
    obtain ⟨number, number', -⟩ := Double.le_iff.mp h
    exact ⟨Double.self_le_iff.mpr number, Double.self_le_iff.mpr number'⟩
  self_le_of_isFinite h := Double.self_le_iff.mpr (Double.isNaN_of_isFinite h)
  isFinite_of_between h h' finite finite' := by
    obtain ⟨-, -, below⟩ := Double.le_iff.mp h
    obtain ⟨-, -, below'⟩ := Double.le_iff.mp h'
    have lower := ((Double.isFinite_iff_rank _).mp finite).1
    have upper := ((Double.isFinite_iff_rank _).mp finite').2
    exact (Double.isFinite_iff_rank _).mpr ⟨lower.trans_le below, below'.trans_lt upper⟩
  isFinite_of_affine h :=
    Double.isFinite_of_mul (Double.isFinite_of_pack (Double.isFinite_of_add
      (Double.isFinite_of_pack h)))
  not_zero_le_neg_one := by decide

instance : Coordinate.Lawful Rat where
  le_trans := Rat.le_trans
  le_total _ _ := Rat.le_total
  self_le_of_le _ := ⟨Rat.le_refl, Rat.le_refl⟩
  self_le_of_isFinite _ := Rat.le_refl
  isFinite_of_between _ _ _ _ := rfl
  isFinite_of_affine _ := rfl
  not_zero_le_neg_one := by decide

end LayeredMap
