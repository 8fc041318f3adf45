import Mathlib.Algebra.Order.Field.Basic
import Mathlib.Algebra.Order.Group.Unbundled.Abs
import Mathlib.Tactic.Linarith
import Mathlib.Tactic.Positivity

/-!
# Doubles in exact arithmetic

Dart's `double` over an ordered field: a finite value, the two infinities and
NaN. Rounding is left out, and so is the sign of zero: a quotient by zero has
the sign of its numerator, and `0 / 0` is NaN. `compareTo` is Dart's total
order, in which NaN is the largest value, and `clamp` follows it, while the
operators `>` and `<=` are false as soon as one side is NaN.
-/

namespace DartDouble

universe u

inductive Double (K : Type u) where
  | nan
  | negInf
  | posInf
  | fin (x : K)
  deriving DecidableEq

namespace Double

def map {K L : Type u} (f : K → L) : Double K → Double L
  | nan => nan
  | negInf => negInf
  | posInf => posInf
  | fin x => fin (f x)

section Operations
variable {K : Type u} [Field K] [LinearOrder K]

def neg : Double K → Double K
  | nan => nan
  | negInf => posInf
  | posInf => negInf
  | fin x => fin (-x)

def add : Double K → Double K → Double K
  | nan, _ => nan
  | _, nan => nan
  | negInf, posInf => nan
  | posInf, negInf => nan
  | negInf, _ => negInf
  | posInf, _ => posInf
  | fin _, negInf => negInf
  | fin _, posInf => posInf
  | fin x, fin y => fin (x + y)

def sub (a b : Double K) : Double K := add a (neg b)

/-- An infinity with the sign of `x`; `inf * 0` is NaN. -/
def infWithSign (x : K) : Double K :=
  if x = 0 then nan else if 0 < x then posInf else negInf

def mul : Double K → Double K → Double K
  | nan, _ => nan
  | _, nan => nan
  | posInf, posInf => posInf
  | posInf, negInf => negInf
  | negInf, posInf => negInf
  | negInf, negInf => posInf
  | posInf, fin x => infWithSign x
  | fin x, posInf => infWithSign x
  | negInf, fin x => infWithSign (-x)
  | fin x, negInf => infWithSign (-x)
  | fin x, fin y => fin (x * y)

def div : Double K → Double K → Double K
  | nan, _ => nan
  | _, nan => nan
  | posInf, posInf => nan
  | posInf, negInf => nan
  | negInf, posInf => nan
  | negInf, negInf => nan
  | fin _, posInf => fin 0
  | fin _, negInf => fin 0
  | posInf, fin y => if y < 0 then negInf else posInf
  | negInf, fin y => if y < 0 then posInf else negInf
  | fin x, fin y => if y = 0 then infWithSign x else fin (x / y)

def abs : Double K → Double K
  | nan => nan
  | negInf => posInf
  | posInf => posInf
  | fin x => fin |x|

instance : Add (Double K) := ⟨add⟩
instance : Sub (Double K) := ⟨sub⟩
instance : Mul (Double K) := ⟨mul⟩
instance : Div (Double K) := ⟨div⟩

/-- `num.compareTo`: a total order with NaN above every number. -/
def compareTo : Double K → Double K → Ordering
  | nan, nan => .eq
  | nan, _ => .gt
  | _, nan => .lt
  | posInf, posInf => .eq
  | posInf, _ => .gt
  | _, posInf => .lt
  | negInf, negInf => .eq
  | negInf, _ => .lt
  | _, negInf => .gt
  | fin x, fin y => compare x y

/-- `num.clamp`, for bounds given in order. -/
def clamp (x lower upper : Double K) : Double K :=
  if compareTo x lower = .lt then lower
  else if compareTo x upper = .gt then upper
  else x

/-- The operator `<=`. -/
def le : Double K → Double K → Bool
  | nan, _ => false
  | _, nan => false
  | negInf, _ => true
  | _, posInf => true
  | posInf, _ => false
  | _, negInf => false
  | fin x, fin y => decide (x ≤ y)

/-- The operator `>`. -/
def gt : Double K → Double K → Bool
  | nan, _ => false
  | _, nan => false
  | a, b => !le a b

/-- What `clamp(0.0, 1.0)` leaves of a value. -/
def unit : Double K → K
  | nan => 1
  | posInf => 1
  | negInf => 0
  | fin x => max 0 (min x 1)

theorem fin_div_fin {y : K} (x : K) (hy : y ≠ 0) : fin x / fin y = fin (x / y) := by
  change (if y = 0 then infWithSign x else fin (x / y)) = fin (x / y)
  rw [if_neg hy]

theorem fin_div_zero (x : K) : (fin x : Double K) / fin 0 = infWithSign x := by
  change (if (0 : K) = 0 then infWithSign x else fin (x / 0)) = infWithSign x
  rw [if_pos rfl]

@[simp] theorem zero_div_zero : (fin 0 : Double K) / fin 0 = nan := by
  rw [fin_div_zero]
  simp [infWithSign]

@[simp] theorem abs_fin (x : K) : abs (fin x) = fin |x| := rfl

@[simp] theorem fin_mul_fin (x y : K) : fin x * fin y = fin (x * y) := rfl

@[simp] theorem nan_mul (a : Double K) : nan * a = nan := by
  cases a <;> rfl

end Operations

section Sums
variable {K : Type u} [Field K]

@[simp] theorem fin_add_fin (x y : K) : fin x + fin y = fin (x + y) := rfl

@[simp] theorem fin_sub_fin (x y : K) : fin x - fin y = fin (x - y) := by
  change fin (x + -y) = fin (x - y)
  rw [sub_eq_add_neg]

@[simp] theorem add_nan (a : Double K) : a + nan = nan := by
  cases a <;> rfl

end Sums

section Comparisons
variable {K : Type u} [LinearOrder K]

theorem compareTo_fin_fin (x y : K) : compareTo (fin x) (fin y) = compare x y := rfl

@[simp] theorem le_fin_fin (x y : K) : le (fin x) (fin y) = decide (x ≤ y) := rfl

@[simp] theorem gt_fin_fin (x y : K) : gt (fin x) (fin y) = decide (y < x) := by
  change (!decide (x ≤ y)) = decide (y < x)
  by_cases h : x ≤ y
  · simp [h]
  · simp [h, lt_of_not_ge h]

@[simp] theorem gt_nan (a : Double K) : gt nan a = false := by
  cases a <;> rfl

theorem compareTo_swap (a b : Double K) : compareTo a b = (compareTo b a).swap := by
  cases a with
  | fin x =>
    cases b with
    | fin y => exact Std.OrientedOrd.eq_swap
    | _ => rfl
  | _ => cases b <;> rfl

theorem compareTo_isLE_trans {a b c : Double K} (hab : (compareTo a b).isLE = true)
    (hbc : (compareTo b c).isLE = true) : (compareTo a c).isLE = true := by
  cases a with
  | fin x =>
    cases b with
    | fin y =>
      cases c with
      | fin z => exact Std.TransOrd.isLE_trans (α := K) hab hbc
      | negInf => exact absurd hbc Bool.false_ne_true
      | _ => rfl
    | negInf => exact absurd hab Bool.false_ne_true
    | _ => cases c <;> first | rfl | exact absurd hbc Bool.false_ne_true
  | negInf => cases c <;> rfl
  | posInf =>
    cases b <;> cases c <;> first
      | rfl
      | exact absurd hab Bool.false_ne_true
      | exact absurd hbc Bool.false_ne_true
  | nan =>
    cases b <;> cases c <;> first
      | rfl
      | exact absurd hab Bool.false_ne_true
      | exact absurd hbc Bool.false_ne_true

instance : Std.TransCmp (compareTo (K := K)) where
  eq_swap := compareTo_swap _ _
  isLE_trans := compareTo_isLE_trans

instance : Std.LawfulEqCmp (compareTo (K := K)) where
  compare_self {a} := by
    cases a with
    | fin x => exact Std.ReflOrd.compare_self
    | _ => rfl
  eq_of_compare {a b} h := by
    cases a with
    | fin x =>
      cases b with
      | fin y => rw [Std.LawfulEqOrd.eq_of_compare h]
      | _ => cases h
    | _ => cases b <;> first | rfl | cases h

/-- Below a number, the total order is that of the operator `<=`. -/
theorem le_of_compareTo {a b : Double K} (h : (compareTo a b).isLE = true) (hb : b ≠ .nan) :
    le a b = true := by
  cases b with
  | nan => exact absurd rfl hb
  | fin y =>
    cases a with
    | fin x =>
      rw [compareTo_fin_fin, Ordering.isLE_iff_ne_gt, compare_gt_iff_gt, not_lt] at h
      exact decide_eq_true h
    | negInf => rfl
    | _ => cases h
  | negInf => cases a <;> first | rfl | cases h
  | posInf => cases a <;> first | rfl | cases h

theorem le_posInf {a : Double K} (h : a ≠ nan) : le a posInf = true := by
  cases a with
  | nan => exact absurd rfl h
  | negInf => rfl
  | posInf => rfl
  | fin x => rfl

end Comparisons

section UnitInterval
variable {K : Type u} [Field K] [LinearOrder K]

theorem unit_fin_mono {x y : K} (h : x ≤ y) : unit (fin x) ≤ unit (fin y) :=
  max_le_max le_rfl (min_le_min h le_rfl)

theorem unit_fin_of_nonpos {x : K} (h : x ≤ 0) : unit (fin x) = 0 :=
  max_eq_left ((min_le_left x 1).trans h)

theorem unit_infWithSign {x : K} (h : 0 ≤ x) : unit (infWithSign x) = 1 := by
  unfold infWithSign
  by_cases hx : x = 0
  · simp [hx, unit]
  · simp [hx, lt_of_le_of_ne h (Ne.symm hx), unit]

theorem unit_zero_div {m : K} (h : m ≠ 0) : unit (fin 0 / fin m) = 0 := by
  rw [fin_div_fin 0 h, zero_div]
  exact unit_fin_of_nonpos le_rfl

theorem unit_zero_div_of_pos {m : Double K} (h : m.gt (fin 0) = true) : unit (fin 0 / m) = 0 := by
  cases m with
  | nan => cases h
  | negInf => cases h
  | posInf => exact unit_fin_of_nonpos le_rfl
  | fin m =>
    rw [gt_fin_fin, decide_eq_true_eq] at h
    exact unit_zero_div h.ne'

variable [IsStrictOrderedRing K]

theorem clamp_zero_one (x : Double K) : clamp x (fin 0) (fin 1) = fin (unit x) := by
  cases x with
  | nan => rfl
  | posInf => rfl
  | negInf => rfl
  | fin x =>
    simp only [clamp, compareTo_fin_fin, compare_lt_iff_lt, compare_gt_iff_gt, unit]
    by_cases hlo : x < 0
    · rw [if_pos hlo, min_eq_left (by linarith), max_eq_left hlo.le]
    · rw [if_neg hlo]
      by_cases hhi : 1 < x
      · rw [if_pos hhi, min_eq_right hhi.le, max_eq_right zero_le_one]
      · rw [if_neg hhi, min_eq_left (not_lt.mp hhi), max_eq_right (not_lt.mp hlo)]

theorem unit_nonneg (x : Double K) : 0 ≤ unit x := by
  cases x with
  | nan => exact zero_le_one
  | posInf => exact zero_le_one
  | negInf => exact le_rfl
  | fin x => exact le_max_left 0 _

theorem unit_le_one (x : Double K) : unit x ≤ 1 := by
  cases x with
  | nan => exact le_rfl
  | posInf => exact le_rfl
  | negInf => exact zero_le_one
  | fin x => exact max_le zero_le_one (min_le_right x 1)

theorem unit_fin_div_mono {a b : K} (m : Double K) (ha : 0 ≤ a) (hab : a ≤ b) :
    unit (fin a / m) ≤ unit (fin b / m) := by
  cases m with
  | nan => exact le_rfl
  | posInf => exact le_rfl
  | negInf => exact le_rfl
  | fin m =>
    rcases lt_trichotomy m 0 with hm | hm | hm
    · have hleft : unit (fin a / fin m) = 0 := by
        rw [fin_div_fin a hm.ne]
        exact unit_fin_of_nonpos (div_nonpos_of_nonneg_of_nonpos ha hm.le)
      rw [hleft]
      exact unit_nonneg _
    · subst hm
      rw [fin_div_zero, fin_div_zero, unit_infWithSign ha, unit_infWithSign (ha.trans hab)]
    · rw [fin_div_fin a hm.ne', fin_div_fin b hm.ne']
      exact unit_fin_mono (div_le_div_of_nonneg_right hab hm.le)

theorem unit_fin_div_le_posInf_div {a : K} (m : Double K) (ha : 0 ≤ a) :
    unit (fin a / m) ≤ unit (posInf / m) := by
  cases m with
  | nan => exact le_rfl
  | posInf => exact unit_le_one _
  | negInf => exact unit_le_one _
  | fin m =>
    by_cases hm : m < 0
    · have hleft : unit (fin a / fin m) = 0 := by
        rw [fin_div_fin a hm.ne]
        exact unit_fin_of_nonpos (div_nonpos_of_nonneg_of_nonpos ha hm.le)
      rw [hleft]
      exact unit_nonneg _
    · have hright : (posInf : Double K) / fin m = posInf := if_neg hm
      rw [hright]
      exact unit_le_one _

/-- A clamped ratio grows with a nonnegative numerator whatever the
denominator is: negative denominators clamp to `0`, zero and NaN to `1`. -/
theorem unit_div_mono {a b : Double K} (m : Double K) (ha : le (fin 0) a = true)
    (hab : le a b = true) : unit (a / m) ≤ unit (b / m) := by
  cases a with
  | nan => cases ha
  | negInf => cases ha
  | posInf =>
    cases b with
    | posInf => exact le_rfl
    | _ => cases hab
  | fin a =>
    have ha : 0 ≤ a := of_decide_eq_true ha
    cases b with
    | nan => cases hab
    | negInf => cases hab
    | posInf => exact unit_fin_div_le_posInf_div m ha
    | fin b => exact unit_fin_div_mono m ha (of_decide_eq_true hab)

end UnitInterval

end Double
end DartDouble
