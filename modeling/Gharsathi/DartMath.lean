import Gharsathi.DartDouble
import Mathlib.Analysis.SpecialFunctions.Trigonometric.Inverse
import Mathlib.Tactic.Ring
import Mathlib.Tactic.LinearCombination

/-!
# The `dart:math` functions

The functions of `dart:math` are taken over an arbitrary ordered field together
with the documented facts used about them: the addition and Pythagoras laws of
sine and cosine, and the ranges of the square root and of the arc sine. Applied
to a `double` they give NaN outside their domains. An `Arithmetic` promises none
of this: it is what a machine computes, with whatever rounding.
-/

namespace DartMath

open DartDouble

universe u

structure Functions (K : Type u) [Field K] [LinearOrder K] where
  pi : K
  sin : K → K
  cos : K → K
  asin : K → K
  sqrt : K → K
  sin_neg : ∀ x, sin (-x) = -sin x
  cos_sub : ∀ x y, cos (x - y) = cos x * cos y + sin x * sin y
  sin_sq_add_cos_sq : ∀ x, sin x ^ 2 + cos x ^ 2 = 1
  sqrt_zero : sqrt 0 = 0
  sqrt_nonneg : ∀ x, 0 ≤ x → 0 ≤ sqrt x
  sqrt_le_one : ∀ x, 0 ≤ x → x ≤ 1 → sqrt x ≤ 1
  asin_zero : asin 0 = 0
  asin_nonneg : ∀ x, 0 ≤ x → x ≤ 1 → 0 ≤ asin x

/-- The operations on `double` as a machine computes them. -/
structure Arithmetic (K : Type u) where
  pi : Double K
  add : Double K → Double K → Double K
  sub : Double K → Double K → Double K
  mul : Double K → Double K → Double K
  div : Double K → Double K → Double K
  pow : Double K → Nat → Double K
  sin : Double K → Double K
  cos : Double K → Double K
  asin : Double K → Double K
  sqrt : Double K → Double K

namespace Functions

/-- The functions themselves, over the real numbers. -/
noncomputable def real : Functions ℝ where
  pi := Real.pi
  sin := Real.sin
  cos := Real.cos
  asin := Real.arcsin
  sqrt := Real.sqrt
  sin_neg := Real.sin_neg
  cos_sub := Real.cos_sub
  sin_sq_add_cos_sq := Real.sin_sq_add_cos_sq
  sqrt_zero := Real.sqrt_zero
  sqrt_nonneg x _ := Real.sqrt_nonneg x
  sqrt_le_one _ _ h := Real.sqrt_le_one.mpr h
  asin_zero := Real.arcsin_zero
  asin_nonneg _ h _ := Real.arcsin_nonneg.mpr h

section Lifted
variable {K : Type u} [Field K] [LinearOrder K] (M : Functions K)

def sinD : Double K → Double K
  | .fin x => .fin (M.sin x)
  | _ => .nan

def cosD : Double K → Double K
  | .fin x => .fin (M.cos x)
  | _ => .nan

def asinD : Double K → Double K
  | .fin x => if -1 ≤ x ∧ x ≤ 1 then .fin (M.asin x) else .nan
  | _ => .nan

def sqrtD : Double K → Double K
  | .fin x => if x < 0 then .nan else .fin (M.sqrt x)
  | .posInf => .posInf
  | _ => .nan

end Lifted

section Laws
variable {K : Type u} [Field K] [LinearOrder K] [IsStrictOrderedRing K] (M : Functions K)

theorem sin_zero : M.sin 0 = 0 := by
  have h := M.sin_neg 0
  rw [neg_zero] at h
  linarith

theorem cos_zero : M.cos 0 = 1 := by
  have h := M.cos_sub 0 0
  have hp := M.sin_sq_add_cos_sq 0
  rw [sub_zero] at h
  linear_combination h + hp

theorem cos_neg (x : K) : M.cos (-x) = M.cos x := by
  have h := M.cos_sub 0 x
  rw [zero_sub, M.cos_zero, M.sin_zero] at h
  linear_combination h

/-- The half-angle law the haversine formula rests on. -/
theorem two_sin_sq_half (x : K) : 2 * M.sin (x / 2) ^ 2 = 1 - M.cos x := by
  have h := M.cos_sub (x / 2) (-(x / 2))
  have hx : x / 2 - -(x / 2) = x := by ring
  rw [hx, M.cos_neg, M.sin_neg] at h
  linear_combination M.sin_sq_add_cos_sq (x / 2) + h

theorem cos_sq_le_one (x : K) : M.cos x ^ 2 ≤ 1 := by
  have h := M.sin_sq_add_cos_sq x
  have hs := sq_nonneg (M.sin x)
  linarith

/-- Twice the distance from `1` of a unit vector's product with another one
is a sum of squares, so the product stays in `[-1, 1]`. -/
theorem unit_product_le_one {s t c d e : K} (hsc : s ^ 2 + c ^ 2 = 1)
    (htd : t ^ 2 + d ^ 2 = 1) (he : e ^ 2 ≤ 1) : s * t + c * d * e ≤ 1 := by
  have hst := sq_nonneg (s - t)
  have hce := sq_nonneg (c - e * d)
  have hd : 0 ≤ (1 - e ^ 2) * d ^ 2 := mul_nonneg (by linarith) (sq_nonneg d)
  linarith

/-- The haversine of the central angle, without any bound on the latitudes. -/
theorem haversine_mem_unit (a b l : K) :
    0 ≤ M.sin ((b - a) / 2) ^ 2 + M.sin (l / 2) ^ 2 * M.cos a * M.cos b ∧
      M.sin ((b - a) / 2) ^ 2 + M.sin (l / 2) ^ 2 * M.cos a * M.cos b ≤ 1 := by
  have hlat := M.two_sin_sq_half (b - a)
  have hlon := M.two_sin_sq_half l
  have hsub := M.cos_sub b a
  have ha := M.sin_sq_add_cos_sq a
  have hb := M.sin_sq_add_cos_sq b
  have hl := M.cos_sq_le_one l
  have heq : 2 * (M.sin ((b - a) / 2) ^ 2 + M.sin (l / 2) ^ 2 * M.cos a * M.cos b) =
      1 - (M.sin a * M.sin b + M.cos a * M.cos b * M.cos l) := by
    linear_combination hlat - hsub + hlon * M.cos a * M.cos b
  have hupper := unit_product_le_one ha hb hl
  have hneg : (-M.sin a) ^ 2 + M.cos a ^ 2 = 1 := by rw [neg_sq]; exact ha
  have hlower := unit_product_le_one (e := -M.cos l) hneg hb (by rw [neg_sq]; exact hl)
  constructor
  · linarith
  · linarith

end Laws

end Functions
end DartMath
