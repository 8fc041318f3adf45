import Mathlib.Geometry.Euclidean.Angle.Unoriented.Basic
import Mathlib.Analysis.InnerProductSpace.PiL2

/-!
# Places on the unit sphere

A latitude and a longitude, in radians, name a unit vector. The arc between two
places is the angle between their vectors, and half of it is the arc sine of a
square root, the form in which navigators compute it. Nothing is asked of the
coordinates: a latitude beyond a pole names a place on the other side.
-/

namespace UnitSphere

open Real InnerProductGeometry

/-- The unit vector of a place. -/
noncomputable def place (lat long : ℝ) : EuclideanSpace ℝ (Fin 3) :=
  WithLp.toLp _ ![cos lat * cos long, cos lat * sin long, sin lat]

/-- The cosine of the arc between two places. -/
noncomputable def arcCos (lat1 long1 lat2 long2 : ℝ) : ℝ :=
  sin lat1 * sin lat2 + cos lat1 * cos lat2 * cos (long2 - long1)

theorem inner_place (lat1 long1 lat2 long2 : ℝ) :
    inner ℝ (place lat1 long1) (place lat2 long2) = arcCos lat1 long1 lat2 long2 := by
  simp only [place, arcCos, EuclideanSpace.inner_toLp_toLp, dotProduct, Fin.sum_univ_three,
    star_trivial, Pi.star_apply, Matrix.cons_val_zero, Matrix.cons_val_one, Matrix.cons_val]
  rw [cos_sub]
  ring

theorem norm_place (lat long : ℝ) : ‖place lat long‖ = 1 := by
  have hsq : ‖place lat long‖ ^ 2 = 1 := by
    rw [← real_inner_self_eq_norm_sq, inner_place, arcCos, sub_self, cos_zero, mul_one]
    linear_combination sin_sq_add_cos_sq lat
  exact (pow_eq_one_iff_of_nonneg (norm_nonneg _) two_ne_zero).mp hsq

theorem arcCos_mem (lat1 long1 lat2 long2 : ℝ) :
    -1 ≤ arcCos lat1 long1 lat2 long2 ∧ arcCos lat1 long1 lat2 long2 ≤ 1 := by
  have h := abs_real_inner_le_norm (place lat1 long1) (place lat2 long2)
  rw [norm_place, norm_place, mul_one, inner_place] at h
  exact abs_le.mp h

theorem angle_place (lat1 long1 lat2 long2 : ℝ) :
    angle (place lat1 long1) (place lat2 long2) = arccos (arcCos lat1 long1 lat2 long2) := by
  rw [angle, norm_place, norm_place, mul_one, div_one, inner_place]

/-- The arc is zero exactly between a place and itself. -/
theorem angle_eq_zero_iff_place_eq (lat1 long1 lat2 long2 : ℝ) :
    angle (place lat1 long1) (place lat2 long2) = 0 ↔ place lat1 long1 = place lat2 long2 := by
  rw [angle_place, arccos_eq_zero, ← inner_place]
  constructor
  · intro h
    have hle := real_inner_le_one_of_norm_eq_one (norm_place lat1 long1) (norm_place lat2 long2)
    exact (inner_eq_one_iff_of_norm_eq_one (norm_place _ _) (norm_place _ _)).mp (le_antisymm hle h)
  · intro h
    rw [h]
    exact ((inner_eq_one_iff_of_norm_eq_one (norm_place _ _) (norm_place _ _)).mpr rfl).ge

theorem place_add_two_pi (lat long : ℝ) (k : ℤ) :
    place lat (long + k * (2 * π)) = place lat long := by
  rw [place, place, cos_add_int_mul_two_pi, sin_add_int_mul_two_pi]

/-- Half of an arc is the arc sine of the root of half its versed sine. -/
theorem two_arcsin_sqrt {c : ℝ} (hlow : -1 ≤ c) (hhigh : c ≤ 1) :
    2 * arcsin √((1 - c) / 2) = arccos c := by
  have h0 := arccos_nonneg c
  have hpi := arccos_le_pi c
  have hsin : sin (arccos c / 2) = √((1 - c) / 2) := by
    rw [sin_half_eq_sqrt h0 (by linarith [pi_pos]), cos_arccos hlow hhigh]
  rw [← hsin, arcsin_sin (by linarith [pi_pos]) (by linarith)]
  ring

end UnitSphere
