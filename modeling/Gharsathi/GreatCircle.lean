import Gharsathi.PropertyFiltering
import Gharsathi.RecommendationSys
import Gharsathi.UnitSphere

/-!
# The haversine formula over the real numbers

With the real functions for those of `dart:math`, the distance both services
compute is the radius of the earth times the arc between the two places on the
unit sphere. It follows that the distance does not depend on the order of the
places or on the way round in which a longitude is counted. Rounding is left
out here as everywhere.
-/

namespace GreatCircle

open DartDouble DartMath Haversine UnitSphere InnerProductGeometry

noncomputable def radians (degrees : ℝ) : ℝ := toRadians Functions.real degrees

theorem radians_eq (degrees : ℝ) : radians degrees = degrees * Real.pi / 180 := rfl

/-- The place with coordinates in degrees. -/
noncomputable def placeAt (lat long : ℝ) : EuclideanSpace ℝ (Fin 3) :=
  place (radians lat) (radians long)

/-- A distance function that measures along great circles, for all coordinates. -/
structure IsGreatCircle
    (calculateDistance : Double ℝ → Double ℝ → Double ℝ → Double ℝ → Double ℝ) : Prop where
  inDomain : ∀ lat1 long1 lat2 long2 : ℝ, ∃ h,
    value Functions.real (.fin lat1) (.fin long1) (.fin lat2) (.fin long2) = .fin h ∧
      0 ≤ h ∧ h ≤ 1 ∧ calculateDistance (.fin lat1) (.fin long1) (.fin lat2) (.fin long2) =
        .fin (6371 * (2 * Real.arcsin √h))
  arc : ∀ lat1 long1 lat2 long2 : ℝ,
    calculateDistance (.fin lat1) (.fin long1) (.fin lat2) (.fin long2) =
      .fin (6371 * Real.arccos (Real.sin (radians lat1) * Real.sin (radians lat2) +
        Real.cos (radians lat1) * Real.cos (radians lat2) * Real.cos (radians (long2 - long1))))
  symmetric : ∀ lat1 long1 lat2 long2 : ℝ,
    calculateDistance (.fin lat1) (.fin long1) (.fin lat2) (.fin long2) =
      calculateDistance (.fin lat2) (.fin long2) (.fin lat1) (.fin long1)
  range : ∀ lat1 long1 lat2 long2 : ℝ, ∃ d, 0 ≤ d ∧ d ≤ 6371 * Real.pi ∧
    calculateDistance (.fin lat1) (.fin long1) (.fin lat2) (.fin long2) = .fin d
  zero_iff : ∀ lat1 long1 lat2 long2 : ℝ,
    calculateDistance (.fin lat1) (.fin long1) (.fin lat2) (.fin long2) = .fin 0 ↔
      placeAt lat1 long1 = placeAt lat2 long2
  shift_left : ∀ (lat1 long1 lat2 long2 : ℝ) (k : ℤ),
    calculateDistance (.fin lat1) (.fin (long1 + k * 360)) (.fin lat2) (.fin long2) =
      calculateDistance (.fin lat1) (.fin long1) (.fin lat2) (.fin long2)
  shift_right : ∀ (lat1 long1 lat2 long2 : ℝ) (k : ℤ),
    calculateDistance (.fin lat1) (.fin long1) (.fin lat2) (.fin (long2 + k * 360)) =
      calculateDistance (.fin lat1) (.fin long1) (.fin lat2) (.fin long2)

theorem radians_sub (x y : ℝ) : radians (x - y) = radians x - radians y := by
  simp only [radians_eq]
  ring

theorem placeAt_shift (lat long : ℝ) (k : ℤ) : placeAt lat (long + k * 360) = placeAt lat long := by
  have hturn : radians (long + k * 360) = radians long + k * (2 * Real.pi) := by
    simp only [radians_eq]
    ring
  rw [placeAt, hturn, place_add_two_pi]
  rfl

/-- The value is half of what the cosine of the arc lacks to one. -/
theorem value_fin (lat1 long1 lat2 long2 : ℝ) :
    value Functions.real (.fin lat1) (.fin long1) (.fin lat2) (.fin long2) =
      .fin ((1 - arcCos (radians lat1) (radians long1) (radians lat2) (radians long2)) / 2) := by
  have hlat := Functions.real.two_sin_sq_half (radians lat2 - radians lat1)
  have hlon := Functions.real.two_sin_sq_half (radians long2 - radians long1)
  have hsub := Functions.real.cos_sub (radians lat2) (radians lat1)
  have h180 : (180 : ℝ) ≠ 0 := by norm_num
  have htwo : (2 : ℝ) ≠ 0 := two_ne_zero
  simp only [value, Double.fin_sub_fin, Double.fin_mul_fin, Double.fin_div_fin _ h180,
    Double.fin_div_fin _ htwo, Functions.sinD, Functions.cosD, pow_fin_two, Double.fin_add_fin]
  congr 1
  rw [← radians_sub] at hlat hlon hsub
  rw [arcCos, ← radians_sub]
  simp only [Functions.real, radians_eq] at hlat hlon hsub ⊢
  linear_combination hlat / 2 - hsub / 2 +
    Real.cos (lat1 * Real.pi / 180) * Real.cos (lat2 * Real.pi / 180) * hlon / 2

theorem value_mem (lat1 long1 lat2 long2 : ℝ) :
    0 ≤ (1 - arcCos lat1 long1 lat2 long2) / 2 ∧ (1 - arcCos lat1 long1 lat2 long2) / 2 ≤ 1 := by
  obtain ⟨hlow, hhigh⟩ := arcCos_mem lat1 long1 lat2 long2
  constructor
  · linarith
  · linarith

/-- The distance is the radius times the angle between the two places. -/
theorem calculateDistance_angle (lat1 long1 lat2 long2 : ℝ) :
    calculateDistance Functions.real (.fin lat1) (.fin long1) (.fin lat2) (.fin long2) =
      .fin (6371 * angle (placeAt lat1 long1) (placeAt lat2 long2)) := by
  obtain ⟨hlow, hhigh⟩ := value_mem (radians lat1) (radians long1) (radians lat2) (radians long2)
  obtain ⟨hcos, hcos'⟩ := arcCos_mem (radians lat1) (radians long1) (radians lat2) (radians long2)
  rw [calculateDistance_value, value_fin, arc_fin _ hlow hhigh]
  congr 2
  rw [placeAt, placeAt, angle_place]
  exact two_arcsin_sqrt hcos hcos'

theorem calculateDistance_isGreatCircle : IsGreatCircle (calculateDistance Functions.real) where
  inDomain lat1 long1 lat2 long2 := by
    obtain ⟨hlow, hhigh⟩ := value_mem (radians lat1) (radians long1) (radians lat2) (radians long2)
    refine ⟨_, value_fin lat1 long1 lat2 long2, hlow, hhigh, ?_⟩
    rw [calculateDistance_value, value_fin, arc_fin _ hlow hhigh]
    rfl
  arc lat1 long1 lat2 long2 := by
    rw [calculateDistance_angle, placeAt, placeAt, angle_place, arcCos, radians_sub]
  symmetric lat1 long1 lat2 long2 := by
    rw [calculateDistance_angle, calculateDistance_angle, angle_comm]
  range lat1 long1 lat2 long2 := by
    have hpos := angle_nonneg (placeAt lat1 long1) (placeAt lat2 long2)
    have hpi := angle_le_pi (placeAt lat1 long1) (placeAt lat2 long2)
    refine ⟨_, ?_, ?_, calculateDistance_angle lat1 long1 lat2 long2⟩
    · positivity
    · gcongr
  zero_iff lat1 long1 lat2 long2 := by
    have hzero : angle (placeAt lat1 long1) (placeAt lat2 long2) = 0 ↔
        placeAt lat1 long1 = placeAt lat2 long2 := angle_eq_zero_iff_place_eq _ _ _ _
    rw [calculateDistance_angle, Double.fin.injEq, ← hzero]
    constructor
    · intro h
      linarith
    · intro h
      rw [h, mul_zero]
  shift_left lat1 long1 lat2 long2 k := by
    rw [calculateDistance_angle, calculateDistance_angle, placeAt_shift]
  shift_right lat1 long1 lat2 long2 k := by
    rw [calculateDistance_angle, calculateDistance_angle, placeAt_shift]

/-- Both copies of the formula give the distance along the great circle. -/
theorem distances_greatCircle :
    IsGreatCircle (RecommendationSys.calculateDistance Functions.real) ∧
      IsGreatCircle (PropertyFiltering.calculateDistance Functions.real) :=
  ⟨calculateDistance_isGreatCircle, calculateDistance_isGreatCircle⟩

end GreatCircle
