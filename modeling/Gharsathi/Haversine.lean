import Gharsathi.DartMath

/-!
# Distances between coordinates

The haversine formula as two of the services compute it, on doubles. In exact
arithmetic it is a finite nonnegative number between finite coordinates,
whatever the latitudes are, because the value under the square root never leaves
the unit interval. With rounding the value can come out above one, and then the
distance is NaN.
-/

namespace Haversine

open DartDouble DartMath

section Formula
variable {K : Type} [Field K] [LinearOrder K]

/-- `math.pow` with a natural exponent. -/
def pow (x : Double K) : Nat → Double K
  | 0 => .fin 1
  | n + 1 => pow x n * x

/-- The distance in kilometres, with coordinates in degrees. -/
def calculateDistance (M : Functions K) (lat1 long1 lat2 long2 : Double K) : Double K :=
  let dLat := (lat2 - lat1) * .fin M.pi / .fin 180
  let dLon := (long2 - long1) * .fin M.pi / .fin 180
  let lat1 := lat1 * .fin M.pi / .fin 180
  let lat2 := lat2 * .fin M.pi / .fin 180
  let value := pow (M.sinD (dLat / .fin 2)) 2 +
    pow (M.sinD (dLon / .fin 2)) 2 * M.cosD lat1 * M.cosD lat2
  let rad := .fin 6371
  let value2 := .fin 2 * M.asinD (M.sqrtD value)
  rad * value2

/-- The formula in the arithmetic of a machine. -/
def distance (A : Arithmetic K) (lat1 long1 lat2 long2 : Double K) : Double K :=
  let dLat := A.div (A.mul (A.sub lat2 lat1) A.pi) (.fin 180)
  let dLon := A.div (A.mul (A.sub long2 long1) A.pi) (.fin 180)
  let lat1 := A.div (A.mul lat1 A.pi) (.fin 180)
  let lat2 := A.div (A.mul lat2 A.pi) (.fin 180)
  let value := A.add (A.pow (A.sin (A.div dLat (.fin 2))) 2)
    (A.mul (A.mul (A.pow (A.sin (A.div dLon (.fin 2))) 2) (A.cos lat1)) (A.cos lat2))
  let rad := .fin 6371
  let value2 := A.mul (.fin 2) (A.asin (A.sqrt value))
  A.mul rad value2

/-- Arithmetic without rounding. -/
def exact (M : Functions K) : Arithmetic K where
  pi := .fin M.pi
  add := (· + ·)
  sub := (· - ·)
  mul := (· * ·)
  div := (· / ·)
  pow := pow
  sin := M.sinD
  cos := M.cosD
  asin := M.asinD
  sqrt := M.sqrtD

instance : Coe (Functions K) (Arithmetic K) := ⟨exact⟩

theorem distance_exact (M : Functions K) : distance (exact M) = calculateDistance M := rfl

/-- The `value` of `calculateDistance`, which goes under the square root. -/
def value (M : Functions K) (lat1 long1 lat2 long2 : Double K) : Double K :=
  let dLat := (lat2 - lat1) * .fin M.pi / .fin 180
  let dLon := (long2 - long1) * .fin M.pi / .fin 180
  let lat1 := lat1 * .fin M.pi / .fin 180
  let lat2 := lat2 * .fin M.pi / .fin 180
  pow (M.sinD (dLat / .fin 2)) 2 + pow (M.sinD (dLon / .fin 2)) 2 * M.cosD lat1 * M.cosD lat2

theorem calculateDistance_value (M : Functions K) (lat1 long1 lat2 long2 : Double K) :
    calculateDistance M lat1 long1 lat2 long2 =
      .fin 6371 * (.fin 2 * M.asinD (M.sqrtD (value M lat1 long1 lat2 long2))) := rfl

/-- An angle in degrees, as the formula converts it. -/
def toRadians (M : Functions K) (degrees : K) : K := degrees * M.pi / 180

@[simp] theorem pow_fin_two (x : K) : pow (.fin x) 2 = .fin (x ^ 2) := by
  simp only [pow, Double.fin_mul_fin, one_mul, sq]

variable [IsStrictOrderedRing K]

/-- The last steps of the formula give NaN or a nonnegative number. -/
theorem arc_nan_or_nonneg (M : Functions K) (value : Double K) :
    .fin 6371 * (.fin 2 * M.asinD (M.sqrtD value)) = .nan ∨
      ∃ d : K, 0 ≤ d ∧ .fin 6371 * (.fin 2 * M.asinD (M.sqrtD value)) = .fin d := by
  have hnan : ∀ x : Double K, M.asinD x = .nan →
      (.fin 6371 * (.fin 2 * M.asinD x) : Double K) = .nan := by
    intro x hx
    rw [hx]
    rfl
  cases value with
  | nan => exact Or.inl (hnan _ rfl)
  | negInf => exact Or.inl (hnan _ rfl)
  | posInf => exact Or.inl (hnan _ rfl)
  | fin v =>
    by_cases hneg : v < 0
    · left
      exact hnan _ (by simp [Functions.sqrtD, Functions.asinD, hneg])
    · have hsqrt : M.sqrtD (.fin v) = .fin (M.sqrt v) := by simp [Functions.sqrtD, hneg]
      by_cases hin : -1 ≤ M.sqrt v ∧ M.sqrt v ≤ 1
      · have hasin : M.asinD (.fin (M.sqrt v)) = .fin (M.asin (M.sqrt v)) := if_pos hin
        right
        refine ⟨6371 * (2 * M.asin (M.sqrt v)), ?_, ?_⟩
        · have hpos := M.asin_nonneg _ (M.sqrt_nonneg v (not_lt.mp hneg)) hin.2
          positivity
        · rw [hsqrt, hasin]
          rfl
      · left
        refine hnan _ ?_
        rw [hsqrt]
        exact if_neg hin

theorem calculateDistance_nan_or_nonneg (M : Functions K) (lat1 long1 lat2 long2 : Double K) :
    calculateDistance M lat1 long1 lat2 long2 = .nan ∨
      ∃ d : K, 0 ≤ d ∧ calculateDistance M lat1 long1 lat2 long2 = .fin d :=
  arc_nan_or_nonneg M _

/-- On the unit interval the square root and the arc sine are in their domains. -/
theorem arc_fin (M : Functions K) {h : K} (hlow : 0 ≤ h) (hhigh : h ≤ 1) :
    (.fin 6371 * (.fin 2 * M.asinD (M.sqrtD (.fin h))) : Double K) =
      .fin (6371 * (2 * M.asin (M.sqrt h))) := by
  have hsqrt := M.sqrt_nonneg h hlow
  have hone := M.sqrt_le_one h hlow hhigh
  simp only [Functions.sqrtD, if_neg (not_lt.mpr hlow), Functions.asinD]
  rw [if_pos ⟨by linarith, hone⟩]
  rfl

/-- The formula on finite coordinates, with the haversine named. -/
theorem calculateDistance_fin (M : Functions K) (lat1 long1 lat2 long2 : K) :
    ∃ h : K, 0 ≤ h ∧ h ≤ 1 ∧
      calculateDistance M (.fin lat1) (.fin long1) (.fin lat2) (.fin long2) =
        .fin (6371 * (2 * M.asin (M.sqrt h))) ∧
      h = M.sin ((lat2 - lat1) * M.pi / 180 / 2) ^ 2 +
        M.sin ((long2 - long1) * M.pi / 180 / 2) ^ 2 *
          M.cos (lat1 * M.pi / 180) * M.cos (lat2 * M.pi / 180) := by
  obtain ⟨hlow, hhigh⟩ := M.haversine_mem_unit (lat1 * M.pi / 180) (lat2 * M.pi / 180)
    ((long2 - long1) * M.pi / 180)
  have hlat : (lat2 * M.pi / 180 - lat1 * M.pi / 180) / 2 = (lat2 - lat1) * M.pi / 180 / 2 := by
    ring
  rw [hlat] at hlow hhigh
  refine ⟨_, hlow, hhigh, ?_, rfl⟩
  have h180 : (180 : K) ≠ 0 := by norm_num
  have htwo : (2 : K) ≠ 0 := by norm_num
  rw [← arc_fin M hlow hhigh]
  simp only [calculateDistance, Double.fin_sub_fin, Double.fin_mul_fin, Double.fin_div_fin _ h180,
    Double.fin_div_fin _ htwo, Functions.sinD, Functions.cosD, pow_fin_two, Double.fin_add_fin]

/-- Between finite coordinates there is a distance. -/
theorem calculateDistance_finite (M : Functions K) (lat1 long1 lat2 long2 : K) :
    ∃ d : K, 0 ≤ d ∧
      calculateDistance M (.fin lat1) (.fin long1) (.fin lat2) (.fin long2) = .fin d := by
  obtain ⟨h, hlow, hhigh, heq, _⟩ := calculateDistance_fin M lat1 long1 lat2 long2
  have hpos := M.asin_nonneg _ (M.sqrt_nonneg h hlow) (M.sqrt_le_one h hlow hhigh)
  exact ⟨_, by positivity, heq⟩

/-- A place is at distance zero from itself. -/
theorem calculateDistance_self (M : Functions K) (lat long : K) :
    calculateDistance M (.fin lat) (.fin long) (.fin lat) (.fin long) = .fin 0 := by
  obtain ⟨h, _, _, heq, hval⟩ := calculateDistance_fin M lat long lat long
  have hzero : h = 0 := by
    rw [hval]
    simp [M.sin_zero]
  rw [heq, hzero, M.sqrt_zero, M.asin_zero]
  simp

end Formula

end Haversine
