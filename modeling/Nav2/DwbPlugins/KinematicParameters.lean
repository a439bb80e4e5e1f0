import Nav2.Msgs
import Nav2.Double

/-!
# Kinematic parameters

`dwb_plugins::KinematicParameters` and its predicate `isValidSpeed`, which the velocity
iterators use to filter candidate twists. The magnitude limits are compared in squared form,
against the squares that `initialize` caches, and all of it is computed in doubles: the model
takes the rounding `fl` as a parameter (`Double`) and rounds each product and each sum of the
source.

In exact arithmetic the squared test decides the unsquared test on `hypot(x, y)`. With rounding
it does so for every twist whose squared magnitude is clear of each enabled limit by the
rounding margin (`isValidSpeed_iff_hypot_off_limits`), and at a limit it need not: for the
doubles nearest 0.288, 0.33 and 0.438, `hypot(x, y)` is below `max_speed_xy` and the twist is
rejected (`isValidSpeed_rejects_below_max`).
-/

namespace DwbPlugins
open Double

/-- The fields of `KinematicParameters` that `isValidSpeed` reads, for doubles rounded by `fl`.
The two cached squares carry the equation `initialize` establishes for them: the rounded product
of the limit with itself. A negative limit means "disabled". -/
structure KinematicParameters {α : Type} [LinearOrderedField α] (fl : α → α) where
  minSpeedXY : α
  maxSpeedXY : α
  minSpeedTheta : α
  minSpeedXYSq : α
  maxSpeedXYSq : α
  minSpeedXYSq_eq : minSpeedXYSq = fl (minSpeedXY * minSpeedXY)
  maxSpeedXYSq_eq : maxSpeedXYSq = fl (maxSpeedXY * maxSpeedXY)

namespace KinematicParameters

variable {α : Type} [LinearOrderedField α] {fl : α → α}

/-- `initialize` (named `ofParams` here): read the three limits and cache the squares of the
two magnitude limits. -/
def ofParams (fl : α → α) (minSpeedXY maxSpeedXY minSpeedTheta : α) : KinematicParameters fl :=
  ⟨minSpeedXY, maxSpeedXY, minSpeedTheta, fl (minSpeedXY * minSpeedXY),
    fl (maxSpeedXY * maxSpeedXY), rfl, rfl⟩

/-- `KinematicParameters::isValidSpeed`. -/
def isValidSpeed (k : KinematicParameters fl) (x y theta : α) : Bool :=
  let vmagSq := fl (fl (x * x) + fl (y * y))
  if k.maxSpeedXY ≥ 0 ∧ vmagSq > k.maxSpeedXYSq then false
  else if k.minSpeedXY ≥ 0 ∧ vmagSq < k.minSpeedXYSq ∧
      k.minSpeedTheta ≥ 0 ∧ |theta| < k.minSpeedTheta then false
  else if vmagSq = 0 ∧ theta = 0 then false
  else true

/-- The three early returns of `isValidSpeed`, as one conjunction. -/
theorem isValidSpeed_eq_true (k : KinematicParameters fl) (x y theta : α) :
    k.isValidSpeed x y theta = true ↔
      ¬(k.maxSpeedXY ≥ 0 ∧ fl (fl (x * x) + fl (y * y)) > fl (k.maxSpeedXY * k.maxSpeedXY)) ∧
      ¬(k.minSpeedXY ≥ 0 ∧ fl (fl (x * x) + fl (y * y)) < fl (k.minSpeedXY * k.minSpeedXY) ∧
        k.minSpeedTheta ≥ 0 ∧ |theta| < k.minSpeedTheta) ∧
      ¬(fl (fl (x * x) + fl (y * y)) = 0 ∧ theta = 0) := by
  simp only [isValidSpeed, ← k.minSpeedXYSq_eq, ← k.maxSpeedXYSq_eq, Bool.ite_eq_true_distrib,
    Bool.false_eq_true, if_false_left, if_true_right, and_true]

end KinematicParameters

-- ════════════════════════════════════════════════════════════════════════
-- The rounded squared magnitude
-- ════════════════════════════════════════════════════════════════════════

section Rounded

variable {fl : ℝ → ℝ} {u : ℝ}

/-- The rounded `vmag_sq` lies within the rounding margin of `x * x + y * y`. -/
theorem vmagSq_bounds (hfl : RelErr fl u) (hu : u < 1) (x y : ℝ) :
    (x * x + y * y) * (1 - u) ^ 2 ≤ fl (fl (x * x) + fl (y * y)) ∧
      fl (fl (x * x) + fl (y * y)) ≤ (x * x + y * y) * (1 + u) ^ 2 := by
  have hu0 := hfl.nonneg
  have hs : 0 ≤ x * x + y * y := add_nonneg (mul_self_nonneg x) (mul_self_nonneg y)
  obtain ⟨hx1, hx2⟩ := hfl.bounds (mul_self_nonneg x)
  obtain ⟨hy1, hy2⟩ := hfl.bounds (mul_self_nonneg y)
  have hlo : (x * x + y * y) * (1 - u) ≤ fl (x * x) + fl (y * y) :=
    (add_mul _ _ _).trans_le (add_le_add hx1 hy1)
  have hhi : fl (x * x) + fl (y * y) ≤ (x * x + y * y) * (1 + u) :=
    (add_le_add hx2 hy2).trans_eq (add_mul _ _ _).symm
  obtain ⟨h1, h2⟩ := hfl.bounds ((mul_nonneg hs (sub_nonneg.mpr hu.le)).trans hlo)
  constructor
  · calc (x * x + y * y) * (1 - u) ^ 2 = (x * x + y * y) * (1 - u) * (1 - u) := by ring
      _ ≤ (fl (x * x) + fl (y * y)) * (1 - u) :=
        mul_le_mul_of_nonneg_right hlo (sub_nonneg.mpr hu.le)
      _ ≤ _ := h1
  · calc _ ≤ (fl (x * x) + fl (y * y)) * (1 + u) := h2
      _ ≤ (x * x + y * y) * (1 + u) * (1 + u) :=
        mul_le_mul_of_nonneg_right hhi (add_nonneg zero_le_one hu0)
      _ = _ := by ring

theorem vmagSq_eq_zero_iff (hfl : RelErr fl u) (hu : u < 1) (x y : ℝ) :
    fl (fl (x * x) + fl (y * y)) = 0 ↔ x = 0 ∧ y = 0 := by
  obtain ⟨hlo, hhi⟩ := vmagSq_bounds hfl hu x y
  have hs : 0 ≤ x * x + y * y := add_nonneg (mul_self_nonneg x) (mul_self_nonneg y)
  rw [← mul_self_add_mul_self_eq_zero]
  constructor
  · intro h0
    rw [h0] at hlo
    exact le_antisymm (nonpos_of_mul_nonpos_left hlo (pow_pos (sub_pos.mpr hu) 2)) hs
  · intro h0
    rw [h0, zero_mul] at hlo hhi
    exact le_antisymm hhi hlo

variable {x y L : ℝ}

/-- Below a limit by the margin, the rounded magnitude stays at or below the rounded limit. -/
theorem vmagSq_le_of_clear (hfl : RelErr fl u) (hu : u < 1)
    (h : (x * x + y * y) * (1 + u) ^ 2 ≤ L * L * (1 - u)) :
    fl (fl (x * x) + fl (y * y)) ≤ fl (L * L) ∧ x * x + y * y ≤ L * L := by
  have hu0 := hfl.nonneg
  have hgrow : x * x + y * y ≤ (x * x + y * y) * (1 + u) ^ 2 :=
    le_mul_of_one_le_right (add_nonneg (mul_self_nonneg x) (mul_self_nonneg y))
      (one_le_pow₀ (le_add_of_nonneg_right hu0))
  exact ⟨(vmagSq_bounds hfl hu x y).2.trans (h.trans (hfl.bounds (mul_self_nonneg L)).1),
    hgrow.trans (h.trans (mul_le_of_le_one_right (mul_self_nonneg L) (sub_le_self 1 hu0)))⟩

theorem vmagSq_lt_of_clear (hfl : RelErr fl u) (hu : u < 1)
    (h : (x * x + y * y) * (1 + u) ^ 2 < L * L * (1 - u)) :
    fl (fl (x * x) + fl (y * y)) < fl (L * L) ∧ x * x + y * y < L * L := by
  have hu0 := hfl.nonneg
  have hgrow : x * x + y * y ≤ (x * x + y * y) * (1 + u) ^ 2 :=
    le_mul_of_one_le_right (add_nonneg (mul_self_nonneg x) (mul_self_nonneg y))
      (one_le_pow₀ (le_add_of_nonneg_right hu0))
  exact ⟨(vmagSq_bounds hfl hu x y).2.trans_lt (h.trans_le (hfl.bounds (mul_self_nonneg L)).1),
    hgrow.trans_lt (h.trans_le (mul_le_of_le_one_right (mul_self_nonneg L) (sub_le_self 1 hu0)))⟩

/-- Above a limit by the margin, the rounded magnitude stays at or above the rounded limit. -/
theorem le_vmagSq_of_clear (hfl : RelErr fl u) (hu : u < 1)
    (h : L * L * (1 + u) ≤ (x * x + y * y) * (1 - u) ^ 2) :
    fl (L * L) ≤ fl (fl (x * x) + fl (y * y)) ∧ L * L ≤ x * x + y * y := by
  have hu0 := hfl.nonneg
  have hshrink : (x * x + y * y) * (1 - u) ^ 2 ≤ x * x + y * y :=
    mul_le_of_le_one_right (add_nonneg (mul_self_nonneg x) (mul_self_nonneg y))
      (pow_le_one₀ (sub_nonneg.mpr hu.le) (sub_le_self 1 hu0))
  exact ⟨(hfl.bounds (mul_self_nonneg L)).2.trans (h.trans (vmagSq_bounds hfl hu x y).1),
    (le_mul_of_one_le_right (mul_self_nonneg L) (le_add_of_nonneg_right hu0)).trans
      (h.trans hshrink)⟩

theorem lt_vmagSq_of_clear (hfl : RelErr fl u) (hu : u < 1)
    (h : L * L * (1 + u) < (x * x + y * y) * (1 - u) ^ 2) :
    fl (L * L) < fl (fl (x * x) + fl (y * y)) ∧ L * L < x * x + y * y := by
  have hu0 := hfl.nonneg
  have hshrink : (x * x + y * y) * (1 - u) ^ 2 ≤ x * x + y * y :=
    mul_le_of_le_one_right (add_nonneg (mul_self_nonneg x) (mul_self_nonneg y))
      (pow_le_one₀ (sub_nonneg.mpr hu.le) (sub_le_self 1 hu0))
  exact ⟨(hfl.bounds (mul_self_nonneg L)).2.trans_lt (h.trans_le (vmagSq_bounds hfl hu x y).1),
    (le_mul_of_one_le_right (mul_self_nonneg L) (le_add_of_nonneg_right hu0)).trans_lt
      (h.trans_le hshrink)⟩

end Rounded

-- ════════════════════════════════════════════════════════════════════════
-- The unsquared test
-- ════════════════════════════════════════════════════════════════════════

section Hypot

open KinematicParameters

variable {fl : ℝ → ℝ} {u : ℝ}

/-- The maximum test of `isValidSpeed` passes exactly when `hypot(x, y)` is within an enabled
maximum, for a twist clear of the maximum by the margin. -/
theorem not_tooFast_iff (hfl : RelErr fl u) (hu : u < 1) (k : KinematicParameters fl) (x y : ℝ)
    (hmax : k.maxSpeedXY < 0 ∨
      (x * x + y * y) * (1 + u) ^ 2 ≤ k.maxSpeedXY * k.maxSpeedXY * (1 - u) ∨
      k.maxSpeedXY * k.maxSpeedXY * (1 + u) < (x * x + y * y) * (1 - u) ^ 2) :
    ¬(k.maxSpeedXY ≥ 0 ∧ fl (fl (x * x) + fl (y * y)) > fl (k.maxSpeedXY * k.maxSpeedXY)) ↔
      k.maxSpeedXY < 0 ∨ √(x * x + y * y) ≤ k.maxSpeedXY := by
  rcases lt_or_le k.maxSpeedXY 0 with hneg | hnn
  · exact iff_of_true (fun h => absurd h.1 (not_le.mpr hneg)) (.inl hneg)
  have hsqrt := Real.sqrt_mul_self hnn
  rcases hmax with hneg | hbelow | habove
  · exact absurd hnn (not_le.mpr hneg)
  · obtain ⟨hfl', hs⟩ := vmagSq_le_of_clear hfl hu hbelow
    exact iff_of_true (fun h => absurd h.2 (not_lt.mpr hfl'))
      (.inr ((Real.sqrt_le_sqrt hs).trans_eq hsqrt))
  · obtain ⟨hfl', hs⟩ := lt_vmagSq_of_clear hfl hu habove
    exact iff_of_false (fun h => h ⟨hnn, hfl'⟩) (not_or.mpr ⟨not_lt.mpr hnn,
      not_le.mpr (hsqrt.symm.trans_lt (Real.sqrt_lt_sqrt (mul_self_nonneg _) hs))⟩)

/-- The minimum test of `isValidSpeed` fails exactly when both minimums are enabled and the twist
is slower than both, for a twist clear of the minimum by the margin. -/
theorem tooSlow_iff (hfl : RelErr fl u) (hu : u < 1) (k : KinematicParameters fl)
    (x y theta : ℝ)
    (hmin : k.minSpeedXY < 0 ∨
      (x * x + y * y) * (1 + u) ^ 2 < k.minSpeedXY * k.minSpeedXY * (1 - u) ∨
      k.minSpeedXY * k.minSpeedXY * (1 + u) ≤ (x * x + y * y) * (1 - u) ^ 2) :
    (k.minSpeedXY ≥ 0 ∧ fl (fl (x * x) + fl (y * y)) < fl (k.minSpeedXY * k.minSpeedXY) ∧
        k.minSpeedTheta ≥ 0 ∧ |theta| < k.minSpeedTheta) ↔
      (k.minSpeedXY ≥ 0 ∧ k.minSpeedTheta ≥ 0 ∧ √(x * x + y * y) < k.minSpeedXY ∧
        |theta| < k.minSpeedTheta) := by
  have hslow : k.minSpeedXY ≥ 0 →
      (fl (fl (x * x) + fl (y * y)) < fl (k.minSpeedXY * k.minSpeedXY) ↔
        √(x * x + y * y) < k.minSpeedXY) := by
    intro hnn
    have hsqrt := Real.sqrt_mul_self hnn
    rcases hmin with hneg | hbelow | habove
    · exact absurd hnn (not_le.mpr hneg)
    · obtain ⟨hfl', hs⟩ := vmagSq_lt_of_clear hfl hu hbelow
      exact iff_of_true hfl' ((Real.sqrt_lt_sqrt (add_nonneg (mul_self_nonneg x)
        (mul_self_nonneg y)) hs).trans_eq hsqrt)
    · obtain ⟨hfl', hs⟩ := le_vmagSq_of_clear hfl hu habove
      exact iff_of_false (not_lt.mpr hfl') (not_lt.mpr (hsqrt.symm.trans_le (Real.sqrt_le_sqrt hs)))
  constructor
  · exact fun ⟨h1, h2, h3, h4⟩ => ⟨h1, h3, (hslow h1).mp h2, h4⟩
  · exact fun ⟨h1, h3, h2, h4⟩ => ⟨h1, (hslow h1).mpr h2, h3, h4⟩

/-- **The squared fast path decides the unsquared test away from the limits.** For every
rounding within a relative error `u < 1`, every setting of the limits and every twist whose
squared magnitude is clear of each enabled magnitude limit by the rounding margin, the twist is
valid iff `hypot(x, y)` is within an enabled maximum, the twist is not too slow in translation
and rotation at once while both minimums are enabled, and it is not the zero twist. In exact
arithmetic (`u = 0`) every twist is clear. -/
theorem isValidSpeed_iff_hypot_off_limits (fl : ℝ → ℝ) (u : ℝ) (hu : u < 1) (hfl : RelErr fl u)
    (k : KinematicParameters fl) (x y theta : ℝ)
    (hmax : k.maxSpeedXY < 0 ∨
      (x * x + y * y) * (1 + u) ^ 2 ≤ k.maxSpeedXY * k.maxSpeedXY * (1 - u) ∨
      k.maxSpeedXY * k.maxSpeedXY * (1 + u) < (x * x + y * y) * (1 - u) ^ 2)
    (hmin : k.minSpeedXY < 0 ∨
      (x * x + y * y) * (1 + u) ^ 2 < k.minSpeedXY * k.minSpeedXY * (1 - u) ∨
      k.minSpeedXY * k.minSpeedXY * (1 + u) ≤ (x * x + y * y) * (1 - u) ^ 2) :
    k.isValidSpeed x y theta = true ↔
      (k.maxSpeedXY < 0 ∨ √(x * x + y * y) ≤ k.maxSpeedXY) ∧
      ¬(k.minSpeedXY ≥ 0 ∧ k.minSpeedTheta ≥ 0 ∧ √(x * x + y * y) < k.minSpeedXY ∧
        |theta| < k.minSpeedTheta) ∧
      ¬(x = 0 ∧ y = 0 ∧ theta = 0) := by
  rw [isValidSpeed_eq_true, not_tooFast_iff hfl hu k x y hmax, tooSlow_iff hfl hu k x y theta hmin,
    vmagSq_eq_zero_iff hfl hu, and_assoc]

theorem isValidSpeed_iff_hypot_off_limits_binary64 :
    let k := ofParams roundBinary64 (0.1 : ℝ) 0.55 0.4
    k.isValidSpeed 0.3 0.4 0.2 = true ↔
      (k.maxSpeedXY < 0 ∨ √((0.3 : ℝ) * 0.3 + 0.4 * 0.4) ≤ k.maxSpeedXY) ∧
      ¬(k.minSpeedXY ≥ 0 ∧ k.minSpeedTheta ≥ 0 ∧ √((0.3 : ℝ) * 0.3 + 0.4 * 0.4) < k.minSpeedXY ∧
        |(0.2 : ℝ)| < k.minSpeedTheta) ∧
      ¬((0.3 : ℝ) = 0 ∧ (0.4 : ℝ) = 0 ∧ (0.2 : ℝ) = 0) :=
  isValidSpeed_iff_hypot_off_limits roundBinary64 (2 ^ (-53 : ℤ)) (by norm_num)
    roundBinary64_relErr _ _ _ _ (by norm_num [ofParams]) (by norm_num [ofParams])

/-- **At a limit the rounded squares can disagree with `hypot`.** With `max_speed_xy` the double
nearest 0.438, both minimums disabled, and the twist of the doubles nearest 0.288 and 0.33,
`hypot(x, y)` is below the maximum, yet `vmag_sq` rounds to one unit in the last place above the
rounded square of the maximum (its sum is a tie, rounded to even), and the twist is rejected. -/
theorem isValidSpeed_rejects_below_max :
    let k := ofParams roundBinary64 (-1) (roundBinary64 (0.438 : ℝ)) (-1)
    let x := roundBinary64 (0.288 : ℝ)
    let y := roundBinary64 (0.33 : ℝ)
    √(x * x + y * y) < k.maxSpeedXY ∧ k.isValidSpeed x y 1 = false := by
  have hx : roundBinary64 (0.288 : ℝ) = (5188146770730811 : ℤ) * 2 ^ (-54 : ℤ) :=
    roundBinary64_eq_of_near _ _ (by norm_num [abs_of_pos, abs_lt])
  have hy : roundBinary64 (0.33 : ℝ) = (5944751508129055 : ℤ) * 2 ^ (-54 : ℤ) :=
    roundBinary64_eq_of_near _ _ (by norm_num [abs_of_pos, abs_lt])
  have hm : roundBinary64 (0.438 : ℝ) = (7890306547153109 : ℤ) * 2 ^ (-54 : ℤ) :=
    roundBinary64_eq_of_near _ _ (by norm_num [abs_of_pos, abs_lt])
  have hxx : roundBinary64 (((5188146770730811 : ℤ) * 2 ^ (-54 : ℤ)) *
      ((5188146770730811 : ℤ) * 2 ^ (-54 : ℤ)) : ℝ) = (5976745079881894 : ℤ) * 2 ^ (-56 : ℤ) :=
    roundBinary64_eq_of_near _ _ (by norm_num [abs_of_pos, abs_lt])
  have hyy : roundBinary64 (((5944751508129055 : ℤ) * 2 ^ (-54 : ℤ)) *
      ((5944751508129055 : ℤ) * 2 ^ (-54 : ℤ)) : ℝ) = (7847071990730353 : ℤ) * 2 ^ (-56 : ℤ) :=
    roundBinary64_eq_of_near _ _ (by norm_num [abs_of_pos, abs_lt])
  have hmm : roundBinary64 (((7890306547153109 : ℤ) * 2 ^ (-54 : ℤ)) *
      ((7890306547153109 : ℤ) * 2 ^ (-54 : ℤ)) : ℝ) = (6911908535306123 : ℤ) * 2 ^ (-55 : ℤ) :=
    roundBinary64_eq_of_near _ _ (by norm_num [abs_of_pos, abs_lt])
  have hsum : roundBinary64 (((5976745079881894 : ℤ) * 2 ^ (-56 : ℤ) +
      (7847071990730353 : ℤ) * 2 ^ (-56 : ℤ)) : ℝ) =
      (if (6911908535306123 : ℤ) % 2 = 0 then 6911908535306123 else 6911908535306123 + 1 : ℤ) *
        2 ^ (-55 : ℤ) :=
    roundBinary64_eq_of_tie _ _ (by norm_num [abs_of_pos])
  intro k x y
  refine ⟨?_, ?_⟩
  · show √(x * x + y * y) < roundBinary64 0.438
    rw [show x = _ from hx, show y = _ from hy, hm, Real.sqrt_lt' (by norm_num)]
    norm_num
  · simp only [isValidSpeed, k, ofParams, x, y, hx, hy, hm, hxx, hyy, hsum, hmm]
    norm_num

end Hypot

end DwbPlugins
