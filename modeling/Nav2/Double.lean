import Mathlib

/-!
# Doubles

The planner computes in C++ `double`s. Where a result of the model depends on how they round,
the rounding is a parameter `fl : α → α`, applied to the exact result of each arithmetic
operation of the source, and what the result needs of it is a contract, `RelErr fl u`: every
rounded value lies within a relative error `u` of the exact one (the standard model of
floating-point arithmetic). Exact arithmetic is `fl = id` with `u = 0`.

`roundBinary64` is IEEE 754 binary64 rounding to nearest, ties to even: the exact value is
scaled by a power of two into `[2^52, 2^53)`, rounded to an integer by `roundHalfEven`, and
scaled back. Its exponent is unbounded, so it agrees with binary64 on every result in the
normal range `[2^-1022, 2^1024)`; overflow to infinity and subnormal results are not modelled.
`roundBinary64_relErr` shows that it meets the contract with the unit roundoff `u = 2^-53`.
-/

namespace Double

section Contract

variable {α : Type} [LinearOrderedField α]

/-- The contract on a rounding: every rounded value is within a relative error `u` of the
exact one. -/
def RelErr (fl : α → α) (u : α) : Prop :=
  ∀ a, |fl a - a| ≤ u * |a|

variable {fl : α → α} {u : α}

theorem RelErr.nonneg (h : RelErr fl u) : 0 ≤ u := by
  simpa using (abs_nonneg _).trans (h 1)

/-- A rounded non-negative value lies in `[a (1 - u), a (1 + u)]`. -/
theorem RelErr.bounds (h : RelErr fl u) {a : α} (ha : 0 ≤ a) :
    a * (1 - u) ≤ fl a ∧ fl a ≤ a * (1 + u) := by
  have hb := abs_le.mp ((h a).trans_eq (by rw [abs_of_nonneg ha]))
  constructor <;> linarith [hb.1, hb.2]

end Contract

section Binary64

variable {α : Type} [LinearOrderedField α] [FloorRing α]

/-- Rounding to the nearest integer, ties to the even one. -/
def roundHalfEven (x : α) : ℤ :=
  if x - ⌊x⌋ < 1 / 2 then ⌊x⌋
  else if 1 / 2 < x - ⌊x⌋ then ⌊x⌋ + 1
  else if ⌊x⌋ % 2 = 0 then ⌊x⌋ else ⌊x⌋ + 1

/-- The floor is within half of a value at most half above it. -/
theorem abs_floor_sub_le {x : α} (h : x - ⌊x⌋ ≤ 1 / 2) : |(⌊x⌋ : α) - x| ≤ 1 / 2 := by
  rwa [abs_sub_comm, abs_of_nonneg (sub_nonneg.mpr (Int.floor_le x))]

/-- The integer above the floor is within half of a value at least half above the floor. -/
theorem abs_floor_add_one_sub_le {x : α} (h : 1 / 2 ≤ x - ⌊x⌋) :
    |((⌊x⌋ + 1 : ℤ) : α) - x| ≤ 1 / 2 := by
  rw [Int.cast_add, Int.cast_one, abs_of_nonneg (sub_nonneg.mpr (Int.lt_floor_add_one x).le)]
  calc (⌊x⌋ : α) + 1 - x = 1 - (x - ⌊x⌋) := by ring
    _ ≤ 1 - 1 / 2 := sub_le_sub_left h 1
    _ = 1 / 2 := by norm_num

theorem abs_roundHalfEven_sub_le (x : α) : |(roundHalfEven x : α) - x| ≤ 1 / 2 := by
  unfold roundHalfEven
  split_ifs with hlo hhi
  · exact abs_floor_sub_le hlo.le
  · exact abs_floor_add_one_sub_le hhi.le
  · exact abs_floor_sub_le (not_lt.mp hhi)
  · exact abs_floor_add_one_sub_le (not_lt.mp hlo)

/-- A value within half of an integer rounds to it. -/
theorem roundHalfEven_eq_of_near {x : α} {n : ℤ} (h : |x - n| < 1 / 2) : roundHalfEven x = n := by
  have hr := abs_roundHalfEven_sub_le x
  have hlt : |((roundHalfEven x - n : ℤ) : α)| < 1 := by
    rw [Int.cast_sub, ← sub_add_sub_cancel _ x]
    calc |((roundHalfEven x : α) - x) + (x - n)|
        ≤ |(roundHalfEven x : α) - x| + |x - n| := abs_add _ _
      _ < 1 / 2 + 1 / 2 := add_lt_add_of_le_of_lt hr h
      _ = 1 := add_halves 1
  exact sub_eq_zero.mp (Int.abs_lt_one_iff.mp (by exact_mod_cast hlt))

/-- A value halfway between two integers rounds to the even one. -/
theorem roundHalfEven_of_tie {x : α} {n : ℤ} (h : x = n + 1 / 2) :
    roundHalfEven x = if n % 2 = 0 then n else n + 1 := by
  have hfloor : ⌊x⌋ = n := Int.floor_eq_iff.mpr
    ⟨h ▸ le_add_of_nonneg_right (by norm_num), h ▸ add_lt_add_left (by norm_num) _⟩
  have hhalf : x - ⌊x⌋ = 1 / 2 := by rw [hfloor, h, add_sub_cancel_left]
  rw [roundHalfEven, hhalf, if_neg (lt_irrefl _), if_neg (lt_irrefl _), hfloor]

/-- IEEE 754 binary64 rounding to nearest, ties to even, with an unbounded exponent. -/
def roundBinary64 (x : α) : α :=
  if x = 0 then 0
  else roundHalfEven (x / 2 ^ (Int.log 2 |x| - 52)) * 2 ^ (Int.log 2 |x| - 52)

/-- `Int.log 2` of a value of the binade `[2^e, 2^(e+1))`. -/
theorem log_two_eq {r : α} {e : ℤ} (hlo : 2 ^ e ≤ r) (hhi : r < 2 ^ (e + 1)) :
    Int.log 2 r = e := by
  have hr : 0 < r := (zpow_pos two_pos e).trans_le hlo
  apply le_antisymm
  · exact Int.lt_add_one_iff.mp ((Int.lt_zpow_iff_log_lt one_lt_two hr).mp (by exact_mod_cast hhi))
  · exact (Int.zpow_le_iff_le_log one_lt_two hr).mp (by exact_mod_cast hlo)

/-- `roundBinary64` on a value of the binade `[2^e, 2^(e+1))`: its last place is `2^(e-52)`. -/
theorem roundBinary64_of_binade {x : α} {e : ℤ} (hlo : 2 ^ e ≤ |x|) (hhi : |x| < 2 ^ (e + 1)) :
    roundBinary64 x = roundHalfEven (x / 2 ^ (e - 52)) * 2 ^ (e - 52) := by
  have hx : x ≠ 0 := abs_pos.mp ((zpow_pos two_pos e).trans_le hlo)
  rw [roundBinary64, if_neg hx, log_two_eq hlo hhi]

/-- `roundBinary64` of a value whose last place is `2^q`, when the value is within half of
`n` last places. -/
theorem roundBinary64_eq_of_near {x : α} (q n : ℤ)
    (h : 2 ^ (q + 52) ≤ |x| ∧ |x| < 2 ^ (q + 52 + 1) ∧ |x / 2 ^ q - n| < 1 / 2) :
    roundBinary64 x = n * 2 ^ q := by
  rw [roundBinary64_of_binade h.1 h.2.1, add_sub_cancel_right, roundHalfEven_eq_of_near h.2.2]

/-- `roundBinary64` of a value whose last place is `2^q`, halfway between `n` and `n + 1` last
places: the tie goes to the even one. -/
theorem roundBinary64_eq_of_tie {x : α} (q n : ℤ)
    (h : 2 ^ (q + 52) ≤ |x| ∧ |x| < 2 ^ (q + 52 + 1) ∧ x / 2 ^ q = n + 1 / 2) :
    roundBinary64 x = (if n % 2 = 0 then n else n + 1 : ℤ) * 2 ^ q := by
  rw [roundBinary64_of_binade h.1 h.2.1, add_sub_cancel_right, roundHalfEven_of_tie h.2.2]

/-- **Binary64 rounding meets the contract with the unit roundoff `2^-53`**: rounding to the
nearest multiple of `2^(e-52)` moves a value of `[2^e, 2^(e+1))` by at most `2^(e-53)`. -/
theorem roundBinary64_relErr : RelErr (roundBinary64 (α := α)) (2 ^ (-53 : ℤ)) := by
  intro x
  by_cases hx : x = 0
  · simp [roundBinary64, hx]
  set e := Int.log 2 |x|
  have hulp : (0 : α) < 2 ^ (e - 52) := zpow_pos two_pos _
  have hlog : (2 : α) ^ e ≤ |x| := by
    simpa using Int.zpow_log_le_self (R := α) (b := 2) one_lt_two (abs_pos.mpr hx)
  have hscale : (roundHalfEven (x / 2 ^ (e - 52)) : α) * 2 ^ (e - 52) - x =
      ((roundHalfEven (x / 2 ^ (e - 52)) : α) - x / 2 ^ (e - 52)) * 2 ^ (e - 52) := by
    field_simp
  have hhalf : 1 / 2 * (2 : α) ^ (e - 52) = 2 ^ (-53 : ℤ) * 2 ^ e := by
    rw [← zpow_add₀ two_ne_zero, show (1 : α) / 2 = 2 ^ (-1 : ℤ) by norm_num,
      ← zpow_add₀ two_ne_zero]
    ring_nf
  rw [roundBinary64, if_neg hx, hscale, abs_mul, abs_of_pos hulp]
  calc |(roundHalfEven (x / 2 ^ (e - 52)) : α) - x / 2 ^ (e - 52)| * 2 ^ (e - 52)
      ≤ 1 / 2 * 2 ^ (e - 52) := mul_le_mul_of_nonneg_right (abs_roundHalfEven_sub_le _) hulp.le
    _ = 2 ^ (-53 : ℤ) * 2 ^ e := hhalf
    _ ≤ 2 ^ (-53 : ℤ) * |x| := mul_le_mul_of_nonneg_left hlog (zpow_nonneg zero_le_two _)

end Binary64

end Double
