import Mathlib.Algebra.Order.Field.Power
import Mathlib.Algebra.Order.Ring.Rat
import Mathlib.Tactic.Linarith
import Mathlib.Tactic.Positivity
import CameraControl.Binary64

/-!
What rounding to double precision keeps. Rounding keeps the order of numbers, across binades, zero and the
numbers that are too small for 53 digits, and it leaves a whole number of at most 53 digits as it is.
-/
namespace CameraControl.Binary64

theorem twoPow_eq (k : Int) : twoPow k = (2 : Rat) ^ k := by
  unfold twoPow
  split
  · next hk =>
    obtain ⟨n, rfl⟩ := Int.eq_ofNat_of_zero_le hk
    simp
  · next hk =>
    obtain ⟨n, hn⟩ := Int.eq_ofNat_of_zero_le (show 0 ≤ -k by omega)
    rw [show k = -(n : Int) by omega]
    simp

theorem twoPow_pos (k : Int) : 0 < twoPow k := by
  rw [twoPow_eq]
  positivity

theorem twoPow_add (j k : Int) : twoPow (j + k) = twoPow j * twoPow k := by
  rw [twoPow_eq, twoPow_eq, twoPow_eq]
  exact zpow_add₀ two_ne_zero j k

theorem twoPow_natCast (n : Nat) : twoPow n = (2 ^ n : Nat) := by
  rw [twoPow_eq, zpow_natCast, Nat.cast_pow, Nat.cast_ofNat]

theorem twoPow_le_iff {j k : Int} : twoPow j ≤ twoPow k ↔ j ≤ k := by
  rw [twoPow_eq, twoPow_eq]
  exact zpow_le_zpow_iff_right₀ one_lt_two

theorem twoPow_lt_iff {j k : Int} : twoPow j < twoPow k ↔ j < k := by
  rw [twoPow_eq, twoPow_eq]
  exact zpow_lt_zpow_iff_right₀ one_lt_two

/-- A power of two is a whole number of times each lower one. -/
theorem twoPow_multiple {j k : Int} (hle : j ≤ k) : ∃ n : Int, twoPow k = n * twoPow j := by
  obtain ⟨n, hn⟩ := Int.eq_ofNat_of_zero_le (Int.sub_nonneg.mpr hle)
  refine ⟨(2 ^ n : Nat), ?_⟩
  rw [show k = (n : Int) + j by omega, twoPow_add, twoPow_natCast, Int.cast_natCast]

theorem abs_eq (x : Rat) : x.abs = |x| := by
  rcases le_total 0 x with hx | hx
  · rw [abs_of_nonneg hx, Rat.abs_of_nonneg hx]
  · rw [abs_of_nonpos hx, Rat.abs_of_nonpos hx]

/-- The lengths of numerator and denominator tell the magnitude of a rational up to a factor of two. -/
theorem magnitude_bracket {x : Rat} (hx : x ≠ 0) :
    twoPow (x.num.natAbs.log2 - x.den.log2 - 1) ≤ |x| ∧
      |x| < twoPow (x.num.natAbs.log2 - x.den.log2 + 1) := by
  have hnum : x.num.natAbs ≠ 0 := Int.natAbs_ne_zero.mpr (Rat.num_ne_zero.mpr hx)
  have hden : (0 : Rat) < x.den := Nat.cast_pos.mpr x.den_pos
  have habs : |x| = x.num.natAbs / x.den := by
    rw [Rat.abs_def, Rat.divInt_eq_div, Int.cast_natCast, Int.cast_natCast]
  have hnum_le : twoPow x.num.natAbs.log2 ≤ x.num.natAbs := by
    rw [twoPow_natCast]
    exact Nat.cast_le.mpr (Nat.log2_self_le hnum)
  have hnum_lt : (x.num.natAbs : Rat) < twoPow (x.num.natAbs.log2 + 1) := by
    rw [← Nat.cast_succ, twoPow_natCast]
    exact Nat.cast_lt.mpr Nat.lt_log2_self
  have hden_le : twoPow x.den.log2 ≤ x.den := by
    rw [twoPow_natCast]
    exact Nat.cast_le.mpr (Nat.log2_self_le x.den_nz)
  have hden_lt : (x.den : Rat) < twoPow (x.den.log2 + 1) := by
    rw [← Nat.cast_succ, twoPow_natCast]
    exact Nat.cast_lt.mpr Nat.lt_log2_self
  rw [habs]
  generalize (x.num.natAbs.log2 : Int) = a at *
  generalize (x.den.log2 : Int) = b at *
  constructor
  · rw [le_div_iff₀ hden]
    calc twoPow (a - b - 1) * x.den
      _ ≤ twoPow (a - b - 1) * twoPow (b + 1) := mul_le_mul_of_nonneg_left hden_lt.le (twoPow_pos _).le
      _ = twoPow a := by rw [← twoPow_add, show a - b - 1 + (b + 1) = a by omega]
      _ ≤ x.num.natAbs := hnum_le
  · rw [div_lt_iff₀ hden]
    calc (x.num.natAbs : Rat)
      _ < twoPow (a + 1) := hnum_lt
      _ = twoPow (a - b + 1) * twoPow b := by rw [← twoPow_add, show a - b + 1 + b = a + 1 by omega]
      _ ≤ twoPow (a - b + 1) * x.den := mul_le_mul_of_nonneg_left hden_le (twoPow_pos _).le

/-- The leading digit of a number is that of the power of two below it. -/
theorem leading_bracket {x : Rat} (hx : x ≠ 0) :
    twoPow (leading x) ≤ |x| ∧ |x| < twoPow (leading x + 1) := by
  obtain ⟨hle, hlt⟩ := magnitude_bracket hx
  unfold leading
  rw [abs_eq]
  dsimp only
  split
  · next hguess => exact ⟨hguess, hlt⟩
  · next hguess =>
    rw [Int.sub_add_cancel]
    exact ⟨hle, not_le.mp hguess⟩

theorem leading_mono {x y : Rat} (hx : x ≠ 0) (hy : y ≠ 0) (hle : |x| ≤ |y|) : leading x ≤ leading y := by
  have hlt : twoPow (leading x) < twoPow (leading y + 1) :=
    ((leading_bracket hx).1.trans hle).trans_lt (leading_bracket hy).2
  have := twoPow_lt_iff.mp hlt
  omega

/-- Between two magnitudes with different units in the last place there is a power of two, which is a multiple
of both. -/
theorem multiple_separates {x y : Rat} (hx : x ≠ 0) (hy : y ≠ 0) (hle : |x| ≤ |y|)
    (hunit : unit x ≠ unit y) : ∃ m n : Int, (m : Rat) * twoPow (unit x) = n * twoPow (unit y) ∧
      |x| ≤ m * twoPow (unit x) ∧ n * twoPow (unit y) ≤ |y| := by
  have hleading := leading_mono hx hy hle
  obtain ⟨hlower, hxunit, hyunit⟩ :
      leading x + 1 ≤ leading y ∧ unit x ≤ leading y ∧ unit y ≤ leading y := by
    unfold unit at hunit ⊢
    omega
  obtain ⟨m, hm⟩ := twoPow_multiple hxunit
  obtain ⟨n, hn⟩ := twoPow_multiple hyunit
  refine ⟨m, n, hm.symm.trans hn, ?_, ?_⟩
  · rw [← hm]
    exact (leading_bracket hx).2.le.trans (twoPow_le_iff.mpr hlower)
  · rw [← hn]
    exact (leading_bracket hy).1

theorem nearestInt_cases (q : Rat) : nearestInt q = q.floor ∨ nearestInt q = q.floor + 1 := by
  unfold nearestInt
  dsimp only
  split_ifs <;> simp

theorem nearestInt_mono {p q : Rat} (hle : p ≤ q) : nearestInt p ≤ nearestInt q := by
  rcases (Rat.floor_monotone hle).lt_or_eq with hlt | heq
  · have hp := nearestInt_cases p
    have hq := nearestInt_cases q
    omega
  · -- With the same whole part, what remains decides, and ties go the same way.
    have hrest : p - p.floor ≤ q - p.floor := sub_le_sub_right hle _
    unfold nearestInt
    dsimp only
    rw [← heq]
    split_ifs <;> first | omega | linarith

theorem nearestInt_intCast (n : Int) : nearestInt n = n := by
  unfold nearestInt
  dsimp only
  rw [Rat.floor_intCast, sub_self, if_pos (by norm_num)]

theorem nearest_eq (x : Rat) : nearest x = nearestInt (x / twoPow (unit x)) * twoPow (unit x) := by
  unfold nearest
  split
  · next hx =>
    have hzero : nearestInt 0 = 0 := nearestInt_intCast 0
    rw [hx, zero_div, hzero, Int.cast_zero, zero_mul]
  · rfl

/-- Rounding does not pass a multiple of the unit in the last place. -/
theorem nearest_le {x : Rat} {n : Int} (hle : x ≤ n * twoPow (unit x)) :
    nearest x ≤ n * twoPow (unit x) := by
  have hpos := twoPow_pos (unit x)
  have hq : nearestInt (x / twoPow (unit x)) ≤ n := by
    rw [← nearestInt_intCast n]
    exact nearestInt_mono ((div_le_iff₀ hpos).mpr hle)
  rw [nearest_eq]
  exact mul_le_mul_of_nonneg_right (Int.cast_le.mpr hq) hpos.le

theorem le_nearest {x : Rat} {n : Int} (hle : n * twoPow (unit x) ≤ x) :
    n * twoPow (unit x) ≤ nearest x := by
  have hpos := twoPow_pos (unit x)
  have hq : n ≤ nearestInt (x / twoPow (unit x)) := by
    rw [← nearestInt_intCast n]
    exact nearestInt_mono ((le_div_iff₀ hpos).mpr hle)
  rw [nearest_eq]
  exact mul_le_mul_of_nonneg_right (Int.cast_le.mpr hq) hpos.le

/-- A multiple of the unit in the last place is a double. -/
theorem nearest_multiple {x : Rat} {n : Int} (hx : x = n * twoPow (unit x)) : nearest x = x := by
  apply le_antisymm
  · calc nearest x ≤ n * twoPow (unit x) := nearest_le hx.le
      _ = x := hx.symm
  · calc x = n * twoPow (unit x) := hx
      _ ≤ nearest x := le_nearest hx.ge

/-- Between two numbers with different units in the last place there is a multiple of both units. -/
theorem exists_multiple_between {x y : Rat} (hle : x ≤ y) (hunit : unit x ≠ unit y) :
    ∃ m n : Int, (m : Rat) * twoPow (unit x) = n * twoPow (unit y) ∧ x ≤ m * twoPow (unit x) ∧
      n * twoPow (unit y) ≤ y := by
  rcases lt_or_ge 0 x with hx | hx
  · have hy : 0 < y := hx.trans_le hle
    have habs : |x| ≤ |y| := by rwa [abs_of_pos hx, abs_of_pos hy]
    have hbetween := multiple_separates hx.ne' hy.ne' habs hunit
    rwa [abs_of_pos hx, abs_of_pos hy] at hbetween
  · rcases lt_or_ge y 0 with hy | hy
    · have hx : x < 0 := hle.trans_lt hy
      have habs : |y| ≤ |x| := by
        rw [abs_of_neg hx, abs_of_neg hy]
        exact neg_le_neg hle
      obtain ⟨n, m, hsame, hn, hm⟩ := multiple_separates hy.ne hx.ne habs hunit.symm
      rw [abs_of_neg hy] at hn
      rw [abs_of_neg hx] at hm
      refine ⟨-m, -n, ?_, ?_, ?_⟩ <;> push_cast <;> linarith
    · exact ⟨0, 0, by simp, by simpa using hx, by simpa using hy⟩

theorem nearest_mono {x y : Rat} (hle : x ≤ y) : nearest x ≤ nearest y := by
  by_cases hunit : unit x = unit y
  · rw [nearest_eq, nearest_eq, hunit]
    have hpos := twoPow_pos (unit y)
    have hq := nearestInt_mono (div_le_div_of_nonneg_right hle hpos.le)
    exact mul_le_mul_of_nonneg_right (Int.cast_le.mpr hq) hpos.le
  · obtain ⟨m, n, hsame, hx, hy⟩ := exists_multiple_between hle hunit
    calc nearest x
      _ ≤ m * twoPow (unit x) := nearest_le hx
      _ = n * twoPow (unit y) := hsame
      _ ≤ nearest y := le_nearest hy

/-- A whole number of at most 53 digits is a double. -/
theorem nearest_intCast {n : Int} (hn : |n| < 2 ^ 53) : nearest n = n := by
  by_cases hzero : n = 0
  · rw [hzero, Int.cast_zero]
    exact if_pos rfl
  have hx : (n : Rat) ≠ 0 := Int.cast_ne_zero.mpr hzero
  have hlt : twoPow (leading n) < twoPow 53 := by
    calc twoPow (leading n) ≤ |(n : Rat)| := (leading_bracket hx).1
      _ = (|n| : Int) := Int.cast_abs.symm
      _ < (2 ^ 53 : Int) := Int.cast_lt.mpr hn
      _ = twoPow 53 := by rw [twoPow_eq]; norm_num
  have hunit : unit n ≤ 0 := by
    have hleading := twoPow_lt_iff.mp hlt
    unfold unit
    omega
  obtain ⟨m, hm⟩ := twoPow_multiple hunit
  have hone : (1 : Rat) = m * twoPow (unit n) := by
    rw [← hm, twoPow_eq, zpow_zero]
  apply nearest_multiple (n := n * m)
  rw [Int.cast_mul, mul_assoc, ← hone, mul_one]

end CameraControl.Binary64
