import AotDrone.Lib.Binary64

/-! How far a binary64 result is from the exact one. -/

namespace AotDrone.Lib.Binary64
open Double

/-- A finite value within `error` of `target`. -/
def Near (error target : ℚ) (x : Double) : Prop := ∃ q, x = fin q ∧ |q - target| ≤ error

theorem roundAt_error (place : ℤ) (a : ℚ) : |roundAt place a - a| ≤ 2 ^ (place - 1) := by
  have positive : (0 : ℚ) < 2 ^ place := by positivity
  have apart : roundAt place a - a = (roundHalfEven (a / 2 ^ place) - a / 2 ^ place) * 2 ^ place := by
    rw [sub_mul, div_mul_cancel₀ _ positive.ne']
    rfl
  have half : (2 : ℚ) ^ (place - 1) = 1 / 2 * 2 ^ place := by
    rw [zpow_sub_one₀ (by norm_num)]
    ring
  rw [apart, abs_mul, abs_of_pos positive, half]
  exact mul_le_mul_of_nonneg_right (roundHalfEven_near _) positive.le

theorem nearest_zero : nearest 0 = 0 := by
  have zero := nearest_intCast 0 (by norm_num)
  rwa [Int.cast_zero] at zero

/-- Below a power of two the error is at most half the last place there. -/
theorem nearest_error {a : ℚ} {k : ℤ} (normal : -1021 ≤ k) (below : |a| < 2 ^ k) :
    |nearest a - a| ≤ 2 ^ (k - 54) := by
  by_cases zero : a = 0
  · rw [zero, nearest_zero, sub_self, abs_zero]
    positivity
  have log : Int.log 2 |a| < k := by
    rw [← Int.lt_zpow_iff_log_lt (by decide) (abs_pos.2 zero)]
    exact_mod_cast below
  have place : lastPlace a - 1 ≤ k - 54 := by
    unfold lastPlace
    omega
  exact (roundAt_error _ a).trans (zpow_le_zpow_right₀ (by norm_num) place)

attribute [local instance] binary64

theorem round_of_lt {a : ℚ} {k : ℤ} (normal : -1021 ≤ k) (small : k ≤ 1023) (below : |a| < 2 ^ k) :
    Fpu.round a = fin (nearest a) := by
  have error := nearest_error normal below
  have step : (2 : ℚ) ^ (k - 54) ≤ 2 ^ k := zpow_le_zpow_right₀ (by norm_num) (by omega)
  have double : (2 : ℚ) ^ k + 2 ^ k ≤ overflow := by
    calc (2 : ℚ) ^ k + 2 ^ k = 2 ^ (k + 1) := by rw [zpow_add_one₀ (by norm_num), mul_two]
      _ ≤ 2 ^ ((1024 : ℕ) : ℤ) := zpow_le_zpow_right₀ (by norm_num) (by omega)
      _ = overflow := zpow_natCast 2 1024
  have size := abs_add_le (nearest a - a) a
  rw [sub_add_cancel] at size
  exact if_pos (by linarith)

theorem round_near {a : ℚ} {k : ℤ} (normal : -1021 ≤ k) (small : k ≤ 1023) (below : |a| < 2 ^ k) :
    Near (2 ^ (k - 54)) a (Fpu.round a) :=
  ⟨nearest a, round_of_lt normal small below, nearest_error normal below⟩

end AotDrone.Lib.Binary64
