import AotDrone.Lib.Double
import Mathlib.Algebra.Order.Field.Power
import Mathlib.Data.Int.Log
import Mathlib.Tactic.FieldSimp
import Mathlib.Tactic.Positivity
import Mathlib.Tactic.Ring

/-! IEEE binary64 rounding, to nearest with ties to even, as an arithmetic of `Double`. -/

namespace AotDrone.Lib.Binary64
open Double

/-- The exponent of the last place of the values next to `a`. -/
def lastPlace (a : ℚ) : ℤ := max (Int.log 2 |a| - 52) (-1074)

def roundAt (place : ℤ) (a : ℚ) : ℚ := roundHalfEven (a / 2 ^ place) * 2 ^ place

/-- The nearest value of unbounded exponent range. -/
def nearest (a : ℚ) : ℚ := roundAt (lastPlace a) a

/-- Results from here on overflow. -/
def overflow : ℚ := 2 ^ 1024

def round (a : ℚ) : Double :=
  if |nearest a| < overflow then fin (nearest a) else inf (decide (a < 0))

theorem pow_lt_overflow : 2 ^ 53 < overflow := by
  unfold overflow
  exact pow_lt_pow_right₀ one_lt_two (by decide)

theorem overflow_pos : 0 < overflow := pow_pos (by norm_num) 1024

theorem roundAt_mono (place : ℤ) {a b : ℚ} (below : a ≤ b) : roundAt place a ≤ roundAt place b := by
  have positive : (0 : ℚ) < 2 ^ place := by positivity
  unfold roundAt
  apply mul_le_mul_of_nonneg_right _ positive.le
  exact_mod_cast roundHalfEven_mono ((div_le_div_iff_of_pos_right positive).2 below)

theorem roundAt_multiple (place : ℤ) (n : ℤ) : roundAt place (n * 2 ^ place) = n * 2 ^ place := by
  have positive : (0 : ℚ) < 2 ^ place := by positivity
  unfold roundAt
  rw [mul_div_cancel_right₀ _ positive.ne', roundHalfEven_intCast]

theorem roundAt_pow (place k : ℤ) (above : place ≤ k) : roundAt place (2 ^ k) = 2 ^ k := by
  obtain ⟨n, rfl⟩ : ∃ n : ℕ, k = n + place := ⟨(k - place).toNat, by omega⟩
  have split : (2 : ℚ) ^ ((n : ℤ) + place) = ((2 ^ n : ℤ) : ℚ) * 2 ^ place := by
    rw [zpow_add₀ (by norm_num), zpow_natCast]
    push_cast
    ring
  rw [split]
  exact roundAt_multiple place _

theorem roundHalfEven_neg (a : ℚ) : roundHalfEven (-a) = -roundHalfEven a := by
  by_cases whole : ((⌊a⌋ : ℤ) : ℚ) = a
  · rw [← whole]
    have cast : -((⌊a⌋ : ℤ) : ℚ) = ((-⌊a⌋ : ℤ) : ℚ) := by push_cast; rfl
    rw [cast, roundHalfEven_intCast, roundHalfEven_intCast]
  · have lower : (⌊a⌋ : ℚ) < a := lt_of_le_of_ne (Int.floor_le a) whole
    have upper := Int.lt_floor_add_one a
    have flip : ⌊-a⌋ = -⌊a⌋ - 1 := by
      rw [Int.floor_eq_iff]
      push_cast
      constructor <;> linarith
    unfold roundHalfEven
    dsimp only
    rw [flip]
    push_cast
    split_ifs <;> first | omega | (exfalso; linarith)

theorem nearest_neg (a : ℚ) : nearest (-a) = -nearest a := by
  unfold nearest roundAt lastPlace
  rw [abs_neg, neg_div, roundHalfEven_neg]
  push_cast
  ring

theorem nearest_nonneg {a : ℚ} (nonneg : 0 ≤ a) : 0 ≤ nearest a := by
  have zero : roundAt (lastPlace a) 0 = 0 := by
    simpa using roundAt_multiple (lastPlace a) 0
  rw [← zero]
  exact roundAt_mono _ nonneg

/-- Within one binade the last place is shared; across binades a power of two lies between. -/
theorem nearest_mono_of_pos {a b : ℚ} (positive : 0 < a) (below : a ≤ b) : nearest a ≤ nearest b := by
  have logs : Int.log 2 |a| ≤ Int.log 2 |b| := by
    rw [abs_of_pos positive, abs_of_pos (positive.trans_le below)]
    exact Int.log_mono_right positive below
  by_cases same : lastPlace a = lastPlace b
  · unfold nearest
    rw [same]
    exact roundAt_mono _ below
  · have bPos := positive.trans_le below
    have between : lastPlace a ≤ Int.log 2 |b| ∧ lastPlace b ≤ Int.log 2 |b| ∧
        Int.log 2 |a| < Int.log 2 |b| := by
      unfold lastPlace at same ⊢
      omega
    have low : a ≤ (2 : ℚ) ^ Int.log 2 |b| := by
      have bound := Int.lt_zpow_succ_log_self (b := 2) (by decide) |a|
      rw [abs_of_pos positive] at bound
      refine bound.le.trans ?_
      have step : Int.log 2 a + 1 ≤ Int.log 2 |b| := by
        rw [abs_of_pos positive] at between
        omega
      exact_mod_cast zpow_le_zpow_right₀ (by norm_num : (1 : ℚ) ≤ 2) step
    have high : (2 : ℚ) ^ Int.log 2 |b| ≤ b := by
      have bound := Int.zpow_log_le_self (b := 2) (by decide) bPos
      rw [abs_of_pos bPos]
      exact_mod_cast bound
    calc nearest a ≤ roundAt (lastPlace a) (2 ^ Int.log 2 |b|) := roundAt_mono _ low
      _ = 2 ^ Int.log 2 |b| := roundAt_pow _ _ between.1
      _ = roundAt (lastPlace b) (2 ^ Int.log 2 |b|) := (roundAt_pow _ _ between.2.1).symm
      _ ≤ nearest b := roundAt_mono _ high

theorem nearest_mono {a b : ℚ} (below : a ≤ b) : nearest a ≤ nearest b := by
  rcases lt_or_ge 0 a with positive | nonpos
  · exact nearest_mono_of_pos positive below
  · rcases lt_or_ge b 0 with negative | nonneg
    · have flipped := nearest_mono_of_pos (neg_pos.2 negative) (neg_le_neg below)
      rw [nearest_neg, nearest_neg] at flipped
      exact neg_le_neg_iff.1 flipped
    · have left := nearest_nonneg (neg_nonneg.2 nonpos)
      rw [nearest_neg] at left
      exact (neg_nonneg.1 left).trans (nearest_nonneg nonneg)

theorem nearest_sign {a : ℚ} (negative : a < 0) : nearest a ≤ 0 := by
  have flipped := nearest_nonneg (neg_nonneg.2 negative.le)
  rw [nearest_neg] at flipped
  exact neg_nonneg.1 flipped

theorem round_mono {a b : ℚ} (below : a ≤ b) : round a ≤ round b := by
  have ordered := nearest_mono below
  have positive := overflow_pos
  unfold round
  split_ifs with left right right
  · exact fin_le_fin.2 ordered
  · rw [fin_le_inf, decide_eq_false_iff_not]
    intro negative
    have bounds := abs_lt.1 left
    apply right
    rw [abs_lt]
    exact ⟨by linarith, by linarith [nearest_sign negative, bounds.2]⟩
  · rw [inf_le_fin, decide_eq_true_iff]
    by_contra nonneg
    have lower := nearest_nonneg (not_lt.1 nonneg)
    have bounds := abs_lt.1 right
    apply left
    rw [abs_lt]
    exact ⟨by linarith, by linarith⟩
  · change (decide (a < 0) || !decide (b < 0)) = true
    by_cases sign : b < 0
    · simp [below.trans_lt sign]
    · simp [sign]

theorem nearest_zpow (k : ℤ) (normal : -1074 ≤ k) : nearest (2 ^ k) = 2 ^ k := by
  apply roundAt_pow
  have log : Int.log 2 |(2 : ℚ) ^ k| = k := by
    rw [abs_of_pos (by positivity)]
    exact_mod_cast Int.log_zpow (R := ℚ) (b := 2) (by decide) k
  unfold lastPlace
  omega

theorem nearest_intCast_of_lt (n : ℤ) (small : |n| < 2 ^ 53) : nearest n = n := by
  by_cases zero : n = 0
  · subst zero
    have whole := roundAt_multiple (lastPlace 0) 0
    simpa [nearest] using whole
  · have nonzero : (0 : ℚ) < |(n : ℚ)| := abs_pos.2 (by exact_mod_cast zero)
    have bound : |(n : ℚ)| < ((2 : ℕ) : ℚ) ^ (53 : ℤ) := by
      have cast : ((|n| : ℤ) : ℚ) < ((2 ^ 53 : ℤ) : ℚ) := by exact_mod_cast small
      rw [Int.cast_abs] at cast
      refine cast.trans_eq ?_
      norm_num
    have logBound : Int.log 2 |(n : ℚ)| < 53 := (Int.lt_zpow_iff_log_lt (by decide) nonzero).1 bound
    -- the last place is at most one, so an integer is a multiple of it
    obtain ⟨k, place⟩ : ∃ k : ℕ, lastPlace n = -(k : ℤ) := by
      refine ⟨(-lastPlace n).toNat, ?_⟩
      unfold lastPlace
      omega
    have scaled : (n : ℚ) = ((n * 2 ^ k : ℤ) : ℚ) * 2 ^ lastPlace n := by
      rw [place, zpow_neg, zpow_natCast]
      push_cast
      field_simp
    calc nearest n = roundAt (lastPlace n) (((n * 2 ^ k : ℤ) : ℚ) * 2 ^ lastPlace n) := by
          rw [← scaled]
          rfl
      _ = n := by rw [roundAt_multiple, ← scaled]

theorem nearest_intCast (n : ℤ) (small : |n| ≤ 2 ^ 53) : nearest n = n := by
  have power : ((2 ^ 53 : ℤ) : ℚ) = (2 : ℚ) ^ (53 : ℤ) := by norm_num
  rcases small.lt_or_eq with inside | border
  · exact nearest_intCast_of_lt n inside
  · rcases (abs_eq (by norm_num)).1 border with plus | minus
    · rw [plus, power]
      exact nearest_zpow 53 (by norm_num)
    · rw [minus, Int.cast_neg, power, nearest_neg, nearest_zpow 53 (by norm_num)]

theorem round_intCast (n : ℤ) (small : |n| ≤ 2 ^ 53) : round n = fin n := by
  have inRange : |(n : ℚ)| < overflow := by
    have bound : |(n : ℚ)| ≤ 2 ^ 53 := by exact_mod_cast small
    exact bound.trans_lt pow_lt_overflow
  unfold round
  rw [nearest_intCast n small, if_pos inRange]

/-- The neighbour in the binade above starts with a power of two, which is kept as well. -/
theorem nearest_idem_of_nonneg {a : ℚ} (nonneg : 0 ≤ a) : nearest (nearest a) = nearest a := by
  rcases (nearest_nonneg nonneg).eq_or_lt with zero | positive
  · rw [← zero]
    exact_mod_cast nearest_intCast 0 (by norm_num)
  have aPos : 0 < a := by
    rcases nonneg.eq_or_lt with rfl | aPos
    · exact absurd (nearest_intCast 0 (by norm_num)) (by exact_mod_cast positive.ne')
    · exact aPos
  by_cases finer : lastPlace (nearest a) ≤ lastPlace a
  · obtain ⟨k, place⟩ : ∃ k : ℕ, lastPlace a = k + lastPlace (nearest a) :=
      ⟨(lastPlace a - lastPlace (nearest a)).toNat, by omega⟩
    have multiple : nearest a =
        ((roundHalfEven (a / 2 ^ lastPlace a) * 2 ^ k : ℤ) : ℚ) * 2 ^ lastPlace (nearest a) := by
      calc nearest a = roundHalfEven (a / 2 ^ lastPlace a) * 2 ^ lastPlace a := rfl
        _ = roundHalfEven (a / 2 ^ lastPlace a) * 2 ^ ((k : ℤ) + lastPlace (nearest a)) := by rw [← place]
        _ = _ := by
          rw [zpow_add₀ (by norm_num), zpow_natCast]
          push_cast
          ring
    have kept := roundAt_multiple (lastPlace (nearest a)) (roundHalfEven (a / 2 ^ lastPlace a) * 2 ^ k)
    rwa [← multiple] at kept
  · set m : ℤ := max (Int.log 2 |a| + 1) (-1074) with mDef
    have logs : lastPlace a ≤ m ∧ m ≤ Int.log 2 |nearest a| := by
      unfold lastPlace at finer ⊢
      omega
    have below : a ≤ 2 ^ m := by
      have bound := Int.lt_zpow_succ_log_self (b := 2) (by decide) |a|
      rw [abs_of_pos aPos] at bound
      refine bound.le.trans ?_
      have step : Int.log 2 a + 1 ≤ m := by
        rw [abs_of_pos aPos] at mDef
        omega
      exact_mod_cast zpow_le_zpow_right₀ (by norm_num : (1 : ℚ) ≤ 2) step
    have upper : nearest a ≤ 2 ^ m := by
      calc nearest a ≤ roundAt (lastPlace a) (2 ^ m) := roundAt_mono _ below
        _ = 2 ^ m := roundAt_pow _ _ logs.1
    have lower : (2 : ℚ) ^ m ≤ nearest a := by
      have bound := Int.zpow_log_le_self (b := 2) (by decide) positive
      have step : m ≤ Int.log 2 (nearest a) := by
        rw [abs_of_pos positive] at logs
        exact logs.2
      refine (zpow_le_zpow_right₀ (by norm_num : (1 : ℚ) ≤ 2) step).trans ?_
      exact_mod_cast bound
    rw [le_antisymm upper lower]
    exact nearest_zpow m (by omega)

theorem nearest_idem (a : ℚ) : nearest (nearest a) = nearest a := by
  rcases le_total 0 a with nonneg | nonpos
  · exact nearest_idem_of_nonneg nonneg
  · have flipped := nearest_idem_of_nonneg (neg_nonneg.2 nonpos)
    rw [nearest_neg, nearest_neg] at flipped
    exact neg_inj.1 flipped

theorem round_idem {a b : ℚ} (rounded : round a = fin b) : round b = fin b := by
  unfold round at rounded
  split_ifs at rounded with inRange
  cases rounded
  unfold round
  rw [nearest_idem, if_pos inRange]

/-- The arithmetic of the flight controller and of Python's `float`. -/
@[reducible] def binary64 : Fpu where
  round := round
  round_mono := round_mono
  round_int := round_intCast
  round_idem := round_idem

section clock
attribute [local instance] binary64

/-- A clock that adds up durations of at most a second stops at `2 ^ 53`. -/
theorem clock_within {clock tick : Double} (before : Within 0 (2 ^ 53) clock) (short : Within 0 1 tick) :
    Within 0 (2 ^ 53) (clock + tick) := by
  obtain ⟨a, rfl, a_nonneg, a_le⟩ := before
  obtain ⟨d, rfl, d_nonneg, d_le⟩ := short
  have most : Fpu.round (a + d) ≤ Fpu.round (2 ^ 53 + 1) := Fpu.round_mono (by linarith)
  have stops : Fpu.round (2 ^ 53 + 1) = fin (2 ^ 53) := by decide +kernel
  rw [stops] at most
  exact within_of_le (round_nonneg (by linarith)) most

end clock

example : round (1 / 10) = fin (3602879701896397 / 36028797018963968) := by decide +kernel
example : round (10 ^ 400) = inf false := by decide +kernel

end AotDrone.Lib.Binary64
