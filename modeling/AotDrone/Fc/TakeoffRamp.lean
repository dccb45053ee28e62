import AotDrone.Fc.MainLoop
import AotDrone.Lib.RoundingError

/-! The throttle that the takeoff handler computes from its timer, and its ramp in binary64: at most an ulp or two from
a straight line, so that two ticks of the clock never bring it down. -/

namespace AotDrone.Fc
open AotDrone.Lib AotDrone.Lib.Double

section handler
variable [Fpu]

/-- The throttle of the takeoff handler with its timer at `timer`. -/
def takeoffThrottle (hoverThrottle : Nat) (timer : Double) : Nat :=
  if timer < takeoffSpoolTime then takeoffSpoolThrottle
  else
    let rampT := timer - takeoffSpoolTime
    if rampT < takeoffRampTime then
      let alpha := rampT / takeoffRampTime
      toU16 ((1 - alpha) * ofU16 takeoffSpoolThrottle + alpha * ofU16 takeoffTargetThrottle)
    else hoverThrottle

/-- The handler hands over to Tracking with its timer at `timer`. -/
def TakeoffOver (timer : Double) : Prop :=
  ¬ timer < takeoffSpoolTime ∧ ¬ timer - takeoffSpoolTime < takeoffRampTime ∧
    takeoffRampTime + takeoffHoldTime < timer - takeoffSpoolTime

instance (timer : Double) : Decidable (TakeoffOver timer) :=
  inferInstanceAs (Decidable (¬ timer < takeoffSpoolTime ∧ ¬ timer - takeoffSpoolTime < takeoffRampTime ∧
    takeoffRampTime + takeoffHoldTime < timer - takeoffSpoolTime))

end handler

/-! ## The ramp in binary64 -/

section hardware
attribute [local instance] Binary64.binary64
open Binary64

def spoolSeconds : ℚ := 3602879701896397 / 2 ^ 52
def rampSeconds : ℚ := 3602879701896397 / 2 ^ 51

theorem takeoffSpoolTime_eq : takeoffSpoolTime = fin spoolSeconds := by decide +kernel
theorem takeoffRampTime_eq : takeoffRampTime = fin rampSeconds := by decide +kernel

theorem not_spooling_iff {q : ℚ} : ¬ fin q < takeoffSpoolTime ↔ spoolSeconds ≤ q := by
  rw [takeoffSpoolTime_eq, fin_lt_fin, not_lt]

theorem ramping_short {q : ℚ} (ramping : fin q - takeoffSpoolTime < takeoffRampTime) : q - spoolSeconds < 2 := by
  rw [takeoffSpoolTime_eq, takeoffRampTime_eq, fin_sub] at ramping
  by_contra long
  have rounded := Fpu.round_mono (not_lt.1 long)
  have two : Fpu.round 2 = fin 2 := Fpu.round_int 2 (by norm_num)
  rw [two] at rounded
  have below : fin rampSeconds ≤ fin 2 := fin_le_fin.2 (by norm_num [rampSeconds])
  exact Double.not_lt_of_le (Double.le_trans below rounded) ramping

/-- How far the ramp has come, before and after rounding. -/
theorem exists_share {q : ℚ} (spooled : spoolSeconds ≤ q) (ramping : fin q - takeoffSpoolTime < takeoffRampTime) :
    ∃ share, (fin q - takeoffSpoolTime) / takeoffRampTime = fin share ∧ 0 ≤ share ∧ share ≤ 1 ∧
      |share - (q - spoolSeconds) / rampSeconds| ≤ 1 / 2 ^ 52 := by
  have short := ramping_short ramping
  rw [takeoffSpoolTime_eq, takeoffRampTime_eq, fin_sub] at ramping ⊢
  have forward : 0 ≤ q - spoolSeconds := sub_nonneg.2 spooled
  obtain ⟨r, rounded, near⟩ := round_near (a := q - spoolSeconds) (k := 1) (by norm_num) (by norm_num)
    (by rw [abs_of_nonneg forward]; linarith)
  rw [rounded, fin_lt_fin] at ramping
  have nonneg : 0 ≤ r := by
    have least := round_nonneg forward
    rw [rounded] at least
    exact fin_le_fin.1 least
  have positive : (0 : ℚ) < rampSeconds := by norm_num [rampSeconds]
  have part : 0 ≤ r / rampSeconds ∧ r / rampSeconds ≤ 1 :=
    ⟨div_nonneg nonneg positive.le, (div_le_one positive).2 ramping.le⟩
  obtain ⟨share, same, shareNear⟩ := round_near (a := r / rampSeconds) (k := 1) (by norm_num) (by norm_num)
    (by rw [abs_of_nonneg part.1]; linarith [part.2])
  obtain ⟨share', same', low, high⟩ := round_within isDouble_zero isDouble_one part.1 part.2
  obtain rfl : share = share' := Double.fin.inj (same.symm.trans same')
  refine ⟨share, ?_, low, high, ?_⟩
  · rw [rounded, fin_div positive.ne']
    exact same
  · have split : share - (q - spoolSeconds) / rampSeconds =
        (share - r / rampSeconds) + (r - (q - spoolSeconds)) / rampSeconds := by ring
    have scaled : |(r - (q - spoolSeconds)) / rampSeconds| ≤ |r - (q - spoolSeconds)| := by
      rw [abs_div, abs_of_pos positive]
      exact div_le_self (abs_nonneg _) (by norm_num [rampSeconds])
    have total := abs_add_le (share - r / rampSeconds) ((r - (q - spoolSeconds)) / rampSeconds)
    rw [split]
    norm_num at near shareNear
    linarith

/-- The value of the ramp with this part of it done. -/
def rampValue (share : ℚ) : Double :=
  (1 - fin share) * ofU16 takeoffSpoolThrottle + fin share * ofU16 takeoffTargetThrottle

theorem ofU16_spool : ofU16 takeoffSpoolThrottle = fin 1020 := rfl
theorem ofU16_target : ofU16 takeoffTargetThrottle = fin 1250 := rfl

/-- The operations of the ramp one after the other: what is left of it, the two products, their sum. -/
theorem rampValue_eq {share rest low high : ℚ} (left : Fpu.round (1 - share) = fin rest)
    (first : Fpu.round (rest * 1020) = fin low) (second : Fpu.round (share * 1250) = fin high) :
    rampValue share = Fpu.round (low + high) := by
  have rested : (1 : Double) - fin share = fin rest := (fin_sub 1 share).trans left
  unfold rampValue
  rw [rested, ofU16_spool, ofU16_target]
  change Fpu.round (rest * 1020) + Fpu.round (share * 1250) = _
  rw [first, second]
  rfl

section share
variable {share : ℚ} (nonneg : 0 ≤ share) (whole : share ≤ 1)
include nonneg whole

/-- The parts of the ramp, each next to its exact value. -/
theorem exists_rampParts : ∃ rest low high, Fpu.round (1 - share) = fin rest ∧ Fpu.round (rest * 1020) = fin low ∧
    Fpu.round (share * 1250) = fin high ∧ |rest - (1 - share)| ≤ 2 ^ (-53 : ℤ) ∧ |low - rest * 1020| ≤ 2 ^ (-43 : ℤ) ∧
    |high - share * 1250| ≤ 2 ^ (-43 : ℤ) ∧ 0 ≤ rest ∧ rest ≤ 1 ∧ 0 ≤ low ∧ 0 ≤ high := by
  obtain ⟨rest, left, near⟩ := round_near (a := 1 - share) (k := 1) (by norm_num) (by norm_num)
    (by rw [abs_of_nonneg (by linarith)]; linarith)
  obtain ⟨rest', same, least, most⟩ :=
    round_within isDouble_zero isDouble_one (sub_nonneg.2 whole) (sub_le_self 1 nonneg)
  obtain rfl : rest = rest' := Double.fin.inj (left.symm.trans same)
  obtain ⟨low, first, lowNear⟩ := round_near (a := rest * 1020) (k := 11) (by norm_num) (by norm_num)
    (by rw [abs_of_nonneg (by linarith)]; norm_num; linarith)
  obtain ⟨high, second, highNear⟩ := round_near (a := share * 1250) (k := 11) (by norm_num) (by norm_num)
    (by rw [abs_of_nonneg (by linarith)]; norm_num; linarith)
  refine ⟨rest, low, high, left, first, second, near, lowNear, highNear, least, most, ?_, ?_⟩
  · have sign := round_nonneg (mul_nonneg least (by norm_num : (0 : ℚ) ≤ 1020))
    rw [first] at sign
    exact fin_le_fin.1 sign
  · have sign := round_nonneg (mul_nonneg nonneg (by norm_num : (0 : ℚ) ≤ 1250))
    rw [second] at sign
    exact fin_le_fin.1 sign

theorem rampValue_near : Near (2 ^ (-40 : ℤ)) (1020 + 230 * share) (rampValue share) := by
  obtain ⟨rest, low, high, left, first, second, restNear, lowNear, highNear, least, most, lowNonneg, highNonneg⟩ :=
    exists_rampParts nonneg whole
  have bounds := abs_le.1 restNear
  have lowBounds := abs_le.1 lowNear
  have highBounds := abs_le.1 highNear
  norm_num at bounds lowBounds highBounds
  obtain ⟨value, rounded, near⟩ := round_near (a := low + high) (k := 12) (by norm_num) (by norm_num)
    (by rw [abs_of_nonneg (by linarith)]; norm_num; linarith)
  refine ⟨value, (rampValue_eq left first second).trans rounded, ?_⟩
  have sum := abs_le.1 near
  norm_num at sum ⊢
  rw [abs_le]
  constructor <;> linarith

end share

/-! ### The ramp starts no lower than the spool throttle -/

/-- Half a place below the spool throttle still rounds to it. -/
theorem round_spool {a : ℚ} (close : 1020 - 1 / 2 ^ 44 ≤ a) : fin 1020 ≤ Fpu.round a := by
  have tie : Fpu.round (1020 - 1 / 2 ^ 44) = fin 1020 := by decide +kernel
  rw [← tie]
  exact Fpu.round_mono close

/-- The parts of the ramp between two shares, from their values there. -/
theorem rampValue_low_of {share least most : ℚ} (rest low high : ℚ) (nonneg : 0 ≤ share) (whole : share ≤ 1)
    (above : least ≤ share) (below : share ≤ most) (left : Fpu.round (1 - most) = fin rest)
    (first : Fpu.round (rest * 1020) = fin low) (second : Fpu.round (least * 1250) = fin high)
    (close : 1020 - 1 / 2 ^ 44 ≤ low + high) : fin 1020 ≤ rampValue share := by
  obtain ⟨rest', low', high', left', first', second', -⟩ := exists_rampParts nonneg whole
  have rested : rest ≤ rest' := by
    have ordered := Fpu.round_mono (sub_le_sub_left below 1)
    rw [left, left'] at ordered
    exact fin_le_fin.1 ordered
  have lower : low ≤ low' := by
    have ordered := Fpu.round_mono (mul_le_mul_of_nonneg_right rested (by norm_num : (0 : ℚ) ≤ 1020))
    rw [first, first'] at ordered
    exact fin_le_fin.1 ordered
  have higher : high ≤ high' := by
    have ordered := Fpu.round_mono (mul_le_mul_of_nonneg_right above (by norm_num : (0 : ℚ) ≤ 1250))
    rw [second, second'] at ordered
    exact fin_le_fin.1 ordered
  rw [rampValue_eq left' first' second']
  exact round_spool (close.trans (add_le_add lower higher))

/-- Three places below 1 what is lost by rounding the rest is less than what the ramp has gained. -/
theorem rampValue_low_late {share : ℚ} (early : 12 / 5 / 2 ^ 53 ≤ share) (small : share ≤ 1 / 2 ^ 47) :
    fin 1020 ≤ rampValue share := by
  have nonneg : 0 ≤ share := le_trans (by norm_num) early
  have whole : share ≤ 1 := small.trans (by norm_num)
  obtain ⟨rest, low, high, left, first, second, -, -, -, least, most, -⟩ := exists_rampParts nonneg whole
  have restNear : |rest - (1 - share)| ≤ 2 ^ (0 - 54 : ℤ) := by
    obtain ⟨rest', same, near⟩ := round_near (a := 1 - share) (k := 0) (by norm_num) (by norm_num)
      (by rw [abs_of_nonneg (by linarith)]; norm_num; linarith)
    obtain rfl : rest = rest' := Double.fin.inj (left.symm.trans same)
    exact near
  have lowNear : |low - rest * 1020| ≤ 2 ^ (10 - 54 : ℤ) := by
    obtain ⟨low', same, near⟩ := round_near (a := rest * 1020) (k := 10) (by norm_num) (by norm_num)
      (by rw [abs_of_nonneg (by linarith)]; norm_num; linarith)
    obtain rfl : low = low' := Double.fin.inj (first.symm.trans same)
    exact near
  have highNear : |high - share * 1250| ≤ 2 ^ (-36 - 54 : ℤ) := by
    obtain ⟨high', same, near⟩ := round_near (a := share * 1250) (k := -36) (by norm_num) (by norm_num)
      (by rw [abs_of_nonneg (by linarith)]; norm_num; linarith)
    obtain rfl : high = high' := Double.fin.inj (second.symm.trans same)
    exact near
  have bounds := abs_le.1 restNear
  have lowBounds := abs_le.1 lowNear
  have highBounds := abs_le.1 highNear
  norm_num at bounds lowBounds highBounds
  rw [rampValue_eq left first second]
  apply round_spool
  norm_num at early ⊢
  linarith

theorem rampValue_low {share : ℚ} (nonneg : 0 ≤ share) (whole : share ≤ 1) : fin 1020 ≤ rampValue share := by
  rcases le_total share (1 / 2 ^ 54) with first | first
  · exact rampValue_low_of 1 1020 0 nonneg whole nonneg first (by decide +kernel)
      (by decide +kernel) (by decide +kernel) (by norm_num)
  rcases le_total share (7 / 5 / 2 ^ 53) with second | second
  · exact rampValue_low_of (1 - 1 / 2 ^ 53) (1020 - 1 / 2 ^ 43) (625 / 2 ^ 53) nonneg whole first
      second (by decide +kernel) (by decide +kernel) (by decide +kernel) (by norm_num)
  rcases le_total share (12 / 5 / 2 ^ 53) with third | third
  · exact rampValue_low_of (1 - 1 / 2 ^ 52) (1020 - 1 / 2 ^ 42) (1750 / 2 ^ 53) nonneg whole second
      third (by decide +kernel) (by decide +kernel) (by decide +kernel) (by norm_num)
  rcases le_total share (1 / 2 ^ 47) with fourth | fourth
  · exact rampValue_low_late third fourth
  · obtain ⟨value, same, near⟩ := rampValue_near nonneg whole
    have bounds := abs_le.1 near
    rw [same, fin_le_fin]
    norm_num at bounds fourth
    linarith

/-! ### The throttle from tick to tick -/

/-- The straight line next to the ramp. -/
def rampLine (q : ℚ) : ℚ := 1020 + 230 * ((q - spoolSeconds) / rampSeconds)

/-- On the ramp the throttle is a value next to the line, cut to an integer. -/
theorem exists_ramp {q : ℚ} (spooled : spoolSeconds ≤ q) (ramping : fin q - takeoffSpoolTime < takeoffRampTime) :
    ∃ value, (∀ hoverThrottle, takeoffThrottle hoverThrottle (fin q) = ⌊value⌋₊) ∧ 1020 ≤ value ∧ value < 1251 ∧
      |value - rampLine q| ≤ 1 / 2 ^ 39 := by
  obtain ⟨share, same, nonneg, whole, shareNear⟩ := exists_share spooled ramping
  obtain ⟨value, rounded, near⟩ := rampValue_near nonneg whole
  have low := rampValue_low nonneg whole
  rw [rounded, fin_le_fin] at low
  have bounds := abs_le.1 near
  have shareBounds := abs_le.1 shareNear
  norm_num at bounds shareBounds
  refine ⟨value, ?_, low, by linarith, ?_⟩
  · intro hoverThrottle
    unfold takeoffThrottle
    rw [if_neg (not_spooling_iff.2 spooled)]
    dsimp only
    rw [if_pos ramping, same]
    change toU16 (rampValue share) = _
    rw [rounded, toU16_fin (le_trans (by norm_num) low)]
  · unfold rampLine
    rw [abs_le]
    norm_num
    constructor <;> linarith

theorem takeoffThrottle_spool (hoverThrottle : Nat) {timer : Double} (spooling : timer < takeoffSpoolTime) :
    takeoffThrottle hoverThrottle timer = takeoffSpoolThrottle := if_pos spooling

theorem takeoffThrottle_after (hoverThrottle : Nat) {timer : Double} (spooled : ¬ timer < takeoffSpoolTime)
    (risen : ¬ timer - takeoffSpoolTime < takeoffRampTime) : takeoffThrottle hoverThrottle timer = hoverThrottle := by
  unfold takeoffThrottle
  rw [if_neg spooled]
  exact if_neg risen

/-- A timer that is past the spool time and still on the ramp is a finite one. -/
theorem ramping_fin {timer : Double} (nonneg : 0 ≤ timer) (ramping : timer - takeoffSpoolTime < takeoffRampTime) :
    ∃ q, timer = fin q := by
  cases timer with
  | nan => exact absurd nonneg not_le_nan
  | inf negative =>
    cases fin_le_inf.1 nonneg
    rw [takeoffSpoolTime_eq, takeoffRampTime_eq] at ramping
    exact absurd (inf_lt_fin.1 ramping) (by decide)
  | fin q => exact ⟨q, rfl⟩

variable {hoverThrottle : Nat} {timer before after : Double}

theorem takeoffThrottle_low (nonneg : 0 ≤ timer) (spooled : takeoffSpoolThrottle ≤ hoverThrottle) :
    takeoffSpoolThrottle ≤ takeoffThrottle hoverThrottle timer := by
  by_cases spooling : timer < takeoffSpoolTime
  · rw [takeoffThrottle_spool _ spooling]
  by_cases ramping : timer - takeoffSpoolTime < takeoffRampTime
  · obtain ⟨q, rfl⟩ := ramping_fin nonneg ramping
    obtain ⟨value, throttle, low, -⟩ := exists_ramp (not_spooling_iff.1 spooling) ramping
    rw [throttle]
    exact Nat.le_floor low
  · rwa [takeoffThrottle_after _ spooling ramping]

theorem takeoffThrottle_le_max (nonneg : 0 ≤ timer) :
    takeoffThrottle hoverThrottle timer ≤ max takeoffTargetThrottle hoverThrottle := by
  by_cases spooling : timer < takeoffSpoolTime
  · rw [takeoffThrottle_spool _ spooling]
    exact le_max_of_le_left (by decide)
  by_cases ramping : timer - takeoffSpoolTime < takeoffRampTime
  · obtain ⟨q, rfl⟩ := ramping_fin nonneg ramping
    obtain ⟨value, throttle, low, high, -⟩ := exists_ramp (not_spooling_iff.1 spooling) ramping
    rw [throttle]
    apply le_max_of_le_left
    exact Nat.lt_succ_iff.1 ((Nat.floor_lt (le_trans (by norm_num) low)).2 high)
  · rw [takeoffThrottle_after _ spooling ramping]
    exact le_max_right _ _

theorem takeoffThrottle_le (nonneg : 0 ≤ timer) (high : takeoffTargetThrottle ≤ hoverThrottle) :
    takeoffThrottle hoverThrottle timer ≤ hoverThrottle :=
  (takeoffThrottle_le_max nonneg).trans (max_le high le_rfl)

/-- How the clock moves a timer: not back, and while it is small not at all or by half a nanosecond at least. -/
def Ticks (before after : Double) : Prop :=
  before ≤ after ∧ ∀ p q, before = fin p → after = fin q → q < 4 → q = p ∨ p + 1 / 2 ^ 31 ≤ q

/-- Between two ticks the line rises by more than its distance to the ramp. -/
theorem takeoffThrottle_mono (nonneg : 0 ≤ before) (ticks : Ticks before after)
    (high : takeoffTargetThrottle ≤ hoverThrottle) :
    takeoffThrottle hoverThrottle before ≤ takeoffThrottle hoverThrottle after := by
  have later : 0 ≤ after := Double.le_trans nonneg ticks.1
  by_cases early : before < takeoffSpoolTime
  · rw [takeoffThrottle_spool _ early]
    exact takeoffThrottle_low later (le_trans (by decide) high)
  have spooled : ¬ after < takeoffSpoolTime := by
    rw [takeoffSpoolTime_eq] at early ⊢
    exact fun spooling => early (Double.lt_of_le_of_lt ticks.1 spooling)
  by_cases ramping : after - takeoffSpoolTime < takeoffRampTime
  · obtain ⟨q, rfl⟩ := ramping_fin later ramping
    obtain ⟨p, rfl⟩ := fin_of_between nonneg ticks.1
    have order : p ≤ q := fin_le_fin.1 ticks.1
    have stillRamping : fin p - takeoffSpoolTime < takeoffRampTime := by
      rw [takeoffSpoolTime_eq, fin_sub] at ramping ⊢
      exact Double.lt_of_le_of_lt (Fpu.round_mono (sub_le_sub_right order _)) ramping
    obtain ⟨first, throttle, low, -, near⟩ := exists_ramp (not_spooling_iff.1 early) stillRamping
    obtain ⟨second, throttle', low', -, near'⟩ := exists_ramp (not_spooling_iff.1 spooled) ramping
    have small : q < 4 := by
      have short := ramping_short ramping
      norm_num [spoolSeconds] at short
      linarith
    rcases ticks.2 p q rfl rfl small with rfl | apart
    · exact le_rfl
    · rw [throttle, throttle']
      apply Nat.floor_le_floor
      have bounds := abs_le.1 near
      have bounds' := abs_le.1 near'
      norm_num [rampLine, spoolSeconds, rampSeconds] at bounds bounds' apart
      linarith
  · rw [takeoffThrottle_after _ spooled ramping]
    exact takeoffThrottle_le nonneg high

/-! ### The clock of the loop -/

/-- A tick of the clock counts as nothing or as a nanosecond at least. -/
theorem clampedDt_steady (elapsed : ℤ) :
    ∃ d, FlightController.clampedDt (steadySeconds elapsed) = fin d ∧ (d = 0 ∨ 1 / 2 ^ 30 ≤ d) := by
  obtain ⟨most, longest, long⟩ : ∃ q, kMaxControlDt = fin q ∧ (1 : ℚ) / 2 ^ 30 ≤ q :=
    ⟨3602879701896397 / 2 ^ 54, by decide +kernel, by norm_num⟩
  unfold FlightController.clampedDt
  split_ifs with bad limited
  · exact ⟨0, rfl, .inl rfl⟩
  · exact ⟨most, longest, .inr long⟩
  rw [not_or, Bool.not_eq_false] at bad
  obtain ⟨d, seconds⟩ := isFinite_iff.1 bad.1
  refine ⟨d, seconds, ?_⟩
  have nonneg : 0 ≤ d := by
    rw [seconds] at bad
    exact not_lt.1 fun below => bad.2 (fin_lt_fin.2 below)
  unfold steadySeconds at seconds
  cases counted : Fpu.round (elapsed : ℚ) with
  | nan => exact absurd counted (round_ne_nan _)
  | inf negative =>
    rw [counted] at seconds
    change inf _ = fin d at seconds
    cases seconds
  | fin n =>
    rw [counted] at seconds
    change fin n / fin 1000000000 = fin d at seconds
    rw [fin_div (by norm_num)] at seconds
    rcases le_or_gt elapsed 0 with none | some
    · left
      have still := Fpu.round_mono (show (elapsed : ℚ) ≤ 0 by exact_mod_cast none)
      rw [counted, Double.round_zero, fin_le_fin] at still
      have down := Fpu.round_mono (div_nonpos_of_nonpos_of_nonneg still (by norm_num : (0 : ℚ) ≤ 1000000000))
      rw [seconds, Double.round_zero, fin_le_fin] at down
      exact le_antisymm down nonneg
    · right
      have step := Fpu.round_mono (show (1 : ℚ) ≤ elapsed by exact_mod_cast some)
      rw [counted, show Fpu.round 1 = fin 1 from isDouble_one, fin_le_fin] at step
      have up : (1 : ℚ) / 2 ^ 30 ≤ n / 1000000000 := by
        norm_num at step ⊢
        linarith
      have least : Fpu.round (1 / 2 ^ 30) = fin (1 / 2 ^ 30) := by decide +kernel
      have rounded := Fpu.round_mono up
      rwa [seconds, least, fin_le_fin] at rounded

/-- A timer of the controller after a tick of the clock. -/
theorem ticks_clock {timer : Double} (nonneg : 0 ≤ timer) (double : IsDouble timer) (elapsed : ℤ) :
    Ticks timer (timer + FlightController.clampedDt (steadySeconds elapsed)) := by
  obtain ⟨d, tick, counted⟩ := clampedDt_steady elapsed
  have forward : 0 ≤ d := by
    rcases counted with rfl | least
    · exact le_rfl
    · exact le_trans (by norm_num) least
  rw [tick]
  refine ⟨le_add_fin nonneg double forward, ?_⟩
  rintro p q rfl sum small
  change Fpu.round (p + d) = fin q at sum
  have start : 0 ≤ p := fin_le_fin.1 nonneg
  rcases counted with rfl | least
  · rw [add_zero, show Fpu.round p = fin p from double] at sum
    exact .inl (Double.fin.inj sum.symm)
  · have bounded : p + d < 4 := by
      by_contra long
      have four : Fpu.round 4 = fin 4 := Fpu.round_int 4 (by norm_num)
      have rounded := Fpu.round_mono (not_lt.1 long)
      rw [four, sum, fin_le_fin] at rounded
      linarith
    obtain ⟨q', same, near⟩ := round_near (a := p + d) (k := 2) (by norm_num) (by norm_num)
      (by rw [abs_of_nonneg (add_nonneg start forward)]; norm_num; linarith)
    obtain rfl : q = q' := Double.fin.inj (sum.symm.trans same)
    have bounds := abs_le.1 near
    norm_num at bounds least ⊢
    right
    linarith

end hardware
end AotDrone.Fc
