import AotDrone.Lib.Double

/-! Channel constants and the maps from setpoints to pulse widths
(`RcConstants.h`, `Clamp.h`, `RcMath.h`). -/

namespace AotDrone.Fc
open AotDrone.Lib AotDrone.Lib.Double

def droneMin : Nat := 1000
def droneMid : Nat := 1500
def droneMax : Nat := 2000
def droneAuxMin : Nat := 1000
def droneAuxMax : Nat := 2000

/-- A channel value as a double. -/
def ofU16 (channel : Nat) : Double := fin channel

/-- `static_cast<std::uint16_t>` of a value in range. -/
def toU16 (value : Double) : Nat := (truncate value).toNat

/-- `std::clamp` on channel values. -/
def clampU16 (value lo hi : Nat) : Nat := if value < lo then lo else if hi < value then hi else value

theorem clampU16_eq {value lo hi : Nat} (low : lo ≤ value) (high : value ≤ hi) :
    clampU16 value lo hi = value := by
  unfold clampU16
  split_ifs <;> omega

theorem toU16_fin {value : ℚ} (nonneg : 0 ≤ value) : toU16 (fin value) = ⌊value⌋₊ := by
  rw [toU16, truncate_fin_of_nonneg nonneg]
  rfl

def clampTargetCoord (value : Double) : Double :=
  if value.isFinite then clamp value (-1) 1 else 0

def clampUnit (value : Double) : Double :=
  if value.isFinite then clamp value 0 1 else 0

/-- What is not finite is taken to zero, and the rest between the bounds. -/
theorem finiteClamp_within {lower upper : ℚ} (below : lower ≤ 0) (above : 0 ≤ upper) (value : Double) :
    Within lower upper (if value.isFinite then clamp value (fin lower) (fin upper) else 0) := by
  cases value with
  | nan => exact ⟨0, rfl, below, above⟩
  | inf negative => exact ⟨0, rfl, below, above⟩
  | fin q =>
    have ordered := below.trans above
    exact ⟨max lower (min q upper), clamp_fin q lower upper ordered, le_max_left _ _,
      max_le ordered (min_le_right _ _)⟩

theorem clampTargetCoord_within (value : Double) : Within (-1) 1 (clampTargetCoord value) :=
  finiteClamp_within (by norm_num) (by norm_num) value

theorem clampUnit_within (value : Double) : Within 0 1 (clampUnit value) :=
  finiteClamp_within le_rfl (by norm_num) value

theorem clampTargetCoord_fin {value : ℚ} (low : -1 ≤ value) (high : value ≤ 1) :
    clampTargetCoord (fin value) = fin value := by
  change clamp (fin value) (fin (-1)) (fin 1) = _
  rw [clamp_fin _ _ _ (by norm_num), min_eq_left high, max_eq_right low]

section setpoints
variable [Fpu]

def kAxisRangeUs : Double := 300
def kMaxYawRateDps : Double := 180

def normalizedAxisToPwm (normalized : Double) : Nat :=
  if normalized.isFinite then
    let clamped := clamp normalized (-1) 1
    let pwm := ofU16 droneMid + clamped * kAxisRangeUs
    (lround (clamp pwm (ofU16 droneMin) (ofU16 droneMax))).toNat
  else droneMid

def yawRateToPwm (yawRateDps : Double) : Nat :=
  if yawRateDps.isFinite then
    let limited := clamp yawRateDps (-kMaxYawRateDps) kMaxYawRateDps
    normalizedAxisToPwm (limited / kMaxYawRateDps)
  else droneMid

/-- A setpoint in [0, 1] is normalised, any other finite one is a pulse width already. -/
def throttleToPwm (throttle : Double) : Nat :=
  if throttle.isFinite then
    if 0 ≤ throttle ∧ throttle ≤ 1 then
      let pwm := ofU16 droneMin + throttle * ofU16 (droneMax - droneMin)
      (lround (clamp pwm (ofU16 droneMin) (ofU16 droneMax))).toNat
    else (lround (clamp throttle (ofU16 droneMin) (ofU16 droneMax))).toNat
  else droneMin

end setpoints

end AotDrone.Fc
