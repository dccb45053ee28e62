import AotDrone.Fc.Landing
import AotDrone.Fc.OpLog
import AotDrone.Lib.Binary64

/-! Which calls of the controller keep its arithmetic defined: no clamp with crossed bounds and no conversion of
a value that does not fit. -/

namespace AotDrone.Fc
open AotDrone.Lib AotDrone.Lib.Double AotDrone.Lib.Logged AotDrone.Lib.Run

namespace FlightController

/-- The forward command for a valid target can be limited and turned into a channel. -/
def SpeedUsable (fc : FlightController) [Fpu] : Prop :=
  let maxSpeed := fc.userParams.maxSpeed
  let cfg := fc.trackingConfig
  let boundH := fc.lastTrackingMsg.boundH
  ¬ maxSpeed < 0 ∧
    (maxSpeed = nan → cfg.maxBoxHeight ≤ boundH ∨ boundH ≤ cfg.minBoxHeight ∨
      (cfg.kSpeedPerUnitError * deadbandError (cfg.desiredBoxHeight - boundH) cfg.boxDeadband).isFinite = false)

/-- What every call keeps: the timers are numbers, and the hover throttle is within its limit. -/
structure Numeric (fc : FlightController) : Prop where
  hover : fc.hoverThrottle ≤ kAltHoldMaxThrottle
  landTimer : fc.phase.landTimer ≠ nan
  takeoffTimer : fc.phase.takeoffTimer ≠ nan

end FlightController

/-- The condition of a call on the state that it finds. -/
def Call.Meets [Fpu] (fc : FlightController) : Call → Prop
  | .commandForward speedMps => fc.userParams.maxSpeed = nan → speedMps.isFinite = false
  | .updateTimeStep deltaTime => fc.controlMode = .tracking → fc.hoverThrottle ≠ 0 →
      (fc.startStep deltaTime).isTargetValid = true → fc.SpeedUsable
  | _ => True

namespace OpLog

/-! ## The operations -/

section operations

theorem clamp_computes (value lo hi : Double) :
    Computes Op.Proper (clamp value lo hi) (Double.clamp value lo hi) (¬ hi < lo) := by
  have noted : Computes Op.Proper (report (.clamp lo hi)) () (¬ hi < lo) := .report
  exact noted.map _

theorem clampU16_computes (value : Nat) {lo hi : Nat} (ordered : lo ≤ hi) :
    Computes Op.Proper (clampU16 value lo hi) (Fc.clampU16 value lo hi) True := by
  have noted : Computes Op.Proper (report (.clampU16 lo hi)) () (¬ hi < lo) := .report
  exact (noted.of_true (not_lt.2 ordered)).map _

theorem toU16_computes (value : Double) :
    Computes Op.Proper (toU16 value) (Fc.toU16 value) (Within 0 65535 value) := by
  have noted : Computes Op.Proper (report (.toU16 value)) () (Within 0 65535 value) := .report
  exact noted.map _

/-- Limited to channel values, everything but `nan` can be converted. -/
theorem toChannel_computes (value : Double) {lo : Nat} (ordered : lo ≤ droneMax) :
    Computes Op.Proper (toChannel value (ofU16 lo)) (Fc.toU16 (Double.clamp value (ofU16 lo) (ofU16 droneMax)))
      (value ≠ nan) := by
  have bounds : (lo : ℚ) ≤ (droneMax : ℚ) := by exact_mod_cast ordered
  have limits : ¬ ofU16 droneMax < ofU16 lo := fun crossed => absurd (fin_lt_fin.1 crossed) (not_lt.2 bounds)
  apply (((clamp_computes value (ofU16 lo) (ofU16 droneMax)).of_true limits).andThen (toU16_computes _)).of_iff
  constructor
  · rintro ⟨q, same, -⟩ rfl
    cases same
  · intro number
    obtain ⟨q, same, above, below⟩ := clamp_within bounds number
    exact ⟨q, same, (Nat.cast_nonneg lo).trans above, below.trans (by norm_num [droneMax])⟩

/-- What is not finite is not clamped. -/
theorem clampFinite_computes (value : Double) {lo hi : Double} (ordered : ¬ hi < lo) :
    Computes Op.Proper (if value.isFinite then clamp value lo hi else pure 0)
      (if value.isFinite then Double.clamp value lo hi else 0) True := by
  apply Computes.ite
  · exact fun _ => (clamp_computes value lo hi).of_true ordered
  · exact fun _ => .pure

theorem clampTargetCoord_computes (value : Double) :
    Computes Op.Proper (clampTargetCoord value) (Fc.clampTargetCoord value) True :=
  clampFinite_computes value (by decide)

theorem clampUnit_computes (value : Double) : Computes Op.Proper (clampUnit value) (Fc.clampUnit value) True :=
  clampFinite_computes value (by decide)

variable (fc : FlightController)

theorem clampCommandChannels_computes :
    Computes Op.Proper (clampCommandChannels fc) fc.clampCommandChannels True := by
  have channel (value : Nat) : Computes Op.Proper (clampU16 value droneMin droneMax) _ True :=
    clampU16_computes value (by decide)
  unfold clampCommandChannels
  apply (channel fc.currentCommand.roll).andThen
  apply (channel fc.currentCommand.pitch).andThen
  apply (channel fc.currentCommand.yaw).andThen
  apply (channel fc.currentCommand.throttle).andThen
  apply (channel fc.currentCommand.aux1).andThen
  apply (channel fc.currentCommand.aux2).andThen
  apply (channel fc.currentCommand.aux3).andThen
  apply (channel fc.currentCommand.aux4).andThen
  exact .pure

theorem clampCommandChannels_inRange : fc.clampCommandChannels.currentCommand.InRange := by
  let cmd := fc.currentCommand
  change ∀ channel ∈ [cmd.roll, cmd.pitch, cmd.yaw, cmd.throttle, cmd.aux1, cmd.aux2, cmd.aux3, cmd.aux4].map
    fun value => Fc.clampU16 value droneMin droneMax, 1000 ≤ channel ∧ channel ≤ 2000
  intro channel member
  obtain ⟨value, -, rfl⟩ := List.mem_map.1 member
  exact FlightController.clampU16_range value

theorem returned_computes {cmd : BetaFlightCommand} (inRange : cmd.InRange) :
    Computes Op.Proper (report (.returned cmd)) () True :=
  Computes.report.of_iff (iff_true_intro inRange)

theorem setHoverThrottle_computes (hoverThrottle : Nat) :
    Computes Op.Proper (setHoverThrottle fc hoverThrottle) (fc.setHoverThrottle hoverThrottle) True := by
  apply Computes.ite
  · exact fun _ => .pure
  · intro _
    exact (clampU16_computes hoverThrottle (by decide)).map _

theorem updateTracking_computes (msg : TrackingMessage) :
    Computes Op.Proper (updateTracking fc msg) (fc.updateTracking msg) True := by
  unfold updateTracking
  apply (clampTargetCoord_computes msg.targetX).andThen
  apply (clampTargetCoord_computes msg.targetY).andThen
  apply (clampUnit_computes msg.boundW).andThen
  apply (clampUnit_computes msg.boundH).andThen
  apply (clampUnit_computes msg.confidence).andThen
  exact .pure

end operations

/-! ## The channels -/

section channels
variable [Fpu] (fc : FlightController)

/-- A fraction of a limit over 300 microseconds around the middle is a number. -/
theorem aroundMid_ne_nan {fraction : Double} (number : fraction ≠ nan) :
    ofU16 droneMid + fraction * 300 ≠ nan :=
  fin_add_ne_nan _ (mul_fin_ne_nan number (by norm_num))

theorem commandYawRate_computes (yawRateDps : Double) :
    Computes Op.Proper (commandYawRate fc yawRateDps) (fc.commandYawRate yawRateDps) True := by
  apply Computes.ite
  · exact fun _ => .pure
  · intro finite
    obtain ⟨q, rfl⟩ := isFinite_iff.1 (Bool.not_eq_false _ ▸ finite)
    have limits : ¬ kMaxYawRateDps < -kMaxYawRateDps := by decide
    have number := aroundMid_ne_nan (clamp_div_ne_nan (by decide : 0 < kMaxYawRateDps) q)
    apply ((clamp_computes _ _ _).of_true limits).andThen
    exact ((toChannel_computes _ (by decide)).of_true number).map _

/-- Only an unordered speed limit spoils a finite demand. -/
theorem commandForward_computes (speedMps : Double) :
    Computes Op.Proper (commandForward fc speedMps) (fc.commandForward speedMps)
      (fc.userParams.maxSpeed = nan → speedMps.isFinite = false) := by
  unfold commandForward FlightController.commandForward
  dsimp only
  generalize fc.userParams.maxSpeed = maxSpeed
  apply Computes.ite
  · intro guard
    apply Computes.pure.of_iff (iff_of_true trivial _)
    rintro rfl
    exact guard.resolve_left not_nan_le
  · intro guard
    rw [not_or, Bool.not_eq_false] at guard
    obtain ⟨q, rfl⟩ := isFinite_iff.1 guard.2
    have limits : ¬ maxSpeed < -maxSpeed := fun crossed => guard.1 (Double.le_of_lt (lt_neg_self.1 crossed))
    have channel := toChannel_computes (ofU16 droneMid + Double.clamp (fin q) (-maxSpeed) maxSpeed / maxSpeed * 300)
      (by decide : droneMin ≤ droneMax)
    apply (((clamp_computes _ _ _).of_true limits).andThen (channel.map _)).of_iff
    by_cases unordered : maxSpeed = nan
    · subst unordered
      exact iff_of_false (fun number => number rfl) (fun usable => absurd (usable rfl) nofun)
    · have positive : 0 < maxSpeed := by
        by_contra low
        exact guard.1 (Double.le_of_not_lt unordered nofun low)
      exact iff_of_true (aroundMid_ne_nan (clamp_div_ne_nan positive q)) (absurd · unordered)

/-- The difference of two channel values is a finite number. -/
theorem ofU16_sub (a b : Nat) (small : a ≤ droneMax) (smaller : b ≤ droneMax) :
    ∃ q, ofU16 a - ofU16 b = fin q := by
  have whole : Fpu.round (((a : ℤ) - b : ℤ) : ℚ) = fin (((a : ℤ) - b : ℤ) : ℚ) := by
    apply Fpu.round_int
    unfold droneMax at small smaller
    rw [abs_le]
    omega
  push_cast at whole
  exact ⟨_, (fin_sub _ _).trans whole⟩

theorem altHoldThrottle_computes {hoverThrottle : Nat} (high : hoverThrottle ≤ kAltHoldMaxThrottle)
    (deltaNorm : Double) :
    Computes Op.Proper (altHoldThrottle hoverThrottle deltaNorm)
      (FlightController.altHoldThrottle hoverThrottle deltaNorm) True := by
  have top : hoverThrottle ≤ droneMax := high.trans (by decide)
  have number : (if deltaNorm.isFinite then deltaNorm else 0) ≠ nan := by
    split_ifs with finite
    · rintro rfl
      cases finite
    · exact nofun
  have excursion {delta span : Double} (limited : Within (-1) 1 delta) (finite : ∃ q, span = fin q) :
      ofU16 hoverThrottle + delta * (if 0 < span then span else 0) ≠ nan := by
    obtain ⟨d, rfl, -⟩ := limited
    obtain ⟨q, rfl⟩ := finite
    apply fin_add_ne_nan
    split_ifs
    · exact round_ne_nan _
    · exact round_ne_nan _
  have limited := clamp_within (by norm_num : (-1 : ℚ) ≤ 1) number
  unfold altHoldThrottle FlightController.altHoldThrottle
  apply ((clamp_computes _ (-1) 1).of_true (by decide)).andThen
  apply (toChannel_computes _ (by decide)).of_true
  by_cases down : Double.clamp (if deltaNorm.isFinite then deltaNorm else 0) (-1) 1 < 0
  · rw [if_pos down]
    exact excursion limited (ofU16_sub hoverThrottle droneMin top (by decide))
  · rw [if_neg down]
    exact excursion limited (ofU16_sub kAltHoldMaxThrottle hoverThrottle (by decide) top)

variable {fc}

theorem commandAltHoldDelta_computes (high : fc.hoverThrottle ≤ kAltHoldMaxThrottle) (deltaNorm : Double) :
    Computes Op.Proper (commandAltHoldDelta fc deltaNorm) (fc.commandAltHoldDelta deltaNorm) True := by
  apply Computes.ite
  · exact fun _ => .pure
  · intro _
    exact (altHoldThrottle_computes high deltaNorm).map _

end channels

/-! ## The handlers -/

section handlers
variable [Fpu] {fc : FlightController} {dt : Double}

/-- The ramp of a landing is a number as long as its timer is one. -/
theorem runLandSafelyMode_computes (number : fc.landTimer ≠ nan) (tick : ∃ d, dt = fin d) :
    Computes Op.Proper (runLandSafelyMode fc dt) (fc.runLandSafelyMode dt) True := by
  obtain ⟨d, rfl⟩ := tick
  unfold runLandSafelyMode FlightController.runLandSafelyMode
  generalize captured : (ite (fc.landSafelyInitialized = true) fc _ : FlightController) = first
  have started : first.landTimer ≠ nan := by
    rw [← captured]
    by_cases running : fc.landSafelyInitialized = true
    · rw [if_pos running]
      exact number
    · rw [if_neg running]
      exact nofun
  dsimp only
  apply Computes.ite
  · exact fun _ => .pure
  · intro _
    apply Computes.ite
    · exact fun _ => .pure
    · intro _
      have fifty : (50 : ℚ) ≠ 0 := by norm_num
      have ramp : ofU16 first.landStartThrottle - kLandRampRateUsPerS * (first.landTimer + fin d) ≠ nan :=
        fin_sub_ne_nan _ (fin_mul_ne_nan fifty (add_fin_ne_nan started d))
      exact ((toChannel_computes _ (by decide)).of_true ramp).map _

/-- On the ramp of a takeoff the blend of its two throttles is a channel value. -/
theorem takeoffRamp_within {timer : Double} (number : timer ≠ nan) (spooled : ¬ timer < takeoffSpoolTime)
    (ramps : timer - takeoffSpoolTime < takeoffRampTime) :
    Within 0 65535 ((1 - (timer - takeoffSpoolTime) / takeoffRampTime) * ofU16 takeoffSpoolThrottle +
      (timer - takeoffSpoolTime) / takeoffRampTime * ofU16 takeoffTargetThrottle) := by
  have whole (n : ℤ) (small : |n| ≤ 2 ^ 53) : IsDouble (fin (n : ℚ)) := Fpu.round_int n small
  obtain ⟨s, spool, -⟩ : Within 0 1 takeoffSpoolTime :=
    round_within isDouble_zero isDouble_one (by norm_num) (by norm_num)
  obtain ⟨r, length, one_le, -⟩ : Within 1 2 takeoffRampTime :=
    round_within isDouble_one (whole 2 (by norm_num)) (by norm_num) (by norm_num)
  rw [spool] at spooled ramps ⊢
  rw [length] at ramps ⊢
  obtain ⟨p, rampT, nonneg, below⟩ : ∃ p, timer - fin s = fin p ∧ 0 ≤ p ∧ p < r := by
    cases timer with
    | nan => exact absurd rfl number
    | inf negative =>
      cases negative with
      | true => exact absurd rfl spooled
      | false => cases ramps
    | fin q =>
      have after : 0 ≤ q - s := sub_nonneg.2 (not_lt.1 fun early => spooled (fin_lt_fin.2 early))
      rw [fin_sub] at ramps ⊢
      obtain ⟨p, same⟩ := fin_of_between (round_nonneg after) (Double.le_of_lt ramps)
      rw [same] at ramps
      have above := round_nonneg after
      rw [same] at above
      exact ⟨p, same, fin_le_fin.1 above, fin_lt_fin.1 ramps⟩
  have positive : 0 < r := zero_lt_one.trans_le one_le
  obtain ⟨a, alpha, a_nonneg, a_le⟩ : Within 0 1 (fin p / fin r) := by
    rw [fin_div positive.ne']
    exact round_within isDouble_zero isDouble_one (by positivity) ((div_le_one positive).2 below.le)
  obtain ⟨b, beta, b_nonneg, b_le⟩ : Within 0 1 (1 - fin a) :=
    round_within isDouble_zero isDouble_one (by linarith) (by linarith)
  obtain ⟨x, first, x_nonneg, x_le⟩ : Within 0 1020 (fin b * ofU16 takeoffSpoolThrottle) := by
    have share : b * ((takeoffSpoolThrottle : Nat) : ℚ) ≤ 1020 := by
      norm_num [takeoffSpoolThrottle, droneMin]
      linarith
    exact round_within isDouble_zero (whole 1020 (by norm_num)) (by positivity) share
  obtain ⟨y, second, y_nonneg, y_le⟩ : Within 0 1250 (fin a * ofU16 takeoffTargetThrottle) := by
    have share : a * ((takeoffTargetThrottle : Nat) : ℚ) ≤ 1250 := by
      norm_num [takeoffTargetThrottle]
      linarith
    exact round_within isDouble_zero (whole 1250 (by norm_num)) (by positivity) share
  rw [rampT, alpha, beta, first, second]
  exact round_within isDouble_zero (whole 65535 (by norm_num)) (by positivity) (by linarith)

theorem runHoverSearchState_computes (high : fc.hoverThrottle ≤ kAltHoldMaxThrottle) :
    Computes Op.Proper (runHoverSearchState fc) fc.runHoverSearchState True := by
  unfold runHoverSearchState
  refine Computes.andThen (commandAltHoldDelta_computes ?_ 0) (commandYawRate_computes _ _)
  exact high

theorem runHoverStillState_computes (high : fc.hoverThrottle ≤ kAltHoldMaxThrottle) (state : TrackingState) :
    Computes Op.Proper (runHoverStillState fc state) (fc.runHoverStillState state) True :=
  commandAltHoldDelta_computes (by exact high) 0

omit [Fpu] in
/-- Between two `nan`s a value is left as it is. -/
theorem clamp_unordered (value : Double) : Double.clamp value nan nan = value := by
  unfold Double.clamp
  rw [if_neg not_lt_nan, if_neg not_nan_lt]

/-- The two bounds of the demand are in order, and an unordered speed limit meets no finite demand. -/
theorem speedUsable_iff : fc.SpeedUsable ↔
    ¬ fc.userParams.maxSpeed < -fc.userParams.maxSpeed ∧ (fc.userParams.maxSpeed = nan →
      (FlightController.followSpeed fc.trackingConfig fc.userParams.maxSpeed
        fc.lastTrackingMsg.boundH).isFinite = false) := by
  unfold FlightController.SpeedUsable FlightController.followSpeed
  dsimp only
  rw [lt_neg_self]
  apply and_congr_right
  intro _
  generalize fc.userParams.maxSpeed = maxSpeed
  apply forall_congr'
  rintro rfl
  change _ ↔ (Double.clamp _ nan nan).isFinite = false
  rw [clamp_unordered]
  by_cases near : fc.trackingConfig.maxBoxHeight ≤ fc.lastTrackingMsg.boundH
  · rw [if_pos near]
    exact iff_of_true (.inl near) rfl
  · rw [if_neg near]
    by_cases far : fc.lastTrackingMsg.boundH ≤ fc.trackingConfig.minBoxHeight
    · rw [if_pos far]
      exact iff_of_true (.inr (.inl far)) rfl
    · rw [if_neg far, or_iff_right near, or_iff_right far]

theorem runFollowTargetLogic_computes (high : fc.hoverThrottle ≤ kAltHoldMaxThrottle) (known : fc.hoverThrottle ≠ 0)
    (valid : fc.isTargetValid = true) :
    Computes Op.Proper (runFollowTargetLogic fc) fc.runFollowTargetLogic fc.SpeedUsable := by
  have guard := fc.isTargetValid_guard valid
  unfold runFollowTargetLogic FlightController.runFollowTargetLogic
  apply (commandAltHoldDelta_computes high 0).andThen
  rw [FlightController.commandAltHoldDelta_eq fc 0 known]
  dsimp only
  rw [if_neg (by exact guard), if_neg (by exact guard)]
  unfold followTarget
  apply (commandYawRate_computes _ _).andThen
  rw [FlightController.commandYawRate_eq]
  apply Computes.of_iff _ speedUsable_iff.symm
  apply (clamp_computes _ _ _).bind
  apply ((commandForward_computes _ _).bind _).of_iff (iff_of_eq (and_true _))
  rw [FlightController.commandForward_eq]
  apply ((clamp_computes _ _ _).of_true (by decide)).andThen
  exact (commandAltHoldDelta_computes (by exact high) _).map _

end handlers
end OpLog

/-! ## What every call keeps -/

namespace FlightController.Numeric
variable {fc after : FlightController}

theorem of_phase (numeric : fc.Numeric) (hover : after.hoverThrottle = fc.hoverThrottle)
    (phase : after.phase = fc.phase) : after.Numeric where
  hover := hover.trans_le numeric.hover
  landTimer := phase ▸ numeric.landTimer
  takeoffTimer := phase ▸ numeric.takeoffTimer

theorem setControlMode (numeric : fc.Numeric) (mode : ControlMode) : (fc.setControlMode mode).Numeric := by
  have hover := setControlMode_hoverThrottle fc mode
  by_cases same : mode = fc.controlMode
  · exact numeric.of_phase hover ((setControlMode_phase fc mode).trans (if_pos same))
  · have left : (fc.setControlMode mode).phase = fc.phase.left := (setControlMode_phase fc mode).trans (if_neg same)
    exact ⟨hover.trans_le numeric.hover, left ▸ nofun, left ▸ nofun⟩

theorem setHoverThrottle (numeric : fc.Numeric) (hoverThrottle : Nat) :
    (fc.setHoverThrottle hoverThrottle).Numeric := by
  unfold FlightController.setHoverThrottle
  split_ifs
  · exact ⟨Nat.zero_le _, numeric.landTimer, numeric.takeoffTimer⟩
  · have limited : clampU16 hoverThrottle droneMin kAltHoldMaxThrottle ≤ kAltHoldMaxThrottle := by
      unfold clampU16 droneMin kAltHoldMaxThrottle
      split_ifs <;> omega
    exact ⟨limited, numeric.landTimer, numeric.takeoffTimer⟩

section timers
variable (numeric : fc.Numeric)
include numeric

theorem landed {timer : Double} (number : timer ≠ nan) (hover : after.hoverThrottle = fc.hoverThrottle)
    (phase : after.phase = fc.landed timer) : after.Numeric where
  hover := hover.trans_le numeric.hover
  landTimer := phase ▸ number
  takeoffTimer := phase ▸ numeric.takeoffTimer

variable [Fpu] {dt : Double}

theorem runLandSafelyMode (tick : ∃ d, dt = fin d) : (fc.runLandSafelyMode dt).Numeric := by
  obtain ⟨d, rfl⟩ := tick
  have found : fc.landElapsed ≠ nan := by
    unfold landElapsed
    split_ifs
    · exact numeric.landTimer
    · exact nofun
  have later : fc.landElapsed + fin d ≠ nan := add_fin_ne_nan found d
  have hover := (runLandSafelyMode_frame fc (fin d)).2.1
  cases armed : fc.currentCommand.isArmed with
  | false => exact numeric.landed found hover (runLandSafelyMode_disarmed fc _ armed).1
  | true =>
    by_cases ended : kDisarmTime ≤ fc.landElapsed + fin d
    · exact numeric.landed later hover (runLandSafelyMode_over fc _ armed ended).1
    · exact numeric.landed later hover (runLandSafelyMode_ramp fc _ armed ended).1

theorem runTakeoffMode (tick : ∃ d, dt = fin d) : (fc.runTakeoffMode dt).Numeric := by
  by_cases calibrated : fc.hoverThrottle = 0
  · rw [runTakeoffMode_uncalibrated fc dt calibrated]
    exact (numeric.setControlMode .landSafely).runLandSafelyMode tick
  · obtain ⟨d, rfl⟩ := tick
    unfold FlightController.runTakeoffMode
    rw [if_neg calibrated]
    generalize started : (ite (fc.takeoffInitialized = true) fc _ : FlightController) = first
    have begun : first.Numeric := by
      rw [← started]
      split_ifs
      · exact numeric
      · exact ⟨numeric.hover, numeric.landTimer, nofun⟩
    have later : first.takeoffTimer + fin d ≠ nan := add_fin_ne_nan begun.takeoffTimer d
    have ticked : FlightController.Numeric { first with takeoffTimer := first.takeoffTimer + fin d } :=
      ⟨begun.hover, begun.landTimer, later⟩
    dsimp only
    split_ifs
    · exact ticked.of_phase rfl rfl
    · exact ticked.of_phase rfl rfl
    · apply Numeric.setControlMode
      exact ticked.of_phase rfl rfl
    · exact ticked.of_phase rfl rfl

theorem dispatchMode (tick : ∃ d, dt = fin d) : (fc.dispatchMode dt).Numeric := by
  unfold FlightController.dispatchMode
  cases fc.controlMode with
  | manual => exact numeric.of_phase rfl rfl
  | landSafely => exact numeric.runLandSafelyMode tick
  | takeoff => exact numeric.runTakeoffMode tick
  | tracking =>
    by_cases calibrated : fc.hoverThrottle = 0
    · dsimp only
      rw [runTrackingMode_uncalibrated fc dt calibrated]
      exact (numeric.setControlMode .landSafely).runLandSafelyMode tick
    · have steers := runTrackingMode_steers fc dt calibrated
      exact numeric.of_phase steers.hoverThrottle steers.phase

theorem updateTimeStep (deltaTime : Double) : (fc.updateTimeStep deltaTime).Numeric := by
  obtain ⟨d, tick, -⟩ := clampedDt_within deltaTime
  have started : (fc.startStep deltaTime).Numeric := numeric.of_phase rfl rfl
  rw [updateTimeStep_eq]
  exact (started.dispatchMode ⟨d, tick⟩).of_phase (finishStep_frame _).2.1 (finishStep_phase _)

theorem apply (call : Call) : (call.apply fc).Numeric := by
  cases call with
  | setControlMode mode => exact numeric.setControlMode mode
  | setHoverThrottle hoverThrottle => exact numeric.setHoverThrottle hoverThrottle
  | updateTimeStep deltaTime => exact numeric.updateTimeStep deltaTime
  | commandForward speedMps =>
    have steers := commandForward_steers fc speedMps
    exact numeric.of_phase steers.hoverThrottle steers.phase
  | commandYawRate yawRateDps =>
    have steers := commandYawRate_steers fc yawRateDps
    exact numeric.of_phase steers.hoverThrottle steers.phase
  | commandAltHoldDelta deltaNorm =>
    have steers := commandAltHoldDelta_steers fc deltaNorm
    exact numeric.of_phase steers.hoverThrottle steers.phase
  | _ => exact numeric.of_phase rfl rfl

end timers
end FlightController.Numeric

theorem numeric_init [Fpu] : FlightController.init.Numeric := ⟨Nat.zero_le _, nofun, nofun⟩

namespace OpLog
section runs
variable [Fpu] {fc : FlightController}

theorem runTakeoffMode_computes (numeric : fc.Numeric) {dt : Double} (tick : ∃ d, dt = fin d) :
    Computes Op.Proper (runTakeoffMode fc dt) (fc.runTakeoffMode dt) True := by
  unfold runTakeoffMode FlightController.runTakeoffMode
  apply Computes.ite
  · intro _
    exact runLandSafelyMode_computes (numeric.setControlMode .landSafely).landTimer tick
  · intro _
    obtain ⟨d, rfl⟩ := tick
    generalize started : (ite (fc.takeoffInitialized = true) fc _ : FlightController) = first
    have begun : first.takeoffTimer ≠ nan := by
      rw [← started]
      split_ifs
      · exact numeric.takeoffTimer
      · exact nofun
    have later : first.takeoffTimer + fin d ≠ nan := add_fin_ne_nan begun d
    dsimp only
    apply Computes.ite
    · exact fun _ => .pure
    · intro spool
      apply Computes.ite
      · intro ramp
        exact ((toU16_computes _).of_true (takeoffRamp_within later spool ramp)).map _
      · exact fun _ => .pure

theorem runTrackingMode_computes (numeric : fc.Numeric) {dt : Double} (tick : ∃ d, dt = fin d) :
    Computes Op.Proper (runTrackingMode fc dt) (fc.runTrackingMode dt)
      (fc.hoverThrottle ≠ 0 → fc.isTargetValid = true → fc.SpeedUsable) := by
  have search := runHoverSearchState_computes numeric.hover
  have still := runHoverStillState_computes numeric.hover
  unfold runTrackingMode FlightController.runTrackingMode
  apply Computes.ite
  · intro calibrated
    apply (runLandSafelyMode_computes (numeric.setControlMode .landSafely).landTimer tick).of_iff
    exact iff_of_true trivial (absurd calibrated)
  · intro calibrated
    cases valid : fc.isTargetValid with
    | true =>
      have fresh := fc.isTargetValid_fresh valid
      have follow : Computes Op.Proper (runFollowTargetState fc) fc.runFollowTargetState fc.SpeedUsable :=
        runFollowTargetLogic_computes (by exact numeric.hover) calibrated valid
      rw [fresh.1, fresh.2]
      exact follow.of_iff ⟨fun usable _ _ => usable, fun usable => usable calibrated rfl⟩
    | false =>
      have free : True ↔ (fc.hoverThrottle ≠ 0 → false = true → fc.SpeedUsable) := iff_of_true trivial fun _ => nofun
      apply Computes.ite
      · exact fun _ => search.of_iff free
      · intro _
        cases fc.lastTrackingMsg.state with
        | tracking => exact search.of_iff free
        | searching => exact search.of_iff free
        | targetDetected => exact (still _).of_iff free
        | noTarget => exact (still _).of_iff free

theorem dispatchMode_computes (numeric : fc.Numeric) {dt : Double} (tick : ∃ d, dt = fin d) :
    Computes Op.Proper (dispatchMode fc dt) (fc.dispatchMode dt)
      (fc.controlMode = .tracking → fc.hoverThrottle ≠ 0 → fc.isTargetValid = true → fc.SpeedUsable) := by
  unfold dispatchMode FlightController.dispatchMode
  cases fc.controlMode with
  | manual => exact Computes.pure.of_iff (iff_of_true trivial nofun)
  | landSafely => exact (runLandSafelyMode_computes numeric.landTimer tick).of_iff (iff_of_true trivial nofun)
  | takeoff => exact (runTakeoffMode_computes numeric tick).of_iff (iff_of_true trivial nofun)
  | tracking =>
    exact (runTrackingMode_computes numeric tick).of_iff ⟨fun usable _ => usable, fun usable => usable rfl⟩

/-- The returned channels are in range whatever happened before. -/
theorem updateTimeStep_computes (numeric : fc.Numeric) (deltaTime : Double) :
    Computes Op.Proper (updateTimeStep fc deltaTime) (fc.updateTimeStep deltaTime)
      (Call.Meets fc (.updateTimeStep deltaTime)) := by
  obtain ⟨d, tick, -⟩ := FlightController.clampedDt_within deltaTime
  have started : (fc.startStep deltaTime).Numeric := numeric.of_phase rfl rfl
  apply ((dispatchMode_computes started ⟨d, tick⟩).bind _).of_iff (iff_of_eq (and_true _))
  apply (clampCommandChannels_computes _).andThen
  exact (returned_computes (clampCommandChannels_inRange _)).map _

theorem perform_computes (numeric : fc.Numeric) (call : Call) :
    Computes Op.Proper (perform fc call) (call.apply fc) (call.Meets fc) := by
  cases call with
  | setHoverThrottle hoverThrottle => exact setHoverThrottle_computes fc hoverThrottle
  | updateTracking msg => exact updateTracking_computes fc msg
  | setManualSetpoints cmd => exact clampCommandChannels_computes _
  | updateTimeStep deltaTime => exact updateTimeStep_computes numeric deltaTime
  | commandForward speedMps => exact commandForward_computes fc speedMps
  | commandYawRate yawRateDps => exact commandYawRate_computes fc yawRateDps
  | commandAltHoldDelta deltaNorm => exact commandAltHoldDelta_computes numeric.hover deltaNorm
  | _ => exact .pure

/-- A session runs the controller, and all it does is proper if and only if every call meets its condition. -/
theorem session_computes (calls : List Call) :
    Computes Op.Proper (session calls) (calls.foldl Call.apply .init)
      (Always Call.apply (fun _ fc call => call.Meets fc) [] .init calls) := by
  apply (clampCommandChannels_computes _).andThen
  exact computes_foldlM FlightController.Numeric (fun _ call numeric => perform_computes numeric call)
    (fun _ call numeric => numeric.apply call) [] .init calls numeric_init

/-- A session clamps between bounds in order, converts numbers that fit and returns channels in range if and only
if every call finds the controller in a state that meets its condition. -/
theorem session_proper_iff (calls : List Call) :
    (∀ op ∈ (session calls).events, op.Proper) ↔
      Always Call.apply (fun _ fc call => call.Meets fc) [] .init calls :=
  (session_computes calls).clean

end runs

section hardware
attribute [local instance] Binary64.binary64

/-- A target is followed at a negative speed limit. -/
def backwards : List Call :=
  [.setUserParams { maxSpeed := -1 }, .setHoverThrottle 1400, .setControlMode .tracking,
    .updateTracking { state := .tracking, boundH := 0.25, confidence := 0.9 }, .updateTimeStep 0.02]

/-- A finite speed is commanded at an unordered speed limit. -/
def unlimited : List Call := [.setUserParams { maxSpeed := nan }, .commandForward 0.5]

theorem backwards_crosses : (∃ op ∈ (session backwards).events, ¬ op.Proper) ∧
    ∃ op ∈ (session unlimited).events, ¬ op.Proper := by
  have crossed : Op.clamp 1 (-1) ∈ (session backwards).events := by decide +kernel
  have converted : Op.toU16 nan ∈ (session unlimited).events := by decide +kernel
  refine ⟨⟨_, crossed, fun proper => proper (by decide)⟩, _, converted, ?_⟩
  rintro ⟨q, same, -⟩
  cases same

end hardware

end OpLog

/-! ## Speed limits that are numbers -/

section limits
variable [Fpu] {fc : FlightController}

omit [Fpu] in
theorem FlightController.setHoverThrottle_userParams (hover : Nat) :
    (fc.setHoverThrottle hover).userParams = fc.userParams := by
  unfold setHoverThrottle
  split_ifs <;> rfl

namespace Call

/-- The speed limit a call leaves. -/
def limit (fc : FlightController) : Call → Double
  | setUserParams params => params.maxSpeed
  | _ => fc.userParams.maxSpeed

theorem apply_userParams (call : Call) : (call.apply fc).userParams = { maxSpeed := call.limit fc } := by
  have kept {after : FlightController} (same : after.given = fc.given) : after.userParams = fc.userParams :=
    congrArg FlightController.Given.userParams same
  cases call with
  | setControlMode mode => exact kept (fc.setControlMode_given mode)
  | setHoverThrottle hoverThrottle => exact FlightController.setHoverThrottle_userParams hoverThrottle
  | updateTimeStep deltaTime =>
    exact (congrArg FlightController.Given.userParams (FlightController.updateTimeStep_given fc deltaTime) :)
  | commandForward speedMps => exact kept (FlightController.commandForward_steers fc speedMps).given
  | commandYawRate yawRateDps => exact kept (FlightController.commandYawRate_steers fc yawRateDps).given
  | commandAltHoldDelta deltaNorm => exact kept (FlightController.commandAltHoldDelta_steers fc deltaNorm).given
  | _ => rfl

theorem meets_of_limit (ordered : 0 ≤ fc.userParams.maxSpeed) (call : Call) : call.Meets fc := by
  have number : fc.userParams.maxSpeed ≠ nan := fun unordered => not_le_nan (unordered ▸ ordered)
  cases call with
  | commandForward speedMps => exact fun unordered => absurd unordered number
  | updateTimeStep deltaTime =>
    intro _ _ _
    exact ⟨Double.not_lt_of_le ordered, fun unordered => absurd unordered number⟩
  | _ => trivial

end Call

/-- As long as the speed limits that are set are numbers and not negative, nothing else can go wrong. -/
theorem OpLog.session_of_limits (calls : List Call)
    (ordered : ∀ params, Call.setUserParams params ∈ calls → 0 ≤ params.maxSpeed) :
    Clean Op.Proper (session calls) := by
  apply (session_computes calls).clean.2
  have given : ∀ call ∈ calls, ∀ params, call = .setUserParams params → 0 ≤ params.maxSpeed := by
    rintro call member params rfl
    exact ordered params member
  apply Always.of_invariant (fun _ fc => 0 ≤ fc.userParams.maxSpeed) _ _ [] _ calls _
    ((Always.iff_forall _ [] FlightController.init calls).2 given)
  · exact fun _ fc call inv _ => call.meets_of_limit inv
  · intro _ fc call inv fair
    rw [call.apply_userParams]
    cases call with
    | setUserParams params => exact fair params rfl
    | _ => exact inv
  · exact fin_le_fin.2 zero_le_one

end limits

end AotDrone.Fc
