import AotDrone.Fc.Phases

/-! The channels Tracking writes: searching, hovering, and following a target. -/

namespace AotDrone.Fc.FlightController
open AotDrone.Lib AotDrone.Lib.Double

section channels
variable [Fpu]

/-- What `commandYawRate` writes. -/
def yawChannel (yawRateDps : Double) : Nat :=
  if yawRateDps.isFinite = false then droneMid
  else
    let normalized := clamp yawRateDps (-kMaxYawRateDps) kMaxYawRateDps / kMaxYawRateDps
    toU16 (clamp (ofU16 droneMid + normalized * kYawRangeUs) (ofU16 droneMin) (ofU16 droneMax))

/-- What `commandForward` writes. -/
def pitchChannel (maxSpeed speedMps : Double) : Nat :=
  if maxSpeed ≤ 0 ∨ speedMps.isFinite = false then droneMid
  else
    let normalized := clamp speedMps (-maxSpeed) maxSpeed / maxSpeed
    toU16 (clamp (ofU16 droneMid + normalized * kPitchRangeUs) (ofU16 droneMin) (ofU16 droneMax))

theorem ofU16_isDouble {channel : Nat} (small : channel ≤ droneMax) : IsDouble (ofU16 channel) := by
  have bound : |(channel : ℤ)| ≤ 2 ^ 53 := by
    rw [abs_of_nonneg (by positivity)]
    unfold droneMax at small
    omega
  exact Fpu.round_int channel bound

theorem span_eq {low high : Nat} (below : low ≤ high) (small : high ≤ droneMax) :
    ofU16 high - ofU16 low = fin (high - low : ℚ) := by
  have whole : Fpu.round ((high - low : Nat) : ℚ) = _ := ofU16_isDouble ((Nat.sub_le _ _).trans small)
  rw [Nat.cast_sub below] at whole
  exact (fin_sub _ _).trans whole

omit [Fpu] in
/-- `std::max(0.0, span)` of a span that is not negative. -/
theorem range_eq {span : ℚ} (nonneg : 0 ≤ span) : (if (0 : Double) < fin span then fin span else 0) = fin span := by
  split_ifs with positive
  · rfl
  · exact congrArg fin (le_antisymm nonneg (not_lt.1 fun more => positive (fin_lt_fin.2 more)))

omit [Fpu] in
theorem clamp_fin_of_mem {lower upper value : ℚ} (low : lower ≤ value) (high : value ≤ upper) :
    clamp (fin value) (fin lower) (fin upper) = fin value := by
  rw [clamp_fin _ _ _ (low.trans high), min_eq_left high, max_eq_right low]

/-- The throttle around the hover throttle, before it is cut to a channel value. -/
def heightThrottle (hoverThrottle : Nat) (delta : Double) : Double :=
  ofU16 hoverThrottle + delta *
    (if delta < 0 then ofU16 hoverThrottle - ofU16 droneMin else ofU16 kAltHoldMaxThrottle - ofU16 hoverThrottle)

section height
variable {hoverThrottle : Nat} (low : droneMin ≤ hoverThrottle) (high : hoverThrottle ≤ kAltHoldMaxThrottle)
include low high

theorem heightThrottle_within {delta : ℚ} (above : -1 ≤ delta) (below : delta ≤ 1) :
    Within droneMin kAltHoldMaxThrottle (heightThrottle hoverThrottle (fin delta)) := by
  have top : hoverThrottle ≤ droneMax := high.trans (by decide)
  have bottom : (1000 : ℚ) ≤ hoverThrottle := by exact_mod_cast low
  have least : IsDouble (fin (droneMin : ℚ)) := ofU16_isDouble (by decide)
  have most : IsDouble (fin (kAltHoldMaxThrottle : ℚ)) := ofU16_isDouble (by decide)
  have hover : IsDouble (fin (hoverThrottle : ℚ)) := ofU16_isDouble top
  have floor : ((droneMin : Nat) : ℚ) = 1000 := by norm_num [droneMin]
  have ceiling : ((kAltHoldMaxThrottle : Nat) : ℚ) = 1800 := by norm_num [kAltHoldMaxThrottle]
  have limit : (hoverThrottle : ℚ) ≤ 1800 := by exact_mod_cast high
  have negated : IsDouble (fin (-(hoverThrottle - 1000 : ℚ))) := by
    have whole := Fpu.round_int (-((hoverThrottle : ℤ) - 1000)) (by rw [abs_neg, abs_le]; unfold droneMax at top; omega)
    push_cast at whole
    exact whole
  have upper : IsDouble (fin (1800 - hoverThrottle : ℚ)) := by
    have whole := Fpu.round_int (1800 - (hoverThrottle : ℤ)) (by rw [abs_le]; unfold droneMax at top; omega)
    push_cast at whole
    exact whole
  unfold heightThrottle
  rw [span_eq low top, span_eq high (by decide), floor, ceiling]
  rw [floor] at least
  rw [ceiling] at most
  split_ifs with down
  · have negative : delta < 0 := fin_lt_fin.1 down
    obtain ⟨step, rounded, deepest, still⟩ := round_within (a := delta * (hoverThrottle - 1000)) negated isDouble_zero
      (by nlinarith) (by nlinarith)
    change Within _ _ (ofU16 hoverThrottle + Fpu.round (delta * (hoverThrottle - 1000)))
    rw [rounded]
    exact round_within (a := hoverThrottle + step) least most (by linarith) (by linarith)
  · have nonneg : 0 ≤ delta := not_lt.1 fun negative => down (fin_lt_fin.2 negative)
    obtain ⟨step, rounded, still, highest⟩ := round_within (a := delta * (1800 - hoverThrottle)) isDouble_zero upper
      (by nlinarith) (by nlinarith)
    change Within _ _ (ofU16 hoverThrottle + Fpu.round (delta * (1800 - hoverThrottle)))
    rw [rounded]
    exact round_within (a := hoverThrottle + step) least most (by linarith) (by linarith)

/-- Within its range no clamp of `commandAltHoldDelta` changes anything. -/
theorem altHoldThrottle_eq {delta : ℚ} (above : -1 ≤ delta) (below : delta ≤ 1) :
    altHoldThrottle hoverThrottle (fin delta) = toU16 (heightThrottle hoverThrottle (fin delta)) := by
  have bottom : (1000 : ℚ) ≤ hoverThrottle := by exact_mod_cast low
  have limit : (hoverThrottle : ℚ) ≤ 1800 := by exact_mod_cast high
  have floor : ((droneMin : Nat) : ℚ) = 1000 := by norm_num [droneMin]
  have ceiling : ((kAltHoldMaxThrottle : Nat) : ℚ) = 1800 := by norm_num [kAltHoldMaxThrottle]
  obtain ⟨value, height, least, most⟩ := heightThrottle_within low high above below
  have neutral : clamp (fin delta) (-1) 1 = fin delta := clamp_fin_of_mem above below
  unfold altHoldThrottle
  rw [isFinite_fin, if_pos rfl]
  dsimp only
  rw [neutral, span_eq low (high.trans (by decide)), span_eq high (by decide), floor, ceiling,
    range_eq (sub_nonneg.2 bottom), range_eq (sub_nonneg.2 limit)]
  have same : (if fin delta < 0 then ofU16 hoverThrottle + fin delta * fin (hoverThrottle - 1000)
      else ofU16 hoverThrottle + fin delta * fin (1800 - hoverThrottle)) =
        heightThrottle hoverThrottle (fin delta) := by
    unfold heightThrottle
    rw [span_eq low (high.trans (by decide)), span_eq high (by decide), floor, ceiling]
    split_ifs <;> rfl
  rw [same, height]
  unfold ofU16
  rw [clamp_fin_of_mem least (most.trans (by norm_num [kAltHoldMaxThrottle, droneMax]))]

/-- A delta of zero keeps the hover throttle. -/
theorem altHoldThrottle_zero : altHoldThrottle hoverThrottle 0 = hoverThrottle := by
  have hover : IsDouble (ofU16 hoverThrottle) := ofU16_isDouble (high.trans (by decide))
  have still : heightThrottle hoverThrottle (fin 0) = ofU16 hoverThrottle := by
    have never : ¬ fin 0 < 0 := fun below => lt_irrefl (0 : ℚ) (fin_lt_fin.1 below)
    unfold heightThrottle
    rw [if_neg never, span_eq high (by decide)]
    change ofU16 hoverThrottle + Fpu.round (0 * _) = _
    rw [zero_mul, round_zero]
    change Fpu.round ((hoverThrottle : ℚ) + 0) = _
    rw [add_zero]
    exact hover
  change altHoldThrottle hoverThrottle (fin 0) = _
  rw [altHoldThrottle_eq low high (by norm_num) (by norm_num), still, ofU16, toU16_fin (Nat.cast_nonneg _),
    Nat.floor_natCast]

end height

variable (fc : FlightController)

theorem commandYawRate_eq (rate : Double) :
    fc.commandYawRate rate = { fc with currentCommand.yaw := yawChannel rate } := by
  unfold commandYawRate yawChannel
  split_ifs <;> rfl

theorem commandForward_eq (speed : Double) :
    fc.commandForward speed = { fc with currentCommand.pitch := pitchChannel fc.userParams.maxSpeed speed } := by
  unfold commandForward pitchChannel
  dsimp only
  split_ifs <;> rfl

/-- A valid target passes the guard of `runFollowTargetLogic`. -/
theorem isTargetValid_guard (valid : fc.isTargetValid = true) :
    ¬ (fc.trackingStale || decide (fc.lastTrackingMsg.state ≠ .tracking) ||
      decide (fc.lastTrackingMsg.confidence < fc.trackingConfig.minConfidence)) = true := by
  unfold isTargetValid at valid
  rw [Bool.not_eq_true'] at valid
  exact ne_true_of_eq_false valid

theorem isTargetValid_fresh (valid : fc.isTargetValid = true) :
    fc.trackingStale = false ∧ fc.lastTrackingMsg.state = .tracking := by
  have guard := fc.isTargetValid_guard valid
  simp only [Bool.not_eq_true, Bool.or_eq_false_iff, decide_eq_false_iff_not, not_not] at guard
  exact guard.1

/-- What the three hovering branches have in common. -/
structure Hovers (fc after : FlightController) : Prop where
  aux1 : after.currentCommand.aux1 = fc.currentCommand.aux1
  roll : after.currentCommand.roll = droneMid
  pitch : after.currentCommand.pitch = droneMid
  yaw : after.currentCommand.yaw = droneMid ∨ after.currentCommand.yaw = yawChannel searchYawRate
  throttle : after.currentCommand.throttle = fc.hoverThrottle
  notTracking : after.telemetryData.trackingState ≠ .tracking

section calibrated
variable (low : droneMin ≤ fc.hoverThrottle) (high : fc.hoverThrottle ≤ kAltHoldMaxThrottle)
include low high

theorem commandAltHoldDelta_zero :
    fc.commandAltHoldDelta 0 = { fc with currentCommand.throttle := fc.hoverThrottle } := by
  have known : fc.hoverThrottle ≠ 0 := fun zero => absurd (low.trans_eq zero) (by decide)
  unfold commandAltHoldDelta
  rw [if_neg known, altHoldThrottle_zero low high]

theorem runHoverSearchState_hovers : Hovers fc fc.runHoverSearchState := by
  unfold runHoverSearchState
  dsimp only
  rw [commandAltHoldDelta_zero _ (by exact low) (by exact high), commandYawRate_eq]
  exact ⟨rfl, rfl, rfl, .inr rfl, rfl, (by decide : TrackingState.searching ≠ .tracking)⟩

theorem runHoverStillState_hovers (state : TrackingState) (other : state ≠ .tracking) :
    Hovers fc (fc.runHoverStillState state) := by
  unfold runHoverStillState
  dsimp only
  rw [commandAltHoldDelta_zero _ (by exact low) (by exact high)]
  exact ⟨rfl, rfl, rfl, .inl rfl, rfl, other⟩

/-- Tracking follows a valid target and hovers otherwise. -/
theorem runTrackingMode_cases (dt : Double) :
    fc.isTargetValid = true ∧ fc.runTrackingMode dt = fc.runFollowTargetState ∨
      fc.isTargetValid = false ∧ Hovers fc (fc.runTrackingMode dt) := by
  have known : fc.hoverThrottle ≠ 0 := fun zero => absurd (low.trans_eq zero) (by decide)
  have search := runHoverSearchState_hovers fc low high
  unfold runTrackingMode
  rw [if_neg known]
  cases valid : fc.isTargetValid with
  | true =>
    have fresh := fc.isTargetValid_fresh valid
    rw [fresh.1, fresh.2]
    exact .inl ⟨rfl, rfl⟩
  | false =>
    right
    refine ⟨rfl, ?_⟩
    by_cases stale : fc.trackingStale = true
    · rw [if_pos stale]
      exact search
    · rw [if_neg stale]
      cases fc.lastTrackingMsg.state with
      | tracking => exact search
      | searching => exact search
      | targetDetected => exact runHoverStillState_hovers fc low high _ (by decide)
      | noTarget => exact runHoverStillState_hovers fc low high _ (by decide)

end calibrated
/-! ## Following -/

def followYawRate (cfg : TrackingConfig) (targetX : Double) : Double :=
  cfg.kYawPerUnitError * deadbandError (targetX - cfg.desiredTargetX) cfg.xDeadband

/-- A target too near or too far overrides the proportional law. -/
def followSpeed (cfg : TrackingConfig) (maxSpeed boundH : Double) : Double :=
  clamp
    (if cfg.maxBoxHeight ≤ boundH then -maxSpeed
      else if boundH ≤ cfg.minBoxHeight then maxSpeed
      else cfg.kSpeedPerUnitError * deadbandError (cfg.desiredBoxHeight - boundH) cfg.boxDeadband)
    (-maxSpeed) maxSpeed

def followDelta (cfg : TrackingConfig) (targetY : Double) : Double :=
  clamp (-cfg.kAltPerUnitError * deadbandError (targetY - cfg.desiredTargetY) cfg.yDeadband) (-1) 1

/-- What following a valid target writes. -/
structure Follows (fc after : FlightController) : Prop where
  aux1 : after.currentCommand.aux1 = fc.currentCommand.aux1
  roll : after.currentCommand.roll = droneMid
  pitch : after.currentCommand.pitch = pitchChannel fc.userParams.maxSpeed
    (followSpeed fc.trackingConfig fc.userParams.maxSpeed fc.lastTrackingMsg.boundH)
  yaw : after.currentCommand.yaw = yawChannel (followYawRate fc.trackingConfig fc.lastTrackingMsg.targetX)
  throttle : after.currentCommand.throttle =
    altHoldThrottle fc.hoverThrottle (followDelta fc.trackingConfig fc.lastTrackingMsg.targetY)
  tracking : after.telemetryData.trackingState = .tracking
  confidence : after.telemetryData.confidence = fc.lastTrackingMsg.confidence

theorem commandAltHoldDelta_eq (delta : Double) (known : fc.hoverThrottle ≠ 0) :
    fc.commandAltHoldDelta delta =
      { fc with currentCommand.throttle := altHoldThrottle fc.hoverThrottle delta } := by
  unfold commandAltHoldDelta
  exact if_neg known

theorem runFollowTargetLogic_follows (known : fc.hoverThrottle ≠ 0) (valid : fc.isTargetValid = true) :
    Follows fc fc.runFollowTargetLogic := by
  unfold runFollowTargetLogic
  dsimp only
  rw [commandAltHoldDelta_eq _ 0 (by exact known)]
  rw [if_neg (by exact fc.isTargetValid_guard valid), commandYawRate_eq, commandForward_eq,
    commandAltHoldDelta_eq _ _ (by exact known)]
  exact ⟨rfl, rfl, rfl, rfl, rfl, rfl, rfl⟩

theorem runFollowTargetState_follows (known : fc.hoverThrottle ≠ 0) (valid : fc.isTargetValid = true) :
    Follows fc fc.runFollowTargetState := by
  have follows := runFollowTargetLogic_follows ((fc.setAngleMode true).setAltHold true) known valid
  exact ⟨follows.aux1, follows.roll, follows.pitch, follows.yaw, follows.throttle, follows.tracking, follows.confidence⟩

end channels

/-! ## The laws in exact numbers -/

/-- A value limited on both sides, over 300 microseconds around the middle. -/
def channelLaw (limit q : ℚ) : ℚ := 1500 + max (-limit) (min q limit) / limit * 300

def deadband (width error : ℚ) : ℚ := if |error| < width then 0 else error

def speedLaw (boundH : ℚ) : ℚ :=
  if 45 / 100 ≤ boundH then -1 else if boundH ≤ 1 / 10 then 1 else deadband (2 / 100) (1 / 4 - boundH)

/-- The throttle around a hover throttle of 1000 to 1800. -/
def throttleLaw (hoverThrottle delta : ℚ) : ℚ :=
  hoverThrottle + delta * (if delta < 0 then hoverThrottle - 1000 else 1800 - hoverThrottle)

section laws
variable {limit width p q : ℚ}

theorem channelLaw_mono (positive : 0 < limit) (order : p ≤ q) : channelLaw limit p ≤ channelLaw limit q := by
  have inner : max (-limit) (min p limit) ≤ max (-limit) (min q limit) :=
    max_le_max le_rfl (min_le_min order le_rfl)
  have scaled := div_le_div_of_nonneg_right inner positive.le
  unfold channelLaw
  linarith

variable (limit q) in
theorem channelLaw_range (positive : 0 < limit) : 1200 ≤ channelLaw limit q ∧ channelLaw limit q ≤ 1800 := by
  have low : -1 ≤ max (-limit) (min q limit) / limit := by
    rw [le_div_iff₀ positive]
    linarith [le_max_left (-limit) (min q limit)]
  have high : max (-limit) (min q limit) / limit ≤ 1 := by
    rw [div_le_one positive]
    exact max_le (by linarith) (min_le_right _ _)
  unfold channelLaw
  constructor <;> linarith

variable (width) in
theorem deadband_mono (order : p ≤ q) : deadband width p ≤ deadband width q := by
  unfold deadband
  split_ifs with small large large
  · exact le_rfl
  · -- `q` is outside the band and `p` inside, so `q` is above it
    rw [abs_lt] at small
    rw [abs_lt, not_and_or, not_lt, not_lt] at large
    cases large with
    | inl below => linarith
    | inr above => linarith
  · rw [abs_lt] at large
    rw [abs_lt, not_and_or, not_lt, not_lt] at small
    cases small with
    | inl below => linarith
    | inr above => linarith
  · exact order

theorem speedLaw_range (b : ℚ) : -1 ≤ speedLaw b ∧ speedLaw b ≤ 1 := by
  unfold speedLaw deadband
  split_ifs <;> constructor <;> linarith

theorem speedLaw_antitone (order : p ≤ q) : speedLaw q ≤ speedLaw p := by
  by_cases near : 45 / 100 ≤ q
  · have full : speedLaw q = -1 := if_pos near
    rw [full]
    exact (speedLaw_range p).1
  · by_cases far : p ≤ 1 / 10
    · have full : speedLaw p = 1 := by
        unfold speedLaw
        rw [if_neg fun close => near (close.trans order), if_pos far]
      rw [full]
      exact (speedLaw_range q).2
    · unfold speedLaw
      rw [if_neg near, if_neg fun distant => far (order.trans distant), if_neg fun close => near (close.trans order),
        if_neg far]
      exact deadband_mono _ (by linarith)

theorem throttleLaw_mono {hoverThrottle : ℚ} (low : 1000 ≤ hoverThrottle) (high : hoverThrottle ≤ 1800)
    (order : p ≤ q) : throttleLaw hoverThrottle p ≤ throttleLaw hoverThrottle q := by
  unfold throttleLaw
  split_ifs with down down' down'
  · nlinarith
  · nlinarith
  · linarith
  · nlinarith

theorem throttleLaw_range {hoverThrottle : ℚ} (low : 1000 ≤ hoverThrottle) (high : hoverThrottle ≤ 1800)
    (above : -1 ≤ q) (below : q ≤ 1) :
    1000 ≤ throttleLaw hoverThrottle q ∧ throttleLaw hoverThrottle q ≤ 1800 := by
  unfold throttleLaw
  split_ifs <;> constructor <;> nlinarith

end laws

section rationals
attribute [local instance] exact

theorem toU16_clamp {value : ℚ} (low : 1000 ≤ value) (high : value ≤ 2000) :
    toU16 (clamp (fin value) (ofU16 droneMin) (ofU16 droneMax)) = ⌊value⌋₊ := by
  have bottom : ((droneMin : Nat) : ℚ) ≤ value := by
    norm_num [droneMin]
    exact low
  have top : value ≤ ((droneMax : Nat) : ℚ) := by
    norm_num [droneMax]
    exact high
  unfold ofU16
  rw [clamp_fin _ _ _ (bottom.trans top), min_eq_left top, max_eq_right bottom, toU16_fin (by linarith)]

/-- The channel of a value that is limited, taken to a fraction of its limit and added to the middle. -/
theorem channel_fin {limit : ℚ} (positive : 0 < limit) (q : ℚ) :
    toU16 (clamp (ofU16 droneMid + clamp (fin q) (fin (-limit)) (fin limit) / fin limit * fin 300) (ofU16 droneMin)
      (ofU16 droneMax)) = ⌊channelLaw limit q⌋₊ := by
  obtain ⟨low, high⟩ := channelLaw_range limit q positive
  have limited : clamp (fin q) (fin (-limit)) (fin limit) = fin (max (-limit) (min q limit)) :=
    clamp_fin q (-limit) limit (by linarith)
  have normalized : fin (max (-limit) (min q limit)) / fin limit = fin (max (-limit) (min q limit) / limit) :=
    fin_div positive.ne'
  have middle : ofU16 droneMid + fin (max (-limit) (min q limit) / limit) * fin 300 = fin (channelLaw limit q) := rfl
  rw [limited, normalized, middle, toU16_clamp (by linarith) (by linarith)]

theorem yawChannel_fin (q : ℚ) : yawChannel (fin q) = ⌊channelLaw 180 q⌋₊ := by
  unfold yawChannel
  rw [if_neg (by simp)]
  exact channel_fin (by norm_num) q

theorem pitchChannel_fin (q : ℚ) : pitchChannel 1 (fin q) = ⌊channelLaw 1 q⌋₊ := by
  have fast : ¬ ((1 : Double) ≤ 0 ∨ isFinite (fin q) = false) := by
    rw [not_or]
    exact ⟨fun slow => absurd (fin_le_fin.1 slow) (by norm_num), by simp⟩
  unfold pitchChannel
  rw [if_neg fast]
  exact channel_fin one_pos q

theorem heightThrottle_fin {hoverThrottle : Nat} (low : droneMin ≤ hoverThrottle)
    (high : hoverThrottle ≤ kAltHoldMaxThrottle) (delta : ℚ) :
    heightThrottle hoverThrottle (fin delta) = fin (throttleLaw hoverThrottle delta) := by
  have sign : fin delta < 0 ↔ delta < 0 := fin_lt_fin
  unfold heightThrottle throttleLaw
  rw [span_eq low (high.trans (by decide)), span_eq high (by decide)]
  split_ifs with down less less
  · rfl
  · exact absurd (sign.1 down) less
  · exact absurd (sign.2 less) down
  · rfl

theorem altHoldThrottle_fin {hoverThrottle : Nat} (low : droneMin ≤ hoverThrottle)
    (high : hoverThrottle ≤ kAltHoldMaxThrottle) {delta : ℚ} (above : -1 ≤ delta) (below : delta ≤ 1) :
    altHoldThrottle hoverThrottle (fin delta) = ⌊throttleLaw hoverThrottle delta⌋₊ := by
  have bottom : (1000 : ℚ) ≤ hoverThrottle := by exact_mod_cast low
  have top : (hoverThrottle : ℚ) ≤ 1800 := by exact_mod_cast high
  have least := (throttleLaw_range bottom top above below).1
  rw [altHoldThrottle_eq low high above below, heightThrottle_fin low high, toU16_fin (by linarith)]

theorem deadbandError_fin (error width : ℚ) : deadbandError (fin error) (fin width) = fin (deadband width error) := by
  unfold deadbandError deadband
  rw [abs_fin]
  by_cases small : |error| < width
  · rw [if_pos small, if_pos (fin_lt_fin.2 small)]
    rfl
  · rw [if_neg small, if_neg fun less => small (fin_lt_fin.1 less)]

theorem followYawRate_fin (x : ℚ) : followYawRate .default (fin x) = fin (200 * deadband (2 / 100) x) := by
  have width : (TrackingConfig.default).xDeadband = fin (2 / 100) := congrArg fin (by norm_num)
  have error : fin x - (TrackingConfig.default).desiredTargetX = fin x := (fin_sub x 0).trans (congrArg fin (sub_zero x))
  unfold followYawRate
  rw [width, error, deadbandError_fin]
  rfl

theorem followSpeed_fin (b : ℚ) : followSpeed .default 1 (fin b) = fin (speedLaw b) := by
  have near : (TrackingConfig.default).maxBoxHeight = fin (45 / 100) := congrArg fin (by norm_num)
  have far : (TrackingConfig.default).minBoxHeight = fin (1 / 10) := congrArg fin (by norm_num)
  have width : (TrackingConfig.default).boxDeadband = fin (2 / 100) := congrArg fin (by norm_num)
  have wanted : (TrackingConfig.default).desiredBoxHeight = fin (1 / 4) := congrArg fin (by norm_num)
  have error : fin (1 / 4) - fin b = fin (1 / 4 - b) := fin_sub _ _
  have inner : (if fin (45 / 100) ≤ fin b then -1 else if fin b ≤ fin (1 / 10) then 1
      else (TrackingConfig.default).kSpeedPerUnitError * fin (deadband (2 / 100) (1 / 4 - b))) =
      fin (speedLaw b) := by
    simp only [fin_le_fin]
    unfold speedLaw
    split_ifs
    · rfl
    · rfl
    · exact congrArg fin (one_mul _)
  obtain ⟨low, high⟩ := speedLaw_range b
  unfold followSpeed
  rw [near, far, width, wanted, error, deadbandError_fin, inner]
  change clamp (fin (speedLaw b)) (fin (-1)) (fin 1) = _
  rw [clamp_fin _ _ _ (by norm_num), min_eq_left high, max_eq_right low]

/-- Half the vertical error, upwards for a target above the middle. -/
def deltaLaw (y : ℚ) : ℚ := max (-1) (min (-(1 / 2) * deadband (2 / 100) y) 1)

theorem followDelta_fin (y : ℚ) : followDelta .default (fin y) = fin (deltaLaw y) := by
  have width : (TrackingConfig.default).yDeadband = fin (2 / 100) := congrArg fin (by norm_num)
  have gain : (TrackingConfig.default).kAltPerUnitError = fin (1 / 2) := congrArg fin (by norm_num)
  have error : fin y - (TrackingConfig.default).desiredTargetY = fin y := (fin_sub y 0).trans (congrArg fin (sub_zero y))
  unfold followDelta
  rw [width, gain, error, deadbandError_fin]
  exact clamp_fin _ _ _ (by norm_num)

theorem deltaLaw_range (y : ℚ) : -1 ≤ deltaLaw y ∧ deltaLaw y ≤ 1 :=
  ⟨le_max_left _ _, max_le (by norm_num) (min_le_right _ _)⟩

theorem deltaLaw_antitone {y y' : ℚ} (order : y ≤ y') : deltaLaw y' ≤ deltaLaw y := by
  have band := deadband_mono (2 / 100) order
  exact max_le_max le_rfl (min_le_min (by linarith) le_rfl)

/-! ## The follow controller -/

/-- What the handler of a control step leaves after a tracking message. -/
def following (fc : FlightController) (dt : Double) (msg : TrackingMessage) : BetaFlightCommand :=
  (((fc.updateTracking msg).startStep dt).dispatchMode (clampedDt dt)).currentCommand

/-- A controller in Tracking with the default configuration and a calibrated hover throttle. -/
structure ReadyToFollow (fc : FlightController) : Prop where
  config : fc.trackingConfig = .default
  params : fc.userParams = {}
  mode : fc.controlMode = .tracking
  low : droneMin ≤ fc.hoverThrottle
  high : fc.hoverThrottle ≤ kAltHoldMaxThrottle

/-- The control step after this message finds its target valid. -/
def ValidMessage (fc : FlightController) (dt : Double) (msg : TrackingMessage) : Prop :=
  ((fc.updateTracking msg).startStep dt).isTargetValid = true

instance (fc : FlightController) (dt : Double) (msg : TrackingMessage) : Decidable (fc.ValidMessage dt msg) :=
  inferInstanceAs (Decidable (((fc.updateTracking msg).startStep dt).isTargetValid = true))

section message
variable {fc : FlightController} (ready : fc.ReadyToFollow) (dt : Double) (msg : TrackingMessage)
include ready

theorem following_follows (valid : fc.ValidMessage dt msg) :
    Follows ((fc.updateTracking msg).startStep dt)
      (((fc.updateTracking msg).startStep dt).dispatchMode (clampedDt dt)) := by
  have known : ((fc.updateTracking msg).startStep dt).hoverThrottle ≠ 0 :=
    fun zero => absurd (ready.low.trans_eq zero) (by decide)
  have dispatched : ((fc.updateTracking msg).startStep dt).dispatchMode (clampedDt dt) =
      ((fc.updateTracking msg).startStep dt).runTrackingMode (clampedDt dt) := by
    unfold dispatchMode
    rw [show ((fc.updateTracking msg).startStep dt).controlMode = .tracking from ready.mode]
  have chosen : ((fc.updateTracking msg).startStep dt).runTrackingMode (clampedDt dt) =
      ((fc.updateTracking msg).startStep dt).runFollowTargetState := by
    cases runTrackingMode_cases ((fc.updateTracking msg).startStep dt) ready.low ready.high (clampedDt dt) with
    | inl follows => exact follows.2
    | inr hovers => exact absurd (hovers.1.symm.trans valid) Bool.false_ne_true
  rw [dispatched, chosen]
  exact runFollowTargetState_follows _ known valid

variable {msg} {q : ℚ}

theorem following_yaw (valid : fc.ValidMessage dt msg) (stored : clampTargetCoord msg.targetX = fin q) :
    (fc.following dt msg).yaw = ⌊channelLaw 180 (200 * deadband (2 / 100) q)⌋₊ := by
  have follows := (following_follows ready dt msg valid).yaw
  change (fc.following dt msg).yaw = yawChannel (followYawRate fc.trackingConfig (clampTargetCoord msg.targetX)) at follows
  rw [ready.config, stored, followYawRate_fin, yawChannel_fin] at follows
  exact follows

theorem following_pitch (valid : fc.ValidMessage dt msg) (stored : clampUnit msg.boundH = fin q) :
    (fc.following dt msg).pitch = ⌊channelLaw 1 (speedLaw q)⌋₊ := by
  have follows := (following_follows ready dt msg valid).pitch
  change (fc.following dt msg).pitch = pitchChannel fc.userParams.maxSpeed
    (followSpeed fc.trackingConfig fc.userParams.maxSpeed (clampUnit msg.boundH)) at follows
  rw [ready.config, ready.params, stored, followSpeed_fin, pitchChannel_fin] at follows
  exact follows

theorem following_throttle (valid : fc.ValidMessage dt msg) (stored : clampTargetCoord msg.targetY = fin q) :
    (fc.following dt msg).throttle = ⌊throttleLaw fc.hoverThrottle (deltaLaw q)⌋₊ := by
  have follows := (following_follows ready dt msg valid).throttle
  obtain ⟨above, below⟩ := deltaLaw_range q
  change (fc.following dt msg).throttle =
    altHoldThrottle fc.hoverThrottle (followDelta fc.trackingConfig (clampTargetCoord msg.targetY)) at follows
  rw [ready.config, stored, followDelta_fin, altHoldThrottle_fin ready.low ready.high above below] at follows
  exact follows

omit ready in
theorem clampTargetCoord_rat (x : ℚ) : clampTargetCoord (fin x) = fin (max (-1) (min x 1)) :=
  clamp_fin x (-1) 1 (by norm_num)

omit ready in
theorem clampUnit_rat (x : ℚ) : clampUnit (fin x) = fin (max 0 (min x 1)) := clamp_fin x 0 1 (by norm_num)

omit ready in
theorem clampTargetCoord_finite (x : Double) : ∃ q, clampTargetCoord x = fin q :=
  (clampTargetCoord_within x).imp fun _ => And.left

omit ready in
theorem clampUnit_finite (x : Double) : ∃ q, clampUnit x = fin q := (clampUnit_within x).imp fun _ => And.left

/-- Every valid message stays within the bounds of the channels. -/
theorem following_bounds (valid : fc.ValidMessage dt msg) :
    (1200 ≤ (fc.following dt msg).yaw ∧ (fc.following dt msg).yaw ≤ 1800) ∧
      (1200 ≤ (fc.following dt msg).pitch ∧ (fc.following dt msg).pitch ≤ 1800) ∧
      1000 ≤ (fc.following dt msg).throttle ∧ (fc.following dt msg).throttle ≤ 1800 := by
  have floors {low high : Nat} {v : ℚ} (bounds : low ≤ v ∧ v ≤ high) : low ≤ ⌊v⌋₊ ∧ ⌊v⌋₊ ≤ high :=
    ⟨Nat.le_floor bounds.1, Nat.floor_le_of_le bounds.2⟩
  obtain ⟨x, storedX⟩ := clampTargetCoord_finite msg.targetX
  obtain ⟨y, storedY⟩ := clampTargetCoord_finite msg.targetY
  obtain ⟨b, storedB⟩ := clampUnit_finite msg.boundH
  have bottom : (1000 : ℚ) ≤ fc.hoverThrottle := by exact_mod_cast ready.low
  have top : (fc.hoverThrottle : ℚ) ≤ 1800 := by exact_mod_cast ready.high
  obtain ⟨above, below⟩ := deltaLaw_range y
  rw [following_yaw ready dt valid storedX, following_pitch ready dt valid storedB,
    following_throttle ready dt valid storedY]
  refine ⟨floors ?_, floors ?_, floors ?_⟩
  · exact_mod_cast channelLaw_range 180 _ (by norm_num)
  · exact_mod_cast channelLaw_range 1 _ one_pos
  · exact_mod_cast throttleLaw_range bottom top above below

/-- The control step writes what the handler leaves; a disarmed vehicle keeps minimum throttle. -/
theorem following_output (valid : fc.ValidMessage dt msg) :
    ((fc.updateTracking msg).updateTimeStep dt).currentCommand.yaw = (fc.following dt msg).yaw ∧
      ((fc.updateTracking msg).updateTimeStep dt).currentCommand.pitch = (fc.following dt msg).pitch ∧
      (fc.currentCommand.isArmed = true →
        ((fc.updateTracking msg).updateTimeStep dt).currentCommand.throttle = (fc.following dt msg).throttle) := by
  obtain ⟨⟨yawLow, yawHigh⟩, ⟨pitchLow, pitchHigh⟩, throttleLow, throttleHigh⟩ := following_bounds ready dt valid
  have inside {v : Nat} (low : 1000 ≤ v) (high : v ≤ 1800) : clampU16 v droneMin droneMax = v :=
    clampU16_eq low (high.trans (by decide))
  have channels (after : FlightController) :
      after.finishStep.currentCommand.yaw = clampU16 after.currentCommand.yaw droneMin droneMax ∧
        after.finishStep.currentCommand.pitch = clampU16 after.currentCommand.pitch droneMin droneMax := by
    unfold finishStep
    dsimp only
    split_ifs <;> exact ⟨rfl, rfl⟩
  obtain ⟨yaw, pitch⟩ := channels (((fc.updateTracking msg).startStep dt).dispatchMode (clampedDt dt))
  rw [updateTimeStep_eq, yaw, pitch]
  refine ⟨inside (le_trans (by decide) yawLow) yawHigh, inside (le_trans (by decide) pitchLow) pitchHigh, ?_⟩
  intro armed
  have still : (((fc.updateTracking msg).startStep dt).dispatchMode (clampedDt dt)).currentCommand.isArmed = true := by
    unfold BetaFlightCommand.isArmed at armed ⊢
    rw [(following_follows ready dt msg valid).aux1]
    exact armed
  rw [finishStep_throttle_armed _ still]
  exact inside throttleLow throttleHigh

variable (msg)

/-- The follow controller is monotone in each coordinate of a valid message, holds the hover throttle for a target
in the middle, and is bounded. -/
theorem follow_monotone (valid : fc.ValidMessage dt msg) :
    (∀ x x' : ℚ, x ≤ x' →
      (fc.following dt { msg with targetX := fin x }).yaw ≤ (fc.following dt { msg with targetX := fin x' }).yaw) ∧
    (∀ b b' : ℚ, b ≤ b' →
      (fc.following dt { msg with boundH := fin b' }).pitch ≤ (fc.following dt { msg with boundH := fin b }).pitch) ∧
    (∀ y y' : ℚ, y ≤ y' →
      (fc.following dt { msg with targetY := fin y' }).throttle ≤
        (fc.following dt { msg with targetY := fin y }).throttle) ∧
    (∀ y : ℚ, |y| < 2 / 100 → (fc.following dt { msg with targetY := fin y }).throttle = fc.hoverThrottle) ∧
    ((1200 ≤ (fc.following dt msg).yaw ∧ (fc.following dt msg).yaw ≤ 1800) ∧
      (1200 ≤ (fc.following dt msg).pitch ∧ (fc.following dt msg).pitch ≤ 1800) ∧
      1000 ≤ (fc.following dt msg).throttle ∧ (fc.following dt msg).throttle ≤ 1800) ∧
    ((fc.updateTracking msg).updateTimeStep dt).currentCommand.yaw = (fc.following dt msg).yaw ∧
      ((fc.updateTracking msg).updateTimeStep dt).currentCommand.pitch = (fc.following dt msg).pitch ∧
      (fc.currentCommand.isArmed = true →
        ((fc.updateTracking msg).updateTimeStep dt).currentCommand.throttle = (fc.following dt msg).throttle) := by
  have bottom : (1000 : ℚ) ≤ fc.hoverThrottle := by exact_mod_cast ready.low
  have top : (fc.hoverThrottle : ℚ) ≤ 1800 := by exact_mod_cast ready.high
  have coords (low : ℚ) {a b : ℚ} (order : a ≤ b) : max low (min a 1) ≤ max low (min b 1) :=
    max_le_max le_rfl (min_le_min order le_rfl)
  have throttle (y : ℚ) : (fc.following dt { msg with targetY := fin y }).throttle =
      ⌊throttleLaw fc.hoverThrottle (deltaLaw (max (-1) (min y 1)))⌋₊ := by
    have stays : fc.ValidMessage dt { msg with targetY := fin y } := valid
    exact following_throttle ready dt stays (clampTargetCoord_rat y)
  refine ⟨?_, ?_, ?_, ?_, following_bounds ready dt valid, following_output ready dt valid⟩
  · intro x x' order
    have stays (x : ℚ) : fc.ValidMessage dt { msg with targetX := fin x } := valid
    rw [following_yaw ready dt (stays x) (clampTargetCoord_rat x),
      following_yaw ready dt (stays x') (clampTargetCoord_rat x')]
    have band := deadband_mono (2 / 100) (coords (-1) order)
    exact Nat.floor_le_floor (channelLaw_mono (by norm_num) (by linarith))
  · intro b b' order
    have stays (b : ℚ) : fc.ValidMessage dt { msg with boundH := fin b } := valid
    rw [following_pitch ready dt (stays b) (clampUnit_rat b), following_pitch ready dt (stays b') (clampUnit_rat b')]
    exact Nat.floor_le_floor (channelLaw_mono one_pos (speedLaw_antitone (coords 0 order)))
  · intro y y' order
    rw [throttle y, throttle y']
    exact Nat.floor_le_floor (throttleLaw_mono bottom top (deltaLaw_antitone (coords (-1) order)))
  · intro y small
    have inner : |max (-1) (min y 1)| < 2 / 100 := by
      rw [abs_lt] at small
      rw [min_eq_left (by linarith), max_eq_right (by linarith), abs_lt]
      exact small
    have neutral : deltaLaw (max (-1) (min y 1)) = 0 := by
      unfold deltaLaw deadband
      rw [if_pos inner]
      norm_num
    rw [throttle y, neutral, throttleLaw, zero_mul, add_zero, Nat.floor_natCast]

end message

/-- A controller in Tracking that hovers at 1400, and a target right of the middle. -/
def hoverer : FlightController := (init.setHoverThrottle 1400).setControlMode .tracking

def targetRight : TrackingMessage :=
  { state := .tracking, targetX := fin (1 / 2), boundH := fin (1 / 5), confidence := 1 }

theorem follow_monotone_hoverer :
    (hoverer.following (fin (1 / 50)) { targetRight with targetX := fin (1 / 4) }).yaw ≤
        (hoverer.following (fin (1 / 50)) { targetRight with targetX := fin (1 / 2) }).yaw ∧
      (hoverer.following (fin (1 / 50)) { targetRight with targetY := fin 0 }).throttle = hoverer.hoverThrottle := by
  have ready : hoverer.ReadyToFollow := ⟨rfl, rfl, rfl, by decide, by decide⟩
  have monotone := follow_monotone ready (fin (1 / 50)) targetRight (by decide +kernel)
  exact ⟨monotone.1 _ _ (by norm_num), monotone.2.2.2.1 0 (by norm_num)⟩

end rationals
end AotDrone.Fc.FlightController
