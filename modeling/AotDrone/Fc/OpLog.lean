import AotDrone.Fc.Follow
import AotDrone.Lib.Logged

/-! The flight controller once more, with every `std::clamp`, every conversion of a double to a channel
and every command it returns written down. -/

namespace AotDrone.Fc
open AotDrone.Lib AotDrone.Lib.Double AotDrone.Lib.Logged

/-- Every channel is in [1000, 2000]. -/
def BetaFlightCommand.InRange (cmd : BetaFlightCommand) : Prop :=
  ∀ channel ∈ [cmd.roll, cmd.pitch, cmd.yaw, cmd.throttle, cmd.aux1, cmd.aux2, cmd.aux3, cmd.aux4],
    1000 ≤ channel ∧ channel ≤ 2000

namespace OpLog

inductive Op where
  | clamp (lo hi : Double)
  | clampU16 (lo hi : Nat)
  | toU16 (value : Double)
  | returned (cmd : BetaFlightCommand)
  deriving DecidableEq

/-- The bounds are not crossed; the value is a number that a `std::uint16_t` has room for. -/
def Op.Proper : Op → Prop
  | .clamp lo hi => ¬ hi < lo
  | .clampU16 lo hi => ¬ hi < lo
  | .toU16 value => Within 0 65535 value
  | .returned cmd => cmd.InRange

abbrev Calc (α : Type) := Logged Op α

def clamp (value lo hi : Double) : Calc Double := do
  report (.clamp lo hi)
  return Double.clamp value lo hi

def clampU16 (value lo hi : Nat) : Calc Nat := do
  report (.clampU16 lo hi)
  return Fc.clampU16 value lo hi

def toU16 (value : Double) : Calc Nat := do
  report (.toU16 value)
  return Fc.toU16 value

/-- `static_cast<std::uint16_t>(std::clamp(value, lo, DRONE_MAX))` -/
def toChannel (value lo : Double) : Calc Nat := do
  let limited ← clamp value lo (ofU16 droneMax)
  toU16 limited

def clampTargetCoord (value : Double) : Calc Double :=
  if value.isFinite then clamp value (-1) 1 else pure 0

def clampUnit (value : Double) : Calc Double :=
  if value.isFinite then clamp value 0 1 else pure 0

variable [Fpu] (fc : FlightController)

omit [Fpu] in
def clampCommandChannels : Calc FlightController := do
  let cmd := fc.currentCommand
  let roll ← clampU16 cmd.roll droneMin droneMax
  let pitch ← clampU16 cmd.pitch droneMin droneMax
  let yaw ← clampU16 cmd.yaw droneMin droneMax
  let throttle ← clampU16 cmd.throttle droneMin droneMax
  let aux1 ← clampU16 cmd.aux1 droneAuxMin droneAuxMax
  let aux2 ← clampU16 cmd.aux2 droneAuxMin droneAuxMax
  let aux3 ← clampU16 cmd.aux3 droneAuxMin droneAuxMax
  let aux4 ← clampU16 cmd.aux4 droneAuxMin droneAuxMax
  return { fc with currentCommand := { roll, pitch, yaw, throttle, aux1, aux2, aux3, aux4 } }

/-- The constructor. -/
def init : Calc FlightController := clampCommandChannels { trackingConfig := .default }

def setHoverThrottle (hoverThrottle : Nat) : Calc FlightController :=
  if hoverThrottle = 0 then pure { fc with hoverThrottle := 0 }
  else do
    let limited ← clampU16 hoverThrottle droneMin kAltHoldMaxThrottle
    return { fc with hoverThrottle := limited }

def updateTracking (msg : TrackingMessage) : Calc FlightController := do
  let targetX ← clampTargetCoord msg.targetX
  let targetY ← clampTargetCoord msg.targetY
  let boundW ← clampUnit msg.boundW
  let boundH ← clampUnit msg.boundH
  let confidence ← clampUnit msg.confidence
  let stored : TrackingMessage :=
    { state := msg.state, targetX, targetY, boundW, boundH, confidence, timestamp := msg.timestamp }
  return { fc with
    lastTrackingMsg := stored
    telemetryData.lastTrackingMsg := stored
    lastTrackingUpdateTime := fc.telemetryData.timestamp }

def setManualSetpoints (cmd : BetaFlightCommand) : Calc FlightController :=
  clampCommandChannels { fc with currentCommand := cmd }

def commandForward (speedMps : Double) : Calc FlightController :=
  let maxSpeed := fc.userParams.maxSpeed
  if maxSpeed ≤ 0 ∨ speedMps.isFinite = false then
    pure { fc with currentCommand.pitch := droneMid }
  else do
    let limitedSpeed ← clamp speedMps (-maxSpeed) maxSpeed
    let normalized := limitedSpeed / maxSpeed
    let pitch ← toChannel (ofU16 droneMid + normalized * kPitchRangeUs) (ofU16 droneMin)
    return { fc with currentCommand.pitch := pitch }

def commandYawRate (yawRateDps : Double) : Calc FlightController :=
  if yawRateDps.isFinite = false then
    pure { fc with currentCommand.yaw := droneMid }
  else do
    let limitedYawRate ← clamp yawRateDps (-kMaxYawRateDps) kMaxYawRateDps
    let normalized := limitedYawRate / kMaxYawRateDps
    let yaw ← toChannel (ofU16 droneMid + normalized * kYawRangeUs) (ofU16 droneMin)
    return { fc with currentCommand.yaw := yaw }

def altHoldThrottle (hoverThrottle : Nat) (deltaNorm : Double) : Calc Nat := do
  let deltaNorm ← clamp (if deltaNorm.isFinite then deltaNorm else 0) (-1) 1
  let hover := ofU16 hoverThrottle
  let cmd :=
    if deltaNorm < 0 then
      let span := hover - ofU16 droneMin
      let downRange := if 0 < span then span else 0
      hover + deltaNorm * downRange
    else
      let span := ofU16 kAltHoldMaxThrottle - hover
      let upRange := if 0 < span then span else 0
      hover + deltaNorm * upRange
  toChannel cmd (ofU16 droneMin)

def commandAltHoldDelta (deltaNorm : Double) : Calc FlightController :=
  if fc.hoverThrottle = 0 then pure fc
  else do
    let throttle ← altHoldThrottle fc.hoverThrottle deltaNorm
    return { fc with currentCommand.throttle := throttle }

def runLandSafelyMode (deltaTime : Double) : Calc FlightController :=
  let fc :=
    if fc.landSafelyInitialized then fc
    else
      let startCandidate :=
        if fc.hoverThrottle = 0 then fc.currentCommand.throttle
        else min fc.currentCommand.throttle fc.hoverThrottle
      { fc with
        landSafelyInitialized := true
        landTimer := 0
        landStartThrottle := max kMinLandThrottle startCandidate }
  if fc.currentCommand.isArmed = false then
    pure { fc with
      telemetryData.trackingState := .searching
      currentCommand.throttle := droneMin }
  else
    let fc := { fc with telemetryData.trackingState := .searching, landTimer := fc.landTimer + deltaTime }
    let fc := (fc.setAltHold false).setAngleMode true
    let fc :=
      { fc with
        currentCommand.roll := droneMid
        currentCommand.pitch := droneMid
        currentCommand.yaw := droneMid }
    if kDisarmTime ≤ fc.landTimer then
      pure ({ fc with currentCommand.throttle := droneMin }.setArm false)
    else do
      let throttleCmd := ofU16 fc.landStartThrottle - kLandRampRateUsPerS * fc.landTimer
      let throttle ← toChannel throttleCmd (ofU16 kMinLandThrottle)
      return { fc with currentCommand.throttle := throttle }

def runTakeoffMode (deltaTime : Double) : Calc FlightController :=
  if fc.hoverThrottle = 0 then runLandSafelyMode (fc.setControlMode .landSafely) deltaTime
  else
    let fc := if fc.takeoffInitialized then fc else { fc with takeoffInitialized := true, takeoffTimer := 0 }
    let fc := { fc with takeoffTimer := fc.takeoffTimer + deltaTime, telemetryData.trackingState := .searching }
    let fc := ((fc.setArm true).setAngleMode true).setAltHold true
    let fc :=
      { fc with
        currentCommand.roll := droneMid
        currentCommand.pitch := droneMid
        currentCommand.yaw := droneMid }
    if fc.takeoffTimer < takeoffSpoolTime then
      pure { fc with currentCommand.throttle := takeoffSpoolThrottle }
    else
      let rampT := fc.takeoffTimer - takeoffSpoolTime
      if rampT < takeoffRampTime then do
        let alpha := rampT / takeoffRampTime
        let throttle ← toU16 ((1 - alpha) * ofU16 takeoffSpoolThrottle + alpha * ofU16 takeoffTargetThrottle)
        return { fc with currentCommand.throttle := throttle }
      else
        let fc := { fc with currentCommand.throttle := fc.hoverThrottle }
        pure (if takeoffRampTime + takeoffHoldTime < rampT then fc.setControlMode .tracking else fc)

def runHoverSearchState : Calc FlightController := do
  let fc := { fc with telemetryData.trackingState := .searching }
  let fc := (fc.setAngleMode true).setAltHold true
  let fc := { fc with currentCommand.roll := droneMid, currentCommand.pitch := droneMid }
  let fc ← commandAltHoldDelta fc 0
  commandYawRate fc searchYawRate

def runHoverStillState (stateForTelemetry : TrackingState) : Calc FlightController :=
  let fc := { fc with telemetryData.trackingState := stateForTelemetry }
  let fc := (fc.setAngleMode true).setAltHold true
  let fc :=
    { fc with
      currentCommand.roll := droneMid
      currentCommand.pitch := droneMid
      currentCommand.yaw := droneMid }
  commandAltHoldDelta fc 0

/-- The part of `runFollowTargetLogic` behind its guard. -/
def followTarget : Calc FlightController := do
  let fc :=
    { fc with
      telemetryData.trackingState := .tracking
      telemetryData.confidence := fc.lastTrackingMsg.confidence }
  let msg := fc.lastTrackingMsg
  let cfg := fc.trackingConfig
  let maxSpeed := fc.userParams.maxSpeed
  let xError := FlightController.deadbandError (msg.targetX - cfg.desiredTargetX) cfg.xDeadband
  let yError := FlightController.deadbandError (msg.targetY - cfg.desiredTargetY) cfg.yDeadband
  let sizeError := FlightController.deadbandError (cfg.desiredBoxHeight - msg.boundH) cfg.boxDeadband
  let fc ← commandYawRate fc (cfg.kYawPerUnitError * xError)
  let forwardCmd :=
    if cfg.maxBoxHeight ≤ msg.boundH then -maxSpeed
    else if msg.boundH ≤ cfg.minBoxHeight then maxSpeed
    else cfg.kSpeedPerUnitError * sizeError
  let forwardCmd ← clamp forwardCmd (-maxSpeed) maxSpeed
  let fc ← commandForward fc forwardCmd
  let deltaNorm ← clamp (-cfg.kAltPerUnitError * yError) (-1) 1
  let fc ← commandAltHoldDelta fc deltaNorm
  return { fc with currentCommand.roll := droneMid }

def runFollowTargetLogic : Calc FlightController := do
  let fc ← commandAltHoldDelta fc 0
  let badState := decide (fc.lastTrackingMsg.state ≠ .tracking)
  let lowConfidence := decide (fc.lastTrackingMsg.confidence < fc.trackingConfig.minConfidence)
  if fc.trackingStale || badState || lowConfidence then
    return { fc with
      telemetryData.trackingState := .searching
      telemetryData.confidence := 0
      currentCommand.roll := droneMid
      currentCommand.pitch := droneMid
      currentCommand.yaw := droneMid
      currentCommand.throttle := fc.hoverThrottle }
  else followTarget fc

def runFollowTargetState : Calc FlightController :=
  runFollowTargetLogic ((fc.setAngleMode true).setAltHold true)

def runTrackingMode (deltaTime : Double) : Calc FlightController :=
  if fc.hoverThrottle = 0 then runLandSafelyMode (fc.setControlMode .landSafely) deltaTime
  else if fc.trackingStale then runHoverSearchState fc
  else
    match fc.lastTrackingMsg.state with
    | .tracking => if fc.isTargetValid then runFollowTargetState fc else runHoverSearchState fc
    | .searching => runHoverSearchState fc
    | .targetDetected => runHoverStillState fc .targetDetected
    | .noTarget => runHoverStillState fc .noTarget

def dispatchMode (deltaTime : Double) : Calc FlightController :=
  match fc.controlMode with
  | .manual => pure fc.runManualMode
  | .tracking => runTrackingMode fc deltaTime
  | .landSafely => runLandSafelyMode fc deltaTime
  | .takeoff => runTakeoffMode fc deltaTime

def updateTimeStep (deltaTime : Double) : Calc FlightController := do
  let deltaTime := FlightController.clampedDt deltaTime
  let fc :=
    { fc with
      telemetryData.timestamp := fc.telemetryData.timestamp + deltaTime
      telemetryData.controlMode := fc.controlMode
      telemetryData.lastTrackingMsg := fc.lastTrackingMsg }
  let fc ← dispatchMode fc deltaTime
  let fc := if fc.currentCommand.isArmed then fc else { fc with currentCommand.throttle := droneMin }
  let fc :=
    if fc.telemetryData.trackingState = .tracking then fc
    else { fc with telemetryData.confidence := 0 }
  let fc ← clampCommandChannels fc
  report (.returned fc.currentCommand)
  return fc

end OpLog

/-- The public calls that write to the controller. -/
inductive Call where
  | setControlMode (mode : ControlMode)
  | setUserParams (params : UserParams)
  | setTrackingConfig (config : TrackingConfig)
  | setHoverThrottle (hoverThrottle : Nat)
  | updateTracking (msg : TrackingMessage)
  | setDistances (front back bottom : Double)
  | setOrientationDeg (roll pitch yaw : Double)
  | setAltitudeMeters (altitude : Double)
  | setManualSetpoints (cmd : BetaFlightCommand)
  | updateTimeStep (deltaTime : Double)
  | setArm (arm : Bool)
  | setAngleMode (angleMode : Bool)
  | setAltHold (enabled : Bool)
  | commandForward (speedMps : Double)
  | commandYawRate (yawRateDps : Double)
  | commandAltHoldDelta (deltaNorm : Double)

variable [Fpu] (fc : FlightController)

def Call.apply : Call → FlightController
  | setControlMode mode => fc.setControlMode mode
  | setUserParams params => { fc with userParams := params }
  | setTrackingConfig config => { fc with trackingConfig := config }
  | setHoverThrottle hoverThrottle => fc.setHoverThrottle hoverThrottle
  | updateTracking msg => fc.updateTracking msg
  | setDistances front back bottom => fc.setDistances front back bottom
  -- orientation and position are telemetry that the controller itself never reads
  | setOrientationDeg _ _ _ => fc
  | setAltitudeMeters _ => fc
  | setManualSetpoints cmd => fc.setManualSetpoints cmd
  | updateTimeStep deltaTime => fc.updateTimeStep deltaTime
  | setArm arm => fc.setArm arm
  | setAngleMode angleMode => fc.setAngleMode angleMode
  | setAltHold enabled => fc.setAltHold enabled
  | commandForward speedMps => fc.commandForward speedMps
  | commandYawRate yawRateDps => fc.commandYawRate yawRateDps
  | commandAltHoldDelta deltaNorm => fc.commandAltHoldDelta deltaNorm

namespace OpLog

def perform : Call → Calc FlightController
  | .setHoverThrottle hoverThrottle => setHoverThrottle fc hoverThrottle
  | .updateTracking msg => updateTracking fc msg
  | .setManualSetpoints cmd => setManualSetpoints fc cmd
  | .updateTimeStep deltaTime => updateTimeStep fc deltaTime
  | .commandForward speedMps => commandForward fc speedMps
  | .commandYawRate yawRateDps => commandYawRate fc yawRateDps
  | .commandAltHoldDelta deltaNorm => commandAltHoldDelta fc deltaNorm
  -- nothing is clamped or converted
  | call => pure (call.apply fc)

/-- A controller is built and called. -/
def session (calls : List Call) : Calc FlightController := do
  let fc ← init
  calls.foldlM perform fc

end OpLog
end AotDrone.Fc
