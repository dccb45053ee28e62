import AotDrone.Fc.RcMath

/-! The flight controller: four control modes over one command record
(`FlightController.h`, `FlightController.cpp`). -/

namespace AotDrone.Fc
open AotDrone.Lib AotDrone.Lib.Double

def kAltHoldMaxThrottle : Nat := 1800
def kMinLandThrottle : Nat := droneMin + 30

inductive ControlMode where
  | manual
  | tracking
  | landSafely
  | takeoff
  deriving DecidableEq, Repr

inductive TrackingState where
  | noTarget
  | targetDetected
  | tracking
  | searching
  deriving DecidableEq, Repr

structure BetaFlightCommand where
  roll : Nat := droneMid
  pitch : Nat := droneMid
  yaw : Nat := droneMid
  throttle : Nat := droneMin
  aux1 : Nat := droneAuxMin
  aux2 : Nat := droneAuxMax
  aux3 : Nat := droneAuxMin
  aux4 : Nat := droneAuxMin
  deriving DecidableEq, Repr

/-- Only the field the controller reads; the other three are never used. -/
structure UserParams where
  maxSpeed : Double := 1

structure TrackingMessage where
  state : TrackingState := .searching
  targetX : Double := 0
  targetY : Double := 0
  boundW : Double := 0
  boundH : Double := 0
  confidence : Double := 0
  timestamp : Double := 0
  deriving DecidableEq

structure TrackingConfig where
  trackingTimeout : Double
  minConfidence : Double
  desiredTargetX : Double
  desiredTargetY : Double
  desiredBoxHeight : Double
  kYawPerUnitError : Double
  kSpeedPerUnitError : Double
  minBoxHeight : Double
  maxBoxHeight : Double
  kAltPerUnitError : Double
  boxDeadband : Double
  xDeadband : Double
  yDeadband : Double

structure TelemetryData where
  timestamp : Double := 0
  controlMode : ControlMode := .landSafely
  trackingState : TrackingState := .searching
  distFront : Double := 0
  distBack : Double := 0
  distBottom : Double := 0
  confidence : Double := 0
  lastTrackingMsg : TrackingMessage := {}

structure FlightController where
  userParams : UserParams := {}
  telemetryData : TelemetryData := {}
  controlMode : ControlMode := .landSafely
  lastTrackingMsg : TrackingMessage := {}
  lastTrackingUpdateTime : Double := -1
  currentCommand : BetaFlightCommand := {}
  trackingConfig : TrackingConfig
  landSafelyInitialized : Bool := false
  landTimer : Double := 0
  landStartThrottle : Nat := droneMin
  takeoffInitialized : Bool := false
  takeoffTimer : Double := 0
  /-- 0 means not calibrated. -/
  hoverThrottle : Nat := 0

section controller
variable [Fpu]

/-- The member initialisers of `TrackingConfig`. -/
def TrackingConfig.default : TrackingConfig where
  trackingTimeout := 0.8
  minConfidence := 0.5
  desiredTargetX := 0
  desiredTargetY := 0
  desiredBoxHeight := 0.25
  kYawPerUnitError := 200
  kSpeedPerUnitError := 1
  minBoxHeight := 0.10
  maxBoxHeight := 0.45
  kAltPerUnitError := 0.5
  boxDeadband := 0.02
  xDeadband := 0.02
  yDeadband := 0.02

def kDisarmTime : Double := 5
def kLandRampRateUsPerS : Double := 50
def kMaxControlDt : Double := 0.2
def kPitchRangeUs : Double := 300
def kYawRangeUs : Double := 300

/-! Members of the class that nothing writes. -/

def searchYawRate : Double := 60
def takeoffSpoolTime : Double := 0.8
def takeoffRampTime : Double := 1.6
def takeoffHoldTime : Double := 1
def takeoffSpoolThrottle : Nat := droneMin + 20
def takeoffTargetThrottle : Nat := 1250

/-- The middle of the arm channel counts as disarmed. -/
def BetaFlightCommand.isArmed (cmd : BetaFlightCommand) : Bool :=
  decide ((droneAuxMin + droneAuxMax) / 2 < cmd.aux1)

namespace FlightController

def setArm (fc : FlightController) (arm : Bool) : FlightController :=
  { fc with currentCommand.aux1 := if arm then droneAuxMax else droneAuxMin }

def setAngleMode (fc : FlightController) (angleMode : Bool) : FlightController :=
  { fc with currentCommand.aux2 := if angleMode then droneAuxMax else droneAuxMin }

def setAltHold (fc : FlightController) (enabled : Bool) : FlightController :=
  { fc with currentCommand.aux3 := if enabled then droneAuxMax else droneAuxMin }

def clampCommandChannels (fc : FlightController) : FlightController :=
  let cmd := fc.currentCommand
  { fc with
    currentCommand :=
      { roll := clampU16 cmd.roll droneMin droneMax
        pitch := clampU16 cmd.pitch droneMin droneMax
        yaw := clampU16 cmd.yaw droneMin droneMax
        throttle := clampU16 cmd.throttle droneMin droneMax
        aux1 := clampU16 cmd.aux1 droneAuxMin droneAuxMax
        aux2 := clampU16 cmd.aux2 droneAuxMin droneAuxMax
        aux3 := clampU16 cmd.aux3 droneAuxMin droneAuxMax
        aux4 := clampU16 cmd.aux4 droneAuxMin droneAuxMax } }

/-- The constructor. -/
def init : FlightController := clampCommandChannels { trackingConfig := .default }

def setControlMode (fc : FlightController) (mode : ControlMode) : FlightController :=
  if mode = fc.controlMode then
    { fc with telemetryData.controlMode := mode }
  else
    let fc := { fc with controlMode := mode, telemetryData.controlMode := mode }
    let fc :=
      if mode = .manual then
        setAltHold
          { fc with
            currentCommand.roll := droneMid
            currentCommand.pitch := droneMid
            currentCommand.yaw := droneMid
            currentCommand.throttle :=
              if fc.currentCommand.isArmed then fc.hoverThrottle else droneMin } false
      else fc
    { fc with
      landSafelyInitialized := false
      landTimer := 0
      takeoffInitialized := false
      takeoffTimer := 0 }

def setHoverThrottle (fc : FlightController) (hoverThrottle : Nat) : FlightController :=
  if hoverThrottle = 0 then { fc with hoverThrottle := 0 }
  else { fc with hoverThrottle := clampU16 hoverThrottle droneMin kAltHoldMaxThrottle }

def updateTracking (fc : FlightController) (msg : TrackingMessage) : FlightController :=
  let stored : TrackingMessage :=
    { state := msg.state
      targetX := clampTargetCoord msg.targetX
      targetY := clampTargetCoord msg.targetY
      boundW := clampUnit msg.boundW
      boundH := clampUnit msg.boundH
      confidence := clampUnit msg.confidence
      timestamp := msg.timestamp }
  { fc with
    lastTrackingMsg := stored
    telemetryData.lastTrackingMsg := stored
    lastTrackingUpdateTime := fc.telemetryData.timestamp }

def setDistances (fc : FlightController) (front back bottom : Double) : FlightController :=
  { fc with
    telemetryData.distFront := if front.isFinite then front else 0
    telemetryData.distBack := if back.isFinite then back else 0
    telemetryData.distBottom := if bottom.isFinite then bottom else 0 }

def setManualSetpoints (fc : FlightController) (cmd : BetaFlightCommand) : FlightController :=
  clampCommandChannels { fc with currentCommand := cmd }

/-- The tracking message is missing or too old. -/
def trackingStale (fc : FlightController) : Bool :=
  decide (fc.lastTrackingUpdateTime < 0) ||
    decide (fc.trackingConfig.trackingTimeout < fc.telemetryData.timestamp - fc.lastTrackingUpdateTime)

def isTargetValid (fc : FlightController) : Bool :=
  let notTracking := decide (fc.lastTrackingMsg.state ≠ .tracking)
  let lowConfidence := decide (fc.lastTrackingMsg.confidence < fc.trackingConfig.minConfidence)
  !(fc.trackingStale || notTracking || lowConfidence)

def commandForward (fc : FlightController) (speedMps : Double) : FlightController :=
  let maxSpeed := fc.userParams.maxSpeed
  if maxSpeed ≤ 0 ∨ speedMps.isFinite = false then
    { fc with currentCommand.pitch := droneMid }
  else
    let limitedSpeed := clamp speedMps (-maxSpeed) maxSpeed
    let normalized := limitedSpeed / maxSpeed
    let pitchCmd := ofU16 droneMid + normalized * kPitchRangeUs
    { fc with currentCommand.pitch := toU16 (clamp pitchCmd (ofU16 droneMin) (ofU16 droneMax)) }

def commandYawRate (fc : FlightController) (yawRateDps : Double) : FlightController :=
  if yawRateDps.isFinite = false then
    { fc with currentCommand.yaw := droneMid }
  else
    let limitedYawRate := clamp yawRateDps (-kMaxYawRateDps) kMaxYawRateDps
    let normalized := limitedYawRate / kMaxYawRateDps
    let yawCmd := ofU16 droneMid + normalized * kYawRangeUs
    { fc with currentCommand.yaw := toU16 (clamp yawCmd (ofU16 droneMin) (ofU16 droneMax)) }

/-- The throttle `commandAltHoldDelta` asks for around a calibrated hover throttle. -/
def altHoldThrottle (hoverThrottle : Nat) (deltaNorm : Double) : Nat :=
  let deltaNorm := if deltaNorm.isFinite then deltaNorm else 0
  let deltaNorm := clamp deltaNorm (-1) 1
  let hover := ofU16 hoverThrottle
  let cmd :=
    if deltaNorm < 0 then
      let span := hover - ofU16 droneMin
      let downRange := if 0 < span then span else 0
      hover + deltaNorm * downRange
    else
      let span := ofU16 kAltHoldMaxThrottle - hover
      let upRange := if 0 < span then span else 0
      hover + deltaNorm * upRange
  toU16 (clamp cmd (ofU16 droneMin) (ofU16 droneMax))

def commandAltHoldDelta (fc : FlightController) (deltaNorm : Double) : FlightController :=
  if fc.hoverThrottle = 0 then fc
  else { fc with currentCommand.throttle := altHoldThrottle fc.hoverThrottle deltaNorm }

def runLandSafelyMode (fc : FlightController) (deltaTime : Double) : FlightController :=
  let fc :=
    if fc.landSafelyInitialized then fc
    else
      let startCandidate :=
        if fc.hoverThrottle = 0 then fc.currentCommand.throttle
        else min fc.currentCommand.throttle fc.hoverThrottle
      { fc with
        landSafelyInitialized := true
        landTimer := 0
        landStartThrottle := max kMinLandThrottle startCandidate }
  if fc.currentCommand.isArmed = false then
    { fc with
      telemetryData.trackingState := .searching
      currentCommand.throttle := droneMin }
  else
    let fc := { fc with telemetryData.trackingState := .searching, landTimer := fc.landTimer + deltaTime }
    let fc := (fc.setAltHold false).setAngleMode true
    let fc :=
      { fc with
        currentCommand.roll := droneMid
        currentCommand.pitch := droneMid
        currentCommand.yaw := droneMid }
    if kDisarmTime ≤ fc.landTimer then
      { fc with currentCommand.throttle := droneMin }.setArm false
    else
      let throttleCmd := ofU16 fc.landStartThrottle - kLandRampRateUsPerS * fc.landTimer
      let clamped := clamp throttleCmd (ofU16 kMinLandThrottle) (ofU16 droneMax)
      { fc with currentCommand.throttle := toU16 clamped }

def runTakeoffMode (fc : FlightController) (deltaTime : Double) : FlightController :=
  if fc.hoverThrottle = 0 then (fc.setControlMode .landSafely).runLandSafelyMode deltaTime
  else
    let fc := if fc.takeoffInitialized then fc else { fc with takeoffInitialized := true, takeoffTimer := 0 }
    let fc := { fc with takeoffTimer := fc.takeoffTimer + deltaTime, telemetryData.trackingState := .searching }
    let fc := ((fc.setArm true).setAngleMode true).setAltHold true
    let fc :=
      { fc with
        currentCommand.roll := droneMid
        currentCommand.pitch := droneMid
        currentCommand.yaw := droneMid }
    if fc.takeoffTimer < takeoffSpoolTime then
      { fc with currentCommand.throttle := takeoffSpoolThrottle }
    else
      let rampT := fc.takeoffTimer - takeoffSpoolTime
      if rampT < takeoffRampTime then
        let alpha := rampT / takeoffRampTime
        let cmd := (1 - alpha) * ofU16 takeoffSpoolThrottle + alpha * ofU16 takeoffTargetThrottle
        { fc with currentCommand.throttle := toU16 cmd }
      else
        let fc := { fc with currentCommand.throttle := fc.hoverThrottle }
        if takeoffRampTime + takeoffHoldTime < rampT then fc.setControlMode .tracking else fc

def runHoverSearchState (fc : FlightController) : FlightController :=
  let fc := { fc with telemetryData.trackingState := .searching }
  let fc := (fc.setAngleMode true).setAltHold true
  let fc := { fc with currentCommand.roll := droneMid, currentCommand.pitch := droneMid }
  (fc.commandAltHoldDelta 0).commandYawRate searchYawRate

def runHoverStillState (fc : FlightController) (stateForTelemetry : TrackingState) : FlightController :=
  let fc := { fc with telemetryData.trackingState := stateForTelemetry }
  let fc := (fc.setAngleMode true).setAltHold true
  let fc :=
    { fc with
      currentCommand.roll := droneMid
      currentCommand.pitch := droneMid
      currentCommand.yaw := droneMid }
  fc.commandAltHoldDelta 0

/-- `std::abs(error) < deadband` sends the error to zero. -/
def deadbandError (error deadband : Double) : Double := if Double.abs error < deadband then 0 else error

def runFollowTargetLogic (fc : FlightController) : FlightController :=
  let fc := fc.commandAltHoldDelta 0
  let badState := decide (fc.lastTrackingMsg.state ≠ .tracking)
  let lowConfidence := decide (fc.lastTrackingMsg.confidence < fc.trackingConfig.minConfidence)
  if fc.trackingStale || badState || lowConfidence then
    { fc with
      telemetryData.trackingState := .searching
      telemetryData.confidence := 0
      currentCommand.roll := droneMid
      currentCommand.pitch := droneMid
      currentCommand.yaw := droneMid
      currentCommand.throttle := fc.hoverThrottle }
  else
    let fc :=
      { fc with
        telemetryData.trackingState := .tracking
        telemetryData.confidence := fc.lastTrackingMsg.confidence }
    let msg := fc.lastTrackingMsg
    let cfg := fc.trackingConfig
    let maxSpeed := fc.userParams.maxSpeed
    let xError := deadbandError (msg.targetX - cfg.desiredTargetX) cfg.xDeadband
    let yError := deadbandError (msg.targetY - cfg.desiredTargetY) cfg.yDeadband
    let sizeError := deadbandError (cfg.desiredBoxHeight - msg.boundH) cfg.boxDeadband
    let fc := fc.commandYawRate (cfg.kYawPerUnitError * xError)
    let forwardCmd :=
      if cfg.maxBoxHeight ≤ msg.boundH then -maxSpeed
      else if msg.boundH ≤ cfg.minBoxHeight then maxSpeed
      else cfg.kSpeedPerUnitError * sizeError
    let fc := fc.commandForward (clamp forwardCmd (-maxSpeed) maxSpeed)
    let deltaNorm := clamp (-cfg.kAltPerUnitError * yError) (-1) 1
    let fc := fc.commandAltHoldDelta deltaNorm
    { fc with currentCommand.roll := droneMid }

def runFollowTargetState (fc : FlightController) : FlightController :=
  ((fc.setAngleMode true).setAltHold true).runFollowTargetLogic

def runManualMode (fc : FlightController) : FlightController :=
  { fc with telemetryData.trackingState := .searching }

def runTrackingMode (fc : FlightController) (deltaTime : Double) : FlightController :=
  if fc.hoverThrottle = 0 then (fc.setControlMode .landSafely).runLandSafelyMode deltaTime
  else if fc.trackingStale then fc.runHoverSearchState
  else
    match fc.lastTrackingMsg.state with
    | .tracking => if fc.isTargetValid then fc.runFollowTargetState else fc.runHoverSearchState
    | .searching => fc.runHoverSearchState
    | .targetDetected => fc.runHoverStillState .targetDetected
    | .noTarget => fc.runHoverStillState .noTarget

/-- A tick duration as the controller counts it. -/
def clampedDt (deltaTime : Double) : Double :=
  if deltaTime.isFinite = false ∨ deltaTime < 0 then 0
  else if kMaxControlDt < deltaTime then kMaxControlDt
  else deltaTime

def dispatchMode (fc : FlightController) (deltaTime : Double) : FlightController :=
  match fc.controlMode with
  | .manual => fc.runManualMode
  | .tracking => fc.runTrackingMode deltaTime
  | .landSafely => fc.runLandSafelyMode deltaTime
  | .takeoff => fc.runTakeoffMode deltaTime

/-- One control step; the command it returns is the new `currentCommand`. -/
def updateTimeStep (fc : FlightController) (deltaTime : Double) : FlightController :=
  let deltaTime := clampedDt deltaTime
  let fc :=
    { fc with
      telemetryData.timestamp := fc.telemetryData.timestamp + deltaTime
      telemetryData.controlMode := fc.controlMode
      telemetryData.lastTrackingMsg := fc.lastTrackingMsg }
  let fc := fc.dispatchMode deltaTime
  let fc := if fc.currentCommand.isArmed then fc else { fc with currentCommand.throttle := droneMin }
  let fc :=
    if fc.telemetryData.trackingState = .tracking then fc
    else { fc with telemetryData.confidence := 0 }
  fc.clampCommandChannels

end FlightController
end controller
end AotDrone.Fc
