import AotDrone.Fc.CommandReceiver
import AotDrone.Fc.FlightController
import AotDrone.Lib.Run

/-! The process around the controller: the command mailbox the receive thread fills
(`CommandServer.cpp`) and the 50 Hz loop that empties it (`main.cpp`, `CmdSeq.h`). -/

namespace AotDrone.Fc
open AotDrone.Lib AotDrone.Lib.Double

def kCmdSeqMod : Nat := 2 ^ 31
def kCmdSeqHalf : Nat := 2 ^ 30
def kCmdSeqMaxFc : ℤ := 2 ^ 31 - 1

/-- The 32-bit difference of two sequence numbers, masked to 31 bits, lies in the half ahead. -/
def seqAdvances (prev candidate : ℤ) : Bool :=
  let diff := ((candidate - prev) % 2 ^ 32).toNat &&& (kCmdSeqMod - 1)
  decide (0 < diff) && decide (diff ≤ kCmdSeqHalf)

def toControlMode (rawMode : ℤ) : Option ControlMode :=
  if rawMode = 0 then some .manual
  else if rawMode = 1 then some .tracking
  else if rawMode = 2 then some .landSafely
  else if rawMode = 3 then some .takeoff
  else none

def toTrackingState (rawState : ℤ) : Option TrackingState :=
  if rawState = 1 then some .noTarget
  else if rawState = 2 then some .targetDetected
  else if rawState = 3 then some .tracking
  else if rawState = 4 then some .searching
  else none

/-- What the loop reads of an RC sink. `tuningMismatch` is settled by the boot probe. -/
structure RcSink where
  ok : Bool
  tuningMismatch : Bool
  deriving DecidableEq

section loop
variable [Fpu]

def cmdTimeout : Double := 0.5

/-- Seconds of a steady-clock reading in nanoseconds. -/
def steadySeconds (nanoseconds : ℤ) : Double := Fpu.round nanoseconds / 1000000000

structure CommandServer where
  hasCmd : Bool := false
  lastCmd : CommandFrame := {}
  lastCmdTime : Double := -1

namespace CommandServer

def latestCommand (server : CommandServer) : Option CommandFrame :=
  if server.hasCmd then some server.lastCmd else none

def secondsSinceLastCmd (server : CommandServer) (now : Double) : Double :=
  if server.lastCmdTime ≤ 0 then 1000000000 else now - server.lastCmdTime

/-- The receive thread handles one framed payload: a payload that parses is published with its
time of receipt, any other is dropped. -/
def receive [Libc] (server : CommandServer) (json : Text) (recvTime : Double) : CommandServer :=
  match parseCmdFrame json with
  | none => server
  | some parsed => { hasCmd := true, lastCmd := parsed, lastCmdTime := recvTime }

end CommandServer

def applySetpointOverrides (cmd : CommandFrame) (fc : FlightController) : FlightController :=
  let setpoints := cmd.setpoints
  if !setpoints.hasRoll && !setpoints.hasPitch && !setpoints.hasYawRate && !setpoints.hasThrottle then fc
  else
    let command := fc.currentCommand
    fc.setManualSetpoints
      { command with
        roll := if setpoints.hasRoll then normalizedAxisToPwm setpoints.roll else command.roll
        pitch := if setpoints.hasPitch then normalizedAxisToPwm setpoints.pitch else command.pitch
        yaw := if setpoints.hasYawRate then yawRateToPwm setpoints.yawRate else command.yaw
        throttle := if setpoints.hasThrottle then throttleToPwm setpoints.throttle else command.throttle }

def applyTrackingUpdate (cmd : CommandFrame) (fc : FlightController) : FlightController :=
  if cmd.tracking.hasTracking then
    match toTrackingState cmd.tracking.trackingState with
    | none => fc
    | some state =>
      fc.updateTracking
        { state
          targetX := cmd.tracking.locX
          targetY := cmd.tracking.locY
          boundW := cmd.tracking.boundW
          boundH := cmd.tracking.boundH
          confidence := cmd.tracking.confidence
          timestamp := cmd.tracking.visTimestamp }
  else fc

def needsMsp (mode : ControlMode) : Bool := mode = .tracking || mode = .takeoff

/-- Tracking and Takeoff ask for a healthy sink, a confirmed rate profile and a known hover throttle. -/
def modeGate (desired : ControlMode) (fc : FlightController) (sink : RcSink) : Bool :=
  !needsMsp desired || (sink.ok && !sink.tuningMismatch && fc.hoverThrottle != 0)

def applyControlModeSafely (desired : ControlMode) (fc : FlightController) (sink : RcSink) :
    FlightController :=
  if modeGate desired fc sink then fc.setControlMode desired else fc

structure MainLoop where
  controller : FlightController
  lastCmdSeq : Option ℤ := none
  telSeq : Nat := 0
  failsafeEngaged : Bool := false
  sinkDegradedEngaged : Bool := false

/-- What one turn of the loop reads from the outside. -/
structure Readings where
  dt : Double
  latest : Option CommandFrame
  cmdAge : Double
  sink : RcSink

namespace MainLoop

def seqInRange (cmd : CommandFrame) : Bool := decide (0 ≤ cmd.seq) && decide (cmd.seq ≤ kCmdSeqMaxFc)

/-- The loop applies the frame: its number is in range and ahead of the last one applied. -/
def accepts (loop : MainLoop) (cmd : CommandFrame) : Bool :=
  seqInRange cmd && (match loop.lastCmdSeq with
    | none => true
    | some prev => seqAdvances prev cmd.seq)

/-- The frame this turn applies, if it applies one. -/
def accepted (loop : MainLoop) (latest : Option CommandFrame) : Option CommandFrame :=
  latest.filter loop.accepts

def applyMode (cmd : CommandFrame) (sink : RcSink) (fc : FlightController) : FlightController :=
  match toControlMode cmd.desiredMode with
  | some desired => applyControlModeSafely desired fc sink
  | none => fc

def applyArm (cmd : CommandFrame) (fc : FlightController) : FlightController :=
  if cmd.hasArm then fc.setArm cmd.arm else fc

def applyCmd (cmd : CommandFrame) (sink : RcSink) (fc : FlightController) : FlightController :=
  applyTrackingUpdate cmd (applySetpointOverrides cmd (applyArm cmd (applyMode cmd sink fc)))

def applyLatest (loop : MainLoop) (latest : Option CommandFrame) (sink : RcSink) : MainLoop :=
  match loop.accepted latest with
  | none => loop
  | some cmd => { loop with lastCmdSeq := some cmd.seq, controller := applyCmd cmd sink loop.controller }

/-- The edge-triggered latch behind both failsafes: LandSafely on the way in, nothing on the way out. -/
def latch (trigger engaged : Bool) (fc : FlightController) : Bool × FlightController :=
  if trigger && !engaged then (true, fc.setControlMode .landSafely)
  else if !trigger && engaged then (false, fc)
  else (engaged, fc)

def staleNow (cmdAge : Double) : Bool := decide (cmdTimeout < cmdAge)

def staleLatch (loop : MainLoop) (cmdAge : Double) : MainLoop :=
  let (engaged, controller) := latch (staleNow cmdAge) loop.failsafeEngaged loop.controller
  { loop with failsafeEngaged := engaged, controller }

def sinkLatch (loop : MainLoop) (sink : RcSink) : MainLoop :=
  let (engaged, controller) := latch (!sink.ok) loop.sinkDegradedEngaged loop.controller
  { loop with sinkDegradedEngaged := engaged, controller }

/-- The loop as `updateTimeStep` is entered. -/
def beforeUpdate (loop : MainLoop) (r : Readings) : MainLoop :=
  ((loop.applyLatest r.latest r.sink).staleLatch r.cmdAge).sinkLatch r.sink

/-- One turn of the control loop. -/
def step (loop : MainLoop) (r : Readings) : MainLoop :=
  let loop := loop.beforeUpdate r
  { loop with controller := loop.controller.updateTimeStep r.dt, telSeq := loop.telSeq + 1 }

/-- The controller as `updateTimeStep` is entered. -/
def entry (loop : MainLoop) (r : Readings) : FlightController := (loop.beforeUpdate r).controller

/-- The channels a turn writes to the sink. -/
def rcCmd (loop : MainLoop) (r : Readings) : BetaFlightCommand := (loop.step r).controller.currentCommand

end MainLoop

/-- A value `main` accepts for FC_HOVER_THROTTLE; an unset variable means 0. -/
structure HoverEnv where
  us : Nat
  valid : us = 0 ∨ droneMin ≤ us ∧ us ≤ kAltHoldMaxThrottle

/-- The loop as `main` enters it. -/
def boot (hover : HoverEnv) : MainLoop :=
  { controller := (FlightController.init.setControlMode .landSafely).setHoverThrottle hover.us }

/-- Both threads of the process: the mailbox and the loop. -/
structure FcProcess where
  server : CommandServer := {}
  loop : MainLoop
  lastTick : ℤ
  /-- What the boot probe of the RC sink found; nothing changes it afterwards. -/
  tuningMismatch : Bool

/-- A payload and the steady-clock time at which the receive thread publishes it. -/
structure Reception where
  json : Text
  recvTime : ℤ

/-- What happens next: the receive thread publishes a payload, or the loop takes a turn. During
a turn the receive thread may publish between the two looks at the mailbox. -/
inductive Event where
  | reception (frame : Reception)
  | tick (now : ℤ) (late : List Reception) (ageNow : ℤ) (sinkOk : Bool)

namespace FcProcess
variable [Libc]

def publish (server : CommandServer) (frame : Reception) : CommandServer :=
  server.receive frame.json (steadySeconds frame.recvTime)

/-- The mailbox after the publications that land inside a turn. -/
def lateServer (p : FcProcess) (late : List Reception) : CommandServer := late.foldl publish p.server

def readings (p : FcProcess) (now : ℤ) (late : List Reception) (ageNow : ℤ) (sinkOk : Bool) : Readings where
  dt := steadySeconds (now - p.lastTick)
  latest := p.server.latestCommand
  cmdAge := (p.lateServer late).secondsSinceLastCmd (steadySeconds ageNow)
  sink := { ok := sinkOk, tuningMismatch := p.tuningMismatch }

def step (p : FcProcess) : Event → FcProcess
  | .reception frame => { p with server := publish p.server frame }
  | .tick now late ageNow sinkOk =>
      { p with
        server := p.lateServer late
        loop := p.loop.step (p.readings now late ageNow sinkOk)
        lastTick := now }

/-- The turn the loop takes at an event, with the time it takes it at. -/
def turn (p : FcProcess) : Event → Option (ℤ × Readings)
  | .reception _ => none
  | .tick now late ageNow sinkOk => some (now, p.readings now late ageNow sinkOk)

end FcProcess

/-- The process as the loop starts, at the time `main` takes for the previous tick. -/
def bootProcess (hover : HoverEnv) (tuningMismatch : Bool) (start : ℤ) : FcProcess :=
  { loop := boot hover, lastTick := start, tuningMismatch }

end loop
end AotDrone.Fc
