import AotDrone.Backend.Schema

/-! `tel_schema.py`. -/

namespace AotDrone.Backend
open AotDrone.Lib AotDrone.Lib.Double AotDrone.Json

def controlModes : List ℤ := [0, 1, 2, 3]

def telRequiredFields : List String :=
  ["type", "seq", "timestamp_s", "control_mode", "tracking_state", "distFront_m", "distBack_m", "distBottom_m",
    "target_x", "target_y", "bound_w", "bound_h", "confidence"]

/-- A validated TEL message; its `type` is always "TEL". -/
structure TelMessage where
  seq : ℤ
  timestamp : Double
  controlMode : ℤ
  trackingState : ℤ
  distFront : Double
  distBack : Double
  distBottom : Double
  targetX : Double
  targetY : Double
  boundW : Double
  boundH : Double
  confidence : Double
  deriving DecidableEq

variable [Fpu]

def validateTelMessage (payload : Value) : Except Raised TelMessage := do
  let members ← requireObject "TEL" payload
  requireMembers "TEL" telRequiredFields members
  requireType "TEL" members
  let seq ← requireInt members "seq"
  let timestamp ← requireFloat members "timestamp_s"
  let controlMode ← requireInt members "control_mode"
  let trackingState ← requireInt members "tracking_state"
  requireOneOf controlModes controlMode "control_mode out of allowed set \x7b0,1,2,3\x7d"
  requireOneOf trackingStates trackingState "tracking_state out of allowed set \x7b1,2,3,4\x7d"
  let distFront ← requireFloat members "distFront_m"
  let distBack ← requireFloat members "distBack_m"
  let distBottom ← requireFloat members "distBottom_m"
  let targetX ← requireFloat members "target_x"
  let targetY ← requireFloat members "target_y"
  let boundW ← requireFloat members "bound_w"
  let boundH ← requireFloat members "bound_h"
  let confidence ← requireFloat members "confidence"
  ensureInRange "target_x" targetX signedUnit
  ensureInRange "target_y" targetY signedUnit
  ensureInRange "bound_w" boundW unit
  ensureInRange "bound_h" boundH unit
  ensureInRange "confidence" confidence unit
  return { seq := seq, timestamp, controlMode, trackingState, distFront, distBack, distBottom, targetX,
           targetY, boundW, boundH, confidence }

end AotDrone.Backend
