import AotDrone.Backend.Schema

/-! `vis_schema.py`. -/

namespace AotDrone.Backend
open AotDrone.Lib AotDrone.Lib.Double AotDrone.Json

def trackingStateTracking : ℤ := 3

def visRequiredFields : List String :=
  ["type", "seq", "timestamp_s", "tracking_state", "loc_x", "loc_y", "bound_w", "bound_h", "confidence"]

/-- A validated VIS message; its `type` is always "VIS". -/
structure VisMessage (φ : Type := Double) where
  seq : ℤ
  timestamp : φ
  trackingState : ℤ
  locX : φ
  locY : φ
  boundW : φ
  boundH : φ
  confidence : φ
  deriving DecidableEq

/-- The fields that are zero while nothing is tracked, by name. -/
def VisMessage.trackingFields (msg : VisMessage) : List (String × Double) :=
  [("loc_x", msg.locX), ("loc_y", msg.locY), ("bound_w", msg.boundW), ("bound_h", msg.boundH),
    ("confidence", msg.confidence)]

def VisMessage.zeroed (msg : VisMessage) : VisMessage :=
  { msg with locX := 0, locY := 0, boundW := 0, boundH := 0, confidence := 0 }

variable [Fpu]

def nonTrackingZeroEps : Double := 1e-6

/-- The last step of the validator: while nothing is tracked, near-zero fields become zero. -/
def zeroNonTracking (values : VisMessage) : Except Raised VisMessage :=
  if values.trackingState = trackingStateTracking then .ok values
  else
    let nonzero := values.trackingFields.filter fun field => decide (nonTrackingZeroEps < Double.abs field.2)
    if nonzero = [] then .ok values.zeroed
    else
      refuse .semantics
        (s!"non-tracking VIS must be near-zero for {joined (nonzero.map Prod.fst)} within ±1e-06 " ++
          s!"(tracking_state={values.trackingState})")

def validateVisMessage (payload : Value) : Except Raised VisMessage := do
  let members ← requireObject "VIS" payload
  requireMembers "VIS" visRequiredFields members
  requireType "VIS" members
  let seq ← requireInt members "seq"
  let timestamp ← requireFloat members "timestamp_s"
  let trackingState ← requireInt members "tracking_state"
  requireOneOf trackingStates trackingState "tracking_state out of allowed set \x7b1,2,3,4\x7d"
  let locX ← requireFloat members "loc_x"
  let locY ← requireFloat members "loc_y"
  let boundW ← requireFloat members "bound_w"
  let boundH ← requireFloat members "bound_h"
  let confidence ← requireFloat members "confidence"
  ensureInRange "loc_x" locX signedUnit
  ensureInRange "loc_y" locY signedUnit
  ensureInRange "bound_w" boundW unit
  ensureInRange "bound_h" boundH unit
  ensureInRange "confidence" confidence unit
  zeroNonTracking { seq := seq, timestamp, trackingState, locX, locY, boundW, boundH, confidence }

end AotDrone.Backend
