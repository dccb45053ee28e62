import AotDrone.Backend.TelSchema
import AotDrone.Backend.VisSchema
import AotDrone.Json.Dumps

/-! From an intent and a VIS snapshot to a framed CMD payload (`cmd_schema.py`, `post_intent` of
`app.py`). None of it looks at the setpoints or at the fields of a snapshot, so their floats are those of any type. -/

namespace AotDrone.Backend
open AotDrone.Lib AotDrone.Lib.Double AotDrone.Json

def modeTracking : ℤ := 1

def modeLandSafely : ℤ := 2

/-- The body of a request to `/api/intent`. -/
structure IntentRequest (φ : Type := Double) where
  desiredMode : ℤ
  arm : Option Bool := none
  setpoints : Option (List (PyStr × φ)) := none

/-- An intent as it is stored: `arm` and `setpoints` are there or not. -/
structure Intent (φ : Type := Double) where
  desiredMode : ℤ
  arm : Option Bool := none
  setpoints : Option (List (PyStr × φ)) := none

structure HttpException where
  statusCode : Nat
  detail : String

variable {φ : Type}

def postIntent (request : IntentRequest φ) : Except HttpException (Intent φ) :=
  if request.desiredMode ∈ controlModes then
    .ok { desiredMode := request.desiredMode, arm := request.arm, setpoints := request.setpoints }
  else .error { statusCode := 422, detail := "desired_mode must be one of 0,1,2,3" }

structure TrackingObject (φ : Type := Double) where
  trackingState : ℤ
  locX : φ
  locY : φ
  boundW : φ
  boundH : φ
  confidence : φ
  visSeq : ℤ
  visTimestamp : φ
  deriving DecidableEq

/-- A stored VIS message has every field the source looks for. -/
def buildTrackingObject (vis : VisMessage φ) : TrackingObject φ where
  trackingState := vis.trackingState
  locX := vis.locX
  locY := vis.locY
  boundW := vis.boundW
  boundH := vis.boundH
  confidence := vis.confidence
  visSeq := vis.seq
  visTimestamp := vis.timestamp

structure CmdPayload (φ : Type := Double) where
  seq : ℤ
  timestamp : φ
  desiredMode : ℤ
  arm : Option Bool
  setpoints : Option (List (PyStr × φ))
  tracking : Option (TrackingObject φ)

inductive BlockedReason where
  | noVis
  | staleVis
  deriving DecidableEq, Repr

/-- What building or framing a payload raises. -/
inductive CmdError where
  | valueError (message : String)
  | structError
  deriving DecidableEq

/-- There is a snapshot and its age is known and at most the limit. -/
def isVisFresh (snapshot : Option (VisMessage φ)) (age : Option Double) (visFresh : Double) : Bool :=
  snapshot.isSome && age.any fun age => decide (age ≤ visFresh)

def buildCmdPayload (seq : ℤ) (timestamp : φ) (intent : Option (Intent φ)) (snapshot : Option (VisMessage φ))
    (age : Option Double) (visFresh : Double) : Except CmdError (CmdPayload φ × Option BlockedReason) :=
  if seq < 0 then .error (.valueError "seq must be >= 0")
  else if visFresh < 0 then .error (.valueError "vis_fresh_s must be >= 0")
  else
    let requested := (intent.map (·.desiredMode)).getD modeLandSafely
    if requested ∉ controlModes then .error (.valueError "desired_mode is outside ControlMode enum")
    else
      let fresh := isVisFresh snapshot age visFresh
      let blocked := decide (requested = modeTracking) && !fresh
      let reason := if snapshot.isNone then BlockedReason.noVis else .staleVis
      .ok
        ({ seq := seq
           timestamp := timestamp
           desiredMode := if blocked then modeLandSafely else requested
           arm := intent.bind (·.arm)
           setpoints := intent.bind (·.setpoints)
           tracking := if fresh then snapshot.map buildTrackingObject else none },
          if blocked then some reason else none)

/-- What a payload is built from; it asks for Tracking only with a fresh sample. -/
theorem buildCmdPayload_ok {seq : ℤ} {timestamp : φ} {intent : Option (Intent φ)}
    {snapshot : Option (VisMessage φ)} {age : Option Double} {visFresh : Double} {payload : CmdPayload φ} {reason : Option BlockedReason}
    (built : buildCmdPayload seq timestamp intent snapshot age visFresh = .ok (payload, reason)) :
    (payload.seq = seq ∧ payload.timestamp = timestamp ∧ payload.setpoints = intent.bind (·.setpoints) ∧
      payload.tracking = if isVisFresh snapshot age visFresh then snapshot.map buildTrackingObject else none) ∧
      payload.desiredMode ∈ controlModes ∧
      (payload.desiredMode = modeTracking → isVisFresh snapshot age visFresh = true) := by
  unfold buildCmdPayload at built
  dsimp only at built
  split at built
  · cases built
  split at built
  · cases built
  split at built
  · cases built
  next known =>
  obtain ⟨rfl, _⟩ := Prod.mk.inj (Except.ok.inj built)
  refine ⟨⟨rfl, rfl, rfl, rfl⟩, ?_, ?_⟩
  · dsimp only
    split_ifs
    · decide
    · exact not_not.1 known
  · dsimp only
    intro tracking
    by_contra stale
    split_ifs at tracking with blocked
    · exact absurd tracking (by decide)
    · exact blocked (by simp [tracking, stale])

theorem buildCmdPayload_arm {seq : ℤ} {timestamp : φ} {intent : Option (Intent φ)}
    {snapshot : Option (VisMessage φ)} {age : Option Double} {visFresh : Double} {payload : CmdPayload φ} {reason : Option BlockedReason}
    (built : buildCmdPayload seq timestamp intent snapshot age visFresh = .ok (payload, reason)) :
    payload.arm = intent.bind (·.arm) := by
  unfold buildCmdPayload at built
  dsimp only at built
  split_ifs at built <;>
  · cases built
    rfl

def TrackingObject.toValue (tracking : TrackingObject φ) : Value φ :=
  .obj
    [(pyStr "tracking_state", .int tracking.trackingState), (pyStr "loc_x", .float tracking.locX),
      (pyStr "loc_y", .float tracking.locY), (pyStr "bound_w", .float tracking.boundW),
      (pyStr "bound_h", .float tracking.boundH), (pyStr "confidence", .float tracking.confidence),
      (pyStr "vis_seq", .int tracking.visSeq), (pyStr "vis_timestamp_s", .float tracking.visTimestamp)]

def setpointsValue (setpoints : List (PyStr × φ)) : Value φ :=
  .obj (setpoints.map fun (name, value) => (name, .float value))

/-- The members of the payload, in the order the source puts them in. -/
def CmdPayload.members (payload : CmdPayload φ) : Members φ :=
  [(pyStr "type", .str (pyStr "CMD")), (pyStr "seq", .int payload.seq),
    (pyStr "timestamp_s", .float payload.timestamp), (pyStr "desired_mode", .int payload.desiredMode)] ++
  ((payload.arm.map fun arm => (pyStr "arm", .bool arm)).toList ++
    ((payload.setpoints.map fun setpoints => (pyStr "setpoints", setpointsValue setpoints)).toList ++
      (payload.tracking.map fun tracking => (pyStr "tracking", tracking.toValue)).toList))

/-- `struct.pack(">I", n)` -/
def packLength (n : Nat) : Text :=
  [Char.ofNat (n / 0x1000000 % 0x100), Char.ofNat (n / 0x10000 % 0x100), Char.ofNat (n / 0x100 % 0x100),
    Char.ofNat (n % 0x100)]

def frameCmdPayload [FloatText φ] (payload : CmdPayload φ) (maxPayloadBytes : Nat) : Except CmdError Text :=
  let raw := dumps (.obj payload.members)
  if ¬ (1 ≤ raw.length ∧ raw.length ≤ maxPayloadBytes) then
    .error (.valueError s!"CMD payload length out of range [1, {maxPayloadBytes}]")
  else if 2 ^ 32 ≤ raw.length then .error .structError
  else .ok (packLength raw.length ++ raw)

/-- A frame is the length and the text of its payload. -/
theorem frameCmdPayload_ok [FloatText φ] {payload : CmdPayload φ} {maxPayloadBytes : Nat} {frame : Text}
    (framed : frameCmdPayload payload maxPayloadBytes = .ok frame) :
    frame = packLength (dumps (.obj payload.members)).length ++ dumps (.obj payload.members) ∧
      frame.drop 4 = dumps (.obj payload.members) := by
  unfold frameCmdPayload at framed
  dsimp only at framed
  split_ifs at framed
  cases framed
  exact ⟨rfl, rfl⟩

end AotDrone.Backend
