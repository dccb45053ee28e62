import AotDrone.Fc.ControllerFacts
import AotDrone.Fc.MspRcSink

/-! What goes over the line as MSP_SET_RAW_RC, and that it is the command of the controller. -/

namespace AotDrone.Fc
open AotDrone.Lib AotDrone.Lib.Double AotDrone.Fc.Msp

namespace Msp

/-! ## Bytes -/

/-- A value of 16 bits, the low byte first. -/
def littleEndian (v : Nat) : Bytes := [UInt8.ofNat (v % 0x100), UInt8.ofNat (v / 0x100 % 0x100)]

def pairs : Bytes → List Nat
  | lo :: hi :: rest => (lo.toNat + 0x100 * hi.toNat) :: pairs rest
  | _ => []

/-- The channels of a SET_RAW_RC frame: header, size, command and checksum are what they have to be. -/
def decodeSetRawRc (frame : Bytes) : Option (List Nat) :=
  if frame.length = 22 ∧ frame.take 5 = [0x24, 0x4D, 0x3C, 16, mspSetRawRc] ∧
      frame.getD 21 0 = xorChecksum ((frame.drop 3).take 18) then
    some (pairs ((frame.drop 5).take 16))
  else none

theorem pairs_littleEndian {values : List Nat} (small : ∀ v ∈ values, v < 2 ^ 16) :
    pairs (values.flatMap littleEndian) = values := by
  induction values with
  | nil => rfl
  | cons v values ih =>
    rw [List.forall_mem_cons] at small
    have split : (UInt8.ofNat (v % 0x100)).toNat + 0x100 * (UInt8.ofNat (v / 0x100 % 0x100)).toNat = v := by
      rw [UInt8.toNat_ofNat', UInt8.toNat_ofNat']
      omega
    change ((UInt8.ofNat (v % 0x100)).toNat + 0x100 * (UInt8.ofNat (v / 0x100 % 0x100)).toNat) ::
      pairs (values.flatMap littleEndian) = v :: values
    rw [split, ih small.2]

theorem length_littleEndian (values : List Nat) : (values.flatMap littleEndian).length = 2 * values.length := by
  induction values with
  | nil => rfl
  | cons v values ih =>
    rw [List.flatMap_cons, List.length_append, ih, List.length_cons]
    change 2 + _ = _
    omega

/-- The checksum runs over size, command and payload. -/
theorem encodeRequest_short (cmd : UInt8) {payload : Bytes} (short : payload.length ≤ 255) :
    encodeRequest cmd payload =
      [0x24, 0x4D, 0x3C, UInt8.ofNat payload.length, cmd] ++ payload ++
        [xorChecksum (UInt8.ofNat payload.length :: cmd :: payload)] := by
  have least : min payload.length 255 = payload.length := min_eq_left short
  have size : (UInt8.ofNat payload.length).toNat = payload.length := by
    rw [UInt8.toNat_ofNat']
    omega
  unfold encodeRequest xorChecksum
  dsimp only
  rw [least, size, List.take_length, List.foldl_cons, List.foldl_cons, UInt8.zero_xor]

theorem decode_encodeSetRawRc {channels : List Nat} (eight : channels.length = 8) :
    (encodeSetRawRc channels).length = 22 ∧
      decodeSetRawRc (encodeSetRawRc channels) = some (channels.map clampChannel) := by
  have clamped (v : Nat) : clampChannel v < 2 ^ 16 := by
    unfold clampChannel mspRcChannelMinUs mspRcChannelMaxUs
    split_ifs <;> omega
  have small : ∀ v ∈ channels.map clampChannel, v < 2 ^ 16 := by
    intro v member
    obtain ⟨w, -, same⟩ := List.mem_map.1 member
    rw [← same]
    exact clamped w
  have sixteen : ((channels.map clampChannel).flatMap littleEndian).length = 16 := by
    rw [length_littleEndian, List.length_map, eight]
  have payload : channels.flatMap (fun v =>
      [UInt8.ofNat (clampChannel v % 0x100), UInt8.ofNat (clampChannel v / 0x100 % 0x100)]) =
      (channels.map clampChannel).flatMap littleEndian := by
    rw [List.flatMap_map]
    rfl
  have reads := pairs_littleEndian small
  rw [encodeSetRawRc, payload, encodeRequest_short _ (by omega), sixteen]
  generalize (channels.map clampChannel).flatMap littleEndian = sent at sixteen reads
  have length : ([0x24, 0x4D, 0x3C, UInt8.ofNat 16, mspSetRawRc] ++ sent ++
      [xorChecksum (UInt8.ofNat 16 :: mspSetRawRc :: sent)]).length = 22 := by
    rw [List.length_append, List.length_append, sixteen]
    rfl
  refine ⟨length, ?_⟩
  have checked : (sent ++ [xorChecksum (UInt8.ofNat 16 :: mspSetRawRc :: sent)]).getD 16 0 =
      xorChecksum (UInt8.ofNat 16 :: mspSetRawRc :: sent) := by
    rw [List.getD_eq_getElem?_getD, List.getElem?_append_right (by omega), sixteen]
    rfl
  have body (last : Bytes) : (sent ++ last).take 16 = sent := by
    rw [← sixteen]
    exact List.take_left
  unfold decodeSetRawRc
  rw [if_pos]
  · change some (pairs ((sent ++ _).take 16)) = _
    rw [body, reads]
  · refine ⟨length, rfl, ?_⟩
    change (sent ++ _).getD 16 0 = xorChecksum (UInt8.ofNat 16 :: mspSetRawRc :: (sent ++ _).take 16)
    rw [checked, body]

end Msp

/-! ## The command of the controller -/

/-- The channels in the order of the frame. -/
def BetaFlightCommand.wireChannels (cmd : BetaFlightCommand) : List Nat :=
  [cmd.roll, cmd.pitch, cmd.throttle, cmd.yaw, cmd.aux1, cmd.aux2, cmd.aux3, cmd.aux4]

/-- The calls of the class that keep its configuration. `setOrientationDeg` and `setAltitudeMeters` write reports
the model leaves out. -/
inductive PublicCall where
  | setControlMode (mode : ControlMode)
  | setHoverThrottle (hoverThrottle : Nat)
  | updateTracking (msg : TrackingMessage)
  | setDistances (front back bottom : Double)
  | setManualSetpoints (cmd : BetaFlightCommand)
  | updateTimeStep (deltaTime : Double)
  | setArm (arm : Bool)
  | setAngleMode (angleMode : Bool)
  | setAltHold (enabled : Bool)
  | commandForward (speedMps : Double)
  | commandYawRate (yawRateDps : Double)
  | commandAltHoldDelta (deltaNorm : Double)

namespace FlightController

def call [Fpu] (fc : FlightController) : PublicCall → FlightController
  | .setControlMode mode => fc.setControlMode mode
  | .setHoverThrottle hoverThrottle => fc.setHoverThrottle hoverThrottle
  | .updateTracking msg => fc.updateTracking msg
  | .setDistances front back bottom => fc.setDistances front back bottom
  | .setManualSetpoints cmd => fc.setManualSetpoints cmd
  | .updateTimeStep deltaTime => fc.updateTimeStep deltaTime
  | .setArm arm => fc.setArm arm
  | .setAngleMode angleMode => fc.setAngleMode angleMode
  | .setAltHold enabled => fc.setAltHold enabled
  | .commandForward speedMps => fc.commandForward speedMps
  | .commandYawRate yawRateDps => fc.commandYawRate yawRateDps
  | .commandAltHoldDelta deltaNorm => fc.commandAltHoldDelta deltaNorm

/-- The clamp of the controller leaves nothing to the clamp of the frame. -/
theorem clampChannel_clampU16 (v : Nat) :
    clampChannel (clampU16 v droneMin droneMax) = clampU16 v droneMin droneMax := by
  unfold clampChannel clampU16 mspRcChannelMinUs mspRcChannelMaxUs droneMin droneMax
  split_ifs <;> omega

theorem finishStep_wireChannels (fc : FlightController) :
    ∃ values : List Nat, fc.finishStep.currentCommand.wireChannels =
      values.map fun v => clampU16 v droneMin droneMax := by
  unfold finishStep
  generalize ite (fc.currentCommand.isArmed = true) _ _ = guarded
  dsimp only
  split_ifs <;> exact ⟨guarded.currentCommand.wireChannels, rfl⟩

/-- What a control step returns passes the clamp of the frame unchanged. -/
theorem updateTimeStep_wireChannels [Fpu] (fc : FlightController) (dt : Double) :
    (fc.updateTimeStep dt).currentCommand.wireChannels.map clampChannel =
      (fc.updateTimeStep dt).currentCommand.wireChannels := by
  rw [updateTimeStep_eq]
  obtain ⟨values, same⟩ := finishStep_wireChannels ((fc.startStep dt).dispatchMode (clampedDt dt))
  rw [same, List.map_map]
  exact List.map_congr_left fun v _ => clampChannel_clampU16 v

end FlightController

/-- Whatever was called before a control step, the frame of its command decodes to that command; and
every frame of eight 16-bit values decodes to these values clamped. -/
theorem setRawRc_exact [Fpu] :
    (∀ (calls : List PublicCall) (dt : Double),
      let cmd := ((calls.foldl FlightController.call .init).updateTimeStep dt).currentCommand
      cmd.wireChannels.map clampChannel = cmd.wireChannels ∧
        decodeSetRawRc (rcFrame cmd) =
          some [cmd.roll, cmd.pitch, cmd.throttle, cmd.yaw, cmd.aux1, cmd.aux2, cmd.aux3, cmd.aux4]) ∧
      ∀ channels : Vector UInt16 8,
        let values := channels.toList.map UInt16.toNat
        (encodeSetRawRc values).length = 22 ∧
          decodeSetRawRc (encodeSetRawRc values) = some (values.map clampChannel) := by
  constructor
  · intro calls dt cmd
    have unclamped := (calls.foldl FlightController.call .init).updateTimeStep_wireChannels dt
    refine ⟨unclamped, ?_⟩
    calc decodeSetRawRc (rcFrame cmd) = some (cmd.wireChannels.map clampChannel) :=
          (decode_encodeSetRawRc rfl).2
      _ = some cmd.wireChannels := congrArg some unclamped
  · intro channels values
    exact decode_encodeSetRawRc (by rw [List.length_map, Vector.length_toList])

end AotDrone.Fc
