import AotDrone.Backend.Ingest
import AotDrone.Json.LoadsScalars
import AotDrone.Link.CmdFrame

/-! Which of the frames the backend sends the flight controller accepts. -/

namespace AotDrone.Link
open AotDrone.Lib AotDrone.Lib.Double AotDrone.Lib.Decimal AotDrone.Json AotDrone.Backend AotDrone.Fc

/-- The frame says what the payload says. -/
structure Carries (payload : CmdPayload) (frame : CommandFrame) : Prop where
  seq : frame.seq = payload.seq
  desiredMode : frame.desiredMode = payload.desiredMode
  hasArm : frame.hasArm = payload.arm.isSome
  arm : ∀ arm ∈ payload.arm, frame.arm = arm
  hasTracking : frame.tracking.hasTracking = payload.tracking.isSome
  tracking : ∀ t ∈ payload.tracking, frame.tracking = received t

/-- The parser returned a frame, and the frame carries the payload. -/
def Accepted (payload : CmdPayload) (parsed : Option CommandFrame) : Prop := ∃ frame ∈ parsed, Carries payload frame

section payload
variable [Fpu] [Libc] [FloatRepr]

theorem readSetpoints_payload {payload : CmdPayload} (finite : payload.timestamp.isFinite = true) :
    readMember "setpoints" {} readSetpoints payload.members =
      payload.setpoints.elim (some {}) fun setpoints => readSetpoints (setpointMembers setpoints) := by
  unfold readMember
  rw [lookup_setpoints payload finite]
  cases payload.setpoints <;> rfl

theorem readTracking_payload {payload : CmdPayload} (finite : payload.timestamp.isFinite = true)
    (doubles : ∀ t ∈ payload.tracking, ∀ x ∈ TrackingObject.floats t, IsDouble x) :
    readMember "tracking" {} readTracking payload.members =
      payload.tracking.elim (some {}) fun t => if TrackingReadable t then some (received t) else none := by
  unfold readMember
  rw [lookup_tracking payload finite]
  cases tracking : payload.tracking with
  | none => rfl
  | some t => exact readTracking_eq t (doubles t tracking)

/-- The frame of a payload, with what was read of its two objects. -/
def frameOf (payload : CmdPayload) (setpoints : CommandSetpoints) (tracking : CommandTracking) : CommandFrame where
  seq := payload.seq
  timestamp := payload.timestamp
  desiredMode := payload.desiredMode
  hasArm := payload.arm.isSome
  arm := payload.arm.getD false
  setpoints := setpoints
  tracking := tracking
  rawJson := dumps (.obj payload.members)

omit [Libc] in
theorem frameOf_carries (payload : CmdPayload) (setpoints : CommandSetpoints) :
    Carries payload (frameOf payload setpoints (payload.tracking.elim {} received)) where
  seq := rfl
  desiredMode := rfl
  hasArm := rfl
  arm arm known := by rw [frameOf, Option.mem_def.1 known, Option.getD_some]
  hasTracking := by
    rw [frameOf]
    cases payload.tracking <;> rfl
  tracking t known := by rw [frameOf, Option.mem_def.1 known, Option.elim_some]

variable {payload : CmdPayload} {now : ℚ} (time : payload.timestamp = fin now) (double : IsDouble (fin now))
  (seqIn : intMin ≤ payload.seq ∧ payload.seq ≤ intMax)
  (modeIn : intMin ≤ payload.desiredMode ∧ payload.desiredMode ≤ intMax)
  (setpointDoubles : ∀ setpoints ∈ payload.setpoints, ∀ s ∈ setpoints, IsDouble s.2)
  (trackingDoubles : ∀ t ∈ payload.tracking, ∀ x ∈ TrackingObject.floats t, IsDouble x)
include time double seqIn modeIn trackingDoubles

/-- With the three numbers at the top in range, only the two objects are left to read. -/
theorem readCmdFrame_payload :
    readCmdFrame payload.members =
      if Readable (fin now) then
        (payload.setpoints.elim (some {}) fun setpoints => readSetpoints (setpointMembers setpoints)).bind
          fun setpoints =>
            (payload.tracking.elim (some {}) fun t => if TrackingReadable t then some (received t) else none).bind
              fun tracking => some (frameOf payload setpoints tracking)
      else none := by
  have finite : payload.timestamp.isFinite = true := by
    rw [time]
    rfl
  obtain ⟨type, seq, timestamp, mode⟩ := lookup_header payload finite
  have tag : stringText (.str (pyStr "CMD")) = some "CMD".toList := by decide
  have arm : (payload.arm.map Value.bool).bind boolValue = payload.arm := by cases payload.arm <;> rfl
  unfold readCmdFrame numberUnder frameOf
  rw [type, seq, timestamp, mode, time, lookup_arm payload finite, readSetpoints_payload finite,
    readTracking_payload finite trackingDoubles]
  dsimp only [Option.bind_eq_bind, Option.bind_some, numberText]
  rw [tag, parseIntLike_ofInt, parseIntLike_ofInt, if_pos seqIn, if_pos modeIn, parseDouble_token double, arm]
  dsimp only [Option.bind_some]
  rw [if_neg (not_not_intro rfl), bind_guard]

include setpointDoubles

/-- The reader takes a payload with its three numbers in range exactly when it can read the rest. -/
theorem accepted_iff :
    Accepted payload (parseCmdFrame (dumps (.obj payload.members))) ↔
      Readable (fin now) ∧ (∀ setpoints ∈ payload.setpoints, SetpointsReadable setpoints) ∧
        ∀ t ∈ payload.tracking, TrackingReadable t := by
  rw [parseCmdFrame_dumps, readCmdFrame_payload time double seqIn modeIn trackingDoubles]
  constructor
  · rintro ⟨frame, found, -⟩
    split_ifs at found with readable
    · obtain ⟨setpoints, readS, rest⟩ := Option.bind_eq_some_iff.1 found
      obtain ⟨tracking, readT, -⟩ := Option.bind_eq_some_iff.1 rest
      refine ⟨readable, ?_, ?_⟩
      · intro sent stored
        rw [Option.mem_def.1 stored] at readS
        exact (readSetpoints_readable (setpointDoubles sent stored)).1 (Option.isSome_of_eq_some readS)
      · intro t stored
        by_contra unreadable
        rw [Option.mem_def.1 stored, Option.elim_some, if_neg unreadable] at readT
        cases readT
    · cases found
  · rintro ⟨readable, setpointsIn, trackingIn⟩
    obtain ⟨setpoints, read⟩ : ∃ setpoints,
        (payload.setpoints.elim (some {}) fun s => readSetpoints (setpointMembers s)) = some setpoints := by
      cases stored : payload.setpoints with
      | none => exact ⟨_, rfl⟩
      | some s =>
        exact Option.isSome_iff_exists.1 ((readSetpoints_readable (setpointDoubles s stored)).2 (setpointsIn s stored))
    have tracked : (payload.tracking.elim (some {}) fun t => if TrackingReadable t then some (received t) else none) =
        some (payload.tracking.elim {} received) := by
      cases stored : payload.tracking with
      | none => rfl
      | some t => exact if_pos (trackingIn t stored)
    rw [if_pos readable, read, tracked]
    exact ⟨_, rfl, frameOf_carries payload setpoints⟩

end payload

/-! ## What is stored -/

section stored
variable [Fpu]

/-- An intent that a request to `/api/intent` leaves; the setpoints of a request are floats. -/
def StoredIntent (intent : Intent) : Prop :=
  ∃ request, postIntent request = .ok intent ∧ ∀ setpoints ∈ request.setpoints, ∀ s ∈ setpoints, IsDouble s.2

/-- A message that a datagram leaves. -/
def StoredVis (config : IngestConfig) (vis : VisMessage) : Prop :=
  ∃ stream data rxMonotonic,
    (visKind.processDatagram config.visMaxBytes config.recursionLimit stream data rxMonotonic).2 = .ok true ∧
      (visKind.processDatagram config.visMaxBytes config.recursionLimit stream data rxMonotonic).1.latest = some vis

theorem StoredIntent.spec {intent : Intent} (stored : StoredIntent intent) :
    intent.desiredMode ∈ controlModes ∧ ∀ setpoints ∈ intent.setpoints, ∀ s ∈ setpoints, IsDouble s.2 := by
  obtain ⟨request, posted, doubles⟩ := stored
  unfold postIntent at posted
  split_ifs at posted with known
  cases posted
  exact ⟨known, doubles⟩

/-- A stored message has passed the validator, and what it holds was read from JSON. -/
theorem StoredVis.spec {config : IngestConfig} {vis : VisMessage} (stored : StoredVis config vis) :
    (1 ≤ vis.trackingState ∧ vis.trackingState ≤ 4) ∧
      ∀ x ∈ TrackingObject.floats (buildTrackingObject vis), IsDouble x := by
  obtain ⟨stream, data, rxMonotonic, returned, latest⟩ := stored
  obtain ⟨decoded, payload, message, -, loaded, validated, same⟩ := visKind.processDatagram_stored returned
  obtain rfl : vis = message := Option.some.inj (latest.symm.trans same)
  obtain ⟨members, read, rfl, carries, rfl⟩ := validateVisMessage_ok_iff.1 validated
  have doubles : MembersDoubles members := loads_doubles loaded
  have zero : IsDouble (0 : Double) := round_zero
  have state : 1 ≤ read.trackingState ∧ read.trackingState ≤ 4 := by
    have known := carries.state_mem
    simp only [trackingStates, List.mem_cons, List.not_mem_nil, or_false] at known
    omega
  unfold VisMessage.normalized
  split_ifs
  · refine ⟨state, ?_⟩
    simp only [TrackingObject.floats, List.forall_mem_cons]
    exact ⟨doubles.get carries.locX, doubles.get carries.locY, doubles.get carries.boundW,
      doubles.get carries.boundH, doubles.get carries.confidence, doubles.get carries.timestamp, List.forall_mem_nil _⟩
  · refine ⟨state, ?_⟩
    simp only [TrackingObject.floats, List.forall_mem_cons]
    exact ⟨zero, zero, zero, zero, zero, doubles.get carries.timestamp, List.forall_mem_nil _⟩

end stored

section frames
variable [Fpu] [Libc] [FloatRepr]

/-- The reader can read what a payload carries of the message. -/
def VisReadable (vis : VisMessage) : Prop :=
  (intMin ≤ vis.seq ∧ vis.seq ≤ intMax) ∧
    ∀ x ∈ [vis.locX, vis.locY, vis.boundW, vis.boundH, vis.confidence, vis.timestamp], Readable x

instance : DecidablePred VisReadable := fun _ => inferInstanceAs (Decidable (_ ∧ _))

/-- The flight controller accepts exactly the frames that carry nothing but numbers it can read: the time of
the tick, the setpoints of the intent and, while it is fresh, the VIS message. -/
theorem frame_accepted_iff (config : IngestConfig) {seq : ℤ} {now : ℚ} {intent : Option Intent}
    {snapshot : Option VisMessage} {age : Option Double} {visFresh : Double} {payload : CmdPayload}
    {reason : Option BlockedReason} {maxPayloadBytes : Nat} {frame : Text}
    (seqIn : 0 ≤ seq ∧ seq ≤ cmdSeqMax) (tick : IsDouble (fin now)) (intents : ∀ i ∈ intent, StoredIntent i)
    (visions : ∀ vis ∈ snapshot, StoredVis config vis)
    (built : buildCmdPayload seq (fin now) intent snapshot age visFresh = .ok (payload, reason))
    (framed : frameCmdPayload payload maxPayloadBytes = .ok frame) :
    Accepted payload (parseCmdFrame (frame.drop 4)) ↔
      Readable (fin now) ∧ (∀ i ∈ intent, ∀ setpoints ∈ i.setpoints, SetpointsReadable setpoints) ∧
        (isVisFresh snapshot age visFresh = true → ∀ vis ∈ snapshot, VisReadable vis) := by
  obtain ⟨⟨sameSeq, time, sameSetpoints, tracking⟩, mode, -⟩ := buildCmdPayload_ok built
  have text := (frameCmdPayload_ok framed).2
  have seqInt : intMin ≤ payload.seq ∧ payload.seq ≤ intMax := by
    simp only [sameSeq, intMin, intMax]
    simp only [cmdSeqMax] at seqIn
    omega
  have modeInt : intMin ≤ payload.desiredMode ∧ payload.desiredMode ≤ intMax := by
    simp only [controlModes, List.mem_cons, List.not_mem_nil, or_false] at mode
    simp only [intMin, intMax]
    omega
  have setpointDoubles : ∀ setpoints ∈ payload.setpoints, ∀ s ∈ setpoints, IsDouble s.2 := by
    rw [sameSetpoints]
    intro setpoints sent
    obtain ⟨i, known, stored⟩ := Option.bind_eq_some_iff.1 sent
    exact (intents i known).spec.2 setpoints stored
  have carried : ∀ t ∈ payload.tracking, ∃ vis ∈ snapshot, t = buildTrackingObject vis := by
    rw [tracking]
    intro t sent
    split_ifs at sent
    · obtain ⟨vis, known, same⟩ := Option.map_eq_some_iff.1 sent
      exact ⟨vis, known, same.symm⟩
    · cases sent
  have trackingDoubles : ∀ t ∈ payload.tracking, ∀ x ∈ TrackingObject.floats t, IsDouble x := by
    intro t sent
    obtain ⟨vis, known, rfl⟩ := carried t sent
    exact (visions vis known).spec.2
  rw [text, accepted_iff time tick seqInt modeInt setpointDoubles trackingDoubles, sameSetpoints, tracking]
  refine and_congr Iff.rfl (and_congr ?_ ?_)
  · cases intent with
    | none => simp
    | some i => simp
  · by_cases fresh : isVisFresh snapshot age visFresh = true
    · rw [if_pos fresh]
      cases snapshot with
      | none => simp
      | some vis =>
        have state := (visions vis rfl).spec.1
        simp only [Option.map_some, Option.mem_def, Option.some.injEq, forall_eq', fresh, forall_const]
        exact and_iff_right state
    · rw [if_neg fresh]
      simp [fresh]

end frames

section hardware
attribute [local instance] Binary64.binary64 Libc.strict plainRepr

/-- A VIS datagram about a target in the middle of the image. -/
def visSample (seq : String) : Bytes :=
  bytes ("\x7b\"type\":\"VIS\",\"seq\":" ++ seq ++ ",\"timestamp_s\":7,\"tracking_state\":3,\"loc_x\":0,\"loc_y\":0," ++
    "\"bound_w\":1,\"bound_h\":1,\"confidence\":1\x7d").toList

/-- The message about a target in the middle of the image. -/
def middle (seq : ℤ) : VisMessage where
  seq := seq
  timestamp := 7
  trackingState := 3
  locX := 0
  locY := 0
  boundW := 1
  boundH := 1
  confidence := 1

/-- The payload that follows the message. -/
def followPayload (seq : ℤ) : CmdPayload where
  seq := 5
  timestamp := fin 8
  desiredMode := modeTracking
  arm := some true
  setpoints := none
  tracking := some (buildTrackingObject (middle seq))

def followIntent : Intent where
  desiredMode := modeTracking
  arm := some true

theorem followIntent_stored : StoredIntent followIntent := ⟨{ desiredMode := 1, arm := some true }, rfl, nofun⟩

theorem middle_stored : StoredVis {} (middle 9) := ⟨{}, visSample "9", 0, by decide +kernel⟩

/-- One past the largest `int`, and the whole frame is refused. -/
theorem vis_seq_past_int_refused :
    StoredIntent followIntent ∧ StoredVis {} (middle 2147483648) ∧
      buildCmdPayload 5 (fin 8) (some followIntent) (some (middle 2147483648)) (some 0) 1 =
        .ok (followPayload 2147483648, none) ∧
      ∃ frame, frameCmdPayload (followPayload 2147483648) 4096 = .ok frame ∧
        ¬ Accepted (followPayload 2147483648) (parseCmdFrame (frame.drop 4)) := by
  refine ⟨followIntent_stored, ⟨{}, visSample "2147483648", 0, by decide +kernel⟩, rfl, ?_⟩
  have refused : ((frameCmdPayload (followPayload 2147483648) 4096).toOption.map fun frame =>
      parseCmdFrame (frame.drop 4)) = some none := by decide +kernel
  cases framed : frameCmdPayload (followPayload 2147483648) 4096 with
  | error e =>
    rw [framed] at refused
    cases refused
  | ok frame =>
    rw [framed] at refused
    refine ⟨frame, rfl, ?_⟩
    rintro ⟨_, parsed, -⟩
    rw [show parseCmdFrame (frame.drop 4) = none from Option.some.inj refused] at parsed
    cases parsed

theorem middle_accepted : ∃ frame, frameCmdPayload (followPayload 9) 4096 = .ok frame ∧
    Accepted (followPayload 9) (parseCmdFrame (frame.drop 4)) := by
  have sent : (frameCmdPayload (followPayload 9) 4096).toOption.isSome = true := by decide +kernel
  cases framed : frameCmdPayload (followPayload 9) 4096 with
  | error e =>
    rw [framed] at sent
    cases sent
  | ok frame =>
    have built : buildCmdPayload 5 (fin 8) (some followIntent) (some (middle 9)) (some 0) 1 =
        .ok (followPayload 9, none) := rfl
    have double : IsDouble (fin 8) := Fpu.round_int 8 (by decide)
    refine ⟨frame, rfl, (frame_accepted_iff {} (by decide) double ?_ ?_ built framed).2 ?_⟩
    · rintro _ ⟨⟩
      exact followIntent_stored
    · rintro _ ⟨⟩
      exact middle_stored
    · refine ⟨by decide +kernel, ?_, ?_⟩
      · rintro _ ⟨⟩ setpoints sent
        cases sent
      · rintro - _ ⟨⟩
        decide +kernel

end hardware
end AotDrone.Link
