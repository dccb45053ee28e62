import AotDrone.Link.Datagram
import AotDrone.Vision.Pipeline

/-! From a frame of the camera to the VIS message the backend holds. -/

namespace AotDrone.Link
open AotDrone.Lib AotDrone.Lib.Double AotDrone.Json AotDrone.Backend AotDrone.Vision

section fields
variable [Fpu]

/-- The numbers of a payload that are written as floats. -/
def visFloats (fields : VisMessage) : List Double := fields.timestamp :: fields.trackingFields.map Prod.snd

omit [Fpu] in
theorem forall_visFloats {property : Double → Prop} {fields : VisMessage} :
    (∀ x ∈ visFloats fields, property x) ↔
      property fields.timestamp ∧ property fields.locX ∧ property fields.locY ∧ property fields.boundW ∧
        property fields.boundH ∧ property fields.confidence := by
  simp only [visFloats, VisMessage.trackingFields, List.map_cons, List.map_nil, List.forall_mem_cons,
    List.not_mem_nil, false_imp_iff, implies_true, and_true]

theorem isDouble_neg_one : IsDouble (-1) := by
  have one := Fpu.round_int (-1) (by norm_num)
  rwa [Int.cast_neg, Int.cast_one] at one

theorem isDouble_centred (distance : Double) : IsDouble (centred distance) :=
  isDouble_pyMax isDouble_neg_one (isDouble_pyMin isDouble_one (isDouble_mul _ _))

/-- A payload of a sound result is made of floats. -/
theorem visFields_doubles {seq : ℤ} {timestamp : Double} (double : IsDouble timestamp) {result : TrackerResult}
    (sound : result.Sound) :
    ∀ x ∈ visFloats (visFields seq timestamp result.state result.bbox result.conf), IsDouble x := by
  rw [forall_visFloats]
  unfold visFields
  split_ifs
  · exact ⟨double, isDouble_zero, isDouble_zero, isDouble_zero, isDouble_zero, isDouble_zero⟩
  · exact ⟨double, isDouble_centred _, isDouble_centred _, isDouble_clamp01 sound.bbox.w,
      isDouble_clamp01 sound.bbox.h, isDouble_clamp01 sound.conf⟩

/-- Nothing is said of a target while nothing is tracked. -/
theorem visFields_idle {seq : ℤ} {timestamp : Double} {state : VisState} {bbox : NormalizedBBox} {confidence : Double}
    (idle : state ≠ .tracking) :
    ∀ field ∈ (visFields seq timestamp state bbox confidence).trackingFields, field.2 = 0 := by
  have code : trackingStateToCode state ≠ trackingStateTracking := by
    cases state with
    | tracking => exact absurd rfl idle
    | noTarget | targetDetected | searching => decide
  rw [visFields, if_pos code]
  simp [VisMessage.trackingFields]

end fields

section datagrams
variable [Fpu] [FloatRepr]

omit [Fpu] [FloatRepr] in
theorem intBytes_seq {seq : ℤ} (small : seq.natAbs < 2 ^ 63) : intBytes seq ≤ 20 := by
  have digits : (Nat.toDigits 10 seq.natAbs).length ≤ 19 :=
    (Nat.length_toDigits_le_iff (by decide) (by decide)).2 (small.trans (by decide))
  rw [intBytes]
  split_ifs <;> omega

omit [Fpu] [FloatRepr] in
theorem intBytes_state {state : ℤ} (known : state ∈ trackingStates) : intBytes state = 1 := by
  simp only [trackingStates, List.mem_cons, List.not_mem_nil, or_false] at known
  rcases known with rfl | rfl | rfl | rfl <;> rfl

/-- Where no float takes more than the 24 characters of `float.__repr__`, a payload fits a datagram. -/
theorem visMembers_short {fields : VisMessage} (small : fields.seq.natAbs < 2 ^ 63)
    (known : fields.trackingState ∈ trackingStates) (printed : ∀ x ∈ visFloats fields, floatBytes x ≤ 24) :
    (dumps (.obj (visMembers fields))).length ≤ 512 := by
  obtain ⟨timestamp, locX, locY, boundW, boundH, confidence⟩ := forall_visFloats.1 printed
  have seq : (dumps (.int fields.seq : Value)).length ≤ 20 := (length_render_int _).trans_le (intBytes_seq small)
  have state : (dumps (.int fields.trackingState : Value)).length = 1 :=
    (length_render_int _).trans (intBytes_state known)
  have tag : (dumps (.str (pyStr "VIS") : Value)).length = 5 := rfl
  have float (x : Double) : (dumps (.float x)).length = floatBytes x := rfl
  have names : (["type", "seq", "timestamp_s", "tracking_state", "loc_x", "loc_y", "bound_w", "bound_h",
      "confidence"].map fun name => textBytes (pyStr name)) = [4, 3, 11, 14, 5, 5, 7, 7, 10] := rfl
  simp only [List.map_cons, List.map_nil, List.cons.injEq, and_true] at names
  rw [length_dumps_obj, objectBytes]
  simp only [visMembers, List.map_cons, List.map_nil, List.sum_cons, List.sum_nil, List.length_cons, List.length_nil,
    names, tag, state, float]
  omega

omit [Fpu] [FloatRepr] in
theorem visMembers_flat (fields : VisMessage) : ∀ m ∈ visMembers fields, Flat m.2 := by
  have tag : Printable (pyStr "VIS") := by decide
  simp only [visMembers, List.forall_mem_cons, List.not_mem_nil, false_imp_iff, implies_true, and_true]
  exact ⟨tag, trivial, trivial, trivial, trivial, trivial, trivial, trivial, trivial⟩

omit [Fpu] [FloatRepr] in
theorem visMembers_names (fields : VisMessage) :
    (∀ m ∈ visMembers fields, Printable m.1) ∧ ((visMembers fields).map Prod.fst).Nodup := by
  refine ⟨?_, ?_⟩
  · simp only [visMembers, List.forall_mem_cons, List.not_mem_nil, false_imp_iff, implies_true, and_true]
    decide
  · simp only [visMembers, List.map_cons, List.map_nil]
    decide

/-- Read back, a payload made of floats says what it said. -/
theorem visMembers_reread {fields : VisMessage} (carries : VisCarries Value.ByFloat (visMembers fields) fields)
    (doubles : ∀ x ∈ visFloats fields, IsDouble x) :
    VisCarries Value.ByFloat (rereadMembers (visMembers fields)) fields := by
  obtain ⟨timestamp, locX, locY, boundW, boundH, confidence⟩ := forall_visFloats.1 doubles
  exact
    { carries with
      complete := complete_reread carries.complete
      seq := get_int carries.seq
      timestamp := get_float rfl timestamp
      trackingState := get_int carries.trackingState
      locX := get_float rfl locX
      locY := get_float rfl locY
      boundW := get_float rfl boundW
      boundH := get_float rfl boundH
      confidence := get_float rfl confidence }

/-- A payload of a sound result fits a datagram and is stored as it was. -/
theorem buildVisPayload_stored {seq : ℤ} (small : seq.natAbs < 2 ^ 63) {timestamp : Double} (double : IsDouble timestamp)
    {result : TrackerResult} (sound : result.Sound)
    (printed : ∀ x ∈ visFloats (visFields seq timestamp result.state result.bbox result.conf), floatBytes x ≤ 24)
    (state : SharedState) (rxMonotonic : Double) :
    (dumps (buildVisPayload seq timestamp result.state result.bbox result.conf)).length ≤ 512 ∧
      ingest {} state (.vis (asciiBytes (dumps (buildVisPayload seq timestamp result.state result.bbox result.conf)))
          rxMonotonic) =
        ({ state with
            vis := state.vis.recordRxTotal.recordOk
              (visFields seq timestamp result.state result.bbox result.conf) seq timestamp rxMonotonic },
          .ok true) := by
  set fields := visFields seq timestamp result.state result.bbox result.conf with made
  have same : fields.seq = seq ∧ fields.timestamp = timestamp := by
    rw [made, visFields]
    split_ifs <;> exact ⟨rfl, rfl⟩
  have carries : VisCarries Value.ByFloat (visMembers fields) fields := visFields_carried _ _ _ _ _
  have short := visMembers_short (by rwa [same.1]) carries.state_mem printed
  have valid : validateVisMessage (.obj (rereadMembers (visMembers fields))) = .ok fields := by
    rw [validateVisMessage_ok_iff]
    exact ⟨_, fields, rfl, visMembers_reread carries (visFields_doubles double sound),
      (visFields_normalized _ _ _ _ _).symm⟩
  have stored := processDatagram_dumps visKind (visMembers_flat fields) (visMembers_names fields).1
    (visMembers_names fields).2 short (by decide : 1 ≤ 1000) valid state.vis rxMonotonic
  refine ⟨short, ?_⟩
  rw [ingest, buildVisPayload, stored]
  dsimp only [visKind]
  rw [same.1, same.2]

/-- Every VIS payload of a run fits a datagram and is stored as it was, and those of a result that is not tracking say
nothing of a target. -/
theorem vis_payloads_stored [Libm] (config : VisionPipelineConfig) (frames : List Frame) {seq : ℤ}
    (small : seq.natAbs < 2 ^ 63) {timestamp : ℚ} (double : IsDouble (fin timestamp)) (state : SharedState)
    (rxMonotonic : Double) :
    ∀ result ∈ ({} : VisionPipeline).results config frames,
      (∀ x ∈ visFloats (visFields seq (fin timestamp) result.state result.bbox result.conf), floatBytes x ≤ 24) →
        (dumps (buildVisPayload seq (fin timestamp) result.state result.bbox result.conf)).length ≤ 512 ∧
          ingest {} state (.vis (asciiBytes (dumps (buildVisPayload seq (fin timestamp) result.state result.bbox
              result.conf))) rxMonotonic) =
            ({ state with
                vis := state.vis.recordRxTotal.recordOk
                  (visFields seq (fin timestamp) result.state result.bbox result.conf) seq (fin timestamp) rxMonotonic },
              .ok true) ∧
          (result.state ≠ .tracking →
            result = zeroResult result.state ∧
              ∀ field ∈ (visFields seq (fin timestamp) result.state result.bbox result.conf).trackingFields,
                field.2 = 0) := by
  intro result member printed
  have sound := VisionPipeline.results_sound isDouble_zero frames result member
  obtain ⟨short, stored⟩ := buildVisPayload_stored small double sound printed state rxMonotonic
  exact ⟨short, stored, fun idle => ⟨sound.idle idle, visFields_idle idle⟩⟩

end datagrams

section hardware
attribute [local instance] Binary64.binary64 decimalRepr

/-- Exact where one of the sides is zero. -/
@[reducible] def longerSide : Libm where
  hypot x y := pyMax (Double.abs x) (Double.abs y)

attribute [local instance] longerSide

def promptConfig : VisionPipelineConfig where
  detectHoldN := 1
  searchN := 10
  detectEveryN := 1
  desiredCx := 0.5
  desiredCy := 0.5
  targetDetectedGraceFrames := 2
  trackerReinitIou := 0.3
  trackerOnlyConfDecay := 0.95
  trackerOnlyConfFloor := 0.2
  detectEveryN_pos := by decide
  desiredCx_range := by decide +kernel
  desiredCy_range := by decide +kernel
  trackerReinitIou_range := by decide +kernel
  trackerOnlyConfDecay_range := by decide +kernel
  trackerOnlyConfFloor_range := by decide +kernel
  trackerOnlyConfFloor_double := isDouble_round _

def sight (frameId : ℤ) (x : Double) : Frame where
  frameId := frameId
  imgW := 640
  imgH := 480
  detections := [{ bbox := ⟨x, 216, 64, 48⟩, confidence := 0.9, confidence_double := isDouble_round _ }]
  initialized := true
  updated := (false, none)

/-- In the middle of the image, then off its left edge. -/
def sights : List Frame := [sight 1 288, sight 2 (-64)]

theorem sights_stored :
    (∃ result ∈ ({} : VisionPipeline).results promptConfig sights, result.state = .tracking) ∧
      ∀ result ∈ ({} : VisionPipeline).results promptConfig sights,
        (ingest {} { cmdNextSeq := 0 }
          (.vis (asciiBytes (dumps (buildVisPayload 1 (fin 8.5) result.state result.bbox result.conf))) 9)).2 =
            .ok true := by
  have printed : ∀ result ∈ ({} : VisionPipeline).results promptConfig sights,
      ∀ x ∈ visFloats (visFields 1 (fin 8.5) result.state result.bbox result.conf), floatBytes x ≤ 24 := by
    decide +kernel
  have double : IsDouble (fin 8.5) := by
    change Fpu.round 8.5 = fin 8.5
    decide +kernel
  refine ⟨by decide +kernel, ?_⟩
  intro result member
  obtain ⟨-, stored, -⟩ := vis_payloads_stored promptConfig sights (by decide) double { cmdNextSeq := 0 } 9 result member
    (printed result member)
  rw [stored]

end hardware
end AotDrone.Link
