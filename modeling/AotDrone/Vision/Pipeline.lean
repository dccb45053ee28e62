import AotDrone.Vision.Payload

/-! The detect-and-track state machine of the vision process (`vision_pipeline.py`, `box_select.py`). -/

namespace AotDrone.Vision
open AotDrone.Lib AotDrone.Lib.Double

/-- `math.hypot`, which only decides between detections. -/
class Libm where
  hypot : Double → Double → Double

section types
variable [Fpu]

/-- The confidence is a Python float, whatever the detector makes of it. -/
structure Detection where
  bbox : PixelBBox
  confidence : Double
  confidence_double : IsDouble confidence

/-- What `__post_init__` lets pass. -/
structure VisionPipelineConfig where
  detectHoldN : Nat
  searchN : Nat
  detectEveryN : Nat
  desiredCx : Double
  desiredCy : Double
  targetDetectedGraceFrames : Nat
  trackerReinitIou : Double
  trackerOnlyConfDecay : Double
  trackerOnlyConfFloor : Double
  detectEveryN_pos : 1 ≤ detectEveryN
  desiredCx_range : 0 ≤ desiredCx ∧ desiredCx ≤ 1
  desiredCy_range : 0 ≤ desiredCy ∧ desiredCy ≤ 1
  trackerReinitIou_range : 0 ≤ trackerReinitIou ∧ trackerReinitIou ≤ 1
  trackerOnlyConfDecay_range : 0 < trackerOnlyConfDecay ∧ trackerOnlyConfDecay ≤ 1
  trackerOnlyConfFloor_range : 0 ≤ trackerOnlyConfFloor ∧ trackerOnlyConfFloor ≤ 1
  trackerOnlyConfFloor_double : IsDouble trackerOnlyConfFloor

structure TrackerResult where
  state : VisState
  bbox : NormalizedBBox := {}
  conf : Double := 0
  trackId : ℤ := 0

/-- A frame, and what the detector and the tracker answer when they are asked about it. -/
structure Frame where
  frameId : ℤ
  imgW : ℤ
  imgH : ℤ
  detections : List Detection
  initialized : Bool
  updated : Bool × Option PixelBBox

structure VisionPipeline where
  state : VisState := .noTarget
  detectedHoldCounter : Nat := 0
  searchCounter : Nat := 0
  detectedBox : Option Detection := none
  lastDetection : Option Detection := none
  lastDetectionFrame : Option ℤ := none
  trackerActive : Bool := false
  lastTrackerBbox : Option PixelBBox := none
  lastTrackingConf : Double := 0
  targetDetectedMissStreak : Nat := 0

end types

/-! ## Choosing a detection -/

section select
variable [Fpu] [Libm]

def toNormCenter (bbox : PixelBBox) (imgW imgH : ℤ) : Except VisionError (Double × Double) :=
  if imgW ≤ 0 ∨ imgH ≤ 0 then .error (.valueError "image dimensions must be positive")
  else do
    let imgW ← floatOfInt imgW
    let imgH ← floatOfInt imgH
    .ok (clamp01 ((bbox.x + bbox.w / 2) / imgW), clamp01 ((bbox.y + bbox.h / 2) / imgH))

def scoreBox (bbox : PixelBBox) (imgW imgH : ℤ) (desiredCx desiredCy : Double) : Except VisionError Double := do
  let (cx, cy) ← toNormCenter bbox imgW imgH
  let distToDesired := Libm.hypot (cx - desiredCx) (cy - desiredCy)
  let area ← floatOfInt (imgW * imgH)
  let boxAreaNorm := clamp01 (bbox.w * bbox.h / area)
  .ok (distToDesired - 0.25 * boxAreaNorm)

/-- `min` with a key: the first of those that no other beats. -/
def minBy (score : Detection → Except VisionError Double) :
    Detection → Double → List Detection → Except VisionError Detection
  | best, _, [] => .ok best
  | best, bestScore, item :: rest => do
    let itemScore ← score item
    if itemScore < bestScore then minBy score item itemScore rest else minBy score best bestScore rest

def pickBestBox (detections : List Detection) (imgW imgH : ℤ) (desiredCx desiredCy : Double) :
    Except VisionError (Option Detection) :=
  match detections with
  | [] => .ok none
  | first :: rest => do
    let score item := scoreBox item.bbox imgW imgH desiredCx desiredCy
    let best ← minBy score first (← score first) rest
    .ok (some best)

omit [Libm] in
/-- `_iou` -/
def iou (a b : PixelBBox) : Double :=
  if ¬ [a.x, a.y, a.w, a.h, b.x, b.y, b.w, b.h].all Double.isFinite then 0
  else if a.w ≤ 0 ∨ a.h ≤ 0 ∨ b.w ≤ 0 ∨ b.h ≤ 0 then 0
  else
    let interW := pyMin (a.x + a.w) (b.x + b.w) - pyMax a.x b.x
    let interH := pyMin (a.y + a.h) (b.y + b.h) - pyMax a.y b.y
    if interW ≤ 0 ∨ interH ≤ 0 then 0
    else
      let interArea := interW * interH
      let unionArea := a.w * a.h + b.w * b.h - interArea
      if unionArea ≤ 0 then 0 else interArea / unionArea

end select

/-! ## Frames -/

section frames
variable [Fpu]

/-- `_tracking_result` -/
def trackingResult (bbox : PixelBBox) (frame : Frame) (conf : Double) : Except VisionError TrackerResult := do
  let bbox ← normalizeBboxXywh bbox frame.imgW frame.imgH
  .ok { state := .tracking, bbox, conf, trackId := 1 }

/-- `_zero_result` -/
def zeroResult (state : VisState) : TrackerResult := { state }

def shouldDetect (config : VisionPipelineConfig) (frameId : ℤ) : Bool :=
  decide ((max 1 frameId - 1) % config.detectEveryN = 0)

namespace VisionPipeline

def transitionNoTarget (pipeline : VisionPipeline) : VisionPipeline :=
  { pipeline with
    state := .noTarget
    detectedHoldCounter := 0
    searchCounter := 0
    detectedBox := none
    targetDetectedMissStreak := 0
    trackerActive := false
    lastTrackerBbox := none
    lastTrackingConf := 0 }

def reuseLastDetection (config : VisionPipelineConfig) (pipeline : VisionPipeline) (frameId : ℤ) : Option Detection :=
  match pipeline.lastDetection, pipeline.lastDetectionFrame with
  | some detection, some lastFrame => if frameId - lastFrame < config.detectEveryN then some detection else none
  | _, _ => none

/-- The target is there again, or for the first time. -/
def enterTargetDetected (pipeline : VisionPipeline) (detected : Detection) : VisionPipeline :=
  { pipeline with
    state := .targetDetected
    detectedBox := some detected
    detectedHoldCounter := 0
    searchCounter := 0
    targetDetectedMissStreak := 0 }

def updateNoTarget (pipeline : VisionPipeline) (detected : Option Detection) : VisionPipeline × TrackerResult :=
  match detected with
  | none => (pipeline, zeroResult .noTarget)
  | some detected => (pipeline.enterTargetDetected detected, zeroResult .targetDetected)

def updateTargetDetected (config : VisionPipelineConfig) (pipeline : VisionPipeline) (frame : Frame)
    (detected : Option Detection) : Except VisionError (VisionPipeline × TrackerResult) :=
  let current :=
    if detected.isNone && !shouldDetect config frame.frameId then pipeline.reuseLastDetection config frame.frameId
    else detected
  match current with
  | none =>
    let missed := { pipeline with targetDetectedMissStreak := pipeline.targetDetectedMissStreak + 1 }
    if missed.targetDetectedMissStreak ≤ config.targetDetectedGraceFrames then
      .ok (missed, zeroResult .targetDetected)
    else .ok (missed.transitionNoTarget, zeroResult .noTarget)
  | some current =>
    let held :=
      { pipeline with
        targetDetectedMissStreak := 0
        detectedBox := some current
        detectedHoldCounter := pipeline.detectedHoldCounter + 1 }
    if config.detectHoldN ≤ held.detectedHoldCounter then do
      let conf := clamp01 current.confidence
      let result ← trackingResult current.bbox frame conf
      .ok
        ({ held with
            state := .tracking
            searchCounter := 0
            trackerActive := frame.initialized
            lastTrackingConf := conf },
          result)
    else .ok (held, zeroResult .targetDetected)

/-- The tracker is to start anew where it is off, has no box, or has gone astray. -/
def shouldReinit (config : VisionPipelineConfig) (pipeline : VisionPipeline) (detected : Detection) : Bool :=
  !pipeline.trackerActive ||
    match pipeline.lastTrackerBbox with
    | none => true
    | some last => decide (iou last detected.bbox < config.trackerReinitIou)

/-- A detection is taken over. -/
def followDetection (config : VisionPipelineConfig) (pipeline : VisionPipeline) (frame : Frame) (detected : Detection) :
    Except VisionError (VisionPipeline × TrackerResult) := do
  let trackerActive := if pipeline.shouldReinit config detected then frame.initialized else pipeline.trackerActive
  let conf := clamp01 detected.confidence
  let result ← trackingResult detected.bbox frame conf
  .ok
    ({ pipeline with
        trackerActive
        lastTrackerBbox := if trackerActive then some detected.bbox else none
        lastTrackingConf := conf },
      result)

/-- Without a detection the confidence decays, to the floor if it began above it. -/
def decayed (config : VisionPipelineConfig) (pipeline : VisionPipeline) : Double :=
  let decayed := pipeline.lastTrackingConf * config.trackerOnlyConfDecay
  if config.trackerOnlyConfFloor ≤ pipeline.lastTrackingConf then pyMax decayed config.trackerOnlyConfFloor else decayed

def updateTracking (config : VisionPipelineConfig) (pipeline : VisionPipeline) (frame : Frame)
    (detected : Option Detection) : Except VisionError (VisionPipeline × TrackerResult) :=
  match detected with
  | some detected => pipeline.followDetection config frame detected
  | none =>
    match if pipeline.trackerActive then frame.updated else (false, none) with
    | (true, some bbox) => do
      let conf := pipeline.decayed config
      let result ← trackingResult bbox frame conf
      .ok ({ pipeline with lastTrackerBbox := some bbox, lastTrackingConf := conf }, result)
    | _ =>
      .ok
        ({ pipeline with
            state := .searching
            searchCounter := 0
            detectedHoldCounter := 0
            detectedBox := none
            lastTrackerBbox := none
            lastTrackingConf := 0
            trackerActive := false },
          zeroResult .searching)

def updateSearching (config : VisionPipelineConfig) (pipeline : VisionPipeline) (detected : Option Detection) :
    VisionPipeline × TrackerResult :=
  match detected with
  | some detected => (pipeline.enterTargetDetected detected, zeroResult .targetDetected)
  | none =>
    let searched := { pipeline with searchCounter := pipeline.searchCounter + 1 }
    if config.searchN ≤ searched.searchCounter then (searched.transitionNoTarget, zeroResult .noTarget)
    else (searched, zeroResult .searching)

variable [Libm]

def detectBest (config : VisionPipelineConfig) (pipeline : VisionPipeline) (frame : Frame) :
    Except VisionError (VisionPipeline × Option Detection) :=
  if shouldDetect config frame.frameId then do
    let best ← pickBestBox frame.detections frame.imgW frame.imgH config.desiredCx config.desiredCy
    .ok
      ({ pipeline with lastDetection := best, lastDetectionFrame := if best.isSome then some frame.frameId else none },
        best)
  else .ok (pipeline, none)

def processFrame (config : VisionPipelineConfig) (pipeline : VisionPipeline) (frame : Frame) :
    Except VisionError (VisionPipeline × TrackerResult) := do
  let (pipeline, detected) ← pipeline.detectBest config frame
  match pipeline.state with
  | .noTarget => .ok (pipeline.updateNoTarget detected)
  | .targetDetected => pipeline.updateTargetDetected config frame detected
  | .tracking => pipeline.updateTracking config frame detected
  | .searching => .ok (pipeline.updateSearching config detected)

/-- The results of a run. An exception ends it. -/
def results (config : VisionPipelineConfig) : VisionPipeline → List Frame → List TrackerResult
  | _, [] => []
  | pipeline, frame :: rest =>
    match pipeline.processFrame config frame with
    | .error _ => []
    | .ok (pipeline, result) => result :: results config pipeline rest

end VisionPipeline

end frames

/-! ## Results -/

theorem bind_eq_ok {ε α β : Type} {x : Except ε α} {f : α → Except ε β} {b : β} :
    (x >>= f) = .ok b ↔ ∃ a, x = .ok a ∧ f a = .ok b := by
  cases x with
  | error e => simp [bind, Except.bind]
  | ok a => simp [bind, Except.bind]

section results
variable [Fpu]

structure NormalizedBBox.Doubles (bbox : NormalizedBBox) : Prop where
  cx : IsDouble bbox.cx
  cy : IsDouble bbox.cy
  w : IsDouble bbox.w
  h : IsDouble bbox.h

/-- A result is made of floats, and says nothing of a target while nothing is tracked. -/
structure TrackerResult.Sound (result : TrackerResult) : Prop where
  bbox : result.bbox.Doubles
  conf : IsDouble result.conf
  idle : result.state ≠ .tracking → result = zeroResult result.state

theorem isDouble_clamp01 {value : Double} (double : IsDouble value) : IsDouble (clamp01 value) :=
  isDouble_pyMax isDouble_zero (isDouble_pyMin isDouble_one double)

theorem zeroResult_sound (state : VisState) : (zeroResult state).Sound :=
  ⟨⟨isDouble_zero, isDouble_zero, isDouble_zero, isDouble_zero⟩, isDouble_zero, fun _ => rfl⟩

theorem normalizeBboxXywh_doubles {box : PixelBBox} {imgW imgH : ℤ} {bbox : NormalizedBBox}
    (normalized : normalizeBboxXywh box imgW imgH = .ok bbox) : bbox.Doubles := by
  unfold normalizeBboxXywh at normalized
  split_ifs at normalized
  simp only [bind_eq_ok] at normalized
  obtain ⟨width, -, height, -, made⟩ := normalized
  cases made
  exact ⟨isDouble_clamp01 (isDouble_div _ _), isDouble_clamp01 (isDouble_div _ _), isDouble_clamp01 (isDouble_div _ _),
    isDouble_clamp01 (isDouble_div _ _)⟩

theorem trackingResult_sound {box : PixelBBox} {frame : Frame} {conf : Double} {result : TrackerResult}
    (double : IsDouble conf) (tracked : trackingResult box frame conf = .ok result) : result.Sound := by
  unfold trackingResult at tracked
  simp only [bind_eq_ok] at tracked
  obtain ⟨bbox, normalized, made⟩ := tracked
  cases made
  exact ⟨normalizeBboxXywh_doubles normalized, double, fun idle => absurd rfl idle⟩

/-- What a step of the machine owes: a confidence that is a float, and a sound result. -/
def Settled (after : VisionPipeline × TrackerResult) : Prop := IsDouble after.1.lastTrackingConf ∧ after.2.Sound

namespace VisionPipeline
variable {config : VisionPipelineConfig} {pipeline : VisionPipeline} {frame : Frame}
  {after : VisionPipeline × TrackerResult}

theorem updateNoTarget_settled (held : IsDouble pipeline.lastTrackingConf) (detected : Option Detection) :
    Settled (pipeline.updateNoTarget detected) := by
  cases detected with
  | none => exact ⟨held, zeroResult_sound _⟩
  | some detected => exact ⟨held, zeroResult_sound _⟩

theorem updateTargetDetected_settled (held : IsDouble pipeline.lastTrackingConf) {detected : Option Detection}
    (updated : pipeline.updateTargetDetected config frame detected = .ok after) : Settled after := by
  unfold updateTargetDetected at updated
  dsimp only at updated
  split at updated
  · split at updated
    · cases updated
      exact ⟨held, zeroResult_sound _⟩
    · cases updated
      exact ⟨isDouble_zero, zeroResult_sound _⟩
  · next current _ =>
    split at updated
    · simp only [bind_eq_ok] at updated
      obtain ⟨result, tracked, made⟩ := updated
      cases made
      have double := isDouble_clamp01 current.confidence_double
      exact ⟨double, trackingResult_sound double tracked⟩
    · cases updated
      exact ⟨held, zeroResult_sound _⟩

theorem followDetection_settled {detected : Detection}
    (followed : pipeline.followDetection config frame detected = .ok after) : Settled after := by
  unfold followDetection at followed
  simp only [bind_eq_ok] at followed
  obtain ⟨result, tracked, made⟩ := followed
  cases made
  have double := isDouble_clamp01 detected.confidence_double
  exact ⟨double, trackingResult_sound double tracked⟩

theorem decayed_double : IsDouble (pipeline.decayed config) := by
  unfold decayed
  dsimp only
  split
  · exact isDouble_pyMax (isDouble_mul _ _) config.trackerOnlyConfFloor_double
  · exact isDouble_mul _ _

theorem updateTracking_settled {detected : Option Detection}
    (updated : pipeline.updateTracking config frame detected = .ok after) : Settled after := by
  unfold updateTracking at updated
  cases detected with
  | some detected => exact followDetection_settled updated
  | none =>
    dsimp only at updated
    split at updated
    · simp only [bind_eq_ok] at updated
      obtain ⟨result, tracked, made⟩ := updated
      cases made
      exact ⟨decayed_double, trackingResult_sound decayed_double tracked⟩
    · cases updated
      exact ⟨isDouble_zero, zeroResult_sound _⟩

theorem updateSearching_settled (held : IsDouble pipeline.lastTrackingConf) (detected : Option Detection) :
    Settled (pipeline.updateSearching config detected) := by
  cases detected with
  | some detected => exact ⟨held, zeroResult_sound _⟩
  | none =>
    unfold updateSearching
    dsimp only
    split
    · exact ⟨isDouble_zero, zeroResult_sound _⟩
    · exact ⟨held, zeroResult_sound _⟩

variable [Libm]

theorem detectBest_keeps {detected : Option Detection} {found : VisionPipeline}
    (detects : pipeline.detectBest config frame = .ok (found, detected)) :
    found.state = pipeline.state ∧ found.lastTrackingConf = pipeline.lastTrackingConf := by
  unfold detectBest at detects
  split at detects
  · simp only [bind_eq_ok] at detects
    obtain ⟨best, -, made⟩ := detects
    cases made
    exact ⟨rfl, rfl⟩
  · cases detects
    exact ⟨rfl, rfl⟩

theorem processFrame_settled (held : IsDouble pipeline.lastTrackingConf)
    (processed : pipeline.processFrame config frame = .ok after) : Settled after := by
  unfold processFrame at processed
  rw [bind_eq_ok] at processed
  obtain ⟨⟨found, detected⟩, detects, updated⟩ := processed
  rw [← (detectBest_keeps detects).2] at held
  dsimp only at updated
  split at updated
  · cases updated
    exact updateNoTarget_settled held detected
  · exact updateTargetDetected_settled held updated
  · exact updateTracking_settled updated
  · cases updated
    exact updateSearching_settled held detected

theorem results_sound (held : IsDouble pipeline.lastTrackingConf) (frames : List Frame) :
    ∀ result ∈ pipeline.results config frames, result.Sound := by
  induction frames generalizing pipeline with
  | nil => exact List.forall_mem_nil _
  | cons frame rest ih =>
    unfold results
    split
    · exact List.forall_mem_nil _
    · next processed =>
      obtain ⟨later, sound⟩ := processFrame_settled held processed
      exact List.forall_mem_cons.2 ⟨sound, ih later⟩

end VisionPipeline
end results
end AotDrone.Vision
