import AotDrone.Vision.Pipeline

/-! The loop of the vision process (`run_loop` of `main.py`) with its two sources of results, the pipeline and the
synthetic patterns (`patterns.py`). What it does to the outside is kept as a list. -/

namespace AotDrone.Vision
open AotDrone.Lib AotDrone.Lib.Double AotDrone.Json

/-! ## Patterns -/

/-- `math.sin` -/
class Sine where
  sin : Double → Double

def mathPi : Double := fin (884279719003555 / 2 ^ 48)

/-- `PATTERN_CHOICES` -/
inductive Pattern where
  | none
  | sweep
  | lose
  | reacquire
  deriving DecidableEq

namespace Pattern
variable [Fpu] [Sine]

def sweepBbox (frameId : ℤ) : NormalizedBBox :=
  let idx := (max 1 frameId - 1) % 120
  let phase := fin idx / 119
  let cx := 0.15 + 0.70 * phase
  let cy := 0.5 + 0.18 * Sine.sin (2 * mathPi * phase)
  { cx := clamp01 cx, cy := clamp01 cy, w := 0.24, h := 0.3 }

def tracking (frameId : ℤ) (confidence : Double) : TrackerResult :=
  { state := .tracking, bbox := sweepBbox frameId, conf := clamp01 confidence, trackId := 1 }

def detected (frameId : ℤ) (confidence : Double) : TrackerResult :=
  { state := .targetDetected, bbox := sweepBbox frameId, conf := clamp01 confidence, trackId := 1 }

def zeroResult (state : VisState) : TrackerResult := { state }

def loseResult (frameId : ℤ) : TrackerResult :=
  let idx := (max 1 frameId - 1) % 160
  if idx < 70 then tracking frameId 0.9
  else if idx < 100 then zeroResult .searching
  else if idx < 130 then zeroResult .noTarget
  else detected frameId 0.7

def reacquireResult (frameId : ℤ) : TrackerResult :=
  let idx := (max 1 frameId - 1) % 180
  if idx < 50 then zeroResult .noTarget
  else if idx < 80 then detected frameId 0.65
  else if idx < 140 then tracking frameId 0.93
  else if idx < 165 then zeroResult .searching
  else detected frameId 0.72

def update (mode : Pattern) (frameId : ℤ) : TrackerResult :=
  match mode with
  | .sweep => tracking frameId 0.92
  | .lose => loseResult frameId
  | .reacquire => reacquireResult frameId
  | .none => zeroResult .noTarget

end Pattern

/-! ## The loop -/

section types
variable [Fpu]

/-- What `parse_args` lets pass, as far as the loop reads it, and whether the source is live. -/
structure VisionConfig where
  visHz : Double := 20
  frameFps : Double := 10
  jpegQuality : ℤ := 80
  noVisUdp : Bool := false
  noFramePush : Bool := false
  preview : Bool := false
  maxFrames : Option ℤ := Option.none
  isLive : Bool := true
  visHz_nonneg : ¬ visHz < 0 := by decide
  frameFps_nonneg : ¬ frameFps < 0 := by decide
  jpegQuality_range : 1 ≤ jpegQuality ∧ jpegQuality ≤ 100 := by decide
  maxFrames_pos : ∀ n ∈ maxFrames, 0 < n := by decide

/-- Where the results come from. -/
inductive ResultSource where
  | detect (config : VisionPipelineConfig) (pipeline : VisionPipeline)
  | pattern (mode : Pattern)

/-- A frame that `source.read` returns: its size and its variance, which may fail; what the detector and the tracker
answer when they are asked about it; the time after it has been processed; and whether the preview is told to quit. -/
structure Reading where
  imgW : ℤ
  imgH : ℤ
  variance : Option Double
  detections : List Detection
  initialized : Bool
  updated : Bool × Option PixelBBox
  now : Double
  quits : Bool := false

/-- What the publisher is given. -/
structure VisReport where
  ts : Double
  result : TrackerResult
  frameId : ℤ
  imgWh : ℤ × ℤ

inductive LoopEffect where
  | blackFrameWarning (consecutive : ℕ) (frameId : ℤ)
  | pushFrame (frameId : ℤ) (quality : ℤ)
  | publish (report : VisReport)
  | send (payload : Value)

inductive LoopPhase where
  | running
  | ended
  | raised
  deriving DecidableEq

structure RunLoop where
  source : ResultSource
  nextVisEmit : Double := 0
  nextFramePush : Double := 0
  frameId : ℤ := 0
  emittedCount : ℕ := 0
  visSeq : ℕ := 1
  consecutiveBlackFrames : ℕ := 0
  blackFrameWarnEmitted : Bool := false
  effects : List LoopEffect := []
  phase : LoopPhase := .running

end types

def blackFrameWarnAfter : ℕ := 30

section loop
variable [Fpu]

def VisionConfig.visInterval (config : VisionConfig) : Double := if 0 < config.visHz then 1 / config.visHz else 0

def VisionConfig.frameInterval (config : VisionConfig) : Double := if 0 < config.frameFps then 1 / config.frameFps else 0

def Reading.frame (reading : Reading) (frameId : ℤ) : Frame where
  frameId
  imgW := reading.imgW
  imgH := reading.imgH
  detections := reading.detections
  initialized := reading.initialized
  updated := reading.updated

/-- Below `_BLACK_FRAME_VAR_THRESHOLD`, and a number. -/
def Reading.isLowVariance (reading : Reading) : Bool :=
  match reading.variance with
  | none => false
  | some variance => decide (variance ≠ nan) && decide (variance < 1)

def ResultSource.result [Libm] [Sine] (source : ResultSource) (frameId : ℤ) (reading : Reading) :
    Except VisionError (ResultSource × TrackerResult) :=
  match source with
  | .detect config pipeline => do
    let (pipeline, result) ← pipeline.processFrame config (reading.frame frameId)
    .ok (.detect config pipeline, result)
  | .pattern mode => .ok (.pattern mode, mode.update frameId)

namespace RunLoop

def checkBlackFrame (loop : RunLoop) (reading : Reading) : RunLoop :=
  if reading.isLowVariance then
    let consecutiveBlackFrames := loop.consecutiveBlackFrames + 1
    if blackFrameWarnAfter ≤ consecutiveBlackFrames ∧ ¬ loop.blackFrameWarnEmitted then
      { loop with
        consecutiveBlackFrames
        blackFrameWarnEmitted := true
        effects := loop.effects ++ [.blackFrameWarning consecutiveBlackFrames loop.frameId] }
    else { loop with consecutiveBlackFrames }
  else { loop with consecutiveBlackFrames := 0, blackFrameWarnEmitted := false }

variable (config : VisionConfig)

def pushFrame (loop : RunLoop) (now : Double) : RunLoop :=
  if ¬ config.noFramePush ∧ (config.frameInterval = 0 ∨ loop.nextFramePush ≤ now) then
    { loop with
      effects := loop.effects ++ [.pushFrame loop.frameId config.jpegQuality]
      nextFramePush := if 0 < config.frameInterval then now + config.frameInterval else loop.nextFramePush }
  else loop

/-- The datagram of a result, when there is a sender. -/
def sendVis (loop : RunLoop) (result : TrackerResult) (now : Double) : RunLoop :=
  if config.noVisUdp then loop
  else
    { loop with
      effects := loop.effects ++ [.send (buildVisPayload loop.visSeq now result.state result.bbox result.conf)]
      visSeq := loop.visSeq + 1 }

def emit (loop : RunLoop) (reading : Reading) (result : TrackerResult) : RunLoop :=
  let now := reading.now
  if config.visInterval = 0 ∨ loop.nextVisEmit ≤ now then
    let report : VisReport := { ts := now, result, frameId := loop.frameId, imgWh := (reading.imgW, reading.imgH) }
    let published :=
      { loop with effects := loop.effects ++ [LoopEffect.publish report], emittedCount := loop.emittedCount + 1 }
    let sent := published.sendVis config result now
    { sent with nextVisEmit := if 0 < config.visInterval then now + config.visInterval else sent.nextVisEmit }
  else loop

/-- The preview is told to quit, or this was the last frame. -/
def stops (frameId : ℤ) (reading : Reading) : Bool :=
  config.preview && reading.quits || config.maxFrames.any (decide <| · ≤ frameId)

variable [Libm] [Sine]

def takeFrame (loop : RunLoop) (reading : Reading) : RunLoop :=
  let loop := { loop with frameId := loop.frameId + 1 }
  let loop := loop.checkBlackFrame reading
  match loop.source.result loop.frameId reading with
  | .error _ => { loop with phase := .raised }
  | .ok (source, result) =>
    let loop := ({ loop with source }.pushFrame config reading.now).emit config reading result
    if stops config loop.frameId reading then { loop with phase := .ended } else loop

/-- One turn of the loop, of what `source.read` returns. -/
def step (loop : RunLoop) (read : Option Reading) : RunLoop :=
  match loop.phase with
  | .ended | .raised => loop
  | .running =>
    match read with
    | none => if config.isLive then loop else { loop with phase := .ended }
    | some reading => loop.takeFrame config reading

def run (source : ResultSource) (reads : List (Option Reading)) : RunLoop := reads.foldl (step config) { source }

end RunLoop
end loop
end AotDrone.Vision
