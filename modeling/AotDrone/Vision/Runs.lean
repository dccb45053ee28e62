import AotDrone.Lib.Run
import AotDrone.Vision.Pipeline

/-! Runs of the vision state machine, whatever the detector and the tracker answer. -/

namespace AotDrone.Vision
open AotDrone.Lib AotDrone.Lib.Double AotDrone.Lib.Run

namespace VisionPipeline
variable [Fpu]

/-! ## One frame -/

section frame
variable [Libm] (config : VisionPipelineConfig) (pipeline : VisionPipeline) (frame : Frame)

/-- What the detector finds on this frame, if it is asked. -/
def detected : Option Detection := (pipeline.detectBest config frame).toOption.bind Prod.snd

/-- The pipeline once the detector has been asked, if it is asked on this frame. -/
def looked : VisionPipeline :=
  if shouldDetect config frame.frameId then
    let best := pipeline.detected config frame
    { pipeline with lastDetection := best, lastDetectionFrame := if best.isSome then some frame.frameId else none }
  else pipeline

/-- The detection of a frame, fresh or used again. Only `_update_target_detected` uses one again. -/
def detection : Option Detection :=
  if pipeline.state = .targetDetected ∧ shouldDetect config frame.frameId = false then
    pipeline.reuseLastDetection config frame.frameId
  else pipeline.detected config frame

theorem looked_field {α : Type} (field : VisionPipeline → α)
    (same : ∀ best seen, field { pipeline with lastDetection := best, lastDetectionFrame := seen } = field pipeline) :
    field (pipeline.looked config frame) = field pipeline := by
  unfold looked
  split
  · exact same _ _
  · rfl

@[simp] theorem looked_state : (pipeline.looked config frame).state = pipeline.state :=
  looked_field config pipeline frame state fun _ _ => rfl

@[simp] theorem looked_detectedHoldCounter :
    (pipeline.looked config frame).detectedHoldCounter = pipeline.detectedHoldCounter :=
  looked_field config pipeline frame detectedHoldCounter fun _ _ => rfl

@[simp] theorem looked_trackerActive : (pipeline.looked config frame).trackerActive = pipeline.trackerActive :=
  looked_field config pipeline frame trackerActive fun _ _ => rfl

@[simp] theorem looked_lastTrackerBbox : (pipeline.looked config frame).lastTrackerBbox = pipeline.lastTrackerBbox :=
  looked_field config pipeline frame lastTrackerBbox fun _ _ => rfl

@[simp] theorem looked_lastTrackingConf :
    (pipeline.looked config frame).lastTrackingConf = pipeline.lastTrackingConf :=
  looked_field config pipeline frame lastTrackingConf fun _ _ => rfl

@[simp] theorem looked_targetDetectedMissStreak :
    (pipeline.looked config frame).targetDetectedMissStreak = pipeline.targetDetectedMissStreak :=
  looked_field config pipeline frame targetDetectedMissStreak fun _ _ => rfl

theorem looked_idle (idle : shouldDetect config frame.frameId = false) : pipeline.looked config frame = pipeline := by
  unfold looked
  rw [idle]
  rfl

theorem detected_idle (idle : shouldDetect config frame.frameId = false) : pipeline.detected config frame = none := by
  unfold detected detectBest
  rw [idle]
  rfl

theorem detection_fresh (other : pipeline.state ≠ .targetDetected) :
    pipeline.detection config frame = pipeline.detected config frame := if_neg fun both => other both.1

variable {config pipeline frame} in
theorem detectBest_ok {found : VisionPipeline} {best : Option Detection}
    (detects : pipeline.detectBest config frame = .ok (found, best)) :
    found = pipeline.looked config frame ∧ best = pipeline.detected config frame := by
  have fresh : pipeline.detected config frame = best := by
    unfold detected
    rw [detects]
    rfl
  refine ⟨?_, fresh.symm⟩
  unfold looked
  rw [fresh]
  unfold detectBest at detects
  split at detects
  next asked =>
    rw [if_pos asked]
    obtain ⟨_, -, made⟩ := bind_eq_ok.1 detects
    cases made
    rfl
  next idle =>
    rw [if_neg idle]
    cases detects
    rfl

/-- What a frame that raises no exception does, a constructor for each way through `process_frame`. -/
inductive Moves : VisionPipeline → TrackerResult → Prop
  | idle (state : pipeline.state = .noTarget) (absent : pipeline.detection config frame = none) :
      Moves (pipeline.looked config frame) (zeroResult .noTarget)
  | found (detection : Detection) (state : pipeline.state = .noTarget ∨ pipeline.state = .searching)
      (present : pipeline.detection config frame = some detection) :
      Moves ((pipeline.looked config frame).enterTargetDetected detection) (zeroResult .targetDetected)
  | missed (state : pipeline.state = .targetDetected) (absent : pipeline.detection config frame = none)
      (within : pipeline.targetDetectedMissStreak + 1 ≤ config.targetDetectedGraceFrames) :
      Moves
        { pipeline.looked config frame with targetDetectedMissStreak := pipeline.targetDetectedMissStreak + 1 }
        (zeroResult .targetDetected)
  | lost (state : pipeline.state = .targetDetected) (absent : pipeline.detection config frame = none)
      (beyond : ¬ pipeline.targetDetectedMissStreak + 1 ≤ config.targetDetectedGraceFrames) :
      Moves (pipeline.looked config frame).transitionNoTarget (zeroResult .noTarget)
  | held (detection : Detection) (state : pipeline.state = .targetDetected)
      (present : pipeline.detection config frame = some detection)
      (short : ¬ config.detectHoldN ≤ pipeline.detectedHoldCounter + 1) :
      Moves
        { pipeline.looked config frame with
          targetDetectedMissStreak := 0
          detectedBox := some detection
          detectedHoldCounter := pipeline.detectedHoldCounter + 1 }
        (zeroResult .targetDetected)
  | locked (detection : Detection) (result : TrackerResult) (state : pipeline.state = .targetDetected)
      (present : pipeline.detection config frame = some detection)
      (long : config.detectHoldN ≤ pipeline.detectedHoldCounter + 1)
      (tracked : trackingResult detection.bbox frame (clamp01 detection.confidence) = .ok result) :
      Moves
        { pipeline.looked config frame with
          targetDetectedMissStreak := 0
          detectedBox := some detection
          detectedHoldCounter := pipeline.detectedHoldCounter + 1
          state := .tracking
          searchCounter := 0
          trackerActive := frame.initialized
          lastTrackingConf := clamp01 detection.confidence }
        result
  | followed (detection : Detection) (result : TrackerResult) (trackerActive : Bool)
      (state : pipeline.state = .tracking) (present : pipeline.detection config frame = some detection)
      (tracked : trackingResult detection.bbox frame (clamp01 detection.confidence) = .ok result) :
      Moves
        { pipeline.looked config frame with
          trackerActive
          lastTrackerBbox := if trackerActive then some detection.bbox else none
          lastTrackingConf := clamp01 detection.confidence }
        result
  | coasted (bbox : PixelBBox) (result : TrackerResult) (state : pipeline.state = .tracking)
      (absent : pipeline.detection config frame = none) (active : pipeline.trackerActive = true)
      (tracked : trackingResult bbox frame (pipeline.decayed config) = .ok result) :
      Moves
        { pipeline.looked config frame with lastTrackerBbox := some bbox, lastTrackingConf := pipeline.decayed config }
        result
  | strayed (state : pipeline.state = .tracking) (absent : pipeline.detection config frame = none) :
      Moves
        { pipeline.looked config frame with
          state := .searching
          searchCounter := 0
          detectedHoldCounter := 0
          detectedBox := none
          lastTrackerBbox := none
          lastTrackingConf := 0
          trackerActive := false }
        (zeroResult .searching)
  | searched (counter : Nat) (state : pipeline.state = .searching) (absent : pipeline.detection config frame = none) :
      Moves { pipeline.looked config frame with searchCounter := counter } (zeroResult .searching)
  | gaveUp (state : pipeline.state = .searching) (absent : pipeline.detection config frame = none) :
      Moves (pipeline.looked config frame).transitionNoTarget (zeroResult .noTarget)

variable {config pipeline frame} {after : VisionPipeline} {result : TrackerResult}

theorem detection_inside (state : pipeline.state = .targetDetected) :
    (if (pipeline.detected config frame).isNone && !shouldDetect config frame.frameId then
        (pipeline.looked config frame).reuseLastDetection config frame.frameId
      else pipeline.detected config frame) = pipeline.detection config frame := by
  unfold detection
  rw [state]
  cases asked : shouldDetect config frame.frameId with
  | true => simp
  | false => simp [detected_idle _ _ _ asked, looked_idle _ _ _ asked]

theorem updateTargetDetected_moves (state : pipeline.state = .targetDetected)
    (updated : (pipeline.looked config frame).updateTargetDetected config frame (pipeline.detected config frame) =
      .ok (after, result)) : pipeline.Moves config frame after result := by
  unfold updateTargetDetected at updated
  rw [detection_inside state] at updated
  dsimp only at updated
  cases seen : pipeline.detection config frame with
  | none =>
    rw [seen] at updated
    dsimp only at updated
    rw [looked_targetDetectedMissStreak] at updated
    split at updated
    next within =>
      cases updated
      exact .missed state seen within
    next beyond =>
      cases updated
      exact .lost state seen beyond
  | some detection =>
    rw [seen] at updated
    dsimp only at updated
    rw [looked_detectedHoldCounter] at updated
    split at updated
    next long =>
      obtain ⟨_, tracked, made⟩ := bind_eq_ok.1 updated
      cases made
      exact .locked detection result state seen long tracked
    next short =>
      cases updated
      exact .held detection state seen short

theorem updateTracking_moves (state : pipeline.state = .tracking)
    (updated : (pipeline.looked config frame).updateTracking config frame (pipeline.detected config frame) =
      .ok (after, result)) : pipeline.Moves config frame after result := by
  have fresh := detection_fresh config pipeline frame (by rw [state]; exact VisState.noConfusion)
  unfold updateTracking at updated
  cases seen : pipeline.detected config frame with
  | some detection =>
    rw [seen] at updated
    obtain ⟨_, tracked, made⟩ := bind_eq_ok.1 updated
    cases made
    exact .followed detection result _ state (fresh.trans seen) tracked
  | none =>
    rw [seen] at updated
    dsimp only at updated
    split at updated
    next bbox answer =>
      have active : pipeline.trackerActive = true := by
        rw [← looked_trackerActive config pipeline frame]
        by_contra off
        rw [if_neg off] at answer
        cases answer
      obtain ⟨_, tracked, made⟩ := bind_eq_ok.1 updated
      have same : (pipeline.looked config frame).decayed config = pipeline.decayed config := by
        unfold decayed
        rw [looked_lastTrackingConf]
      rw [same] at tracked made
      cases made
      exact .coasted bbox result state (fresh.trans seen) active tracked
    next =>
      cases updated
      exact .strayed state (fresh.trans seen)

theorem processFrame_moves (processed : pipeline.processFrame config frame = .ok (after, result)) :
    pipeline.Moves config frame after result := by
  unfold processFrame at processed
  obtain ⟨⟨found, best⟩, detects, updated⟩ := bind_eq_ok.1 processed
  obtain ⟨rfl, rfl⟩ := detectBest_ok detects
  dsimp only at updated
  rw [looked_state] at updated
  cases state : pipeline.state with
  | noTarget =>
    have fresh := detection_fresh config pipeline frame (by rw [state]; exact VisState.noConfusion)
    rw [state] at updated
    cases seen : pipeline.detected config frame with
    | none =>
      rw [seen] at updated
      cases updated
      exact .idle state (fresh.trans seen)
    | some detection =>
      rw [seen] at updated
      cases updated
      exact .found detection (.inl state) (fresh.trans seen)
  | targetDetected =>
    rw [state] at updated
    exact updateTargetDetected_moves state updated
  | tracking =>
    rw [state] at updated
    exact updateTracking_moves state updated
  | searching =>
    have fresh := detection_fresh config pipeline frame (by rw [state]; exact VisState.noConfusion)
    rw [state] at updated
    cases seen : pipeline.detected config frame with
    | some detection =>
      rw [seen] at updated
      cases updated
      exact .found detection (.inr state) (fresh.trans seen)
    | none =>
      rw [seen] at updated
      unfold updateSearching at updated
      dsimp only at updated
      split at updated
      next =>
        cases updated
        exact .gaveUp state (fresh.trans seen)
      next =>
        cases updated
        exact .searched _ state (fresh.trans seen)

end frame

/-! ## Runs -/

/-- A frame that `process_frame` has returned for. -/
structure Tick [Libm] (config : VisionPipelineConfig) where
  before : VisionPipeline
  frame : Frame
  after : VisionPipeline
  result : TrackerResult
  returned : before.processFrame config frame = .ok (after, result)

section runs
variable [Libm] (config : VisionPipelineConfig)

def tick (pipeline : Option VisionPipeline) (frame : Frame) : Option (Tick config) :=
  pipeline.bind fun before =>
    match returned : before.processFrame config frame with
    | .error _ => none
    | .ok (after, result) => some { before, frame, after, result, returned }

/-- An exception ends the process. -/
def step (pipeline : Option VisionPipeline) (frame : Frame) : Option VisionPipeline :=
  (tick config pipeline frame).map Tick.after

def ticks (past : Past (Option VisionPipeline) Frame) : List (Tick config) :=
  past.filterMap fun earlier => tick config earlier.1 earlier.2

variable {config} {t : Tick config}

theorem tick_returned : tick config (some t.before) t.frame = some t := by
  obtain ⟨before, frame, after, result, returned⟩ := t
  unfold tick
  rw [Option.bind_some]
  split
  next failed => cases returned.symm.trans failed
  next later answer same =>
    cases returned.symm.trans same
    rfl

theorem tick_some {pipeline : Option VisionPipeline} {frame : Frame} (ticks : tick config pipeline frame = some t) :
    pipeline = some t.before ∧ frame = t.frame := by
  unfold tick at ticks
  obtain ⟨before, found, ticks⟩ := Option.bind_eq_some_iff.1 ticks
  split at ticks
  next => cases ticks
  next =>
    cases ticks
    exact ⟨found, rfl⟩

theorem ticks_append {past : Past (Option VisionPipeline) Frame} {pipeline : Option VisionPipeline} {frame : Frame}
    (ticked : tick config pipeline frame = some t) :
    ticks config (past ++ [(pipeline, frame)]) = ticks config past ++ [t] := by
  unfold ticks
  rw [List.filterMap_append, List.filterMap_cons, ticked]
  rfl

/-- An invariant that a tick keeps holds where a step leads. -/
theorem step_inv {Inv : List (Tick config) → VisionPipeline → Prop} {past : Past (Option VisionPipeline) Frame}
    {pipeline : Option VisionPipeline} {frame : Frame}
    (keep : ∀ t ∈ tick config pipeline frame, Inv (ticks config past ++ [t]) t.after) :
    ∀ after ∈ step config pipeline frame, Inv (ticks config (past ++ [(pipeline, frame)])) after := by
  intro after reached
  obtain ⟨t, ticked, rfl⟩ := Option.map_eq_some_iff.1 reached
  rw [ticks_append ticked]
  exact keep t ticked

/-- The invariant rule for runs of the pipeline. -/
theorem always_of_inv (Inv : List (Tick config) → VisionPipeline → Prop)
    {Good : List (Tick config) → Tick config → Prop} (use : ∀ past t, Inv past t.before → Good past t)
    (keep : ∀ past t, Inv past t.before → Inv (past ++ [t]) t.after) (start : Inv [] {}) (frames : List Frame) :
    Always (step config) (fun past pipeline frame => ∀ t ∈ tick config pipeline frame, Good (ticks config past) t) []
      (some {}) frames := by
  apply Always.of_forall fun past pipeline => ∀ p ∈ pipeline, Inv (ticks config past) p
  · intro past pipeline frame inv t ticked
    exact use _ t (inv t.before (tick_some ticked).1)
  · exact fun past pipeline frame inv => step_inv fun t ticked => keep _ t (inv t.before (tick_some ticked).1)
  · rintro _ ⟨⟩
    exact start

/-- Two properties of a tick that agree where the invariant holds agree on whole runs. -/
theorem always_iff_of_inv (Inv : List (Tick config) → VisionPipeline → Prop)
    {Good Fine : List (Tick config) → Tick config → Prop}
    (agree : ∀ past t, Inv past t.before → (Good past t ↔ Fine past t))
    (keep : ∀ past t, Inv past t.before → Fine past t → Inv (past ++ [t]) t.after) (start : Inv [] {})
    (frames : List Frame) :
    Always (step config) (fun past pipeline frame => ∀ t ∈ tick config pipeline frame, Good (ticks config past) t) []
        (some {}) frames ↔
      Always (step config) (fun past pipeline frame => ∀ t ∈ tick config pipeline frame, Fine (ticks config past) t)
        [] (some {}) frames := by
  apply Always.iff_of_invariant (fun past pipeline => ∀ p ∈ pipeline, Inv (ticks config past) p)
    (D := fun _ _ _ => True)
  · intro past pipeline frame inv _
    exact forall₂_congr fun t ticked => agree _ t (inv t.before (tick_some ticked).1)
  · exact fun past pipeline frame inv _ fine =>
      step_inv fun t ticked => keep _ t (inv t.before (tick_some ticked).1) (fine t ticked)
  · rintro _ ⟨⟩
    exact start
  · exact Always.true _ _ _

end runs

/-! ## The fields of each state -/

section invariants
variable [Libm] {config : VisionPipelineConfig}

/-- The frame has a detection, fresh or used again. -/
def Tick.sees (t : Tick config) : Bool := (t.before.detection config t.frame).isSome

def Tick.enters (t : Tick config) : Bool :=
  decide (t.before.state ≠ .targetDetected) && decide (t.after.state = .targetDetected)

/-- The ticks since the last entry into TARGET_DETECTED. -/
def SinceEntry (past since : List (Tick config)) : Prop :=
  ∃ earlier entry, past = earlier ++ entry :: since ∧ entry.enters = true ∧ ∀ t ∈ since, t.enters = false

omit [Libm] in
/-- What is cached of a track goes with the track. -/
structure TrackKept (pipeline : VisionPipeline) : Prop where
  active : pipeline.trackerActive = true → pipeline.state = .tracking
  bbox : pipeline.lastTrackerBbox.isSome = true → pipeline.trackerActive = true
  conf : pipeline.state ≠ .tracking → pipeline.lastTrackingConf = 0

structure MachineKept (past : List (Tick config)) (pipeline : VisionPipeline) : Prop extends TrackKept pipeline where
  held : pipeline.state = .tracking →
    ∃ since, SinceEntry past since ∧ max 1 config.detectHoldN ≤ since.countP Tick.sees

/-- What holds once `process_frame` has returned. -/
structure FrameKept (past : List (Tick config)) (t : Tick config) : Prop where
  state : t.result.state = t.after.state
  idle : t.result.state ≠ .tracking → t.result.bbox = {} ∧ t.result.conf = 0 ∧ t.result.trackId = 0
  machine : MachineKept (past ++ [t]) t.after

structure MachineInv (past : List (Tick config)) (pipeline : VisionPipeline) : Prop extends
    MachineKept past pipeline where
  counted : pipeline.state = .targetDetected →
    ∃ since, SinceEntry past since ∧ pipeline.detectedHoldCounter = since.countP Tick.sees

variable {past since : List (Tick config)} {t : Tick config}

theorem SinceEntry.append (last : SinceEntry past since) (stays : t.enters = false) :
    SinceEntry (past ++ [t]) (since ++ [t]) := by
  obtain ⟨earlier, entry, rfl, entered, later⟩ := last
  refine ⟨earlier, entry, by simp, entered, ?_⟩
  intro u member
  rcases List.mem_append.1 member with before | now
  · exact later u before
  · rw [List.mem_singleton.1 now]
    exact stays

theorem SinceEntry.entry (enters : t.enters = true) : SinceEntry (past ++ [t]) [] :=
  ⟨past, t, rfl, enters, List.forall_mem_nil _⟩

omit [Libm] in
theorem trackingResult_state {box : PixelBBox} {frame : Frame} {conf : Double} {result : TrackerResult}
    (tracked : trackingResult box frame conf = .ok result) : result.state = .tracking ∧ result.conf = conf := by
  obtain ⟨bbox, -, made⟩ := bind_eq_ok.1 tracked
  cases made
  exact ⟨rfl, rfl⟩

/-- Where a frame with a detection leads: into TARGET_DETECTED, or into TRACKING once the detection has been held. -/
theorem moves_sees {pipeline after : VisionPipeline} {frame : Frame} {result : TrackerResult} {detection : Detection}
    (present : pipeline.detection config frame = some detection) (moves : pipeline.Moves config frame after result) :
    (pipeline.state = .noTarget ∨ pipeline.state = .searching ∨
        pipeline.state = .targetDetected ∧ ¬ config.detectHoldN ≤ pipeline.detectedHoldCounter + 1) ∧
        after.state = .targetDetected ∧ result.state = .targetDetected ∨
      (pipeline.state = .tracking ∨
        pipeline.state = .targetDetected ∧ config.detectHoldN ≤ pipeline.detectedHoldCounter + 1) ∧
        after.state = .tracking ∧ result.state = .tracking := by
  have same := looked_state config pipeline frame
  have seen (absent : pipeline.detection config frame = none) : False :=
    Option.some_ne_none _ (present.symm.trans absent)
  cases moves with
  | idle state absent => exact (seen absent).elim
  | missed state absent within => exact (seen absent).elim
  | lost state absent beyond => exact (seen absent).elim
  | coasted bbox result state absent active tracked => exact (seen absent).elim
  | strayed state absent => exact (seen absent).elim
  | searched counter state absent => exact (seen absent).elim
  | gaveUp state absent => exact (seen absent).elim
  | found detection state present => exact .inl ⟨state.imp_right .inl, rfl, rfl⟩
  | held detection state present short => exact .inl ⟨.inr (.inr ⟨state, short⟩), same.trans state, rfl⟩
  | locked detection result state present long tracked =>
    exact .inr ⟨.inr ⟨state, long⟩, rfl, (trackingResult_state tracked).1⟩
  | followed detection result trackerActive state present tracked =>
    exact .inr ⟨.inl state, same.trans state, (trackingResult_state tracked).1⟩

/-- A tick ends in the state it reports, and reports nothing of a target unless it tracks one. -/
theorem moves_reported {pipeline after : VisionPipeline} {frame : Frame} {result : TrackerResult}
    (moves : pipeline.Moves config frame after result) :
    result.state = after.state ∧ (result.state ≠ .tracking → result = zeroResult result.state) := by
  cases moves with
  | idle state absent =>
    rw [looked_state]
    exact ⟨state.symm, fun _ => rfl⟩
  | missed state absent within => exact ⟨state.symm.trans (looked_state config pipeline frame).symm, fun _ => rfl⟩
  | held detection state present short =>
    exact ⟨state.symm.trans (looked_state config pipeline frame).symm, fun _ => rfl⟩
  | searched counter state absent => exact ⟨state.symm.trans (looked_state config pipeline frame).symm, fun _ => rfl⟩
  | found detection state present => exact ⟨rfl, fun _ => rfl⟩
  | lost state absent beyond => exact ⟨rfl, fun _ => rfl⟩
  | strayed state absent => exact ⟨rfl, fun _ => rfl⟩
  | gaveUp state absent => exact ⟨rfl, fun _ => rfl⟩
  | locked detection result state present long tracked =>
    have tracks := (trackingResult_state tracked).1
    exact ⟨tracks, fun idle => absurd tracks idle⟩
  | followed detection result trackerActive state present tracked =>
    have tracks := (trackingResult_state tracked).1
    exact ⟨tracks.trans (state.symm.trans (looked_state config pipeline frame).symm), fun idle => absurd tracks idle⟩
  | coasted bbox result state absent active tracked =>
    have tracks := (trackingResult_state tracked).1
    exact ⟨tracks.trans (state.symm.trans (looked_state config pipeline frame).symm), fun idle => absurd tracks idle⟩

variable {pipeline after : VisionPipeline} {frame : Frame} {result : TrackerResult}

omit [Libm] in
theorem TrackKept.idle (kept : TrackKept pipeline) (idle : pipeline.state ≠ .tracking) :
    pipeline.trackerActive = false ∧ pipeline.lastTrackerBbox = none ∧ pipeline.lastTrackingConf = 0 := by
  have off : pipeline.trackerActive = false := Bool.eq_false_iff.2 fun on => idle (kept.active on)
  refine ⟨off, ?_, kept.conf idle⟩
  cases cached : pipeline.lastTrackerBbox with
  | none => rfl
  | some bbox =>
    have on := kept.bbox (by rw [cached]; rfl)
    rw [off] at on
    cases on

omit [Libm] in
theorem TrackKept.of_idle (off : pipeline.trackerActive = false) (bbox : pipeline.lastTrackerBbox = none)
    (conf : pipeline.lastTrackingConf = 0) : TrackKept pipeline where
  active on := by
    rw [off] at on
    cases on
  bbox some := by
    rw [bbox] at some
    cases some
  conf _ := conf

omit [Libm] in
theorem TrackKept.stays (kept : TrackKept pipeline) (idle : pipeline.state ≠ .tracking)
    (active : after.trackerActive = pipeline.trackerActive) (bbox : after.lastTrackerBbox = pipeline.lastTrackerBbox)
    (conf : after.lastTrackingConf = pipeline.lastTrackingConf) : TrackKept after := by
  obtain ⟨off, none, zero⟩ := kept.idle idle
  exact .of_idle (active.trans off) (bbox.trans none) (conf.trans zero)

theorem TrackKept.moves (kept : TrackKept pipeline) (moves : pipeline.Moves config frame after result) :
    TrackKept after := by
  have active := looked_trackerActive config pipeline frame
  have cached := looked_lastTrackerBbox config pipeline frame
  have conf := looked_lastTrackingConf config pipeline frame
  cases moves with
  | idle state absent => exact kept.stays (by simp [state]) active cached conf
  | missed state absent within => exact kept.stays (by simp [state]) active cached conf
  | held detection state present short => exact kept.stays (by simp [state]) active cached conf
  | searched counter state absent => exact kept.stays (by simp [state]) active cached conf
  | found detection state present =>
    exact kept.stays (by rcases state with state | state <;> simp [state]) active cached conf
  | lost state absent beyond => exact .of_idle rfl rfl rfl
  | strayed state absent => exact .of_idle rfl rfl rfl
  | gaveUp state absent => exact .of_idle rfl rfl rfl
  | locked detection result state present long tracked =>
    obtain ⟨-, none, -⟩ := kept.idle (by simp [state])
    refine ⟨fun _ => rfl, ?_, fun idle => absurd rfl idle⟩
    intro some
    change (pipeline.looked config frame).lastTrackerBbox.isSome = true at some
    rw [cached, none] at some
    cases some
  | followed detection result trackerActive state present tracked =>
    have still := (looked_state config pipeline frame).trans state
    refine ⟨fun _ => still, ?_, fun idle => absurd still idle⟩
    cases trackerActive with
    | true => exact fun _ => rfl
    | false => exact fun none => absurd none Bool.false_ne_true
  | coasted bbox result state absent on tracked =>
    have still := (looked_state config pipeline frame).trans state
    exact ⟨fun _ => still, fun _ => active.trans on, fun idle => absurd still idle⟩

theorem Tick.enters_of_idle (idle : t.after.state ≠ .targetDetected) : t.enters = false := by
  unfold Tick.enters
  rw [decide_eq_false idle, Bool.and_false]

theorem Tick.enters_of_inside (inside : t.before.state = .targetDetected) : t.enters = false := by
  unfold Tick.enters
  rw [decide_eq_false (not_not.2 inside), Bool.false_and]

theorem countP_sees_append (since : List (Tick config)) (t : Tick config) :
    (since ++ [t]).countP Tick.sees = since.countP Tick.sees + if t.sees then 1 else 0 := by
  rw [List.countP_append, List.countP_singleton]

/-- While the target is tracked, the frames of the hold stay counted. -/
theorem MachineInv.tracks (inv : MachineInv past t.before) (before : t.before.state = .tracking)
    (after : t.after.state ≠ .targetDetected) :
    ∃ since, SinceEntry (past ++ [t]) since ∧ max 1 config.detectHoldN ≤ since.countP Tick.sees := by
  obtain ⟨since, last, long⟩ := inv.held before
  refine ⟨since ++ [t], last.append (t.enters_of_idle after), long.trans ?_⟩
  rw [countP_sees_append]
  exact Nat.le_add_right _ _

/-- What a frame does to the state and to the count of the hold. -/
inductive HoldMove (config : VisionPipelineConfig) (before after : VisionPipeline) (seen : Bool) : Prop
  | leaves (away : after.state = .noTarget ∨ after.state = .searching)
  | enters (outside : before.state ≠ .targetDetected) (inside : after.state = .targetDetected)
      (counter : after.detectedHoldCounter = 0)
  | waits (held : before.state = .targetDetected) (inside : after.state = .targetDetected)
      (counter : after.detectedHoldCounter = before.detectedHoldCounter + if seen then 1 else 0)
  | locks (held : before.state = .targetDetected) (tracks : after.state = .tracking) (present : seen = true)
      (long : config.detectHoldN ≤ before.detectedHoldCounter + 1)
  | tracks (locked : before.state = .tracking) (tracks : after.state = .tracking)

theorem moves_hold (moves : pipeline.Moves config frame after result) :
    HoldMove config pipeline after (pipeline.detection config frame).isSome := by
  have same := looked_state config pipeline frame
  have counter := looked_detectedHoldCounter config pipeline frame
  cases moves with
  | idle state absent => exact .leaves (.inl (same.trans state))
  | lost state absent beyond => exact .leaves (.inl rfl)
  | gaveUp state absent => exact .leaves (.inl rfl)
  | strayed state absent => exact .leaves (.inr rfl)
  | searched counter state absent => exact .leaves (.inr (same.trans state))
  | found detection state present =>
    exact .enters (by rcases state with state | state <;> simp [state]) rfl rfl
  | missed state absent within =>
    rw [absent]
    exact .waits state (same.trans state) counter
  | held detection state present short =>
    rw [present]
    exact .waits state (same.trans state) rfl
  | locked detection result state present long tracked =>
    rw [present]
    exact .locks state rfl rfl long
  | followed detection result trackerActive state present tracked => exact .tracks state (same.trans state)
  | coasted bbox result state absent active tracked => exact .tracks state (same.trans state)

theorem MachineInv.held_append (inv : MachineInv past t.before) (tracks : t.after.state = .tracking) :
    ∃ since, SinceEntry (past ++ [t]) since ∧ max 1 config.detectHoldN ≤ since.countP Tick.sees := by
  have outside : t.after.state ≠ .targetDetected := by simp [tracks]
  cases moves_hold (processFrame_moves t.returned) with
  | leaves away => simp [tracks] at away
  | enters _ inside counter => exact absurd inside outside
  | waits held inside counter => exact absurd inside outside
  | locks held tracks present long =>
    obtain ⟨since, last, counted⟩ := inv.counted held
    refine ⟨_, last.append (Tick.enters_of_idle outside), ?_⟩
    rw [countP_sees_append, ← counted, Tick.sees, present]
    exact max_le (Nat.le_add_left 1 _) long
  | tracks locked tracks => exact inv.tracks locked outside

theorem MachineInv.counted_append (inv : MachineInv past t.before) (inside : t.after.state = .targetDetected) :
    ∃ since, SinceEntry (past ++ [t]) since ∧ t.after.detectedHoldCounter = since.countP Tick.sees := by
  cases moves_hold (processFrame_moves t.returned) with
  | leaves away => simp [inside] at away
  | locks held tracks present long => exact VisState.noConfusion (tracks.symm.trans inside)
  | tracks locked tracks => exact VisState.noConfusion (tracks.symm.trans inside)
  | enters outside _ counter =>
    refine ⟨[], .entry ?_, counter⟩
    rw [Tick.enters, decide_eq_true outside, decide_eq_true inside]
    rfl
  | waits held _ counter =>
    obtain ⟨since, last, counted⟩ := inv.counted held
    refine ⟨_, last.append (Tick.enters_of_inside held), ?_⟩
    rw [countP_sees_append, ← counted]
    exact counter

theorem MachineInv.append (inv : MachineInv past t.before) : MachineInv (past ++ [t]) t.after where
  toTrackKept := inv.toTrackKept.moves (processFrame_moves t.returned)
  held := inv.held_append
  counted := inv.counted_append

/-- What every frame keeps, along every run. -/
theorem frames_kept (config : VisionPipelineConfig) (frames : List Frame) :
    Always (step config) (fun past pipeline frame => ∀ t ∈ tick config pipeline frame, FrameKept (ticks config past) t)
      [] (some {}) frames := by
  apply always_of_inv MachineInv
  · intro past t inv
    obtain ⟨state, idle⟩ := moves_reported (processFrame_moves t.returned)
    refine ⟨state, ?_, inv.append.toMachineKept⟩
    intro other
    rw [idle other]
    exact ⟨rfl, rfl, rfl⟩
  · exact fun past t inv => inv.append
  · have start : TrackKept ({} : VisionPipeline) := .of_idle rfl rfl rfl
    exact ⟨⟨start, nofun⟩, nofun⟩

end invariants
end VisionPipeline
end AotDrone.Vision
