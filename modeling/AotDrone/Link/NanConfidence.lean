import AotDrone.Link.TrackConfidence
import AotDrone.Link.VisDatagram

/-! A detection whose confidence is not a number: `clamp01` of the vision process makes it 1, where `clamp_unit`
of the flight controller would make it 0. -/

namespace AotDrone.Link
open AotDrone.Lib AotDrone.Lib.Double AotDrone.Lib.Run AotDrone.Json AotDrone.Backend AotDrone.Vision AotDrone.Fc
open AotDrone.Vision.VisionPipeline

theorem clamp01_nan : clamp01 nan = 1 := by decide

section moves
variable [Fpu] [Libm] {config : VisionPipelineConfig} {pipeline after : VisionPipeline} {frame : Frame}
  {result : TrackerResult}

variable (config pipeline) in
/-- A detection on the next frame is one that the pipeline tracks on. -/
def Locks : Prop :=
  pipeline.state = .tracking ∨
    pipeline.state = .targetDetected ∧ config.detectHoldN ≤ pipeline.detectedHoldCounter + 1

theorem tracking_iff_locks {detection : Detection} (present : pipeline.detection config frame = some detection)
    (moves : pipeline.Moves config frame after result) : result.state = .tracking ↔ Locks config pipeline := by
  unfold Locks
  rcases moves_sees present moves with ⟨before, -, detected⟩ | ⟨locks, -, tracking⟩
  · rw [detected]
    rcases before with idle | searching | ⟨inside, short⟩
    · simp [idle]
    · simp [searching]
    · simp [inside, short]
  · exact iff_of_true tracking locks

end moves

section hardware
attribute [local instance] Binary64.binary64
variable [Libm] {config : VisionPipelineConfig}

/-- The controller follows neither a detection whose confidence is not a number nor the frames on which the tracker
alone holds such a target. -/
def NanDistrusted (past : List (Tick config)) (t : Tick config) : Prop :=
  ∀ detection coasted, SinceDetection (past ++ [t]) detection coasted → detection.confidence = nan →
    ∀ seq timestamp,
      (published seq timestamp t.result).confidence < TrackingConfig.default.minConfidence ∧
        ∀ fc after, fc.trackingConfig = .default → followResult fc seq timestamp t.result = some after →
          after.isTargetValid = false

/-- A detection whose confidence is not a number comes on no frame that the pipeline would track it on. -/
def NanUntracked (t : Tick config) : Prop :=
  ∀ detection, t.before.detection config t.frame = some detection → detection.confidence = nan →
    ¬ Locks config t.before

/-- What is tracked began with a number. -/
def NumberTracked (past : List (Tick config)) (pipeline : VisionPipeline) : Prop :=
  pipeline.state = .tracking → ∀ detection coasted, SinceDetection past detection coasted → detection.confidence ≠ nan

omit [Libm] in
theorem minConfidence_half : TrackingConfig.default.minConfidence = fin (1 / 2) := by decide +kernel

variable {past : List (Tick config)} {t : Tick config}

omit [Libm] in
theorem idle_distrusted {result : TrackerResult} (idle : result.state ≠ .tracking) (seq : ℤ) (timestamp : Double) :
    (published seq timestamp result).confidence < TrackingConfig.default.minConfidence ∧
      ∀ fc after, fc.trackingConfig = .default → followResult fc seq timestamp result = some after →
        after.isTargetValid = false := by
  constructor
  · have zero : (published seq timestamp result).confidence = fin 0 := by
      unfold published visFields
      cases state : result.state with
      | tracking => exact absurd state idle
      | noTarget => rfl
      | targetDetected => rfl
      | searching => rfl
    rw [zero, minConfidence_half, fin_lt_fin]
    norm_num
  · intro fc after _ arrives
    unfold followResult at arrives
    dsimp only at arrives
    rw [buildVisPayload_accepted] at arrives
    have other : after.lastTrackingMsg.state ≠ .tracking := by
      cases state : result.state with
      | tracking => exact absurd state idle
      | noTarget | targetDetected | searching =>
        rw [state] at arrives
        cases arrives
        exact TrackingState.noConfusion
    unfold FlightController.isTargetValid
    simp [other]

theorem NumberTracked.append (inv : NumberTracked past t.before) (untracked : NanUntracked t) :
    NumberTracked (past ++ [t]) t.after := by
  intro tracks detection coasted since
  have moves := processFrame_moves t.returned
  have tracked := (moves_reported moves).1.trans tracks
  rcases since.last with present | ⟨blind, -, before, earlier⟩
  · exact fun bad => untracked detection present bad ((tracking_iff_locks present moves).1 tracked)
  · rcases (moves_conf moves tracked).2 with ⟨seen, present, -⟩ | ⟨-, state, -⟩
    · unfold Tick.sees at blind
      rw [present] at blind
      cases blind
    · exact inv state detection before earlier

theorem nanDistrusted_iff_untracked (inv : NumberTracked past t.before) :
    NanDistrusted past t ↔ NanUntracked t := by
  have moves := processFrame_moves t.returned
  constructor
  · intro distrusted detection present bad locks
    have tracks := (tracking_iff_locks present moves).2 locks
    have since : SinceDetection (past ++ [t]) detection [] := ⟨past, t, rfl, present, List.forall_mem_nil _⟩
    have below := (distrusted detection [] since bad 0 0).1
    rw [published_confidence tracks, conf_fresh tracks present, bad, minConfidence_half, clamp01_nan] at below
    revert below
    decide +kernel
  · intro untracked detection coasted since bad seq timestamp
    apply idle_distrusted
    intro tracks
    exact inv.append untracked ((moves_reported moves).1.symm.trans tracks) detection coasted since bad

/-- The controller distrusts what is not a number exactly as long as the pipeline does not track on it: once it
does, the payload has the confidence 1. -/
theorem nanDistrusted_iff (config : VisionPipelineConfig) (frames : List Frame) :
    Always (step config) (fun past pipeline frame => ∀ t ∈ tick config pipeline frame,
        NanDistrusted (ticks config past) t) [] (some {}) frames ↔
      Always (step config) (fun _ pipeline frame => ∀ t ∈ tick config pipeline frame, NanUntracked t) []
        (some {}) frames :=
  always_iff_of_inv NumberTracked (fun _ _ inv => nanDistrusted_iff_untracked inv)
    (fun _ _ inv untracked => inv.append untracked) nofun frames

end hardware

section sightings
attribute [local instance] Binary64.binary64 longerSide

def nanSight (frameId : ℤ) : Frame :=
  { sight frameId 288 with
    detections := [{ bbox := ⟨288, 216, 64, 48⟩, confidence := nan, confidence_double := trivial }] }

/-- The second of two such detections is tracked, and followed. -/
theorem nan_followed :
    (∃ t ∈ tick promptConfig (step promptConfig (some {}) (nanSight 1)) (nanSight 2),
        (published 2 0 t.result).confidence = 1 ∧
          ∃ after ∈ followResult (boot ⟨1400, by decide⟩).controller 2 0 t.result, after.isTargetValid = true) ∧
      ¬ Always (step promptConfig) (fun past pipeline frame => ∀ t ∈ tick promptConfig pipeline frame,
        NanDistrusted (ticks promptConfig past) t) [] (some {}) [nanSight 1, nanSight 2] := by
  have seen : (tick promptConfig (step promptConfig (some {}) (nanSight 1)) (nanSight 2)).map
      (fun t => ((t.before.detection promptConfig t.frame).map (·.confidence), t.result.state)) =
        some (some nan, .tracking) := by
    decide +kernel
  have followed : (tick promptConfig (step promptConfig (some {}) (nanSight 1)) (nanSight 2)).bind
      (fun t => (followResult (boot ⟨1400, by decide⟩).controller 2 0 t.result).map
        FlightController.isTargetValid) = some true := by
    decide +kernel
  obtain ⟨t, ticked, found⟩ := Option.map_eq_some_iff.1 seen
  obtain ⟨present, tracks⟩ := Prod.mk.inj found
  obtain ⟨detection, present, bad⟩ := Option.map_eq_some_iff.1 present
  have one : (published 2 0 t.result).confidence = 1 := by
    rw [published_confidence tracks, conf_fresh tracks present, bad, clamp01_nan]
    decide
  refine ⟨⟨t, ticked, one, ?_⟩, ?_⟩
  · rw [ticked] at followed
    obtain ⟨after, arrives, valid⟩ := Option.map_eq_some_iff.1 followed
    exact ⟨after, arrives, valid⟩
  · rintro ⟨-, distrusted, -⟩
    have since (past : List (Tick promptConfig)) : SinceDetection (past ++ [t]) detection [] :=
      ⟨past, t, rfl, present, List.forall_mem_nil _⟩
    have below := (distrusted t ticked detection [] (since _) bad 2 0).1
    rw [one] at below
    revert below
    decide +kernel

end sightings
end AotDrone.Link
