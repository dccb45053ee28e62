import AotDrone.Vision.Runs

/-! The grace window of TARGET_DETECTED, which counts frames and not the times the detector is asked. -/

namespace AotDrone.Vision
open AotDrone.Lib AotDrone.Lib.Double AotDrone.Lib.Run

namespace VisionPipeline
variable [Fpu] {config : VisionPipelineConfig} {pipeline after : VisionPipeline} {frame : Frame}
  {result : TrackerResult}

/-- Frames that are numbered one after the other. -/
def Consecutive : ℤ → List Frame → Prop
  | _, [] => True
  | start, frame :: rest => frame.frameId = start ∧ Consecutive (start + 1) rest

theorem consecutive_append (start : ℤ) (first second : List Frame) :
    Consecutive start (first ++ second) ↔ Consecutive start first ∧ Consecutive (start + first.length) second := by
  induction first generalizing start with
  | nil => simp [Consecutive]
  | cons frame rest ih =>
    have next : start + 1 + (rest.length : ℤ) = start + ((rest.length + 1 : ℕ) : ℤ) := by push_cast; ring
    rw [List.cons_append, Consecutive, Consecutive, ih, List.length_cons, next, and_assoc]

/-! ## When the detector is asked -/

/-- After a frame on which the detector is asked it is asked again `detect_every_n` frames later, or sooner. -/
theorem shouldDetect_again {last : ℤ} (asked : shouldDetect config last = true) :
    ∃ later, last < later ∧ later ≤ last + config.detectEveryN ∧ shouldDetect config later = true := by
  have positive := config.detectEveryN_pos
  unfold shouldDetect at asked ⊢
  rw [decide_eq_true_eq] at asked
  rcases le_or_gt last 0 with early | late
  · refine ⟨last + 1, by omega, by omega, decide_eq_true ?_⟩
    rw [max_eq_left (by omega)]
    rfl
  · refine ⟨last + config.detectEveryN, by omega, le_rfl, decide_eq_true ?_⟩
    rw [max_eq_right (by omega)] at asked ⊢
    rw [add_sub_right_comm, Int.add_emod_right]
    exact asked

/-- What consecutive frames guarantee before the frame `next`. -/
structure GraceInv (config : VisionPipelineConfig) (next : ℤ) (pipeline : VisionPipeline) : Prop where
  latest : pipeline.lastDetection.isSome = true → ∃ last, pipeline.lastDetectionFrame = some last ∧ last < next ∧
    shouldDetect config last = true ∧ ∀ id, last < id → id < next → shouldDetect config id = false
  streak : pipeline.state = .targetDetected → pipeline.lastDetection.isSome = true →
    pipeline.targetDetectedMissStreak = 0

/-- A detection found on the last frame that asked for one is used again. -/
theorem GraceInv.reuses (inv : GraceInv config frame.frameId pipeline)
    (idle : shouldDetect config frame.frameId = false) :
    pipeline.reuseLastDetection config frame.frameId = pipeline.lastDetection := by
  unfold reuseLastDetection
  cases held : pipeline.lastDetection with
  | none => rfl
  | some detection =>
    obtain ⟨last, seen, before, asked, quiet⟩ := inv.latest (by rw [held]; rfl)
    rw [seen]
    apply if_pos
    obtain ⟨later, forward, soon, again⟩ := shouldDetect_again asked
    by_contra old
    have reached : later ≤ frame.frameId := by omega
    rcases reached.lt_or_eq with inside | now
    · rw [quiet later forward inside] at again
      cases again
    · rw [now, idle] at again
      cases again

variable [Libm]

theorem moves_lastDetection (moves : pipeline.Moves config frame after result) :
    after.lastDetection = (pipeline.looked config frame).lastDetection ∧
      after.lastDetectionFrame = (pipeline.looked config frame).lastDetectionFrame := by
  cases moves <;> exact ⟨rfl, rfl⟩

theorem looked_lastDetection (asked : shouldDetect config frame.frameId = true) :
    (pipeline.looked config frame).lastDetection = pipeline.detected config frame := by
  unfold looked
  rw [asked]
  rfl

theorem GraceInv.moves (inv : GraceInv config frame.frameId pipeline)
    (moves : pipeline.Moves config frame after result) : GraceInv config (frame.frameId + 1) after := by
  obtain ⟨sameDetection, sameFrame⟩ := moves_lastDetection moves
  constructor
  · intro known
    rw [sameFrame]
    rw [sameDetection] at known
    cases asked : shouldDetect config frame.frameId with
    | true =>
      rw [looked_lastDetection asked] at known
      refine ⟨frame.frameId, ?_, by omega, asked, by omega⟩
      unfold looked
      rw [if_pos asked]
      exact if_pos known
    | false =>
      rw [looked_idle _ _ _ asked] at known ⊢
      obtain ⟨last, seen, before, asks, quiet⟩ := inv.latest known
      refine ⟨last, seen, by omega, asks, ?_⟩
      intro id forward inside
      rcases (Int.lt_add_one_iff.1 inside).lt_or_eq with earlier | now
      · exact quiet id forward earlier
      · rw [now]
        exact asked
  · intro inside known
    have same := looked_state config pipeline frame
    cases moves with
    | idle state absent => exact VisState.noConfusion (state.symm.trans (same.symm.trans inside))
    | searched counter state absent => exact VisState.noConfusion (state.symm.trans (same.symm.trans inside))
    | followed detection result trackerActive state present tracked =>
      exact VisState.noConfusion (state.symm.trans (same.symm.trans inside))
    | coasted bbox result state absent active tracked =>
      exact VisState.noConfusion (state.symm.trans (same.symm.trans inside))
    | lost state absent beyond => exact VisState.noConfusion inside
    | strayed state absent => exact VisState.noConfusion inside
    | gaveUp state absent => exact VisState.noConfusion inside
    | locked detection result state present long tracked => exact VisState.noConfusion inside
    | found detection state present => rfl
    | held detection state present short => rfl
    | missed state absent within =>
      -- Neither a detector that finds nothing nor a detection too old leaves one behind.
      exfalso
      change (pipeline.looked config frame).lastDetection.isSome = true at known
      cases asked : shouldDetect config frame.frameId with
      | true =>
        unfold detection at absent
        rw [if_neg (by simp [asked])] at absent
        rw [looked_lastDetection asked, absent] at known
        cases known
      | false =>
        unfold detection at absent
        rw [if_pos ⟨state, asked⟩, inv.reuses asked] at absent
        rw [looked_idle _ _ _ asked, absent] at known
        cases known

theorem graceInv_run {start : ℤ} {frames : List Frame} (numbered : Consecutive start frames)
    (inv : GraceInv config start pipeline)
    (reached : frames.foldl (step config) (some pipeline) = some after) :
    GraceInv config (start + frames.length) after := by
  induction frames generalizing start pipeline with
  | nil =>
    cases reached
    rwa [List.length_nil, Nat.cast_zero, add_zero]
  | cons frame rest ih =>
    obtain ⟨rfl, later⟩ := numbered
    rw [List.foldl_cons] at reached
    cases stepped : step config (some pipeline) frame with
    | none =>
      have stopped : ∀ frames : List Frame, frames.foldl (step config) none = none := by
        intro frames
        induction frames with
        | nil => rfl
        | cons _ _ stays => exact stays
      rw [stepped, stopped] at reached
      cases reached
    | some next =>
      obtain ⟨t, ticked, rfl⟩ := Option.map_eq_some_iff.1 stepped
      obtain ⟨same, rfl⟩ := tick_some ticked
      cases same
      rw [stepped] at reached
      have kept := ih later (inv.moves (processFrame_moves t.returned)) reached
      have length : t.frame.frameId + 1 + (rest.length : ℤ) = t.frame.frameId + ((rest.length + 1 : ℕ) : ℤ) := by
        push_cast
        ring
      rwa [length] at kept

/-! ## Missing the target -/

/-- The detector finds nothing on this frame, if it is asked. -/
def Frame.Empty (config : VisionPipelineConfig) (frame : Frame) : Prop :=
  shouldDetect config frame.frameId = true → frame.detections = []

theorem detectBest_empty (empty : Frame.Empty config frame) :
    pipeline.detectBest config frame = .ok (pipeline.looked config frame, none) := by
  have same (found : VisionPipeline) (detects : pipeline.detectBest config frame = .ok (found, none)) :
      pipeline.detectBest config frame = .ok (pipeline.looked config frame, none) := by
    rw [detects, (detectBest_ok detects).1]
  cases asked : shouldDetect config frame.frameId with
  | false =>
    apply same pipeline
    unfold detectBest
    rw [asked]
    rfl
  | true =>
    apply same { pipeline with lastDetection := none, lastDetectionFrame := none }
    unfold detectBest
    rw [asked, empty asked]
    rfl

theorem detected_empty (empty : Frame.Empty config frame) : pipeline.detected config frame = none := by
  unfold detected
  rw [detectBest_empty empty]
  rfl

theorem processFrame_missed (inside : pipeline.state = .targetDetected) (empty : Frame.Empty config frame)
    (absent : pipeline.detection config frame = none) :
    pipeline.processFrame config frame =
      .ok (if pipeline.targetDetectedMissStreak + 1 ≤ config.targetDetectedGraceFrames then
          ({ pipeline.looked config frame with targetDetectedMissStreak := pipeline.targetDetectedMissStreak + 1 },
            zeroResult .targetDetected)
        else ((pipeline.looked config frame).transitionNoTarget, zeroResult .noTarget)) := by
  have entered : pipeline.processFrame config frame =
      (pipeline.looked config frame).updateTargetDetected config frame (pipeline.detected config frame) := by
    unfold processFrame
    rw [detectBest_empty empty, detected_empty empty]
    dsimp only [bind, Except.bind]
    rw [looked_state, inside]
  rw [entered]
  unfold updateTargetDetected
  rw [detection_inside inside, absent]
  dsimp only
  rw [looked_targetDetectedMissStreak]
  split_ifs <;> rfl

/-- With no detection held, or a detector that finds nothing, there is none to use again. -/
theorem detection_blind (inside : pipeline.state = .targetDetected) (empty : Frame.Empty config frame)
    (blind : pipeline.lastDetection = none ∨ shouldDetect config frame.frameId = true) :
    pipeline.detection config frame = none ∧ (pipeline.looked config frame).lastDetection = none := by
  cases asked : shouldDetect config frame.frameId with
  | true =>
    have none : pipeline.detected config frame = none := detected_empty empty
    refine ⟨?_, (looked_lastDetection asked).trans none⟩
    unfold detection
    rw [if_neg (by simp [asked]), none]
  | false =>
    have held : pipeline.lastDetection = none := blind.resolve_right (by simp [asked])
    refine ⟨?_, ?_⟩
    · unfold detection reuseLastDetection
      rw [if_pos ⟨inside, asked⟩, held]
    · rw [looked_idle _ _ _ asked]
      exact held

variable (config) in
/-- The frame does not return the pipeline to NO_TARGET. -/
def NotLost (_ : Past (Option VisionPipeline) Frame) (pipeline : Option VisionPipeline) (frame : Frame) : Prop :=
  ∀ t ∈ tick config pipeline frame, t.after.state ≠ .noTarget

/-- The detector is asked on this frame and finds a box. -/
def Frame.Finds (config : VisionPipelineConfig) (frame : Frame) : Prop :=
  shouldDetect config frame.frameId = true ∧ frame.detections ≠ []

theorem detected_found (finds : Frame.Finds config frame)
    (returned : pipeline.processFrame config frame = .ok (after, result)) :
    ∃ detection, pipeline.detected config frame = some detection := by
  obtain ⟨⟨found, best⟩, detects, -⟩ := bind_eq_ok.1 returned
  rw [← (detectBest_ok detects).2]
  unfold detectBest at detects
  rw [if_pos finds.1] at detects
  obtain ⟨chosen, picks, made⟩ := bind_eq_ok.1 detects
  cases made
  unfold pickBestBox at picks
  cases boxes : frame.detections with
  | nil => exact absurd boxes finds.2
  | cons first rest =>
    rw [boxes] at picks
    dsimp only at picks
    obtain ⟨_, -, picks⟩ := bind_eq_ok.1 picks
    obtain ⟨best, -, made⟩ := bind_eq_ok.1 picks
    cases made
    exact ⟨best, rfl⟩

/-- A frame with a detection does not end in NO_TARGET. -/
theorem moves_present {detection : Detection} (present : pipeline.detection config frame = some detection)
    (moves : pipeline.Moves config frame after result) : after.state ≠ .noTarget := by
  rcases moves_sees present moves with ⟨-, detected, -⟩ | ⟨-, tracking, -⟩
  · rw [detected]
    exact VisState.noConfusion
  · rw [tracking]
    exact VisState.noConfusion

theorem notLost_finds (finds : Frame.Finds config frame) (past : Past (Option VisionPipeline) Frame)
    (pipeline : Option VisionPipeline) : NotLost config past pipeline frame := by
  intro t ticked
  obtain ⟨-, rfl⟩ := tick_some ticked
  obtain ⟨detection, found⟩ := detected_found finds t.returned
  have present : t.before.detection config t.frame = some detection := by
    unfold VisionPipeline.detection
    rw [if_neg (by simp [finds.1]), found]
  exact moves_present present (processFrame_moves t.returned)

/-- A stretch of frames without a detection, seen from any of them. -/
theorem notLost_iff {missed : List Frame} {finder : Frame} (empty : ∀ frame ∈ missed, Frame.Empty config frame)
    (finds : Frame.Finds config finder) (inside : pipeline.state = .targetDetected)
    (blind : pipeline.lastDetection = none ∨ ∀ frame ∈ missed.head?, shouldDetect config frame.frameId = true)
    (within : pipeline.targetDetectedMissStreak ≤ config.targetDetectedGraceFrames)
    (past : Past (Option VisionPipeline) Frame) :
    Always (step config) (NotLost config) past (some pipeline) (missed ++ [finder]) ↔
      pipeline.targetDetectedMissStreak + missed.length ≤ config.targetDetectedGraceFrames := by
  induction missed generalizing pipeline past with
  | nil => exact iff_of_true ⟨notLost_finds finds _ _, trivial⟩ within
  | cons frame rest ih =>
    rw [List.forall_mem_cons] at empty
    obtain ⟨absent, none⟩ := detection_blind inside empty.1 (blind.imp id fun asked => asked frame rfl)
    have returned := processFrame_missed inside empty.1 absent
    rw [List.cons_append, List.length_cons]
    split_ifs at returned with graced
    · have ticked := tick_returned (t := ⟨pipeline, frame, _, _, returned⟩)
      have still := (looked_state config pipeline frame).trans inside
      let missed := { pipeline.looked config frame with targetDetectedMissStreak := pipeline.targetDetectedMissStreak + 1 }
      have later : Always (step config) (NotLost config) (past ++ [(some pipeline, frame)]) (some missed)
          (rest ++ [finder]) ↔ missed.targetDetectedMissStreak + rest.length ≤ config.targetDetectedGraceFrames :=
        @ih missed empty.2 still (.inl none) graced (past ++ [(some pipeline, frame)])
      rw [Always, step, ticked, Option.map_some, later]
      have kept : NotLost config past (some pipeline) frame := by
        intro t now
        rw [ticked] at now
        cases now
        change (pipeline.looked config frame).state ≠ .noTarget
        rw [still]
        exact VisState.noConfusion
      rw [and_iff_right kept]
      change pipeline.targetDetectedMissStreak + 1 + rest.length ≤ _ ↔ _
      omega
    · have ticked := tick_returned (t := ⟨pipeline, frame, _, _, returned⟩)
      refine iff_of_false ?_ (by omega)
      rintro ⟨kept, -⟩
      exact kept _ ticked rfl

/-- A run of detector runs that find nothing, between two that find a box, leaves TARGET_DETECTED alone exactly when
the frames from its first to the second of these number at most the grace frames. -/
theorem grace_iff {start : ℤ} {frames missed : List Frame} {finder : Frame}
    (numbered : Consecutive start (frames ++ (missed ++ [finder])))
    (reached : frames.foldl (step config) (some {}) = some pipeline) (inside : pipeline.state = .targetDetected)
    (found : pipeline.lastDetection.isSome = true)
    (first : ∀ frame ∈ missed.head?, shouldDetect config frame.frameId = true)
    (empty : ∀ frame ∈ missed, Frame.Empty config frame) (finds : Frame.Finds config finder) :
    Always (step config) (NotLost config) [] (some pipeline) (missed ++ [finder]) ↔
      missed.length ≤ config.targetDetectedGraceFrames := by
  have fresh : GraceInv config start {} := ⟨nofun, nofun⟩
  have inv := graceInv_run ((consecutive_append start frames _).1 numbered).1 fresh reached
  have streak := inv.streak inside found
  rw [notLost_iff empty finds inside (.inr first) (streak.trans_le (Nat.zero_le _)), streak, Nat.zero_add]

end VisionPipeline

section rationals
attribute [local instance] exact

/-- Right where one of the legs is zero. -/
@[reducible] def greaterLeg : Libm where
  hypot x y := pyMax (Double.abs x) (Double.abs y)

attribute [local instance] greaterLeg

/-- The defaults, but for how often the detector is asked. -/
def everyFrames (detectEveryN : Nat) (detectEveryN_pos : 1 ≤ detectEveryN) : VisionPipelineConfig where
  detectHoldN := 30
  searchN := 30
  detectEveryN
  desiredCx := 0.5
  desiredCy := 0.5
  targetDetectedGraceFrames := 1
  trackerReinitIou := 0.5
  trackerOnlyConfDecay := 0.95
  trackerOnlyConfFloor := 0.5
  detectEveryN_pos
  desiredCx_range := by decide +kernel
  desiredCy_range := by decide +kernel
  trackerReinitIou_range := by decide +kernel
  trackerOnlyConfDecay_range := by decide +kernel
  trackerOnlyConfFloor_range := by decide +kernel
  trackerOnlyConfFloor_double := rfl

def fullRate : VisionPipelineConfig := everyFrames 1 le_rfl

def halfRate : VisionPipelineConfig := everyFrames 2 one_le_two

def blindFrame (frameId : ℤ) : Frame where
  frameId := frameId
  imgW := 640
  imgH := 480
  detections := []
  initialized := true
  updated := (false, none)

/-- A target in the middle of the image. -/
def sightedFrame (frameId : ℤ) : Frame :=
  { blindFrame frameId with
    detections := [{ bbox := ⟨280, 200, 80, 80⟩, confidence := 0.9, confidence_double := rfl }] }

namespace VisionPipeline

/-- With a detector that is asked on every frame the default window outlasts one miss. -/
theorem blip_graced :
    ∃ pipeline, [sightedFrame 1].foldl (step fullRate) (some {}) = some pipeline ∧
      Always (step fullRate) (NotLost fullRate) [] (some pipeline) ([blindFrame 2] ++ [sightedFrame 3]) := by
  have inside : ([sightedFrame 1].foldl (step fullRate) (some {})).map state = some .targetDetected := by
    decide +kernel
  have found : ([sightedFrame 1].foldl (step fullRate) (some {})).map
      (fun pipeline => pipeline.lastDetection.isSome) = some true := by
    decide +kernel
  obtain ⟨pipeline, reached, state⟩ := Option.map_eq_some_iff.1 inside
  rw [reached] at found
  refine ⟨pipeline, reached, ?_⟩
  have numbered : Consecutive 1 ([sightedFrame 1] ++ ([blindFrame 2] ++ [sightedFrame 3])) :=
    ⟨rfl, rfl, rfl, trivial⟩
  have asked : ∀ frame ∈ [blindFrame 2].head?, shouldDetect fullRate frame.frameId = true := by
    rintro _ ⟨⟩
    decide
  have finds : Frame.Finds fullRate (sightedFrame 3) := ⟨by decide, List.cons_ne_nil _ _⟩
  apply (grace_iff numbered reached state (Option.some.inj found) asked ?_ finds).2 le_rfl
  exact List.forall_mem_singleton.2 fun _ => rfl

/-- The detector is asked on the frames 1, 3 and 5 and finds nothing on one of them. -/
theorem single_miss_lost :
    ([blindFrame 3, blindFrame 4].countP fun frame => shouldDetect halfRate frame.frameId) ≤
        halfRate.targetDetectedGraceFrames ∧
      Consecutive 1 ([sightedFrame 1, blindFrame 2] ++ ([blindFrame 3, blindFrame 4] ++ [sightedFrame 5])) ∧
      ([sightedFrame 1, blindFrame 2].foldl (step halfRate) (some {})).map state = some .targetDetected ∧
      ¬ Always (step halfRate) (NotLost halfRate) [] ([sightedFrame 1, blindFrame 2].foldl (step halfRate) (some {}))
        ([blindFrame 3, blindFrame 4] ++ [sightedFrame 5]) := by
  refine ⟨by decide, ⟨rfl, rfl, rfl, rfl, rfl, trivial⟩, by decide +kernel, ?_⟩
  rintro ⟨-, kept, -⟩
  have lost : (tick halfRate
      (step halfRate ([sightedFrame 1, blindFrame 2].foldl (step halfRate) (some {})) (blindFrame 3))
      (blindFrame 4)).map (fun t => t.after.state) = some .noTarget := by
    decide +kernel
  obtain ⟨t, ticked, state⟩ := Option.map_eq_some_iff.1 lost
  exact kept t ticked state

end VisionPipeline
end rationals
end AotDrone.Vision
