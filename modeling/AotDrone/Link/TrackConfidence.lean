import AotDrone.Link.AltitudeSign
import AotDrone.Vision.Confidence

/-! The confidence of a track from the camera to the threshold of the flight controller. -/

namespace AotDrone.Link
open AotDrone.Lib AotDrone.Lib.Double AotDrone.Lib.Run AotDrone.Json AotDrone.Backend AotDrone.Vision AotDrone.Fc
open AotDrone.Vision.VisionPipeline

section result
variable [Fpu]

/-- The numbers of the payload that the result of a frame is published in. -/
def published (seq : ℤ) (timestamp : Double) (result : TrackerResult) : VisMessage :=
  visFields seq timestamp result.state result.bbox result.conf

/-- The controller once the result of a frame has come through: the payload of vision, the validator and the
tracking object of the backend, the update of the controller. -/
def followResult (fc : FlightController) (seq : ℤ) (timestamp : Double) (result : TrackerResult) :
    Option FlightController := do
  let payload := buildVisPayload seq timestamp result.state result.bbox result.conf
  let vis ← (validateVisMessage payload).toOption
  some (applyTrackingUpdate { tracking := received (buildTrackingObject vis) } fc)

theorem published_confidence {result : TrackerResult} (tracks : result.state = .tracking) (seq : ℤ)
    (timestamp : Double) : (published seq timestamp result).confidence = clamp01 result.conf := by
  unfold published visFields
  rw [tracks]
  rfl

/-- Every tracked result comes through. Its confidence is clamped once more on the way, and its bounds hold. -/
theorem followResult_arrives (fc : FlightController) (seq : ℤ) (timestamp : Double) {result : TrackerResult}
    (tracks : result.state = .tracking) :
    ∃ after, followResult fc seq timestamp result = some after ∧ after.lastTrackingMsg.state = .tracking ∧
      after.lastTrackingMsg.confidence = clampUnit (clamp01 result.conf) ∧ after.trackingConfig = fc.trackingConfig := by
  unfold followResult
  dsimp only
  rw [buildVisPayload_accepted, tracks]
  exact ⟨_, rfl, rfl, rfl, rfl⟩

end result

section rational
attribute [local instance] exact
variable [Libm] {config : VisionPipelineConfig} {floor decay : ℚ}

/-- The controller does not turn the result of a frame down for its confidence. -/
def Trusts (fc : FlightController) (seq : ℤ) (timestamp : Double) (result : TrackerResult) : Prop :=
  ∃ after, followResult fc seq timestamp result = some after ∧
    ¬ after.lastTrackingMsg.confidence < after.trackingConfig.minConfidence ∧
      after.isTargetValid = !after.trackingStale

omit [Libm] in
theorem trusts_of_le {fc : FlightController} {result : TrackerResult} {q : ℚ} (tracks : result.state = .tracking)
    (conf : clamp01 result.conf = fin q) (enough : fc.trackingConfig.minConfidence ≤ fin q) (seq : ℤ)
    (timestamp : Double) : Trusts fc seq timestamp result := by
  obtain ⟨after, arrives, tracking, stored, same⟩ := followResult_arrives fc seq timestamp tracks
  obtain ⟨low, high⟩ := seed_mem conf
  have kept : clampUnit (fin q) = fin q := by
    change clamp (fin q) (fin 0) (fin 1) = _
    rw [clamp_fin _ _ _ zero_le_one, min_eq_left high, max_eq_right low]
  rw [conf, kept] at stored
  have trusted : ¬ after.lastTrackingMsg.confidence < after.trackingConfig.minConfidence := by
    rw [stored, same]
    exact Double.not_lt_of_le enough
  refine ⟨after, arrives, trusted, ?_⟩
  unfold FlightController.isTargetValid
  simp [tracking, trusted]

/-- What a tracked frame publishes: the confidence of its detection, or what the law makes of the last one. -/
structure ConfLaw (floor decay : ℚ) (past : List (Tick config)) (t : Tick config) (seq : ℤ) (timestamp : Double) :
    Prop where
  fresh : ∀ detection s, t.before.detection config t.frame = some detection → detection.confidence = fin s →
    (published seq timestamp t.result).confidence = fin (min 1 (max 0 s))
  coasted : t.sees = false → ∃ detection coasted, SinceDetection (past ++ [t]) detection coasted ∧
    ∀ s, detection.confidence = fin s →
      (published seq timestamp t.result).confidence =
          fin (seededConf floor decay (min 1 (max 0 s)) coasted.length) ∧
        (floor ≤ min 1 (max 0 s) → ∀ fc : FlightController, fc.trackingConfig.minConfidence ≤ fin floor →
          Trusts fc seq timestamp t.result)
  falls : t.sees = false → ∃ earlier u, past = earlier ++ [u] ∧ u.result.state = .tracking ∧
    (published seq timestamp t.result).confidence ≤ (published seq timestamp u.result).confidence

variable {past : List (Tick config)} {t : Tick config}

theorem confLaw_of_inv (numbers : ConfigNumbers config floor decay) (inv : ConfInv floor decay past t.before)
    (tracks : t.result.state = .tracking) (seq : ℤ) (timestamp : Double) :
    ConfLaw floor decay past t seq timestamp := by
  have publishes := published_confidence tracks seq timestamp
  constructor
  · intro detection s present number
    rw [publishes, conf_fresh tracks present, number, clamp01_fin, clamp01_fin]
    congr 1
    rw [max_eq_right (le_min zero_le_one (le_max_left _ _)), min_eq_right (min_le_left _ _)]
  · intro blind
    obtain ⟨detection, coasted, seed, since, seeds, conf⟩ := inv.conf_coasted numbers tracks
    obtain ⟨low, high⟩ := seed_mem seeds
    have nonneg : 0 ≤ seededConf floor decay seed coasted.length := seededConf_nonneg low numbers.decayPos coasted.length
    have atMost := seededConf_le_one numbers.floorLe high numbers.decayPos numbers.decayLe coasted.length
    have kept : clamp01 t.result.conf = fin (seededConf floor decay seed coasted.length) := by
      rw [conf, clamp01_fin, max_eq_right nonneg, min_eq_right atMost]
    refine ⟨detection, coasted, since, ?_⟩
    intro s number
    have same : seed = min 1 (max 0 s) := by
      rw [number, clamp01_fin] at seeds
      exact (Double.fin.inj seeds).symm
    rw [← same]
    refine ⟨publishes.trans kept, ?_⟩
    intro above fc threshold
    have held := (floor_le_seededConf low numbers.decayPos numbers.decayLe coasted.length).2 above
    exact trusts_of_le tracks kept (Double.le_trans threshold (fin_le_fin.2 held)) seq timestamp
  · intro blind
    obtain ⟨earlier, u, c, d, last, tracked, now, before, less⟩ := inv.conf_falls numbers tracks blind
    refine ⟨earlier, u, last, tracked, ?_⟩
    rw [publishes, published_confidence tracked, now, before, clamp01_fin, clamp01_fin, fin_le_fin]
    exact min_le_min_left 1 (max_le_max_left 0 less)

/-- Along every run a tracked frame publishes the confidence of its detection or the decayed one of the last,
which does not rise and does not fall below a floor that it began on. -/
theorem confidence_kept (config : VisionPipelineConfig) (frames : List Frame) :
    ∃ floor decay, ConfigNumbers config floor decay ∧
      Always (step config)
        (fun past pipeline frame => ∀ t ∈ tick config pipeline frame, t.result.state = .tracking →
          ∀ seq timestamp, ConfLaw floor decay (ticks config past) t seq timestamp)
        [] (some {}) frames := by
  obtain ⟨floor, decay, numbers⟩ := configNumbers_exists config
  have lawful : ∀ (past : List (Tick config)) t, ConfInv floor decay past t.before → t.result.state = .tracking →
      ∀ seq timestamp, ConfLaw floor decay past t seq timestamp :=
    fun past t inv tracks seq timestamp => confLaw_of_inv numbers inv tracks seq timestamp
  refine ⟨floor, decay, numbers, ?_⟩
  exact always_of_inv (ConfInv floor decay) lawful (fun past t inv => inv.append numbers) confInv_start frames

end rational
end AotDrone.Link
