import AotDrone.Vision.Runs

/-! The confidence of a track: a detection seeds it, and it decays until the next one. -/

namespace AotDrone.Vision
open AotDrone.Lib AotDrone.Lib.Double AotDrone.Lib.Run

/-! ## The law -/

/-- The confidence a number of frames after its seed. The floor holds what began on or above it. -/
def seededConf (floor decay seed : ℚ) (frames : ℕ) : ℚ :=
  if floor ≤ seed then max floor (seed * decay ^ frames) else seed * decay ^ frames

section law
variable {floor decay seed : ℚ}

theorem seededConf_zero : seededConf floor decay seed 0 = seed := by
  unfold seededConf
  rw [pow_zero, mul_one]
  split_ifs with above
  · exact max_eq_right above
  · rfl

theorem seededConf_nonneg (seedNonneg : 0 ≤ seed) (decayPos : 0 < decay) (frames : ℕ) :
    0 ≤ seededConf floor decay seed frames := by
  have decayed : 0 ≤ seed * decay ^ frames := mul_nonneg seedNonneg (pow_nonneg decayPos.le frames)
  unfold seededConf
  split_ifs
  · exact decayed.trans (le_max_right _ _)
  · exact decayed

theorem seededConf_le_one (floorLe : floor ≤ 1) (seedLe : seed ≤ 1) (decayPos : 0 < decay) (decayLe : decay ≤ 1)
    (frames : ℕ) : seededConf floor decay seed frames ≤ 1 := by
  have decayed : seed * decay ^ frames ≤ 1 :=
    mul_le_one₀ seedLe (pow_nonneg decayPos.le frames) (pow_le_one₀ decayPos.le decayLe)
  unfold seededConf
  split_ifs
  · exact max_le floorLe decayed
  · exact decayed

/-- Deciding from the decayed value decides as deciding from the seed. -/
theorem floor_le_seededConf (seedNonneg : 0 ≤ seed) (decayPos : 0 < decay) (decayLe : decay ≤ 1) (frames : ℕ) :
    floor ≤ seededConf floor decay seed frames ↔ floor ≤ seed := by
  unfold seededConf
  split_ifs with above
  · exact iff_of_true (le_max_left _ _) above
  · refine iff_of_false ?_ above
    have below : seed * decay ^ frames ≤ seed := mul_le_of_le_one_right seedNonneg (pow_le_one₀ decayPos.le decayLe)
    exact fun reached => above (reached.trans below)

theorem seededConf_succ (floorNonneg : 0 ≤ floor) (seedNonneg : 0 ≤ seed) (decayPos : 0 < decay) (decayLe : decay ≤ 1)
    (frames : ℕ) :
    seededConf floor decay seed (frames + 1) =
      if floor ≤ seededConf floor decay seed frames then max (seededConf floor decay seed frames * decay) floor
      else seededConf floor decay seed frames * decay := by
  simp only [floor_le_seededConf seedNonneg decayPos decayLe]
  unfold seededConf
  split_ifs with above
  · have held : floor * decay ≤ floor := mul_le_of_le_one_right floorNonneg decayLe
    calc max floor (seed * decay ^ (frames + 1))
        = max (seed * decay ^ frames * decay) floor := by rw [pow_succ, mul_assoc, max_comm]
      _ = max (max (floor * decay) (seed * decay ^ frames * decay)) floor := by
          rw [max_comm (floor * decay), max_assoc, max_eq_right held]
      _ = max (max floor (seed * decay ^ frames) * decay) floor := by rw [max_mul_of_nonneg _ _ decayPos.le]
  · rw [pow_succ, mul_assoc]

theorem seededConf_succ_le (floorNonneg : 0 ≤ floor) (seedNonneg : 0 ≤ seed) (decayPos : 0 < decay)
    (decayLe : decay ≤ 1) (frames : ℕ) :
    seededConf floor decay seed (frames + 1) ≤ seededConf floor decay seed frames := by
  have decays : seededConf floor decay seed frames * decay ≤ seededConf floor decay seed frames :=
    mul_le_of_le_one_right (seededConf_nonneg seedNonneg decayPos frames) decayLe
  rw [seededConf_succ floorNonneg seedNonneg decayPos decayLe]
  split_ifs with above
  · exact max_le decays above
  · exact decays

end law

namespace VisionPipeline

/-! ## Runs in exact numbers -/

section since
variable [Fpu] [Libm] {config : VisionPipelineConfig}

/-- The last detection, and the frames since, on which the tracker alone held the target. -/
def SinceDetection (past : List (Tick config)) (detection : Detection) (coasted : List (Tick config)) : Prop :=
  ∃ earlier seeded, past = earlier ++ seeded :: coasted ∧
    seeded.before.detection config seeded.frame = some detection ∧
      ∀ u ∈ coasted, u.sees = false ∧ u.result.state = .tracking

theorem SinceDetection.append {past coasted : List (Tick config)} {detection : Detection} {t : Tick config}
    (since : SinceDetection past detection coasted) (blind : t.sees = false) (tracks : t.result.state = .tracking) :
    SinceDetection (past ++ [t]) detection (coasted ++ [t]) := by
  obtain ⟨earlier, seeded, rfl, seeds, later⟩ := since
  refine ⟨earlier, seeded, by simp, seeds, ?_⟩
  intro u member
  rcases List.mem_append.1 member with before | now
  · exact later u before
  · rw [List.mem_singleton.1 now]
    exact ⟨blind, tracks⟩

/-- The last tick has the detection, or is one of those that coasted since. -/
theorem SinceDetection.last {past coasted : List (Tick config)} {detection : Detection} {t : Tick config}
    (since : SinceDetection (past ++ [t]) detection coasted) :
    t.before.detection config t.frame = some detection ∨
      t.sees = false ∧ t.result.state = .tracking ∧ ∃ before, SinceDetection past detection before := by
  obtain ⟨earlier, seeded, same, seeds, later⟩ := since
  rcases List.eq_nil_or_concat coasted with rfl | ⟨before, u, rfl⟩
  · obtain ⟨-, rfl⟩ := List.append_singleton_inj.1 same
    exact .inl seeds
  · rw [List.concat_eq_append, ← List.cons_append, ← List.append_assoc] at same
    obtain ⟨rfl, rfl⟩ := List.append_singleton_inj.1 same
    obtain ⟨blind, tracks⟩ := later t (by simp)
    refine .inr ⟨blind, tracks, before, earlier, seeded, rfl, seeds, ?_⟩
    exact fun u member => later u (by simp [member])

/-- A frame that ends in TRACKING publishes the confidence that is kept. -/
theorem moves_conf {pipeline after : VisionPipeline} {frame : Frame} {result : TrackerResult}
    (moves : pipeline.Moves config frame after result) (tracks : result.state = .tracking) :
    result.conf = after.lastTrackingConf ∧
      ((∃ detection, pipeline.detection config frame = some detection ∧
          after.lastTrackingConf = clamp01 detection.confidence) ∨
        pipeline.detection config frame = none ∧ pipeline.state = .tracking ∧
          after.lastTrackingConf = pipeline.decayed config) := by
  cases moves with
  | locked detection result state present long tracked =>
    exact ⟨(trackingResult_state tracked).2, .inl ⟨detection, present, rfl⟩⟩
  | followed detection result trackerActive state present tracked =>
    exact ⟨(trackingResult_state tracked).2, .inl ⟨detection, present, rfl⟩⟩
  | coasted bbox result state absent active tracked =>
    exact ⟨(trackingResult_state tracked).2, .inr ⟨absent, state, rfl⟩⟩
  | idle state absent => exact VisState.noConfusion tracks
  | found detection state present => exact VisState.noConfusion tracks
  | missed state absent within => exact VisState.noConfusion tracks
  | lost state absent beyond => exact VisState.noConfusion tracks
  | held detection state present short => exact VisState.noConfusion tracks
  | strayed state absent => exact VisState.noConfusion tracks
  | searched counter state absent => exact VisState.noConfusion tracks
  | gaveUp state absent => exact VisState.noConfusion tracks

/-- A frame with a detection publishes its confidence, brought into the unit interval. -/
theorem conf_fresh {t : Tick config} {detection : Detection} (tracks : t.result.state = .tracking)
    (present : t.before.detection config t.frame = some detection) : t.result.conf = clamp01 detection.confidence := by
  obtain ⟨same, kept⟩ := moves_conf (processFrame_moves t.returned) tracks
  rcases kept with ⟨seen, again, conf⟩ | ⟨absent, -, -⟩
  · cases present.symm.trans again
    exact same.trans conf
  · exact absurd (present.symm.trans absent) (Option.some_ne_none _)

end since
section rationals
attribute [local instance] exact
variable [Libm] {config : VisionPipelineConfig} {floor decay : ℚ}

omit [Libm] in
theorem clamp01_fin (s : ℚ) : clamp01 (fin s) = fin (min 1 (max 0 s)) := by
  change pyMax (fin 0) (pyMin (fin 1) (fin s)) = _
  rw [pyMin_fin, pyMax_fin, max_min_distrib_left, max_eq_right zero_le_one]

omit [Libm] in
theorem clamp01_seed (confidence : Double) : ∃ seed : ℚ, clamp01 confidence = fin seed := by
  obtain ⟨low, high⟩ := pyMax_pyMin_mem zero_le_one confidence
  exact fin_of_between low high

omit [Libm] in
theorem seed_mem {confidence : Double} {seed : ℚ} (seeds : clamp01 confidence = fin seed) : 0 ≤ seed ∧ seed ≤ 1 := by
  obtain ⟨low, high⟩ := pyMax_pyMin_mem zero_le_one confidence
  change fin 0 ≤ clamp01 confidence at low
  change clamp01 confidence ≤ fin 1 at high
  rw [seeds] at low high
  exact ⟨fin_le_fin.1 low, fin_le_fin.1 high⟩

omit [Libm] in
theorem decayed_fin {pipeline : VisionPipeline} {c : ℚ} (floorIs : config.trackerOnlyConfFloor = fin floor)
    (decayIs : config.trackerOnlyConfDecay = fin decay) (conf : pipeline.lastTrackingConf = fin c) :
    pipeline.decayed config = fin (if floor ≤ c then max (c * decay) floor else c * decay) := by
  have product : fin c * fin decay = fin (c * decay) := rfl
  unfold decayed
  dsimp only
  rw [floorIs, decayIs, conf, product]
  simp only [fin_le_fin]
  split_ifs
  · exact pyMax_fin _ _
  · rfl

/-- While the target is tracked, the confidence is kept as the law has it, and is the one published last. -/
structure ConfInv (floor decay : ℚ) (past : List (Tick config)) (pipeline : VisionPipeline) : Prop where
  seeded : pipeline.state = .tracking → ∃ detection coasted seed, SinceDetection past detection coasted ∧
    clamp01 detection.confidence = fin seed ∧
      pipeline.lastTrackingConf = fin (seededConf floor decay seed coasted.length)
  published : pipeline.state = .tracking → ∃ earlier u, past = earlier ++ [u] ∧ u.result.state = .tracking ∧
    u.result.conf = pipeline.lastTrackingConf

/-- The numbers of a configuration. -/
structure ConfigNumbers (config : VisionPipelineConfig) (floor decay : ℚ) : Prop where
  floorIs : config.trackerOnlyConfFloor = fin floor
  decayIs : config.trackerOnlyConfDecay = fin decay
  floorNonneg : 0 ≤ floor
  floorLe : floor ≤ 1
  decayPos : 0 < decay
  decayLe : decay ≤ 1

omit [Libm] in
theorem configNumbers_exists (config : VisionPipelineConfig) : ∃ floor decay, ConfigNumbers config floor decay := by
  obtain ⟨floorNonneg, floorLe⟩ := config.trackerOnlyConfFloor_range
  obtain ⟨decayPos, decayLe⟩ := config.trackerOnlyConfDecay_range
  obtain ⟨floor, floorIs⟩ := fin_of_between floorNonneg floorLe
  obtain ⟨decay, decayIs⟩ := fin_of_between (Double.le_of_lt decayPos) decayLe
  rw [floorIs] at floorNonneg floorLe
  rw [decayIs] at decayPos decayLe
  exact ⟨floor, decay, floorIs, decayIs, fin_le_fin.1 floorNonneg, fin_le_fin.1 floorLe, fin_lt_fin.1 decayPos,
    fin_le_fin.1 decayLe⟩

variable {past : List (Tick config)} {t : Tick config}

theorem ConfInv.append (numbers : ConfigNumbers config floor decay) (inv : ConfInv floor decay past t.before) :
    ConfInv floor decay (past ++ [t]) t.after := by
  have moves := processFrame_moves t.returned
  have reports := (moves_reported moves).1
  constructor
  · intro tracks
    have tracked := reports.trans tracks
    rcases (moves_conf moves tracked).2 with ⟨detection, present, conf⟩ | ⟨absent, before, conf⟩
    · obtain ⟨seed, seeds⟩ := clamp01_seed detection.confidence
      refine ⟨detection, [], seed, ⟨past, t, rfl, present, List.forall_mem_nil _⟩, seeds, ?_⟩
      rw [conf, seeds, List.length_nil, seededConf_zero]
    · obtain ⟨detection, coasted, seed, since, seeds, held⟩ := inv.seeded before
      have blind : t.sees = false := by
        unfold Tick.sees
        rw [absent]
        rfl
      refine ⟨detection, coasted ++ [t], seed, since.append blind tracked, seeds, ?_⟩
      rw [conf, decayed_fin numbers.floorIs numbers.decayIs held, List.length_append, List.length_singleton,
        seededConf_succ numbers.floorNonneg (seed_mem seeds).1 numbers.decayPos numbers.decayLe]
  · intro tracks
    have tracked := reports.trans tracks
    exact ⟨past, t, rfl, tracked, (moves_conf moves tracked).1⟩

/-- A frame without a detection publishes what the law makes of the last one. -/
theorem ConfInv.conf_coasted (numbers : ConfigNumbers config floor decay) (inv : ConfInv floor decay past t.before)
    (tracks : t.result.state = .tracking) :
    ∃ detection coasted seed, SinceDetection (past ++ [t]) detection coasted ∧
      clamp01 detection.confidence = fin seed ∧
        t.result.conf = fin (seededConf floor decay seed coasted.length) := by
  have moves := processFrame_moves t.returned
  have after := (moves_reported moves).1.symm.trans tracks
  obtain ⟨detection, coasted, seed, since, seeds, held⟩ := (inv.append numbers).seeded after
  exact ⟨detection, coasted, seed, since, seeds, (moves_conf moves tracks).1.trans held⟩

/-- Without a detection the confidence does not rise. -/
theorem ConfInv.conf_falls (numbers : ConfigNumbers config floor decay) (inv : ConfInv floor decay past t.before)
    (tracks : t.result.state = .tracking) (blind : t.sees = false) :
    ∃ earlier u c d, past = earlier ++ [u] ∧ u.result.state = .tracking ∧ t.result.conf = fin c ∧
      u.result.conf = fin d ∧ c ≤ d := by
  obtain ⟨same, kept⟩ := moves_conf (processFrame_moves t.returned) tracks
  rcases kept with ⟨detection, present, -⟩ | ⟨-, before, conf⟩
  · unfold Tick.sees at blind
    rw [present] at blind
    cases blind
  · obtain ⟨earlier, u, last, tracked, published⟩ := inv.published before
    obtain ⟨detection, coasted, seed, -, seeds, held⟩ := inv.seeded before
    have nonneg := (seed_mem seeds).1
    have next := decayed_fin numbers.floorIs numbers.decayIs held
    rw [← seededConf_succ numbers.floorNonneg nonneg numbers.decayPos numbers.decayLe] at next
    refine ⟨earlier, u, _, _, last, tracked, same.trans (conf.trans next), published.trans held, ?_⟩
    exact seededConf_succ_le numbers.floorNonneg nonneg numbers.decayPos numbers.decayLe coasted.length

theorem confInv_start : ConfInv floor decay ([] : List (Tick config)) {} := ⟨nofun, nofun⟩

end rationals
end VisionPipeline
end AotDrone.Vision
