import AotDrone.Lib.Window
import AotDrone.Webapp.Coalescing

/-! The two histories that the tracking summary draws. -/

namespace AotDrone.Webapp
open AotDrone.Lib AotDrone.Lib.Double AotDrone.Json

namespace Dashboard

/-- What the newest message of the overlay's source in a batch adds to the histories. -/
def batchSample (source : OverlaySource) (batch : PendingStreamBatch) : Option (Double × Double) :=
  match source with
  | .tel =>
    batch.latestTel.map fun tel =>
      (normalizeConfidenceSample (readField tel.confidence), normalizeAgeSample (readField tel.telAge))
  | .vis =>
    batch.latestVis.map fun vis =>
      (normalizeConfidenceSample (readField vis.confidence), normalizeAgeSample (readField vis.visAge))

/-- What an event adds to the histories: the sample of the batch that it hands over. -/
def added (dashboard : Dashboard) (event : DashboardEvent) : List (Double × Double) :=
  ((dashboard.handed event).bind (batchSample dashboard.overlaySource)).toList

/-- The samples of the batches that are handed over, oldest first. -/
def samples : Dashboard → List DashboardEvent → List (Double × Double)
  | _, [] => []
  | dashboard, event :: rest =>
    dashboard.added event ++ samples (dashboard.step event) rest

end Dashboard

/-! ## Samples -/

theorem readField_finite {field : Option Double} {value : Double} (read : readField field = some value) :
    ∃ q, value = fin q := by
  unfold readField at read
  cases field with
  | none => cases read
  | some x =>
    unfold readNumber at read
    dsimp only [Option.map_some] at read
    split at read
    next finite =>
      obtain ⟨rfl⟩ := read
      exact isFinite_iff.1 finite
    · cases read

theorem normalizeConfidenceSample_unit (field : Option Double) :
    ∃ q, normalizeConfidenceSample (readField field) = fin q ∧ 0 ≤ q ∧ q ≤ 1 := by
  cases read : readField field with
  | none => exact ⟨0, rfl, le_rfl, zero_le_one⟩
  | some value =>
    obtain ⟨q, rfl⟩ := readField_finite read
    unfold normalizeConfidenceSample
    dsimp only
    split_ifs with low high
    · exact ⟨0, rfl, le_rfl, zero_le_one⟩
    · exact ⟨1, rfl, zero_le_one, le_rfl⟩
    · exact ⟨q, rfl, not_lt.1 fun less => low (fin_lt_fin.2 less), not_lt.1 fun less => high (fin_lt_fin.2 less)⟩

theorem normalizeAgeSample_nonneg (field : Option Double) :
    ∃ q, normalizeAgeSample (readField field) = fin q ∧ 0 ≤ q := by
  cases read : readField field with
  | none => exact ⟨0, rfl, le_rfl⟩
  | some value =>
    obtain ⟨q, rfl⟩ := readField_finite read
    unfold normalizeAgeSample
    dsimp only
    split_ifs with low
    · exact ⟨0, rfl, le_rfl⟩
    · exact ⟨q, rfl, not_lt.1 fun less => low (fin_lt_fin.2 less)⟩

/-- A confidence of the unit interval and an age that is not negative. -/
def Drawable (sample : Double × Double) : Prop :=
  (∃ q, sample.1 = fin q ∧ 0 ≤ q ∧ q ≤ 1) ∧ ∃ q, sample.2 = fin q ∧ 0 ≤ q

theorem batchSample_drawable {source : OverlaySource} {batch : PendingStreamBatch} {sample : Double × Double}
    (taken : Dashboard.batchSample source batch = some sample) : Drawable sample := by
  unfold Dashboard.batchSample at taken
  cases source with
  | tel =>
    obtain ⟨tel, _, rfl⟩ := Option.map_eq_some_iff.1 taken
    exact ⟨normalizeConfidenceSample_unit tel.confidence, normalizeAgeSample_nonneg tel.telAge⟩
  | vis =>
    obtain ⟨vis, _, rfl⟩ := Option.map_eq_some_iff.1 taken
    exact ⟨normalizeConfidenceSample_unit vis.confidence, normalizeAgeSample_nonneg vis.visAge⟩

/-! ## The histories -/

theorem sanitizeLimit_default : sanitizeLimit defaultHistoryLimit = 60 := by decide +kernel

/-- A finite sample goes to the end of the last sixty. -/
theorem pushHistorySample_rtake {sample : Double} (finite : ∃ q, sample = fin q) (log : List Double) :
    pushHistorySample (log.rtake 60) sample defaultHistoryLimit = (log ++ [sample]).rtake 60 := by
  obtain ⟨q, rfl⟩ := finite
  have kept : sanitizeSample (fin q) = fin q := rfl
  rw [← Window.append_rtake (by decide)]
  unfold pushHistorySample Window.append
  rw [sanitizeLimit_default, kept, List.drop_one]

namespace Dashboard

/-- The samples of a batch are those of its newest message. -/
structure Sampled (source : OverlaySource) (batch : PendingStreamBatch) : Prop where
  confidence : batch.overlayConfidenceSample = (batchSample source batch).map Prod.fst
  age : batch.overlayAgeSample = (batchSample source batch).map Prod.snd

theorem Sampled.empty (source : OverlaySource) : Sampled source {} := by
  cases source <;> exact ⟨rfl, rfl⟩

theorem Sampled.collect {source : OverlaySource} {batch : PendingStreamBatch} (sampled : Sampled source batch)
    (envelope : WsEnvelope) (receivedAtMs : ℤ) :
    Sampled source (Dashboard.collect batch envelope receivedAtMs source).1 := by
  obtain ⟨confidence, age⟩ := sampled
  unfold Dashboard.collect
  cases envelope.event with
  | warning => cases source <;> exact ⟨confidence, age⟩
  | linkStatus =>
    dsimp only
    cases asLinkStatus (.obj envelope.data) <;> cases source <;> exact ⟨confidence, age⟩
  | telUpdate =>
    dsimp only
    cases (parseTelUpdate (.obj envelope.data)).value with
    | none => cases source <;> exact ⟨confidence, age⟩
    | some tel =>
      cases source with
      | tel => exact ⟨rfl, rfl⟩
      | vis => exact ⟨confidence, age⟩
  | visUpdate =>
    dsimp only
    cases (parseVisUpdate (.obj envelope.data)).value with
    | none => cases source <;> exact ⟨confidence, age⟩
    | some vis =>
      cases source with
      | tel => exact ⟨confidence, age⟩
      | vis => exact ⟨rfl, rfl⟩

variable (dashboard : Dashboard)

theorem flushPendingBatch_pendingBatch :
    dashboard.flushPendingBatch.pendingBatch = dashboard.pendingBatch ∨
      dashboard.flushPendingBatch.pendingBatch = {} := by
  unfold flushPendingBatch
  dsimp only
  split
  · exact .inl rfl
  · exact .inr rfl

theorem flushPendingBatch_overlaySource : dashboard.flushPendingBatch.overlaySource = dashboard.overlaySource := by
  unfold flushPendingBatch
  dsimp only
  split <;> rfl

theorem step_overlaySource (event : DashboardEvent) :
    (dashboard.step event).overlaySource = dashboard.overlaySource := by
  have quiet (quiet : Quiet event) : (dashboard.step event).overlaySource = dashboard.overlaySource := by
    rw [step_quiet dashboard quiet]
  cases event with
  | parsedEnvelope envelope receivedAtMs =>
    by_cases warning : envelope.event = .warning
    · exact quiet warning
    · rw [parsedEnvelope_update dashboard warning, scheduleFlush_overlaySource]
  | animationFrame id =>
    cases waits : dashboard.frames.timer? id with
    | none => rw [animationFrame_gone dashboard waits]
    | some timer => rw [animationFrame_step dashboard waits, flushPendingBatch_overlaySource]
  | connectionChange connected => exact quiet trivial
  | transportEvent consecutiveErrors => exact quiet trivial
  | clearWarnings => exact quiet trivial
  | cleanup => rfl

variable {dashboard}

theorem Sampled.step (sampled : Sampled dashboard.overlaySource dashboard.pendingBatch) (event : DashboardEvent) :
    Sampled (dashboard.step event).overlaySource (dashboard.step event).pendingBatch := by
  rw [step_overlaySource]
  have quiet (quiet : Quiet event) : Sampled dashboard.overlaySource (dashboard.step event).pendingBatch := by
    rw [step_quiet dashboard quiet]
    exact sampled
  cases event with
  | parsedEnvelope envelope receivedAtMs =>
    by_cases warning : envelope.event = .warning
    · exact quiet warning
    · rw [parsedEnvelope_update dashboard warning, scheduleFlush_pendingBatch]
      exact sampled.collect envelope receivedAtMs
  | animationFrame id =>
    cases waits : dashboard.frames.timer? id with
    | none =>
      rw [animationFrame_gone dashboard waits]
      exact sampled
    | some timer =>
      rw [animationFrame_step dashboard waits]
      cases flushPendingBatch_pendingBatch { dashboard with frames := dashboard.frames.clearTimeout id } with
      | inl kept =>
        rw [kept]
        exact sampled
      | inr empty =>
        rw [empty]
        exact Sampled.empty _
  | connectionChange connected => exact quiet trivial
  | transportEvent consecutiveErrors => exact quiet trivial
  | clearWarnings => exact quiet trivial
  | cleanup => exact Sampled.empty _

/-- The histories are the ends of the log. -/
structure Keeps (dashboard : Dashboard) (log : List (Double × Double)) : Prop where
  sampled : Sampled dashboard.overlaySource dashboard.pendingBatch
  confidence : dashboard.state.confidenceHistory = (log.map Prod.fst).rtake 60
  age : dashboard.state.ageHistory = (log.map Prod.snd).rtake 60

theorem handed_pending {event : DashboardEvent} {batch : PendingStreamBatch}
    (handed : dashboard.handed event = some batch) : batch = dashboard.pendingBatch := by
  cases event with
  | animationFrame id =>
    unfold Dashboard.handed at handed
    dsimp only at handed
    split at handed
    · exact (Option.some_inj.1 handed).symm
    · cases handed
  | _ => cases handed

/-- A sample that is there goes to the end of its history. -/
theorem pushSample_rtake (field : Double × Double → Double) {sample : Option (Double × Double)}
    (finite : ∀ found ∈ sample, ∃ q, field found = fin q) (log : List (Double × Double)) :
    (sample.map field).elim ((log.map field).rtake 60)
        (pushHistorySample ((log.map field).rtake 60) · defaultHistoryLimit) =
      ((log ++ sample.toList).map field).rtake 60 := by
  cases sample with
  | none => rw [Option.toList_none, List.append_nil, Option.map_none, Option.elim_none]
  | some found =>
    rw [Option.map_some, Option.elim_some, pushHistorySample_rtake (finite found rfl), Option.toList_some,
      List.map_append, List.map_singleton]

theorem Keeps.handed {log : List (Double × Double)} (keeps : dashboard.Keeps log) :
    let state := dashboard.state.reduceBatch dashboard.pendingBatch
    let shown := log ++ (batchSample dashboard.overlaySource dashboard.pendingBatch).toList
    state.confidenceHistory = (shown.map Prod.fst).rtake 60 ∧ state.ageHistory = (shown.map Prod.snd).rtake 60 := by
  constructor
  · rw [← pushSample_rtake Prod.fst fun _ taken => (batchSample_drawable taken).1.imp fun _ => And.left,
      ← keeps.sampled.confidence, ← keeps.confidence]
    unfold StreamState.reduceBatch
    cases dashboard.pendingBatch.linkStatus <;> rfl
  · rw [← pushSample_rtake Prod.snd fun _ taken => (batchSample_drawable taken).2.imp fun _ => And.left,
      ← keeps.sampled.age, ← keeps.age]
    unfold StreamState.reduceBatch
    cases dashboard.pendingBatch.linkStatus <;> rfl

theorem Keeps.step {log : List (Double × Double)} (keeps : dashboard.Keeps log) (event : DashboardEvent) :
    (dashboard.step event).Keeps (log ++ dashboard.added event) := by
  have sampled := keeps.sampled.step event
  cases handed : dashboard.handed event with
  | none =>
    have same : (dashboard.step event).state.streamed = dashboard.state.streamed := by
      rw [step_state, handed]
      exact StreamState.streamed_reduceAll _ (actions_plain event)
    have nothing : dashboard.added event = [] := by
      unfold added
      rw [handed]
      rfl
    have histories := congrArg Prod.snd same
    rw [nothing, List.append_nil]
    exact ⟨sampled, (congrArg Prod.fst histories).trans keeps.confidence, (congrArg Prod.snd histories).trans keeps.age⟩
  | some batch =>
    obtain rfl := handed_pending handed
    have reduced : (dashboard.step event).state = dashboard.state.reduceBatch dashboard.pendingBatch := by
      rw [step_state, handed]
      rfl
    have added : dashboard.added event = (batchSample dashboard.overlaySource dashboard.pendingBatch).toList := by
      unfold added
      rw [handed]
      rfl
    obtain ⟨confidence, age⟩ := keeps.handed
    refine ⟨sampled, ?_, ?_⟩
    · rw [reduced, added, confidence]
    · rw [reduced, added, age]

theorem Keeps.run {log : List (Double × Double)} (keeps : dashboard.Keeps log) (events : List DashboardEvent) :
    (events.foldl Dashboard.step dashboard).Keeps (log ++ samples dashboard events) := by
  induction events generalizing dashboard log with
  | nil =>
    unfold samples
    rwa [List.append_nil]
  | cons event rest ih =>
    unfold samples
    rw [← List.append_assoc]
    exact ih (keeps.step event)

theorem samples_drawable (events : List DashboardEvent) : ∀ sample ∈ samples dashboard events, Drawable sample := by
  induction events generalizing dashboard with
  | nil => exact List.forall_mem_nil _
  | cons event rest ih =>
    intro sample member
    unfold samples at member
    cases List.mem_append.1 member with
    | inl now =>
      obtain ⟨batch, -, taken⟩ := Option.bind_eq_some_iff.1 (Option.mem_toList.1 now)
      exact batchSample_drawable taken
    | inr later => exact ih sample later

end Dashboard

open Dashboard in
/-- The histories hold the samples of the last sixty batches that had one, side by side, and all can be drawn. -/
theorem histories_shown (source : OverlaySource) (events : List DashboardEvent) :
    let state := (run source events).state
    let log := (samples { overlaySource := source } events).rtake 60
    state.confidenceHistory = log.map Prod.fst ∧ state.ageHistory = log.map Prod.snd ∧
      log.length ≤ 60 ∧ ∀ sample ∈ log, Drawable sample := by
  have keeps : (run source events).Keeps ([] ++ samples { overlaySource := source } events) :=
    Keeps.run ⟨Sampled.empty source, rfl, rfl⟩ events
  have mapped (f : Double × Double → Double) (log : List (Double × Double)) :
      (log.map f).rtake 60 = (log.rtake 60).map f := by
    unfold List.rtake
    rw [List.length_map, List.map_drop]
  rw [List.nil_append] at keeps
  refine ⟨keeps.confidence.trans (mapped _ _), keeps.age.trans (mapped _ _), ?_, ?_⟩
  · unfold List.rtake
    rw [List.length_drop]
    omega
  · exact fun sample member => samples_drawable events sample (List.mem_of_mem_drop member)

end AotDrone.Webapp
