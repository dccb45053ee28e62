import AotDrone.Vision.RunLoop
import Mathlib.Data.List.DropRight

/-! What a run of the vision loop puts out: two gates thin the frames, neither in the way of the other nor of the
pipeline, and a warning marks every long stretch of dark frames once. -/

namespace AotDrone.Vision
open AotDrone.Lib AotDrone.Lib.Double AotDrone.Json

section seen
variable [Fpu]

/-- A frame that the loop has taken, with what has come of it. -/
structure SeenFrame where
  frameId : ℤ
  reading : Reading
  result : Except VisionError TrackerResult

variable [Libm] [Sine] (config : VisionConfig)

/-- The frames that the loop takes, up to the one that ends it. -/
def seenFrames : ResultSource → ℤ → List (Option Reading) → List SeenFrame
  | _, _, [] => []
  | source, frameId, none :: rest => if config.isLive then seenFrames source frameId rest else []
  | source, frameId, some reading :: rest =>
    let frameId := frameId + 1
    match source.result frameId reading with
    | .error e => [⟨frameId, reading, .error e⟩]
    | .ok (source, result) =>
      ⟨frameId, reading, .ok result⟩ ::
        if RunLoop.stops config frameId reading then [] else seenFrames source frameId rest

omit [Libm] [Sine] in
/-- A frame that has been processed, with its result. -/
def SeenFrame.processed (seen : SeenFrame) : Option (SeenFrame × TrackerResult) :=
  match seen.result with
  | .ok result => some (seen, result)
  | .error _ => none

/-- The frames of a run that come after `next`, each an interval after the one before. -/
def paced (interval : Double) : Double → List (SeenFrame × TrackerResult) → List (SeenFrame × TrackerResult)
  | _, [] => []
  | next, frame :: rest =>
    let now := frame.1.reading.now
    if interval = 0 ∨ next ≤ now then
      frame :: paced interval (if 0 < interval then now + interval else next) rest
    else paced interval next rest

/-- The payloads of some frames, numbered from `seq` on. -/
def payloads : ℕ → List (SeenFrame × TrackerResult) → List Value
  | _, [] => []
  | seq, (seen, result) :: rest =>
    buildVisPayload seq seen.reading.now result.state result.bbox result.conf :: payloads (seq + 1) rest

def report (frame : SeenFrame × TrackerResult) : VisReport where
  ts := frame.1.reading.now
  result := frame.2
  frameId := frame.1.frameId
  imgWh := (frame.1.reading.imgW, frame.1.reading.imgH)

end seen

namespace LoopEffect
variable [Fpu]

def payload? : LoopEffect → Option Value
  | send payload => some payload
  | blackFrameWarning _ _ | pushFrame _ _ | publish _ => none

def report? : LoopEffect → Option VisReport
  | publish report => some report
  | blackFrameWarning _ _ | pushFrame _ _ | send _ => none

def push? : LoopEffect → Option (ℤ × ℤ)
  | pushFrame frameId quality => some (frameId, quality)
  | blackFrameWarning _ _ | publish _ | send _ => none

def warning? : LoopEffect → Option (ℕ × ℤ)
  | blackFrameWarning consecutive frameId => some (consecutive, frameId)
  | pushFrame _ _ | publish _ | send _ => none

end LoopEffect

/-! ## Outputs -/

/-- What has been put out, and when the next may follow. -/
structure Outputs where
  payloads : List Value
  reports : List VisReport
  pushes : List (ℤ × ℤ)
  emittedCount : ℕ
  visSeq : ℕ
  nextVisEmit : Double
  nextFramePush : Double

section outputs
variable [Fpu]

def RunLoop.outputs (loop : RunLoop) : Outputs where
  payloads := loop.effects.filterMap LoopEffect.payload?
  reports := loop.effects.filterMap LoopEffect.report?
  pushes := loop.effects.filterMap LoopEffect.push?
  emittedCount := loop.emittedCount
  visSeq := loop.visSeq
  nextVisEmit := loop.nextVisEmit
  nextFramePush := loop.nextFramePush

variable (config : VisionConfig)

def Outputs.push (out : Outputs) (frame : SeenFrame × TrackerResult) : Outputs :=
  let now := frame.1.reading.now
  if ¬ config.noFramePush ∧ (config.frameInterval = 0 ∨ out.nextFramePush ≤ now) then
    { out with
      pushes := out.pushes ++ [(frame.1.frameId, config.jpegQuality)]
      nextFramePush := if 0 < config.frameInterval then now + config.frameInterval else out.nextFramePush }
  else out

def Outputs.emit (out : Outputs) (frame : SeenFrame × TrackerResult) : Outputs :=
  let now := frame.1.reading.now
  if config.visInterval = 0 ∨ out.nextVisEmit ≤ now then
    { out with
      payloads := out.payloads ++ if config.noVisUdp then [] else Vision.payloads out.visSeq [frame]
      visSeq := if config.noVisUdp then out.visSeq else out.visSeq + 1
      reports := out.reports ++ [report frame]
      emittedCount := out.emittedCount + 1
      nextVisEmit := if 0 < config.visInterval then now + config.visInterval else out.nextVisEmit }
  else out

/-- What one processed frame adds. -/
def Outputs.take (out : Outputs) (frame : SeenFrame × TrackerResult) : Outputs := (out.push config frame).emit config frame

variable {config}

theorem outputs_checkBlackFrame (loop : RunLoop) (reading : Reading) :
    (loop.checkBlackFrame reading).outputs = loop.outputs ∧ (loop.checkBlackFrame reading).source = loop.source ∧
      (loop.checkBlackFrame reading).frameId = loop.frameId ∧ (loop.checkBlackFrame reading).phase = loop.phase := by
  unfold RunLoop.checkBlackFrame
  dsimp only
  split_ifs
  · refine ⟨?_, rfl, rfl, rfl⟩
    simp [RunLoop.outputs, List.filterMap_append, LoopEffect.payload?, LoopEffect.report?, LoopEffect.push?]
  · exact ⟨rfl, rfl, rfl, rfl⟩
  · exact ⟨rfl, rfl, rfl, rfl⟩

theorem outputs_pushFrame (loop : RunLoop) (frame : SeenFrame × TrackerResult) (same : frame.1.frameId = loop.frameId) :
    (loop.pushFrame config frame.1.reading.now).outputs = loop.outputs.push config frame ∧
      (loop.pushFrame config frame.1.reading.now).source = loop.source ∧
      (loop.pushFrame config frame.1.reading.now).frameId = loop.frameId ∧
      (loop.pushFrame config frame.1.reading.now).phase = loop.phase := by
  unfold RunLoop.pushFrame Outputs.push
  dsimp only
  split_ifs <;>
    simp_all [RunLoop.outputs, List.filterMap_append, LoopEffect.payload?, LoopEffect.report?, LoopEffect.push?]

theorem outputs_emit (loop : RunLoop) (frame : SeenFrame × TrackerResult) (same : frame.1.frameId = loop.frameId) :
    (loop.emit config frame.1.reading frame.2).outputs = loop.outputs.emit config frame ∧
      (loop.emit config frame.1.reading frame.2).source = loop.source ∧
      (loop.emit config frame.1.reading frame.2).frameId = loop.frameId ∧
      (loop.emit config frame.1.reading frame.2).phase = loop.phase := by
  unfold RunLoop.emit RunLoop.sendVis Outputs.emit
  dsimp only
  split_ifs <;>
    simp_all [RunLoop.outputs, List.filterMap_append, List.filterMap_cons, LoopEffect.payload?, LoopEffect.report?,
      LoopEffect.push?, report, payloads]

variable [Libm] [Sine]

theorem takeFrame_error {loop : RunLoop} {reading : Reading} {e : VisionError}
    (raises : loop.source.result (loop.frameId + 1) reading = .error e) :
    (loop.takeFrame config reading).outputs = loop.outputs ∧ (loop.takeFrame config reading).phase = .raised := by
  obtain ⟨outputs, source, frameId, -⟩ := outputs_checkBlackFrame { loop with frameId := loop.frameId + 1 } reading
  unfold RunLoop.takeFrame
  dsimp only
  rw [source, frameId, raises]
  exact ⟨outputs, rfl⟩

variable (config) in
theorem takeFrame_ok {loop : RunLoop} {reading : Reading} {source : ResultSource} {result : TrackerResult}
    (returns : loop.source.result (loop.frameId + 1) reading = .ok (source, result)) :
    (loop.takeFrame config reading).outputs =
        loop.outputs.take config (⟨loop.frameId + 1, reading, .ok result⟩, result) ∧
      (loop.takeFrame config reading).source = source ∧ (loop.takeFrame config reading).frameId = loop.frameId + 1 ∧
      (loop.takeFrame config reading).phase =
        if RunLoop.stops config (loop.frameId + 1) reading then .ended else loop.phase := by
  obtain ⟨outputs, same, frameId, phase⟩ := outputs_checkBlackFrame { loop with frameId := loop.frameId + 1 } reading
  have taken : loop.takeFrame config reading =
      let after := ({ ({ loop with frameId := loop.frameId + 1 } : RunLoop).checkBlackFrame reading with source }.pushFrame
        config reading.now).emit config reading result
      if RunLoop.stops config after.frameId reading then { after with phase := .ended } else after := by
    unfold RunLoop.takeFrame
    dsimp only
    rw [same, frameId, returns]
  generalize ({ loop with frameId := loop.frameId + 1 } : RunLoop).checkBlackFrame reading = dark
    at taken outputs same frameId phase
  obtain ⟨pushes, source', frameId', phase'⟩ := @outputs_pushFrame _ config { dark with source }
    (⟨loop.frameId + 1, reading, .ok result⟩, result) frameId.symm
  obtain ⟨emits, source'', frameId'', phase''⟩ := @outputs_emit _ config
    ({ dark with source }.pushFrame config reading.now) (⟨loop.frameId + 1, reading, .ok result⟩, result)
    (frameId.symm.trans frameId'.symm)
  generalize ({ dark with source }.pushFrame config reading.now).emit config reading result = after
    at taken emits source'' frameId'' phase''
  have out : after.outputs = loop.outputs.take config (⟨loop.frameId + 1, reading, .ok result⟩, result) := by
    rw [emits, pushes]
    exact congrArg (fun out => (Outputs.push config out _).emit config _) outputs
  have number : after.frameId = loop.frameId + 1 := frameId''.trans (frameId'.trans frameId)
  dsimp only at taken
  rw [taken, number]
  split_ifs
  · exact ⟨out, source''.trans source', rfl, rfl⟩
  · exact ⟨out, source''.trans source', number, phase''.trans (phase'.trans phase)⟩

/-- What one turn sees. -/
def seenNow (source : ResultSource) (frameId : ℤ) (read : Option Reading) : List SeenFrame :=
  read.toList.map fun reading =>
    ⟨frameId + 1, reading, (source.result (frameId + 1) reading).map Prod.snd⟩

theorem seenNow_some (source : ResultSource) (frameId : ℤ) (reading : Reading) :
    seenNow source frameId (some reading) =
      [⟨frameId + 1, reading, (source.result (frameId + 1) reading).map Prod.snd⟩] := rfl

theorem seenFrames_step {loop : RunLoop} (running : loop.phase = .running) (read : Option Reading)
    (rest : List (Option Reading)) :
    seenFrames config loop.source loop.frameId (read :: rest) = seenNow loop.source loop.frameId read ++
      if (loop.step config read).phase = .running then
        seenFrames config (loop.step config read).source (loop.step config read).frameId rest
      else [] := by
  cases read with
  | none =>
    rw [seenFrames, RunLoop.step, running]
    dsimp only
    split_ifs <;> simp_all [seenNow]
  | some reading =>
    rw [seenFrames, RunLoop.step, running]
    dsimp only
    rw [seenNow_some]
    cases returned : loop.source.result (loop.frameId + 1) reading with
    | error e =>
      rw [(takeFrame_error returned).2, if_neg LoopPhase.noConfusion]
      rfl
    | ok pair =>
      obtain ⟨-, source, frameId, phase⟩ := takeFrame_ok config returned
      rw [source, frameId, phase, running]
      cases RunLoop.stops config (loop.frameId + 1) reading with
      | true => rfl
      | false => rfl

theorem outputs_step {loop : RunLoop} (running : loop.phase = .running) (read : Option Reading) :
    (loop.step config read).outputs =
      ((seenNow loop.source loop.frameId read).filterMap SeenFrame.processed).foldl (Outputs.take config)
        loop.outputs := by
  unfold RunLoop.step
  rw [running]
  cases read with
  | none =>
    dsimp only
    split_ifs <;> rfl
  | some reading =>
    dsimp only
    rw [seenNow_some]
    cases returned : loop.source.result (loop.frameId + 1) reading with
    | error e => exact (takeFrame_error returned).1
    | ok pair => exact (takeFrame_ok config returned).1

theorem step_ended {loop : RunLoop} (ended : loop.phase ≠ .running) (reads : List (Option Reading)) :
    reads.foldl (RunLoop.step config) loop = loop := by
  induction reads with
  | nil => rfl
  | cons read rest ih =>
    have stays : loop.step config read = loop := by
      unfold RunLoop.step
      cases phase : loop.phase with
      | running => exact absurd phase ended
      | ended | raised => rfl
    rw [List.foldl_cons, stays, ih]

/-- A run puts out what the processed frames add, one after the other. -/
theorem outputs_run {loop : RunLoop} (running : loop.phase = .running) (reads : List (Option Reading)) :
    (reads.foldl (RunLoop.step config) loop).outputs =
      ((seenFrames config loop.source loop.frameId reads).filterMap SeenFrame.processed).foldl (Outputs.take config)
        loop.outputs := by
  induction reads generalizing loop with
  | nil => rfl
  | cons read rest ih =>
    rw [seenFrames_step running, List.filterMap_append, List.foldl_append, ← outputs_step running, List.foldl_cons]
    split_ifs with still
    · exact ih still
    · rw [step_ended still]
      rfl

/-! ## Thinned frames -/

omit [Libm] [Sine] in
theorem payloads_append (seq : ℕ) (frame : SeenFrame × TrackerResult) (rest : List (SeenFrame × TrackerResult)) :
    payloads seq (frame :: rest) = payloads seq [frame] ++ payloads (seq + 1) rest := rfl

variable (config) in
omit [Libm] [Sine] in
theorem emit_frame (out : Outputs) (frame : SeenFrame × TrackerResult) :
    (out.emit config frame).pushes = out.pushes ∧ (out.emit config frame).nextFramePush = out.nextFramePush := by
  unfold Outputs.emit
  dsimp only
  split_ifs <;> exact ⟨rfl, rfl⟩

variable (config) in
omit [Libm] [Sine] in
theorem push_frame (out : Outputs) (frame : SeenFrame × TrackerResult) :
    ∃ pushes next, out.push config frame = { out with pushes := pushes, nextFramePush := next } := by
  unfold Outputs.push
  dsimp only
  split
  · exact ⟨_, _, rfl⟩
  · exact ⟨out.pushes, out.nextFramePush, rfl⟩

variable (config) in
omit [Libm] [Sine] in
theorem take_pushes (out : Outputs) (frames : List (SeenFrame × TrackerResult)) :
    (frames.foldl (Outputs.take config) out).pushes = out.pushes ++
      if config.noFramePush then []
      else (paced config.frameInterval out.nextFramePush frames).map fun frame =>
        (frame.1.frameId, config.jpegQuality) := by
  induction frames generalizing out with
  | nil => simp [paced]
  | cons frame rest ih =>
    obtain ⟨pushes, next⟩ := emit_frame config (out.push config frame) frame
    rw [List.foldl_cons, ih, Outputs.take, pushes, next, Outputs.push, paced]
    cases config.noFramePush with
    | true => simp
    | false =>
      by_cases due : config.frameInterval = 0 ∨ out.nextFramePush ≤ frame.1.reading.now
      · simp [due]
      · simp [due]

variable (config) in
omit [Libm] [Sine] in
theorem take_emits (out : Outputs) (frames : List (SeenFrame × TrackerResult)) :
    (frames.foldl (Outputs.take config) out).reports =
        out.reports ++ (paced config.visInterval out.nextVisEmit frames).map report ∧
      (frames.foldl (Outputs.take config) out).emittedCount =
        out.emittedCount + (paced config.visInterval out.nextVisEmit frames).length ∧
      (frames.foldl (Outputs.take config) out).payloads = out.payloads ++
        if config.noVisUdp then [] else payloads out.visSeq (paced config.visInterval out.nextVisEmit frames) := by
  induction frames generalizing out with
  | nil => simp [paced, payloads]
  | cons frame rest ih =>
    obtain ⟨pushes, next, pushed⟩ := push_frame config out frame
    obtain ⟨reports, count, sent⟩ := ih (out.take config frame)
    rw [List.foldl_cons, reports, count, sent, Outputs.take, pushed, Outputs.emit, paced]
    by_cases due : config.visInterval = 0 ∨ out.nextVisEmit ≤ frame.1.reading.now
    · cases config.noVisUdp with
      | true => simp [due, Nat.add_assoc, Nat.add_comm 1]
      | false =>
        refine ⟨by simp [due], by simp [due, Nat.add_assoc, Nat.add_comm 1], ?_⟩
        rw [if_pos due, if_pos due, if_neg Bool.false_ne_true, if_neg Bool.false_ne_true, payloads_append,
          List.append_assoc]
        rfl
    · simp [due]

theorem payloads_run (source : ResultSource) (reads : List (Option Reading)) :
    (RunLoop.run config source reads).effects.filterMap LoopEffect.payload? =
      if config.noVisUdp then [] else payloads 1
        (paced config.visInterval 0 ((seenFrames config source 0 reads).filterMap SeenFrame.processed)) := by
  have outputs : (RunLoop.run config source reads).outputs =
      ((seenFrames config source 0 reads).filterMap SeenFrame.processed).foldl (Outputs.take config)
        ({ source } : RunLoop).outputs := outputs_run rfl reads
  obtain ⟨-, -, sent⟩ := take_emits config ({ source } : RunLoop).outputs
    ((seenFrames config source 0 reads).filterMap SeenFrame.processed)
  rw [← outputs] at sent
  exact sent

/-- The payloads are those of the frames that the rate lets through, numbered without a gap; the frames that are pushed
are those that the other rate lets through; and both look at every frame the pipeline has processed. -/
theorem run_outputs (source : ResultSource) (reads : List (Option Reading)) :
    let loop := RunLoop.run config source reads
    let processed := (seenFrames config source 0 reads).filterMap SeenFrame.processed
    let emitted := paced config.visInterval 0 processed
    loop.effects.filterMap LoopEffect.payload? = (if config.noVisUdp then [] else payloads 1 emitted) ∧
      loop.effects.filterMap LoopEffect.report? = emitted.map report ∧ loop.emittedCount = emitted.length ∧
      loop.effects.filterMap LoopEffect.push? =
        if config.noFramePush then []
        else (paced config.frameInterval 0 processed).map fun frame => (frame.1.frameId, config.jpegQuality) := by
  intro loop processed emitted
  have outputs : loop.outputs = processed.foldl (Outputs.take config) ({ source } : RunLoop).outputs := outputs_run rfl reads
  obtain ⟨reports, count, -⟩ := take_emits config ({ source } : RunLoop).outputs processed
  have pushes := take_pushes config ({ source } : RunLoop).outputs processed
  rw [← outputs] at reports count pushes
  exact ⟨payloads_run source reads, reports, count.trans (Nat.zero_add _), pushes⟩

end outputs

/-! ## Dark stretches -/

section dark
variable [Fpu]

/-- How many dark frames the last one ends. -/
def streak (seen : List SeenFrame) : ℕ := (seen.rtakeWhile fun frame => frame.reading.isLowVariance).length

/-- The warning that the last frame brings: the stretch of dark frames that it ends has just become long. -/
def darkWarning (seen : List SeenFrame) : Option (ℕ × ℤ) :=
  if streak seen = blackFrameWarnAfter then seen.getLast?.map fun frame => (blackFrameWarnAfter, frame.frameId)
  else none

/-- The loop knows of the frames so far how long the stretch is, and whether it has warned of it. -/
structure DarkInv (seen : List SeenFrame) (loop : RunLoop) : Prop where
  consecutive : loop.consecutiveBlackFrames = streak seen
  emitted : loop.blackFrameWarnEmitted = decide (blackFrameWarnAfter ≤ streak seen)
  warnings : loop.effects.filterMap LoopEffect.warning? = seen.inits.filterMap darkWarning

theorem streak_append (seen : List SeenFrame) (frame : SeenFrame) :
    streak (seen ++ [frame]) = if frame.reading.isLowVariance then streak seen + 1 else 0 := by
  unfold streak
  rw [List.rtakeWhile_concat]
  split_ifs
  · exact List.length_append
  · rfl

theorem warnings_append (seen : List SeenFrame) (frame : SeenFrame) :
    (seen ++ [frame]).inits.filterMap darkWarning = seen.inits.filterMap darkWarning ++
      if streak (seen ++ [frame]) = blackFrameWarnAfter then [(blackFrameWarnAfter, frame.frameId)] else [] := by
  rw [List.inits_append, List.filterMap_append]
  congr 1
  simp only [List.inits, List.tail_cons, List.map_cons, List.map_nil, List.filterMap_cons, darkWarning,
    List.filterMap_nil]
  split_ifs
  · simp
  · rfl

theorem DarkInv.check {seen : List SeenFrame} {loop : RunLoop} (inv : DarkInv seen loop) (frame : SeenFrame)
    (same : frame.frameId = loop.frameId) : DarkInv (seen ++ [frame]) (loop.checkBlackFrame frame.reading) := by
  have length := streak_append seen frame
  have warnings := warnings_append seen frame
  have threshold : blackFrameWarnAfter = 30 := rfl
  unfold RunLoop.checkBlackFrame
  dsimp only
  split_ifs with dark long
  · rw [if_pos dark] at length
    rw [inv.consecutive, inv.emitted, decide_eq_true_eq] at long
    refine ⟨by rw [length, inv.consecutive], by rw [length]; exact (decide_eq_true (by omega)).symm, ?_⟩
    rw [warnings, if_pos (by omega), List.filterMap_append, inv.warnings, same, inv.consecutive]
    have exact30 : streak seen + 1 = blackFrameWarnAfter := by omega
    rw [← exact30]
    rfl
  · rw [if_pos dark] at length
    rw [inv.consecutive, inv.emitted, decide_eq_true_eq] at long
    refine ⟨by rw [length, inv.consecutive], ?_, ?_⟩
    · rw [length, inv.emitted]
      exact decide_eq_decide.2 (by omega)
    · rw [warnings, if_neg (by omega), List.append_nil]
      exact inv.warnings
  · rw [if_neg dark] at length
    refine ⟨length.symm, by rw [length]; rfl, ?_⟩
    rw [warnings, length, if_neg (by decide), List.append_nil]
    exact inv.warnings

variable {config : VisionConfig}

/-- What is pushed and sent has nothing to do with dark frames. -/
theorem DarkInv.of_same {seen : List SeenFrame} {loop after : RunLoop} (inv : DarkInv seen loop)
    (consecutive : after.consecutiveBlackFrames = loop.consecutiveBlackFrames)
    (emitted : after.blackFrameWarnEmitted = loop.blackFrameWarnEmitted)
    (warnings : after.effects.filterMap LoopEffect.warning? = loop.effects.filterMap LoopEffect.warning?) :
    DarkInv seen after :=
  ⟨consecutive.trans inv.consecutive, emitted.trans inv.emitted, warnings.trans inv.warnings⟩

variable (config) in
theorem DarkInv.pushFrame {seen : List SeenFrame} {loop : RunLoop} (inv : DarkInv seen loop) (now : Double) :
    DarkInv seen (loop.pushFrame config now) := by
  unfold RunLoop.pushFrame
  split
  · exact inv.of_same rfl rfl (by simp [List.filterMap_append, LoopEffect.warning?])
  · exact inv

variable (config) in
theorem DarkInv.emit {seen : List SeenFrame} {loop : RunLoop} (inv : DarkInv seen loop) (reading : Reading)
    (result : TrackerResult) : DarkInv seen (loop.emit config reading result) := by
  unfold RunLoop.emit RunLoop.sendVis
  dsimp only
  split
  · split
    · exact inv.of_same rfl rfl (by simp [List.filterMap_append, LoopEffect.warning?])
    · exact inv.of_same rfl rfl (by simp [List.filterMap_append, List.filterMap_cons, LoopEffect.warning?])
  · exact inv

variable [Libm] [Sine]

theorem DarkInv.step {seen : List SeenFrame} {loop : RunLoop} (inv : DarkInv seen loop)
    (running : loop.phase = .running) (read : Option Reading) :
    DarkInv (seen ++ seenNow loop.source loop.frameId read) (loop.step config read) := by
  unfold RunLoop.step
  rw [running]
  cases read with
  | none =>
    rw [show seenNow loop.source loop.frameId none = [] from rfl, List.append_nil]
    dsimp only
    split_ifs
    · exact inv
    · exact inv.of_same rfl rfl rfl
  | some reading =>
    have next : DarkInv seen { loop with frameId := loop.frameId + 1 } := inv.of_same rfl rfl rfl
    have dark := next.check ⟨loop.frameId + 1, reading, (loop.source.result (loop.frameId + 1) reading).map Prod.snd⟩ rfl
    rw [seenNow_some]
    dsimp only at dark ⊢
    unfold RunLoop.takeFrame
    dsimp only
    split
    · exact dark.of_same rfl rfl rfl
    · next source result _ =>
      have from_ : DarkInv _ { ({ loop with frameId := loop.frameId + 1 } : RunLoop).checkBlackFrame reading with
          source := source } := dark.of_same rfl rfl rfl
      have out := (from_.pushFrame config reading.now).emit config reading result
      split_ifs
      · exact out.of_same rfl rfl rfl
      · exact out

theorem DarkInv.run {seen : List SeenFrame} {loop : RunLoop} (inv : DarkInv seen loop) (running : loop.phase = .running)
    (reads : List (Option Reading)) :
    DarkInv (seen ++ seenFrames config loop.source loop.frameId reads) (reads.foldl (RunLoop.step config) loop) := by
  induction reads generalizing seen loop with
  | nil =>
    rw [seenFrames, List.append_nil]
    exact inv
  | cons read rest ih =>
    rw [seenFrames_step running, ← List.append_assoc, List.foldl_cons]
    split_ifs with still
    · exact ih (inv.step running read) still
    · rw [step_ended still, List.append_nil]
      exact inv.step running read

/-- A warning comes with exactly those frames that make a stretch of dark frames thirty long, so once in each long
stretch, however many reads fail in between. -/
theorem run_warnings (source : ResultSource) (reads : List (Option Reading)) :
    (RunLoop.run config source reads).effects.filterMap LoopEffect.warning? =
      (seenFrames config source 0 reads).inits.filterMap darkWarning := by
  have start : DarkInv [] ({ source } : RunLoop) := ⟨rfl, rfl, rfl⟩
  have inv : DarkInv ([] ++ seenFrames config source 0 reads) (RunLoop.run config source reads) := start.run rfl reads
  rw [List.nil_append] at inv
  exact inv.warnings

end dark
end AotDrone.Vision
