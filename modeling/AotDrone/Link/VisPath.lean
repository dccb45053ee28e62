import AotDrone.Lib.Run
import AotDrone.Link.VisDatagram
import AotDrone.Vision.Cadence
import AotDrone.Vision.VisUdpSender

/-! The whole way of the VIS messages: the loop of the vision process, its sender, a network that loses, repeats and
reorders, and the ingestor of the backend. -/

namespace AotDrone.Link
open AotDrone.Lib AotDrone.Lib.Double AotDrone.Json AotDrone.Backend AotDrone.Vision

section path
variable [Fpu] [FloatRepr] [Libm] [Sine]

/-- The vision process, the backend, and what each call of `process_datagram` has returned with the message that the
backend held after it. -/
structure VisPath where
  loop : RunLoop
  sender : VisUdpSender := {}
  backend : SharedState
  answers : List (Except Escaped Bool × Option VisMessage) := []

/-- A turn of the vision loop, with what comes of its send; a datagram that was sent arrives. -/
inductive VisPathEvent where
  | turn (read : Option Vision.Reading) (call : SendCall)
  | arrive (index : ℕ) (rxMonotonic : Double)

/-- The payloads that the loop has handed to its sender. -/
def loopPayloads (loop : RunLoop) : List Value := loop.effects.filterMap LoopEffect.payload?

namespace VisPath

def step (config : VisionConfig) (path : VisPath) : VisPathEvent → VisPath
  | .turn read call =>
    let loop := path.loop.step config read
    let handed := (loopPayloads loop).drop (loopPayloads path.loop).length
    { path with loop, sender := (handed.map (·, call)).foldl (VisUdpSender.step {}) path.sender }
  | .arrive index rxMonotonic =>
    match path.sender.datagrams[index]? with
    | none => path
    | some data =>
      let (backend, answer) := ingest {} path.backend (.vis data rxMonotonic)
      { path with backend, answers := path.answers ++ [(answer, backend.vis.latest)] }

/-- The start of both processes. -/
def start (source : ResultSource) (cmdNextSeq : ℤ) : VisPath := { loop := { source }, backend := { cmdNextSeq } }

def run (config : VisionConfig) (source : ResultSource) (cmdNextSeq : ℤ) (events : List VisPathEvent) : VisPath :=
  events.foldl (step config) (start source cmdNextSeq)

/-- The call of `sendto` in a turn that hands the sender a payload. -/
def sendto (config : VisionConfig) (path : VisPath) : VisPathEvent → Option SendCall
  | .turn read call =>
    if (loopPayloads path.loop).length < (loopPayloads (path.loop.step config read)).length then some call else none
  | .arrive _ _ => none

/-- The calls of `sendto` in a run. -/
def sendtos (config : VisionConfig) (source : ResultSource) (cmdNextSeq : ℤ) (events : List VisPathEvent) : List SendCall :=
  Run.trail (step config) (sendto config) (start source cmdNextSeq) events

/-- Which of the datagrams sent so far arrives. -/
def arrival (path : VisPath) : VisPathEvent → Option ℕ
  | .turn _ _ => none
  | .arrive index _ => if index < path.sender.datagrams.length then some index else none

/-- Which datagrams arrive in a run, in their order. -/
def arrivals (config : VisionConfig) (source : ResultSource) (cmdNextSeq : ℤ) (events : List VisPathEvent) : List ℕ :=
  Run.trail (step config) arrival (start source cmdNextSeq) events

end VisPath

omit [FloatRepr] [Libm] [Sine] in
/-- What `source.read` returns in the turns of a run. -/
def VisPathEvent.read? : VisPathEvent → Option (Option Vision.Reading)
  | .turn read _ => some read
  | .arrive _ _ => none

/-- The frames whose payload the rate lets through. -/
def emittedFrames (config : VisionConfig) (source : ResultSource) (events : List VisPathEvent) :
    List (SeenFrame × TrackerResult) :=
  paced config.visInterval 0
    ((seenFrames config source 0 (events.filterMap VisPathEvent.read?)).filterMap SeenFrame.processed)

omit [FloatRepr] [Libm] [Sine] in
/-- The message of a frame under a number. -/
def messageOf (seq : ℕ) (frame : SeenFrame × TrackerResult) : VisMessage :=
  visFields seq frame.1.reading.now frame.2.state frame.2.bbox frame.2.conf

omit [FloatRepr] [Libm] [Sine] in
/-- The messages of some frames, numbered from `seq` on. -/
def messages : ℕ → List (SeenFrame × TrackerResult) → List VisMessage
  | _, [] => []
  | seq, frame :: rest => messageOf seq frame :: messages (seq + 1) rest

omit [FloatRepr] [Libm] [Sine] in
/-- The messages whose call of `sendto` has taken the datagram. -/
def carried (messages : List VisMessage) (calls : List SendCall) : List VisMessage :=
  ((messages.zip calls).filter fun sending => sending.2.taken).map Prod.fst

/-! ## Payloads that are stored -/

omit [FloatRepr] in
/-- The pipeline holds a float, from which every later result is made. -/
def Held : ResultSource → Prop
  | .detect _ pipeline => IsDouble pipeline.lastTrackingConf
  | .pattern _ => True

/-- The payload says what the message says, fits a datagram, and is stored as it is. -/
def Storable (payload : Value) (message : VisMessage) : Prop :=
  payload = .obj (visMembers message) ∧ (dumps payload).length ≤ 512 ∧
    ∀ (state : SharedState) (rxMonotonic : Double), ingest {} state (.vis (encodeCompactJson payload) rxMonotonic) =
      ({ state with
          vis := state.vis.recordRxTotal.recordOk message message.seq message.timestamp rxMonotonic }, .ok true)

omit [FloatRepr] [Libm] [Sine] in
/-- Of a result made of floats a payload says what it says of a sound one. -/
theorem sound_twin {result : TrackerResult} (bbox : result.bbox.Doubles) (conf : IsDouble result.conf) :
    ∃ twin : TrackerResult, twin.Sound ∧ ∀ (seq : ℤ) (timestamp : Double),
      visFields seq timestamp result.state result.bbox result.conf =
        visFields seq timestamp twin.state twin.bbox twin.conf := by
  by_cases tracked : result.state = .tracking
  · exact ⟨result, ⟨bbox, conf, fun idle => absurd tracked idle⟩, fun _ _ => rfl⟩
  · have code : trackingStateToCode result.state ≠ trackingStateTracking := by
      cases state : result.state with
      | tracking => exact absurd state tracked
      | noTarget | targetDetected | searching => decide
    refine ⟨Vision.zeroResult result.state, zeroResult_sound _, fun seq timestamp => ?_⟩
    have same : (Vision.zeroResult result.state).state = result.state := rfl
    rw [visFields, visFields, if_pos code, same, if_pos code]

omit [FloatRepr] [Libm] in
theorem sweepBbox_doubles (frameId : ℤ) : (Pattern.sweepBbox frameId).Doubles :=
  ⟨isDouble_clamp01 (isDouble_add _ _), isDouble_clamp01 (isDouble_add _ _), isDouble_round _, isDouble_round _⟩

omit [FloatRepr] [Libm] in
theorem pattern_doubles (mode : Pattern) (frameId : ℤ) :
    (mode.update frameId).bbox.Doubles ∧ IsDouble (mode.update frameId).conf := by
  have tracking (confidence : ℚ) : (Pattern.tracking frameId (Fpu.round confidence)).bbox.Doubles ∧
      IsDouble (Pattern.tracking frameId (Fpu.round confidence)).conf :=
    ⟨sweepBbox_doubles frameId, isDouble_clamp01 (isDouble_round _)⟩
  have detected (confidence : ℚ) : (Pattern.detected frameId (Fpu.round confidence)).bbox.Doubles ∧
      IsDouble (Pattern.detected frameId (Fpu.round confidence)).conf :=
    ⟨sweepBbox_doubles frameId, isDouble_clamp01 (isDouble_round _)⟩
  have zero (state : VisState) : (Pattern.zeroResult state).bbox.Doubles ∧ IsDouble (Pattern.zeroResult state).conf :=
    ⟨⟨isDouble_zero, isDouble_zero, isDouble_zero, isDouble_zero⟩, isDouble_zero⟩
  cases mode with
  | none => exact zero _
  | sweep => exact tracking _
  | lose =>
    unfold Pattern.update Pattern.loseResult
    dsimp only
    split_ifs
    · exact tracking _
    · exact zero _
    · exact zero _
    · exact detected _
  | reacquire =>
    unfold Pattern.update Pattern.reacquireResult
    dsimp only
    split_ifs
    · exact zero _
    · exact detected _
    · exact tracking _
    · exact zero _
    · exact detected _

omit [FloatRepr] in
theorem result_doubles {source after : ResultSource} {frameId : ℤ} {reading : Vision.Reading} {result : TrackerResult}
    (held : Held source) (returned : source.result frameId reading = .ok (after, result)) :
    Held after ∧ result.bbox.Doubles ∧ IsDouble result.conf := by
  cases source with
  | detect config pipeline =>
    unfold ResultSource.result at returned
    rw [bind_eq_ok] at returned
    obtain ⟨⟨later, found⟩, processed, same⟩ := returned
    cases same
    obtain ⟨holds, sound⟩ := VisionPipeline.processFrame_settled held processed
    exact ⟨holds, sound.bbox, sound.conf⟩
  | pattern mode =>
    cases returned
    exact ⟨trivial, pattern_doubles mode frameId⟩

omit [FloatRepr] in
/-- What each result has of a source that keeps an invariant, every processed frame of a run has. -/
theorem forall_processed (config : VisionConfig) (Inv : ResultSource → Prop) (P : SeenFrame × TrackerResult → Prop)
    {reads : List (Option Vision.Reading)}
    (keep : ∀ source frameId reading after result, some reading ∈ reads → Inv source →
      source.result frameId reading = .ok (after, result) → Inv after ∧ P (⟨frameId, reading, .ok result⟩, result))
    {source : ResultSource} (start : Inv source) (frameId : ℤ) :
    ∀ frame ∈ (seenFrames config source frameId reads).filterMap SeenFrame.processed, P frame := by
  induction reads generalizing source frameId with
  | nil => exact List.forall_mem_nil _
  | cons read rest ih =>
    have later : ∀ source frameId reading after result, some reading ∈ rest → Inv source →
        source.result frameId reading = .ok (after, result) →
          Inv after ∧ P (⟨frameId, reading, .ok result⟩, result) :=
      fun source frameId reading after result member =>
        keep source frameId reading after result (List.mem_cons_of_mem _ member)
    cases read with
    | none =>
      rw [seenFrames]
      split_ifs
      · exact ih later start frameId
      · exact List.forall_mem_nil _
    | some reading =>
      rw [seenFrames]
      cases returned : source.result (frameId + 1) reading with
      | error e => exact List.forall_mem_nil _
      | ok pair =>
        obtain ⟨holds, now⟩ := keep source (frameId + 1) reading pair.1 pair.2 List.mem_cons_self start returned
        change ∀ frame ∈ ((⟨frameId + 1, reading, .ok pair.2⟩, pair.2) : SeenFrame × TrackerResult) ::
          (if RunLoop.stops config (frameId + 1) reading then []
            else seenFrames config pair.1 (frameId + 1) rest).filterMap SeenFrame.processed, _
        refine List.forall_mem_cons.2 ⟨now, ?_⟩
        split_ifs
        · exact List.forall_mem_nil _
        · exact ih later holds (frameId + 1)

omit [FloatRepr] in
/-- Every result of a run is made of floats. -/
theorem processed_doubles (config : VisionConfig) {source : ResultSource} (held : Held source)
    (reads : List (Option Vision.Reading)) :
    ∀ frame ∈ (seenFrames config source 0 reads).filterMap SeenFrame.processed,
      frame.2.bbox.Doubles ∧ IsDouble frame.2.conf := by
  refine forall_processed config Held (fun frame => frame.2.bbox.Doubles ∧ IsDouble frame.2.conf) ?_ held 0
  intro source frameId reading after result _ held returned
  exact result_doubles held returned

omit [FloatRepr] in
/-- A frame of a run is one that `source.read` has returned. -/
theorem reading_of_processed (config : VisionConfig) (source : ResultSource) (reads : List (Option Vision.Reading)) :
    ∀ frame ∈ (seenFrames config source 0 reads).filterMap SeenFrame.processed, some frame.1.reading ∈ reads := by
  refine forall_processed config (fun _ => True) (fun frame => some frame.1.reading ∈ reads) ?_ trivial 0
  intro source frameId reading after result member _ _
  exact ⟨trivial, member⟩

omit [FloatRepr] [Libm] [Sine] in
theorem paced_sublist (interval next : Double) (frames : List (SeenFrame × TrackerResult)) :
    (paced interval next frames).Sublist frames := by
  induction frames generalizing next with
  | nil => exact .slnil
  | cons frame rest ih =>
    rw [paced]
    by_cases due : interval = 0 ∨ next ≤ frame.1.reading.now
    · rw [if_pos due]
      exact (ih _).cons_cons frame
    · rw [if_neg due]
      exact (ih _).cons frame

omit [Libm] [Sine] in
/-- The payload of a frame that has come through the rate is stored as it is. -/
theorem storable_frame {seq : ℕ} (few : seq < 2 ^ 63) {frame : SeenFrame × TrackerResult}
    (doubles : frame.2.bbox.Doubles ∧ IsDouble frame.2.conf) (clocked : IsDouble frame.1.reading.now)
    (printed : ∀ x ∈ visFloats (messageOf seq frame), floatBytes x ≤ 24) :
    Storable (.obj (visMembers (messageOf seq frame))) (messageOf seq frame) := by
  obtain ⟨twin, sound, same⟩ := sound_twin doubles.1 doubles.2
  have told : messageOf seq frame = visFields seq frame.1.reading.now twin.state twin.bbox twin.conf := same _ _
  have number : (messageOf seq frame).seq = seq ∧ (messageOf seq frame).timestamp = frame.1.reading.now := by
    rw [messageOf, visFields]
    split_ifs <;> exact ⟨rfl, rfl⟩
  rw [told] at printed number ⊢
  have small : (seq : ℤ).natAbs < 2 ^ 63 := by simpa using few
  have stored := buildVisPayload_stored small clocked sound printed
  refine ⟨rfl, (stored { cmdNextSeq := 0 } 0).1, fun state rxMonotonic => ?_⟩
  rw [number.1, number.2]
  exact (stored state rxMonotonic).2

/-! ## The vision process -/

section vision
variable {config : VisionConfig}

omit [FloatRepr] [Libm] [Sine] in
theorem payloads_eq (seq : ℕ) (frames : List (SeenFrame × TrackerResult)) :
    payloads seq frames = (messages seq frames).map fun message => .obj (visMembers message) := by
  induction frames generalizing seq with
  | nil => rfl
  | cons frame rest ih => exact congrArg _ (ih (seq + 1))

omit [FloatRepr] [Libm] [Sine] in
theorem length_messages (seq : ℕ) (frames : List (SeenFrame × TrackerResult)) :
    (messages seq frames).length = frames.length := by
  induction frames generalizing seq with
  | nil => rfl
  | cons frame rest ih => exact congrArg (· + 1) (ih (seq + 1))

omit [FloatRepr] [Libm] [Sine] in
theorem length_payloads (seq : ℕ) (frames : List (SeenFrame × TrackerResult)) :
    (payloads seq frames).length = frames.length := by
  rw [payloads_eq, List.length_map, length_messages]

omit [FloatRepr] [Libm] [Sine] in
theorem mem_messages {seq : ℕ} {frames : List (SeenFrame × TrackerResult)} {message : VisMessage}
    (member : message ∈ messages seq frames) :
    ∃ i frame, frames[i]? = some frame ∧ message = messageOf (seq + i) frame := by
  induction frames generalizing seq with
  | nil => cases member
  | cons first rest ih =>
    rcases List.mem_cons.1 member with rfl | later
    · exact ⟨0, first, rfl, rfl⟩
    · obtain ⟨i, frame, found, same⟩ := ih later
      refine ⟨i + 1, frame, found, ?_⟩
      rw [same, Nat.add_assoc, Nat.add_comm 1 i]

omit [FloatRepr] in
variable (config) in
/-- A turn hands the sender at most one payload more. -/
theorem payloads_turn (loop : RunLoop) (read : Option Vision.Reading) :
    ∃ handed, loopPayloads (loop.step config read) = loopPayloads loop ++ handed ∧ handed.length ≤ 1 := by
  by_cases running : loop.phase = .running
  · have outputs : loopPayloads (loop.step config read) = (List.foldl _ loop.outputs _).payloads :=
      congrArg Outputs.payloads (outputs_step running read)
    rw [outputs, (take_emits config loop.outputs _).2.2]
    refine ⟨_, rfl, ?_⟩
    have few : ((seenNow loop.source loop.frameId read).filterMap SeenFrame.processed).length ≤ 1 := by
      refine (List.length_filterMap_le _ _).trans ?_
      cases read <;> simp [seenNow]
    split_ifs
    · exact Nat.zero_le 1
    · rw [length_payloads]
      exact (paced_sublist _ _ _).length_le.trans few
  · refine ⟨[], ?_, Nat.zero_le 1⟩
    have stays : loop.step config read = loop := step_ended running [read]
    rw [stays, List.append_nil]

/-- The vision process has taken these turns: each payload has met the call of its own turn. -/
structure Sending (config : VisionConfig) (source : ResultSource) (events : List VisPathEvent) (calls : List SendCall)
    (path : VisPath) : Prop where
  loop : path.loop = RunLoop.run config source (events.filterMap VisPathEvent.read?)
  each : calls.length = (loopPayloads path.loop).length
  accounts : VisUdpSender.Accounts {} ((loopPayloads path.loop).zip calls) path.sender

variable (config) in
/-- An arrival leaves the vision process alone. -/
theorem arrive_vision (path : VisPath) (index : ℕ) (rxMonotonic : Double) :
    (path.step config (.arrive index rxMonotonic)).loop = path.loop ∧
      (path.step config (.arrive index rxMonotonic)).sender = path.sender := by
  unfold VisPath.step
  dsimp only
  split <;> exact ⟨rfl, rfl⟩

theorem Sending.step {source : ResultSource} {events : List VisPathEvent} {calls : List SendCall} {path : VisPath}
    (sending : Sending config source events calls path) (event : VisPathEvent) :
    Sending config source (events ++ [event]) (calls ++ (path.sendto config event).toList) (path.step config event) := by
  obtain ⟨loop, lengths, accounts⟩ := sending
  cases event with
  | arrive index rxMonotonic =>
    have same : (events ++ [VisPathEvent.arrive index rxMonotonic]).filterMap VisPathEvent.read? =
        events.filterMap VisPathEvent.read? := by simp [VisPathEvent.read?]
    have still : calls ++ (path.sendto config (.arrive index rxMonotonic)).toList = calls := List.append_nil calls
    obtain ⟨sameLoop, sameSender⟩ := arrive_vision config path index rxMonotonic
    rw [still]
    refine ⟨?_, ?_, ?_⟩
    · rw [sameLoop, same]
      exact loop
    · rw [sameLoop]
      exact lengths
    · rw [sameLoop, sameSender]
      exact accounts
  | turn read call =>
    obtain ⟨new, grown, single⟩ := payloads_turn config path.loop read
    have dropped : (loopPayloads (path.loop.step config read)).drop (loopPayloads path.loop).length = new := by
      rw [grown, List.drop_left]
    have called : (path.sendto config (.turn read call)).toList = new.map fun _ => call := by
      unfold VisPath.sendto
      dsimp only
      rw [grown, List.length_append]
      cases new with
      | nil => rw [List.length_nil, Nat.add_zero, if_neg (lt_irrefl _), List.map_nil, Option.toList_none]
      | cons payload rest =>
        have alone : rest = [] := List.eq_nil_of_length_eq_zero (by simpa using single)
        rw [alone, List.length_singleton, if_pos (Nat.lt_succ_self _)]
        rfl
    refine ⟨?_, ?_, ?_⟩
    · rw [List.filterMap_append]
      change path.loop.step config read = RunLoop.run config source (events.filterMap VisPathEvent.read? ++ [read])
      rw [RunLoop.run, List.foldl_append, loop]
      rfl
    · change _ = (loopPayloads (path.loop.step config read)).length
      rw [called, grown, List.length_append, List.length_append, List.length_map, lengths]
    · change VisUdpSender.Accounts {} ((loopPayloads (path.loop.step config read)).zip _)
        (((List.drop _ _).map (·, call)).foldl (VisUdpSender.step {}) path.sender)
      rw [dropped, called, grown, List.zip_append lengths.symm]
      have each : new.zip (new.map fun _ => call) = new.map (·, call) := by
        simpa using List.zip_map' (f := id) (g := fun _ => call) (l := new)
      rw [each]
      exact accounts.run _

theorem sending_run (config : VisionConfig) (source : ResultSource) (cmdNextSeq : ℤ) (events : List VisPathEvent) :
    Sending config source events (VisPath.sendtos config source cmdNextSeq events)
      (VisPath.run config source cmdNextSeq events) := by
  induction events using List.reverseRecOn with
  | nil => exact ⟨rfl, rfl, .start⟩
  | append_singleton events event ih =>
    unfold VisPath.sendtos VisPath.run at ih ⊢
    rw [Run.trail_concat, List.foldl_append]
    exact ih.step event

end vision

/-! ## The backend -/

section backend
variable {config : VisionConfig}

/-- What the backend has done with a datagram: stored its message, and no other. -/
def Stores (path : VisPath) (index : ℕ) (answer : Except Escaped Bool × Option VisMessage) : Prop :=
  ∃ payload message, path.sender.datagrams[index]? = some (encodeCompactJson payload) ∧ Storable payload message ∧
    answer = (.ok true, some message)

/-- The ingestor has stored every datagram that came, one answer for each, and holds the last one. -/
structure AllStored (arrivals : List ℕ) (path : VisPath) : Prop where
  rxTotal : path.backend.vis.rxTotal = path.answers.length
  rxOk : path.backend.vis.rxOk = path.answers.length
  rxBad : path.backend.vis.rxBad = 0
  latest : path.backend.vis.latest = path.answers.getLast?.bind Prod.snd
  stored : List.Forall₂ (Stores path) arrivals path.answers

theorem AllStored.turn {arrivals : List ℕ} {path : VisPath} (ingested : AllStored arrivals path)
    (read : Option Vision.Reading) (call : SendCall) : AllStored arrivals (path.step config (.turn read call)) := by
  have still : path.sender.datagrams <+: (path.step config (.turn read call)).sender.datagrams := by
    have all : ∀ (sendings : List (Value × SendCall)) (sender : VisUdpSender),
        sender.datagrams <+: (sendings.foldl (VisUdpSender.step {}) sender).datagrams := by
      intro sendings
      induction sendings with
      | nil => exact fun _ => List.prefix_rfl
      | cons sending rest ih => exact fun sender => (VisUdpSender.step_datagrams {} sender sending).trans (ih _)
    exact all _ path.sender
  refine ⟨ingested.rxTotal, ingested.rxOk, ingested.rxBad, ingested.latest, ?_⟩
  refine ingested.stored.imp ?_
  rintro index answer ⟨payload, message, found, storable, same⟩
  refine ⟨payload, message, ?_, storable, same⟩
  obtain ⟨below, own⟩ := List.getElem?_eq_some_iff.1 found
  rw [← found]
  exact (List.prefix_iff_getElem?.1 still index below).trans (List.getElem?_eq_getElem below).symm

theorem AllStored.arrive {arrivals : List ℕ} {path : VisPath} (ingested : AllStored arrivals path)
    (taken : ∀ data ∈ path.sender.datagrams, ∃ payload message, data = encodeCompactJson payload ∧ Storable payload message)
    (index : ℕ) (rxMonotonic : Double) :
    AllStored (arrivals ++ (path.arrival (.arrive index rxMonotonic)).toList)
      (path.step config (.arrive index rxMonotonic)) := by
  unfold VisPath.step VisPath.arrival
  dsimp only
  cases found : path.sender.datagrams[index]? with
  | none =>
    rw [if_neg (not_lt.2 (List.getElem?_eq_none_iff.1 found)), Option.toList_none, List.append_nil]
    exact ingested
  | some data =>
    obtain ⟨below, -⟩ := List.getElem?_eq_some_iff.1 found
    obtain ⟨payload, message, encoded, storable⟩ := taken data (List.mem_of_getElem? found)
    have answer := storable.2.2 path.backend rxMonotonic
    rw [← encoded] at answer
    dsimp only
    rw [answer, if_pos below]
    refine ⟨?_, ?_, ?_, ?_, ?_⟩
    · rw [List.length_append]
      exact congrArg (· + 1) ingested.rxTotal
    · rw [List.length_append]
      exact congrArg (· + 1) ingested.rxOk
    · exact ingested.rxBad
    · rw [List.getLast?_concat]
      rfl
    · have own : Stores path index (.ok true, some message) := by
        rw [encoded] at found
        exact ⟨payload, message, found, storable, rfl⟩
      exact List.rel_append ingested.stored (.cons own .nil)

/-- While every payload is storable, the ingestor drops nothing. -/
theorem ingested_run {source : ResultSource} {cmdNextSeq : ℤ} (events : List VisPathEvent)
    (storable : ∀ payload ∈ loopPayloads (VisPath.run config source cmdNextSeq events).loop,
      ∃ message, Storable payload message) :
    AllStored (VisPath.arrivals config source cmdNextSeq events) (VisPath.run config source cmdNextSeq events) := by
  induction events using List.reverseRecOn with
  | nil => exact ⟨rfl, rfl, rfl, rfl, .nil⟩
  | append_singleton events event ih =>
    have stepped : VisPath.run config source cmdNextSeq (events ++ [event]) =
        (VisPath.run config source cmdNextSeq events).step config event := List.foldl_append
    have arrived : VisPath.arrivals config source cmdNextSeq (events ++ [event]) =
        VisPath.arrivals config source cmdNextSeq events ++
          ((VisPath.run config source cmdNextSeq events).arrival event).toList := Run.trail_concat _ _ _ _
    rw [stepped] at storable
    rw [stepped, arrived]
    have sending := sending_run config source cmdNextSeq events
    generalize VisPath.run config source cmdNextSeq events = path at storable sending ih
    cases event with
    | turn read call =>
      obtain ⟨handed, grown, -⟩ := payloads_turn config path.loop read
      have within : loopPayloads path.loop ⊆ loopPayloads (path.loop.step config read) := by
        rw [grown]
        exact List.subset_append_left _ _
      have ingested : AllStored _ (path.step config (.turn read call)) :=
        (ih fun payload member => storable payload (within member)).turn read call
      exact (List.append_nil _).symm ▸ ingested
    | arrive index rxMonotonic =>
      rw [(arrive_vision config path index rxMonotonic).1] at storable
      refine (ih storable).arrive ?_ index rxMonotonic
      intro data member
      rw [sending.accounts.datagrams] at member
      obtain ⟨sent, taken, rfl⟩ := List.mem_map.1 member
      have among : sent.1 ∈ loopPayloads path.loop := (List.of_mem_zip ((List.filter_sublist).subset taken)).1
      obtain ⟨message, own⟩ := storable sent.1 among
      exact ⟨sent.1, message, rfl, own⟩

end backend

/-! ## The whole way -/

omit [FloatRepr] [Libm] [Sine] in
theorem visFloats_messageOf (first second : ℕ) (frame : SeenFrame × TrackerResult) :
    visFloats (messageOf first frame) = visFloats (messageOf second frame) := by
  unfold messageOf visFields
  split_ifs <;> rfl

omit [Libm] [Sine] in
/-- A datagram is stored as one message only. -/
theorem storable_unique {payload payload' : Value} {message message' : VisMessage} (first : Storable payload message)
    (second : Storable payload' message') (same : encodeCompactJson payload = encodeCompactJson payload') :
    message = message' := by
  have one := first.2.2 { cmdNextSeq := 0 } 0
  rw [same, second.2.2] at one
  have held := congrArg (fun result => result.1.vis.latest) one
  exact (Option.some.inj held).symm

omit [Libm] [Sine] in
/-- A payload that is storable is not too large for the sender. -/
theorem Storable.fits {payload : Value} {message : VisMessage} (storable : Storable payload message) :
    ¬ (512 : ℕ) < (encodeCompactJson payload).length := by
  rw [encodeCompactJson, asciiBytes, List.length_map]
  exact not_lt.2 storable.2.1

omit [Libm] [Sine] in
/-- No payload that is storable is too large for the sender. -/
theorem no_oversize {sendings : List (Value × SendCall)}
    (storable : ∀ payload ∈ sendings.map Prod.fst, ∃ message, Storable payload message) :
    VisUdpSender.loggedAt {} .oversize sendings = [] := by
  refine List.filterMap_eq_nil_iff.2 fun sending member => if_neg ?_
  obtain ⟨message, own⟩ := storable sending.1 (List.mem_map_of_mem member)
  unfold VisUdpSender.keyOf
  rw [if_neg own.fits]
  split_ifs
  · decide
  · decide

omit [Libm] [Sine] in
/-- The datagrams that `sendto` has taken are those of the messages that were carried. -/
theorem taken_eq {messages : List VisMessage} {calls : List SendCall}
    (storable : ∀ message ∈ messages, Storable (.obj (visMembers message)) message) :
    (VisUdpSender.taken {} ((messages.map fun message => Value.obj (visMembers message)).zip calls)).map
        (fun sending => encodeCompactJson sending.1) =
      (carried messages calls).map fun message => encodeCompactJson (.obj (visMembers message)) := by
  unfold VisUdpSender.taken carried
  rw [List.zip_map_left, List.filter_map, List.map_map, List.map_map]
  have same : ∀ sending ∈ messages.zip calls,
      ((fun sending : Value × SendCall => decide (VisUdpSender.keyOf {} sending = none)) ∘
        Prod.map (fun message => Value.obj (visMembers message)) id) sending = sending.2.taken := by
    intro sending member
    have fits := (storable sending.1 (List.of_mem_zip member).1).fits
    change decide (VisUdpSender.keyOf {} (.obj (visMembers sending.1), sending.2) = none) = _
    unfold VisUdpSender.keyOf
    dsimp only
    rw [if_neg fits]
    cases sending.2.taken <;> rfl
  rw [List.filter_congr same]
  rfl

omit [FloatRepr] in
/-- What the loop has given to `send` so far. -/
theorem loopPayloads_run (config : VisionConfig) (source : ResultSource) (reads : List (Option Vision.Reading)) :
    loopPayloads (RunLoop.run config source reads) = payloads 1
      (if config.noVisUdp then [] else
        paced config.visInterval 0 ((seenFrames config source 0 reads).filterMap SeenFrame.processed)) := by
  refine (payloads_run source reads).trans ?_
  split_ifs <;> rfl

/-- The messages of frames that were emitted are storable. -/
theorem messages_storable (config : VisionConfig) {source : ResultSource} (held : Held source)
    {events : List VisPathEvent}
    (clocked : ∀ reading, some reading ∈ events.filterMap VisPathEvent.read? → IsDouble reading.now)
    (few : (emittedFrames config source events).length + 1 < 2 ^ 63)
    (printed : ∀ frame ∈ emittedFrames config source events, ∀ x ∈ visFloats (messageOf 1 frame), floatBytes x ≤ 24)
    {emitted : List (SeenFrame × TrackerResult)} (within : emitted.Sublist (emittedFrames config source events)) :
    ∀ message ∈ messages 1 emitted, Storable (.obj (visMembers message)) message := by
  intro message member
  obtain ⟨i, frame, found, rfl⟩ := mem_messages member
  obtain ⟨below, -⟩ := List.getElem?_eq_some_iff.1 found
  have among : frame ∈ emittedFrames config source events := within.subset (List.mem_of_getElem? found)
  have processed := (paced_sublist _ _ _).subset among
  have length := within.length_le
  refine storable_frame (by omega) (processed_doubles config held _ frame processed) ?_ ?_
  · exact clocked _ (reading_of_processed config source _ frame processed)
  · rw [visFloats_messageOf (1 + i) 1]
    exact printed frame among

omit [Libm] [Sine] in
/-- What was stored of a datagram is the message that the datagram carried. -/
theorem Stores.carried {path : VisPath} {messages : List VisMessage} {calls : List SendCall}
    (accounts : VisUdpSender.Accounts {} ((messages.map fun message => Value.obj (visMembers message)).zip calls) path.sender)
    (storable : ∀ message ∈ messages, Storable (.obj (visMembers message)) message) {index : ℕ}
    {answer : Except Escaped Bool × Option VisMessage} (stores : Stores path index answer) :
    ∃ message, (carried messages calls)[index]? = some message ∧ answer = (.ok true, some message) := by
  obtain ⟨payload, message, found, own, same⟩ := stores
  have datagrams := accounts.datagrams
  rw [taken_eq storable] at datagrams
  rw [datagrams, List.getElem?_map] at found
  obtain ⟨message', carries, encoded⟩ := Option.map_eq_some_iff.1 found
  refine ⟨message', carries, ?_⟩
  have among : message' ∈ messages := by
    obtain ⟨sending, taken, rfl⟩ := List.mem_map.1 (List.mem_of_getElem? carries)
    exact (List.of_mem_zip ((List.filter_sublist).subset taken)).1
  rw [same, storable_unique own (storable message' among) encoded.symm]

/-- Whatever reads and sends fail, and whichever of the datagrams arrive, in any order and any number of times: every
payload of the loop has met the call of `sendto` of its turn, the counters and the log of the sender tell of all of them,
none is too large, and the backend stores each datagram that comes as the message of the frame that this datagram was
made from, drops none, and holds the last. -/
theorem vis_delivered (config : VisionConfig) {source : ResultSource} (held : Held source) (cmdNextSeq : ℤ)
    (events : List VisPathEvent)
    (clocked : ∀ reading, some reading ∈ events.filterMap VisPathEvent.read? → IsDouble reading.now)
    (few : (emittedFrames config source events).length + 1 < 2 ^ 63)
    (printed : ∀ frame ∈ emittedFrames config source events, ∀ x ∈ visFloats (messageOf 1 frame), floatBytes x ≤ 24) :
    let path := VisPath.run config source cmdNextSeq events
    let emitted := if config.noVisUdp then [] else emittedFrames config source events
    let calls := VisPath.sendtos config source cmdNextSeq events
    calls.length = emitted.length ∧ VisUdpSender.Accounts {} ((payloads 1 emitted).zip calls) path.sender ∧
    path.sender.sentOk + path.sender.sentFail = emitted.length ∧ path.sender.droppedOversize = 0 ∧
    path.backend.vis.rxTotal = path.answers.length ∧ path.backend.vis.rxOk = path.answers.length ∧
    path.backend.vis.rxBad = 0 ∧ path.backend.vis.latest = path.answers.getLast?.bind Prod.snd ∧
    List.Forall₂ (fun index answer => ∃ message, (carried (messages 1 emitted) calls)[index]? = some message ∧
        answer = (.ok true, some message))
      (VisPath.arrivals config source cmdNextSeq events) path.answers := by
  intro path emitted calls
  obtain ⟨loop, lengths, accounts⟩ : Sending config source events calls path :=
    sending_run config source cmdNextSeq events
  have sent : loopPayloads path.loop = payloads 1 emitted := loop ▸ loopPayloads_run config source _
  have within : emitted.Sublist (emittedFrames config source events) := by
    change (if config.noVisUdp then [] else _).Sublist _
    split_ifs
    · exact List.nil_sublist _
    · exact .refl _
  have storable := messages_storable config held clocked few printed within
  have payloadsStorable : ∀ payload ∈ loopPayloads path.loop, ∃ message, Storable payload message := by
    intro payload member
    rw [sent, payloads_eq] at member
    obtain ⟨message, own, rfl⟩ := List.mem_map.1 member
    exact ⟨message, storable message own⟩
  have ingested := ingested_run events payloadsStorable
  have none_large : VisUdpSender.loggedAt {} .oversize ((payloads 1 emitted).zip calls) = [] := by
    apply no_oversize
    intro payload member
    obtain ⟨sending, among, rfl⟩ := List.mem_map.1 member
    apply payloadsStorable
    rw [sent]
    exact (List.of_mem_zip among).1
  rw [sent] at lengths accounts
  rw [length_payloads] at lengths
  have every : ((payloads 1 emitted).zip calls).length = emitted.length := by
    rw [List.length_zip, length_payloads, lengths, min_self]
  refine ⟨lengths, accounts, ?_, ?_, ingested.rxTotal, ingested.rxOk, ingested.rxBad, ingested.latest, ?_⟩
  · have counted : (VisUdpSender.taken {} ((payloads 1 emitted).zip calls)).length +
        (VisUdpSender.loggedAt {} .send ((payloads 1 emitted).zip calls)).length +
          (VisUdpSender.loggedAt {} .oversize ((payloads 1 emitted).zip calls)).length =
            ((payloads 1 emitted).zip calls).length := VisUdpSender.length_sendings _
    rw [none_large, List.length_nil, Nat.add_zero] at counted
    rw [← every, ← counted]
    exact congrArg₂ (· + ·) accounts.sentOk accounts.sentFail
  · exact accounts.droppedOversize.trans (congrArg List.length none_large)
  · rw [payloads_eq] at accounts
    exact ingested.stored.imp fun index answer stores => stores.carried accounts storable

end path

section hardware
attribute [local instance] Binary64.binary64 decimalRepr longerSide

/-- Exact at zero; while a detector is asked, no sine is taken. -/
@[reducible] def sineAtZero : Sine where
  sin _ := 0

attribute [local instance] sineAtZero

/-- A frame with one box on it, processed at a whole second. -/
def boxedReading (x : Double) (second : ℤ) : Vision.Reading where
  imgW := 640
  imgH := 480
  variance := some 40
  detections := (sight 1 x).detections
  initialized := true
  updated := (false, none)
  now := fin second

/-- The first send fails and a read too; the datagram of the second frame comes twice. -/
def repeatedDatagram : List VisPathEvent :=
  [.turn (some (boxedReading 288 1)) ⟨false, 1⟩, .turn none ⟨true, 1⟩, .turn (some (boxedReading (-64) 2)) ⟨true, 2⟩,
    .arrive 0 9, .arrive 0 10]

theorem vis_delivered_repeatedDatagram :
    let path := VisPath.run {} (.detect promptConfig {}) 0 repeatedDatagram
    (emittedFrames {} (.detect promptConfig {}) repeatedDatagram).length = 2 ∧
      path.sender.sentOk + path.sender.sentFail = 2 ∧ path.sender.droppedOversize = 0 ∧ path.backend.vis.rxBad = 0 ∧
      path.answers.length = 2 := by
  intro path
  have two : (emittedFrames {} (.detect promptConfig {}) repeatedDatagram).length = 2 := by decide +kernel
  have clocked : ∀ reading, some reading ∈ repeatedDatagram.filterMap VisPathEvent.read? → IsDouble reading.now := by
    intro reading member
    have either : reading = boxedReading 288 1 ∨ reading = boxedReading (-64) 2 := by
      simpa [repeatedDatagram, VisPathEvent.read?] using member
    rcases either with rfl | rfl
    · exact Fpu.round_int 1 (by decide)
    · exact Fpu.round_int 2 (by decide)
  have printed : ∀ frame ∈ emittedFrames {} (.detect promptConfig {}) repeatedDatagram,
      ∀ x ∈ visFloats (messageOf 1 frame), floatBytes x ≤ 24 := by decide +kernel
  have held : Held (.detect promptConfig {}) := isDouble_zero
  have twice : (VisPath.arrivals {} (.detect promptConfig {}) 0 repeatedDatagram).length = 2 := by decide +kernel
  obtain ⟨-, -, counted, dropped, -, -, bad, -, stored⟩ := vis_delivered {} held 0 repeatedDatagram clocked
    (by rw [two]; decide) printed
  exact ⟨two, counted.trans two, dropped, bad, stored.length_eq.symm.trans twice⟩

end hardware
end AotDrone.Link
