import AotDrone.Backend.Station
import AotDrone.Json.LoadsScalars
import AotDrone.Link.LinkStatusData

/-! When the webapp understands what the backend broadcasts. -/

namespace AotDrone.Link
open AotDrone.Lib AotDrone.Lib.Double AotDrone.Lib.Run AotDrone.Json AotDrone.Backend AotDrone.Webapp

/-! ## What is stored -/

section stored
variable [Fpu]

theorem telSound_stored {recursionLimit : Nat} {decoded : PyStr} {payload : Value} {msg : TelMessage}
    (loaded : loads recursionLimit decoded = .ok payload) (validated : validateTelMessage payload = .ok msg) :
    TelSound msg := by
  obtain ⟨members, rfl, carries⟩ := validateTelMessage_ok_iff.1 validated
  have doubles : MembersDoubles members := loads_doubles loaded
  refine ⟨carries.mode_mem, carries.state_mem, carries.targetX_range, carries.targetY_range, carries.boundW_range,
    carries.boundH_range, carries.confidence_range, ?_⟩
  simp only [TelMessage.unbounded, TelMessage.bounded, List.cons_append, List.nil_append, List.forall_mem_cons]
  exact ⟨doubles.get carries.timestamp, doubles.get carries.distFront, doubles.get carries.distBack,
    doubles.get carries.distBottom, doubles.get carries.targetX, doubles.get carries.targetY,
    doubles.get carries.boundW, doubles.get carries.boundH, doubles.get carries.confidence, List.forall_mem_nil _⟩

theorem visSound_stored {recursionLimit : Nat} {decoded : PyStr} {payload : Value} {msg : VisMessage}
    (loaded : loads recursionLimit decoded = .ok payload) (validated : validateVisMessage payload = .ok msg) :
    VisSound msg := by
  obtain ⟨members, read, rfl, carries, rfl⟩ := validateVisMessage_ok_iff.1 validated
  have doubles : MembersDoubles members := loads_doubles loaded
  have signed : signedUnit.Holds 0 := by decide +kernel
  have positive : unit.Holds 0 := by decide +kernel
  unfold VisMessage.normalized
  split_ifs
  · refine ⟨carries.state_mem, carries.locX_range, carries.locY_range, carries.boundW_range, carries.boundH_range,
      carries.confidence_range, ?_⟩
    simp only [VisMessage.trackingFields, List.map_cons, List.map_nil, List.forall_mem_cons]
    exact ⟨doubles.get carries.timestamp, doubles.get carries.locX, doubles.get carries.locY,
      doubles.get carries.boundW, doubles.get carries.boundH, doubles.get carries.confidence, List.forall_mem_nil _⟩
  · refine ⟨carries.state_mem, signed, signed, positive, positive, positive, ?_⟩
    simp only [VisMessage.zeroed, VisMessage.trackingFields, List.map_cons, List.map_nil, List.forall_mem_cons]
    exact ⟨doubles.get carries.timestamp, isDouble_zero, isDouble_zero, isDouble_zero, isDouble_zero, isDouble_zero,
      List.forall_mem_nil _⟩

/-- What is known of a stream: its message passes, and its time of receipt is a reading of the clock. -/
structure StreamSound {msg : Type} (sound : msg → Prop) (stream : Stream msg) : Prop where
  latest : ∀ m ∈ stream.latest, sound m
  received : ∀ x ∈ stream.lastRxMonotonic, Monotonic x

theorem StreamSound.processDatagram {msg : Type} {sound : msg → Prop} {stream : Stream msg}
    (holds : StreamSound sound stream) (kind : StreamKind msg) (maxBytes recursionLimit : Nat)
    (passes : ∀ decoded payload m, loads recursionLimit decoded = .ok payload → kind.validate payload = .ok m → sound m)
    (data : Bytes) {rxMonotonic : Double} (clocked : Monotonic rxMonotonic) :
    StreamSound sound (kind.processDatagram maxBytes recursionLimit stream data rxMonotonic).1 := by
  rcases kind.processDatagram_cases maxBytes recursionLimit stream data rxMonotonic with
    ⟨decoded, payload, m, -, loaded, validated, same⟩ | ⟨-, latest, -, -, -, received⟩
  · rw [same]
    refine ⟨?_, ?_⟩
    · rintro _ ⟨⟩
      exact passes decoded payload m loaded validated
    · rintro _ ⟨⟩
      exact clocked
  · exact ⟨by rw [latest]; exact holds.latest, by rw [received]; exact holds.received⟩

end stored

/-! ## The clock -/

section clock
variable [Fpu]

def LoopClocked : LoopEvent → Prop
  | .telDatagram _ rxMonotonic | .visDatagram _ rxMonotonic => Monotonic rxMonotonic
  | .attemptConnect now _ | .getLatestIntent now => Monotonic now
  | _ => True

/-- The times of an event are readings of the clock. -/
def Clocked : StationEvent → Prop
  | .loop event => LoopClocked event
  | .buildUpdate _ now | .buildLinkStatus now _ => Monotonic now
  | _ => True

def StageClocked : TickStage → Prop
  | .readIntent now _ | .readVis now _ _ _ => Monotonic now
  | .idle | .crashed => True

/-- What every event leaves of the state that is shared. -/
structure SharedSound (state : SharedState) : Prop where
  tel : StreamSound TelSound state.tel
  vis : StreamSound VisSound state.vis
  attempted : ∀ x ∈ state.fcLastConnectAttempt, Monotonic x
  sent : ∀ x ∈ state.cmdLastSent, Monotonic x
  rate : IsDouble state.cmdHzEst

theorem SharedSound.link {state : SharedState} (sound : SharedSound state) : LinkSound state :=
  ⟨sound.attempted, sound.sent, sound.tel.received, sound.vis.received, sound.rate⟩

variable {state : SharedState}

theorem SharedSound.recordCmdTxOk (sound : SharedSound state) {now : Double} (clocked : Monotonic now) :
    SharedSound (state.recordCmdTxOk now) := by
  refine ⟨sound.tel, sound.vis, sound.attempted, ?_, ?_⟩
  · rintro _ ⟨⟩
    exact clocked
  · unfold SharedState.recordCmdTxOk
    dsimp only
    split
    · exact sound.rate
    · split_ifs
      · exact isDouble_div _ _
      · exact isDouble_add _ _
      · exact sound.rate

/-- Nothing that the clients see of the streams, the times and the rate has changed. -/
structure SameSeen (before after : SharedState) : Prop where
  tel : after.tel = before.tel
  vis : after.vis = before.vis
  attempted : after.fcLastConnectAttempt = before.fcLastConnectAttempt
  sent : after.cmdLastSent = before.cmdLastSent
  rate : after.cmdHzEst = before.cmdHzEst

theorem SharedSound.same (sound : SharedSound state) {after : SharedState} (same : SameSeen state after) :
    SharedSound after where
  tel := by rw [same.tel]; exact sound.tel
  vis := by rw [same.vis]; exact sound.vis
  attempted := by rw [same.attempted]; exact sound.attempted
  sent := by rw [same.sent]; exact sound.sent
  rate := by rw [same.rate]; exact sound.rate

end clock

/-! ## The bridge -/

section bridge
variable [Fpu] [FloatRepr]

/-- What every event finds of the bridge. -/
structure BridgeSound (bridge : CmdBridge) : Prop where
  shared : SharedSound bridge.shared
  stage : StageClocked bridge.stage

variable {bridge : CmdBridge} {config : BridgeConfig} {ingest : IngestConfig}

theorem BridgeSound.sendTick (sound : BridgeSound bridge) {now : Double} (clocked : Monotonic now)
    (intent : Option Intent) (snapshot : Option VisMessage) (sends : Bool) :
    BridgeSound (bridge.sendTick config now intent snapshot sends).1 := by
  have attempted (reason : Option BlockedReason) :
      SharedSound ((bridge.shared.reserveCmdSeq none).2.setTrackingBlockedReason reason).recordCmdTxAttempt :=
    sound.shared.same ⟨rfl, rfl, rfl, rfl, rfl⟩
  have recorded (reason : Option BlockedReason) (payload : CmdPayload) (bytes : Nat) :
      SharedSound (((bridge.shared.reserveCmdSeq none).2.setTrackingBlockedReason
        reason).recordCmdTxAttempt.recordLastCmdPayload payload bytes) :=
    (attempted reason).same ⟨rfl, rfl, rfl, rfl, rfl⟩
  have failed {shared : SharedState} (known : SharedSound shared) : SharedSound shared.recordCmdTxFail :=
    known.same ⟨rfl, rfl, rfl, rfl, rfl⟩
  have lost {shared : SharedState} (known : SharedSound shared) : SharedSound (shared.setFcConnected false) :=
    known.same ⟨rfl, rfl, rfl, rfl, rfl⟩
  unfold CmdBridge.sendTick
  dsimp only
  cases buildCmdPayload _ now intent snapshot (bridge.shared.getVisAge now) config.visFresh with
  | error raised => exact ⟨sound.shared.same ⟨rfl, rfl, rfl, rfl, rfl⟩, trivial⟩
  | ok built =>
    dsimp only
    cases frameCmdPayload built.1 config.maxPayloadBytes with
    | error raised =>
      cases raised with
      | valueError message => exact ⟨failed (attempted built.2), trivial⟩
      | structError => exact ⟨attempted built.2, trivial⟩
    | ok frame =>
      dsimp only
      have known := recorded built.2 built.1 (frame.length - 4)
      cases bridge.socketOpen with
      | false => exact ⟨lost (failed known), trivial⟩
      | true =>
        cases sends with
        | false => exact ⟨lost (failed known), trivial⟩
        | true => exact ⟨known.recordCmdTxOk clocked, trivial⟩

omit [FloatRepr] in
theorem BridgeSound.attemptConnect (sound : BridgeSound bridge) {now : Double} (clocked : Monotonic now)
    (connects : Bool) : BridgeSound (bridge.attemptConnect config now connects) := by
  have attempted : ∀ x ∈ some now, Monotonic x := by
    rintro _ ⟨⟩
    exact clocked
  obtain ⟨⟨tel, vis, earlier, sent, rate⟩, stage⟩ := sound
  unfold CmdBridge.attemptConnect
  dsimp only
  split_ifs
  · exact ⟨⟨tel, vis, earlier, sent, rate⟩, stage⟩
  · exact ⟨⟨tel, vis, attempted, sent, rate⟩, stage⟩
  · exact ⟨⟨tel, vis, attempted, sent, rate⟩, stage⟩

theorem BridgeSound.loopStep (sound : BridgeSound bridge) {event : LoopEvent} (clocked : LoopClocked event) :
    BridgeSound (bridge.loopStep config ingest event) := by
  obtain ⟨shared, stage⟩ := sound
  cases event with
  | postIntent request updateMonotonic =>
    unfold CmdBridge.loopStep
    dsimp only
    split
    · exact ⟨shared.same ⟨rfl, rfl, rfl, rfl, rfl⟩, stage⟩
    · exact ⟨shared, stage⟩
  | telDatagram data rxMonotonic =>
    have tel := shared.tel.processDatagram telKind ingest.telMaxBytes ingest.recursionLimit
      (fun _ _ _ => telSound_stored) data clocked
    exact ⟨⟨tel, shared.vis, shared.attempted, shared.sent, shared.rate⟩, stage⟩
  | visDatagram data rxMonotonic =>
    have vis := shared.vis.processDatagram visKind ingest.visMaxBytes ingest.recursionLimit
      (fun _ _ _ => visSound_stored) data clocked
    exact ⟨⟨shared.tel, vis, shared.attempted, shared.sent, shared.rate⟩, stage⟩
  | attemptConnect now connects =>
    unfold CmdBridge.loopStep CmdBridge.step CmdBridge.act
    dsimp only
    split
    · exact BridgeSound.attemptConnect ⟨shared, stage⟩ clocked connects
    · exact ⟨shared, stage⟩
  | getLatestIntent now =>
    unfold CmdBridge.loopStep CmdBridge.step CmdBridge.act
    dsimp only
    split
    · exact ⟨shared, clocked⟩
    · exact ⟨shared, stage⟩
  | getLatestVis =>
    unfold CmdBridge.loopStep CmdBridge.step CmdBridge.act
    dsimp only
    split
    next now intent read =>
      rw [read] at stage
      exact ⟨shared, stage⟩
    next => exact ⟨shared, stage⟩
  | getVisAge sends =>
    unfold CmdBridge.loopStep CmdBridge.step CmdBridge.act
    dsimp only
    split
    next now intent snapshot receivedAt read =>
      have ticking : Monotonic now := by
        rw [read] at stage
        exact stage
      exact BridgeSound.sendTick ⟨shared, stage⟩ ticking intent snapshot sends
    next => exact ⟨shared, stage⟩

end bridge

/-! ## Envelopes -/

section subjects
variable [Fpu] [FloatRepr]

/-- The reader of the webapp takes the data without a mismatch, and its fields have the values of the backend. -/
def Shows (broadcast : BroadcastConfig) (data : Value) : Subject → Prop
  | .tel msg rxMonotonic telAge =>
    parseTelUpdate data = { value := some (shownTel msg rxMonotonic telAge), mismatch := none }
  | .vis msg rxMonotonic visAge =>
    parseVisUpdate data = { value := some (shownVis msg rxMonotonic visAge), mismatch := none }
  | .linkStatus state now _ => asLinkStatus data = some (shownLinkStatus broadcast state now)

/-- Every number is finite, and a double holds every integer. -/
def Told (broadcast : BroadcastConfig) : Subject → Prop
  | .tel msg _ _ => TelTold msg
  | .vis msg _ _ => VisTold msg
  | .linkStatus state _ video => LinkTold broadcast state video

def SubjectSound : Subject → Prop
  | .tel msg rxMonotonic telAge =>
    TelSound msg ∧ (∀ x ∈ rxMonotonic, FiniteDouble x) ∧ ∀ x ∈ telAge, FiniteDouble x
  | .vis msg rxMonotonic visAge =>
    VisSound msg ∧ (∀ x ∈ rxMonotonic, FiniteDouble x) ∧ ∀ x ∈ visAge, FiniteDouble x
  | .linkStatus state now _ => LinkSound state ∧ Monotonic now

variable {broadcast : BroadcastConfig}

omit [FloatRepr] in
theorem subject_flat (broadcast : BroadcastConfig) (subject : Subject) : FlatData (subject.data broadcast) := by
  cases subject with
  | tel msg rxMonotonic telAge => exact telUpdateData_flat msg rxMonotonic telAge
  | vis msg rxMonotonic visAge => exact visUpdateData_flat msg rxMonotonic visAge
  | linkStatus state now video => exact buildLinkStatus_flat broadcast state now video

theorem told_iff {subject : Subject} (sound : SubjectSound subject) :
    (∀ m ∈ subject.data broadcast, Sayable m.2) ∧
        Shows broadcast (.obj (ecmaMembers (subject.data broadcast))) subject ↔
      Told broadcast subject := by
  cases subject with
  | tel msg rxMonotonic telAge => exact telTold_iff sound.1 sound.2.1 sound.2.2
  | vis msg rxMonotonic visAge => exact visTold_iff sound.1 sound.2.1 sound.2.2
  | linkStatus state now video => exact linkTold_iff sound.1 sound.2

/-- As a double the number of an envelope is a whole one: it is not beyond all doubles. -/
def Numbered (seq : Nat) : Prop := isInteger (Fpu.round seq) = true

omit [FloatRepr] in
theorem readSeq_iff (seq : Nat) : (∃ read, readSeq (some (.float (Fpu.round seq))) = some read) ↔ Numbered seq := by
  have nonneg : ¬ Fpu.round seq < 0 := Double.not_lt_of_le (round_nonneg (Nat.cast_nonneg seq))
  rw [readSeq, Numbered]
  split_ifs with whole
  · exact iff_of_true ⟨_, rfl⟩ whole.1
  · exact iff_of_false (by simp) fun integer => whole ⟨integer, nonneg⟩

end subjects

section station
variable [Fpu] [FloatRepr] (config : BridgeConfig) (ingest : IngestConfig) (broadcast : BroadcastConfig)

/-- The text of every envelope is JSON that the webapp takes for an envelope of its kind, with data that it accepts. -/
def Understands (_ : Past Station StationEvent) (station : Station) (event : StationEvent) : Prop :=
  ∀ subject now, station.builds event = some (subject, now) →
    ∃ read, envelopeText (sentText (station.envelope broadcast subject now).1) = some read ∧
      read.event = wsEventType subject.event ∧ Shows broadcast (.obj read.data) subject

/-- Every envelope is built of numbers that reach the webapp. -/
def NumbersReach (_ : Past Station StationEvent) (station : Station) (event : StationEvent) : Prop :=
  ∀ subject now, station.builds event = some (subject, now) →
    Told broadcast subject ∧ Numbered station.manager.nextEventSeq

def ReadingSound : Reading → Prop
  | .tel msg rxMonotonic => TelSound msg ∧ ∀ x ∈ rxMonotonic, Monotonic x
  | .vis msg rxMonotonic => VisSound msg ∧ ∀ x ∈ rxMonotonic, Monotonic x

/-- What every event finds. -/
structure StationSound (station : Station) : Prop where
  bridge : BridgeSound station.bridge
  readings : ∀ reading ∈ station.readings, ReadingSound reading

variable {config ingest broadcast} {station : Station} {event : StationEvent}

omit [FloatRepr] in
theorem StationSound.subject (sound : StationSound station) (clocked : Clocked event) {subject : Subject} {now : Double}
    (built : station.builds event = some (subject, now)) : SubjectSound subject ∧ Monotonic now := by
  have link := sound.bridge.shared.link
  cases event with
  | buildUpdate reading at_ =>
    obtain ⟨read, known, same⟩ := Option.map_eq_some_iff.1 built
    cases same
    obtain ⟨visAge, telAge⟩ := finiteDouble_ages link clocked
    have readSound := sound.readings read (List.mem_of_getElem? known)
    refine ⟨?_, clocked⟩
    cases read with
    | tel msg rxMonotonic => exact ⟨readSound.1, fun x member => (readSound.2 x member).toFiniteDouble, telAge⟩
    | vis msg rxMonotonic => exact ⟨readSound.1, fun x member => (readSound.2 x member).toFiniteDouble, visAge⟩
  | buildLinkStatus at_ video =>
    cases built
    exact ⟨⟨link, clocked⟩, clocked⟩
  | loop _ | getLatestTelWithMeta | getLatestVisWithMeta | buildWarning _ _ => cases built

/-- Only what is JSON is understood. -/
theorem Understands.sayable {past : Past Station StationEvent}
    (understood : Understands broadcast past station event) {subject : Subject} {now : Double}
    (built : station.builds event = some (subject, now)) (double : IsDouble now) :
    ∀ m ∈ subject.data broadcast, Sayable m.2 := by
  have taken := envelopeText_iff (station.envelope broadcast subject now).1 (subject_flat broadcast subject) double
    fun _ => True
  obtain ⟨read, text, -⟩ := understood subject now built
  exact (taken.1 ⟨read, text, trivial⟩).1.1

/-- The webapp understands an envelope exactly when its numbers reach it. -/
theorem understands_iff (past : Past Station StationEvent) (sound : StationSound station) (clocked : Clocked event) :
    Understands broadcast past station event ↔ NumbersReach broadcast past station event := by
  apply forall₂_congr
  intro subject now
  apply imp_congr_right
  intro built
  obtain ⟨subjectSound, present⟩ := sound.subject clocked built
  have taken := envelopeText_iff (station.envelope broadcast subject now).1
    (subject_flat broadcast subject) present.double fun read =>
      read.event = wsEventType subject.event ∧ Shows broadcast (.obj read.data) subject
  rw [taken, ← told_iff subjectSound, ← readSeq_iff]
  constructor
  · rintro ⟨⟨sayable, -⟩, seq, number, -, shown⟩
    exact ⟨⟨sayable, shown⟩, seq, number⟩
  · rintro ⟨⟨sayable, shown⟩, seq, number⟩
    exact ⟨⟨sayable, present.finite⟩, seq, number, rfl, shown⟩

theorem StationSound.step (sound : StationSound station) (clocked : Clocked event) :
    StationSound (station.step broadcast config ingest event) := by
  obtain ⟨bridge, readings⟩ := sound
  have appended {reading : Reading} (read : ReadingSound reading) :
      ∀ r ∈ station.readings ++ [reading], ReadingSound r := by
    intro r member
    rcases List.mem_append.1 member with old | new
    · exact readings r old
    · rwa [List.mem_singleton.1 new]
  cases event with
  | loop event => exact ⟨bridge.loopStep clocked, readings⟩
  | getLatestTelWithMeta =>
    unfold Station.step
    dsimp only
    split
    · exact ⟨bridge, readings⟩
    next msg latest => exact ⟨bridge, appended ⟨bridge.shared.tel.latest msg latest, bridge.shared.tel.received⟩⟩
  | getLatestVisWithMeta =>
    unfold Station.step
    dsimp only
    split
    · exact ⟨bridge, readings⟩
    next msg latest => exact ⟨bridge, appended ⟨bridge.shared.vis.latest msg latest, bridge.shared.vis.received⟩⟩
  | buildUpdate reading now =>
    unfold Station.step
    dsimp only
    split <;> exact ⟨bridge, readings⟩
  | buildLinkStatus now video => exact ⟨bridge, readings⟩
  | buildWarning data timestamp => exact ⟨bridge, readings⟩

omit [FloatRepr] in
theorem create_sound (config : BridgeConfig) (cmdNextSeq : ℤ) {queueMax : Nat} (positive : 0 < queueMax) :
    StationSound (Station.create config cmdNextSeq queueMax positive) := by
  refine ⟨⟨⟨⟨?_, ?_⟩, ⟨?_, ?_⟩, ?_, ?_, isDouble_zero⟩, trivial⟩, List.forall_mem_nil _⟩
  · rintro _ ⟨⟩
  · rintro _ ⟨⟩
  · rintro _ ⟨⟩
  · rintro _ ⟨⟩
  · rintro _ ⟨⟩
  · rintro _ ⟨⟩

/-- The webapp understands every envelope of a run exactly when the numbers of every envelope reach it. -/
theorem understands_always_iff (config : BridgeConfig) (ingest : IngestConfig) (broadcast : BroadcastConfig)
    (cmdNextSeq : ℤ) {queueMax : Nat} (positive : 0 < queueMax) (events : List StationEvent)
    (clocked : ∀ event ∈ events, Clocked event) :
    Always (Station.step broadcast config ingest) (Understands broadcast) []
        (Station.create config cmdNextSeq queueMax positive) events ↔
      Always (Station.step broadcast config ingest) (NumbersReach broadcast) []
        (Station.create config cmdNextSeq queueMax positive) events := by
  apply Always.iff_of_invariant (fun _ station => StationSound station) (D := fun _ _ event => Clocked event)
  · intro past station event sound clocked
    exact understands_iff past sound clocked
  · intro past station event sound clocked _
    exact sound.step clocked
  · exact create_sound config cmdNextSeq positive
  · exact (Always.iff_forall Clocked _ _ _).2 clocked

end station

section hardware
attribute [local instance] Binary64.binary64 decimalRepr

theorem quarter_nonneg : ¬ fin (1 / 4) < 0 := by decide +kernel

theorem half_positive : ¬ fin (1 / 2) ≤ 0 := by decide +kernel

theorem unset_doubles : ∀ x ∈ [fin (1 / 4), fin (1 / 2), fin (1 / 2), 50, 50], IsDouble x := by
  have quarter : Fpu.round (1 / 4) = fin (1 / 4) := by decide +kernel
  have half : Fpu.round (1 / 2) = fin (1 / 2) := by decide +kernel
  have fifty : Fpu.round 50 = fin 50 := by decide +kernel
  simp only [List.forall_mem_cons]
  exact ⟨quarter, half, half, fifty, fifty, List.forall_mem_nil _⟩

/-- The defaults of the constructor. -/
def unsetBroadcast : BroadcastConfig where
  visFresh := fin (1 / 4)
  telFresh := fin (1 / 2)
  cmdTimeout := fin (1 / 2)
  cmdHzNominal := 50
  telHzNominal := 50
  visFresh_nonneg := quarter_nonneg
  telFresh_pos := half_positive
  cmdTimeout_pos := half_positive
  doubles := unset_doubles

/-- What `_build_video_status` returns when there is no video hub. -/
def noVideo : VideoStatus where
  videoEnabled := false
  videoClients := 0
  videoFpsEst := 0
  lastFrameAge := none
  framesRxOk := 0
  framesRxBad := 0

theorem monotonic_zero : Monotonic 0 := ⟨⟨rfl, isDouble_zero⟩, by decide⟩

/-- The first link status that a client is sent. -/
theorem first_status_understood :
    Always (Station.step unsetBroadcast .unset {}) (Understands unsetBroadcast) []
      (Station.create .unset 0 10 (by decide)) [.buildLinkStatus 0 noVideo] := by
  have clocked : ∀ event ∈ [StationEvent.buildLinkStatus 0 noVideo], Clocked event := by
    rw [List.forall_mem_singleton]
    exact monotonic_zero
  apply (understands_always_iff .unset {} unsetBroadcast 0 (by decide) _ clocked).2
  refine ⟨?_, trivial⟩
  rintro _ _ ⟨⟩
  have zero : ExactInt 0 := exactInt_small (by decide)
  have one : Numbered 1 := by
    have exactly : Fpu.round ((1 : ℕ) : ℚ) = fin 1 := by decide +kernel
    rw [Numbered, exactly]
    rfl
  refine ⟨⟨?_, ?_, rfl, ?_⟩, one⟩
  · simp only [linkCounters, List.forall_mem_cons]
    exact ⟨zero, zero, zero, zero, zero, zero, zero, zero, zero, zero, zero, zero, List.forall_mem_nil _⟩
  · simp only [settings, List.forall_mem_cons]
    exact ⟨rfl, rfl, rfl, rfl, rfl, rfl, List.forall_mem_nil _⟩
  · rintro _ ⟨⟩

/-- A TEL datagram with `"timestamp_s":NaN`. -/
def timelessTel : Bytes :=
  bytes ("\x7b\"type\":\"TEL\",\"seq\":1,\"timestamp_s\":NaN,\"control_mode\":0,\"tracking_state\":1," ++
    "\"distFront_m\":1,\"distBack_m\":1,\"distBottom_m\":1,\"target_x\":0,\"target_y\":0,\"bound_w\":0," ++
    "\"bound_h\":0,\"confidence\":0\x7d").toList

/-- The datagram is stored, and the text of the update that follows is no JSON. -/
theorem timeless_update_lost :
    ¬ Always (Station.step unsetBroadcast .unset {}) (Understands unsetBroadcast) []
      (Station.create .unset 0 10 (by decide))
      [.loop (.telDatagram timelessTel 0), .getLatestTelWithMeta, .buildUpdate 0 0] := by
  rintro ⟨-, -, understood, -⟩
  have stored : (telKind.processDatagram 1024 1000 {} timelessTel 0).1.latest.map TelMessage.timestamp = some nan := by
    decide +kernel
  generalize timelessTel = data at understood stored
  set received := Station.step unsetBroadcast .unset {} (Station.create .unset 0 10 (by decide))
    (.loop (.telDatagram data 0))
  have latest : received.bridge.shared.tel.latest.map TelMessage.timestamp = some nan := stored
  obtain ⟨msg, held, timeless⟩ := Option.map_eq_some_iff.1 latest
  have read : (Station.step unsetBroadcast .unset {} received .getLatestTelWithMeta).readings =
      [.tel msg received.bridge.shared.tel.lastRxMonotonic] := by
    unfold Station.step
    dsimp only
    rw [held]
    rfl
  set ready := Station.step unsetBroadcast .unset {} received .getLatestTelWithMeta
  have built : ready.builds (.buildUpdate 0 0) =
      some (.tel msg received.bridge.shared.tel.lastRxMonotonic (ready.bridge.shared.getTelAge 0), 0) := by
    rw [Station.builds, read]
    rfl
  have sayable := understood.sayable built isDouble_zero
  rw [Subject.data, telUpdateData_eq] at sayable
  have finite : msg.timestamp.isFinite = true :=
    sayable (pyStr "timestamp_s", .float msg.timestamp) (by simp [TelMessage.members])
  rw [timeless] at finite
  cases finite

end hardware
end AotDrone.Link
