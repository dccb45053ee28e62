import AotDrone.Backend.BridgeLoop

/-! Frames that are lost take numbers too, so that two frames that go out one after the other may have the same. -/

namespace AotDrone.Backend
open AotDrone.Lib AotDrone.Lib.Double AotDrone.Lib.Run AotDrone.Json

namespace CmdBridge
variable [Fpu] [FloatRepr] (config : BridgeConfig) (ingest : IngestConfig)

/-- The numbers of the frames that a run sends. -/
def sentSeqs (bridge : CmdBridge) : List LoopEvent → List ℤ
  | [] => []
  | event :: events =>
    ((bridge.loopSent config event).map (·.seq)).toList ++ sentSeqs (bridge.loopStep config ingest event) events

/-- Equal numbers are at least `2 ^ 31` frames apart. -/
def FramesApart (seqs : List ℤ) : Prop :=
  ∀ (i j : Nat) seq, i < j → j - i < 2 ^ 31 → seqs[i]? = some seq → seqs[j]? ≠ some seq

def runLoop (bridge : CmdBridge) (events : List LoopEvent) : CmdBridge := events.foldl (loopStep config ingest) bridge

/-- A tick at one second whose frame, if there is one, goes out. -/
def tick : List LoopEvent := [.getLatestIntent 1, .getLatestVis, .getVisAge true]

/-- Between two ticks of a connected bridge that has seen no VIS message. -/
structure Ready (seq : ℤ) (intent : Intent) (bridge : CmdBridge) : Prop where
  idle : bridge.stage = .idle
  opened : bridge.socketOpen = true
  next : bridge.shared.cmdNextSeq = seq
  stored : bridge.shared.latestIntent = some intent
  noVis : bridge.shared.vis.latest = none

/-- Within a tick, with the intent and the snapshot read. -/
structure Reading (seq : ℤ) (intent : Intent) (bridge : CmdBridge) : Prop where
  opened : bridge.socketOpen = true
  next : bridge.shared.cmdNextSeq = seq
  stored : bridge.shared.latestIntent = some intent
  noVis : bridge.shared.vis.latest = none

theorem sentSeqs_append (bridge : CmdBridge) (events more : List LoopEvent) :
    bridge.sentSeqs config ingest (events ++ more) =
      bridge.sentSeqs config ingest events ++ (bridge.runLoop config ingest events).sentSeqs config ingest more := by
  induction events generalizing bridge with
  | nil => rfl
  | cons event events ih =>
    rw [List.cons_append, sentSeqs, sentSeqs, ih, List.append_assoc]
    rfl

theorem runLoop_append (bridge : CmdBridge) (events more : List LoopEvent) :
    bridge.runLoop config ingest (events ++ more) =
      (bridge.runLoop config ingest events).runLoop config ingest more :=
  List.foldl_append

variable {seq : ℤ} {intent : Intent} {bridge : CmdBridge}

/-- The bridge once the tick has read the intent and the snapshot. -/
theorem Ready.reads (ready : bridge.Ready seq intent) :
    ∃ reading : CmdBridge, reading.Reading seq intent ∧
      bridge.runLoop config ingest tick = (reading.sendTick config 1 (some intent) none true).1 ∧
      bridge.sentSeqs config ingest tick =
        ((reading.sendTick config 1 (some intent) none true).2.map CmdPayload.seq).toList := by
  obtain ⟨idle, opened, next, stored, noVis⟩ := ready
  cases bridge with
  | mk shared stage socketOpen nextConnectAttempt connectBackoff =>
    dsimp only at idle opened stored noVis
    subst idle opened
    refine ⟨{ shared, stage := .readVis 1 (some intent) none shared.vis.lastRxMonotonic, socketOpen := true
              nextConnectAttempt, connectBackoff }, ⟨rfl, next, stored, noVis⟩, ?_, ?_⟩
    · unfold runLoop tick
      simp only [List.foldl_cons, List.foldl_nil, loopStep, step, act, stored, noVis]
    · unfold tick
      simp [sentSeqs, loopSent, loopStep, step, sent, act, stored, noVis]

/-- The payload that the tick builds. -/
theorem Reading.built (reading : bridge.Reading seq intent) (nonneg : 0 ≤ seq)
    (known : intent.desiredMode ∈ controlModes) :
    ∃ payload reason,
      buildCmdPayload bridge.shared.cmdNextSeq 1 (some intent) none (bridge.shared.getVisAge 1) config.visFresh =
        .ok (payload, reason) ∧
      payload.seq = seq ∧ (dumps (.obj payload.members)).length = payloadBytes seq 1 intent none := by
  have stored : ∀ i ∈ some intent, i.desiredMode ∈ controlModes := by
    intro i same
    cases same
    exact known
  obtain ⟨payload, reason, built⟩ := buildCmdPayload_known nonneg stored config.visFresh_nonneg 1 none
    (bridge.shared.getVisAge 1)
  have size := payload_length built
  rw [ite_self] at size
  rw [reading.next]
  exact ⟨payload, reason, built, (buildCmdPayload_ok built).1.1, size⟩

/-- What the tick leaves, whether it has sent or not. -/
theorem Reading.ready {reading after : CmdBridge} {out : Option CmdPayload} {sent : Bool}
    (reads : reading.Reading seq intent) (ends : reading.sendTick config 1 (some intent) none true = (after, out))
    (idle : after.stage = .idle) (opened : after.socketOpen = reading.socketOpen)
    (ticked : Ticked reading.shared after.shared sent) :
    after.Ready (nextSeq seq) intent := by
  have vis := (sendTick_frame config reading 1 (some intent) none true).1
  rw [ends] at vis
  refine ⟨idle, opened.trans reads.opened, ?_, ticked.latestIntent.trans reads.stored, ?_⟩
  · rw [ticked.next, reads.next]
  · rw [vis]
    exact reads.noVis

/-- A frame that is too long is not sent, and its number is used up. -/
theorem Ready.tick_lost (ready : bridge.Ready seq intent) (nonneg : 0 ≤ seq) (known : intent.desiredMode ∈ controlModes)
    (long : config.maxPayloadBytes < payloadBytes seq 1 intent none) :
    (bridge.runLoop config ingest tick).Ready (nextSeq seq) intent ∧ bridge.sentSeqs config ingest tick = [] := by
  obtain ⟨reading, reads, runs, sends⟩ := ready.reads config ingest
  obtain ⟨payload, reason, built, -, size⟩ := reads.built config nonneg known
  have framed : frameCmdPayload payload config.maxPayloadBytes =
      .error (.valueError s!"CMD payload length out of range [1, {config.maxPayloadBytes}]") := by
    unfold frameCmdPayload
    exact if_pos fun within => absurd within.2 (by omega)
  have ends : reading.sendTick config 1 (some intent) none true =
      ({ reading with
         shared :=
           (((reading.shared.reserveCmdSeq none).2.setTrackingBlockedReason reason).recordCmdTxAttempt).recordCmdTxFail
         stage := .idle }, none) := by
    unfold sendTick
    dsimp only [SharedState.reserveCmdSeq, Option.elim_none] at built ⊢
    rw [built]
    dsimp only
    rw [framed]
  rw [runs, sends, ends]
  exact ⟨reads.ready config ends rfl rfl (attempted reading.shared reason).failed, rfl⟩

/-- A frame of at most the greatest length goes out. -/
theorem Ready.tick_sent (ready : bridge.Ready seq intent) (nonneg : 0 ≤ seq) (known : intent.desiredMode ∈ controlModes)
    (short : payloadBytes seq 1 intent none ≤ config.maxPayloadBytes) (limit : config.maxPayloadBytes < 2 ^ 32) :
    (bridge.runLoop config ingest tick).Ready (nextSeq seq) intent ∧ bridge.sentSeqs config ingest tick = [seq] := by
  obtain ⟨reading, reads, runs, sends⟩ := ready.reads config ingest
  obtain ⟨payload, reason, built, number, size⟩ := reads.built config nonneg known
  have nonempty : 1 ≤ (dumps (.obj payload.members)).length := by
    rw [length_dumps_obj, objectBytes]
    omega
  have framed : frameCmdPayload payload config.maxPayloadBytes =
      .ok (packLength (dumps (.obj payload.members)).length ++ dumps (.obj payload.members)) := by
    unfold frameCmdPayload
    dsimp only
    rw [if_neg (by omega), if_neg (by omega)]
  have ends : ∃ bytes, reading.sendTick config 1 (some intent) none true =
      ({ reading with
         shared :=
           (((reading.shared.reserveCmdSeq none).2.setTrackingBlockedReason reason).recordCmdTxAttempt
              |>.recordLastCmdPayload payload bytes).recordCmdTxOk 1
         stage := .idle }, some payload) := by
    unfold sendTick
    dsimp only [SharedState.reserveCmdSeq, Option.elim_none] at built ⊢
    rw [built]
    dsimp only
    rw [framed, reads.opened]
    exact ⟨_, rfl⟩
  obtain ⟨bytes, ends⟩ := ends
  have ticked := ((attempted reading.shared reason).record payload bytes).sent 1
  rw [runs, sends, ends]
  exact ⟨reads.ready config ends rfl rfl ticked, congrArg (fun n => [n]) number⟩

/-- A length that four bytes cannot tell ends the thread. -/
theorem Ready.tick_crashes (ready : bridge.Ready seq intent) (nonneg : 0 ≤ seq)
    (known : intent.desiredMode ∈ controlModes) (short : payloadBytes seq 1 intent none ≤ config.maxPayloadBytes)
    (huge : 2 ^ 32 ≤ payloadBytes seq 1 intent none) : (bridge.runLoop config ingest tick).stage = .crashed := by
  obtain ⟨reading, reads, runs, -⟩ := ready.reads config ingest
  obtain ⟨payload, reason, built, -, size⟩ := reads.built config nonneg known
  have framed : frameCmdPayload payload config.maxPayloadBytes = .error .structError := by
    unfold frameCmdPayload
    dsimp only
    rw [if_neg (by omega), if_pos (by omega)]
  rw [runs]
  unfold sendTick
  dsimp only [SharedState.reserveCmdSeq, Option.elim_none] at built ⊢
  rw [built]
  dsimp only
  rw [framed]

/-- Ticks that lose their frames count the numbers up. -/
theorem Ready.ticks_lost (ready : bridge.Ready seq intent) (inRange : 0 ≤ seq ∧ seq ≤ cmdSeqMax)
    (known : intent.desiredMode ∈ controlModes)
    (long : ∀ seq : ℤ, config.maxPayloadBytes < payloadBytes seq 1 intent none) (n : Nat) :
    (bridge.runLoop config ingest (List.replicate n tick).flatten).Ready ((seq + n) % cmdSeqMod) intent ∧
      bridge.sentSeqs config ingest (List.replicate n tick).flatten = [] := by
  induction n with
  | zero =>
    have start : (seq + (0 : Nat)) % cmdSeqMod = seq := by
      unfold cmdSeqMod
      unfold cmdSeqMax at inRange ⊢
      omega
    rw [start]
    exact ⟨ready, rfl⟩
  | succ n ih =>
    obtain ⟨reached, silent⟩ := ih
    have within : 0 ≤ (seq + n) % cmdSeqMod ∧ (seq + n) % cmdSeqMod ≤ cmdSeqMax := by
      unfold cmdSeqMod cmdSeqMax
      omega
    obtain ⟨after, lost⟩ := reached.tick_lost config ingest within.1 known (long _)
    have counts : nextSeq ((seq + n) % cmdSeqMod) = (seq + (n + 1 : Nat)) % cmdSeqMod := by
      rw [nextSeq_emod, Nat.cast_succ, add_assoc]
    rw [List.replicate_succ', List.flatten_append, List.flatten_singleton, runLoop_append, sentSeqs_append, silent,
      lost, ← counts]
    exact ⟨after, rfl⟩

theorem Ready.posted (ready : bridge.Ready seq intent) {request : IntentRequest} {posted : Intent}
    (accepted : Backend.postIntent request = .ok posted) (updateMonotonic : Double) :
    (bridge.runLoop config ingest [.postIntent request updateMonotonic]).Ready seq posted ∧
      bridge.sentSeqs config ingest [.postIntent request updateMonotonic] = [] := by
  refine ⟨?_, rfl⟩
  unfold runLoop
  rw [List.foldl_cons, List.foldl_nil]
  unfold loopStep
  dsimp only
  rw [accepted]
  exact ⟨ready.idle, ready.opened, ready.next, rfl, ready.noVis⟩

/-- The run of a bridge that connects. -/
def connecting (request : IntentRequest) : List LoopEvent := [.attemptConnect 0 true, .postIntent request 0]

theorem connecting_ready {request : IntentRequest} (accepted : Backend.postIntent request = .ok intent) :
    ((init config 0).runLoop config ingest (connecting request)).Ready 0 intent ∧
      (init config 0).sentSeqs config ingest (connecting request) = [] := by
  have due : ¬ (0 : Double) < 0 := by decide
  refine ⟨?_, rfl⟩
  unfold runLoop connecting
  rw [List.foldl_cons, List.foldl_cons, List.foldl_nil]
  unfold loopStep
  dsimp only
  rw [accepted]
  unfold step act CmdBridge.attemptConnect init
  dsimp only
  rw [if_neg due]
  exact ⟨rfl, rfl, rfl, rfl, rfl⟩

/-- A frame goes out, `n` frames that are too long are lost, and a frame goes out. -/
def lossyRun (short long : IntentRequest) (n : Nat) : List LoopEvent :=
  connecting short ++ (tick ++ ([.postIntent long 1] ++ ((List.replicate n tick).flatten ++
    ([.postIntent short 1] ++ tick))))

/-- When the numbers have gone round, the two frames have the same. -/
theorem lossyRun_repeats {short long : IntentRequest} {brief lengthy : Intent}
    (acceptedBrief : Backend.postIntent short = .ok brief) (acceptedLengthy : Backend.postIntent long = .ok lengthy)
    (knownBrief : brief.desiredMode ∈ controlModes) (knownLengthy : lengthy.desiredMode ∈ controlModes)
    (limit : config.maxPayloadBytes < 2 ^ 32) (fits : payloadBytes 0 1 brief none ≤ config.maxPayloadBytes)
    (exceeds : ∀ seq : ℤ, config.maxPayloadBytes < payloadBytes seq 1 lengthy none) :
    (init config 0).sentSeqs config ingest (lossyRun short long cmdSeqMax.toNat) = [0, 0] := by
  obtain ⟨connected, none₁⟩ := connecting_ready config ingest acceptedBrief
  obtain ⟨first, sent₁⟩ := connected.tick_sent config ingest le_rfl knownBrief fits limit
  obtain ⟨oversized, none₂⟩ := first.posted config ingest acceptedLengthy 1
  obtain ⟨round, none₃⟩ := oversized.ticks_lost config ingest (by decide) knownLengthy exceeds cmdSeqMax.toNat
  have again : (nextSeq 0 + (cmdSeqMax.toNat : ℤ)) % cmdSeqMod = 0 := by decide
  rw [again] at round
  obtain ⟨resumed, none₄⟩ := round.posted config ingest acceptedBrief 1
  obtain ⟨-, sent₂⟩ := resumed.tick_sent config ingest le_rfl knownBrief fits limit
  unfold lossyRun
  rw [sentSeqs_append, sentSeqs_append, sentSeqs_append, sentSeqs_append, sentSeqs_append, none₁, sent₁, none₂, none₃,
    none₄, sent₂]
  rfl

end CmdBridge

section hardware
attribute [local instance] Binary64.binary64 plainRepr
open CmdBridge

/-- The payload of a landing with one setpoint, of which the name is as long as it is. -/
theorem payloadBytes_landing (seq : ℤ) (key : PyStr) :
    payloadBytes seq (1 : Double) (landingIntent [(key, 1)]) none =
      payloadBytes seq (1 : Double) (landingIntent [([], 1)]) none + textBytes key := by
  simp only [payloadBytes, landingIntent, setpointsBytes, objectBytes, Option.map_some, Option.toList_some,
    List.map_append, List.map_cons, List.map_nil, List.sum_append, List.sum_cons, List.sum_nil, List.length_append,
    List.length_cons, List.length_nil, textBytes]
  omega

theorem landing_accepted (setpoints : List (PyStr × Double)) :
    postIntent (landing setpoints) = .ok (landingIntent setpoints) := rfl

/-- Settings with which the bridge does not keep to what it promises with others. -/
def hugeFrames : BridgeConfig :=
  { BridgeConfig.unset with maxPayloadBytes := 2 ^ 33, maxPayloadBytes_pos := Nat.two_pow_pos 33 }

def nanBackoff : BridgeConfig := { BridgeConfig.unset with connectBackoffInitial := nan }

theorem huge_landing_crashes {key : PyStr} (huge : textBytes key = 2 ^ 32) :
    ((init hugeFrames 0).runLoop hugeFrames {} (connecting (landing [(key, 1)]) ++ tick)).stage = .crashed := by
  obtain ⟨ready, -⟩ := connecting_ready hugeFrames {} (landing_accepted [(key, 1)])
  have size : payloadBytes 0 (1 : Double) (landingIntent [(key, 1)]) none =
      payloadBytes 0 (1 : Double) (landingIntent [([], 1)]) none + 2 ^ 32 := by
    rw [payloadBytes_landing, huge]
  have rest : payloadBytes 0 (1 : Double) (landingIntent [([], 1)]) none ≤ 2 ^ 32 := by decide +kernel
  have limit : hugeFrames.maxPayloadBytes = 2 ^ 33 := rfl
  rw [runLoop_append]
  have known : modeLandSafely ∈ controlModes := by decide
  exact ready.tick_crashes hugeFrames {} le_rfl known (by omega) (by omega)

/-- Two frames with the number 0 go out one after the other, a frame of `2 ^ 32` bytes ends the thread, and a backoff
that is not a number passes the checks of the constructor. -/
theorem loop_irregular :
    ¬ FramesApart ((init .unset 0).sentSeqs .unset {}
        (lossyRun (landing []) (landing [(List.replicate 4096 97, 1)]) cmdSeqMax.toNat)) ∧
      ((init hugeFrames 0).runLoop hugeFrames {}
        (connecting (landing [(List.replicate (2 ^ 32) 97, 1)]) ++ tick)).stage = .crashed ∧
      ¬ nanBackoff.connectBackoffInitial ≤ 0 ∧ ¬ nanBackoff.connectBackoffMax < nanBackoff.connectBackoffInitial ∧
      ¬ nanBackoff.connectBackoffInitial ≤ (init nanBackoff 0).connectBackoff := by
  refine ⟨?_, ?_, by decide, by decide, by decide⟩
  · have long : 4096 ≤ textBytes (List.replicate 4096 97) := by
      rw [textBytes_replicate]
      decide
    have fits : payloadBytes 0 (1 : Double) (landingIntent []) none ≤ 4096 := by decide +kernel
    have repeats := lossyRun_repeats .unset {} (landing_accepted []) (landing_accepted _) (by decide)
      (by decide) (by decide) fits fun seq => not_le.1 (long_key_long long seq 1 1 none)
    rw [repeats]
    intro apart
    exact apart 0 1 0 (by decide) (by decide) rfl rfl
  · apply huge_landing_crashes
    rw [textBytes_replicate]
    rfl

end hardware
end AotDrone.Backend
