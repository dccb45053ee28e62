import AotDrone.Backend.CmdBridge
import AotDrone.Backend.FrameSize
import AotDrone.Backend.Ingest

/-! What holds of the command bridge after every iteration of `run_forever`, whatever intents and datagrams the backend
takes meanwhile. -/

namespace AotDrone.Backend
open AotDrone.Lib AotDrone.Lib.Double AotDrone.Lib.Run AotDrone.Json

/-! ## The backoff -/

section backoff
variable [Fpu]

/-- The settings of a bridge whose frames have a length that four bytes can tell and whose backoff settings are
numbers. -/
structure BridgeConfig.Numeric (config : BridgeConfig) : Prop where
  limit : config.maxPayloadBytes < 2 ^ 32
  positive : 0 < config.connectBackoffInitial
  ordered : config.connectBackoffInitial ≤ config.connectBackoffMax
  initial : IsDouble config.connectBackoffInitial
  max : IsDouble config.connectBackoffMax

/-- The backoff stays between its settings. -/
structure BridgeConfig.Bounds (config : BridgeConfig) (backoff : Double) : Prop where
  least : config.connectBackoffInitial ≤ backoff
  most : backoff ≤ config.connectBackoffMax
  double : IsDouble backoff

variable {config : BridgeConfig}

theorem BridgeConfig.Numeric.initial_bounds (numeric : config.Numeric) :
    config.Bounds config.connectBackoffInitial := by
  refine ⟨?_, numeric.ordered, numeric.initial⟩
  have number : config.connectBackoffInitial ≠ nan := by
    intro nan
    have positive := numeric.positive
    rw [nan] at positive
    exact not_lt_nan positive
  exact Double.le_refl number

theorem BridgeConfig.Numeric.double_bounds (numeric : config.Numeric) {backoff : Double}
    (bounds : config.Bounds backoff) : config.Bounds (pyMin (backoff * 2) config.connectBackoffMax) := by
  have nonneg : 0 ≤ backoff := by
    have positive := Double.le_of_lt numeric.positive
    exact Double.le_trans positive bounds.least
  have doubled := le_double nonneg bounds.double
  have highest : config.connectBackoffMax ≠ nan := by
    intro nan
    have ordered := numeric.ordered
    rw [nan] at ordered
    exact not_le_nan ordered
  refine ⟨?_, ?_, isDouble_pyMin (isDouble_mul _ _) numeric.max⟩
  · unfold pyMin
    split
    · exact numeric.ordered
    · exact Double.le_trans bounds.least doubled
  · unfold pyMin
    split
    · exact Double.le_refl highest
    next within =>
      apply Double.le_of_not_lt _ highest within
      intro nan
      rw [nan] at doubled
      exact not_le_nan doubled

end backoff

/-! ## Iterations -/

/-- What happens between and during the iterations: requests and datagrams that the backend takes, an attempt to
connect, and the three reads of a tick, of which the last ends it. -/
inductive LoopEvent where
  | postIntent (request : IntentRequest) (updateMonotonic : Double)
  | telDatagram (data : Bytes) (rxMonotonic : Double)
  | visDatagram (data : Bytes) (rxMonotonic : Double)
  | attemptConnect (now : Double) (connects : Bool)
  | getLatestIntent (now : Double)
  | getLatestVis
  | getVisAge (sends : Bool)

/-- The intent that a tick has read, if it has read one, asks for a mode that there is. -/
def TickStage.Known : TickStage → Prop
  | .readIntent _ intent | .readVis _ intent _ _ => ∀ i ∈ intent, i.desiredMode ∈ controlModes
  | .idle | .crashed => True

namespace CmdBridge
variable [Fpu] [FloatRepr] (config : BridgeConfig) (ingest : IngestConfig)

def loopStep (bridge : CmdBridge) : LoopEvent → CmdBridge
  | .postIntent request updateMonotonic =>
    match Backend.postIntent request with
    | .ok intent => bridge.step config (.updateIntent intent updateMonotonic)
    | .error _ => bridge
  | .telDatagram data rxMonotonic =>
    let tel := (telKind.processDatagram ingest.telMaxBytes ingest.recursionLimit bridge.shared.tel data rxMonotonic).1
    { bridge with shared := { bridge.shared with tel } }
  | .visDatagram data rxMonotonic =>
    let vis := (visKind.processDatagram ingest.visMaxBytes ingest.recursionLimit bridge.shared.vis data rxMonotonic).1
    { bridge with shared := { bridge.shared with vis } }
  | .attemptConnect now connects => bridge.step config (.attemptConnect now connects)
  | .getLatestIntent now => bridge.step config (.getLatestIntent now)
  | .getLatestVis => bridge.step config .getLatestVis
  | .getVisAge sends => bridge.step config (.getVisAge sends)

/-- The payload that an event sends. -/
def loopSent (bridge : CmdBridge) : LoopEvent → Option CmdPayload
  | .getVisAge sends => bridge.sent config (.getVisAge sends)
  | _ => none

/-- The number that a tick reserves. -/
def tickSeq (bridge : CmdBridge) : LoopEvent → Option ℤ
  | .getVisAge _ =>
    match bridge.stage with
    | .readVis _ _ _ _ => some bridge.shared.cmdNextSeq
    | _ => none
  | _ => none

/-- Whether the event tries to connect or to send, and fails or connects. A frame that goes out is neither. -/
inductive Outcome where
  | connected
  | failed
  | neither

def outcome (bridge : CmdBridge) : LoopEvent → Outcome
  | .attemptConnect now connects =>
    match bridge.stage, bridge.socketOpen with
    | .idle, false =>
      if now < bridge.nextConnectAttempt then .neither else if connects then .connected else .failed
    | _, _ => .neither
  | .getVisAge false => if (bridge.sent config (.getVisAge true)).isSome then .failed else .neither
  | _ => .neither

/-- The numbers of the ticks so far, oldest first. -/
def tickSeqs (past : Past CmdBridge LoopEvent) : List ℤ := past.filterMap fun tick => tick.1.tickSeq tick.2

/-- The loop invariant. -/
structure Regular (past : Past CmdBridge LoopEvent) (bridge : CmdBridge) (event : LoopEvent) : Prop where
  returns : (bridge.loopStep config ingest event).stage ≠ .crashed
  counted : (bridge.loopStep config ingest event).shared.cmdTxTotal =
    (bridge.loopStep config ingest event).shared.cmdTxOk + (bridge.loopStep config ingest event).shared.cmdTxFail
  connected : (bridge.loopStep config ingest event).shared.fcConnected = (bridge.loopStep config ingest event).socketOpen
  scheduled : ∀ now connects, event = .attemptConnect now connects → now < bridge.nextConnectAttempt →
    bridge.loopStep config ingest event = bridge
  backoff : (bridge.loopStep config ingest event).connectBackoff =
    match bridge.outcome config event with
    | .connected => config.connectBackoffInitial
    | .failed => pyMin (bridge.connectBackoff * 2) config.connectBackoffMax
    | .neither => bridge.connectBackoff
  least : config.connectBackoffInitial ≤ (bridge.loopStep config ingest event).connectBackoff
  most : (bridge.loopStep config ingest event).connectBackoff ≤ config.connectBackoffMax
  number : ∀ payload ∈ bridge.loopSent config event, bridge.tickSeq event = some payload.seq
  fresh : ∀ seq ∈ bridge.tickSeq event, seq ∉ (tickSeqs past).reverse.take cmdSeqMax.toNat

/-- What every event finds. `start` is the first number. -/
structure LoopInv (start : ℤ) (past : Past CmdBridge LoopEvent) (bridge : CmdBridge) : Prop where
  running : bridge.stage ≠ .crashed
  counted : bridge.shared.cmdTxTotal = bridge.shared.cmdTxOk + bridge.shared.cmdTxFail
  connected : bridge.shared.fcConnected = bridge.socketOpen
  bounds : config.Bounds bridge.connectBackoff
  stored : ∀ intent ∈ bridge.shared.latestIntent, intent.desiredMode ∈ controlModes
  read : bridge.stage.Known
  next : bridge.shared.cmdNextSeq = (start + (tickSeqs past).length) % cmdSeqMod
  ticks : ∀ (k : Nat) seq, (tickSeqs past)[k]? = some seq → seq = (start + k) % cmdSeqMod

variable {config ingest}

omit [Fpu] [FloatRepr] in
/-- A payload is built of every intent with a known mode. -/
theorem buildCmdPayload_known {seq : ℤ} (nonneg : 0 ≤ seq) {intent : Option Intent}
    (known : ∀ i ∈ intent, i.desiredMode ∈ controlModes) {visFresh : Double} (positive : ¬ visFresh < 0) (now : Double)
    (snapshot : Option VisMessage) (age : Option Double) :
    ∃ payload reason, buildCmdPayload seq now intent snapshot age visFresh = .ok (payload, reason) := by
  have mode : (intent.map (·.desiredMode)).getD modeLandSafely ∈ controlModes := by
    cases intent with
    | none => decide
    | some intent => exact known intent rfl
  unfold buildCmdPayload
  rw [if_neg (not_lt.2 nonneg), if_neg positive]
  dsimp only
  rw [if_neg (not_not_intro mode)]
  exact ⟨_, _, rfl⟩

/-- A frame of a length that four bytes can tell is packed. -/
theorem frameCmdPayload_packs (limit : config.maxPayloadBytes < 2 ^ 32) (payload : CmdPayload) :
    frameCmdPayload payload config.maxPayloadBytes ≠ .error .structError := by
  unfold frameCmdPayload
  dsimp only
  split
  · simp
  next within =>
    rw [if_neg (by omega)]
    simp

/-- What a tick leaves of the state that the bridge shares. -/
structure Ticked (before after : SharedState) (sent : Bool) : Prop where
  total : after.cmdTxTotal = before.cmdTxTotal + 1
  ok : after.cmdTxOk = before.cmdTxOk + sent.toNat
  fail : after.cmdTxFail = before.cmdTxFail + (!sent).toNat
  next : after.cmdNextSeq = nextSeq before.cmdNextSeq
  latestIntent : after.latestIntent = before.latestIntent

/-- What a tick has changed once it has counted its attempt. -/
structure Attempted (before after : SharedState) : Prop where
  total : after.cmdTxTotal = before.cmdTxTotal + 1
  ok : after.cmdTxOk = before.cmdTxOk
  fail : after.cmdTxFail = before.cmdTxFail
  next : after.cmdNextSeq = nextSeq before.cmdNextSeq
  latestIntent : after.latestIntent = before.latestIntent
  fcConnected : after.fcConnected = before.fcConnected

section ticked
variable {before after : SharedState}

omit [Fpu] [FloatRepr] in
theorem attempted (before : SharedState) (reason : Option BlockedReason) :
    Attempted before ((before.reserveCmdSeq none).2.setTrackingBlockedReason reason).recordCmdTxAttempt :=
  ⟨rfl, rfl, rfl, rfl, rfl, rfl⟩

omit [Fpu] [FloatRepr] in
theorem Attempted.record (attempted : Attempted before after) (payload : CmdPayload) (bytes : Nat) :
    Attempted before (after.recordLastCmdPayload payload bytes) :=
  ⟨attempted.total, attempted.ok, attempted.fail, attempted.next, attempted.latestIntent, attempted.fcConnected⟩

omit [Fpu] [FloatRepr] in
theorem Attempted.failed (attempted : Attempted before after) : Ticked before after.recordCmdTxFail false :=
  ⟨attempted.total, attempted.ok, congrArg Nat.succ attempted.fail, attempted.next, attempted.latestIntent⟩

omit [FloatRepr] in
theorem Attempted.sent (attempted : Attempted before after) (now : Double) :
    Ticked before (after.recordCmdTxOk now) true :=
  ⟨attempted.total, congrArg Nat.succ attempted.ok, attempted.fail, attempted.next, attempted.latestIntent⟩

omit [Fpu] [FloatRepr] in
theorem Ticked.setFcConnected {sent : Bool} (ticked : Ticked before after sent) (connected : Bool) :
    Ticked before (after.setFcConnected connected) sent :=
  ⟨ticked.total, ticked.ok, ticked.fail, ticked.next, ticked.latestIntent⟩

end ticked

/-- How a tick can end, with what `sendall` does as a parameter. -/
inductive TickEnd (config : BridgeConfig) (bridge : CmdBridge) (now : Double)
    (tick : Bool → CmdBridge × Option CmdPayload) : Prop
  | tooLong (shared : SharedState) (ticked : Ticked bridge.shared shared false)
      (connected : shared.fcConnected = bridge.shared.fcConnected)
      (ends : ∀ sends, tick sends = ({ bridge with shared, stage := .idle }, none))
  | closed (closed : bridge.socketOpen = false) (shared : SharedState) (ticked : Ticked bridge.shared shared false)
      (connected : shared.fcConnected = false)
      (ends : ∀ sends, tick sends = ({ bridge with shared, stage := .idle, nextConnectAttempt := now }, none))
  | framed (payload : CmdPayload) (number : payload.seq = bridge.shared.cmdNextSeq)
      (shared lost : SharedState) (ticked : Ticked bridge.shared shared true) (failed : Ticked bridge.shared lost false)
      (connected : shared.fcConnected = bridge.shared.fcConnected) (disconnected : lost.fcConnected = false)
      (sends : tick true = ({ bridge with shared, stage := .idle }, some payload))
      (fails : tick false =
        ({ bridge with
           shared := lost, stage := .idle, socketOpen := false, nextConnectAttempt := now + bridge.connectBackoff
           connectBackoff := pyMin (bridge.connectBackoff * 2) config.connectBackoffMax }, none))

theorem sendTick_ends (limit : config.maxPayloadBytes < 2 ^ 32) {bridge : CmdBridge}
    (nonneg : 0 ≤ bridge.shared.cmdNextSeq) {intent : Option Intent}
    (known : ∀ i ∈ intent, i.desiredMode ∈ controlModes) (now : Double) (snapshot : Option VisMessage) :
    TickEnd config bridge now (bridge.sendTick config now intent snapshot) := by
  obtain ⟨payload, reason, built⟩ := buildCmdPayload_known nonneg known config.visFresh_nonneg now snapshot
    (bridge.shared.getVisAge now)
  have number := (buildCmdPayload_ok built).1.1
  have packs := frameCmdPayload_packs limit payload
  have counted := attempted bridge.shared reason
  have reserved : bridge.shared.reserveCmdSeq none =
      (bridge.shared.cmdNextSeq, (bridge.shared.reserveCmdSeq none).2) := rfl
  cases framed : frameCmdPayload payload config.maxPayloadBytes with
  | error raised =>
    cases raised with
    | structError => exact absurd framed packs
    | valueError message =>
      refine .tooLong _ counted.failed counted.fcConnected fun sends => ?_
      unfold sendTick
      rw [reserved]
      dsimp only
      rw [built]
      dsimp only
      rw [framed]
  | ok frame =>
    have recorded := counted.record payload (frame.length - 4)
    have lost := recorded.failed.setFcConnected false
    cases opened : bridge.socketOpen with
    | false =>
      refine .closed opened _ lost rfl fun sends => ?_
      unfold sendTick
      rw [reserved]
      dsimp only
      rw [built]
      dsimp only
      rw [framed, opened]
      rfl
    | true =>
      refine .framed payload number _ _ (recorded.sent now) lost recorded.fcConnected rfl ?_ ?_
      all_goals
        unfold sendTick
        rw [reserved]
        dsimp only
        rw [built]
        dsimp only
        rw [framed, opened]
        rfl

/-! ## The numbers of the ticks -/

variable {start : ℤ} {past : Past CmdBridge LoopEvent} {bridge : CmdBridge}

omit [Fpu] [FloatRepr] in
theorem tickSeqs_append (event : LoopEvent) :
    tickSeqs (past ++ [(bridge, event)]) = tickSeqs past ++ (bridge.tickSeq event).toList := by
  unfold tickSeqs
  rw [List.filterMap_append, List.filterMap_cons]
  cases bridge.tickSeq event <;> rfl

omit [Fpu] [FloatRepr] in
theorem tickSeq_eq {event : LoopEvent} {seq : ℤ} (ticks : bridge.tickSeq event = some seq) :
    seq = bridge.shared.cmdNextSeq ∧ ∃ sends, event = .getVisAge sends := by
  unfold tickSeq at ticks
  cases event with
  | getVisAge sends =>
    dsimp only at ticks
    split at ticks
    · exact ⟨(Option.some.inj ticks).symm, sends, rfl⟩
    · cases ticks
  | _ => cases ticks

omit [FloatRepr] in
/-- The number of a tick is not among those of the ticks that lie less than a whole round back. -/
theorem LoopInv.fresh (inv : LoopInv config start past bridge) {event : LoopEvent} {seq : ℤ}
    (ticks : seq ∈ bridge.tickSeq event) : seq ∉ (tickSeqs past).reverse.take cmdSeqMax.toNat := by
  intro recent
  obtain ⟨back, at_back⟩ := List.mem_iff_getElem?.1 recent
  have within := (List.getElem?_eq_some_iff.1 at_back).1
  rw [List.length_take, List.length_reverse] at within
  rw [List.getElem?_take_of_lt (by omega), List.getElem?_reverse (by omega)] at at_back
  have earlier := inv.ticks _ seq at_back
  have now := inv.next
  rw [← (tickSeq_eq ticks).1] at now
  unfold cmdSeqMax at within
  unfold cmdSeqMod cmdSeqMax at earlier now
  omega

/-! ## One event -/

omit [FloatRepr] in
/-- An event that reserves no number. -/
theorem LoopInv.quiet (inv : LoopInv config start past bridge) {event : LoopEvent} (quiet : bridge.tickSeq event = none)
    {after : CmdBridge} (running : after.stage ≠ .crashed)
    (counted : after.shared.cmdTxTotal = after.shared.cmdTxOk + after.shared.cmdTxFail)
    (connected : after.shared.fcConnected = after.socketOpen) (bounds : config.Bounds after.connectBackoff)
    (stored : ∀ intent ∈ after.shared.latestIntent, intent.desiredMode ∈ controlModes)
    (read : after.stage.Known)
    (next : after.shared.cmdNextSeq = bridge.shared.cmdNextSeq) :
    LoopInv config start (past ++ [(bridge, event)]) after := by
  have same : tickSeqs (past ++ [(bridge, event)]) = tickSeqs past := by
    rw [tickSeqs_append, quiet]
    exact List.append_nil _
  refine ⟨running, counted, connected, bounds, stored, read, ?_, ?_⟩
  · rw [same, next]
    exact inv.next
  · rw [same]
    exact inv.ticks

theorem LoopInv.postIntent (inv : LoopInv config start past bridge) (request : IntentRequest)
    (updateMonotonic : Double) :
    LoopInv config start (past ++ [(bridge, .postIntent request updateMonotonic)])
      (bridge.loopStep config ingest (.postIntent request updateMonotonic)) := by
  unfold loopStep
  dsimp only
  cases accepted : Backend.postIntent request with
  | error exception => exact inv.quiet rfl inv.running inv.counted inv.connected inv.bounds inv.stored inv.read rfl
  | ok intent =>
    refine inv.quiet rfl inv.running inv.counted inv.connected inv.bounds ?_ inv.read rfl
    intro stored same
    cases same
    unfold Backend.postIntent at accepted
    split_ifs at accepted with known
    cases accepted
    exact known

theorem LoopInv.attemptConnect (numeric : config.Numeric) (inv : LoopInv config start past bridge) (now : Double)
    (connects : Bool) :
    LoopInv config start (past ++ [(bridge, .attemptConnect now connects)])
      (bridge.loopStep config ingest (.attemptConnect now connects)) := by
  have same : LoopInv config start (past ++ [(bridge, .attemptConnect now connects)]) bridge :=
    inv.quiet rfl inv.running inv.counted inv.connected inv.bounds inv.stored inv.read rfl
  unfold loopStep step act
  dsimp only
  split
  next idle closed =>
    unfold CmdBridge.attemptConnect
    split
    · exact same
    cases connects with
    | true => exact inv.quiet rfl inv.running inv.counted rfl numeric.initial_bounds inv.stored inv.read rfl
    | false =>
      exact inv.quiet rfl inv.running inv.counted closed.symm (numeric.double_bounds inv.bounds) inv.stored inv.read rfl
  next => exact same

theorem LoopInv.getLatestIntent (inv : LoopInv config start past bridge) (now : Double) :
    LoopInv config start (past ++ [(bridge, .getLatestIntent now)])
      (bridge.loopStep config ingest (.getLatestIntent now)) := by
  unfold loopStep step act
  dsimp only
  split
  · exact inv.quiet rfl (by simp) inv.counted inv.connected inv.bounds inv.stored inv.stored rfl
  · exact inv.quiet rfl inv.running inv.counted inv.connected inv.bounds inv.stored inv.read rfl

theorem LoopInv.getLatestVis (inv : LoopInv config start past bridge) :
    LoopInv config start (past ++ [(bridge, .getLatestVis)]) (bridge.loopStep config ingest .getLatestVis) := by
  unfold loopStep step act
  dsimp only
  split
  next now intent stage =>
    have read := inv.read
    rw [stage] at read
    exact inv.quiet rfl (by simp) inv.counted inv.connected inv.bounds inv.stored read rfl
  · exact inv.quiet rfl inv.running inv.counted inv.connected inv.bounds inv.stored inv.read rfl

omit [FloatRepr] in
/-- A tick that ends with its number taken. -/
theorem LoopInv.ticked (inv : LoopInv config start past bridge) {event : LoopEvent}
    (ticks : bridge.tickSeq event = some bridge.shared.cmdNextSeq) {after : CmdBridge} {sent : Bool}
    (idle : after.stage = .idle) (ticked : Ticked bridge.shared after.shared sent)
    (connected : after.shared.fcConnected = after.socketOpen) (bounds : config.Bounds after.connectBackoff) :
    LoopInv config start (past ++ [(bridge, event)]) after := by
  have next := inv.next
  have appended : tickSeqs (past ++ [(bridge, event)]) = tickSeqs past ++ [bridge.shared.cmdNextSeq] := by
    rw [tickSeqs_append, ticks]
    rfl
  refine ⟨?_, ?_, connected, bounds, ?_, ?_, ?_, ?_⟩
  · rw [idle]
    simp
  · rw [ticked.total, ticked.ok, ticked.fail, inv.counted]
    cases sent
    · exact Nat.add_assoc _ _ _
    · exact Nat.add_right_comm _ _ _
  · rw [ticked.latestIntent]
    exact inv.stored
  · rw [idle]
    trivial
  · rw [ticked.next, appended, List.length_append, List.length_singleton, next, nextSeq_emod, add_assoc]
    rfl
  · rw [appended]
    intro k seq found
    by_cases old : k < (tickSeqs past).length
    · rw [List.getElem?_append_left old] at found
      exact inv.ticks k seq found
    · rw [List.getElem?_append_right (not_lt.1 old)] at found
      have last := (List.getElem?_eq_some_iff.1 found).1
      have at_last : k = (tickSeqs past).length := by
        rw [List.length_singleton] at last
        omega
      rw [List.mem_singleton.1 (List.mem_of_getElem? found), next, at_last]

theorem LoopInv.tickEnds (numeric : config.Numeric) (inv : LoopInv config start past bridge) {now : Double}
    {intent : Option Intent} {snapshot : Option VisMessage} {receivedAt : Option Double}
    (stage : bridge.stage = .readVis now intent snapshot receivedAt) :
    TickEnd config bridge now (bridge.sendTick config now intent snapshot) := by
  have known : ∀ i ∈ intent, i.desiredMode ∈ controlModes := by
    have read := inv.read
    rw [stage] at read
    exact read
  have nonneg : 0 ≤ bridge.shared.cmdNextSeq := by
    rw [inv.next]
    exact Int.emod_nonneg _ (by decide)
  exact sendTick_ends numeric.limit nonneg known now snapshot

theorem LoopInv.getVisAge (numeric : config.Numeric) (inv : LoopInv config start past bridge) (sends : Bool) :
    LoopInv config start (past ++ [(bridge, .getVisAge sends)]) (bridge.loopStep config ingest (.getVisAge sends)) := by
  unfold loopStep step act
  dsimp only
  split
  next now intent snapshot receivedAt stage =>
    have ticks : bridge.tickSeq (.getVisAge sends) = some bridge.shared.cmdNextSeq := by
      unfold tickSeq
      rw [stage]
    cases inv.tickEnds numeric stage with
    | tooLong shared ticked connected ends =>
      rw [ends sends]
      exact inv.ticked ticks rfl ticked (connected.trans inv.connected) inv.bounds
    | closed closed shared ticked connected ends =>
      rw [ends sends]
      exact inv.ticked ticks rfl ticked (connected.trans closed.symm) inv.bounds
    | framed payload number shared lost ticked failed connected disconnected succeeds fails =>
      cases sends with
      | true =>
        rw [succeeds]
        exact inv.ticked ticks rfl ticked (connected.trans inv.connected) inv.bounds
      | false =>
        rw [fails]
        exact inv.ticked ticks rfl failed disconnected (numeric.double_bounds inv.bounds)
  next other =>
    have quiet : bridge.tickSeq (.getVisAge sends) = none := by
      unfold tickSeq
      dsimp only
      split
      next now intent snapshot receivedAt stage => exact absurd stage (other now intent snapshot receivedAt)
      next => rfl
    exact inv.quiet quiet inv.running inv.counted inv.connected inv.bounds inv.stored inv.read rfl

theorem LoopInv.step (numeric : config.Numeric) (inv : LoopInv config start past bridge) (event : LoopEvent) :
    LoopInv config start (past ++ [(bridge, event)]) (bridge.loopStep config ingest event) := by
  cases event with
  | postIntent request updateMonotonic => exact inv.postIntent request updateMonotonic
  | telDatagram data rxMonotonic =>
    exact inv.quiet rfl inv.running inv.counted inv.connected inv.bounds inv.stored inv.read rfl
  | visDatagram data rxMonotonic =>
    exact inv.quiet rfl inv.running inv.counted inv.connected inv.bounds inv.stored inv.read rfl
  | attemptConnect now connects => exact inv.attemptConnect numeric now connects
  | getLatestIntent now => exact inv.getLatestIntent now
  | getLatestVis => exact inv.getLatestVis
  | getVisAge sends => exact inv.getVisAge numeric sends

variable (config) in
theorem act_getVisAge {now : Double} {intent : Option Intent} {snapshot : Option VisMessage}
    {receivedAt : Option Double} (stage : bridge.stage = .readVis now intent snapshot receivedAt) (sends : Bool) :
    bridge.act config (.getVisAge sends) = bridge.sendTick config now intent snapshot sends := by
  unfold act
  dsimp only
  rw [stage]

/-- A tick that sends with one outcome of `sendall` is one that fails with the other. -/
theorem LoopInv.tick_backoff (numeric : config.Numeric) (inv : LoopInv config start past bridge) {now : Double}
    {intent : Option Intent} {snapshot : Option VisMessage} {receivedAt : Option Double}
    (stage : bridge.stage = .readVis now intent snapshot receivedAt) (sends : Bool) :
    (bridge.sendTick config now intent snapshot sends).1.connectBackoff =
      if !sends && (bridge.sendTick config now intent snapshot true).2.isSome then
        pyMin (bridge.connectBackoff * 2) config.connectBackoffMax
      else bridge.connectBackoff := by
  cases inv.tickEnds numeric stage with
  | tooLong shared ticked connected ends =>
    rw [ends, ends]
    cases sends <;> rfl
  | closed closed shared ticked connected ends =>
    rw [ends, ends]
    cases sends <;> rfl
  | framed payload number shared lost ticked failed connected disconnected succeeds fails =>
    rw [succeeds]
    cases sends with
    | true =>
      rw [succeeds]
      rfl
    | false =>
      rw [fails]
      rfl

theorem attemptConnect_backoff (now : Double) (connects : Bool) :
    (bridge.loopStep config ingest (.attemptConnect now connects)).connectBackoff =
      match bridge.outcome config (.attemptConnect now connects) with
      | .connected => config.connectBackoffInitial
      | .failed => pyMin (bridge.connectBackoff * 2) config.connectBackoffMax
      | .neither => bridge.connectBackoff := by
  unfold loopStep outcome step act
  dsimp only
  cases stage : bridge.stage with
  | idle =>
    cases bridge.socketOpen with
    | true => rfl
    | false =>
      unfold CmdBridge.attemptConnect
      dsimp only
      by_cases early : now < bridge.nextConnectAttempt
      · rw [if_pos early, if_pos early]
      · rw [if_neg early, if_neg early]
        cases connects <;> rfl
  | _ => rfl

/-- Where a tick sends, a failure doubles the backoff. -/
theorem getVisAge_backoff (numeric : config.Numeric) (inv : LoopInv config start past bridge) (sends : Bool) :
    (bridge.loopStep config ingest (.getVisAge sends)).connectBackoff =
      match bridge.outcome config (.getVisAge sends) with
      | .connected => config.connectBackoffInitial
      | .failed => pyMin (bridge.connectBackoff * 2) config.connectBackoffMax
      | .neither => bridge.connectBackoff := by
  unfold loopStep step
  dsimp only
  cases stage : bridge.stage with
  | readVis now intent snapshot receivedAt =>
    have acts := act_getVisAge config stage
    rw [acts, inv.tick_backoff numeric stage]
    cases sends with
    | true => rfl
    | false =>
      unfold outcome sent
      dsimp only
      rw [acts]
      cases (bridge.sendTick config now intent snapshot true).2 <;> rfl
  | _ =>
    have acts (sends : Bool) : bridge.act config (.getVisAge sends) = (bridge, none) := by
      unfold act
      dsimp only
      rw [stage]
    rw [acts]
    cases sends with
    | true => rfl
    | false =>
      unfold outcome sent
      dsimp only
      rw [acts]
      rfl

theorem backoff_after (numeric : config.Numeric) (inv : LoopInv config start past bridge) (event : LoopEvent) :
    (bridge.loopStep config ingest event).connectBackoff =
      match bridge.outcome config event with
      | .connected => config.connectBackoffInitial
      | .failed => pyMin (bridge.connectBackoff * 2) config.connectBackoffMax
      | .neither => bridge.connectBackoff := by
  cases event with
  | telDatagram data rxMonotonic => rfl
  | visDatagram data rxMonotonic => rfl
  | attemptConnect now connects => exact attemptConnect_backoff now connects
  | getVisAge sends => exact getVisAge_backoff numeric inv sends
  | postIntent request updateMonotonic =>
    unfold loopStep
    dsimp only
    split <;> rfl
  | getLatestIntent now =>
    unfold loopStep step act
    dsimp only
    split <;> rfl
  | getLatestVis =>
    unfold loopStep step act
    dsimp only
    split <;> rfl

theorem LoopInv.number (numeric : config.Numeric) (inv : LoopInv config start past bridge) {event : LoopEvent}
    {payload : CmdPayload} (out : payload ∈ bridge.loopSent config event) :
    bridge.tickSeq event = some payload.seq := by
  cases event with
  | getVisAge sends =>
    obtain ⟨now, intent, snapshot, receivedAt, stage, -⟩ := sent_cases out
    unfold loopSent sent at out
    unfold tickSeq
    dsimp only at out ⊢
    rw [act_getVisAge config stage] at out
    rw [stage]
    cases inv.tickEnds numeric stage with
    | tooLong shared ticked connected ends =>
      rw [ends] at out
      cases out
    | closed closed shared ticked connected ends =>
      rw [ends] at out
      cases out
    | framed payload number shared lost ticked failed connected disconnected succeeds fails =>
      cases sends with
      | true =>
        rw [succeeds] at out
        cases out
        exact congrArg some number.symm
      | false =>
        rw [fails] at out
        cases out
  | _ => cases out

/-- Along every run of a bridge with numeric settings the loop invariant holds. -/
theorem loop_regular (numeric : config.Numeric) (cmdNextSeq : ℤ) (inRange : 0 ≤ cmdNextSeq ∧ cmdNextSeq ≤ cmdSeqMax)
    (events : List LoopEvent) :
    Always (loopStep config ingest) (Regular config ingest) [] (init config cmdNextSeq) events := by
  apply Always.of_forall (LoopInv config cmdNextSeq)
  · intro past bridge event inv
    have after : LoopInv config cmdNextSeq (past ++ [(bridge, event)]) (bridge.loopStep config ingest event) :=
      inv.step numeric event
    refine ⟨after.running, after.counted, after.connected, ?_, backoff_after numeric inv event, after.bounds.least,
      after.bounds.most, ?_, fun seq ticks => inv.fresh ticks⟩
    · intro now connects attempts early
      subst attempts
      unfold loopStep step act
      dsimp only
      split
      · unfold CmdBridge.attemptConnect
        rw [if_pos early]
      · rfl
    · intro payload out
      exact inv.number numeric out
  · intro past bridge event inv
    exact inv.step numeric event
  · refine ⟨by simp [init], rfl, rfl, numeric.initial_bounds, ?_, trivial, ?_, ?_⟩
    · intro intent none
      cases none
    · change cmdNextSeq = (cmdNextSeq + 0) % cmdSeqMod
      unfold cmdSeqMax at inRange
      unfold cmdSeqMod cmdSeqMax
      omega
    · intro k seq found
      exact absurd found (Option.some_ne_none seq).symm

end CmdBridge

section hardware
attribute [local instance] Binary64.binary64 plainRepr

theorem unset_numeric : BridgeConfig.unset.Numeric where
  limit := by decide
  positive := by decide
  ordered := by decide
  initial := isDouble_one
  max := by
    have five : Fpu.round 5 = fin 5 := by decide +kernel
    exact five

/-- A connection is refused and then made, and a frame is lost on it. -/
theorem connection_lost_regular :
    Always (CmdBridge.loopStep .unset {}) (CmdBridge.Regular .unset {}) [] (CmdBridge.init .unset 0)
      [.attemptConnect 0 false, .attemptConnect 1 true, .getLatestIntent 2, .getLatestVis, .getVisAge false] :=
  CmdBridge.loop_regular unset_numeric 0 (by decide) _

end hardware
end AotDrone.Backend
