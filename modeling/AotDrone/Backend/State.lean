import AotDrone.Backend.CmdSchema

/-! `SharedState` as the ingestors and the command bridge see it (`state.py`). Every method holds the
lock for the whole of its update. -/

namespace AotDrone.Backend
open AotDrone.Lib AotDrone.Lib.Double AotDrone.Json

/-- The keys of `_TEL_DROP_REASON_ATTRS`. -/
def telDropReasons : List DropReason := [.oversize, .json, .schema, .range]

/-- The keys of `_VIS_DROP_REASON_ATTRS`. -/
def visDropReasons : List DropReason := [.oversize, .json, .schema, .range, .semantics]

/-- What is kept of one datagram stream: the latest message, its counters, and one drop counter for
each reason. -/
structure Stream (msg : Type) where
  latest : Option msg := none
  seq : ℤ := -1
  rxTotal : Nat := 0
  rxOk : Nat := 0
  rxBad : Nat := 0
  dropReason : DropReason → Nat := fun _ => 0
  lastSeq : ℤ := -1
  lastTimestamp : Option Double := none
  lastRxMonotonic : Option Double := none

/-- What a method of `SharedState` raises. -/
inductive StateError where
  | unsupportedReason (reason : DropReason)

namespace Stream
variable {msg : Type}

def recordRxTotal (stream : Stream msg) : Stream msg := { stream with rxTotal := stream.rxTotal + 1 }

def recordOk (stream : Stream msg) (message : msg) (seq : ℤ) (timestamp rxMonotonic : Double) : Stream msg :=
  { stream with
    latest := some message
    seq := seq
    rxOk := stream.rxOk + 1
    lastSeq := seq
    lastTimestamp := some timestamp
    lastRxMonotonic := some rxMonotonic }

def recordDrop (supported : List DropReason) (stream : Stream msg) (reason : DropReason) :
    Except StateError (Stream msg) :=
  if reason ∈ supported then
    .ok
      { stream with
        rxBad := stream.rxBad + 1
        dropReason := fun r => if r = reason then stream.dropReason r + 1 else stream.dropReason r }
  else .error (.unsupportedReason reason)

end Stream

structure SharedState where
  tel : Stream TelMessage := {}
  vis : Stream VisMessage := {}
  latestIntent : Option Intent := none
  intentLastUpdate : Option Double := none
  fcConnected : Bool := false
  fcLastConnectAttempt : Option Double := none
  cmdTxTotal : Nat := 0
  cmdTxOk : Nat := 0
  cmdTxFail : Nat := 0
  cmdLastSent : Option Double := none
  cmdHzEst : Double := 0
  trackingBlockedReason : Option BlockedReason := none
  /-- Seeded from the clock. -/
  cmdNextSeq : ℤ
  lastCmdSeq : Option ℤ := none
  lastCmdDesiredMode : Option ℤ := none
  lastCmdHadTracking : Bool := false
  lastCmdBytes : Option Nat := none

def cmdSeqMax : ℤ := 2147483647

def cmdSeqMod : ℤ := cmdSeqMax + 1

def cmdSeqHalf : ℤ := cmdSeqMod / 2

/-- `_seq_advances` of `state.py`. -/
def seqAdvances (prev candidate : ℤ) : Bool :=
  let diff := (candidate - prev) % cmdSeqMod
  decide (0 < diff) && decide (diff ≤ cmdSeqHalf)

/-- `max(0, min(int(minimum), CMD_SEQ_MAX))` -/
def clampedMinimum (minimum : ℤ) : ℤ := max 0 (min minimum cmdSeqMax)

/-- The number that follows. -/
def nextSeq (seq : ℤ) : ℤ := if cmdSeqMax ≤ seq then 0 else seq + 1

theorem nextSeq_emod (n : ℤ) : nextSeq (n % cmdSeqMod) = (n + 1) % cmdSeqMod := by
  unfold nextSeq cmdSeqMod cmdSeqMax
  split_ifs <;> omega

namespace SharedState

def recordVisOk (state : SharedState) (msg : VisMessage) (rxMonotonic : Double) : SharedState :=
  { state with vis := state.vis.recordOk msg msg.seq msg.timestamp rxMonotonic }

def updateIntent (state : SharedState) (intent : Intent) (updateMonotonic : Double) : SharedState :=
  { state with latestIntent := some intent, intentLastUpdate := some updateMonotonic }

def setFcConnected (state : SharedState) (connected : Bool) : SharedState :=
  { state with fcConnected := connected }

def recordFcConnectAttempt (state : SharedState) (attemptMonotonic : Double) : SharedState :=
  { state with fcLastConnectAttempt := some attemptMonotonic }

def setTrackingBlockedReason (state : SharedState) (reason : Option BlockedReason) : SharedState :=
  { state with trackingBlockedReason := reason }

def recordCmdTxAttempt (state : SharedState) : SharedState := { state with cmdTxTotal := state.cmdTxTotal + 1 }

def recordCmdTxFail (state : SharedState) : SharedState := { state with cmdTxFail := state.cmdTxFail + 1 }

/-- The next number, once a minimum that is ahead has been caught up with. -/
def caughtUp (state : SharedState) (minimum : ℤ) : ℤ :=
  if seqAdvances state.cmdNextSeq (clampedMinimum minimum) then clampedMinimum minimum else state.cmdNextSeq

/-- The number reserved, and the state with the next one. -/
def reserveCmdSeq (state : SharedState) (minimum : Option ℤ) : ℤ × SharedState :=
  let seq := minimum.elim state.cmdNextSeq state.caughtUp
  (seq, { state with cmdNextSeq := nextSeq seq })

def ensureCmdSeqMinimum (state : SharedState) (minimum : ℤ) : SharedState :=
  { state with cmdNextSeq := state.caughtUp minimum }

def recordLastCmdPayload (state : SharedState) (payload : CmdPayload) (payloadBytes : Nat) : SharedState :=
  { state with
    lastCmdSeq := some payload.seq
    lastCmdDesiredMode := some payload.desiredMode
    lastCmdHadTracking := payload.tracking.isSome
    lastCmdBytes := some payloadBytes }

variable [Fpu]

/-- The whole milliseconds of a reading of `time.monotonic()`. -/
def monotonicMillis (monotonic : Double) : ℤ := truncate (monotonic * 1000)

/-- A new process and `reset` leave nothing but a number seeded from the clock. -/
def reset (_ : SharedState) (monotonic : Double) : SharedState :=
  { cmdNextSeq := monotonicMillis monotonic % cmdSeqMod }

/-- `max(0.0, now - then)` -/
def ageSince (now : Double) (lastRx : Double) : Double := pyMax 0 (now - lastRx)

def getVisAge (state : SharedState) (now : Double) : Option Double :=
  state.vis.lastRxMonotonic.map (ageSince now)

def recordCmdTxOk (state : SharedState) (sentMonotonic : Double) : SharedState :=
  let hzEst :=
    match state.cmdLastSent with
    | none => state.cmdHzEst
    | some prevSent =>
      let delta := sentMonotonic - prevSent
      if 0 < delta then
        let instHz := 1 / delta
        if state.cmdHzEst ≤ 0 then instHz else 0.8 * state.cmdHzEst + 0.2 * instHz
      else state.cmdHzEst
  { state with cmdTxOk := state.cmdTxOk + 1, cmdLastSent := some sentMonotonic, cmdHzEst := hzEst }

/-! The bridge's own updates leave the VIS stream and the intent alone. -/

variable (state : SharedState)

omit [Fpu] in
@[simp] theorem setFcConnected_vis (connected : Bool) : (state.setFcConnected connected).vis = state.vis := rfl

omit [Fpu] in
@[simp] theorem recordFcConnectAttempt_vis (attemptMonotonic : Double) :
    (state.recordFcConnectAttempt attemptMonotonic).vis = state.vis := rfl

omit [Fpu] in
@[simp] theorem setTrackingBlockedReason_vis (reason : Option BlockedReason) :
    (state.setTrackingBlockedReason reason).vis = state.vis := rfl

omit [Fpu] in
@[simp] theorem recordCmdTxAttempt_vis : state.recordCmdTxAttempt.vis = state.vis := rfl

omit [Fpu] in
@[simp] theorem recordCmdTxFail_vis : state.recordCmdTxFail.vis = state.vis := rfl

omit [Fpu] in
@[simp] theorem reserveCmdSeq_vis (minimum : Option ℤ) : (state.reserveCmdSeq minimum).2.vis = state.vis := rfl

omit [Fpu] in
@[simp] theorem recordLastCmdPayload_vis (payload : CmdPayload) (payloadBytes : Nat) :
    (state.recordLastCmdPayload payload payloadBytes).vis = state.vis := rfl

@[simp] theorem recordCmdTxOk_vis (sentMonotonic : Double) : (state.recordCmdTxOk sentMonotonic).vis = state.vis := rfl

omit [Fpu] in
@[simp] theorem setFcConnected_latestIntent (connected : Bool) :
    (state.setFcConnected connected).latestIntent = state.latestIntent := rfl

omit [Fpu] in
@[simp] theorem setTrackingBlockedReason_latestIntent (reason : Option BlockedReason) :
    (state.setTrackingBlockedReason reason).latestIntent = state.latestIntent := rfl

omit [Fpu] in
@[simp] theorem recordCmdTxAttempt_latestIntent : state.recordCmdTxAttempt.latestIntent = state.latestIntent := rfl

omit [Fpu] in
@[simp] theorem recordCmdTxFail_latestIntent : state.recordCmdTxFail.latestIntent = state.latestIntent := rfl

omit [Fpu] in
@[simp] theorem reserveCmdSeq_latestIntent (minimum : Option ℤ) :
    (state.reserveCmdSeq minimum).2.latestIntent = state.latestIntent := rfl

omit [Fpu] in
@[simp] theorem recordLastCmdPayload_latestIntent (payload : CmdPayload) (payloadBytes : Nat) :
    (state.recordLastCmdPayload payload payloadBytes).latestIntent = state.latestIntent := rfl

@[simp] theorem recordCmdTxOk_latestIntent (sentMonotonic : Double) :
    (state.recordCmdTxOk sentMonotonic).latestIntent = state.latestIntent := rfl

end SharedState
end AotDrone.Backend
