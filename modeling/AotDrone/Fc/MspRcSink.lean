import AotDrone.Fc.FlightController
import AotDrone.Fc.MspFraming
import Mathlib.Tactic.Positivity

/-! Channels to Betaflight over MSP (`MspRcSink.h`, `MspRcSink.cpp`), on a sink made around an open fd. -/

namespace AotDrone.Fc.Msp
open AotDrone.Lib AotDrone.Lib.Double

def kTxRatioAlpha [Fpu] : Double := 0.05
def kMspRcAux1Offset : Nat := 8
def kArmSwitchThresholdUs : Nat := 1700
def kArmSwitchStaleMs : Int := 1000
def kMspRcPollEvery : Nat := 10
def kMaxNoProgress : Nat := 2
def kMaxTotal : Nat := 32

inductive Errno where
  | again
  | wouldBlock
  | interrupted
  | other (code : Nat)
  deriving DecidableEq

def Errno.transient : Errno → Bool
  | again | wouldBlock | interrupted => true
  | other _ => false

/-- What a call of `write` reports. No more is written than was asked for. -/
inductive WriteResult where
  | wrote (count : Nat)
  | error (errno : Errno)

/-- The far side of the fd: the bytes it has accepted and the calls of `write` made. -/
structure Port where
  accepted : Bytes := []
  writes : Nat := 0
  deriving DecidableEq

def Port.take (port : Port) (bytes : Bytes) : Port := { accepted := port.accepted ++ bytes, writes := port.writes + 1 }

/-- The loop of `write_frame_`, with the attempts it has left. It succeeds when every byte is written. -/
def writeLoop (outcome : Nat → WriteResult) (buf : Bytes) :
    (attemptsLeft off noProgress : Nat) → (port : Port) → Bool × Port
  | 0, off, _, port => (decide (buf.length ≤ off), port)
  | attemptsLeft + 1, off, noProgress, port =>
    if buf.length ≤ off then (true, port)
    else
      match outcome port.writes with
      | .wrote count =>
        let w := min count (buf.length - off)
        if 0 < w then writeLoop outcome buf attemptsLeft (off + w) 0 (port.take ((buf.drop off).take w))
        else (false, port.take [])
      | .error errno =>
        if errno.transient then
          if kMaxNoProgress ≤ noProgress + 1 then (false, port.take [])
          else writeLoop outcome buf attemptsLeft off (noProgress + 1) (port.take [])
        else (false, port.take [])

/-- `fdOpen` is `fd_ >= 0`. Times of the steady clock are in nanoseconds. -/
structure MspRcSink where
  port : Port := {}
  fdOpen : Bool := true
  bootProbeFailed : Bool := false
  txRatio : Double := 1
  armSwitch : Bool := false
  tickCounter : Nat := 0
  writesAttempted : Nat := 0
  writesSucceeded : Nat := 0
  parseErrors : Nat := 0
  lastMspRcReplyTime : Option Int := none
  rxBuffer : Bytes := []
  deriving DecidableEq

/-- What a call of `writeChannels` finds: the results of `read` one after another and those of
`steady_clock::now()`. -/
structure ChannelWrite where
  cmd : BetaFlightCommand
  reads : List Bytes := []
  clock : Nat → Int := fun _ => 0

/-- `read` fills 256 bytes at most; the loop ends with the first result that does not fill them. -/
def drainInto : List Bytes → Bytes → Bytes
  | [], acc => acc
  | piece :: later, acc =>
    if 256 ≤ piece.length then drainInto later (acc ++ piece.take 256) else acc ++ piece

/-- What the callback of `poll_msp_rc_` captures, and how often it has read the clock. -/
structure ArmLatch where
  armSwitch : Bool
  lastMspRcReplyTime : Option Int
  looks : Nat := 0

def ArmLatch.onFrame (clock : Nat → Int) (latch : ArmLatch) (f : ParsedFrame) : ArmLatch × Bool :=
  if f.cmd = mspRc ∧ kMspRcAux1Offset + 2 ≤ f.payload.length then
    let aux1 := (f.payload.getD kMspRcAux1Offset 0).toNat + 0x100 * (f.payload.getD (kMspRcAux1Offset + 1) 0).toNat
    ({ armSwitch := decide (kArmSwitchThresholdUs ≤ aux1)
       lastMspRcReplyTime := some (clock latch.looks)
       looks := latch.looks + 1 }, false)
  else (latch, false)

/-- A switch that is on is forced off when its last reply is too old. -/
def ArmLatch.expire (clock : Nat → Int) (latch : ArmLatch) : ArmLatch :=
  match latch.lastMspRcReplyTime with
  | none => latch
  | some replied =>
    if latch.armSwitch && decide (kArmSwitchStaleMs < (clock latch.looks - replied).tdiv 1000000) then
      { latch with armSwitch := false }
    else latch

def rcFrame (cmd : BetaFlightCommand) : Bytes :=
  encodeSetRawRc [cmd.roll, cmd.pitch, cmd.throttle, cmd.yaw, cmd.aux1, cmd.aux2, cmd.aux3, cmd.aux4]

def rcQuery : Bytes := encodeRequest mspRc []

namespace MspRcSink

def ok (sink : MspRcSink) : Bool := sink.fdOpen && !sink.bootProbeFailed

/-- Any failure closes the fd. -/
def writeFrame (outcome : Nat → WriteResult) (buf : Bytes) (sink : MspRcSink) : Bool × MspRcSink :=
  if sink.fdOpen then
    let (success, port) := writeLoop outcome buf kMaxTotal 0 0 sink.port
    (success, { sink with port, fdOpen := success })
  else (false, sink)

def pollMspRc (outcome : Nat → WriteResult) (call : ChannelWrite) (sink : MspRcSink) : MspRcSink :=
  if sink.fdOpen then
    let latch : ArmLatch := { armSwitch := sink.armSwitch, lastMspRcReplyTime := sink.lastMspRcReplyTime }
    let (rxBuffer, parseErrors, latch) :=
      parseDrain (ArmLatch.onFrame call.clock) (drainInto call.reads sink.rxBuffer) sink.parseErrors latch
    let latch := latch.expire call.clock
    (writeFrame outcome rcQuery
      { sink with
        rxBuffer, parseErrors, armSwitch := latch.armSwitch, lastMspRcReplyTime := latch.lastMspRcReplyTime }).2
  else sink

variable [Fpu]

/-- The counters behind a SET_RAW_RC frame. -/
def count (success : Bool) (sink : MspRcSink) : MspRcSink :=
  { sink with
    writesAttempted := sink.writesAttempted + 1
    writesSucceeded := if success then sink.writesSucceeded + 1 else sink.writesSucceeded
    txRatio := (1 - kTxRatioAlpha) * sink.txRatio + kTxRatioAlpha * (if success then 1 else 0) }

def writeChannels (outcome : Nat → WriteResult) (sink : MspRcSink) (call : ChannelWrite) : MspRcSink :=
  if sink.fdOpen then
    let (success, sent) := sink.writeFrame outcome (rcFrame call.cmd)
    let counted := sent.count success
    let polled := if counted.tickCounter % kMspRcPollEvery = 0 then counted.pollMspRc outcome call else counted
    { polled with tickCounter := polled.tickCounter + 1 }
  else sink

end MspRcSink

/-! ## One frame -/

section frame
variable (outcome : Nat → WriteResult) (buf : Bytes)

/-- A result with few enough calls: the buffer is accepted up to somewhere, and to its end on success. -/
def Accepts (before : Bytes) (port : Port) (attempts : Nat) (result : Bool × Port) : Prop :=
  result.2.writes ≤ port.writes + attempts ∧
    ∃ stop ≤ buf.length, result.2.accepted = before ++ buf.take stop ∧ (result.1 = true ↔ stop = buf.length)

theorem writeLoop_accepts {before : Bytes} (attemptsLeft off noProgress : Nat) (port : Port) (within : off ≤ buf.length)
    (sent : port.accepted = before ++ buf.take off) :
    Accepts buf before port attemptsLeft (writeLoop outcome buf attemptsLeft off noProgress port) := by
  induction attemptsLeft generalizing off noProgress port with
  | zero =>
    refine ⟨Nat.le_refl _, off, within, sent, ?_⟩
    rw [writeLoop, decide_eq_true_iff]
    omega
  | succ attemptsLeft ih =>
    have later (w tries : Nat) (room : w ≤ buf.length - off) : Accepts buf before port (attemptsLeft + 1)
        (writeLoop outcome buf attemptsLeft (off + w) tries (port.take ((buf.drop off).take w))) := by
      have accepted : (port.take ((buf.drop off).take w)).accepted = before ++ buf.take (off + w) := by
        rw [Port.take, sent, List.take_add, List.append_assoc]
      obtain ⟨few, stop⟩ := ih (off + w) tries _ (by omega) accepted
      have attempts : port.writes + 1 + attemptsLeft ≤ port.writes + (attemptsLeft + 1) := by omega
      exact ⟨few.trans attempts, stop⟩
    rw [writeLoop]
    by_cases complete : buf.length ≤ off
    · rw [if_pos complete]
      exact ⟨Nat.le_add_right _ _, off, within, sent, by simp; omega⟩
    · have stopped : Accepts buf before port (attemptsLeft + 1) (false, port.take []) := by
        refine ⟨by simp [Port.take], off, within, by rw [Port.take, List.append_nil, sent], ?_⟩
        simp only [Bool.false_eq_true, false_iff]
        omega
      rw [if_neg complete]
      cases outcome port.writes with
      | wrote count =>
        dsimp only
        split
        · exact later _ 0 (Nat.min_le_right _ _)
        · exact stopped
      | error errno =>
        dsimp only
        split
        · split
          · exact stopped
          · exact later 0 (noProgress + 1) (Nat.zero_le _)
        · exact stopped

end frame

/-! ## The line -/

/-- The bytes accepted are the frames so far; on a closed fd, those up to one that is cut short. -/
def Sent (frames : List Bytes) (sink : MspRcSink) : Prop :=
  if sink.fdOpen then sink.port.accepted = frames.flatten
  else ∃ whole next later part, frames = whole ++ next :: later ∧ part <+: next ∧ part ≠ next ∧
    sink.port.accepted = whole.flatten ++ part

section sent
variable {sink : MspRcSink} {frames : List Bytes}

/-- A closed fd takes none of the frames still to come. -/
theorem Sent.closed (sent : Sent frames sink) (closed : sink.fdOpen = false) (more : List Bytes) :
    Sent (frames ++ more) sink := by
  unfold Sent at sent ⊢
  rw [closed] at sent ⊢
  obtain ⟨whole, next, later, part, rfl, cut⟩ := sent
  exact ⟨whole, next, later ++ more, part, by simp, cut⟩

theorem Sent.writeFrame (sent : Sent frames sink) (outcome : Nat → WriteResult) (buf : Bytes) :
    Sent (frames ++ [buf]) (sink.writeFrame outcome buf).2 := by
  unfold MspRcSink.writeFrame
  cases opened : sink.fdOpen with
  | false => exact sent.closed opened [buf]
  | true =>
    have accepted : sink.port.accepted = frames.flatten ++ buf.take 0 := by
      rw [Sent, opened] at sent
      rw [List.take_zero, List.append_nil]
      exact sent
    obtain ⟨-, stop, within, after, success⟩ :=
      writeLoop_accepts outcome buf kMaxTotal 0 0 sink.port (Nat.zero_le _) accepted
    cases written : (writeLoop outcome buf kMaxTotal 0 0 sink.port).1 with
    | true =>
      rw [success.1 written, List.take_length] at after
      simp only [Sent, ↓reduceIte, written, after, List.flatten_append, List.flatten_cons, List.flatten_nil,
        List.append_nil]
    | false =>
      have partly : stop ≠ buf.length := by
        intro whole
        rw [success.2 whole] at written
        cases written
      have cut : buf.take stop ≠ buf := by
        intro whole
        have := congrArg List.length whole
        rw [List.length_take] at this
        omega
      simp only [Sent, ↓reduceIte, written, Bool.false_eq_true]
      exact ⟨frames, buf, [], buf.take stop, rfl, List.take_prefix _ _, cut, after⟩

theorem Sent.pollMspRc (sent : Sent frames sink) (outcome : Nat → WriteResult) (call : ChannelWrite) :
    Sent (frames ++ [rcQuery]) (sink.pollMspRc outcome call) := by
  unfold MspRcSink.pollMspRc
  split
  · apply Sent.writeFrame
    exact sent
  next closed => exact sent.closed (Bool.not_eq_true _ ▸ closed) [rcQuery]

end sent

theorem writeFrame_keeps (outcome : Nat → WriteResult) (buf : Bytes) (sink : MspRcSink) :
    ∃ port fdOpen, (sink.writeFrame outcome buf).2 = { sink with port, fdOpen } := by
  unfold MspRcSink.writeFrame
  split
  · exact ⟨_, _, rfl⟩
  · exact ⟨_, _, rfl⟩

theorem pollMspRc_keeps (outcome : Nat → WriteResult) (call : ChannelWrite) (sink : MspRcSink) :
    ∃ port fdOpen armSwitch parseErrors lastMspRcReplyTime rxBuffer, sink.pollMspRc outcome call =
      { sink with port, fdOpen, armSwitch, parseErrors, lastMspRcReplyTime, rxBuffer } := by
  unfold MspRcSink.pollMspRc
  split
  · obtain ⟨port, fdOpen, kept⟩ := writeFrame_keeps outcome rcQuery _
    exact ⟨port, fdOpen, _, _, _, _, kept⟩
  · exact ⟨_, _, _, _, _, _, rfl⟩

/-- The frames of the calls from the given tick on. -/
def framesFrom (tick : Nat) : List ChannelWrite → List Bytes
  | [] => []
  | call :: later =>
    rcFrame call.cmd :: ((if tick % kMspRcPollEvery = 0 then [rcQuery] else []) ++ framesFrom (tick + 1) later)

section run
variable [Fpu] (outcome : Nat → WriteResult)

/-- One call: its frame, on every tenth tick a query, and the counters. -/
theorem writeChannels_step {sink : MspRcSink} {frames : List Bytes} (sent : Sent frames sink) (opened : sink.fdOpen = true)
    (call : ChannelWrite) :
    Sent (frames ++ rcFrame call.cmd :: if sink.tickCounter % kMspRcPollEvery = 0 then [rcQuery] else [])
        (sink.writeChannels outcome call) ∧
      (sink.writeChannels outcome call).tickCounter = sink.tickCounter + 1 ∧
      ∃ success, (sink.writeChannels outcome call).writesAttempted = sink.writesAttempted + 1 ∧
        (sink.writeChannels outcome call).writesSucceeded = sink.writesSucceeded + (if success then 1 else 0) ∧
        (sink.writeChannels outcome call).txRatio = (sink.count success).txRatio := by
  have first := sent.writeFrame outcome (rcFrame call.cmd)
  obtain ⟨port, fdOpen, kept⟩ := writeFrame_keeps outcome (rcFrame call.cmd) sink
  unfold MspRcSink.writeChannels
  rw [if_pos opened]
  generalize sink.writeFrame outcome (rcFrame call.cmd) = written at first kept
  obtain ⟨success, after⟩ := written
  dsimp only at first kept ⊢
  subst kept
  have succeeded : (if success then sink.writesSucceeded + 1 else sink.writesSucceeded) =
      sink.writesSucceeded + (if success then 1 else 0) := by
    split <;> rfl
  have counts : Sent (frames ++ [rcFrame call.cmd]) (MspRcSink.count success { sink with port, fdOpen }) := first
  have tick : (MspRcSink.count success { sink with port, fdOpen }).tickCounter = sink.tickCounter := rfl
  rw [tick]
  by_cases due : sink.tickCounter % kMspRcPollEvery = 0
  · have polled := counts.pollMspRc outcome call
    obtain ⟨_, _, _, _, _, _, kept⟩ := pollMspRc_keeps outcome call (MspRcSink.count success { sink with port, fdOpen })
    rw [List.append_assoc] at polled
    rw [if_pos due, if_pos due]
    rw [kept] at polled ⊢
    exact ⟨polled, rfl, success, rfl, succeeded, rfl⟩
  · rw [if_neg due, if_neg due]
    exact ⟨counts, rfl, success, rfl, succeeded, rfl⟩

theorem writeChannels_closed {sink : MspRcSink} (closed : sink.fdOpen = false) (calls : List ChannelWrite) :
    calls.foldl (MspRcSink.writeChannels outcome) sink = sink := by
  induction calls with
  | nil => rfl
  | cons call later ih =>
    have silent : sink.writeChannels outcome call = sink := if_neg (by rw [closed]; exact Bool.false_ne_true)
    rw [List.foldl_cons, silent, ih]

/-- The invariant of a run: `frames` are those of the calls so far. -/
structure RunInv (frames : List Bytes) (tick : Nat) (sink : MspRcSink) : Prop where
  sent : Sent frames sink
  ticks : sink.fdOpen = true → sink.tickCounter = tick
  counted : sink.writesSucceeded ≤ sink.writesAttempted

theorem run_inv {sink : MspRcSink} {frames : List Bytes} {tick : Nat} (inv : RunInv frames tick sink)
    (calls : List ChannelWrite) :
    RunInv (frames ++ framesFrom tick calls) (tick + calls.length) (calls.foldl (MspRcSink.writeChannels outcome) sink) := by
  induction calls generalizing sink frames tick with
  | nil =>
    rw [framesFrom, List.append_nil]
    exact inv
  | cons call later ih =>
    cases opened : sink.fdOpen with
    | false =>
      rw [writeChannels_closed outcome opened]
      refine ⟨inv.sent.closed opened _, ?_, inv.counted⟩
      rw [opened]
      nofun
    | true =>
      obtain ⟨sent, ticks, success, attempted, succeeded, -⟩ := writeChannels_step outcome inv.sent opened call
      rw [inv.ticks opened] at sent ticks
      have stepped : RunInv (frames ++ rcFrame call.cmd :: if tick % kMspRcPollEvery = 0 then [rcQuery] else []) (tick + 1)
          (sink.writeChannels outcome call) := by
        refine ⟨sent, fun _ => ticks, ?_⟩
        have counted := inv.counted
        rw [attempted, succeeded]
        split <;> omega
      have behind := ih stepped
      rw [List.append_assoc, List.cons_append] at behind
      rw [List.foldl_cons, framesFrom, List.length_cons, Nat.add_comm later.length, ← Nat.add_assoc]
      exact behind

end run

section rational
attribute [local instance] exact

theorem alpha_eq : kTxRatioAlpha = fin (1 / 20) := by
  unfold kTxRatioAlpha
  rw [ofScientific_eq]
  exact congrArg fin (by norm_num)

def RatioInv (sink : MspRcSink) : Prop := ∃ ratio : ℚ, sink.txRatio = fin ratio ∧ 0 ≤ ratio ∧ ratio ≤ 1

/-- The ratio is a mean of itself and the outcome. -/
theorem count_ratio {sink : MspRcSink} (bounded : RatioInv sink) (success : Bool) : RatioInv (sink.count success) := by
  obtain ⟨ratio, known, nonneg, atMost⟩ := bounded
  cases success with
  | false =>
    refine ⟨(1 + -(1 / 20)) * ratio + 1 / 20 * 0, ?_, by linarith, by linarith⟩
    rw [MspRcSink.count, known, alpha_eq]
    rfl
  | true =>
    refine ⟨(1 + -(1 / 20)) * ratio + 1 / 20 * 1, ?_, by linarith, by linarith⟩
    rw [MspRcSink.count, known, alpha_eq]
    rfl

theorem run_ratio (outcome : Nat → WriteResult) {sink : MspRcSink} {frames : List Bytes} (sent : Sent frames sink)
    (bounded : RatioInv sink) (calls : List ChannelWrite) :
    RatioInv (calls.foldl (MspRcSink.writeChannels outcome) sink) := by
  induction calls generalizing sink frames with
  | nil => exact bounded
  | cons call later ih =>
    cases opened : sink.fdOpen with
    | false =>
      rw [writeChannels_closed outcome opened]
      exact bounded
    | true =>
      obtain ⟨stepped, -, success, -, -, mean⟩ := writeChannels_step outcome sent opened call
      apply ih stepped
      rw [RatioInv, mean]
      exact count_ratio bounded success

end rational

/-- Along every run from an open fd the frames go out whole and in order, up to one that is cut short; a closed
fd is never written to again; and the counters stay in their bounds. -/
theorem frames_on_wire (outcome : Nat → WriteResult) (calls : List ChannelWrite) :
    (∀ [Fpu], Sent (framesFrom 0 calls) (calls.foldl (MspRcSink.writeChannels outcome) {}) ∧
      (calls.foldl (MspRcSink.writeChannels outcome) {}).writesSucceeded ≤
        (calls.foldl (MspRcSink.writeChannels outcome) {}).writesAttempted) ∧
    (∀ (buf : Bytes) (sink : MspRcSink),
      (sink.writeFrame outcome buf).2.port.writes ≤ sink.port.writes + kMaxTotal ∧
        ((sink.writeFrame outcome buf).1 = false → (sink.writeFrame outcome buf).2.fdOpen = false)) ∧
    (∀ sink : MspRcSink, sink.fdOpen = false →
      sink.ok = false ∧ (∀ call, sink.pollMspRc outcome call = sink) ∧
        ∀ [Fpu] (later : List ChannelWrite), later.foldl (MspRcSink.writeChannels outcome) sink = sink) ∧
    ∃ ratio : ℚ, (calls.foldl (@MspRcSink.writeChannels exact outcome) {}).txRatio = fin ratio ∧ 0 ≤ ratio ∧ ratio ≤ 1 := by
  have start : Sent [] {} := rfl
  refine ⟨?_, ?_, ?_, ?_⟩
  · intro _
    have inv := run_inv outcome ⟨start, fun _ => rfl, Nat.le_refl _⟩ calls
    rw [List.nil_append] at inv
    exact ⟨inv.sent, inv.counted⟩
  · intro buf sink
    unfold MspRcSink.writeFrame
    split
    · have accepted : sink.port.accepted = sink.port.accepted ++ buf.take 0 := by
        rw [List.take_zero, List.append_nil]
      obtain ⟨few, -⟩ := writeLoop_accepts outcome buf kMaxTotal 0 0 sink.port (Nat.zero_le _) accepted
      exact ⟨few, id⟩
    next closed => exact ⟨Nat.le_add_right _ _, fun _ => Bool.not_eq_true _ ▸ closed⟩
  · intro sink closed
    refine ⟨?_, ?_, ?_⟩
    · rw [MspRcSink.ok, closed]
      rfl
    · intro call
      exact if_neg (by rw [closed]; exact Bool.false_ne_true)
    · intro _ later
      exact writeChannels_closed outcome closed later
  · exact @run_ratio outcome {} [] start ⟨1, rfl, zero_le_one, le_rfl⟩ calls

end AotDrone.Fc.Msp
