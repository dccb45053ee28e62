import AotDrone.Fc.MspRcSink
import AotDrone.Fc.MspStream
import AotDrone.Lib.Run
import Mathlib.Data.Int.ConditionallyCompleteOrder

/-! How old the reply behind `arm_switch()` can be, over every sequence of calls of `writeChannels`. -/

namespace AotDrone.Fc.Msp
open AotDrone.Lib AotDrone.Lib.Run

/-- A call of `writeChannels` made at `time`. -/
structure TimedWrite extends ChannelWrite where
  time : Int

/-- A reply by which the switch is on. -/
def ParsedFrame.switchOn (f : ParsedFrame) : Bool :=
  decide (f.cmd = mspRc ∧ kMspRcAux1Offset + 2 ≤ f.payload.length ∧
    kArmSwitchThresholdUs ≤
      (f.payload.getD kMspRcAux1Offset 0).toNat + 0x100 * (f.payload.getD (kMspRcAux1Offset + 1) 0).toNat)

/-- The callback beside a log of the times at which such replies are drained. -/
def ArmLatch.watch (clock : Nat → Int) (watched : ArmLatch × List Int) (f : ParsedFrame) : ArmLatch × List Int :=
  ((watched.1.onFrame clock f).1, if f.switchOn then watched.2 ++ [clock watched.1.looks] else watched.2)

namespace MspRcSink

def latch (sink : MspRcSink) : ArmLatch :=
  { armSwitch := sink.armSwitch, lastMspRcReplyTime := sink.lastMspRcReplyTime }

/-- Whether a call drains the line: it is a tenth call, on an open fd that takes its SET_RAW_RC frame. -/
def polls (outcome : Nat → WriteResult) (sink : MspRcSink) (call : ChannelWrite) : Bool :=
  sink.fdOpen && decide (sink.tickCounter % kMspRcPollEvery = 0) && (sink.writeFrame outcome (rcFrame call.cmd)).1

/-- The times at which a call drains replies with the switch on. -/
def repliesDrained (outcome : Nat → WriteResult) (sink : MspRcSink) (call : ChannelWrite) : List Int :=
  if sink.polls outcome call then
    (parseDrain (steady (ArmLatch.watch call.clock)) (drainInto call.reads sink.rxBuffer) sink.parseErrors
      (sink.latch, [])).2.2.2
  else []

end MspRcSink

/-! ## One call -/

theorem onFrame_steady (clock : Nat → Int) :
    ArmLatch.onFrame clock = steady fun latch f => (latch.onFrame clock f).1 := by
  funext latch f
  have goesOn : (latch.onFrame clock f).2 = false := by
    unfold ArmLatch.onFrame
    split <;> rfl
  exact Prod.ext rfl goesOn

theorem watch_latch (clock : Nat → Int) (frames : List ParsedFrame) (latch : ArmLatch) (log : List Int) :
    (frames.foldl (ArmLatch.watch clock) (latch, log)).1 =
      frames.foldl (fun latch f => (latch.onFrame clock f).1) latch := by
  induction frames generalizing latch log with
  | nil => rfl
  | cons f later ih => exact ih _ _

/-- A switch that is on rests on the latest of the replies. -/
def RestsOn (replies : List Int) (armSwitch : Bool) (lastMspRcReplyTime : Option Int) : Prop :=
  armSwitch = true → ∃ replied, lastMspRcReplyTime = some replied ∧ replied ∈ replies ∧ ∀ reply ∈ replies, reply ≤ replied

/-- The invariant of a drain, with the replies of earlier calls. -/
structure WatchInv (clock : Nat → Int) (earlier : List Int) (watched : ArmLatch × List Int) : Prop where
  rests : RestsOn (earlier ++ watched.2) watched.1.armSwitch watched.1.lastMspRcReplyTime
  past : ∀ reply ∈ earlier ++ watched.2, ∀ look ≥ watched.1.looks, reply ≤ clock look
  read : ∀ reply ∈ watched.2, ∃ look, reply = clock look

section watch
variable {clock : Nat → Int} {earlier : List Int}

theorem watch_step (steadily : Monotone clock) {watched : ArmLatch × List Int} (inv : WatchInv clock earlier watched)
    (f : ParsedFrame) : WatchInv clock earlier (ArmLatch.watch clock watched f) := by
  obtain ⟨latch, log⟩ := watched
  obtain ⟨rests, past, read⟩ := inv
  dsimp only at rests past read
  by_cases reply : f.cmd = mspRc ∧ kMspRcAux1Offset + 2 ≤ f.payload.length
  · by_cases high : kArmSwitchThresholdUs ≤
        (f.payload.getD kMspRcAux1Offset 0).toNat + 0x100 * (f.payload.getD (kMspRcAux1Offset + 1) 0).toNat
    · have on : f.switchOn = true := decide_eq_true ⟨reply.1, reply.2, high⟩
      simp only [ArmLatch.watch, ArmLatch.onFrame, if_pos reply, on, ↓reduceIte]
      refine ⟨fun _ => ⟨clock latch.looks, rfl, by simp, ?_⟩, ?_, ?_⟩
      · intro other member
        rw [← List.append_assoc, List.mem_append, List.mem_singleton] at member
        cases member with
        | inl before => exact past other before _ le_rfl
        | inr now => exact now.le
      · intro other member look later
        rw [← List.append_assoc, List.mem_append, List.mem_singleton] at member
        dsimp only at later
        cases member with
        | inl before => exact past other before look (by omega)
        | inr now =>
          rw [now]
          exact steadily (by omega)
      · intro other member
        rw [List.mem_append, List.mem_singleton] at member
        cases member with
        | inl before => exact read other before
        | inr now => exact ⟨_, now⟩
    · have off : f.switchOn = false := decide_eq_false fun on => high on.2.2
      simp only [ArmLatch.watch, ArmLatch.onFrame, if_pos reply, off, Bool.false_eq_true, ↓reduceIte]
      refine ⟨fun on => absurd (of_decide_eq_true on) high, ?_, read⟩
      intro other member look later
      dsimp only at later
      exact past other member look (by omega)
  · have off : f.switchOn = false := decide_eq_false fun on => reply ⟨on.1, on.2.1⟩
    simp only [ArmLatch.watch, ArmLatch.onFrame, if_neg reply, off, Bool.false_eq_true, ↓reduceIte]
    exact ⟨rests, past, read⟩

theorem watch_inv (steadily : Monotone clock) {watched : ArmLatch × List Int} (inv : WatchInv clock earlier watched)
    (frames : List ParsedFrame) : WatchInv clock earlier (frames.foldl (ArmLatch.watch clock) watched) := by
  induction frames generalizing watched with
  | nil => exact inv
  | cons f later ih => exact ih (watch_step steadily inv f)

end watch

/-- A switch is still on behind the timer only if its last reply is less than 1001 ms old. -/
theorem expire_on {clock : Nat → Int} {latch : ArmLatch} {replied : Int} (known : latch.lastMspRcReplyTime = some replied)
    (on : (latch.expire clock).armSwitch = true) :
    latch.armSwitch = true ∧ clock latch.looks - replied < (kArmSwitchStaleMs + 1) * 1000000 := by
  unfold ArmLatch.expire at on
  rw [known] at on
  dsimp only at on
  split at on
  · cases on
  next fresh =>
    refine ⟨on, ?_⟩
    rw [on, Bool.true_and, decide_eq_true_iff, kArmSwitchStaleMs] at fresh
    rw [kArmSwitchStaleMs]
    by_contra old
    have far : 1001 * 1000000 ≤ clock latch.looks - replied := by omega
    rw [Int.tdiv_eq_ediv_of_nonneg (by omega)] at fresh
    omega

theorem expire_keeps (clock : Nat → Int) (latch : ArmLatch) :
    (latch.expire clock).lastMspRcReplyTime = latch.lastMspRcReplyTime := by
  unfold ArmLatch.expire
  split
  · rfl
  · split <;> rfl

/-- The frames on the line that a call drains. -/
def framesDrained (sink : MspRcSink) (call : ChannelWrite) : List ParsedFrame :=
  (mspCutter.cut (drainInto call.reads sink.rxBuffer)).1.filterMap Piece.parsed

/-- The latch behind them, before the timer. -/
def drainedLatch (sink : MspRcSink) (call : ChannelWrite) : ArmLatch :=
  (framesDrained sink call).foldl (fun latch f => (latch.onFrame call.clock f).1) sink.latch

theorem writeFrame_latch (outcome : Nat → WriteResult) (buf : Bytes) (sink : MspRcSink) :
    (sink.writeFrame outcome buf).2.latch = sink.latch := by
  obtain ⟨port, fdOpen, kept⟩ := writeFrame_keeps outcome buf sink
  rw [kept]
  rfl

theorem pollMspRc_latch (outcome : Nat → WriteResult) (call : ChannelWrite) {sink : MspRcSink}
    (opened : sink.fdOpen = true) :
    (sink.pollMspRc outcome call).latch =
      { armSwitch := ((drainedLatch sink call).expire call.clock).armSwitch
        lastMspRcReplyTime := (drainedLatch sink call).lastMspRcReplyTime } := by
  have kept := expire_keeps call.clock (drainedLatch sink call)
  unfold MspRcSink.pollMspRc
  rw [if_pos opened, onFrame_steady]
  simp only [parseDrain_eq, writeFrame_latch]
  rw [← kept]
  rfl

section call
variable [Double.Fpu] (outcome : Nat → WriteResult)

/-- A call that drains the line: what its frames and the timer leave of the latch. -/
theorem writeChannels_polls {sink : MspRcSink} {call : ChannelWrite} (polls : sink.polls outcome call = true) :
    let watched := (framesDrained sink call).foldl (ArmLatch.watch call.clock) (sink.latch, [])
    sink.repliesDrained outcome call = watched.2 ∧
      (sink.writeChannels outcome call).latch =
        { armSwitch := (watched.1.expire call.clock).armSwitch
          lastMspRcReplyTime := watched.1.lastMspRcReplyTime } := by
  have drained := polls
  simp only [MspRcSink.polls, Bool.and_eq_true, decide_eq_true_eq] at drained
  obtain ⟨⟨opened, due⟩, written⟩ := drained
  constructor
  · rw [MspRcSink.repliesDrained, if_pos polls, parseDrain_eq]
    rfl
  · obtain ⟨port, fdOpen, kept⟩ := writeFrame_keeps outcome (rcFrame call.cmd) sink
    have taken : (sink.writeFrame outcome (rcFrame call.cmd)).2.fdOpen = true := by
      rw [← written]
      unfold MspRcSink.writeFrame
      rw [if_pos opened]
    rw [kept] at taken
    dsimp only at taken
    subst taken
    unfold MspRcSink.writeChannels
    rw [if_pos opened]
    generalize sink.writeFrame outcome (rcFrame call.cmd) = sent at kept written ⊢
    obtain ⟨success, after⟩ := sent
    dsimp only at kept
    subst kept
    have tick : (MspRcSink.count success { sink with port, fdOpen := true }).tickCounter = sink.tickCounter := rfl
    dsimp only
    rw [tick, if_pos due, watch_latch]
    exact pollMspRc_latch outcome call rfl

/-- Any other call leaves the latch as it is, and on a tenth call the fd closed. -/
theorem writeChannels_skips {sink : MspRcSink} {call : ChannelWrite} (skips : sink.polls outcome call = false) :
    sink.repliesDrained outcome call = [] ∧ (sink.writeChannels outcome call).latch = sink.latch ∧
      ((sink.writeChannels outcome call).fdOpen = true → sink.tickCounter % kMspRcPollEvery ≠ 0) := by
  constructor
  · rw [MspRcSink.repliesDrained, skips]
    rfl
  · unfold MspRcSink.writeChannels
    cases opened : sink.fdOpen with
    | false =>
      refine ⟨rfl, ?_⟩
      rw [if_neg Bool.false_ne_true, opened]
      intro absurd
      cases absurd
    | true =>
      have unchanged := writeFrame_latch outcome (rcFrame call.cmd) sink
      have result : (sink.writeFrame outcome (rcFrame call.cmd)).2.fdOpen =
          (sink.writeFrame outcome (rcFrame call.cmd)).1 := by
        unfold MspRcSink.writeFrame
        rw [if_pos opened]
      obtain ⟨port, fdOpen, kept⟩ := writeFrame_keeps outcome (rcFrame call.cmd) sink
      rw [MspRcSink.polls, opened, Bool.true_and] at skips
      generalize sink.writeFrame outcome (rcFrame call.cmd) = sent at skips unchanged result kept ⊢
      obtain ⟨success, after⟩ := sent
      dsimp only at kept result skips unchanged
      have tick : (MspRcSink.count success after).tickCounter = sink.tickCounter := by
        rw [kept]
        rfl
      simp only [↓reduceIte, tick]
      by_cases due : sink.tickCounter % kMspRcPollEvery = 0
      · have closed : (MspRcSink.count success after).fdOpen = false := by
          rw [decide_eq_true due, Bool.true_and] at skips
          exact result.trans skips
        rw [if_pos due, MspRcSink.pollMspRc, closed, if_neg Bool.false_ne_true]
        refine ⟨unchanged, ?_⟩
        intro opened
        rw [closed] at opened
        cases opened
      · rw [if_neg due]
        exact ⟨unchanged, fun _ => due⟩

theorem writeChannels_tick {sink : MspRcSink} (opened : sink.fdOpen = true) (call : ChannelWrite) :
    (sink.writeChannels outcome call).tickCounter = sink.tickCounter + 1 := by
  obtain ⟨port, fdOpen, kept⟩ := writeFrame_keeps outcome (rcFrame call.cmd) sink
  unfold MspRcSink.writeChannels
  rw [if_pos opened]
  generalize sink.writeFrame outcome (rcFrame call.cmd) = sent at kept ⊢
  obtain ⟨success, after⟩ := sent
  dsimp only at kept ⊢
  subst kept
  split
  · obtain ⟨_, _, _, _, _, _, polled⟩ := pollMspRc_keeps outcome call (MspRcSink.count success { sink with port, fdOpen })
    rw [polled]
    rfl
  · rfl

theorem writeChannels_stays_closed {sink : MspRcSink} (call : ChannelWrite)
    (opened : (sink.writeChannels outcome call).fdOpen = true) : sink.fdOpen = true := by
  cases closed : sink.fdOpen with
  | true => rfl
  | false =>
    have same := writeChannels_closed outcome closed [call]
    rw [List.foldl_cons, List.foldl_nil] at same
    rw [same, closed] at opened
    exact opened

end call

/-! ## Runs -/

/-- The times at which the calls so far drained replies with the switch on. -/
def replies (outcome : Nat → WriteResult) (past : Past MspRcSink TimedWrite) : List Int :=
  past.flatMap fun tick => tick.1.repliesDrained outcome tick.2.toChannelWrite

/-- The time spanned by the last ten calls, this one and the nine before it. -/
def span (past : Past MspRcSink TimedWrite) (call : TimedWrite) : Int :=
  call.time - (past.map fun tick => tick.2.time).getD (past.length - 9) call.time

def replyWindow (past : Past MspRcSink TimedWrite) (call : TimedWrite) : Int :=
  (kArmSwitchStaleMs + 1) * 1000000 + span past call

/-- The clock never goes back, within a call or between calls. -/
def SteadyClock (past : Past MspRcSink TimedWrite) (_ : MspRcSink) (call : TimedWrite) : Prop :=
  Monotone call.clock ∧ call.time ≤ call.clock 0 ∧ ∀ earlier ∈ past, ∀ look, earlier.2.clock look ≤ call.time

/-- Behind a call without a reply in the window the switch is off. -/
def NeverStale [Double.Fpu] (outcome : Nat → WriteResult) (past : Past MspRcSink TimedWrite) (sink : MspRcSink)
    (call : TimedWrite) : Prop :=
  (∀ reply ∈ replies outcome (past ++ [(sink, call)]), replyWindow past call ≤ call.time - reply) →
    (sink.writeChannels outcome call.toChannelWrite).armSwitch = false

/-- The timer is within reach of a call that finds the switch on: the fd is open and, if a poll is due, takes the
SET_RAW_RC frame. Otherwise the reply the switch rests on is still in the window. -/
def TimerReached (outcome : Nat → WriteResult) (past : Past MspRcSink TimedWrite) (sink : MspRcSink)
    (call : TimedWrite) : Prop :=
  sink.armSwitch = true →
    (sink.fdOpen = true ∧
      (sink.tickCounter % kMspRcPollEvery = 0 → (sink.writeFrame outcome (rcFrame call.cmd)).1 = true)) ∨
    ∃ replied ∈ sink.lastMspRcReplyTime, call.time - replied < replyWindow past call

/-- The invariant of a run. While the fd is open a switch that is on was seen fresh by one of the last ten calls. -/
structure SwitchInv (outcome : Nat → WriteResult) (past : Past MspRcSink TimedWrite) (sink : MspRcSink) : Prop where
  rests : RestsOn (replies outcome past) sink.armSwitch sink.lastMspRcReplyTime
  read : ∀ reply ∈ replies outcome past, ∃ earlier ∈ past, ∃ look, reply = earlier.2.clock look
  begun : ∀ earlier ∈ past, earlier.2.time ≤ earlier.2.clock 0
  sorted : (past.map fun tick => tick.2.time).Pairwise (· ≤ ·)
  ticks : sink.fdOpen = true → sink.tickCounter = past.length
  polled : sink.fdOpen = true → sink.armSwitch = true → ∀ replied ∈ sink.lastMspRcReplyTime,
    ∃ poll, poll % kMspRcPollEvery = 0 ∧ past.length ≤ poll + 10 ∧
      ∃ tick, past[poll]? = some tick ∧ tick.2.time - replied < (kArmSwitchStaleMs + 1) * 1000000

section run
variable {outcome : Nat → WriteResult} {past : Past MspRcSink TimedWrite} {sink : MspRcSink} {call : TimedWrite}

theorem span_covers (call : TimedWrite) (sorted : (past.map fun tick => tick.2.time).Pairwise (· ≤ ·)) {index : Nat}
    {tick : MspRcSink × TimedWrite} (recent : past.length ≤ index + 9) (found : past[index]? = some tick) :
    call.time - tick.2.time ≤ span past call := by
  obtain ⟨inside, at_index⟩ := List.getElem?_eq_some_iff.1 found
  have first : past.length - 9 < (past.map fun tick => tick.2.time).length := by
    rw [List.length_map]
    omega
  have ordered : (past.map fun tick => tick.2.time)[past.length - 9] ≤ tick.2.time := by
    rw [← at_index, List.getElem_map]
    rcases Nat.lt_or_ge (past.length - 9) index with before | same
    · rw [List.pairwise_map] at sorted
      exact List.pairwise_iff_getElem.1 sorted _ _ _ _ before
    · have equal : past.length - 9 = index := by omega
      simp only [equal, le_refl]
  rw [span, List.getD_eq_getElem?_getD, List.getElem?_eq_getElem first, Option.getD_some]
  omega

theorem span_nonneg (inv : SwitchInv outcome past sink) (steady : SteadyClock past sink call) : 0 ≤ span past call := by
  have before : (past.map fun tick => tick.2.time).getD (past.length - 9) call.time ≤ call.time := by
    rw [List.getD_eq_getElem?_getD, List.getElem?_map]
    cases found : past[past.length - 9]? with
    | none => exact le_rfl
    | some tick =>
      have member := List.mem_of_getElem? found
      exact (inv.begun tick member).trans (steady.2.2 tick member 0)
  rw [span]
  omega

theorem replies_append (tick : MspRcSink × TimedWrite) :
    replies outcome (past ++ [tick]) =
      replies outcome past ++ tick.1.repliesDrained outcome tick.2.toChannelWrite := by
  simp only [replies, List.flatMap_append, List.flatMap_cons, List.flatMap_nil, List.append_nil]

/-- What a call that drains the line leaves: a switch that is on rests on a fresh reply. -/
theorem polls_fresh [Double.Fpu] (inv : SwitchInv outcome past sink) (steady : SteadyClock past sink call)
    (polls : sink.polls outcome call.toChannelWrite = true) :
    RestsOn (replies outcome (past ++ [(sink, call)])) (sink.writeChannels outcome call.toChannelWrite).armSwitch
        (sink.writeChannels outcome call.toChannelWrite).lastMspRcReplyTime ∧
      (∀ reply ∈ sink.repliesDrained outcome call.toChannelWrite, ∃ look, reply = call.clock look) ∧
      ((sink.writeChannels outcome call.toChannelWrite).armSwitch = true →
        ∀ replied ∈ (sink.writeChannels outcome call.toChannelWrite).lastMspRcReplyTime,
          call.time - replied < (kArmSwitchStaleMs + 1) * 1000000) := by
  obtain ⟨steadily, now, since⟩ := steady
  have start : WatchInv call.clock (replies outcome past) (sink.latch, []) := by
    refine ⟨?_, ?_, List.forall_mem_nil _⟩
    · rw [List.append_nil]
      exact inv.rests
    · rw [List.append_nil]
      intro reply member look _
      obtain ⟨earlier, before, at_look, rfl⟩ := inv.read reply member
      exact ((since earlier before at_look).trans now).trans (steadily (Nat.zero_le look))
  obtain ⟨logged, latch⟩ := writeChannels_polls outcome polls
  have watched := watch_inv steadily start (framesDrained sink call.toChannelWrite)
  rw [replies_append, logged]
  generalize (framesDrained sink call.toChannelWrite).foldl (ArmLatch.watch call.clock) (sink.latch, []) = after
    at latch watched ⊢
  generalize sink.writeChannels outcome call.toChannelWrite = result at latch ⊢
  have armSwitch : result.armSwitch = (after.1.expire call.clock).armSwitch := congrArg ArmLatch.armSwitch latch
  have known : result.lastMspRcReplyTime = after.1.lastMspRcReplyTime :=
    congrArg ArmLatch.lastMspRcReplyTime latch
  rw [armSwitch, known]
  refine ⟨?_, watched.read, ?_⟩
  · intro on
    cases last : after.1.lastMspRcReplyTime with
    | none =>
      rw [ArmLatch.expire, last] at on
      rw [← last]
      exact watched.rests on
    | some replied =>
      rw [← last]
      exact watched.rests (expire_on last on).1
  · intro on replied last
    have young := (expire_on last on).2
    have later := steadily (Nat.zero_le after.1.looks)
    omega

theorem neverStale_iff [Double.Fpu] (inv : SwitchInv outcome past sink) (steady : SteadyClock past sink call) :
    NeverStale outcome past sink call ↔ TimerReached outcome past sink call := by
  have spanned := span_nonneg inv steady
  cases polls : sink.polls outcome call.toChannelWrite with
  | true =>
    obtain ⟨rests, -, fresh⟩ := polls_fresh inv steady polls
    have reached : TimerReached outcome past sink call := by
      intro _
      simp only [MspRcSink.polls, Bool.and_eq_true, decide_eq_true_eq] at polls
      exact .inl ⟨polls.1.1, fun _ => polls.2⟩
    refine iff_of_true ?_ reached
    intro silent
    by_contra on
    rw [Bool.not_eq_false] at on
    obtain ⟨replied, last, member, -⟩ := rests on
    have young := fresh on replied last
    have old := silent replied member
    rw [replyWindow] at old
    omega
  | false =>
    obtain ⟨none, latch, -⟩ := writeChannels_skips outcome polls
    have armSwitch : (sink.writeChannels outcome call.toChannelWrite).armSwitch = sink.armSwitch :=
      congrArg ArmLatch.armSwitch latch
    rw [NeverStale, TimerReached, replies_append, none, List.append_nil, armSwitch]
    constructor
    · intro neverStale on
      obtain ⟨replied, last, -, latest⟩ := inv.rests on
      refine .inr ⟨replied, last, ?_⟩
      by_contra old
      have off := neverStale fun reply member => by
        have order := latest reply member
        omega
      rw [on] at off
      cases off
    · intro reached silent
      by_contra on
      rw [Bool.not_eq_false] at on
      obtain ⟨replied, last, member, -⟩ := inv.rests on
      have old := silent replied member
      cases reached on with
      | inr fresh =>
        obtain ⟨same, known, young⟩ := fresh
        rw [last] at known
        cases known
        omega
      | inl within =>
        obtain ⟨opened, written⟩ := within
        obtain ⟨poll, tenth, recent, tick, found, young⟩ := inv.polled opened on replied last
        have due : sink.tickCounter % kMspRcPollEvery ≠ 0 := by
          intro due
          simp [MspRcSink.polls, opened, due, written due] at polls
        rw [inv.ticks opened, kMspRcPollEvery] at due
        rw [kMspRcPollEvery] at tenth
        have covered := span_covers call inv.sorted (by omega) found
        rw [replyWindow] at old
        omega

theorem SwitchInv.begun_append (inv : SwitchInv outcome past sink) (steady : SteadyClock past sink call) :
    ∀ earlier ∈ past ++ [(sink, call)], earlier.2.time ≤ earlier.2.clock 0 := by
  intro earlier member
  rw [List.mem_append, List.mem_singleton] at member
  cases member with
  | inl before => exact inv.begun earlier before
  | inr now =>
    rw [now]
    exact steady.2.1

theorem SwitchInv.sorted_append (inv : SwitchInv outcome past sink) (steady : SteadyClock past sink call) :
    ((past ++ [(sink, call)]).map fun tick => tick.2.time).Pairwise (· ≤ ·) := by
  rw [List.map_append, List.pairwise_append]
  refine ⟨inv.sorted, List.pairwise_singleton _ _, ?_⟩
  intro time member now last
  obtain ⟨earlier, before, rfl⟩ := List.mem_map.1 member
  rw [List.map_singleton, List.mem_singleton] at last
  rw [last]
  exact (inv.begun earlier before).trans (steady.2.2 earlier before 0)

theorem SwitchInv.ticks_append [Double.Fpu] (inv : SwitchInv outcome past sink)
    (opened : (sink.writeChannels outcome call.toChannelWrite).fdOpen = true) :
    (sink.writeChannels outcome call.toChannelWrite).tickCounter = (past ++ [(sink, call)]).length := by
  have before := writeChannels_stays_closed outcome call.toChannelWrite opened
  rw [writeChannels_tick outcome before, inv.ticks before, List.length_append, List.length_singleton]

theorem switchInv_step [Double.Fpu] (inv : SwitchInv outcome past sink) (steady : SteadyClock past sink call) :
    SwitchInv outcome (past ++ [(sink, call)]) (sink.writeChannels outcome call.toChannelWrite) := by
  have known (reply : Int) (member : reply ∈ replies outcome past) :
      ∃ earlier ∈ past ++ [(sink, call)], ∃ look, reply = earlier.2.clock look := by
    obtain ⟨earlier, before, look⟩ := inv.read reply member
    exact ⟨earlier, List.mem_append_left _ before, look⟩
  cases polls : sink.polls outcome call.toChannelWrite with
  | true =>
    obtain ⟨rests, read, fresh⟩ := polls_fresh inv steady polls
    refine ⟨rests, ?_, inv.begun_append steady, inv.sorted_append steady, fun opened => inv.ticks_append opened, ?_⟩
    · intro reply member
      rw [replies_append, List.mem_append] at member
      cases member with
      | inl before => exact known reply before
      | inr now => exact ⟨(sink, call), by simp, read reply now⟩
    · intro opened on replied last
      simp only [MspRcSink.polls, Bool.and_eq_true, decide_eq_true_eq] at polls
      rw [inv.ticks polls.1.1] at polls
      refine ⟨past.length, polls.1.2, ?_, (sink, call), ?_, fresh on replied last⟩
      · rw [List.length_append, List.length_singleton]
        omega
      · rw [List.getElem?_append_right le_rfl, Nat.sub_self]
        rfl
  | false =>
    obtain ⟨none, latch, undue⟩ := writeChannels_skips outcome polls
    have armSwitch : (sink.writeChannels outcome call.toChannelWrite).armSwitch = sink.armSwitch :=
      congrArg ArmLatch.armSwitch latch
    have lastReply : (sink.writeChannels outcome call.toChannelWrite).lastMspRcReplyTime = sink.lastMspRcReplyTime :=
      congrArg ArmLatch.lastMspRcReplyTime latch
    have same : replies outcome (past ++ [(sink, call)]) = replies outcome past := by
      rw [replies_append, none, List.append_nil]
    refine ⟨?_, ?_, inv.begun_append steady, inv.sorted_append steady, fun opened => inv.ticks_append opened, ?_⟩
    · rw [same, armSwitch, lastReply]
      exact inv.rests
    · rw [same]
      exact known
    · intro opened on replied last
      rw [armSwitch] at on
      rw [lastReply] at last
      have before := writeChannels_stays_closed outcome call.toChannelWrite opened
      obtain ⟨poll, tenth, recent, tick, found, young⟩ := inv.polled before on replied last
      have undue := undue opened
      rw [inv.ticks before, kMspRcPollEvery] at undue
      refine ⟨poll, tenth, ?_, tick, ?_, young⟩
      · rw [kMspRcPollEvery] at tenth
        rw [List.length_append, List.length_singleton]
        omega
      · rw [List.getElem?_append_left (List.getElem?_eq_some_iff.1 found).1]
        exact found

end run

/-- A sink before its first call. The boot probes may have left bytes behind, counted errors or closed the fd. -/
structure MspRcSink.Unused (sink : MspRcSink) : Prop where
  armSwitch : sink.armSwitch = false
  tickCounter : sink.tickCounter = 0

/-- On a clock that never goes back, `arm_switch()` is stale behind no call exactly as long as the timer is within
reach of every call that finds the switch on, or its last reply is still in the window. -/
theorem neverStale_always_iff [Double.Fpu] (outcome : Nat → WriteResult) {sink : MspRcSink} (unused : sink.Unused)
    (calls : List TimedWrite)
    (steady : Always (fun sink call => sink.writeChannels outcome call.toChannelWrite) SteadyClock [] sink calls) :
    Always (fun sink call => sink.writeChannels outcome call.toChannelWrite) (NeverStale outcome) [] sink calls ↔
      Always (fun sink call => sink.writeChannels outcome call.toChannelWrite) (TimerReached outcome) [] sink calls := by
  refine Always.iff_of_invariant (SwitchInv outcome) ?_ ?_ [] sink calls ?_ steady
  · intro past sink call inv steady
    exact neverStale_iff inv steady
  · intro past sink call inv steady _
    exact switchInv_step inv steady
  · refine ⟨?_, List.forall_mem_nil _, List.forall_mem_nil _, List.Pairwise.nil, fun _ => unused.tickCounter, ?_⟩
    · intro on
      rw [unused.armSwitch] at on
      cases on
    · intro _ on
      rw [unused.armSwitch] at on
      cases on

instance NeverStale.decidable [Double.Fpu] (outcome : Nat → WriteResult) (past : Past MspRcSink TimedWrite)
    (sink : MspRcSink) (call : TimedWrite) : Decidable (NeverStale outcome past sink call) :=
  inferInstanceAs (Decidable ((∀ reply ∈ replies outcome (past ++ [(sink, call)]),
    replyWindow past call ≤ call.time - reply) → (sink.writeChannels outcome call.toChannelWrite).armSwitch = false))

instance TimerReached.decidable (outcome : Nat → WriteResult) (past : Past MspRcSink TimedWrite)
    (sink : MspRcSink) (call : TimedWrite) : Decidable (TimerReached outcome past sink call) :=
  inferInstanceAs (Decidable (sink.armSwitch = true →
    (sink.fdOpen = true ∧
      (sink.tickCounter % kMspRcPollEvery = 0 → (sink.writeFrame outcome (rcFrame call.cmd)).1 = true)) ∨
    ∃ replied ∈ sink.lastMspRcReplyTime, call.time - replied < replyWindow past call))

/-- A call within which no time passes. -/
def TimedWrite.instant (time : Int) (reads : List Bytes) : TimedWrite :=
  { cmd := {}, reads, clock := fun _ => time, time }

theorem steady_of_instants (step : MspRcSink → TimedWrite → MspRcSink) (past : Past MspRcSink TimedWrite)
    (sink : MspRcSink) (calls : List TimedWrite) (instants : ∀ call ∈ calls, ∀ look, call.clock look = call.time)
    (sorted : (calls.map TimedWrite.time).Pairwise (· ≤ ·))
    (before : ∀ earlier ∈ past, ∀ call ∈ calls, ∀ look, earlier.2.clock look ≤ call.time) :
    Always step SteadyClock past sink calls := by
  induction calls generalizing past sink with
  | nil => trivial
  | cons call later ih =>
    rw [List.map_cons, List.pairwise_cons] at sorted
    rw [List.forall_mem_cons] at instants
    refine ⟨⟨?_, ?_, ?_⟩, ih _ _ instants.2 sorted.2 ?_⟩
    · intro first second _
      rw [instants.1 first, instants.1 second]
    · exact (instants.1 0).ge
    · intro earlier member look
      exact before earlier member call List.mem_cons_self look
    · intro earlier member next after look
      rw [List.mem_append, List.mem_singleton] at member
      cases member with
      | inl old => exact before earlier old next (List.mem_cons_of_mem _ after) look
      | inr now =>
        rw [now, instants.1 look]
        exact sorted.1 _ (List.mem_map_of_mem after)

/-- A reply of ten bytes whose AUX1 is at 2000. -/
def switchOnReply : Bytes := [0x24, 0x4D, 0x3E, 10, 105, 0, 0, 0, 0, 0, 0, 0, 0, 0xD0, 0x07, 180]

/-- A call every second; the eleventh drains the reply. -/
def secondCalls (count : Nat) : List TimedWrite :=
  (List.range count).map fun k : Nat => .instant (1000000000 * k) (if k = 10 then [switchOnReply] else [])

theorem steady_secondCalls (step : MspRcSink → TimedWrite → MspRcSink) (count : Nat) :
    Always step SteadyClock [] {} (secondCalls count) := by
  apply steady_of_instants
  · intro call member look
    obtain ⟨k, -, rfl⟩ := List.mem_map.1 member
    rfl
  · rw [secondCalls, List.map_map, List.pairwise_map]
    apply List.pairwise_le_range.imp
    intro first second order
    change (1000000000 * first : Int) ≤ 1000000000 * second
    omega
  · exact List.forall_mem_nil _

/-- The write behind the reply fails. Twelve seconds later the switch is still on. -/
theorem switch_stale_on_closed_fd :
    Always (fun sink call => @MspRcSink.writeChannels Double.exact
        (fun n => if n = 13 then .error (.other 5) else .wrote 256) sink call.toChannelWrite)
      SteadyClock [] {} (secondCalls 24) ∧
    ¬ Always (fun sink call => @MspRcSink.writeChannels Double.exact
        (fun n => if n = 13 then .error (.other 5) else .wrote 256) sink call.toChannelWrite)
      (@NeverStale Double.exact fun n => if n = 13 then .error (.other 5) else .wrote 256) [] {} (secondCalls 24) :=
  ⟨steady_secondCalls _ 24, by decide +kernel⟩

theorem switch_released_on_open_fd :
    Always (fun sink call => @MspRcSink.writeChannels Double.exact (fun _ => .wrote 256) sink call.toChannelWrite)
      (@NeverStale Double.exact fun _ => .wrote 256) [] {} (secondCalls 24) :=
  (@neverStale_always_iff Double.exact (fun _ => .wrote 256) {} ⟨rfl, rfl⟩ (secondCalls 24)
    (steady_secondCalls _ 24)).2 (by decide +kernel)

end AotDrone.Fc.Msp
