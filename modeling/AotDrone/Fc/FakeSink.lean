import AotDrone.Fc.OpBounds
import AotDrone.Fc.Telemetry

/-! `FakeBetaflightSink` (`RcSink.cpp`): the channels of every turn as a JSON datagram of its own. -/

namespace AotDrone.Fc
open AotDrone.Lib AotDrone.Lib.Double AotDrone.Lib.Decimal

/-- How `sendto` ends: the datagram is out, or there is an error that passes, or one that does not. -/
inductive SendResult where
  | sent
  | soft
  | hard
  deriving DecidableEq

def BetaFlightCommand.channels (cmd : BetaFlightCommand) : List ℕ :=
  [cmd.roll, cmd.pitch, cmd.yaw, cmd.throttle, cmd.aux1, cmd.aux2, cmd.aux3, cmd.aux4]

/-- Numbers with commas between. -/
def numbersText : List ℕ → Text
  | [] => []
  | [n] => intText n
  | n :: next :: rest => intText n ++ ',' :: numbersText (next :: rest)

def rcDatagram [FixedFormat] (seq : ℕ) (timestamp : Double) (cmd : BetaFlightCommand) : Text :=
  '\x7b' ::
    (membersText
        [("type", "\"RC\"".toList), ("seq", intText seq), ("timestamp_s", fixedText timestamp),
          ("channels", '[' :: (numbersText cmd.channels ++ [']']))] ++
      ['\x7d'])

/-- The sink, with all that it has sent. The numbers are of 64 bits. -/
structure FakeSink where
  opened : Bool := true
  seq : ℕ := 0
  framesSent : ℕ := 0
  framesDropped : ℕ := 0
  sent : List Text := []

namespace FakeSink
variable [FixedFormat]

/-- The buffer has 256 bytes, one of them for the end. -/
def writeChannels (sink : FakeSink) (cmd : BetaFlightCommand) (timestamp : Double) (result : SendResult) : FakeSink :=
  if sink.opened = false then sink
  else
    let text := rcDatagram sink.seq timestamp cmd
    if 256 ≤ text.length then { sink with framesDropped := sink.framesDropped + 1 }
    else
      match result with
      | .sent =>
        { sink with framesSent := sink.framesSent + 1, seq := (sink.seq + 1) % 2 ^ 64, sent := sink.sent ++ [text] }
      | .soft => { sink with framesDropped := sink.framesDropped + 1 }
      | .hard => { sink with framesDropped := sink.framesDropped + 1, opened := false }

/-- What was sent in the place `k` of all: numbered so, with channels that are in range and a finite time. -/
structure Numbered (k : ℕ) (text : Text) (cmd : BetaFlightCommand) : Prop where
  channels : cmd.InRange
  short : text.length < 256
  text : ∃ timestamp, text = rcDatagram (k % 2 ^ 64) (fin timestamp) cmd

/-- All that the sink has sent is numbered in order. -/
structure Orderly (sink : FakeSink) : Prop where
  seq : sink.seq = sink.sent.length % 2 ^ 64
  framesSent : sink.framesSent = sink.sent.length
  numbered : ∀ k text, sink.sent[k]? = some text → ∃ cmd, Numbered k text cmd

theorem Orderly.start : Orderly {} := ⟨rfl, rfl, nofun⟩

theorem Orderly.writeChannels {sink : FakeSink} (orderly : sink.Orderly) {cmd : BetaFlightCommand}
    (channels : cmd.InRange) (timestamp : ℚ) (result : SendResult) :
    (sink.writeChannels cmd (fin timestamp) result).Orderly := by
  unfold FakeSink.writeChannels
  dsimp only
  split_ifs with closed long
  · exact orderly
  · exact ⟨orderly.seq, orderly.framesSent, orderly.numbered⟩
  · cases result with
    | soft => exact ⟨orderly.seq, orderly.framesSent, orderly.numbered⟩
    | hard => exact ⟨orderly.seq, orderly.framesSent, orderly.numbered⟩
    | sent =>
      refine ⟨?_, ?_, ?_⟩
      · rw [List.length_append]
        dsimp only
        rw [orderly.seq, Nat.mod_add_mod]
        rfl
      · rw [List.length_append]
        exact congrArg (· + 1) orderly.framesSent
      · intro k text own
        rcases lt_trichotomy k sink.sent.length with earlier | rfl | later
        · rw [List.getElem?_append_left earlier] at own
          exact orderly.numbered k text own
        · rw [List.getElem?_concat_length] at own
          obtain rfl := Option.some.inj own
          exact ⟨cmd, channels, not_le.1 long, timestamp, by rw [orderly.seq]⟩
        · rw [List.getElem?_eq_none (by simpa using Nat.succ_le_of_lt later)] at own
          cases own

end FakeSink

/-! ## The process around it -/

/-- What happens to a process with this sink, which has no rate profile to confirm. -/
inductive RcEvent where
  | reception (frame : Reception)
  | tick (now : ℤ) (late : List Reception) (ageNow : ℤ) (result : SendResult)

structure RcProcess where
  process : FcProcess
  sink : FakeSink := {}

namespace RcProcess
variable [FixedFormat] [Fpu] [Libc]

/-- A turn writes the command it ends with, at the time of its telemetry. -/
def step (p : RcProcess) : RcEvent → RcProcess
  | .reception frame => { p with process := p.process.step (.reception frame) }
  | .tick now late ageNow result =>
    let process := p.process.step (.tick now late ageNow p.sink.opened)
    { process
      sink := p.sink.writeChannels process.loop.controller.currentCommand
        process.loop.controller.telemetryData.timestamp result }

def run (hover : HoverEnv) (start : ℤ) (events : List RcEvent) : RcProcess :=
  events.foldl step { process := bootProcess hover false start }

end RcProcess

section hardware
attribute [local instance] Binary64.binary64
variable [FixedFormat] [Libc]

structure RcProcess.Inv (p : RcProcess) : Prop where
  reports : Reports p.process.loop.controller
  clock : Within 0 (2 ^ 53) p.process.loop.controller.telemetryData.timestamp
  orderly : p.sink.Orderly

theorem RcProcess.step_inv {p : RcProcess} (inv : p.Inv) (event : RcEvent) : (p.step event).Inv := by
  cases event with
  | reception frame => exact ⟨inv.reports, inv.clock, inv.orderly⟩
  | tick now late ageNow result =>
    obtain ⟨reports, time⟩ := step_reports inv.reports (p.process.readings now late ageNow p.sink.opened)
    have clock : Within 0 (2 ^ 53) (p.step (.tick now late ageNow result)).process.loop.controller.telemetryData.timestamp := by
      change Within 0 (2 ^ 53) (p.process.loop.step _).controller.telemetryData.timestamp
      rw [time]
      exact Binary64.clock_within inv.clock (FlightController.clampedDt_within _)
    refine ⟨reports, clock, ?_⟩
    obtain ⟨timestamp, finite, -, -⟩ := clock
    change (p.sink.writeChannels _ (p.step (.tick now late ageNow result)).process.loop.controller.telemetryData.timestamp
      result).Orderly
    rw [finite]
    exact inv.orderly.writeChannels (OpLog.clampCommandChannels_inRange _) timestamp result

theorem RcProcess.run_inv (hover : HoverEnv) (start : ℤ) (events : List RcEvent) : (run hover start events).Inv := by
  induction events using List.reverseRecOn with
  | nil =>
    obtain ⟨reports, time⟩ := boot_reports hover
    refine ⟨reports, ?_, .start⟩
    change Within 0 (2 ^ 53) (boot hover).controller.telemetryData.timestamp
    rw [time]
    exact ⟨0, rfl, le_rfl, by norm_num⟩
  | append_singleton events event ih =>
    unfold run at ih ⊢
    rw [List.foldl_append]
    exact step_inv ih event

end hardware
end AotDrone.Fc
