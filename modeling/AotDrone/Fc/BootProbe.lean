import AotDrone.Fc.ArmSwitch
import AotDrone.Fc.Failsafe
import AotDrone.Fc.MspStream
import AotDrone.Lib.Simulation

/-! The two questions that a sink asks Betaflight before the loop starts (`MspRcSink::run_boot_probe_` and
`run_tuning_probe_` of `MspRcSink.cpp`), from the configured fd on, and what `main` makes of the answers. -/

namespace AotDrone.Fc.Msp
open AotDrone.Lib AotDrone.Lib.Double AotDrone.Lib.Run

def mspApiVersion : UInt8 := 1
def mspRcTuning : UInt8 := 111
def kProbeTimeoutMs : Nat := 500
def kProbePollMs : Nat := 50

/-- The loop runs while `elapsed < kProbeTimeoutMs`. -/
def probeRounds : Nat := (kProbeTimeoutMs + kProbePollMs - 1) / kProbePollMs

/-- What `select` reports in one round: nothing, or that the fd is readable, with the results of `read` after it. -/
abbrev Round := Option (List Bytes)

/-- The callback of a probe. It asks to stop at the first frame with the command. -/
def probeOnFrame (cmd : UInt8) (found : Bool) (f : ParsedFrame) : Bool × Bool :=
  if f.cmd = cmd then (true, true) else (found, false)

/-- The rounds of a probe. Left are whether the reply was found, the accumulator and the error count. -/
def probeWait (cmd : UInt8) : List Round → Bytes → Nat → Bool × Bytes × Nat
  | [], acc, parseErrors => (false, acc, parseErrors)
  | none :: later, acc, parseErrors => probeWait cmd later acc parseErrors
  | some reads :: later, acc, parseErrors =>
    let (acc, parseErrors, found) := parseDrain (probeOnFrame cmd) (drainInto reads acc) parseErrors false
    if found then (true, acc, parseErrors) else probeWait cmd later acc parseErrors

def apiRequest : Bytes := encodeRequest mspApiVersion []
def tuningRequest : Bytes := encodeRequest mspRcTuning []

/-- A sink and what `tuning_mismatch()` says of it. -/
structure Device where
  sink : MspRcSink
  tuningMismatch : Bool

namespace MspRcSink

def runBootProbe (outcome : Nat → WriteResult) (rounds : List Round) (sink : MspRcSink) : Bool × MspRcSink :=
  let (written, sink) := sink.writeFrame outcome apiRequest
  if written then
    let (found, rxBuffer, parseErrors) := probeWait mspApiVersion (rounds.take probeRounds) sink.rxBuffer sink.parseErrors
    (found, { sink with rxBuffer, parseErrors, bootProbeFailed := !found })
  else (false, { sink with bootProbeFailed := true })

def runTuningProbe (outcome : Nat → WriteResult) (rounds : List Round) (sink : MspRcSink) : Device :=
  let (written, sink) := sink.writeFrame outcome tuningRequest
  if written then
    let (found, rxBuffer, parseErrors) := probeWait mspRcTuning (rounds.take probeRounds) sink.rxBuffer sink.parseErrors
    { sink := { sink with rxBuffer, parseErrors }, tuningMismatch := !found }
  else { sink, tuningMismatch := false }

/-- `from_device` from the configured fd on. -/
def fromDevice (outcome : Nat → WriteResult) (boot tuning : List Round) : Device :=
  let (probed, sink) := runBootProbe outcome boot {}
  if probed then sink.runTuningProbe outcome tuning else { sink, tuningMismatch := false }

end MspRcSink

/-! ## What arrives -/

/-- The bytes that the rounds bring. -/
def arrived (rounds : List Round) : Bytes := rounds.flatMap fun round => (round.map fun reads => drainInto reads []).getD []

/-- A well-formed response to the command. -/
def isReply (cmd : UInt8) (piece : Piece) : Bool := piece.parsed.any fun f => f.cmd == cmd

theorem drainInto_eq (reads : List Bytes) (acc : Bytes) : drainInto reads acc = acc ++ drainInto reads [] := by
  induction reads generalizing acc with
  | nil => exact (List.append_nil acc).symm
  | cons piece later ih =>
    unfold drainInto
    split_ifs
    · rw [ih, ih ([] ++ _), List.nil_append, List.append_assoc]
    · rfl

/-! ## The parser with a callback that may stop -/

section drain
variable {σ : Type} (onFrame : σ → ParsedFrame → σ × Bool) (parseErrors : Nat) (state : σ)

theorem parseDrain_unfold {acc : Bytes} (arrived : acc ≠ []) :
    parseDrain onFrame acc parseErrors state =
      let taken := ((parseResponse acc).frame.map (onFrame state)).getD (state, false)
      let errors := if (parseResponse acc).checksumError then parseErrors + 1 else parseErrors
      if taken.2 = true ∨ (parseResponse acc).bytesConsumed = 0 then
        (acc.drop (parseResponse acc).bytesConsumed, errors, taken.1)
      else parseDrain onFrame (acc.drop (parseResponse acc).bytesConsumed) errors taken.1 := by
  rw [parseDrain, if_neg arrived]
  dsimp only
  by_cases stops : (((parseResponse acc).frame.map (onFrame state)).getD (state, false)).2 = true
  · rw [if_pos stops, if_pos (Or.inl stops : _ ∨ (parseResponse acc).bytesConsumed = 0)]
  · by_cases waits : (parseResponse acc).bytesConsumed = 0
    · have either : (((parseResponse acc).frame.map (onFrame state)).getD (state, false)).2 = true ∨
          (parseResponse acc).bytesConsumed = 0 := .inr waits
      rw [if_neg stops, dif_pos waits, if_pos either]
    · rw [if_neg stops, dif_neg waits, if_neg (not_or.2 ⟨stops, waits⟩)]

theorem parseDrain_idle {acc : Bytes} (waits : nextPiece acc = none) :
    parseDrain onFrame acc parseErrors state = (acc, parseErrors, state) := by
  by_cases empty : acc = []
  · rw [parseDrain, if_pos empty]
  · rw [parseDrain_unfold onFrame parseErrors state empty, parseResponse_waits waits]
    rfl

/-- A garbage byte is skipped. -/
theorem parseDrain_garbage {dollar m angle : UInt8} {behind : Bytes} (unmarked : [dollar, m, angle] ≠ marker) :
    parseDrain onFrame (dollar :: m :: angle :: behind) parseErrors state =
      parseDrain onFrame (m :: angle :: behind) parseErrors state := by
  have skipped := parseResponse_garbage behind unmarked
  have arrived : m :: angle :: behind ≠ [] := List.cons_ne_nil _ _
  generalize m :: angle :: behind = tail at skipped arrived
  rw [parseDrain_unfold onFrame parseErrors state (List.cons_ne_nil _ _), skipped]
  dsimp only
  rw [List.drop_succ_cons]
  by_cases waits : (parseResponse tail).bytesConsumed = 0
  · rw [parseResponse_stays waits]
    rfl
  · rw [parseDrain_unfold onFrame parseErrors state arrived]
    dsimp only
    by_cases stops : (((parseResponse tail).frame.map (onFrame state)).getD (state, false)).2 = true
    · rw [if_pos (Or.inl stops : _ ∨ (parseResponse tail).bytesConsumed + 1 = 0),
        if_pos (Or.inl stops : _ ∨ (parseResponse tail).bytesConsumed = 0)]
    · rw [if_neg (not_or.2 ⟨stops, Nat.succ_ne_zero _⟩), if_neg (not_or.2 ⟨stops, waits⟩)]

theorem parseDrain_frame (raw : RawFrame) (rest : Bytes) :
    parseDrain onFrame (raw.bytes ++ rest) parseErrors state =
      if raw.sound then
        if (onFrame state raw.parsed).2 then (rest, parseErrors, (onFrame state raw.parsed).1)
        else parseDrain onFrame rest parseErrors (onFrame state raw.parsed).1
      else parseDrain onFrame rest (parseErrors + 1) state := by
  have arrived : raw.bytes ++ rest ≠ [] := List.cons_ne_nil _ _
  have progress : raw.bytes.length ≠ 0 := by
    rw [raw.bytes_length]
    omega
  rw [parseDrain_unfold onFrame parseErrors state arrived, parseResponse_frame]
  cases sound : raw.sound with
  | false =>
    dsimp only
    rw [if_neg Bool.false_ne_true, if_neg Bool.false_ne_true]
    dsimp only
    rw [List.drop_left, Option.map_none, Option.getD_none, if_neg (not_or.2 ⟨Bool.false_ne_true, progress⟩), if_pos rfl]
  | true =>
    rw [if_pos rfl, if_pos rfl]
    dsimp only
    rw [List.drop_left, Option.map_some, Option.getD_some]
    by_cases stops : (onFrame state raw.parsed).2 = true
    · rw [if_pos (Or.inl stops : _ ∨ raw.bytes.length = 0), if_pos stops]
      rfl
    · rw [if_neg (not_or.2 ⟨stops, progress⟩), if_neg stops]
      rfl

end drain

section probe
variable {cmd : UInt8} {rounds : List Round} {acc : Bytes}

theorem isReply_frame (cmd : UInt8) (raw : RawFrame) : isReply cmd (.frame raw) = (raw.sound && raw.cmd == cmd) := by
  unfold isReply Piece.parsed
  dsimp only
  cases raw.sound <;> rfl

/-- A probe's parser stops behind the first reply. -/
theorem parseDrain_probe (cmd : UInt8) (stream : Bytes) (parseErrors : Nat) :
    parseDrain (probeOnFrame cmd) stream parseErrors false =
      match mspCutter.seek (isReply cmd) stream with
      | some (before, _, behind) => (behind, parseErrors + before.countP Piece.corrupt, true)
      | none => ((mspCutter.cut stream).2, parseErrors + (mspCutter.cut stream).1.countP Piece.corrupt, false) := by
  induction stream using mspCutter.cut_induction generalizing parseErrors with
  | waits stream waits =>
    rw [mspCutter.seek_none waits, mspCutter.cut_none waits]
    exact parseDrain_idle _ _ _ waits
  | piece stream piece rest found ih =>
    rw [mspCutter.seek_some found, mspCutter.cut_some found]
    obtain ⟨dollar, m, angle, behind, unmarked, rfl, rfl, rfl⟩ | ⟨raw, rfl, rfl⟩ := nextPiece_some found
    · rw [parseDrain_garbage _ _ _ unmarked, ih]
      have noReply : isReply cmd (.garbage dollar) = false := rfl
      rw [noReply, if_neg Bool.false_ne_true]
      cases mspCutter.seek (isReply cmd) (m :: angle :: behind) with
      | none => rfl
      | some further => rfl
    · rw [parseDrain_frame]
      cases sound : raw.sound with
      | false =>
        have corrupt : Piece.corrupt (.frame raw) = true := by simp [Piece.corrupt, sound]
        rw [if_neg Bool.false_ne_true, ih, isReply_frame, sound, Bool.false_and, if_neg Bool.false_ne_true]
        cases mspCutter.seek (isReply cmd) rest with
        | none =>
          rw [Option.map_none]
          dsimp only
          rw [List.countP_cons_of_pos corrupt, Nat.add_assoc, Nat.add_comm 1]
        | some further =>
          dsimp only
          rw [Option.map_some]
          dsimp only
          rw [List.countP_cons_of_pos corrupt, Nat.add_assoc, Nat.add_comm 1]
      | true =>
        have intact : ¬ Piece.corrupt (.frame raw) = true := by simp [Piece.corrupt, sound]
        rw [if_pos rfl, isReply_frame, sound, Bool.true_and]
        by_cases same : raw.cmd = cmd
        · have onFrame : probeOnFrame cmd false raw.parsed = (true, true) := if_pos same
          rw [onFrame, if_pos rfl, beq_iff_eq.2 same, if_pos rfl]
          rfl
        · have onFrame : probeOnFrame cmd false raw.parsed = (false, false) := if_neg same
          rw [onFrame, if_neg Bool.false_ne_true, ih, beq_false_of_ne same, if_neg Bool.false_ne_true]
          cases mspCutter.seek (isReply cmd) rest with
          | none =>
            rw [Option.map_none]
            dsimp only
            rw [List.countP_cons_of_neg intact]
          | some further =>
            dsimp only
            rw [Option.map_some]
            dsimp only
            rw [List.countP_cons_of_neg intact]

theorem arrived_cons (round : Round) (later : List Round) :
    arrived (round :: later) = (round.map fun reads => drainInto reads []).getD [] ++ arrived later := List.flatMap_cons

theorem arrived_silent (silent : ¬ rounds.any Option.isSome = true) : arrived rounds = [] := by
  induction rounds with
  | nil => rfl
  | cons round later ih =>
    cases round with
    | none =>
      rw [arrived_cons]
      exact ih silent
    | some reads => exact absurd rfl silent

/-- A probe that finds the reply stops in the round that completes it: the accumulator is what is behind the reply, and
the errors are counted up to it. -/
theorem probeWait_found {parseErrors errors : Nat} {behind : Bytes}
    (found : probeWait cmd rounds acc parseErrors = (true, behind, errors)) :
    ∃ n ≤ rounds.length, ∃ before reply,
      mspCutter.seek (isReply cmd) (acc ++ arrived (rounds.take n)) = some (before, reply, behind) ∧
        errors = parseErrors + before.countP Piece.corrupt := by
  induction rounds generalizing acc parseErrors with
  | nil => cases found
  | cons round later ih =>
    cases round with
    | none =>
      obtain ⟨n, within, before, reply, sought, counted⟩ := ih found
      refine ⟨n + 1, Nat.succ_le_succ within, before, reply, ?_, counted⟩
      rw [List.take_succ_cons, arrived_cons]
      exact sought
    | some reads =>
      unfold probeWait at found
      rw [drainInto_eq, parseDrain_probe] at found
      cases sought : mspCutter.seek (isReply cmd) (acc ++ drainInto reads []) with
      | some reply =>
        obtain ⟨before, reply, rest⟩ := reply
        rw [sought] at found
        dsimp only at found
        rw [if_pos rfl] at found
        cases found
        refine ⟨1, Nat.succ_le_succ (Nat.zero_le _), before, reply, ?_, rfl⟩
        rw [List.take_succ_cons, List.take_zero, arrived_cons]
        rw [← sought]
        exact congrArg _ (congrArg _ (List.append_nil _))
      | none =>
        rw [sought] at found
        dsimp only at found
        rw [if_neg Bool.false_ne_true] at found
        obtain ⟨n, within, before, reply, found, counted⟩ := ih found
        refine ⟨n + 1, Nat.succ_le_succ within, (mspCutter.cut (acc ++ drainInto reads [])).1 ++ before, reply, ?_, ?_⟩
        · rw [List.take_succ_cons, arrived_cons, ← List.append_assoc]
          change mspCutter.seek _ (acc ++ drainInto reads [] ++ _) = _
          rw [mspCutter.seek_later sought, found]
          rfl
        · rw [counted, List.countP_append, Nat.add_assoc]

/-- A probe finds the reply exactly when it is in what the rounds bring and one of them is readable. -/
theorem probeWait_iff (parseErrors : Nat) :
    (probeWait cmd rounds acc parseErrors).1 = true ↔
      rounds.any Option.isSome = true ∧ (mspCutter.seek (isReply cmd) (acc ++ arrived rounds)).isSome = true := by
  induction rounds generalizing acc parseErrors with
  | nil => exact iff_of_false Bool.false_ne_true fun both => Bool.false_ne_true both.1
  | cons round later ih =>
    cases round with
    | none => exact ih parseErrors
    | some reads =>
      unfold probeWait
      rw [drainInto_eq, parseDrain_probe, arrived_cons, ← List.append_assoc]
      change _ ↔ true = true ∧ (mspCutter.seek _ (acc ++ drainInto reads [] ++ arrived later)).isSome = true
      cases sought : mspCutter.seek (isReply cmd) (acc ++ drainInto reads []) with
      | some reply =>
        obtain ⟨before, reply, rest⟩ := reply
        dsimp only
        rw [if_pos rfl, mspCutter.seek_append sought]
        exact iff_of_true rfl ⟨rfl, rfl⟩
      | none =>
        dsimp only
        rw [if_neg Bool.false_ne_true, ih, mspCutter.seek_later sought, Option.isSome_map]
        refine ⟨fun both => ⟨rfl, both.2⟩, fun both => ⟨?_, both.2⟩⟩
        by_contra silent
        rw [arrived_silent silent, List.append_nil, mspCutter.seek_none (mspCutter.cut_stops _)] at both
        exact Bool.false_ne_true both.2

end probe

/-! ## The device -/

section sent
variable {sink : MspRcSink} {frames : List Bytes}

/-- What the line has accepted is an initial part of the frames, and all of them exactly while the fd is open. -/
theorem Sent.initial (sent : Sent frames sink) :
    sink.port.accepted <+: frames.flatten ∧ (sink.fdOpen = true ↔ sink.port.accepted = frames.flatten) := by
  unfold Sent at sent
  cases opened : sink.fdOpen with
  | true =>
    rw [opened, if_pos rfl] at sent
    exact ⟨sent ▸ List.prefix_rfl, iff_of_true rfl sent⟩
  | false =>
    rw [opened, if_neg Bool.false_ne_true] at sent
    obtain ⟨whole, next, later, part, rfl, begins, cut, accepted⟩ := sent
    rw [accepted, List.flatten_append, List.flatten_cons]
    refine ⟨(List.prefix_append_right_inj _).2 (begins.trans (List.prefix_append _ _)), ?_⟩
    refine iff_of_false Bool.false_ne_true fun same => cut ?_
    have rest := List.append_cancel_left same
    have length := congrArg List.length rest
    rw [List.length_append] at length
    have short := begins.length_le
    exact begins.eq_of_length (by omega)

theorem writeFrame_opened (opened : sink.fdOpen = true) (outcome : Nat → WriteResult) (buf : Bytes) :
    (sink.writeFrame outcome buf).1 = (sink.writeFrame outcome buf).2.fdOpen := by
  unfold MspRcSink.writeFrame
  rw [if_pos opened]

end sent

/-- A device that `main` goes on with: both requests are out, the first reply came in one of the first rounds, and the
parser has come to behind the second. -/
structure Started (boot tuning : List Round) (device : Device) : Prop where
  accepted : device.sink.port.accepted = apiRequest ++ tuningRequest
  replies : ∃ n ≤ probeRounds, ∃ before reply behind,
    mspCutter.seek (isReply mspApiVersion) (arrived (boot.take n)) = some (before, reply, behind) ∧
      (device.tuningMismatch = false ↔ (tuning.take probeRounds).any Option.isSome = true ∧
        (mspCutter.seek (isReply mspRcTuning) (behind ++ arrived (tuning.take probeRounds))).isSome = true) ∧
      (device.tuningMismatch = false → ∃ m ≤ probeRounds, ∃ skipped answer,
        mspCutter.seek (isReply mspRcTuning) (behind ++ arrived (tuning.take m)) =
            some (skipped, answer, device.sink.rxBuffer) ∧
          device.sink.parseErrors = before.countP Piece.corrupt + skipped.countP Piece.corrupt)

section device
variable {outcome : Nat → WriteResult} {boot tuning : List Round}

theorem probeWait_rounds {cmd : UInt8} {rounds : List Round} {acc behind : Bytes} {parseErrors errors : Nat}
    (found : probeWait cmd (rounds.take probeRounds) acc parseErrors = (true, behind, errors)) :
    ∃ n ≤ probeRounds, ∃ before reply,
      mspCutter.seek (isReply cmd) (acc ++ arrived (rounds.take n)) = some (before, reply, behind) ∧
        errors = parseErrors + before.countP Piece.corrupt := by
  obtain ⟨n, within, before, reply, sought, counted⟩ := probeWait_found found
  have few : n ≤ probeRounds := within.trans (List.length_take_le _ _)
  rw [List.take_take, Nat.min_eq_left few] at sought
  exact ⟨n, few, before, reply, sought, counted⟩

variable (tuning) in
/-- The second probe, on a sink whose first request is out. -/
theorem runTuningProbe_cases {sink : MspRcSink} (sent : Sent [apiRequest] sink) (opened : sink.fdOpen = true)
    (unfailed : sink.bootProbeFailed = false) :
    (sink.runTuningProbe outcome tuning).sink.port.accepted <+: apiRequest ++ tuningRequest ∧
      ((sink.runTuningProbe outcome tuning).sink.ok = true ↔
        (sink.runTuningProbe outcome tuning).sink.port.accepted = apiRequest ++ tuningRequest) ∧
      ((sink.runTuningProbe outcome tuning).sink.ok = true →
        ((sink.runTuningProbe outcome tuning).tuningMismatch = false ↔
          (probeWait mspRcTuning (tuning.take probeRounds) sink.rxBuffer sink.parseErrors).1 = true) ∧
        ((sink.runTuningProbe outcome tuning).sink.rxBuffer, (sink.runTuningProbe outcome tuning).sink.parseErrors) =
          (probeWait mspRcTuning (tuning.take probeRounds) sink.rxBuffer sink.parseErrors).2) := by
  have written := sent.writeFrame outcome tuningRequest
  have success := writeFrame_opened opened outcome tuningRequest
  obtain ⟨port, fdOpen, kept⟩ := writeFrame_keeps outcome tuningRequest sink
  obtain ⟨initial, whole⟩ := written.initial
  have both : ([apiRequest] ++ [tuningRequest]).flatten = apiRequest ++ tuningRequest := rfl
  rw [both] at initial whole
  unfold MspRcSink.runTuningProbe
  dsimp only
  rw [success]
  cases stays : (sink.writeFrame outcome tuningRequest).2.fdOpen with
  | false =>
    rw [stays] at whole
    rw [if_neg Bool.false_ne_true]
    have refused : (sink.writeFrame outcome tuningRequest).2.ok = false := by
      unfold MspRcSink.ok
      rw [stays]
      rfl
    dsimp only
    rw [refused]
    exact ⟨initial, whole, fun ok => absurd ok Bool.false_ne_true⟩
  | true =>
    rw [stays] at whole
    rw [if_pos rfl]
    refine ⟨initial, ?_, fun _ => ?_⟩
    · refine iff_of_true ?_ (whole.1 rfl)
      change (true && !(sink.writeFrame outcome tuningRequest).2.bootProbeFailed) = true
      rw [kept]
      dsimp only
      rw [unfailed]
      rfl
    · dsimp only
      rw [kept]
      refine ⟨?_, rfl⟩
      dsimp only
      rw [Bool.not_eq_false']

theorem before_tuning {accepted : Bytes} (initial : accepted <+: apiRequest) : accepted <+: apiRequest ++ tuningRequest :=
  initial.trans (List.prefix_append _ _)

theorem short_of_tuning {accepted : Bytes} (initial : accepted <+: apiRequest) :
    accepted ≠ apiRequest ++ tuningRequest := by
  intro same
  have short := initial.length_le
  rw [same] at short
  exact absurd short (by decide)

/-- A device whose first probe has failed. -/
theorem refused_device {device : Device} (failed : device.sink.bootProbeFailed = true)
    (initial : device.sink.port.accepted <+: apiRequest) :
    device.sink.port.accepted <+: apiRequest ++ tuningRequest ∧
      (device.sink.ok = true ↔ device.sink.port.accepted = apiRequest ++ tuningRequest) ∧
      (device.sink.ok = true → Started boot tuning device) := by
  have refused : device.sink.ok ≠ true := by
    unfold MspRcSink.ok
    rw [failed, Bool.not_true, Bool.and_false]
    exact Bool.false_ne_true
  exact ⟨before_tuning initial, iff_of_false refused (short_of_tuning initial), fun ok => absurd ok refused⟩

/-- A device whose first probe has found its reply. -/
theorem started_device {sink : MspRcSink} (sent : Sent [apiRequest] sink) (opened : sink.fdOpen = true)
    (unfailed : sink.bootProbeFailed = false) {n : ℕ} (few : n ≤ probeRounds) {before : List Piece} {reply : Piece}
    {behind : Bytes}
    (sought : mspCutter.seek (isReply mspApiVersion) ([] ++ arrived (boot.take n)) = some (before, reply, behind))
    (buffer : sink.rxBuffer = behind) (errors : sink.parseErrors = before.countP Piece.corrupt) :
    (sink.runTuningProbe outcome tuning).sink.port.accepted <+: apiRequest ++ tuningRequest ∧
      ((sink.runTuningProbe outcome tuning).sink.ok = true ↔
        (sink.runTuningProbe outcome tuning).sink.port.accepted = apiRequest ++ tuningRequest) ∧
      ((sink.runTuningProbe outcome tuning).sink.ok = true →
        Started boot tuning (sink.runTuningProbe outcome tuning)) := by
  obtain ⟨initial, whole, answers⟩ := runTuningProbe_cases tuning sent opened unfailed
  refine ⟨initial, whole, fun ok => ⟨whole.1 ok, n, few, before, reply, behind, sought, ?_, ?_⟩⟩
  · rw [(answers ok).1, probeWait_iff, buffer]
  · intro confirmed
    obtain ⟨mismatch, left⟩ := answers ok
    have found := mismatch.1 confirmed
    have own : probeWait mspRcTuning (tuning.take probeRounds) sink.rxBuffer sink.parseErrors =
        (true, (sink.runTuningProbe outcome tuning).sink.rxBuffer, (sink.runTuningProbe outcome tuning).sink.parseErrors) :=
      Prod.ext found left.symm
    rw [buffer, errors] at own
    obtain ⟨m, within, skipped, answer, later, counted⟩ := probeWait_rounds own
    exact ⟨m, within, skipped, answer, later, counted⟩

/-- `main` goes on with a device exactly when both requests have gone out as a whole, and then both replies can be
accounted for. -/
theorem fromDevice_cases (outcome : Nat → WriteResult) (boot tuning : List Round) :
    (MspRcSink.fromDevice outcome boot tuning).sink.port.accepted <+: apiRequest ++ tuningRequest ∧
      ((MspRcSink.fromDevice outcome boot tuning).sink.ok = true ↔
        (MspRcSink.fromDevice outcome boot tuning).sink.port.accepted = apiRequest ++ tuningRequest) ∧
      ((MspRcSink.fromDevice outcome boot tuning).sink.ok = true →
        Started boot tuning (MspRcSink.fromDevice outcome boot tuning)) := by
  have fresh : Sent [] ({} : MspRcSink) := rfl
  have written : Sent [apiRequest] (MspRcSink.writeFrame outcome apiRequest {}).2 :=
    fresh.writeFrame outcome apiRequest
  have success := writeFrame_opened (rfl : ({} : MspRcSink).fdOpen = true) outcome apiRequest
  have initial : (MspRcSink.writeFrame outcome apiRequest {}).2.port.accepted <+: apiRequest := by
    rw [← List.append_nil apiRequest]
    exact written.initial.1
  unfold MspRcSink.fromDevice MspRcSink.runBootProbe
  dsimp only
  rw [success]
  cases stays : (MspRcSink.writeFrame outcome apiRequest {}).2.fdOpen with
  | false =>
    rw [if_neg Bool.false_ne_true]
    dsimp only
    rw [if_neg Bool.false_ne_true]
    exact refused_device rfl initial
  | true =>
    obtain ⟨port, fdOpen, kept⟩ := writeFrame_keeps outcome apiRequest {}
    have empty : (MspRcSink.writeFrame outcome apiRequest {}).2.rxBuffer = [] := by rw [kept]
    have none : (MspRcSink.writeFrame outcome apiRequest {}).2.parseErrors = 0 := by rw [kept]
    rw [if_pos rfl, empty, none]
    cases probed : probeWait mspApiVersion (boot.take probeRounds) [] 0 with
    | mk found rest =>
      obtain ⟨behind, errors⟩ := rest
      dsimp only
      cases found with
      | false =>
        rw [if_neg Bool.false_ne_true]
        exact refused_device rfl initial
      | true =>
        rw [if_pos rfl]
        obtain ⟨n, few, before, reply, sought, counted⟩ := probeWait_rounds probed
        refine started_device ?_ ?_ ?_ few sought ?_ ?_
        · unfold Sent at written ⊢
          rw [stays] at written
          exact written
        · rfl
        · rfl
        · rfl
        · exact counted.trans (Nat.zero_add _)

end device

section process
variable [Fpu] [Libc]

/-- What a process keeps of the second probe. -/
structure Gated (tuningMismatch : Bool) (p : FcProcess) : Prop where
  mismatch : p.tuningMismatch = tuningMismatch
  gate : p.loop.GateInv tuningMismatch

theorem Gated.step {tuningMismatch : Bool} (p : FcProcess) (event : Event) (gated : Gated tuningMismatch p) :
    Gated tuningMismatch (p.step event) := by
  obtain ⟨rfl, gate⟩ := gated
  cases event with
  | reception frame => exact ⟨rfl, gate⟩
  | tick now late ageNow sinkOk => exact ⟨rfl, MainLoop.gateInv_step gate⟩

/-- In a process whose rate profile was not confirmed no run comes to Tracking or Takeoff. -/
theorem needsMsp_confirmed (hover : HoverEnv) (tuningMismatch : Bool) (start : ℤ) (events : List Event)
    (needs : needsMsp (events.foldl FcProcess.step (bootProcess hover tuningMismatch start)).loop.controller.controlMode =
      true) : tuningMismatch = false := by
  have booted : Gated tuningMismatch (bootProcess hover tuningMismatch start) := by
    refine ⟨rfl, fun landing => ?_⟩
    rw [show (bootProcess hover tuningMismatch start).loop = boot hover from rfl, boot_controlMode] at landing
    exact absurd landing (by decide)
  have gated := foldl_invariant (Gated tuningMismatch) Gated.step _ events booted
  exact (gated.gate needs).2.1

/-- Whatever the line takes and brings in the rounds of the two probes: it accepts an initial part of the two requests;
`main` goes on exactly when it accepts both as a whole, and then each reply can be named, with the first piece behind it
as the next that the parser looks at; and the process that `main` starts comes to Tracking or Takeoff only if the second
reply is there. -/
theorem probed_process (outcome : Nat → WriteResult) (boot tuning : List Round) (hover : HoverEnv) (start : ℤ)
    (events : List Event) :
    let device := MspRcSink.fromDevice outcome boot tuning
    device.sink.port.accepted <+: apiRequest ++ tuningRequest ∧
      (device.sink.ok = true ↔ device.sink.port.accepted = apiRequest ++ tuningRequest) ∧
      (device.sink.ok = true → Started boot tuning device) ∧
      (needsMsp
          (events.foldl FcProcess.step (bootProcess hover device.tuningMismatch start)).loop.controller.controlMode = true →
        device.tuningMismatch = false) := by
  intro device
  obtain ⟨initial, whole, started⟩ := fromDevice_cases outcome boot tuning
  exact ⟨initial, whole, started, needsMsp_confirmed hover device.tuningMismatch start events⟩

end process
end AotDrone.Fc.Msp
