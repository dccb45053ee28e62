import AotDrone.Backend.SchemaContract
import AotDrone.Json.Reader
import AotDrone.Lib.Run

/-! The two datagram ingestors (`tel_ingest.py`, `vis_ingest.py`), which run the same code on
their own stream. -/

namespace AotDrone.Backend
open AotDrone.Lib AotDrone.Lib.Double AotDrone.Lib.Run AotDrone.Json

/-- An exception that leaves `process_datagram`; `serve_forever` does not catch it either. -/
inductive Escaped where
  | recursionError
  | overflowError
  | unsupportedReason (reason : DropReason)
  deriving DecidableEq

/-- What an ingestor is made with, and the recursion limit of its interpreter. -/
structure IngestConfig where
  telMaxBytes : Nat := 1024
  visMaxBytes : Nat := 512
  recursionLimit : Nat := 1000

/-- What sets one stream apart: its validator, the reasons its drop counters know, and the fields
that are copied beside the message. -/
structure StreamKind (msg : Type) where
  validate : Value → Except Raised msg
  reasons : List DropReason
  seq : msg → ℤ
  timestamp : msg → Double
  reasons_nodup : reasons.Nodup
  oversize_mem : .oversize ∈ reasons
  json_mem : .json ∈ reasons
  supported : ∀ payload, Supported reasons (validate payload)

section ingest
variable [Fpu]

def telKind : StreamKind TelMessage where
  validate := validateTelMessage
  reasons := telDropReasons
  seq := TelMessage.seq
  timestamp := TelMessage.timestamp
  reasons_nodup := by decide
  oversize_mem := by decide
  json_mem := by decide
  supported := validateTelMessage_supported

def visKind : StreamKind VisMessage where
  validate := validateVisMessage
  reasons := visDropReasons
  seq := VisMessage.seq
  timestamp := VisMessage.timestamp
  reasons_nodup := by decide
  oversize_mem := by decide
  json_mem := by decide
  supported := validateVisMessage_supported

namespace StreamKind
variable {msg : Type} (kind : StreamKind msg)

omit [Fpu] in
def drop (stream : Stream msg) (reason : DropReason) : Stream msg × Except Escaped Bool :=
  match stream.recordDrop kind.reasons reason with
  | .ok stream => (stream, .ok false)
  | .error (.unsupportedReason reason) => (stream, .error (.unsupportedReason reason))

/-- One call of `process_datagram`: the stream it leaves, and what it returns or raises. -/
def processDatagram (maxBytes recursionLimit : Nat) (stream : Stream msg) (data : Bytes) (rxMonotonic : Double) :
    Stream msg × Except Escaped Bool :=
  let stream := stream.recordRxTotal
  if maxBytes < data.length then kind.drop stream .oversize
  else
    match decodeUtf8 data with
    | none => kind.drop stream .json
    | some decoded =>
      match loads recursionLimit decoded with
      | .error .decodeError => kind.drop stream .json
      | .error .recursionError | .error .fuel => (stream, .error .recursionError)
      | .ok payload =>
        match kind.validate payload with
        | .error (.validation reason _) => kind.drop stream reason
        | .error .overflowError => (stream, .error .overflowError)
        | .ok validated =>
          (stream.recordOk validated (kind.seq validated) (kind.timestamp validated) rxMonotonic, .ok true)

/-- The datagram is read as far as JSON nested beyond the recursion limit, or as far as a payload
whose validation overflows. -/
def Escapes (overflows : Value → Prop) (maxBytes recursionLimit : Nat) (data : Bytes) : Prop :=
  data.length ≤ maxBytes ∧ ∃ decoded, decodeUtf8 data = some decoded ∧
    (loads recursionLimit decoded = .error .recursionError ∨
      ∃ payload, loads recursionLimit decoded = .ok payload ∧ overflows payload)

end StreamKind

end ingest

/-! ## Counters -/

namespace Stream
variable {msg : Type}

/-- Every datagram is counted once, and every drop under its reason. -/
def Counted (reasons : List DropReason) (stream : Stream msg) : Prop :=
  stream.rxTotal = stream.rxOk + stream.rxBad ∧ stream.rxBad = (reasons.map stream.dropReason).sum

/-- The two streams hold the same message and the same facts about it. -/
def SameLatest (before after : Stream msg) : Prop :=
  after.latest = before.latest ∧ after.seq = before.seq ∧ after.lastSeq = before.lastSeq ∧
    after.lastTimestamp = before.lastTimestamp ∧ after.lastRxMonotonic = before.lastRxMonotonic

theorem sum_bump {reasons : List DropReason} (nodup : reasons.Nodup) {reason : DropReason}
    (member : reason ∈ reasons) (count : DropReason → Nat) :
    (reasons.map fun r => if r = reason then count r + 1 else count r).sum = (reasons.map count).sum + 1 := by
  induction reasons with
  | nil => cases member
  | cons first rest ih =>
    obtain ⟨notMem, nodup⟩ := List.nodup_cons.1 nodup
    simp only [List.map_cons, List.sum_cons]
    rcases List.mem_cons.1 member with rfl | member
    · have same : (rest.map fun r => if r = reason then count r + 1 else count r) = rest.map count := by
        apply List.map_congr_left
        intro r inRest
        exact if_neg (by rintro rfl; exact notMem inRest)
      rw [same, if_pos rfl]
      omega
    · have other : first ≠ reason := by
        rintro rfl
        exact notMem member
      rw [ih nodup member, if_neg other]
      omega

/-- A supported drop counts once in all and once under its reason. -/
theorem recordDrop_spec {supported : List DropReason} (nodup : supported.Nodup) {reason : DropReason}
    (member : reason ∈ supported) (stream : Stream msg) :
    ∃ after, stream.recordDrop supported reason = .ok after ∧ after.rxTotal = stream.rxTotal ∧
      after.rxOk = stream.rxOk ∧ after.rxBad = stream.rxBad + 1 ∧
      (supported.map after.dropReason).sum = (supported.map stream.dropReason).sum + 1 ∧
      SameLatest stream after :=
  ⟨_, if_pos member, rfl, rfl, rfl, sum_bump nodup member stream.dropReason, rfl, rfl, rfl, rfl, rfl⟩

end Stream

namespace StreamKind
variable {msg : Type} (kind : StreamKind msg)

/-- The call returns, the counters still add up, and a refused datagram leaves the latest message
and what is known of it alone. -/
def Settles (stream : Stream msg) (result : Stream msg × Except Escaped Bool) : Prop :=
  (∃ stored, result.2 = .ok stored) ∧ result.1.Counted kind.reasons ∧
    (result.2 = .ok false → stream.SameLatest result.1)

theorem drop_settles {reason : DropReason} (member : reason ∈ kind.reasons) {stream : Stream msg}
    (counted : stream.Counted kind.reasons) : kind.Settles stream (kind.drop stream.recordRxTotal reason) := by
  obtain ⟨total, bad⟩ := counted
  obtain ⟨after, dropped, total', ok', bad', sum', same⟩ :=
    Stream.recordDrop_spec kind.reasons_nodup member stream.recordRxTotal
  unfold drop
  rw [dropped]
  refine ⟨⟨false, rfl⟩, ⟨?_, ?_⟩, ?_⟩
  · change after.rxTotal = after.rxOk + after.rxBad
    rw [total', ok', bad']
    change stream.rxTotal + 1 = stream.rxOk + (stream.rxBad + 1)
    omega
  · change after.rxBad = _
    rw [sum', bad']
    exact congrArg (· + 1) bad
  · intro _
    exact same

variable [Fpu]

/-- A call settles exactly when the datagram lets no exception escape. -/
theorem processDatagram_settles_iff {overflows : Value → Prop}
    (overflow_iff : ∀ payload, kind.validate payload = .error .overflowError ↔ overflows payload)
    (maxBytes recursionLimit : Nat) {stream : Stream msg} (counted : stream.Counted kind.reasons)
    (data : Bytes) (rxMonotonic : Double) :
    kind.Settles stream (kind.processDatagram maxBytes recursionLimit stream data rxMonotonic) ↔
      ¬ Escapes overflows maxBytes recursionLimit data := by
  have raises : ∀ {after : Stream msg} {e : Escaped}, ¬ kind.Settles stream (after, .error e) := by
    rintro after e ⟨⟨_, returned⟩, _⟩
    cases returned
  unfold processDatagram Escapes
  dsimp only
  by_cases oversize : maxBytes < data.length
  · rw [if_pos oversize]
    exact iff_of_true (kind.drop_settles kind.oversize_mem counted) fun escapes => by omega
  rw [if_neg oversize]
  cases decode : decodeUtf8 data with
  | none => exact iff_of_true (kind.drop_settles kind.json_mem counted) (by simp)
  | some decoded =>
    simp only [not_lt.1 oversize, Option.some.injEq, true_and, exists_eq_left']
    cases load : loads recursionLimit decoded with
    | error e =>
      cases e with
      | decodeError => exact iff_of_true (kind.drop_settles kind.json_mem counted) (by simp)
      | recursionError => exact iff_of_false raises (by simp)
      | fuel => exact absurd load (Dialect.read_ne_fuel .python recursionLimit decoded)
    | ok payload =>
      simp only [reduceCtorEq, Except.ok.injEq, exists_eq_left', false_or, ← overflow_iff]
      cases validated : kind.validate payload with
      | error raised =>
        cases raised with
        | overflowError => exact iff_of_false raises (by simp)
        | validation reason detail =>
          have member := kind.supported payload reason detail validated
          exact iff_of_true (kind.drop_settles member counted) (by simp)
      | ok message =>
        refine iff_of_true ⟨⟨true, rfl⟩, ⟨?_, counted.2⟩, ?_⟩ (by simp)
        · have total := counted.1
          change stream.rxTotal + 1 = stream.rxOk + 1 + stream.rxBad
          omega
        · intro refused
          cases refused

omit [Fpu] in
theorem drop_latest (stream : Stream msg) (reason : DropReason) :
    (kind.drop stream reason).2 ≠ .ok true ∧ stream.SameLatest (kind.drop stream reason).1 := by
  unfold drop Stream.recordDrop
  split_ifs
  · exact ⟨by simp, rfl, rfl, rfl, rfl, rfl⟩
  · exact ⟨by simp, rfl, rfl, rfl, rfl, rfl⟩

/-- A datagram stores what the validator returned for its JSON, or leaves the latest message alone. -/
theorem processDatagram_cases (maxBytes recursionLimit : Nat) (stream : Stream msg) (data : Bytes)
    (rxMonotonic : Double) :
    (∃ decoded payload message, decoded.length ≤ maxBytes ∧ loads recursionLimit decoded = .ok payload ∧
        kind.validate payload = .ok message ∧ kind.processDatagram maxBytes recursionLimit stream data rxMonotonic =
          (stream.recordRxTotal.recordOk message (kind.seq message) (kind.timestamp message) rxMonotonic, .ok true)) ∨
      (kind.processDatagram maxBytes recursionLimit stream data rxMonotonic).2 ≠ .ok true ∧
        stream.SameLatest (kind.processDatagram maxBytes recursionLimit stream data rxMonotonic).1 := by
  have counted {e : Escaped} :
      ((stream.recordRxTotal, .error e) : Stream msg × Except Escaped Bool).2 ≠ .ok true ∧
        stream.SameLatest stream.recordRxTotal := ⟨by simp, rfl, rfl, rfl, rfl, rfl⟩
  unfold processDatagram
  dsimp only
  by_cases oversize : maxBytes < data.length
  · rw [if_pos oversize]
    exact .inr (kind.drop_latest stream.recordRxTotal .oversize)
  rw [if_neg oversize]
  cases decode : decodeUtf8 data with
  | none => exact .inr (kind.drop_latest stream.recordRxTotal .json)
  | some decoded =>
    dsimp only
    cases load : loads recursionLimit decoded with
    | error e =>
      cases e with
      | decodeError => exact .inr (kind.drop_latest stream.recordRxTotal .json)
      | recursionError | fuel => exact .inr counted
    | ok payload =>
      dsimp only
      cases validated : kind.validate payload with
      | error raised =>
        cases raised with
        | validation reason detail => exact .inr (kind.drop_latest stream.recordRxTotal reason)
        | overflowError => exact .inr counted
      | ok message =>
        have short := (length_decodeUtf8 decode).trans (not_lt.1 oversize)
        exact .inl ⟨decoded, payload, message, short, load, validated, rfl⟩

/-- What a datagram stores is what the validator returned for its JSON. -/
theorem processDatagram_stored {maxBytes recursionLimit : Nat} {stream : Stream msg} {data : Bytes}
    {rxMonotonic : Double}
    (returned : (kind.processDatagram maxBytes recursionLimit stream data rxMonotonic).2 = .ok true) :
    ∃ decoded payload message, decoded.length ≤ maxBytes ∧ loads recursionLimit decoded = .ok payload ∧
      kind.validate payload = .ok message ∧ (kind.processDatagram maxBytes recursionLimit stream data rxMonotonic).1.latest = some message := by
  rcases kind.processDatagram_cases maxBytes recursionLimit stream data rxMonotonic with
    ⟨decoded, payload, message, short, loaded, validated, same⟩ | ⟨refused, -⟩
  · exact ⟨decoded, payload, message, short, loaded, validated, by rw [same]; rfl⟩
  · exact absurd returned refused

end StreamKind

/-! ## Runs -/

/-- A datagram for one of the ingestors, with its time of receipt. -/
inductive Datagram where
  | tel (data : Bytes) (rxMonotonic : Double)
  | vis (data : Bytes) (rxMonotonic : Double)

section runs
variable [Fpu] (config : IngestConfig)

def ingest (state : SharedState) : Datagram → SharedState × Except Escaped Bool
  | .tel data rxMonotonic =>
    let (tel, result) := telKind.processDatagram config.telMaxBytes config.recursionLimit state.tel data rxMonotonic
    ({ state with tel }, result)
  | .vis data rxMonotonic =>
    let (vis, result) := visKind.processDatagram config.visMaxBytes config.recursionLimit state.vis data rxMonotonic
    ({ state with vis }, result)

def SharedState.ingested (state : SharedState) (datagram : Datagram) : SharedState := (ingest config state datagram).1

/-- One call keeps the promises of ingest: it returns, both streams add up, and a refused datagram
leaves the latest messages alone. -/
def IngestKeeps (_ : Past SharedState Datagram) (state : SharedState) (datagram : Datagram) : Prop :=
  (∃ stored, (ingest config state datagram).2 = .ok stored) ∧
    (ingest config state datagram).1.tel.Counted telDropReasons ∧
    (ingest config state datagram).1.vis.Counted visDropReasons ∧
    ((ingest config state datagram).2 = .ok false →
      state.tel.SameLatest (ingest config state datagram).1.tel ∧
        state.vis.SameLatest (ingest config state datagram).1.vis)

/-- The datagram nests beyond the recursion limit, or carries an integer too large for a double in
a field its validator converts. -/
def DatagramEscapes : Datagram → Prop
  | .tel data _ => StreamKind.Escapes TelOverflows config.telMaxBytes config.recursionLimit data
  | .vis data _ => StreamKind.Escapes VisOverflows config.visMaxBytes config.recursionLimit data

def SharedState.Counted (state : SharedState) : Prop :=
  state.tel.Counted telDropReasons ∧ state.vis.Counted visDropReasons

variable {config}

theorem ingestKeeps_iff (past : Past SharedState Datagram) {state : SharedState} (counted : state.Counted)
    (datagram : Datagram) : IngestKeeps config past state datagram ↔ ¬ DatagramEscapes config datagram := by
  cases datagram with
  | tel data rxMonotonic =>
    rw [DatagramEscapes, ← telKind.processDatagram_settles_iff (fun _ => validateTelMessage_overflow_iff)
      config.telMaxBytes config.recursionLimit counted.1 data rxMonotonic]
    constructor
    · rintro ⟨returns, tel, _, same⟩
      exact ⟨returns, tel, fun refused => (same refused).1⟩
    · rintro ⟨returns, tel, same⟩
      exact ⟨returns, tel, counted.2, fun refused => ⟨same refused, rfl, rfl, rfl, rfl, rfl⟩⟩
  | vis data rxMonotonic =>
    rw [DatagramEscapes, ← visKind.processDatagram_settles_iff (fun _ => validateVisMessage_overflow_iff)
      config.visMaxBytes config.recursionLimit counted.2 data rxMonotonic]
    constructor
    · rintro ⟨returns, _, vis, same⟩
      exact ⟨returns, vis, fun refused => (same refused).2⟩
    · rintro ⟨returns, vis, same⟩
      exact ⟨returns, counted.1, vis, fun refused => ⟨⟨rfl, rfl, rfl, rfl, rfl⟩, same refused⟩⟩

/-- Ingest keeps its promises along exactly the sequences of datagrams of which none lets an
exception escape. -/
theorem ingest_always_iff (cmdNextSeq : ℤ) (datagrams : List Datagram) :
    Always (SharedState.ingested config) (IngestKeeps config) [] { cmdNextSeq } datagrams ↔
      ∀ datagram ∈ datagrams, ¬ DatagramEscapes config datagram := by
  rw [← Always.iff_forall (fun datagram => ¬ DatagramEscapes config datagram) []]
  apply Always.iff_of_invariant (fun _ state => state.Counted) (D := fun _ _ _ => True)
  · intro past state datagram counted _
    exact ingestKeeps_iff past counted datagram
  · intro past state datagram counted _ safe
    obtain ⟨_, tel, vis, _⟩ := (ingestKeeps_iff past counted datagram).2 safe
    exact ⟨tel, vis⟩
  · exact ⟨⟨rfl, rfl⟩, rfl, rfl⟩
  · exact Always.true _ _ _

end runs

section hardware
attribute [local instance] Binary64.binary64

def bytes (text : Text) : Bytes := text.map fun c => UInt8.ofNat c.toNat

/-- A VIS datagram whose timestamp is a one with `zeros` zeros. -/
def visDatagram (zeros : Nat) : Bytes :=
  bytes ("\x7b\"type\":\"VIS\",\"seq\":1,\"timestamp_s\":1".toList ++ List.replicate zeros '0' ++
    ",\"tracking_state\":3,\"loc_x\":0,\"loc_y\":0,\"bound_w\":0,\"bound_h\":0,\"confidence\":0\x7d".toList)

theorem huge_timestamp_escapes :
    (visDatagram 309).length ≤ 512 ∧
      ¬ Always (SharedState.ingested {}) (IngestKeeps {}) [] { cmdNextSeq := 0 } [.vis (visDatagram 309) 0] := by
  have raised : (ingest {} { cmdNextSeq := 0 } (.vis (visDatagram 309) 0)).2 = .error .overflowError := by
    decide +kernel
  refine ⟨by decide +kernel, ?_⟩
  rintro ⟨⟨⟨_, returned⟩, _⟩, _⟩
  rw [raised] at returned
  cases returned

end hardware
end AotDrone.Backend
