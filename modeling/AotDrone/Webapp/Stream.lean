import AotDrone.Lib.EventLoop
import AotDrone.Webapp.Updates

/-! The stream side of `App.tsx`: envelopes are collected into a batch, and an animation frame hands the batch to the
reducer. With `historyBuffer.ts`. `Date.now` gives whole milliseconds. -/

namespace AotDrone.Webapp
open AotDrone.Lib AotDrone.Lib.Double AotDrone.Lib.EventLoop AotDrone.Json

inductive OverlaySource where
  | vis
  | tel
  deriving DecidableEq, Repr

inductive WarningSeverity where
  | info
  | warn
  | error
  deriving DecidableEq, Repr

def WarningSeverity.name : WarningSeverity → String
  | info => "info"
  | warn => "warn"
  | error => "error"

def readSeverity (value : Option Value) : Option WarningSeverity :=
  (readString value).bind fun s => [.info, .warn, .error].find? fun severity => decide (pyStr severity.name = s)

structure WarningPayload where
  kind : PyStr
  detail : PyStr
  severity : WarningSeverity

structure WarningEntry extends WarningPayload where
  receivedAtMs : ℤ
  envelopeSeq : Double

def asWarningPayload (value : Value) : Option WarningPayload := do
  let record ← asRecord value
  let kind ← readString (property record "kind")
  let detail ← readString (property record "detail")
  let severity ← readSeverity (property record "severity")
  some { kind, detail, severity }

/-! ## `historyBuffer.ts` -/

def defaultHistoryLimit : Double := 60

def sanitizeLimit (limit : Double) : ℕ :=
  if ¬ limit.isFinite ∨ limit < 1 then (truncate defaultHistoryLimit).toNat else (truncate limit).toNat

def sanitizeSample (sample : Double) : Double := if sample.isFinite then sample else 0

def pushHistorySample (history : List Double) (sample limit : Double) : List Double :=
  let next := if sanitizeLimit limit ≤ history.length then history.drop 1 else history
  next ++ [sanitizeSample sample]

/-! ## The reducer -/

def maxWarningEvents : ℕ := 120

/-- What the stream writes of the state. -/
structure StreamState where
  wsConnected : Bool := false
  lastWsMessageAtMs : Option ℤ := none
  linkStatus : Option LinkStatus := none
  linkUpdatedAtMs : Option ℤ := none
  linkEnvelopeTimestamp : Option Double := none
  latestTel : Option TelUpdate := none
  latestVis : Option VisUpdate := none
  warnings : List WarningEntry := []
  confidenceHistory : List Double := []
  ageHistory : List Double := []
  schemaMismatchDetail : Option String := none
  wsConsecutiveErrors : ℕ := 0

structure PendingStreamBatch where
  linkStatus : Option LinkStatus := none
  linkUpdatedAtMs : Option ℤ := none
  linkEnvelopeTimestamp : Option Double := none
  latestTel : Option TelUpdate := none
  latestVis : Option VisUpdate := none
  overlayConfidenceSample : Option Double := none
  overlayAgeSample : Option Double := none
  lastMessageAtMs : Option ℤ := none

inductive StreamAction where
  | wsConnectionChanged (connected : Bool)
  | streamBatch (batch : PendingStreamBatch)
  | warningReceived (warning : WarningEntry) (receivedAtMs : ℤ)
  | clearWarnings
  | schemaMismatchDetected (detail : String)
  | wsTransportError (consecutiveErrors : ℕ)
  | wsTransportRecovered

namespace StreamState
variable (state : StreamState)

def reduceBatch (batch : PendingStreamBatch) : StreamState :=
  let state :=
    match batch.linkStatus with
    | none => state
    | some linkStatus =>
      { state with
        linkStatus := some linkStatus
        linkUpdatedAtMs := batch.linkUpdatedAtMs <|> state.linkUpdatedAtMs
        linkEnvelopeTimestamp := batch.linkEnvelopeTimestamp <|> state.linkEnvelopeTimestamp }
  { state with
    lastWsMessageAtMs := batch.lastMessageAtMs
    latestTel := batch.latestTel <|> state.latestTel
    latestVis := batch.latestVis <|> state.latestVis
    confidenceHistory :=
      batch.overlayConfidenceSample.elim state.confidenceHistory
        (pushHistorySample state.confidenceHistory · defaultHistoryLimit)
    ageHistory :=
      batch.overlayAgeSample.elim state.ageHistory (pushHistorySample state.ageHistory · defaultHistoryLimit) }

def reducer : StreamAction → StreamState
  | .wsConnectionChanged connected => { state with wsConnected := connected }
  | .streamBatch batch => state.reduceBatch batch
  | .warningReceived warning receivedAtMs =>
    { state with
      lastWsMessageAtMs := some receivedAtMs
      warnings := (warning :: state.warnings).take maxWarningEvents }
  | .clearWarnings => { state with warnings := [] }
  | .schemaMismatchDetected detail =>
    if state.schemaMismatchDetail.isSome then state else { state with schemaMismatchDetail := some detail }
  | .wsTransportError consecutiveErrors => { state with wsConsecutiveErrors := consecutiveErrors }
  | .wsTransportRecovered => { state with wsConsecutiveErrors := 0 }

end StreamState

/-! ## Envelopes and animation frames -/

/-- `readNumber` of a field that a reader of `types.ts` has filled. -/
def readField (field : Option Double) : Option Double := readNumber (field.map Value.float)

def normalizeConfidenceSample : Option Double → Double
  | none => 0
  | some value => if value < 0 then 0 else if 1 < value then 1 else value

def normalizeAgeSample : Option Double → Double
  | none => 0
  | some value => if value < 0 then 0 else value

/-- The component, with the callbacks that the browser runs before its next repaint. -/
structure Dashboard where
  overlaySource : OverlaySource
  state : StreamState := {}
  pendingBatch : PendingStreamBatch := {}
  frameId : Option ℕ := none
  frames : Loop Unit Unit := .idle

inductive DashboardEvent where
  | parsedEnvelope (envelope : WsEnvelope) (receivedAtMs : ℤ)
  /-- The browser runs an animation frame callback, if it still waits. -/
  | animationFrame (id : ℕ)
  | connectionChange (connected : Bool)
  | transportEvent (consecutiveErrors : ℕ)
  | clearWarnings
  /-- The effect that owns the WebSocket client is cleaned up, to be run again or not. -/
  | cleanup

namespace Dashboard
variable (dashboard : Dashboard)

def dispatch (action : StreamAction) : Dashboard := { dashboard with state := dashboard.state.reducer action }

def flushPendingBatch : Dashboard :=
  let dashboard := { dashboard with frameId := none }
  if dashboard.pendingBatch.lastMessageAtMs.isNone then dashboard
  else { dashboard.dispatch (.streamBatch dashboard.pendingBatch) with pendingBatch := {} }

def scheduleFlush : Dashboard :=
  if dashboard.frameId.isSome then dashboard
  else
    { dashboard with
      frameId := some dashboard.frames.made.length
      frames := dashboard.frames.setTimeout () () }

/-- What an envelope adds to the batch. -/
def collect (batch : PendingStreamBatch) (envelope : WsEnvelope) (receivedAtMs : ℤ) (overlaySource : OverlaySource) :
    PendingStreamBatch × Option String :=
  let batch := { batch with lastMessageAtMs := some receivedAtMs }
  match envelope.event with
  | .linkStatus =>
    match asLinkStatus (.obj envelope.data) with
    | none => (batch, none)
    | some linkStatus =>
      ({ batch with
          linkStatus := some linkStatus
          linkUpdatedAtMs := some receivedAtMs
          linkEnvelopeTimestamp := some envelope.timestamp },
        none)
  | .telUpdate =>
    let parsed := parseTelUpdate (.obj envelope.data)
    match parsed.value with
    | none => (batch, parsed.mismatch)
    | some latestTel =>
      let batch := { batch with latestTel := some latestTel }
      (if overlaySource = .tel then
          { batch with
            overlayConfidenceSample := some (normalizeConfidenceSample (readField latestTel.confidence))
            overlayAgeSample := some (normalizeAgeSample (readField latestTel.telAge)) }
        else batch,
        parsed.mismatch)
  | .visUpdate =>
    let parsed := parseVisUpdate (.obj envelope.data)
    match parsed.value with
    | none => (batch, parsed.mismatch)
    | some latestVis =>
      let batch := { batch with latestVis := some latestVis }
      (if overlaySource = .vis then
          { batch with
            overlayConfidenceSample := some (normalizeConfidenceSample (readField latestVis.confidence))
            overlayAgeSample := some (normalizeAgeSample (readField latestVis.visAge)) }
        else batch,
        parsed.mismatch)
  | .warning => (batch, none)

def handleParsedEnvelope (envelope : WsEnvelope) (receivedAtMs : ℤ) : Dashboard :=
  if envelope.event = .warning then
    match asWarningPayload (.obj envelope.data) with
    | none => dashboard
    | some payload =>
      dashboard.dispatch
        (.warningReceived { toWarningPayload := payload, receivedAtMs, envelopeSeq := envelope.seq } receivedAtMs)
  else
    let collected := collect dashboard.pendingBatch envelope receivedAtMs dashboard.overlaySource
    let dashboard := { dashboard with pendingBatch := collected.1 }
    (collected.2.elim dashboard fun detail => dashboard.dispatch (.schemaMismatchDetected detail)).scheduleFlush

def onConnectionChange (connected : Bool) : Dashboard :=
  let dashboard := dashboard.dispatch (.wsConnectionChanged connected)
  if connected then dashboard.dispatch .wsTransportRecovered else dashboard

/-- The frame is cancelled, but `frameIdRef` keeps its number. -/
def cleanup : Dashboard :=
  { dashboard with
    frames := dashboard.frameId.elim dashboard.frames dashboard.frames.clearTimeout
    pendingBatch := {} }

def runFrame (id : ℕ) : Dashboard :=
  match dashboard.frames.timer? id with
  | none => dashboard
  | some _ => { dashboard with frames := dashboard.frames.clearTimeout id }.flushPendingBatch

def step : DashboardEvent → Dashboard
  | .parsedEnvelope envelope receivedAtMs => dashboard.handleParsedEnvelope envelope receivedAtMs
  | .animationFrame id => dashboard.runFrame id
  | .connectionChange connected => dashboard.onConnectionChange connected
  | .transportEvent consecutiveErrors => dashboard.dispatch (.wsTransportError consecutiveErrors)
  | .clearWarnings => dashboard.dispatch .clearWarnings
  | .cleanup => dashboard.cleanup

def run (overlaySource : OverlaySource) (events : List DashboardEvent) : Dashboard :=
  events.foldl step { overlaySource }

end Dashboard
end AotDrone.Webapp
