import AotDrone.Lib.Run
import AotDrone.Webapp.Envelope

/-! `ReconnectingWsClient` of `ws.ts`, with the sockets, timers and promises it has made. -/

namespace AotDrone.Webapp
open AotDrone.Lib AotDrone.Lib.Double AotDrone.Lib.Run AotDrone.Json

/-- The data of a message. The text of a Blob arrives later, or not at all. -/
inductive MessageData where
  | text (text : PyStr)
  | blob (text : Option PyStr)
  | other

inductive SocketEvent where
  | opened
  | message (data : MessageData)
  | error
  | closed (code : Option ℤ)

/-- A WebSocket: whether it is neither closing nor closed, whether it still has its handlers, and what it has told. -/
structure Socket where
  live : Bool := true
  attached : Bool := true
  opened : Bool := false
  failed : Bool := false
  closed : Bool := false
  /-- How often its events have raised `consecutiveErrors`. -/
  raised : Nat := 0
  deriving DecidableEq

def Socket.fresh : Socket := {}

/-- A timer of `setTimeout`. No two have the same number. -/
structure Timer where
  number : Nat
  delayMs : Double
  deriving DecidableEq

inductive TransportEventKind where
  | error
  | abnormalClose
  deriving DecidableEq, Repr

inductive Callback where
  | onEnvelope (envelope : WsEnvelope)
  | onConnectionChange (connected : Bool)
  | onTransportEvent (kind : TransportEventKind) (code : Option ℤ) (consecutiveErrors : Nat)

structure ReconnectingWsClient where
  ws : Option Nat := none
  reconnectTimer : Option Timer := none
  reconnectDelayMs : Double
  active : Bool := false
  connected : Bool := false
  heartbeatTimeoutMs : Double
  heartbeatTimer : Option Timer := none
  consecutiveErrors : Nat := 0
  errorAlreadyCounted : Bool := false
  /-- The sockets opened so far, by number. -/
  sockets : List Socket := []
  timersSet : Nat := 0
  /-- The promises of `Blob.text()` that have not settled. -/
  blobs : List (Option PyStr) := []
  /-- The callbacks that have run. -/
  calls : List Callback := []

structure ReconnectingWsClientOptions where
  minBackoffMs : Double := 500
  maxBackoffMs : Double := 15000
  heartbeatTimeoutMs : Double := 1000

inductive ClientEvent where
  | start
  | stop
  | setHeartbeatTimeoutMs (timeoutMs : Double)
  | reconnectFires
  | heartbeatFires
  | socketEvent (socket : Nat) (event : SocketEvent)
  | blobSettles (blob : Nat)

/-- What happens, with what the WebSocket constructor and the random source do if they are asked. -/
structure ClientInput where
  event : ClientEvent
  constructorThrows : Bool := false
  random : Double := 0

namespace ReconnectingWsClient
variable [Fpu] (options : ReconnectingWsClientOptions)

def create : ReconnectingWsClient where
  reconnectDelayMs := options.minBackoffMs
  heartbeatTimeoutMs := options.heartbeatTimeoutMs

variable (input : ClientInput) (client : ReconnectingWsClient)

def call (callback : Callback) : ReconnectingWsClient := { client with calls := client.calls ++ [callback] }

def updateSocket (socket : Nat) (f : Socket → Socket) : ReconnectingWsClient :=
  { client with sockets := client.sockets.modify socket f }

/-- `close()` of a socket. -/
def closeSocket (socket : Nat) : ReconnectingWsClient :=
  client.updateSocket socket fun s => { s with live := false }

def clearReconnectTimer : ReconnectingWsClient := { client with reconnectTimer := none }

def clearHeartbeatTimer : ReconnectingWsClient := { client with heartbeatTimer := none }

def setConnected (nextConnected : Bool) : ReconnectingWsClient :=
  if client.connected = nextConnected then client
  else { client with connected := nextConnected }.call (.onConnectionChange nextConnected)

def armHeartbeat : ReconnectingWsClient :=
  let client := client.clearHeartbeatTimer
  if client.active then
    { client with
      heartbeatTimer := some ⟨client.timersSet, client.heartbeatTimeoutMs⟩
      timersSet := client.timersSet + 1 }
  else client

def scheduleReconnect : ReconnectingWsClient :=
  if ¬ client.active ∨ client.reconnectTimer.isSome then client
  else
    let jitterFactor := 0.7 + 0.6 * input.random
    let jitteredMs := mathMax 0 (mathRound (client.reconnectDelayMs * jitterFactor))
    { client with
      reconnectTimer := some ⟨client.timersSet, jitteredMs⟩
      timersSet := client.timersSet + 1
      reconnectDelayMs := mathMin (client.reconnectDelayMs * 2) options.maxBackoffMs }

/-- A transport failure is counted and told. -/
def countFailure (kind : TransportEventKind) (code : Option ℤ) : ReconnectingWsClient :=
  let client := { client with consecutiveErrors := client.consecutiveErrors + 1 }
  client.call (.onTransportEvent kind code client.consecutiveErrors)

def connect : ReconnectingWsClient :=
  if client.active then
    let client := { client.clearReconnectTimer.clearHeartbeatTimer with errorAlreadyCounted := false }
    if input.constructorThrows then (client.countFailure .error none).scheduleReconnect options input
    else { client with ws := some client.sockets.length, sockets := client.sockets ++ [Socket.fresh] }
  else client

def start : ReconnectingWsClient :=
  if client.active then client else { client with active := true }.connect options input

def stop : ReconnectingWsClient :=
  let client := { client with active := false }.clearReconnectTimer.clearHeartbeatTimer
  let client :=
    match client.ws with
    | none => client
    | some socket => { client.updateSocket socket fun s => { s with attached := false, live := false } with ws := none }
  client.setConnected false

def setHeartbeatTimeoutMs (timeoutMs : Double) : ReconnectingWsClient :=
  if timeoutMs.isFinite = false ∨ timeoutMs ≤ 0 then client
  else
    let client := { client with heartbeatTimeoutMs := timeoutMs }
    if client.heartbeatTimer.isSome then client.armHeartbeat else client

def handleMessageText (rawText : PyStr) : ReconnectingWsClient :=
  match envelopeText rawText with
  | none => client
  | some envelope => client.call (.onEnvelope envelope)

def handleMessage : MessageData → ReconnectingWsClient
  | .text text => client.handleMessageText text
  | .blob text => { client with blobs := client.blobs ++ [text] }
  | .other => client

/-! The handlers of a socket. None of them knows which socket it is set on. -/

def onopen : ReconnectingWsClient :=
  if client.active then
    let client :=
      { client with reconnectDelayMs := options.minBackoffMs, consecutiveErrors := 0, errorAlreadyCounted := false }
    (client.setConnected true).armHeartbeat
  else client

def onmessage (data : MessageData) : ReconnectingWsClient :=
  if client.active then client.armHeartbeat.handleMessage data else client

def onerror : ReconnectingWsClient :=
  if client.active then
    let client := ({ client with errorAlreadyCounted := true }.countFailure .error none).setConnected false
    match client.ws with
    | none => client
    | some socket => client.closeSocket socket
  else client

def onclose (code : Option ℤ) : ReconnectingWsClient :=
  let client := { client.clearHeartbeatTimer with ws := none }.setConnected false
  if client.active then
    let shouldReportFailure := !client.errorAlreadyCounted && code != some 1000
    let client := if shouldReportFailure then client.countFailure .abnormalClose code else client
    { client with errorAlreadyCounted := false }.scheduleReconnect options input
  else client

def handle : SocketEvent → ReconnectingWsClient
  | .opened => client.onopen options
  | .message data => client.onmessage data
  | .error => client.onerror
  | .closed code => client.onclose options input code

/-! The timers. -/

def reconnectFires : ReconnectingWsClient :=
  match client.reconnectTimer with
  | none => client
  | some _ => { client with reconnectTimer := none }.connect options input

def heartbeatFires : ReconnectingWsClient :=
  match client.heartbeatTimer with
  | none => client
  | some _ =>
    let client := { client with heartbeatTimer := none }
    match client.ws with
    | none => client
    | some socket =>
      let client := client.closeSocket socket
      if client.errorAlreadyCounted then
        { { client with ws := none }.setConnected false with errorAlreadyCounted := false }.scheduleReconnect options input
      else client

end ReconnectingWsClient

/-! ## Sockets -/

/-- A socket once it has told an event. After an error or a close it is closed. -/
def Socket.told (s : Socket) : SocketEvent → Socket
  | .opened => { s with opened := true }
  | .message _ => s
  | .error => { s with failed := true, live := false }
  | .closed _ => { s with closed := true, live := false }

/-- The order of events a WebSocket keeps: it opens at most once and first, it fails at most once, and it tells nothing
once it has closed. -/
def Socket.mayTell (s : Socket) : SocketEvent → Bool
  | .opened => !s.opened && !s.failed && !s.closed
  | .message _ => !s.failed && !s.closed
  | .error => !s.failed && !s.closed
  | .closed _ => !s.closed

namespace ReconnectingWsClient
variable [Fpu] (options : ReconnectingWsClientOptions)

/-- A socket tells an event: its handler runs if it still has one. -/
def deliver (input : ClientInput) (client : ReconnectingWsClient) (socket : Nat) (event : SocketEvent) :
    ReconnectingWsClient :=
  let told := client.updateSocket socket (·.told event)
  if (client.sockets[socket]?.any Socket.attached) = true then
    let after := told.handle options input event
    if told.consecutiveErrors < after.consecutiveErrors then
      after.updateSocket socket fun s => { s with raised := s.raised + 1 }
    else after
  else told

def step (client : ReconnectingWsClient) (input : ClientInput) : ReconnectingWsClient :=
  match input.event with
  | .start => client.start options input
  | .stop => client.stop
  | .setHeartbeatTimeoutMs timeoutMs => client.setHeartbeatTimeoutMs timeoutMs
  | .reconnectFires => client.reconnectFires options input
  | .heartbeatFires => client.heartbeatFires options input
  | .socketEvent socket event => client.deliver options input socket event
  | .blobSettles blob =>
    let settled := { client with blobs := client.blobs.eraseIdx blob }
    match client.blobs[blob]? with
    | some (some text) => settled.handleMessageText text
    | _ => settled

end ReconnectingWsClient
end AotDrone.Webapp
