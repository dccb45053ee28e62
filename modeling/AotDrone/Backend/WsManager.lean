import AotDrone.Json.Value

/-! `ws_manager.py`, with the threads that broadcast and the `ws_endpoint` coroutines of `app.py`. -/

namespace AotDrone.Backend
open AotDrone.Lib AotDrone.Lib.Double AotDrone.Json

def wsEnvelopeVersion : ℤ := 1

inductive WsEvent where
  | telUpdate
  | visUpdate
  | linkStatus
  | warning
  deriving DecidableEq, Repr

def WsEvent.name : WsEvent → String
  | telUpdate => "TEL_UPDATE"
  | visUpdate => "VIS_UPDATE"
  | linkStatus => "LINK_STATUS"
  | warning => "WARNING"

structure Envelope where
  event : WsEvent
  data : Members
  timestamp : Double
  seq : Nat

def Envelope.members (envelope : Envelope) : Members :=
  [(pyStr "ws_ver", .int wsEnvelopeVersion), (pyStr "event", .str (pyStr envelope.event.name)),
    (pyStr "data", .obj envelope.data), (pyStr "timestamp_s", .float envelope.timestamp),
    (pyStr "seq", .int envelope.seq)]

/-- The clients by their numbers, in the order in which they were registered, each with its queue. -/
structure WsManager where
  queueMax : Nat
  /-- What the constructor checks. -/
  positive : 0 < queueMax
  clients : List (Nat × List Envelope) := []
  nextClientId : Nat := 1
  nextEventSeq : Nat := 1

namespace WsManager
variable (manager : WsManager)

def register : Nat × WsManager :=
  (manager.nextClientId,
    { manager with
      nextClientId := manager.nextClientId + 1
      clients := manager.clients ++ [(manager.nextClientId, [])] })

def unregister (clientId : Nat) : WsManager :=
  { manager with clients := manager.clients.filter fun client => client.1 ≠ clientId }

def buildEnvelope (event : WsEvent) (data : Members) (timestamp : Double) : Envelope × WsManager :=
  ({ event, data, timestamp, seq := manager.nextEventSeq },
    { manager with nextEventSeq := manager.nextEventSeq + 1 })

/-- The queue of a client, empty when there is no such client. -/
def queue (clientId : Nat) : List Envelope := (manager.clients.lookup clientId).getD []

def setQueue (clientId : Nat) (f : List Envelope → List Envelope) : WsManager :=
  { manager with
    clients := manager.clients.map fun client => if client.1 = clientId then (client.1, f client.2) else client }

/-- One turn of the loop of `broadcast_envelope`. A client that has left keeps no queue that anyone reads. -/
def append (clientId : Nat) (envelope : Envelope) : WsManager :=
  manager.setQueue clientId fun queue =>
    (if manager.queueMax ≤ queue.length then queue.tail else queue) ++ [envelope]

def popNext (clientId : Nat) : Option (Envelope × WsManager) :=
  match manager.queue clientId with
  | [] => none
  | envelope :: _ => some (envelope, manager.setQueue clientId List.tail)

end WsManager

/-- A call of `broadcast` that has its envelope: the clients it has still to serve, once it has listed them. -/
structure Broadcast where
  envelope : Envelope
  targets : Option (List Nat) := none

/-- What an endpoint sends next: its snapshots, and from then on what is queued. -/
inductive Stage where
  | linkStatus
  | telUpdate
  | visUpdate
  | draining
  deriving DecidableEq, Repr

def Stage.event : Stage → Option WsEvent
  | linkStatus => some .linkStatus
  | telUpdate => some .telUpdate
  | visUpdate => some .visUpdate
  | draining => none

def Stage.next : Stage → Stage
  | linkStatus => telUpdate
  | telUpdate => visUpdate
  | visUpdate | draining => draining

/-- A `ws_endpoint` that has registered its client. -/
structure Endpoint where
  clientId : Nat
  stage : Stage := .linkStatus
  /-- The envelope that `send_json` is about to send. -/
  pending : Option Envelope := none
  sent : List Envelope := []

structure Hub where
  manager : WsManager
  broadcasts : List Broadcast := []
  endpoints : List Endpoint := []

inductive HubEvent where
  /-- A thread calls `broadcast` and numbers its envelope. -/
  | broadcast (event : WsEvent) (data : Members) (timestamp : Double)
  | list (broadcast : Nat)
  | append (broadcast : Nat)
  | register
  | unregister (clientId : Nat)
  | connect
  /-- An endpoint builds its next snapshot, if there is one of that kind. -/
  | snapshot (endpoint : Nat) (data : Option Members) (timestamp : Double)
  | send (endpoint : Nat)
  | popNext (endpoint : Nat)

namespace Hub

def create (queueMax : Nat) (positive : 0 < queueMax) : Hub where
  manager := { queueMax, positive }

variable (hub : Hub)

def updateEndpoint (endpoint : Nat) (f : Endpoint → Endpoint) : Hub :=
  { hub with endpoints := hub.endpoints.modify endpoint f }

def broadcast (event : WsEvent) (data : Members) (timestamp : Double) : Hub :=
  let built := hub.manager.buildEnvelope event data timestamp
  { hub with manager := built.2, broadcasts := hub.broadcasts ++ [{ envelope := built.1 }] }

def list (broadcast : Nat) : Hub :=
  { hub with broadcasts := hub.broadcasts.modify broadcast fun b =>
      { b with targets := some (b.targets.getD (hub.manager.clients.map Prod.fst)) } }

def append (broadcast : Nat) : Hub :=
  match hub.broadcasts[broadcast]? with
  | some ⟨envelope, some (clientId :: rest)⟩ =>
    { hub with
      manager := hub.manager.append clientId envelope
      broadcasts := hub.broadcasts.set broadcast ⟨envelope, some rest⟩ }
  | _ => hub

def connect : Hub :=
  let registered := hub.manager.register
  { hub with manager := registered.2, endpoints := hub.endpoints ++ [{ clientId := registered.1 }] }

def snapshot (endpoint : Nat) (data : Option Members) (timestamp : Double) : Hub :=
  match hub.endpoints[endpoint]? with
  | some ⟨_, stage, none, _⟩ =>
    match stage.event, data with
    | none, _ => hub
    | some event, some data =>
      let built := hub.manager.buildEnvelope event data timestamp
      { hub with manager := built.2 }.updateEndpoint endpoint fun e =>
        { e with stage := stage.next, pending := some built.1 }
    | some event, none =>
      -- There is always a link status.
      if event = .linkStatus then hub else hub.updateEndpoint endpoint fun e => { e with stage := stage.next }
  | _ => hub

def send (endpoint : Nat) : Hub :=
  hub.updateEndpoint endpoint fun e => { e with pending := none, sent := e.sent ++ e.pending.toList }

def popNext (endpoint : Nat) : Hub :=
  match hub.endpoints[endpoint]? with
  | some ⟨clientId, .draining, none, _⟩ =>
    match hub.manager.popNext clientId with
    | none => hub
    | some (envelope, manager) => { hub with manager }.updateEndpoint endpoint fun e => { e with pending := some envelope }
  | _ => hub

def step : HubEvent → Hub
  | .broadcast event data timestamp => hub.broadcast event data timestamp
  | .list broadcast => hub.list broadcast
  | .append broadcast => hub.append broadcast
  | .register => { hub with manager := hub.manager.register.2 }
  | .unregister clientId => { hub with manager := hub.manager.unregister clientId }
  | .connect => hub.connect
  | .snapshot endpoint data timestamp => hub.snapshot endpoint data timestamp
  | .send endpoint => hub.send endpoint
  | .popNext endpoint => hub.popNext endpoint

end Hub
end AotDrone.Backend
