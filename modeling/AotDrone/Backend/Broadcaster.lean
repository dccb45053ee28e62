import AotDrone.Backend.Broadcast
import AotDrone.Lib.Spacing

/-! `BackendBroadcaster` beside the threads that call it (`broadcast.py`, and `app.py` for who calls what): the two
receivers of datagrams, the command bridge, the heartbeat and the thread that shuts the backend down. Every call looks at the clock, at the time of the last
envelope, builds, broadcasts and notes the time in steps of its own. -/

namespace AotDrone.Backend
open AotDrone.Lib AotDrone.Lib.Double AotDrone.Lib.Spacing AotDrone.Json

inductive Caller where
  | telUdp
  | visUdp
  | cmdBridge
  | heartbeat
  | shutdown
  deriving DecidableEq

/-- What the constructor accepts, as far as the spacing of envelopes shows it. -/
structure SpacingConfig where
  telHz : Double := 20
  visHz : Double := 20
  linkHz : Double := 2
  warningMinInterval : Double := 2
  telHz_pos : ¬ telHz ≤ 0 := by decide
  visHz_pos : ¬ visHz ≤ 0 := by decide
  linkHz_pos : ¬ linkHz ≤ 0 := by decide
  warningMinInterval_nonneg : ¬ warningMinInterval < 0 := by decide

/-- A key of `_last_emit_s` or of `_warning_last_emit_s`. -/
inductive Topic where
  | telUpdate
  | visUpdate
  | linkStatus
  | warning (kind : String)
  deriving DecidableEq

/-- A message that `on_tel_update` or `on_vis_update` is called with. -/
inductive Update where
  | tel (msg : TelMessage) (rxMonotonic : Double)
  | vis (msg : VisMessage) (rxMonotonic : Double)

/-- `broadcast_tel_update`, `broadcast_vis_update`, `broadcast_link_status(force=True)` or `emit_warning`. -/
inductive BroadcastCall where
  | update (update : Update)
  | linkStatus
  | warning (kind detail severity : String)

/-- A stream of messages that the clients are told about. -/
inductive Feed where
  | tel
  | vis

def Feed.topic : Feed → Topic
  | tel => .telUpdate
  | vis => .visUpdate

def BroadcastCall.update? : BroadcastCall → Option Update
  | update message => some message
  | linkStatus | warning _ _ _ => none

def Update.rxMonotonic : Update → Double
  | tel _ rxMonotonic | vis _ rxMonotonic => rxMonotonic

def Update.topic : Update → Topic
  | tel _ _ => .telUpdate
  | vis _ _ => .visUpdate

def BroadcastCall.topic : BroadcastCall → Topic
  | .update message => message.topic
  | linkStatus => .linkStatus
  | warning kind _ _ => .warning kind

def BroadcastCall.force : BroadcastCall → Bool
  | linkStatus => true
  | .update _ | warning _ _ _ => false

/-- The time of a call: an update has its time of receipt, the others read the clock. -/
def BroadcastCall.now (clock : Double) : BroadcastCall → Double
  | .update message => message.rxMonotonic
  | linkStatus | warning _ _ _ => clock

def warningData (kind detail severity : String) : Members :=
  [(pyStr "kind", .str (pyStr kind)), (pyStr "detail", .str (pyStr detail)), (pyStr "severity", .str (pyStr severity))]

section
variable [Fpu]

/-- `_can_emit` and the first lines of `emit_warning`, of a topic that was sent before. -/
def SpacingConfig.due (config : SpacingConfig) : Topic → Double → Double → Bool
  | .telUpdate, last, now => decide (1 / config.telHz ≤ now - last)
  | .visUpdate, last, now => decide (1 / config.visHz ≤ now - last)
  | .linkStatus, last, now => decide (1 / config.linkHz ≤ now - last)
  | .warning _, last, now => ! decide (0 < config.warningMinInterval ∧ now - last < config.warningMinInterval)

def SpacingConfig.rules (config : SpacingConfig) : Rules Topic BroadcastCall Double where
  key := BroadcastCall.topic
  forced := BroadcastCall.force
  due := config.due

/-- What an update sends that finds its own message still the latest. -/
def Update.data : Update → Members
  | tel msg rxMonotonic => telUpdateData msg (some rxMonotonic) (some (SharedState.ageSince rxMonotonic rxMonotonic))
  | vis msg rxMonotonic => visUpdateData msg (some rxMonotonic) (some (SharedState.ageSince rxMonotonic rxMonotonic))

/-- What a call sends at `now`, if it has anything to send. `linkStatus` is what `build_link_status` returns. -/
def SharedState.callData (shared : SharedState) (linkStatus : Members) (now : Double) : BroadcastCall → Option Members
  | .update (.tel _ _) =>
    shared.tel.latest.map fun msg => telUpdateData msg shared.tel.lastRxMonotonic (shared.getTelAge now)
  | .update (.vis _ _) =>
    shared.vis.latest.map fun msg => visUpdateData msg shared.vis.lastRxMonotonic (shared.getVisAge now)
  | .linkStatus => some linkStatus
  | .warning kind detail severity => some (warningData kind detail severity)

/-! ## Handlers -/

def onFcConnectionChanged (connected : Bool) : List BroadcastCall :=
  if connected then
    [.warning "fc_reconnected" "Backend command bridge connected to FC TCP server" "info", .linkStatus]
  else [.warning "fc_disconnected" "Backend command bridge disconnected from FC TCP server" "warn", .linkStatus]

def onTrackingBlocked (reason : BlockedReason) : List BroadcastCall :=
  [.warning ("tracking_blocked_" ++ reason.name)
    ("Tracking mode request blocked by backend safety gate (" ++ reason.name ++ ")") "warn", .linkStatus]

def oversizeDetail (length maxBytes : Nat) : String :=
  "datagram length=" ++ toString length ++ " exceeds max_bytes=" ++ toString maxBytes

def onTelDrop (shared : SharedState) (reason : DropReason) (detail : String) : List BroadcastCall :=
  if reason = .oversize then
    [.warning "tel_oversize_drop" ("Oversize TEL datagram dropped: " ++ detail ++
      " (count=" ++ toString (shared.tel.dropReason .oversize) ++ ")") "warn"]
  else []

def onVisDrop (shared : SharedState) (reason : DropReason) (detail : String) : List BroadcastCall :=
  if reason = .oversize then
    [.warning "vis_oversize_drop" ("Oversize VIS datagram dropped: " ++ detail ++
      " (count=" ++ toString (shared.vis.dropReason .oversize) ++ ")") "warn"]
  else []

end

/-! ## Threads -/

structure Broadcasting where
  shared : SharedState
  gate : Gate Caller Topic BroadcastCall Double Members := .closed
  /-- The receivers whose threads have ended with an exception. -/
  ended : Caller → Bool := fun _ => false

/-- What wakes a thread that has nothing to broadcast, and the next step of one that has. -/
inductive BroadcastEvent where
  | datagram (datagram : Datagram)
  | fcConnectionChanged (connected : Bool)
  | trackingBlocked (reason : BlockedReason)
  | beat
  /-- `CmdBridge.stop` finds the bridge still connected, after a join that has timed out. -/
  | stop
  | advance (caller : Caller) (clock : Double) (linkStatus : Members)

def Datagram.caller : Datagram → Caller
  | tel _ _ => .telUdp
  | vis _ _ => .visUdp

/-- The message that a datagram has stored, with its time of receipt. -/
def Datagram.stored (shared : SharedState) : Datagram → Option Update
  | tel _ rxMonotonic => shared.tel.latest.map (.tel · rxMonotonic)
  | vis _ rxMonotonic => shared.vis.latest.map (.vis · rxMonotonic)

/-- `on_drop` for a datagram that is refused, which makes nothing of any other reason. -/
def Datagram.drops (ingest : IngestConfig) (shared : SharedState) : Datagram → List BroadcastCall
  | tel data _ =>
    if ingest.telMaxBytes < data.length then
      onTelDrop shared .oversize (oversizeDetail data.length ingest.telMaxBytes)
    else []
  | vis data _ =>
    if ingest.visMaxBytes < data.length then
      onVisDrop shared .oversize (oversizeDetail data.length ingest.visMaxBytes)
    else []

namespace Broadcasting
variable [Fpu] (config : SpacingConfig) (ingest : IngestConfig)

/-- One turn of `serve_forever`, of a receiver that is through with the datagram before. -/
def serve (system : Broadcasting) (datagram : Datagram) : Broadcasting :=
  if system.gate.busy datagram.caller || system.ended datagram.caller then system
  else
    let (shared, result) := Backend.ingest ingest system.shared datagram
    match result with
    | .ok true =>
      let calls := (datagram.stored shared).toList.map BroadcastCall.update
      { system with shared, gate := system.gate.submit datagram.caller calls }
    | .ok false => { system with shared, gate := system.gate.submit datagram.caller (datagram.drops ingest shared) }
    | .error _ => { system with shared, ended := Function.update system.ended datagram.caller true }

def step (system : Broadcasting) : BroadcastEvent → Broadcasting
  | .datagram datagram => system.serve ingest datagram
  | .fcConnectionChanged connected =>
    { system with gate := system.gate.submit .cmdBridge (onFcConnectionChanged connected) }
  | .trackingBlocked reason => { system with gate := system.gate.submit .cmdBridge (onTrackingBlocked reason) }
  | .beat => { system with gate := system.gate.submit .heartbeat [.linkStatus] }
  | .stop => { system with gate := system.gate.submit .shutdown (onFcConnectionChanged false) }
  | .advance caller clock linkStatus =>
    { system with
      gate := system.gate.advance config.rules caller (BroadcastCall.now clock)
        fun call now => system.shared.callData linkStatus now call }

def run (cmdNextSeq : ℤ) (events : List BroadcastEvent) : Broadcasting :=
  events.foldl (step config ingest) { shared := { cmdNextSeq } }

/-- What has been broadcast under a topic, oldest first: the data of each envelope with its timestamp. -/
def broadcasts (system : Broadcasting) (topic : Topic) : List (Members × Double) :=
  (system.gate.sent.filter (BroadcastCall.topic ·.1.1 = topic)).map fun s => (s.2, s.1.2)

/-- The messages of a stream that have been stored and handed to the broadcaster, oldest first. -/
def stored (system : Broadcasting) (feed : Feed) : List Update :=
  (system.gate.taken.filter (BroadcastCall.topic · = feed.topic)).filterMap BroadcastCall.update?

/-- The updates that are let through, one message after the other. -/
def thinned (feed : Feed) (updates : List Update) : List (Members × Double) :=
  (admitted (config.due feed.topic) none (updates.map fun update => (update, update.rxMonotonic))).map fun ask =>
    (ask.1.data, ask.2)

end Broadcasting
end AotDrone.Backend
