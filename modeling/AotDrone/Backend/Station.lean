import AotDrone.Backend.BridgeLoop
import AotDrone.Backend.Broadcast

/-! The backend as its clients see it: the bridge and the ingestors beside the threads that build envelopes. A thread
reads a message with its time of receipt under one acquisition of the lock and the age under another. -/

namespace AotDrone.Backend
open AotDrone.Lib AotDrone.Lib.Double AotDrone.Json

/-- What `get_latest_tel_with_meta` or `get_latest_vis_with_meta` has returned. -/
inductive Reading where
  | tel (msg : TelMessage) (rxMonotonic : Option Double)
  | vis (msg : VisMessage) (rxMonotonic : Option Double)

/-- What an envelope is built of. -/
inductive Subject where
  | tel (msg : TelMessage) (rxMonotonic telAge : Option Double)
  | vis (msg : VisMessage) (rxMonotonic visAge : Option Double)
  | linkStatus (state : SharedState) (now : Double) (video : VideoStatus)

structure Station where
  bridge : CmdBridge
  manager : WsManager
  /-- Of every thread that has read a message, oldest first. -/
  readings : List Reading := []

inductive StationEvent where
  | loop (event : LoopEvent)
  | getLatestTelWithMeta
  | getLatestVisWithMeta
  /-- A thread goes on with what it has read, for a broadcast or for a new client. -/
  | buildUpdate (reading : Nat) (now : Double)
  | buildLinkStatus (now : Double) (video : VideoStatus)
  | buildWarning (data : Members) (timestamp : Double)

section station
variable [Fpu]

def Subject.event : Subject → WsEvent
  | tel _ _ _ => .telUpdate
  | vis _ _ _ => .visUpdate
  | linkStatus _ _ _ => .linkStatus

def Subject.data (config : BroadcastConfig) : Subject → Members
  | tel msg rxMonotonic telAge => telUpdateData msg rxMonotonic telAge
  | vis msg rxMonotonic visAge => visUpdateData msg rxMonotonic visAge
  | linkStatus state now video => buildLinkStatus config state now video

def Reading.subject (state : SharedState) (now : Double) : Reading → Subject
  | tel msg rxMonotonic => .tel msg rxMonotonic (state.getTelAge now)
  | vis msg rxMonotonic => .vis msg rxMonotonic (state.getVisAge now)

namespace Station

def create (config : BridgeConfig) (cmdNextSeq : ℤ) (queueMax : Nat) (positive : 0 < queueMax) : Station where
  bridge := CmdBridge.init config cmdNextSeq
  manager := { queueMax, positive }

/-- What the event builds an envelope of, and when. -/
def builds (station : Station) : StationEvent → Option (Subject × Double)
  | .buildUpdate reading now =>
    station.readings[reading]?.map fun read => (read.subject station.bridge.shared now, now)
  | .buildLinkStatus now video => some (.linkStatus station.bridge.shared now video, now)
  | _ => none

variable (broadcast : BroadcastConfig)

def envelope (station : Station) (subject : Subject) (now : Double) : Envelope × WsManager :=
  station.manager.buildEnvelope subject.event (subject.data broadcast) now

variable [FloatRepr] (config : BridgeConfig) (ingest : IngestConfig)

def step (station : Station) : StationEvent → Station
  | .loop event => { station with bridge := station.bridge.loopStep config ingest event }
  | .getLatestTelWithMeta =>
    match station.bridge.shared.tel.latest with
    | none => station
    | some msg =>
      { station with readings := station.readings ++ [.tel msg station.bridge.shared.tel.lastRxMonotonic] }
  | .getLatestVisWithMeta =>
    match station.bridge.shared.vis.latest with
    | none => station
    | some msg =>
      { station with readings := station.readings ++ [.vis msg station.bridge.shared.vis.lastRxMonotonic] }
  | .buildWarning data timestamp =>
    { station with manager := (station.manager.buildEnvelope .warning data timestamp).2 }
  | event =>
    match station.builds event with
    | none => station
    | some (subject, now) => { station with manager := (station.envelope broadcast subject now).2 }

end Station
end station
end AotDrone.Backend
