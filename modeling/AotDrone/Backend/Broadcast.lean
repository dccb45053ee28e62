import AotDrone.Backend.Ingest
import AotDrone.Backend.WsManager

/-! The data of the envelopes (`broadcast.py`). -/

namespace AotDrone.Backend
open AotDrone.Lib AotDrone.Lib.Double AotDrone.Json

def nullable : Option Double → Value
  | none => .null
  | some x => .float x

def BlockedReason.name : BlockedReason → String
  | noVis => "no_vis"
  | staleVis => "stale_vis"

/-- What `validate_tel_message` returns. -/
def TelMessage.members (msg : TelMessage) : Members :=
  [(pyStr "type", .str (pyStr "TEL")), (pyStr "seq", .int msg.seq), (pyStr "timestamp_s", .float msg.timestamp),
    (pyStr "control_mode", .int msg.controlMode), (pyStr "tracking_state", .int msg.trackingState),
    (pyStr "distFront_m", .float msg.distFront), (pyStr "distBack_m", .float msg.distBack),
    (pyStr "distBottom_m", .float msg.distBottom), (pyStr "target_x", .float msg.targetX),
    (pyStr "target_y", .float msg.targetY), (pyStr "bound_w", .float msg.boundW), (pyStr "bound_h", .float msg.boundH),
    (pyStr "confidence", .float msg.confidence)]

/-- What `validate_vis_message` returns. -/
def VisMessage.members (msg : VisMessage) : Members :=
  [(pyStr "type", .str (pyStr "VIS")), (pyStr "seq", .int msg.seq), (pyStr "timestamp_s", .float msg.timestamp),
    (pyStr "tracking_state", .int msg.trackingState), (pyStr "loc_x", .float msg.locX),
    (pyStr "loc_y", .float msg.locY), (pyStr "bound_w", .float msg.boundW), (pyStr "bound_h", .float msg.boundH),
    (pyStr "confidence", .float msg.confidence)]

/-- What `_build_video_status` adds to a link status. -/
structure VideoStatus where
  videoEnabled : Bool
  videoClients : ℤ
  videoFpsEst : Double
  lastFrameAge : Option Double
  framesRxOk : ℤ
  framesRxBad : ℤ

def VideoStatus.members (video : VideoStatus) : Members :=
  [(pyStr "video_enabled", .bool video.videoEnabled), (pyStr "video_clients", .int video.videoClients),
    (pyStr "video_fps_est", .float video.videoFpsEst), (pyStr "last_frame_age_s", nullable video.lastFrameAge),
    (pyStr "frames_rx_ok", .int video.framesRxOk), (pyStr "frames_rx_bad", .int video.framesRxBad)]

/-- `payload.update(extra)` -/
def updated (payload extra : Members) : Members := extra.foldl (fun members m => Members.set members m.1 m.2) payload

theorem set_new {payload : Members} {name : PyStr} (absent : name ∉ payload.map Prod.fst) (value : Value) :
    Members.set payload name value = payload ++ [(name, value)] := by
  have none : payload.any (·.1 = name) = false := by
    rw [List.any_eq_false]
    intro old member same
    exact absent (List.mem_map.2 ⟨old, member, of_decide_eq_true same⟩)
  rw [Members.set, none]
  rfl

/-- New names come last, in their order. -/
theorem updated_new {payload extra : Members} (apart : ∀ m ∈ extra, m.1 ∉ payload.map Prod.fst)
    (distinct : (extra.map Prod.fst).Nodup) : updated payload extra = payload ++ extra := by
  induction extra generalizing payload with
  | nil => exact (List.append_nil payload).symm
  | cons m extra ih =>
    rw [List.forall_mem_cons] at apart
    rw [List.map_cons, List.nodup_cons] at distinct
    have later : ∀ n ∈ extra, n.1 ∉ (payload ++ [m]).map Prod.fst := by
      intro n member
      rw [List.map_append, List.mem_append]
      rintro (old | new)
      · exact apart.2 n member old
      · rw [List.map_cons, List.map_nil, List.mem_singleton] at new
        exact distinct.1 (new ▸ List.mem_map_of_mem member)
    rw [updated, List.foldl_cons, set_new apart.1]
    have rest := ih later distinct.2
    rwa [List.append_assoc] at rest

section payloads
variable [Fpu]

/-- What the constructor of `BackendBroadcaster` accepts, as far as a payload shows it. -/
structure BroadcastConfig where
  visFresh : Double
  telFresh : Double
  cmdTimeout : Double
  cmdHzNominal : Double
  telHzNominal : Double
  visFresh_nonneg : ¬ visFresh < 0
  telFresh_pos : ¬ telFresh ≤ 0
  cmdTimeout_pos : ¬ cmdTimeout ≤ 0
  doubles : ∀ x ∈ [visFresh, telFresh, cmdTimeout, cmdHzNominal, telHzNominal], IsDouble x

def SharedState.getTelAge (state : SharedState) (now : Double) : Option Double :=
  state.tel.lastRxMonotonic.map (SharedState.ageSince now)

def SharedState.getLinkStatus (state : SharedState) (visFresh telFresh cmdTimeout cmdHz telHz now : Double) : Members :=
  [(pyStr "fc_connected", .bool state.fcConnected),
    (pyStr "fc_last_connect_attempt_s", nullable state.fcLastConnectAttempt),
    (pyStr "cmd_tx_total", .int state.cmdTxTotal), (pyStr "cmd_tx_ok", .int state.cmdTxOk),
    (pyStr "cmd_tx_fail", .int state.cmdTxFail), (pyStr "cmd_last_sent_monotonic_s", nullable state.cmdLastSent),
    (pyStr "cmd_hz_est", .float state.cmdHzEst),
    (pyStr "tracking_blocked_reason", state.trackingBlockedReason.elim .null fun reason => .str (pyStr reason.name)),
    (pyStr "vis_age_s", nullable (state.getVisAge now)), (pyStr "vis_rx_ok", .int state.vis.rxOk),
    (pyStr "vis_rx_bad", .int state.vis.rxBad),
    (pyStr "vis_drop_reason_oversize", .int (state.vis.dropReason .oversize)),
    (pyStr "vis_drop_reason_json", .int (state.vis.dropReason .json)),
    (pyStr "vis_drop_reason_schema", .int (state.vis.dropReason .schema)),
    (pyStr "vis_drop_reason_range", .int (state.vis.dropReason .range)),
    (pyStr "vis_drop_reason_semantics", .int (state.vis.dropReason .semantics)),
    (pyStr "tel_age_s", nullable (state.getTelAge now)), (pyStr "tel_rx_ok", .int state.tel.rxOk),
    (pyStr "tel_rx_bad", .int state.tel.rxBad), (pyStr "vis_fresh_s", .float visFresh),
    (pyStr "tel_fresh_s", .float telFresh), (pyStr "cmd_timeout_s", .float cmdTimeout), (pyStr "cmd_hz", .float cmdHz),
    (pyStr "tel_hz", .float telHz)]

variable (config : BroadcastConfig)

def buildLinkStatus (state : SharedState) (now : Double) (video : VideoStatus) : Members :=
  updated
    (state.getLinkStatus config.visFresh config.telFresh config.cmdTimeout config.cmdHzNominal config.telHzNominal now)
    video.members

def telUpdateData (msg : TelMessage) (rxMonotonic telAge : Option Double) : Members :=
  (msg.members.set (pyStr "rx_monotonic_s") (nullable rxMonotonic)).set (pyStr "tel_age_s") (nullable telAge)

def visUpdateData (msg : VisMessage) (rxMonotonic visAge : Option Double) : Members :=
  (msg.members.set (pyStr "rx_monotonic_s") (nullable rxMonotonic)).set (pyStr "vis_age_s") (nullable visAge)

end payloads
end AotDrone.Backend
