import AotDrone.Webapp.WsClient

/-! What a client does once it has been stopped. -/

namespace AotDrone.Webapp
open AotDrone.Lib AotDrone.Lib.Double AotDrone.Lib.Run AotDrone.Json
namespace ReconnectingWsClient
variable (client : ReconnectingWsClient)

/-! ## Who starts and stops it -/

@[simp] theorem call_active (callback : Callback) : (client.call callback).active = client.active := rfl

@[simp] theorem updateSocket_active (socket : Nat) (f : Socket → Socket) :
    (client.updateSocket socket f).active = client.active := rfl

/-- `setConnected` sets `connected` and may tell about it. -/
theorem setConnected_eq (connected : Bool) :
    ∃ calls, client.setConnected connected = { client with connected, calls } := by
  unfold setConnected
  split
  · subst connected
    exact ⟨client.calls, rfl⟩
  · exact ⟨_, rfl⟩

section setConnected
variable (connected : Bool)

@[simp] theorem setConnected_connected : (client.setConnected connected).connected = connected := by
  obtain ⟨calls, equal⟩ := setConnected_eq client connected
  rw [equal]

/-- It leaves every other field alone. -/
theorem setConnected_field {β : Type} (field : ReconnectingWsClient → β)
    (keeps : ∀ connected calls, field { client with connected, calls } = field client) :
    field (client.setConnected connected) = field client := by
  obtain ⟨calls, equal⟩ := setConnected_eq client connected
  rw [equal]
  exact keeps connected calls

@[simp] theorem setConnected_active : (client.setConnected connected).active = client.active :=
  setConnected_field client connected active fun _ _ => rfl

@[simp] theorem setConnected_ws : (client.setConnected connected).ws = client.ws :=
  setConnected_field client connected ws fun _ _ => rfl

@[simp] theorem setConnected_reconnectTimer :
    (client.setConnected connected).reconnectTimer = client.reconnectTimer :=
  setConnected_field client connected reconnectTimer fun _ _ => rfl

@[simp] theorem setConnected_heartbeatTimer :
    (client.setConnected connected).heartbeatTimer = client.heartbeatTimer :=
  setConnected_field client connected heartbeatTimer fun _ _ => rfl

@[simp] theorem setConnected_errorAlreadyCounted :
    (client.setConnected connected).errorAlreadyCounted = client.errorAlreadyCounted :=
  setConnected_field client connected errorAlreadyCounted fun _ _ => rfl

@[simp] theorem setConnected_consecutiveErrors :
    (client.setConnected connected).consecutiveErrors = client.consecutiveErrors :=
  setConnected_field client connected consecutiveErrors fun _ _ => rfl

@[simp] theorem setConnected_reconnectDelayMs :
    (client.setConnected connected).reconnectDelayMs = client.reconnectDelayMs :=
  setConnected_field client connected reconnectDelayMs fun _ _ => rfl

@[simp] theorem setConnected_sockets : (client.setConnected connected).sockets = client.sockets :=
  setConnected_field client connected sockets fun _ _ => rfl

end setConnected

@[simp] theorem armHeartbeat_active : client.armHeartbeat.active = client.active := by
  unfold armHeartbeat
  dsimp only
  split <;> rfl

variable [Fpu] (options : ReconnectingWsClientOptions) (input : ClientInput)

@[simp] theorem scheduleReconnect_active : (client.scheduleReconnect options input).active = client.active := by
  unfold scheduleReconnect
  split <;> rfl

@[simp] theorem handleMessageText_active (text : PyStr) : (client.handleMessageText text).active = client.active := by
  unfold handleMessageText
  split <;> rfl

omit [Fpu] in
theorem stop_active : client.stop.active = false := by
  unfold stop
  dsimp only
  split <;> simp [clearReconnectTimer, clearHeartbeatTimer]

theorem connect_active : (client.connect options input).active = client.active := by
  unfold connect
  split
  · dsimp only
    split
    · exact scheduleReconnect_active _ _ _
    · rfl
  · rfl

theorem handle_active (event : SocketEvent) : (client.handle options input event).active = client.active := by
  cases event with
  | opened =>
    change (client.onopen options).active = _
    unfold onopen
    split
    · simp
    · rfl
  | message data =>
    change (client.onmessage data).active = _
    unfold onmessage
    split
    · cases data with
      | text text => simp [handleMessage]
      | blob text | other => simp [handleMessage]
    · rfl
  | error =>
    change client.onerror.active = _
    unfold onerror
    split
    · dsimp only
      split <;> simp [countFailure, closeSocket]
    · rfl
  | closed code =>
    change (client.onclose options input code).active = _
    unfold onclose
    dsimp only
    split
    · split <;> simp [countFailure, clearHeartbeatTimer]
    · simp [clearHeartbeatTimer]

theorem deliver_active (socket : Nat) (event : SocketEvent) :
    (client.deliver options input socket event).active = client.active := by
  unfold deliver
  dsimp only
  split
  · split
    · exact handle_active _ options input event
    · exact handle_active _ options input event
  · rfl

/-- The text of a message hands on the envelope it holds, if it holds one, and does nothing else. -/
theorem handleMessageText_eq (text : PyStr) :
    client.handleMessageText text =
      { client with calls := client.calls ++ ((envelopeText text).map Callback.onEnvelope).toList } := by
  unfold handleMessageText
  cases envelopeText text with
  | none =>
    change client = { client with calls := client.calls ++ [] }
    rw [List.append_nil]
  | some envelope => rfl

/-- Only `start` and `stop` change whether the client is active. -/
theorem step_active :
    (client.step options input).active =
      match input.event with
      | .start => true
      | .stop => false
      | _ => client.active := by
  unfold step
  cases input.event with
  | start =>
    dsimp only
    unfold start
    split
    · assumption
    · exact connect_active _ options input
  | stop => exact stop_active client
  | setHeartbeatTimeoutMs timeoutMs =>
    dsimp only
    unfold setHeartbeatTimeoutMs
    dsimp only
    split
    · rfl
    · split <;> simp
  | reconnectFires =>
    dsimp only
    unfold reconnectFires
    split
    · rfl
    · exact connect_active _ options input
  | heartbeatFires =>
    dsimp only
    unfold heartbeatFires
    dsimp only
    split
    · rfl
    · split
      · rfl
      · split <;> simp [closeSocket]
  | socketEvent socket event => exact deliver_active client options input socket event
  | blobSettles blob =>
    dsimp only
    split <;> simp

/-! ## Stopped -/

/-- A client that is not active has no socket, no timer and no connection. -/
def Stopped : Prop :=
  client.active = false →
    client.ws = none ∧ client.reconnectTimer = none ∧ client.heartbeatTimer = none ∧ client.connected = false

/-- What the sockets have told after an event. -/
def told (client : ReconnectingWsClient) : ClientEvent → List Socket
  | .socketEvent socket event => client.sockets.modify socket (·.told event)
  | _ => client.sockets

omit [Fpu] in
theorem told_length (event : ClientEvent) : (client.told event).length = client.sockets.length := by
  cases event with
  | socketEvent socket event => exact List.length_modify _ _ _
  | _ => rfl

/-- An event that changes nothing of the connection. -/
structure Idle (before : ReconnectingWsClient) (event : ClientEvent) (after : ReconnectingWsClient) : Prop where
  ws : after.ws = before.ws
  reconnectTimer : after.reconnectTimer = before.reconnectTimer
  heartbeatTimer : after.heartbeatTimer = before.heartbeatTimer
  connected : after.connected = before.connected
  sockets : after.sockets = before.told event
  consecutiveErrors : after.consecutiveErrors = before.consecutiveErrors
  errorAlreadyCounted : after.errorAlreadyCounted = before.errorAlreadyCounted

variable {client}

omit [Fpu] in
theorem setConnected_same {connected : Bool} (same : client.connected = connected) :
    client.setConnected connected = client := if_pos same

theorem handle_idle (stopped : client.Stopped) (inactive : client.active = false) (event : SocketEvent) :
    client.handle options input event = client := by
  obtain ⟨ws, reconnectTimer, heartbeatTimer, connected⟩ := stopped inactive
  have skip {a : ReconnectingWsClient} : (if client.active then a else client) = client :=
    if_neg (by rw [inactive]; exact Bool.false_ne_true)
  cases event with
  | opened => exact skip
  | message data => exact skip
  | error => exact skip
  | closed code =>
    have cleared : { client.clearHeartbeatTimer with ws := none } = client := by
      cases client
      cases ws
      cases heartbeatTimer
      rfl
    change client.onclose options input code = client
    unfold onclose
    rw [cleared, setConnected_same connected]
    exact skip

omit [Fpu] in
theorem updateSocket_stopped {socket : Nat} {f : Socket → Socket} (stopped : client.Stopped) :
    (client.updateSocket socket f).Stopped := stopped

theorem deliver_idle (stopped : client.Stopped) (inactive : client.active = false) (socket : Nat) (event : SocketEvent) :
    client.deliver options input socket event = client.updateSocket socket (·.told event) := by
  unfold deliver
  dsimp only
  rw [handle_idle options input (updateSocket_stopped stopped) inactive event, if_neg (lt_irrefl _), ite_self]

omit [Fpu] in
theorem stop_idle (stopped : client.Stopped) (inactive : client.active = false) : client.stop = client := by
  obtain ⟨ws, reconnectTimer, heartbeatTimer, connected⟩ := stopped inactive
  have cleared : { client with active := false }.clearReconnectTimer.clearHeartbeatTimer = client := by
    cases client
    cases inactive
    cases reconnectTimer
    cases heartbeatTimer
    rfl
  unfold stop
  rw [cleared]
  dsimp only
  rw [ws]
  exact setConnected_same connected

/-- The text of a Blob that settles, if it has one. -/
def settledText (client : ReconnectingWsClient) : ClientEvent → Option PyStr
  | .blobSettles blob => client.blobs[blob]?.join
  | _ => none

/-- An event other than `start` finds a stopped client idle. The only callback it can run is that of the envelope in the
text of a Blob. -/
theorem step_idle (stopped : client.Stopped) (inactive : client.active = false) (other : input.event ≠ .start) :
    Idle client input.event (client.step options input) ∧
      (client.step options input).calls =
        client.calls ++ (((settledText client input.event).bind envelopeText).map Callback.onEnvelope).toList := by
  obtain ⟨ws, reconnectTimer, heartbeatTimer, connected⟩ := stopped inactive
  have silent : client.calls = client.calls ++ [] := (List.append_nil _).symm
  unfold step
  cases event : input.event with
  | start => exact absurd event other
  | stop =>
    dsimp only
    rw [stop_idle stopped inactive]
    exact ⟨⟨rfl, rfl, rfl, rfl, rfl, rfl, rfl⟩, silent⟩
  | setHeartbeatTimeoutMs timeoutMs =>
    dsimp only
    unfold setHeartbeatTimeoutMs
    dsimp only
    rw [heartbeatTimer]
    split
    · exact ⟨⟨rfl, rfl, rfl, rfl, rfl, rfl, rfl⟩, silent⟩
    · exact ⟨⟨rfl, rfl, heartbeatTimer.symm, rfl, rfl, rfl, rfl⟩, silent⟩
  | reconnectFires =>
    dsimp only
    unfold reconnectFires
    rw [reconnectTimer]
    exact ⟨⟨rfl, rfl, rfl, rfl, rfl, rfl, rfl⟩, silent⟩
  | heartbeatFires =>
    dsimp only
    unfold heartbeatFires
    rw [heartbeatTimer]
    exact ⟨⟨rfl, rfl, rfl, rfl, rfl, rfl, rfl⟩, silent⟩
  | socketEvent socket event =>
    dsimp only
    rw [deliver_idle options input stopped inactive]
    exact ⟨⟨rfl, rfl, rfl, rfl, rfl, rfl, rfl⟩, silent⟩
  | blobSettles blob =>
    dsimp only [settledText]
    cases client.blobs[blob]? with
    | none => exact ⟨⟨rfl, rfl, rfl, rfl, rfl, rfl, rfl⟩, silent⟩
    | some promise =>
      cases promise with
      | none => exact ⟨⟨rfl, rfl, rfl, rfl, rfl, rfl, rfl⟩, silent⟩
      | some text =>
        rw [Option.join_some, Option.bind_some]
        dsimp only
        rw [handleMessageText_eq]
        exact ⟨⟨rfl, rfl, rfl, rfl, rfl, rfl, rfl⟩, rfl⟩

omit [Fpu] in
theorem stop_stopped : client.stop.Stopped := by
  intro _
  unfold stop
  dsimp only
  split
  next ws =>
    rw [setConnected_ws, setConnected_reconnectTimer, setConnected_heartbeatTimer, setConnected_connected]
    exact ⟨ws, rfl, rfl, rfl⟩
  next =>
    rw [setConnected_ws, setConnected_reconnectTimer, setConnected_heartbeatTimer, setConnected_connected]
    exact ⟨rfl, rfl, rfl, rfl⟩

theorem step_stopped (stopped : client.Stopped) : (client.step options input).Stopped := by
  intro inactive
  have active := step_active client options input
  by_cases stops : input.event = .stop
  · have step : client.step options input = client.stop := by
      unfold step
      rw [stops]
    rw [step] at inactive ⊢
    exact stop_stopped inactive
  · have other : input.event ≠ .start := by
      intro starts
      rw [starts, inactive] at active
      exact Bool.false_ne_true active
    have before : client.active = false := by
      rw [inactive] at active
      cases event : input.event with
      | start => exact absurd event other
      | stop => exact absurd event stops
      | _ => rw [event] at active; exact active.symm
    obtain ⟨idle, -⟩ := step_idle options input stopped before other
    obtain ⟨ws, reconnectTimer, heartbeatTimer, connected⟩ := stopped before
    exact ⟨idle.ws.trans ws, idle.reconnectTimer.trans reconnectTimer, idle.heartbeatTimer.trans heartbeatTimer,
      idle.connected.trans connected⟩

/-! ## Runs -/

/-- `stop()` has returned, and `start()` has not been called since. -/
def hasStopped (past : Past ReconnectingWsClient ClientInput) : Bool :=
  past.foldl (fun stopped tick =>
    match tick.2.event with
    | .start => false
    | .stop => true
    | _ => stopped) false

/-- Between `stop()` and the next `start()` no callback runs and no socket is opened. -/
def Silent (past : Past ReconnectingWsClient ClientInput) (client : ReconnectingWsClient) (input : ClientInput) : Prop :=
  hasStopped past = true → input.event ≠ .start →
    (client.step options input).calls = client.calls ∧
      (client.step options input).sockets.length = client.sockets.length

/-- No Blob from before `stop()` settles after it to the text of an envelope. -/
def NoLateEnvelope (past : Past ReconnectingWsClient ClientInput) (client : ReconnectingWsClient) (input : ClientInput) :
    Prop :=
  hasStopped past = true → (settledText client input.event).bind envelopeText = none

/-- A client is silent once stopped exactly along the runs in which no such Blob settles late. -/
theorem silent_iff_no_late_envelope (inputs : List ClientInput) :
    Always (step options) (Silent options) [] (create options) inputs ↔
      Always (step options) NoLateEnvelope [] (create options) inputs := by
  apply Always.iff_of_invariant (D := fun _ _ _ => True)
    (fun past client => client.Stopped ∧ (hasStopped past = true → client.active = false))
  · intro past client input ⟨stopped, inactive⟩ _
    apply imp_congr_right
    intro after
    constructor
    · intro silent
      by_cases starts : input.event = .start
      · rw [starts]
        rfl
      obtain ⟨-, calls⟩ := step_idle options input stopped (inactive after) starts
      have same := calls.symm.trans (silent starts).1
      rw [List.append_right_eq_self, Option.toList_eq_nil_iff, Option.map_eq_none_iff] at same
      exact same
    · intro none other
      obtain ⟨idle, calls⟩ := step_idle options input stopped (inactive after) other
      rw [none] at calls
      exact ⟨calls.trans (List.append_nil _), (congrArg List.length idle.sockets).trans (told_length client input.event)⟩
  · intro past client input ⟨stopped, inactive⟩ _ _
    refine ⟨step_stopped options input stopped, ?_⟩
    rw [hasStopped, List.foldl_append, ← hasStopped, step_active]
    dsimp only [List.foldl_cons, List.foldl_nil]
    cases input.event with
    | start => exact fun starts => absurd starts Bool.false_ne_true
    | stop => exact fun _ => rfl
    | _ => exact inactive
  · exact ⟨fun _ => ⟨rfl, rfl, rfl, rfl⟩, fun stops => absurd stops Bool.false_ne_true⟩
  · exact Always.true _ _ _

end ReconnectingWsClient

namespace ReconnectingWsClient
attribute [local instance] exact

/-- A frame that a socket brings as a Blob before `stop()`, and whose text is read after it. -/
def lateBlob : List ClientInput :=
  [⟨.start, false, 0⟩, ⟨.socketEvent 0 .opened, false, 0⟩,
    ⟨.socketEvent 0 (.message (.blob (some (pyStr "\x7b\"event\":\"WARNING\",\"data\":\x7b\x7d,\"timestamp_s\":1,\"seq\":1\x7d")))),
      false, 0⟩,
    ⟨.stop, false, 0⟩, ⟨.blobSettles 0, false, 0⟩]

/-- The envelope of that frame reaches the stopped client's owner. -/
theorem late_blob_heard : ¬ Always (step {}) (Silent {}) [] (create {}) lateBlob := by
  intro silent
  obtain ⟨-, -, -, -, silent, -⟩ := silent
  obtain ⟨calls, -⟩ := silent rfl (by simp)
  have heard := congrArg List.length calls
  revert heard
  decide +kernel

end ReconnectingWsClient
end AotDrone.Webapp
