import AotDrone.Webapp.AfterStop

/-! What the sockets that a client has dropped can still do to it. -/

namespace AotDrone.Webapp
open AotDrone.Lib AotDrone.Lib.Double AotDrone.Lib.Run AotDrone.Json

/-! ## The sockets -/

/-- The socket of the client, where `counted` says whether it has failed. -/
structure Socket.Held (s : Socket) (counted : Bool) : Prop where
  attached : s.attached = true
  closed : s.closed = false
  failed : s.failed = counted
  raised : s.raised = counted.toNat

/-- A socket that the client has dropped: it is closing or closed, and if it still has handlers it has no more than its
close to tell. -/
structure Socket.Dropped (s : Socket) : Prop where
  live : s.live = false
  last : s.attached = true → s.failed = true ∨ s.closed = true
  raised : s.raised ≤ 1

theorem Socket.Dropped.told {s : Socket} (dropped : s.Dropped) (event : SocketEvent) : (s.told event).Dropped := by
  cases event with
  | opened => exact ⟨dropped.live, dropped.last, dropped.raised⟩
  | message data => exact dropped
  | error => exact ⟨rfl, fun _ => .inl rfl, dropped.raised⟩
  | closed code => exact ⟨rfl, fun _ => .inr rfl, dropped.raised⟩

/-- A dropped socket that still has handlers can only tell its close. -/
theorem Socket.Dropped.mayTell {s : Socket} (dropped : s.Dropped) (attached : s.attached = true) {event : SocketEvent}
    (may : s.mayTell event = true) : ∃ code, event = .closed code := by
  cases event with
  | closed code => exact ⟨code, rfl⟩
  | _ =>
    have last := dropped.last attached
    simp only [Socket.mayTell, Bool.and_eq_true, Bool.not_eq_true'] at may
    simp [may] at last

/-- All sockets but that of the client are dropped. -/
def DroppedBut (socket : Option Nat) (sockets : List Socket) : Prop :=
  ∀ other s, sockets[other]? = some s → socket ≠ some other → s.Dropped

theorem DroppedBut.modify {held : Option Nat} {sockets : List Socket} (dropped : DroppedBut held sockets) (socket : Nat)
    (f : Socket → Socket) (keeps : ∀ s, sockets[socket]? = some s → held ≠ some socket → (f s).Dropped) :
    DroppedBut held (sockets.modify socket f) := by
  intro other s found but
  rw [List.getElem?_modify] at found
  obtain ⟨before, at_other, rfl⟩ := Option.map_eq_some_iff.1 found
  by_cases same : socket = other
  · subst same
    rw [if_pos rfl]
    exact keeps before at_other but
  · rw [if_neg same]
    exact dropped other before at_other but

/-- The client lets go of its socket. -/
theorem DroppedBut.release {socket : Nat} {sockets : List Socket} (dropped : DroppedBut (some socket) sockets)
    (own : ∀ s, sockets[socket]? = some s → s.Dropped) : DroppedBut none sockets := by
  intro other s found _
  by_cases same : socket = other
  · subst same
    exact own s found
  · exact dropped other s found fun equal => same (Option.some.inj equal)

theorem DroppedBut.tell {held : Option Nat} {sockets : List Socket} (dropped : DroppedBut held sockets) {socket : Nat}
    (other : held ≠ some socket) (event : SocketEvent) : DroppedBut held (sockets.modify socket (·.told event)) :=
  dropped.modify socket _ fun s found _ => (dropped socket s found other).told event

theorem DroppedBut.append {sockets : List Socket} (dropped : DroppedBut none sockets) (s : Socket) :
    DroppedBut (some sockets.length) (sockets ++ [s]) := by
  intro other t found but
  have before : other < sockets.length := by
    have bound := (List.getElem?_eq_some_iff.1 found).1
    rw [List.length_append, List.length_singleton] at bound
    have differs : sockets.length ≠ other := fun same => but (congrArg some same)
    omega
  rw [List.getElem?_append_left before] at found
  exact dropped other t found (Option.some_ne_none _).symm

namespace ReconnectingWsClient

/-! ## What the operations change -/

section
variable (client : ReconnectingWsClient)

theorem armHeartbeat_eq (active : client.active = true) :
    ∃ timer timersSet, client.armHeartbeat = { client with heartbeatTimer := some timer, timersSet } := by
  unfold armHeartbeat
  exact ⟨_, _, if_pos active⟩

variable [Fpu] (options : ReconnectingWsClientOptions) (input : ClientInput)

theorem handleMessage_eq (data : MessageData) :
    ∃ blobs calls, client.handleMessage data = { client with blobs, calls } := by
  cases data with
  | text text => exact ⟨client.blobs, _, handleMessageText_eq client text⟩
  | blob text => exact ⟨_, client.calls, rfl⟩
  | other => exact ⟨client.blobs, client.calls, rfl⟩

/-- A reconnect that is already due stays as it is. -/
theorem scheduleReconnect_due (due : client.reconnectTimer.isSome = true) :
    client.scheduleReconnect options input = client := by
  unfold scheduleReconnect
  exact if_pos (.inr due)

theorem scheduleReconnect_eq (active : client.active = true) :
    ∃ timer timersSet reconnectDelayMs, client.scheduleReconnect options input =
      { client with reconnectTimer := some timer, timersSet, reconnectDelayMs } := by
  cases due : client.reconnectTimer with
  | none =>
    unfold scheduleReconnect
    rw [if_neg (by simp [active, due])]
    exact ⟨_, _, _, rfl⟩
  | some timer =>
    refine ⟨timer, client.timersSet, client.reconnectDelayMs, ?_⟩
    rw [scheduleReconnect_due client options input (by rw [due]; rfl), ← due]

end

/-! ## The three phases of a client -/

/-- A client is stopped, waits for its next attempt to connect, or holds one socket. -/
inductive Clean (client : ReconnectingWsClient) : Prop
  | stopped (inactive : client.active = false) (stopped : client.Stopped) (dropped : DroppedBut none client.sockets)
  | waiting (active : client.active = true) (ws : client.ws = none) (due : client.reconnectTimer.isSome = true)
      (heartbeatTimer : client.heartbeatTimer = none) (connected : client.connected = false)
      (errorAlreadyCounted : client.errorAlreadyCounted = false) (dropped : DroppedBut none client.sockets)
  | holding (active : client.active = true) (socket : Nat) (s : Socket) (ws : client.ws = some socket)
      (reconnectTimer : client.reconnectTimer = none) (found : client.sockets[socket]? = some s)
      (held : s.Held client.errorAlreadyCounted) (dropped : DroppedBut (some socket) client.sockets)

section
variable {client : ReconnectingWsClient}

theorem stop_sockets :
    client.stop.sockets =
      match client.ws with
      | none => client.sockets
      | some socket => client.sockets.modify socket fun s => { s with attached := false, live := false } := by
  unfold stop
  dsimp only
  cases client.ws with
  | none => exact setConnected_sockets _ false
  | some socket => exact setConnected_sockets _ false

theorem Clean.stop (clean : client.Clean) : client.stop.Clean := by
  apply Clean.stopped (stop_active client) stop_stopped
  rw [stop_sockets]
  cases clean with
  | stopped inactive stopped dropped =>
    rw [(stopped inactive).1]
    exact dropped
  | waiting active ws due heartbeatTimer connected errorAlreadyCounted dropped =>
    rw [ws]
    exact dropped
  | holding active socket s ws reconnectTimer found held dropped =>
    rw [ws]
    apply (dropped.modify socket _ fun _ _ other => absurd rfl other).release
    intro t at_socket
    rw [List.getElem?_modify_eq, found] at at_socket
    cases at_socket
    exact ⟨rfl, fun attached => absurd attached Bool.false_ne_true, held.raised.trans_le (Bool.toNat_le _)⟩

variable [Fpu] (options : ReconnectingWsClientOptions) (input : ClientInput)

theorem connect_clean (active : client.active = true) (ws : client.ws = none) (connected : client.connected = false)
    (dropped : DroppedBut none client.sockets) : (client.connect options input).Clean := by
  unfold connect
  rw [if_pos active]
  dsimp only
  split
  · obtain ⟨timer, timersSet, delay, scheduled⟩ := scheduleReconnect_eq
      ({ client.clearReconnectTimer.clearHeartbeatTimer with errorAlreadyCounted := false }.countFailure .error none)
      options input active
    rw [scheduled]
    exact .waiting active ws rfl rfl connected rfl dropped
  · exact .holding active client.sockets.length Socket.fresh rfl rfl List.getElem?_concat_length ⟨rfl, rfl, rfl, rfl⟩
      (dropped.append Socket.fresh)

/-- A client that has lost its connection waits for the next attempt. -/
theorem scheduleReconnect_clean (active : client.active = true) (ws : client.ws = none)
    (heartbeatTimer : client.heartbeatTimer = none) (connected : client.connected = false)
    (dropped : DroppedBut none client.sockets) :
    ({ client with errorAlreadyCounted := false }.scheduleReconnect options input).Clean := by
  obtain ⟨timer, timersSet, delay, scheduled⟩ :=
    scheduleReconnect_eq { client with errorAlreadyCounted := false } options input active
  rw [scheduled]
  exact .waiting active ws rfl heartbeatTimer connected rfl dropped

theorem Clean.start (clean : client.Clean) : (client.start options input).Clean := by
  unfold ReconnectingWsClient.start
  cases clean with
  | stopped inactive stopped dropped =>
    obtain ⟨ws, -, -, connected⟩ := stopped inactive
    rw [if_neg (by rw [inactive]; exact Bool.false_ne_true)]
    exact connect_clean options input rfl ws connected dropped
  | waiting active ws due heartbeatTimer connected errorAlreadyCounted dropped =>
    rw [if_pos active]
    exact .waiting active ws due heartbeatTimer connected errorAlreadyCounted dropped
  | holding active socket s ws reconnectTimer found held dropped =>
    rw [if_pos active]
    exact .holding active socket s ws reconnectTimer found held dropped

theorem Clean.reconnectFires (clean : client.Clean) : (client.reconnectFires options input).Clean := by
  unfold ReconnectingWsClient.reconnectFires
  cases timer : client.reconnectTimer with
  | none => exact clean
  | some timer =>
    cases clean with
    | stopped inactive stopped dropped =>
      exact absurd (timer.symm.trans (stopped inactive).2.1) (Option.some_ne_none _)
    | waiting active ws due heartbeatTimer connected errorAlreadyCounted dropped =>
      exact connect_clean options input active ws connected dropped
    | holding active socket s ws reconnectTimer found held dropped =>
      exact absurd (timer.symm.trans reconnectTimer) (Option.some_ne_none _)

omit [Fpu] in
theorem Clean.setHeartbeatTimeoutMs (clean : client.Clean) (timeoutMs : Double) :
    (client.setHeartbeatTimeoutMs timeoutMs).Clean := by
  unfold ReconnectingWsClient.setHeartbeatTimeoutMs
  dsimp only
  split
  · exact clean
  cases clean with
  | stopped inactive stopped dropped =>
    obtain ⟨ws, reconnectTimer, heartbeatTimer, connected⟩ := stopped inactive
    rw [if_neg (by simp [heartbeatTimer])]
    exact .stopped inactive (fun _ => ⟨ws, reconnectTimer, heartbeatTimer, connected⟩) dropped
  | waiting active ws due heartbeatTimer connected errorAlreadyCounted dropped =>
    rw [if_neg (by simp [heartbeatTimer])]
    exact .waiting active ws due heartbeatTimer connected errorAlreadyCounted dropped
  | holding active socket s ws reconnectTimer found held dropped =>
    split
    · obtain ⟨timer, timersSet, armed⟩ := armHeartbeat_eq { client with heartbeatTimeoutMs := timeoutMs } active
      rw [armed]
      exact .holding active socket s ws reconnectTimer found held dropped
    · exact .holding active socket s ws reconnectTimer found held dropped

/-- The client drops a socket that has failed. -/
theorem Clean.heartbeatFires (clean : client.Clean) : (client.heartbeatFires options input).Clean := by
  unfold ReconnectingWsClient.heartbeatFires
  cases timer : client.heartbeatTimer with
  | none => exact clean
  | some timer =>
    dsimp only
    cases clean with
    | stopped inactive stopped dropped =>
      exact absurd (timer.symm.trans (stopped inactive).2.2.1) (Option.some_ne_none _)
    | waiting active ws due heartbeatTimer connected errorAlreadyCounted dropped =>
      exact absurd (timer.symm.trans heartbeatTimer) (Option.some_ne_none _)
    | holding active socket s ws reconnectTimer found held dropped =>
      rw [ws]
      dsimp only
      have others : DroppedBut (some socket) (client.closeSocket socket).sockets :=
        dropped.modify socket _ fun _ _ other => absurd rfl other
      have own : (client.closeSocket socket).sockets[socket]? = some { s with live := false } := by
        change (client.sockets.modify socket _)[socket]? = _
        rw [List.getElem?_modify_eq, found]
        rfl
      split
      next counted =>
        apply scheduleReconnect_clean options input
        · rw [setConnected_active]
          exact active
        · rw [setConnected_ws]
        · rw [setConnected_heartbeatTimer]
          rfl
        · rw [setConnected_connected]
        rw [setConnected_sockets]
        apply others.release
        intro t at_socket
        cases own.symm.trans at_socket
        exact ⟨rfl, fun _ => .inl (held.failed.trans counted), held.raised.trans_le (Bool.toNat_le _)⟩
      next =>
        exact .holding active socket { s with live := false } rfl reconnectTimer own
          ⟨held.attached, held.closed, held.failed, held.raised⟩ others

/-! ## What the handlers change -/

section
variable (client)

omit [Fpu] in
theorem onopen_eq (active : client.active = true) :
    ∃ timer timersSet calls, client.onopen options =
      { client with
        reconnectDelayMs := options.minBackoffMs, consecutiveErrors := 0, errorAlreadyCounted := false
        connected := true, heartbeatTimer := some timer, timersSet, calls } := by
  unfold onopen
  rw [if_pos active]
  dsimp only
  obtain ⟨calls, connected⟩ := setConnected_eq
    { client with reconnectDelayMs := options.minBackoffMs, consecutiveErrors := 0, errorAlreadyCounted := false } true
  rw [connected]
  obtain ⟨timer, timersSet, armed⟩ := armHeartbeat_eq
    { client with
      reconnectDelayMs := options.minBackoffMs, consecutiveErrors := 0, errorAlreadyCounted := false
      connected := true, calls } active
  exact ⟨timer, timersSet, calls, armed⟩

theorem onmessage_eq (active : client.active = true) (data : MessageData) :
    ∃ timer timersSet blobs calls, client.onmessage data =
      { client with heartbeatTimer := some timer, timersSet, blobs, calls } := by
  unfold onmessage
  rw [if_pos active]
  obtain ⟨timer, timersSet, armed⟩ := armHeartbeat_eq client active
  rw [armed]
  obtain ⟨blobs, calls, handled⟩ := handleMessage_eq { client with heartbeatTimer := some timer, timersSet } data
  exact ⟨timer, timersSet, blobs, calls, handled⟩

omit [Fpu] in
theorem onerror_eq (active : client.active = true) {socket : Nat} (ws : client.ws = some socket) :
    ∃ calls, client.onerror =
      { client with
        consecutiveErrors := client.consecutiveErrors + 1, errorAlreadyCounted := true, connected := false, calls
        sockets := client.sockets.modify socket fun s => { s with live := false } } := by
  unfold onerror
  rw [if_pos active]
  dsimp only
  obtain ⟨calls, disconnected⟩ :=
    setConnected_eq ({ client with errorAlreadyCounted := true }.countFailure .error none) false
  rw [disconnected]
  dsimp only [countFailure, call]
  rw [ws]
  exact ⟨calls, rfl⟩

theorem onclose_eq (active : client.active = true) (code : Option ℤ) :
    ∃ timer timersSet reconnectDelayMs calls, client.onclose options input code =
      { client with
        ws := none, connected := false, heartbeatTimer := none, reconnectTimer := some timer, errorAlreadyCounted := false
        consecutiveErrors := client.consecutiveErrors + (!client.errorAlreadyCounted && code != some 1000).toNat
        timersSet, reconnectDelayMs, calls } := by
  unfold onclose
  obtain ⟨calls, disconnected⟩ := setConnected_eq { client.clearHeartbeatTimer with ws := none } false
  rw [disconnected]
  dsimp only [clearHeartbeatTimer]
  rw [if_pos active]
  cases (!client.errorAlreadyCounted && code != some 1000) with
  | false =>
    obtain ⟨timer, timersSet, delay, scheduled⟩ := scheduleReconnect_eq
      { client with ws := none, heartbeatTimer := none, connected := false, errorAlreadyCounted := false, calls }
      options input active
    exact ⟨timer, timersSet, delay, calls, scheduled⟩
  | true =>
    dsimp only [countFailure, call]
    obtain ⟨timer, timersSet, delay, scheduled⟩ := scheduleReconnect_eq
      { client with
        ws := none, heartbeatTimer := none, connected := false, errorAlreadyCounted := false
        consecutiveErrors := client.consecutiveErrors + 1
        calls := calls ++ [.onTransportEvent .abnormalClose code (client.consecutiveErrors + 1)] }
      options input active
    exact ⟨timer, timersSet, delay, _, scheduled⟩

/-- A clean close finds a client that waits as it is. -/
theorem onclose_quiet (active : client.active = true) (ws : client.ws = none) (due : client.reconnectTimer.isSome = true)
    (heartbeatTimer : client.heartbeatTimer = none) (connected : client.connected = false)
    (errorAlreadyCounted : client.errorAlreadyCounted = false) : client.onclose options input (some 1000) = client := by
  have cleared : { client.clearHeartbeatTimer with ws := none } = client := by
    cases client
    cases ws
    cases heartbeatTimer
    rfl
  have reset : { client with errorAlreadyCounted := false } = client := by
    cases client
    cases errorAlreadyCounted
    rfl
  unfold onclose
  rw [cleared, setConnected_same connected]
  dsimp only
  rw [if_pos active, bne_self_eq_false, Bool.and_false, if_neg Bool.false_ne_true, reset]
  exact scheduleReconnect_due client options input due

end

/-! ## What a socket's event changes -/

/-- A late event of a socket that the client has dropped is told, and that is all, where its late close finds the client
waiting and is clean. -/
theorem deliver_late (clean : client.Clean) {socket : Nat} {event : SocketEvent} (late : client.ws ≠ some socket)
    (may : client.sockets[socket]?.any (·.mayTell event) = true)
    (harmless : ∀ code, event = .closed code → client.active = true → client.sockets[socket]?.any Socket.attached = true →
      code = some 1000 ∧ client.ws = none) :
    client.deliver options input socket event = client.updateSocket socket (·.told event) := by
  by_cases attached : client.sockets[socket]?.any Socket.attached = true
  · have close (dropped : ∀ s, client.sockets[socket]? = some s → s.Dropped) : ∃ code, event = .closed code := by
      cases found : client.sockets[socket]? with
      | none =>
        rw [found] at attached
        exact absurd attached Bool.false_ne_true
      | some s =>
        rw [found] at attached may
        exact (dropped s found).mayTell attached may
    cases clean with
    | stopped inactive stopped dropped => exact deliver_idle options input stopped inactive socket event
    | waiting active ws due heartbeatTimer connected errorAlreadyCounted dropped =>
      obtain ⟨code, rfl⟩ := close fun s found => dropped socket s found (Option.some_ne_none _).symm
      obtain ⟨rfl, -⟩ := harmless code rfl active attached
      unfold deliver
      dsimp only
      have quiet : (client.updateSocket socket (·.told (.closed (some 1000)))).handle options input (.closed (some 1000)) =
          client.updateSocket socket (·.told (.closed (some 1000))) :=
        onclose_quiet _ options input active ws due heartbeatTimer connected errorAlreadyCounted
      rw [if_pos attached, quiet, if_neg (lt_irrefl _)]
    | holding active own s ws reconnectTimer found held dropped =>
      obtain ⟨code, rfl⟩ := close fun t at_socket => dropped socket t at_socket (ws ▸ late)
      obtain ⟨-, none⟩ := harmless code rfl active attached
      exact absurd (ws.symm.trans none) (Option.some_ne_none _)
  · exact if_neg attached

omit [Fpu] in
/-- The event of a dropped socket keeps the client in its phase. -/
theorem Clean.tell (clean : client.Clean) {socket : Nat} (late : client.ws ≠ some socket) (event : SocketEvent) :
    (client.updateSocket socket (·.told event)).Clean := by
  cases clean with
  | stopped inactive stopped dropped =>
    exact .stopped inactive stopped (dropped.tell (Option.some_ne_none _).symm event)
  | waiting active ws due heartbeatTimer connected errorAlreadyCounted dropped =>
    exact .waiting active ws due heartbeatTimer connected errorAlreadyCounted
      (dropped.tell (Option.some_ne_none _).symm event)
  | holding active own s ws reconnectTimer found held dropped =>
    have other : own ≠ socket := fun same => late (same ▸ ws)
    refine .holding active own s ws reconnectTimer ?_ held (dropped.tell (ws ▸ late) event)
    exact (List.getElem?_modify_ne _ _ other.symm).trans found

theorem deliver_attached {socket : Nat} {event : SocketEvent}
    (attached : client.sockets[socket]?.any Socket.attached = true) :
    client.deliver options input socket event =
      let told := client.updateSocket socket (·.told event)
      let after := told.handle options input event
      if told.consecutiveErrors < after.consecutiveErrors then
        after.updateSocket socket fun s => { s with raised := s.raised + 1 }
      else after := if_pos attached

section own
variable {socket : Nat} {s : Socket} (found : client.sockets[socket]? = some s)
  (held : s.Held client.errorAlreadyCounted) (dropped : DroppedBut (some socket) client.sockets)

omit [Fpu] in
include found held in
theorem own_attached : client.sockets[socket]?.any Socket.attached = true := by
  rw [found]
  exact held.attached

omit [Fpu] in
include found in
theorem own_told (event : SocketEvent) :
    (client.sockets.modify socket (·.told event))[socket]? = some (s.told event) := by
  rw [List.getElem?_modify_eq, found]
  rfl

omit [Fpu] in
include dropped in
theorem others_told (event : SocketEvent) : DroppedBut (some socket) (client.sockets.modify socket (·.told event)) :=
  dropped.modify socket _ fun _ _ other => absurd rfl other

variable (active : client.active = true)
include found held dropped active

theorem deliver_opened (ws : client.ws = some socket) (reconnectTimer : client.reconnectTimer = none)
    (unfailed : s.failed = false) : (client.deliver options input socket .opened).Clean := by
  obtain ⟨timer, timersSet, calls, opened⟩ := onopen_eq (client.updateSocket socket (·.told .opened)) options active
  rw [deliver_attached options input (own_attached found held)]
  dsimp only
  rw [handle, opened, if_neg (Nat.not_lt_zero _)]
  refine .holding active socket (s.told .opened) ws reconnectTimer (own_told found .opened)
    ⟨held.attached, held.closed, unfailed, ?_⟩ (others_told dropped .opened)
  rw [← unfailed, held.failed]
  exact held.raised

theorem deliver_message (ws : client.ws = some socket) (reconnectTimer : client.reconnectTimer = none)
    (data : MessageData) : (client.deliver options input socket (.message data)).Clean := by
  obtain ⟨timer, timersSet, blobs, calls, handled⟩ :=
    onmessage_eq (client.updateSocket socket (·.told (.message data))) active data
  rw [deliver_attached options input (own_attached found held)]
  dsimp only
  rw [handle, handled, if_neg (lt_irrefl _)]
  exact .holding active socket s ws reconnectTimer (own_told found (.message data)) held
    (others_told dropped (.message data))

theorem deliver_error (ws : client.ws = some socket) (reconnectTimer : client.reconnectTimer = none)
    (unfailed : s.failed = false) : (client.deliver options input socket .error).Clean := by
  obtain ⟨calls, failed⟩ := onerror_eq (client.updateSocket socket (·.told .error)) active ws
  rw [deliver_attached options input (own_attached found held)]
  dsimp only
  rw [handle, failed, if_pos (Nat.lt_succ_self _)]
  refine .holding active socket { s with failed := true, live := false, raised := s.raised + 1 } ws reconnectTimer ?_
    ⟨held.attached, held.closed, rfl, ?_⟩ ?_
  · change (((client.sockets.modify socket _).modify socket _).modify socket _)[socket]? = _
    rw [List.getElem?_modify_eq, List.getElem?_modify_eq, own_told found .error]
    rfl
  · have fresh : s.raised = 0 := by
      rw [held.raised, ← held.failed, unfailed]
      rfl
    exact congrArg Nat.succ fresh
  · apply DroppedBut.modify _ socket _ fun _ _ other => absurd rfl other
    exact (others_told dropped .error).modify socket _ fun _ _ other => absurd rfl other

/-- The client drops its socket and waits. The close is counted unless the failure before it was. -/
theorem deliver_closed (code : Option ℤ) : (client.deliver options input socket (.closed code)).Clean := by
  have own := own_told found (.closed code)
  have others := others_told dropped (.closed code)
  obtain ⟨timer, timersSet, delay, calls, closed⟩ :=
    onclose_eq (client.updateSocket socket (·.told (.closed code))) options input active code
  rw [deliver_attached options input (own_attached found held)]
  dsimp only
  rw [handle, closed]
  split
  next counted =>
    have uncounted : client.errorAlreadyCounted = false := by
      by_contra already
      rw [Bool.not_eq_false] at already
      change _ < _ + (!client.errorAlreadyCounted && code != some 1000).toNat at counted
      rw [already] at counted
      exact lt_irrefl _ counted
    have fresh : s.raised = 0 := by
      rw [held.raised, uncounted]
      rfl
    refine .waiting active rfl rfl rfl rfl rfl ?_
    apply DroppedBut.release (others.modify socket _ fun _ _ other => absurd rfl other)
    intro t at_socket
    rw [List.getElem?_modify_eq, own] at at_socket
    cases at_socket
    exact ⟨rfl, fun _ => .inr rfl, (congrArg Nat.succ fresh).le⟩
  next =>
    refine .waiting active rfl rfl rfl rfl rfl ?_
    apply others.release
    intro t at_socket
    cases own.symm.trans at_socket
    exact ⟨rfl, fun _ => .inr rfl, held.raised.trans_le (Bool.toNat_le _)⟩

end own

/-- The event of the client's own socket keeps the client clean. -/
theorem deliver_own (active : client.active = true) {socket : Nat} {s : Socket} (ws : client.ws = some socket)
    (reconnectTimer : client.reconnectTimer = none) (found : client.sockets[socket]? = some s)
    (held : s.Held client.errorAlreadyCounted) (dropped : DroppedBut (some socket) client.sockets) {event : SocketEvent}
    (may : s.mayTell event = true) : (client.deliver options input socket event).Clean := by
  cases event with
  | opened =>
    simp only [Socket.mayTell, Bool.and_eq_true, Bool.not_eq_true'] at may
    exact deliver_opened options input found held dropped active ws reconnectTimer may.1.2
  | message data => exact deliver_message options input found held dropped active ws reconnectTimer data
  | error =>
    simp only [Socket.mayTell, Bool.and_eq_true, Bool.not_eq_true'] at may
    exact deliver_error options input found held dropped active ws reconnectTimer may.1
  | closed code => exact deliver_closed options input found held dropped active code

/-! ## Runs -/

/-- A socket tells only what it may. -/
def mayHappen (client : ReconnectingWsClient) : ClientEvent → Bool
  | .socketEvent socket event => client.sockets[socket]?.any (·.mayTell event)
  | _ => true

def Lawful (_past : Past ReconnectingWsClient ClientInput) (client : ReconnectingWsClient) (input : ClientInput) : Prop :=
  client.mayHappen input.event = true

/-- What a late event must leave as it is. -/
structure Undisturbed (before after : ReconnectingWsClient) : Prop where
  ws : after.ws = before.ws
  connected : after.connected = before.connected
  reconnectTimer : after.reconnectTimer = before.reconnectTimer
  heartbeatTimer : after.heartbeatTimer = before.heartbeatTimer
  consecutiveErrors : after.consecutiveErrors = before.consecutiveErrors
  errorAlreadyCounted : after.errorAlreadyCounted = before.errorAlreadyCounted

/-- At most one socket is neither closing nor closed, an event of a socket that is not the client's changes nothing, and
no socket has raised `consecutiveErrors` twice. -/
structure Orderly (_past : Past ReconnectingWsClient ClientInput) (client : ReconnectingWsClient) (input : ClientInput) :
    Prop where
  alone : ∀ i j : Nat, (client.step options input).sockets[i]?.any Socket.live = true →
    (client.step options input).sockets[j]?.any Socket.live = true → i = j
  late : ∀ socket event, input.event = .socketEvent socket event → client.ws ≠ some socket →
    Undisturbed client (client.step options input)
  once : ∀ s ∈ (client.step options input).sockets, s.raised ≤ 1

/-- The late close of a socket that still has its handlers is clean and finds an active client without a successor. -/
def LateCloseHarmless (_past : Past ReconnectingWsClient ClientInput) (client : ReconnectingWsClient)
    (input : ClientInput) : Prop :=
  ∀ socket code, input.event = .socketEvent socket (.closed code) → client.ws ≠ some socket → client.active = true →
    client.sockets[socket]?.any Socket.attached = true → code = some 1000 ∧ client.ws = none

omit [Fpu] in
/-- Only the client's own socket is live. -/
theorem Clean.live (clean : client.Clean) {socket : Nat} (live : client.sockets[socket]?.any Socket.live = true) :
    client.ws = some socket := by
  have own (dropped : DroppedBut client.ws client.sockets) : client.ws = some socket := by
    by_contra other
    cases found : client.sockets[socket]? with
    | none =>
      rw [found] at live
      exact Bool.false_ne_true live
    | some s =>
      rw [found] at live
      exact Bool.false_ne_true ((dropped socket s found other).live.symm.trans live)
  cases clean with
  | stopped inactive stopped dropped => exact own ((stopped inactive).1 ▸ dropped)
  | waiting active ws due heartbeatTimer connected errorAlreadyCounted dropped => exact own (ws ▸ dropped)
  | holding active own' s ws reconnectTimer found held dropped => exact own (ws ▸ dropped)

omit [Fpu] in
theorem Clean.once (clean : client.Clean) {s : Socket} (mem : s ∈ client.sockets) : s.raised ≤ 1 := by
  obtain ⟨socket, found⟩ := List.mem_iff_getElem?.1 mem
  cases clean with
  | stopped inactive stopped dropped => exact (dropped socket s found (Option.some_ne_none _).symm).raised
  | waiting active ws due heartbeatTimer connected errorAlreadyCounted dropped =>
    exact (dropped socket s found (Option.some_ne_none _).symm).raised
  | holding active own t ws reconnectTimer at_own held dropped =>
    by_cases same : own = socket
    · subst same
      cases at_own.symm.trans found
      exact held.raised.trans_le (Bool.toNat_le _)
    · exact (dropped socket s found fun equal => same (Option.some.inj equal)).raised

omit [Fpu] in
/-- The text of a message changes nothing that the phase of a client depends on. -/
theorem Clean.hear (clean : client.Clean) (blobs : List (Option PyStr)) (calls : List Callback) :
    { client with blobs, calls }.Clean := by
  cases clean with
  | stopped inactive stopped dropped => exact .stopped inactive stopped dropped
  | waiting active ws due heartbeatTimer connected errorAlreadyCounted dropped =>
    exact .waiting active ws due heartbeatTimer connected errorAlreadyCounted dropped
  | holding active socket s ws reconnectTimer found held dropped =>
    exact .holding active socket s ws reconnectTimer found held dropped

theorem step_clean (past : Past ReconnectingWsClient ClientInput) (clean : client.Clean) (lawful : Lawful past client input)
    (harmless : LateCloseHarmless past client input) : (client.step options input).Clean := by
  unfold step
  cases event : input.event with
  | start => exact clean.start options input
  | stop => exact clean.stop
  | setHeartbeatTimeoutMs timeoutMs => exact clean.setHeartbeatTimeoutMs timeoutMs
  | reconnectFires => exact clean.reconnectFires options input
  | heartbeatFires => exact clean.heartbeatFires options input
  | socketEvent socket tells =>
    rw [Lawful, event, mayHappen] at lawful
    by_cases late : client.ws = some socket
    · cases clean with
      | stopped inactive stopped dropped => exact absurd ((stopped inactive).1.symm.trans late) (Option.some_ne_none _).symm
      | waiting active ws due heartbeatTimer connected errorAlreadyCounted dropped =>
        exact absurd (ws.symm.trans late) (Option.some_ne_none _).symm
      | holding active own s ws reconnectTimer found held dropped =>
        cases ws.symm.trans late
        rw [found] at lawful
        exact deliver_own options input active ws reconnectTimer found held dropped lawful
    · dsimp only
      rw [deliver_late options input clean late lawful fun code closed active attached =>
        harmless socket code (event.trans (congrArg _ closed)) late active attached]
      exact clean.tell late tells
  | blobSettles blob =>
    dsimp only
    split
    next text _ =>
      rw [handleMessageText_eq]
      exact clean.hear _ _
    next => exact clean.hear _ client.calls

/-- No other close than the harmless one leaves an active client undisturbed. -/
theorem late_close_disturbs (clean : client.Clean) {socket : Nat} {code : Option ℤ} (active : client.active = true)
    (attached : client.sockets[socket]?.any Socket.attached = true)
    (undisturbed : Undisturbed client (client.deliver options input socket (.closed code))) :
    code = some 1000 ∧ client.ws = none := by
  obtain ⟨timer, timersSet, delay, calls, closed⟩ :=
    onclose_eq (client.updateSocket socket (·.told (.closed code))) options input active code
  have same : (client.deliver options input socket (.closed code)).ws = none ∧
      (client.deliver options input socket (.closed code)).consecutiveErrors =
        client.consecutiveErrors + (!client.errorAlreadyCounted && code != some 1000).toNat := by
    rw [deliver_attached options input attached]
    dsimp only
    rw [handle, closed]
    split <;> exact ⟨rfl, rfl⟩
  have ws : client.ws = none := undisturbed.ws.symm.trans same.1
  cases clean with
  | stopped inactive stopped dropped => exact absurd (inactive.symm.trans active) Bool.false_ne_true
  | waiting _ _ due heartbeatTimer connected errorAlreadyCounted dropped =>
    refine ⟨?_, ws⟩
    have counted := same.2.symm.trans undisturbed.consecutiveErrors
    rw [errorAlreadyCounted, Bool.not_false, Bool.true_and] at counted
    by_contra abnormal
    rw [bne_iff_ne.2 abnormal] at counted
    exact Nat.succ_ne_self _ counted
  | holding _ own s held reconnectTimer found => exact absurd (held.symm.trans ws) (Option.some_ne_none _)

/-- While its sockets tell only what they may, a client stays in order exactly along the runs in which every late close is
harmless. -/
theorem orderly_iff_late_close_harmless (inputs : List ClientInput)
    (lawful : Always (step options) Lawful [] (create options) inputs) :
    Always (step options) (Orderly options) [] (create options) inputs ↔
      Always (step options) LateCloseHarmless [] (create options) inputs := by
  have fresh : (create options).Clean := by
    refine .stopped rfl (fun _ => ⟨rfl, rfl, rfl, rfl⟩) ?_
    intro other s found
    exact absurd found (Option.some_ne_none s).symm
  apply Always.iff_of_invariant (fun _ client => client.Clean) _ _ [] (create options) inputs fresh lawful
  · intro past client input clean may
    have late_step {socket : Nat} {event : SocketEvent} (tells : input.event = .socketEvent socket event) :
        client.step options input = client.deliver options input socket event := by
      unfold step
      rw [tells]
    constructor
    · intro orderly socket code closes late active attached
      have undisturbed := orderly.late socket (.closed code) closes late
      rw [late_step closes] at undisturbed
      exact late_close_disturbs options input clean active attached undisturbed
    · intro harmless
      have after := step_clean options input past clean may harmless
      refine ⟨fun i j first second => ?_, fun socket event tells late => ?_, fun s mem => after.once mem⟩
      · exact Option.some.inj ((after.live first).symm.trans (after.live second))
      · rw [Lawful, tells, mayHappen] at may
        rw [late_step tells, deliver_late options input clean late may fun code closed active attached =>
          harmless socket code (tells.trans (congrArg _ closed)) late active attached]
        exact ⟨rfl, rfl, rfl, rfl, rfl, rfl⟩
  · intro past client input clean may harmless
    exact step_clean options input past clean may harmless

end

attribute [local instance] exact

/-- A socket fails and closes, and its successor opens. -/
theorem successor_orderly :
    Always (step {}) (Orderly {}) [] (create {})
      [⟨.start, false, 0⟩, ⟨.socketEvent 0 .opened, false, 0⟩, ⟨.socketEvent 0 .error, false, 0⟩,
        ⟨.socketEvent 0 (.closed (some 1006)), false, 0⟩, ⟨.reconnectFires, false, 0⟩,
        ⟨.socketEvent 1 .opened, false, 0⟩] := by
  apply (orderly_iff_late_close_harmless {} _ _).2
  · refine ⟨?_, ?_, ?_, ?_, ?_, ?_, trivial⟩
    all_goals
      intro socket code closes
      cases closes
    exact fun other => absurd rfl other
  · exact ⟨rfl, rfl, rfl, rfl, rfl, rfl, trivial⟩

/-- The close of socket 0 comes after the heartbeat has given it up and socket 1 has opened. -/
def lateClose : List ClientInput :=
  [⟨.start, false, 0⟩, ⟨.socketEvent 0 .opened, false, 0⟩, ⟨.socketEvent 0 .error, false, 0⟩, ⟨.heartbeatFires, false, 0⟩,
    ⟨.reconnectFires, false, 0⟩, ⟨.socketEvent 1 .opened, false, 0⟩, ⟨.socketEvent 0 (.closed (some 1006)), false, 0⟩]

/-- That close takes socket 1 from the client while it is open. -/
theorem late_close_drops_successor :
    Always (step {}) Lawful [] (create {}) lateClose ∧ ¬ Always (step {}) (Orderly {}) [] (create {}) lateClose := by
  refine ⟨⟨rfl, rfl, rfl, rfl, rfl, rfl, rfl, trivial⟩, ?_⟩
  intro ⟨_, _, _, _, _, _, orderly, _⟩
  have ws := (orderly.late 0 (.closed (some 1006)) rfl (by decide +kernel)).ws
  revert ws
  decide +kernel

end ReconnectingWsClient
end AotDrone.Webapp
