import AotDrone.Lib.EventLoop
import AotDrone.Webapp.Superseded

/-! `ReconnectingWsClient` in the event loop of its page: what `setTimeout` and `clearTimeout` leave waiting, and the
callbacks that fire. The client alone is the page seen without its loop. -/

namespace AotDrone.Webapp
open AotDrone.Lib AotDrone.Lib.Double AotDrone.Lib.Run AotDrone.Lib.EventLoop AotDrone.Json

/-- The two callbacks that the client gives to `setTimeout`. -/
inductive TimerCallback where
  | reconnect
  | heartbeat
  deriving DecidableEq

namespace ReconnectingWsClient
variable (client : ReconnectingWsClient)

/-- `reconnectTimerId` and `heartbeatTimerId`. -/
def timerId : TimerCallback → Option Nat
  | .reconnect => client.reconnectTimer.map Timer.number
  | .heartbeat => client.heartbeatTimer.map Timer.number

def setTimer (timer : Option Timer) : TimerCallback → ReconnectingWsClient
  | .reconnect => { client with reconnectTimer := timer }
  | .heartbeat => { client with heartbeatTimer := timer }

@[simp] theorem setTimer_timersSet (timer : Option Timer) (callback : TimerCallback) :
    (client.setTimer timer callback).timersSet = client.timersSet := by
  cases callback <;> rfl

theorem setTimer_timerId (timer : Option Timer) (callback : TimerCallback) :
    (client.setTimer timer callback).timerId = Function.update client.timerId callback (timer.map Timer.number) := by
  funext other
  cases callback <;> cases other <;> rfl

/-- A timer that is not set stays so. -/
theorem setTimer_same {callback : TimerCallback} (free : client.timerId callback = none) :
    client.setTimer none callback = client := by
  cases callback with
  | reconnect =>
    have none : client.reconnectTimer = none := Option.map_eq_none_iff.1 free
    rw [setTimer, ← none]
  | heartbeat =>
    have none : client.heartbeatTimer = none := Option.map_eq_none_iff.1 free
    rw [setTimer, ← none]

section
variable [Fpu] (options : ReconnectingWsClientOptions) (input : ClientInput) {client} {timer : Timer}

theorem heartbeatFires_unset (fires : client.heartbeatTimer = some timer) (ws : client.ws = none) :
    client.heartbeatFires options input = client.clearHeartbeatTimer := by
  unfold heartbeatFires
  rw [fires]
  cases client
  cases ws
  rfl

theorem heartbeatFires_held (fires : client.heartbeatTimer = some timer) {socket : Nat} (ws : client.ws = some socket) :
    client.heartbeatFires options input =
      let client := client.clearHeartbeatTimer.closeSocket socket
      if client.errorAlreadyCounted then
        { { client with ws := none }.setConnected false with errorAlreadyCounted := false }.scheduleReconnect options input
      else client := by
  unfold heartbeatFires
  rw [fires]
  cases client
  cases ws
  rfl

end

/-- The handler of an error leaves the socket, the timers and the backoff alone. -/
theorem onerror_changes :
    ∃ consecutiveErrors errorAlreadyCounted connected sockets calls, client.onerror =
      { client with consecutiveErrors, errorAlreadyCounted, connected, sockets, calls } := by
  unfold onerror
  split
  · obtain ⟨calls, disconnected⟩ :=
      setConnected_eq ({ client with errorAlreadyCounted := true }.countFailure .error none) false
    rw [disconnected]
    dsimp only
    split
    · exact ⟨_, _, _, _, _, rfl⟩
    · exact ⟨_, _, _, _, _, rfl⟩
  · exact ⟨_, _, _, _, _, rfl⟩

end ReconnectingWsClient

structure Page where
  client : ReconnectingWsClient
  loop : Loop TimerCallback Double

inductive PageEvent where
  | start
  | stop
  | setHeartbeatTimeoutMs (timeoutMs : Double)
  | timerFires (timer : Nat)
  | socketEvent (socket : Nat) (event : SocketEvent)
  | blobSettles (blob : Nat)

/-- What happens, with what the WebSocket constructor and the random source do if they are asked. -/
structure PageInput where
  event : PageEvent
  constructorThrows : Bool := false
  random : Double := 0

/-- The same for the client alone. -/
def PageInput.toClient (input : PageInput) (event : ClientEvent) : ClientInput :=
  ⟨event, input.constructorThrows, input.random⟩

theorem PageInput.toClient_constructorThrows (input : PageInput) (event : ClientEvent) :
    (input.toClient event).constructorThrows = input.constructorThrows := rfl

namespace Page
variable [Fpu] (options : ReconnectingWsClientOptions)

def create : Page := ⟨.create options, .idle⟩

variable (input : PageInput) (page : Page)

/-- What the client does without its timers. -/
def update (f : ReconnectingWsClient → ReconnectingWsClient) : Page := { page with client := f page.client }

def setTimeout (callback : TimerCallback) (delayMs : Double) : Page where
  client :=
    { page.client.setTimer (some ⟨page.loop.made.length, delayMs⟩) callback with
      timersSet := page.client.timersSet + 1 }
  loop := page.loop.setTimeout callback delayMs

def clearTimer (callback : TimerCallback) : Page :=
  match page.client.timerId callback with
  | none => page
  | some timer => ⟨page.client.setTimer none callback, page.loop.clearTimeout timer⟩

def clearReconnectTimer : Page := page.clearTimer .reconnect

def clearHeartbeatTimer : Page := page.clearTimer .heartbeat

def armHeartbeat : Page :=
  let page := page.clearHeartbeatTimer
  if page.client.active then page.setTimeout .heartbeat page.client.heartbeatTimeoutMs else page

def scheduleReconnect : Page :=
  if ¬ page.client.active ∨ page.client.reconnectTimer.isSome then page
  else
    let jitterFactor := 0.7 + 0.6 * input.random
    let jitteredMs := mathMax 0 (mathRound (page.client.reconnectDelayMs * jitterFactor))
    (page.setTimeout .reconnect jitteredMs).update fun client =>
      { client with reconnectDelayMs := mathMin (client.reconnectDelayMs * 2) options.maxBackoffMs }

def connect : Page :=
  if page.client.active then
    let page :=
      page.clearReconnectTimer.clearHeartbeatTimer.update fun client => { client with errorAlreadyCounted := false }
    if input.constructorThrows then (page.update (·.countFailure .error none)).scheduleReconnect options input
    else
      page.update fun client =>
        { client with ws := some client.sockets.length, sockets := client.sockets ++ [Socket.fresh] }
  else page

def start : Page :=
  if page.client.active then page else (page.update fun client => { client with active := true }).connect options input

def stop : Page :=
  let page := (page.update fun client => { client with active := false }).clearReconnectTimer.clearHeartbeatTimer
  let page :=
    match page.client.ws with
    | none => page
    | some socket =>
      page.update fun client =>
        { client.updateSocket socket fun s => { s with attached := false, live := false } with ws := none }
  page.update (·.setConnected false)

def setHeartbeatTimeoutMs (timeoutMs : Double) : Page :=
  if timeoutMs.isFinite = false ∨ timeoutMs ≤ 0 then page
  else
    let page := page.update fun client => { client with heartbeatTimeoutMs := timeoutMs }
    if page.client.heartbeatTimer.isSome then page.armHeartbeat else page

/-! The handlers of a socket. That of an error leaves the timers alone. -/

def onopen : Page :=
  if page.client.active then
    let page := page.update fun client =>
      { client with reconnectDelayMs := options.minBackoffMs, consecutiveErrors := 0, errorAlreadyCounted := false }
    (page.update (·.setConnected true)).armHeartbeat
  else page

def onmessage (data : MessageData) : Page :=
  if page.client.active then page.armHeartbeat.update (·.handleMessage data) else page

def onclose (code : Option ℤ) : Page :=
  let page := (page.clearHeartbeatTimer.update fun client => { client with ws := none }).update (·.setConnected false)
  if page.client.active then
    let shouldReportFailure := !page.client.errorAlreadyCounted && code != some 1000
    let page := if shouldReportFailure then page.update (·.countFailure .abnormalClose code) else page
    (page.update fun client => { client with errorAlreadyCounted := false }).scheduleReconnect options input
  else page

def handle : SocketEvent → Page
  | .opened => page.onopen options
  | .message data => page.onmessage data
  | .error => page.update (·.onerror)
  | .closed code => page.onclose options input code

/-! The callbacks of the timers. -/

def reconnectFires : Page :=
  (page.update fun client => { client with reconnectTimer := none }).connect options input

def heartbeatFires : Page :=
  let page := page.update fun client => { client with heartbeatTimer := none }
  match page.client.ws with
  | none => page
  | some socket =>
    let page := page.update (·.closeSocket socket)
    if page.client.errorAlreadyCounted then
      let page := page.update fun client =>
        { { client with ws := none }.setConnected false with errorAlreadyCounted := false }
      page.scheduleReconnect options input
    else page

/-- A timer that waits leaves the loop and runs its callback. -/
def timerFires (timer : Nat) : Page :=
  match page.loop.timer? timer with
  | none => page
  | some due =>
    let page := { page with loop := page.loop.clearTimeout timer }
    match due.callback with
    | .reconnect => page.reconnectFires options input
    | .heartbeat => page.heartbeatFires options input

def deliver (socket : Nat) (event : SocketEvent) : Page :=
  let told := page.update (·.updateSocket socket (·.told event))
  if (page.client.sockets[socket]?.any Socket.attached) = true then
    let after := told.handle options input event
    if told.client.consecutiveErrors < after.client.consecutiveErrors then
      after.update (·.updateSocket socket fun s => { s with raised := s.raised + 1 })
    else after
  else told

def blobSettles (blob : Nat) : Page :=
  let settled := page.update fun client => { client with blobs := client.blobs.eraseIdx blob }
  match page.client.blobs[blob]? with
  | some (some text) => settled.update (·.handleMessageText text)
  | _ => settled

def step (page : Page) (input : PageInput) : Page :=
  match input.event with
  | .start => page.start options input
  | .stop => page.stop
  | .setHeartbeatTimeoutMs timeoutMs => page.setHeartbeatTimeoutMs timeoutMs
  | .timerFires timer => page.timerFires options input timer
  | .socketEvent socket event => page.deliver options input socket event
  | .blobSettles blob => page.blobSettles blob

/-! ## The client alone -/

/-- The client knows the timers that wait, and has counted those it made. -/
structure Sound : Prop where
  owned : page.loop.Owned page.client.timerId
  counted : page.client.timersSet = page.loop.made.length

/-- The page is sound and `client` is its client. -/
structure Shows (page : Page) (client : ReconnectingWsClient) : Prop where
  sound : page.Sound
  same : page.client = client

section
variable {page} {client : ReconnectingWsClient}

omit [Fpu] in
theorem Shows.create : (create options).Shows (.create options) := by
  have none : (ReconnectingWsClient.create options).timerId = fun _ => none := by
    funext callback
    cases callback <;> rfl
  refine ⟨⟨?_, rfl⟩, rfl⟩
  change Loop.idle.Owned (ReconnectingWsClient.create options).timerId
  rw [none]
  exact Loop.Owned.idle

omit [Fpu] in
/-- What leaves the timers of the client alone leaves the loop alone. -/
theorem Shows.update (shows : page.Shows client) {f : ReconnectingWsClient → ReconnectingWsClient}
    (timerId : (f client).timerId = client.timerId) (timersSet : (f client).timersSet = client.timersSet) :
    (page.update f).Shows (f client) := by
  obtain ⟨⟨owned, counted⟩, rfl⟩ := shows
  refine ⟨⟨?_, timersSet.trans counted⟩, rfl⟩
  change page.loop.Owned (f page.client).timerId
  rw [timerId]
  exact owned

omit [Fpu] in
theorem Shows.clearTimer (shows : page.Shows client) (callback : TimerCallback) :
    (page.clearTimer callback).Shows (client.setTimer none callback) := by
  obtain ⟨⟨owned, counted⟩, rfl⟩ := shows
  unfold Page.clearTimer
  cases known : page.client.timerId callback with
  | none =>
    rw [page.client.setTimer_same known]
    exact ⟨⟨owned, counted⟩, rfl⟩
  | some timer =>
    refine ⟨⟨?_, ?_⟩, rfl⟩
    · change (page.loop.clearTimeout timer).Owned (page.client.setTimer none callback).timerId
      rw [page.client.setTimer_timerId]
      exact owned.clearTimeout known
    · exact (page.client.setTimer_timersSet none callback).trans counted

omit [Fpu] in
theorem Shows.setTimeout (shows : page.Shows client) {callback : TimerCallback}
    (free : client.timerId callback = none) (delayMs : Double) :
    (page.setTimeout callback delayMs).Shows
      { client.setTimer (some ⟨client.timersSet, delayMs⟩) callback with timersSet := client.timersSet + 1 } := by
  obtain ⟨⟨owned, counted⟩, rfl⟩ := shows
  refine ⟨⟨?_, ?_⟩, ?_⟩
  · change (page.loop.setTimeout callback delayMs).Owned (page.client.setTimer _ callback).timerId
    rw [page.client.setTimer_timerId]
    exact owned.setTimeout free delayMs
  · change page.client.timersSet + 1 = (page.loop.made ++ [_]).length
    rw [counted, List.length_append, List.length_singleton]
  · unfold Page.setTimeout
    rw [counted]

omit [Fpu] in
theorem Shows.clearReconnectTimer (shows : page.Shows client) :
    page.clearReconnectTimer.Shows client.clearReconnectTimer := shows.clearTimer .reconnect

omit [Fpu] in
theorem Shows.clearHeartbeatTimer (shows : page.Shows client) :
    page.clearHeartbeatTimer.Shows client.clearHeartbeatTimer := shows.clearTimer .heartbeat

omit [Fpu] in
theorem Shows.armHeartbeat (shows : page.Shows client) : page.armHeartbeat.Shows client.armHeartbeat := by
  have cleared := shows.clearHeartbeatTimer
  unfold Page.armHeartbeat ReconnectingWsClient.armHeartbeat
  dsimp only
  rw [cleared.same]
  split
  · exact cleared.setTimeout rfl _
  · exact cleared

variable (event : ClientEvent)

theorem Shows.scheduleReconnect (shows : page.Shows client) :
    (page.scheduleReconnect options input).Shows (client.scheduleReconnect options (input.toClient event)) := by
  unfold Page.scheduleReconnect ReconnectingWsClient.scheduleReconnect
  rw [shows.same]
  split
  · exact shows
  next waits =>
    obtain ⟨-, unset⟩ := not_or.1 waits
    have free : client.timerId .reconnect = none := Option.map_eq_none_iff.2 (Option.not_isSome_iff_eq_none.1 unset)
    exact (shows.setTimeout free _).update rfl rfl

theorem Shows.connect (shows : page.Shows client) :
    (page.connect options input).Shows (client.connect options (input.toClient event)) := by
  unfold Page.connect ReconnectingWsClient.connect
  rw [shows.same]
  split
  · have cleared := shows.clearReconnectTimer.clearHeartbeatTimer.update
      (f := fun client => { client with errorAlreadyCounted := false }) rfl rfl
    dsimp only
    rw [PageInput.toClient_constructorThrows]
    split
    · exact (cleared.update (f := (·.countFailure .error none)) rfl rfl).scheduleReconnect options input event
    · exact cleared.update rfl rfl
  · exact shows

theorem Shows.start (shows : page.Shows client) :
    (page.start options input).Shows (client.start options (input.toClient event)) := by
  unfold Page.start ReconnectingWsClient.start
  rw [shows.same]
  split
  · exact shows
  · exact (shows.update (f := fun client => { client with active := true }) rfl rfl).connect options input event

omit [Fpu] in
theorem Shows.setConnected (shows : page.Shows client) (connected : Bool) :
    (page.update (·.setConnected connected)).Shows (client.setConnected connected) := by
  apply shows.update
  · exact client.setConnected_field connected ReconnectingWsClient.timerId fun _ _ => rfl
  · exact client.setConnected_field connected ReconnectingWsClient.timersSet fun _ _ => rfl

omit [Fpu] in
theorem Shows.stop (shows : page.Shows client) : page.stop.Shows client.stop := by
  have cleared := (shows.update (f := fun client => { client with active := false }) rfl rfl)
    |>.clearReconnectTimer.clearHeartbeatTimer
  unfold Page.stop ReconnectingWsClient.stop
  dsimp only
  rw [cleared.same]
  rcases Option.eq_none_or_eq_some client.ws with unset | ⟨socket, held⟩
  · have ws : { client with active := false }.clearReconnectTimer.clearHeartbeatTimer.ws = none := unset
    rw [ws]
    exact cleared.setConnected false
  · have ws : { client with active := false }.clearReconnectTimer.clearHeartbeatTimer.ws = some socket := held
    rw [ws]
    exact (cleared.update rfl rfl).setConnected false

omit [Fpu] in
theorem Shows.setHeartbeatTimeoutMs (shows : page.Shows client) (timeoutMs : Double) :
    (page.setHeartbeatTimeoutMs timeoutMs).Shows (client.setHeartbeatTimeoutMs timeoutMs) := by
  have set := shows.update (f := fun client => { client with heartbeatTimeoutMs := timeoutMs }) rfl rfl
  unfold Page.setHeartbeatTimeoutMs ReconnectingWsClient.setHeartbeatTimeoutMs
  dsimp only
  rw [set.same]
  split
  · exact shows
  · split
    · exact set.armHeartbeat
    · exact set

omit [Fpu] in
theorem Shows.onopen (shows : page.Shows client) : (page.onopen options).Shows (client.onopen options) := by
  unfold Page.onopen ReconnectingWsClient.onopen
  rw [shows.same]
  split
  · have reset := shows.update
      (f := fun client =>
        { client with reconnectDelayMs := options.minBackoffMs, consecutiveErrors := 0, errorAlreadyCounted := false })
      rfl rfl
    exact (reset.setConnected true).armHeartbeat
  · exact shows

theorem Shows.handleMessage (shows : page.Shows client) (data : MessageData) :
    (page.update (·.handleMessage data)).Shows (client.handleMessage data) := by
  obtain ⟨blobs, calls, equal⟩ := client.handleMessage_eq data
  apply shows.update
  · rw [equal]
    rfl
  · rw [equal]

theorem Shows.onmessage (shows : page.Shows client) (data : MessageData) :
    (page.onmessage data).Shows (client.onmessage data) := by
  unfold Page.onmessage ReconnectingWsClient.onmessage
  rw [shows.same]
  split
  · exact shows.armHeartbeat.handleMessage data
  · exact shows

omit [Fpu] in
theorem Shows.onerror (shows : page.Shows client) : (page.update (·.onerror)).Shows client.onerror := by
  obtain ⟨consecutiveErrors, errorAlreadyCounted, connected, sockets, calls, equal⟩ := client.onerror_changes
  apply shows.update
  · rw [equal]
    rfl
  · rw [equal]

theorem Shows.onclose (shows : page.Shows client) (code : Option ℤ) :
    (page.onclose options input code).Shows (client.onclose options (input.toClient event) code) := by
  have lost := (shows.clearHeartbeatTimer.update (f := fun client => { client with ws := none }) rfl rfl).setConnected false
  unfold Page.onclose ReconnectingWsClient.onclose
  dsimp only
  rw [lost.same]
  split
  · split
    · have counted := lost.update (f := (·.countFailure .abnormalClose code)) rfl rfl
      exact (counted.update (f := fun client => { client with errorAlreadyCounted := false }) rfl rfl).scheduleReconnect
        options input event
    · exact (lost.update (f := fun client => { client with errorAlreadyCounted := false }) rfl rfl).scheduleReconnect
        options input event
  · exact lost

theorem Shows.handle (shows : page.Shows client) (tells : SocketEvent) :
    (page.handle options input tells).Shows (client.handle options (input.toClient event) tells) := by
  cases tells with
  | opened => exact shows.onopen options
  | message data => exact shows.onmessage data
  | error => exact shows.onerror
  | closed code => exact shows.onclose options input event code

theorem Shows.deliver (shows : page.Shows client) (socket : Nat) (tells : SocketEvent) :
    (page.deliver options input socket tells).Shows (client.deliver options (input.toClient event) socket tells) := by
  have told := shows.update (f := (·.updateSocket socket (·.told tells))) rfl rfl
  have after := told.handle options input event tells
  unfold Page.deliver ReconnectingWsClient.deliver
  dsimp only
  rw [shows.same, told.same, after.same]
  split
  · split
    · exact after.update rfl rfl
    · exact after
  · exact told

theorem Shows.blobSettles (shows : page.Shows client) (blob : Nat) :
    (page.blobSettles blob).Shows (client.step options (input.toClient (.blobSettles blob))) := by
  have settled := shows.update (f := fun client => { client with blobs := client.blobs.eraseIdx blob }) rfl rfl
  unfold Page.blobSettles
  rw [shows.same]
  change Shows _ (match client.blobs[blob]? with
    | some (some text) => { client with blobs := client.blobs.eraseIdx blob }.handleMessageText text
    | _ => { client with blobs := client.blobs.eraseIdx blob })
  split
  · exact settled.handleMessage (.text _)
  · exact settled

/-! ## Timers that fire -/

omit [Fpu] in
/-- A timer that fires leaves the loop, and its callback starts by forgetting it: the two clear it. -/
theorem Shows.fired (shows : page.Shows client) {due : Timeout TimerCallback Double} (pending : due ∈ page.loop.pending) :
    ⟨client.setTimer none due.callback, page.loop.clearTimeout due.id⟩ = page.clearTimer due.callback ∧
      client.timerId due.callback = some due.id := by
  obtain ⟨⟨owned, -⟩, rfl⟩ := shows
  have known := owned.held due pending
  unfold Page.clearTimer
  rw [known]
  exact ⟨rfl, rfl⟩

theorem Shows.reconnectFires {timer : Nat} (shows : page.Shows client) (known : client.timerId .reconnect = some timer)
    (clears : ⟨client.setTimer none .reconnect, page.loop.clearTimeout timer⟩ = page.clearReconnectTimer) :
    ({ page with loop := page.loop.clearTimeout timer }.reconnectFires options input).Shows
      (client.reconnectFires options (input.toClient event)) := by
  obtain ⟨own, same, -⟩ := Option.map_eq_some_iff.1 known
  unfold Page.reconnectFires ReconnectingWsClient.reconnectFires Page.update
  dsimp only
  rw [same, shows.same]
  change (Page.connect options input ⟨client.setTimer none .reconnect, page.loop.clearTimeout timer⟩).Shows _
  rw [clears]
  exact shows.clearReconnectTimer.connect options input event

theorem Shows.heartbeatFires {timer : Nat} (shows : page.Shows client) (known : client.timerId .heartbeat = some timer)
    (clears : ⟨client.setTimer none .heartbeat, page.loop.clearTimeout timer⟩ = page.clearHeartbeatTimer) :
    ({ page with loop := page.loop.clearTimeout timer }.heartbeatFires options input).Shows
      (client.heartbeatFires options (input.toClient event)) := by
  obtain ⟨own, same, -⟩ := Option.map_eq_some_iff.1 known
  have cleared := shows.clearHeartbeatTimer
  have forgets : ({ page with loop := page.loop.clearTimeout timer }.update fun client =>
      { client with heartbeatTimer := none }) = page.clearHeartbeatTimer := by
    rw [← clears, ← shows.same]
    rfl
  unfold Page.heartbeatFires
  dsimp only
  rw [forgets, cleared.same]
  cases held : client.ws with
  | none =>
    have ws : client.clearHeartbeatTimer.ws = none := held
    rw [ReconnectingWsClient.heartbeatFires_unset options _ same held, ws]
    exact cleared
  | some socket =>
    have ws : client.clearHeartbeatTimer.ws = some socket := held
    have closed := cleared.update (f := (·.closeSocket socket)) rfl rfl
    have lost := (closed.update (f := fun client => { client with ws := none }) rfl rfl).setConnected false
    rw [ReconnectingWsClient.heartbeatFires_held options _ same held, ws]
    dsimp only
    rw [closed.same]
    split
    · exact (lost.update (f := fun client => { client with errorAlreadyCounted := false }) rfl rfl).scheduleReconnect
        options input event
    · exact closed

theorem Shows.timerFires (shows : page.Shows client) {timer : Nat} {due : Timeout TimerCallback Double}
    (found : page.loop.timer? timer = some due) :
    (page.timerFires options input timer).Shows
      (client.step options (input.toClient
        (match due.callback with | .reconnect => .reconnectFires | .heartbeat => .heartbeatFires))) := by
  obtain ⟨pending, rfl⟩ := page.loop.timer?_mem found
  obtain ⟨clears, known⟩ := shows.fired pending
  unfold Page.timerFires
  rw [found]
  dsimp only
  cases kind : due.callback with
  | reconnect =>
    rw [kind] at clears known
    exact shows.reconnectFires options input .reconnectFires known clears
  | heartbeat =>
    rw [kind] at clears known
    exact shows.heartbeatFires options input .heartbeatFires known clears

/-! ## Runs -/

/-- What happens to the client alone. A timer that no longer waits does not fire. -/
def clientEvent (page : Page) : PageEvent → Option ClientEvent
  | .start => some .start
  | .stop => some .stop
  | .setHeartbeatTimeoutMs timeoutMs => some (.setHeartbeatTimeoutMs timeoutMs)
  | .timerFires timer => (page.loop.timer? timer).map fun due =>
      match due.callback with
      | .reconnect => .reconnectFires
      | .heartbeat => .heartbeatFires
  | .socketEvent socket event => some (.socketEvent socket event)
  | .blobSettles blob => some (.blobSettles blob)

/-- One event of the page is one of the client alone, or none. -/
theorem Shows.step (shows : page.Shows client) :
    (page.step options input).Shows
      ((page.clientEvent input.event).elim client fun event => client.step options (input.toClient event)) := by
  unfold Page.step
  cases input.event with
  | start => exact shows.start options input .start
  | stop => exact shows.stop
  | setHeartbeatTimeoutMs timeoutMs => exact shows.setHeartbeatTimeoutMs timeoutMs
  | timerFires timer =>
    dsimp only [clientEvent]
    cases found : page.loop.timer? timer with
    | none =>
      unfold Page.timerFires
      rw [found]
      exact shows
    | some due => exact shows.timerFires options input found
  | socketEvent socket tells => exact shows.deliver options input _ socket tells
  | blobSettles blob => exact shows.blobSettles options input blob

/-- Every run of the page is a run of the client alone. -/
theorem Shows.run (shows : page.Shows client) (inputs : List PageInput) :
    ∃ events : List ClientInput,
      (inputs.foldl (Page.step options) page).Shows (events.foldl (ReconnectingWsClient.step options) client) := by
  induction inputs generalizing page client with
  | nil => exact ⟨[], shows⟩
  | cons input rest ih =>
    have stepped := shows.step options input
    obtain ⟨events, run⟩ := ih stepped
    cases happens : page.clientEvent input.event with
    | none =>
      rw [happens] at run
      exact ⟨events, run⟩
    | some event =>
      rw [happens] at run
      exact ⟨input.toClient event :: events, run⟩

end

end Page
end AotDrone.Webapp
