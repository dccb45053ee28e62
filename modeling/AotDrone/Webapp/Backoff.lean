import AotDrone.Lib.Binary64
import AotDrone.Webapp.Page

/-! When a client tries to connect again: an active client always waits for its next attempt or has a socket, and its
delays double from `minBackoffMs` to `maxBackoffMs`. -/

namespace AotDrone.Webapp
open AotDrone.Lib AotDrone.Lib.Double AotDrone.Lib.Run AotDrone.Lib.EventLoop AotDrone.Json

/-! ## The jitter -/

section
variable [Fpu]

def jitteredMs (base random : Double) : Double := mathMax 0 (mathRound (base * (0.7 + 0.6 * random)))

/-- A delay within three tenths of its base, to the millisecond. A base below zero waits for nothing. -/
structure Jittered (base delayMs : Double) : Prop where
  within : 0 ≤ base → mathRound (base * 0.7) ≤ delayMs ∧ delayMs ≤ mathRound (base * 1.3)
  below : base < 0 → delayMs = 0

/-- The random source moves the factor between its two ends. -/
theorem jitterFactor_within {least spread r : ℚ} (leastNonneg : 0 ≤ least) (leastDouble : IsDouble (fin least))
    (spreadNonneg : 0 ≤ spread) (spreadDouble : IsDouble (fin spread)) (nonneg : 0 ≤ r) (below : r < 1)
    (top : fin least + fin spread ≤ 1.3) :
    ∃ factor, fin least + fin spread * fin r = fin factor ∧ fin least ≤ fin factor ∧ fin factor ≤ 1.3 := by
  obtain ⟨offset, product, offsetNonneg, offsetLe⟩ : Within 0 spread (fin spread * fin r) :=
    round_within isDouble_zero spreadDouble (mul_nonneg spreadNonneg nonneg) (mul_le_of_le_one_right spreadNonneg below.le)
  have above : Fpu.round least ≤ fin least + fin offset := Fpu.round_mono (le_add_of_nonneg_right offsetNonneg)
  have sum : fin least + fin offset ≤ fin least + fin spread := Fpu.round_mono (add_le_add_right offsetLe least)
  obtain ⟨most, mostEq, -⟩ : Within 0 2 (1.3 : Double) :=
    round_within isDouble_zero (Fpu.round_int 2 (by norm_num)) (by norm_num) (by norm_num)
  have bounded : fin least + fin offset ≤ 1.3 := Double.le_trans sum top
  have floor : fin 0 ≤ fin least + fin offset := round_nonneg (add_nonneg leastNonneg offsetNonneg)
  rw [show Fpu.round least = fin least from leastDouble] at above
  rw [product]
  obtain ⟨factor, factorEq⟩ := fin_of_between floor (mostEq ▸ bounded)
  exact ⟨factor, factorEq, factorEq ▸ above, factorEq ▸ bounded⟩

theorem jitteredMs_jittered (positive : (0 : Double) < 0.7) (top : (0.7 + 0.6 : Double) ≤ 1.3) (base : Double)
    {random : Double} (nonneg : 0 ≤ random) (below : random < 1) : Jittered base (jitteredMs base random) := by
  obtain ⟨least, leastEq, leastNonneg, -⟩ : Within 0 1 (0.7 : Double) :=
    round_within isDouble_zero isDouble_one (by norm_num) (by norm_num)
  obtain ⟨spread, spreadEq, spreadNonneg, -⟩ : Within 0 1 (0.6 : Double) :=
    round_within isDouble_zero isDouble_one (by norm_num) (by norm_num)
  obtain ⟨most, mostEq, -⟩ : Within 0 2 (1.3 : Double) :=
    round_within isDouble_zero (Fpu.round_int 2 (by norm_num)) (by norm_num) (by norm_num)
  obtain ⟨r, rfl⟩ := fin_of_between nonneg (Double.le_of_lt below)
  have leastDouble : IsDouble (fin least) := leastEq ▸ isDouble_round _
  have spreadDouble : IsDouble (fin spread) := spreadEq ▸ isDouble_round _
  rw [leastEq] at positive
  rw [leastEq, spreadEq] at top
  obtain ⟨factor, factorEq, above, bounded⟩ :=
    jitterFactor_within leastNonneg leastDouble spreadNonneg spreadDouble (fin_le_fin.1 nonneg) (fin_lt_fin.1 below) top
  rw [mostEq] at bounded
  have leastPos : 0 < least := fin_lt_fin.1 positive
  have factorPos : 0 < factor := leastPos.trans_le (fin_le_fin.1 above)
  unfold jitteredMs
  rw [leastEq, spreadEq, factorEq]
  constructor
  · intro baseNonneg
    have product : 0 ≤ mathRound (base * fin factor) := by
      have rounded := mathRound_mono (mul_fin_nonneg baseNonneg factorPos)
      rwa [mathRound_zero] at rounded
    rw [mathMax_zero_of_nonneg product, leastEq, mostEq]
    exact ⟨mathRound_mono (mul_le_mul_fin baseNonneg leastPos (fin_le_fin.1 above)),
      mathRound_mono (mul_le_mul_fin baseNonneg factorPos (fin_le_fin.1 bounded))⟩
  · intro baseNeg
    have product : mathRound (base * fin factor) ≤ 0 := by
      have rounded := mathRound_mono (mul_fin_nonpos (Double.le_of_lt baseNeg) factorPos)
      rwa [mathRound_zero] at rounded
    exact mathMax_zero_of_nonpos product

end

/-! ## Awake -/

namespace ReconnectingWsClient

/-- An active client waits for its next attempt or has a socket. -/
def Awake (client : ReconnectingWsClient) : Prop :=
  client.active = true → client.reconnectTimer.isSome = true ∨ client.ws.isSome = true

variable [Fpu] (options : ReconnectingWsClientOptions) (input : ClientInput) {client : ReconnectingWsClient}

theorem scheduleReconnect_awake (active : client.active = true) : (client.scheduleReconnect options input).Awake := by
  obtain ⟨timer, timersSet, delay, scheduled⟩ := scheduleReconnect_eq client options input active
  rw [scheduled]
  exact fun _ => .inl rfl

theorem connect_awake (active : client.active = true) : (client.connect options input).Awake := by
  unfold connect
  rw [if_pos active]
  dsimp only
  split
  · exact scheduleReconnect_awake options input active
  · exact fun _ => .inr rfl

theorem Awake.heartbeatFires (awake : client.Awake) (active : client.active = true) :
    (client.heartbeatFires options input).Awake := by
  cases fires : client.heartbeatTimer with
  | none =>
    unfold ReconnectingWsClient.heartbeatFires
    rw [fires]
    exact awake
  | some timer =>
    cases held : client.ws with
    | none =>
      rw [heartbeatFires_unset options input fires held]
      exact awake
    | some socket =>
      rw [heartbeatFires_held options input fires held]
      dsimp only
      split
      · apply scheduleReconnect_awake
        rw [setConnected_active]
        exact active
      · exact awake

theorem Awake.handle (awake : client.Awake) (active : client.active = true) (event : SocketEvent) :
    (client.handle options input event).Awake := by
  cases event with
  | opened =>
    obtain ⟨timer, timersSet, calls, opened⟩ := onopen_eq client options active
    rw [ReconnectingWsClient.handle, opened]
    exact awake
  | message data =>
    obtain ⟨timer, timersSet, blobs, calls, handled⟩ := onmessage_eq client active data
    rw [ReconnectingWsClient.handle, handled]
    exact awake
  | error =>
    obtain ⟨consecutiveErrors, errorAlreadyCounted, connected, sockets, calls, failed⟩ := client.onerror_changes
    rw [ReconnectingWsClient.handle, failed]
    exact awake
  | closed code =>
    obtain ⟨timer, timersSet, delay, calls, closed⟩ := onclose_eq client options input active code
    rw [ReconnectingWsClient.handle, closed]
    exact fun _ => .inl rfl

theorem Awake.deliver (awake : client.Awake) (active : client.active = true) (socket : Nat) (event : SocketEvent) :
    (client.deliver options input socket event).Awake := by
  have told : (client.updateSocket socket (·.told event)).Awake := awake
  have after := told.handle options input active event
  unfold ReconnectingWsClient.deliver
  dsimp only
  split
  · split
    · exact after
    · exact after
  · exact told

omit [Fpu] in
theorem Awake.setHeartbeatTimeoutMs (awake : client.Awake) (active : client.active = true) (timeoutMs : Double) :
    (client.setHeartbeatTimeoutMs timeoutMs).Awake := by
  unfold ReconnectingWsClient.setHeartbeatTimeoutMs
  dsimp only
  split
  · exact awake
  · split
    · obtain ⟨timer, timersSet, armed⟩ := armHeartbeat_eq { client with heartbeatTimeoutMs := timeoutMs } active
      rw [armed]
      exact awake
    · exact awake

theorem Awake.start (awake : client.Awake) : (client.start options input).Awake := by
  unfold ReconnectingWsClient.start
  split
  · exact awake
  · exact connect_awake options input rfl

theorem Awake.reconnectFires (awake : client.Awake) (active : client.active = true) :
    (client.reconnectFires options input).Awake := by
  unfold ReconnectingWsClient.reconnectFires
  split
  · exact awake
  · exact connect_awake options input active

/-- No event takes from an active client both its next attempt and its socket. -/
theorem step_awake (awake : client.Awake) : (client.step options input).Awake := by
  intro after
  have changes := (step_active client options input).symm.trans after
  unfold ReconnectingWsClient.step at after ⊢
  cases event : input.event with
  | start =>
    rw [event] at after
    exact awake.start options input after
  | stop =>
    rw [event] at changes
    exact absurd changes Bool.false_ne_true
  | setHeartbeatTimeoutMs timeoutMs =>
    rw [event] at changes after
    exact awake.setHeartbeatTimeoutMs changes timeoutMs after
  | reconnectFires =>
    rw [event] at changes after
    exact awake.reconnectFires options input changes after
  | heartbeatFires =>
    rw [event] at changes after
    exact awake.heartbeatFires options input changes after
  | socketEvent socket tells =>
    rw [event] at changes after
    exact awake.deliver options input changes socket tells after
  | blobSettles blob =>
    rw [event] at changes
    dsimp only
    split
    · rw [handleMessageText_eq]
      exact awake changes
    · exact awake changes

end ReconnectingWsClient

/-! ## The base -/

namespace Page
variable [Fpu] (options : ReconnectingWsClientOptions) (input : PageInput) (page : Page)

/-- The reconnect timers made so far. -/
def reconnects : List (Timeout TimerCallback Double) := page.loop.made.filter (·.callback = .reconnect)

/-- No attempt is scheduled, and the base stays. -/
structure Steady (before after : Page) : Prop where
  reconnects : after.reconnects = before.reconnects
  base : after.client.reconnectDelayMs = before.client.reconnectDelayMs

/-- At most one attempt is scheduled, its delay a jittered base, and the base doubles with it. -/
inductive Schedules (before after : Page) : Prop
  | none (steady : Steady before after)
  | one (timer : Timeout TimerCallback Double) (reconnects : after.reconnects = before.reconnects ++ [timer])
      (delay : timer.delay = jitteredMs before.client.reconnectDelayMs input.random)
      (base : after.client.reconnectDelayMs = mathMin (before.client.reconnectDelayMs * 2) options.maxBackoffMs)

section
variable {page} {options input} {before mid after : Page}

omit [Fpu] in
theorem Steady.trans (first : Steady before mid) (second : Steady mid after) : Steady before after :=
  ⟨second.reconnects.trans first.reconnects, second.base.trans first.base⟩

theorem Steady.schedules (steady : Steady before mid) (schedules : Schedules options input mid after) :
    Schedules options input before after := by
  cases schedules with
  | none later => exact .none (steady.trans later)
  | one timer more delay doubled =>
    rw [steady.reconnects] at more
    rw [steady.base] at delay doubled
    exact .one timer more delay doubled

theorem Schedules.steady (schedules : Schedules options input before mid) (steady : Steady mid after) :
    Schedules options input before after := by
  cases schedules with
  | none earlier => exact .none (earlier.trans steady)
  | one timer more delay doubled =>
    exact .one timer (steady.reconnects.trans more) delay (steady.base.trans doubled)

omit [Fpu] in
theorem update_steady {f : ReconnectingWsClient → ReconnectingWsClient}
    (base : (f page.client).reconnectDelayMs = page.client.reconnectDelayMs) : Steady page (page.update f) := ⟨rfl, base⟩

end

omit [Fpu] in
theorem clearTimer_steady (callback : TimerCallback) : Steady page (page.clearTimer callback) := by
  unfold clearTimer
  split
  · exact ⟨rfl, rfl⟩
  · cases callback <;> exact ⟨rfl, rfl⟩

omit [Fpu] in
theorem setConnected_steady (connected : Bool) : Steady page (page.update (·.setConnected connected)) :=
  update_steady (page.client.setConnected_reconnectDelayMs connected)

omit [Fpu] in
theorem armHeartbeat_steady : Steady page page.armHeartbeat := by
  have cleared := page.clearTimer_steady .heartbeat
  unfold armHeartbeat
  dsimp only
  split
  · refine cleared.trans ⟨?_, rfl⟩
    exact (List.filter_append ..).trans (List.append_nil _)
  · exact cleared

theorem handleMessage_steady (data : MessageData) : Steady page (page.update (·.handleMessage data)) := by
  obtain ⟨blobs, calls, equal⟩ := page.client.handleMessage_eq data
  apply update_steady
  rw [equal]

theorem scheduleReconnect_schedules : Schedules options input page (page.scheduleReconnect options input) := by
  unfold scheduleReconnect
  split
  · exact .none ⟨rfl, rfl⟩
  · exact .one _ (List.filter_append ..) rfl rfl

theorem connect_schedules : Schedules options input page (page.connect options input) := by
  have cleared := (page.clearTimer_steady .reconnect).trans (page.clearReconnectTimer.clearTimer_steady .heartbeat)
  unfold connect
  split
  · dsimp only
    split
    · exact (cleared.trans (update_steady rfl)).schedules
        ((update_steady rfl).schedules (scheduleReconnect_schedules options input _))
    · exact .none ((cleared.trans (update_steady rfl)).trans (update_steady rfl))
  · exact .none ⟨rfl, rfl⟩

theorem start_schedules : Schedules options input page (page.start options input) := by
  unfold start
  split
  · exact .none ⟨rfl, rfl⟩
  · exact (update_steady rfl).schedules (connect_schedules options input _)

omit [Fpu] in
theorem stop_steady : Steady page page.stop := by
  have stopped : Steady page (page.update fun client => { client with active := false }) := update_steady rfl
  have cleared := (stopped.trans (clearTimer_steady _ .reconnect)).trans (clearTimer_steady _ .heartbeat)
  unfold stop
  dsimp only
  split
  · exact cleared.trans (setConnected_steady _ false)
  · exact (cleared.trans (update_steady rfl)).trans (setConnected_steady _ false)

omit [Fpu] in
theorem setHeartbeatTimeoutMs_steady (timeoutMs : Double) : Steady page (page.setHeartbeatTimeoutMs timeoutMs) := by
  have set : Steady page (page.update fun client => { client with heartbeatTimeoutMs := timeoutMs }) := update_steady rfl
  unfold setHeartbeatTimeoutMs
  dsimp only
  split
  · exact ⟨rfl, rfl⟩
  · split
    · exact set.trans (armHeartbeat_steady _)
    · exact set

theorem onmessage_steady (data : MessageData) : Steady page (page.onmessage data) := by
  unfold onmessage
  split
  · exact (armHeartbeat_steady page).trans (handleMessage_steady _ data)
  · exact ⟨rfl, rfl⟩

omit [Fpu] in
theorem onerror_steady : Steady page (page.update (·.onerror)) := by
  obtain ⟨consecutiveErrors, errorAlreadyCounted, connected, sockets, calls, equal⟩ := page.client.onerror_changes
  apply update_steady
  rw [equal]

theorem onclose_schedules (code : Option ℤ) : Schedules options input page (page.onclose options input code) := by
  have lost := ((page.clearTimer_steady .heartbeat).trans
    (update_steady (f := fun client => { client with ws := none }) rfl)).trans (setConnected_steady _ false)
  unfold onclose
  dsimp only
  split
  · split
    · exact ((lost.trans (update_steady rfl)).trans (update_steady rfl)).schedules
        (scheduleReconnect_schedules options input _)
    · exact (lost.trans (update_steady rfl)).schedules (scheduleReconnect_schedules options input _)
  · exact .none lost

theorem heartbeatFires_schedules : Schedules options input page (page.heartbeatFires options input) := by
  have forgets : Steady page (page.update fun client => { client with heartbeatTimer := none }) := update_steady rfl
  unfold heartbeatFires
  dsimp only
  split
  · exact .none forgets
  · split
    · refine ((forgets.trans (update_steady rfl)).trans (update_steady ?_)).schedules
        (scheduleReconnect_schedules options input _)
      exact ReconnectingWsClient.setConnected_reconnectDelayMs _ false
    · exact .none (forgets.trans (update_steady rfl))

theorem timerFires_schedules (timer : Nat) : Schedules options input page (page.timerFires options input timer) := by
  unfold timerFires
  split
  · exact .none ⟨rfl, rfl⟩
  next due _ =>
    have leaves : Steady page { page with loop := page.loop.clearTimeout timer } := ⟨rfl, rfl⟩
    dsimp only
    split
    · exact leaves.schedules ((update_steady rfl).schedules (connect_schedules options input _))
    · exact leaves.schedules (heartbeatFires_schedules options input _)

/-- An open that the client takes: the socket still has its handler, and the client is active. -/
def opens (page : Page) : PageEvent → Bool
  | .socketEvent socket .opened => page.client.active && page.client.sockets[socket]?.any Socket.attached
  | _ => false

omit [Fpu] in
theorem onopen_inactive (inactive : page.client.active = false) : page.onopen options = page := by
  unfold onopen
  rw [inactive]
  exact if_neg Bool.false_ne_true

omit [Fpu] in
theorem onopen_resets (active : page.client.active = true) :
    (page.onopen options).reconnects = page.reconnects ∧
      (page.onopen options).client.reconnectDelayMs = options.minBackoffMs := by
  unfold onopen
  rw [if_pos active]
  dsimp only
  have later := (setConnected_steady (page.update fun client =>
    { client with reconnectDelayMs := options.minBackoffMs, consecutiveErrors := 0, errorAlreadyCounted := false })
    true).trans (armHeartbeat_steady _)
  exact ⟨later.reconnects, later.base⟩

theorem deliver_schedules {socket : Nat} {event : SocketEvent}
    (other : page.opens (.socketEvent socket event) = false) :
    Schedules options input page (page.deliver options input socket event) := by
  have told : Steady page (page.update (·.updateSocket socket (·.told event))) := update_steady rfl
  unfold deliver
  dsimp only
  split
  next attached =>
    have handled : Schedules options input (page.update (·.updateSocket socket (·.told event)))
        ((page.update (·.updateSocket socket (·.told event))).handle options input event) := by
      cases event with
      | opened =>
        rw [opens, attached, Bool.and_true] at other
        have same := onopen_inactive options (page.update (·.updateSocket socket (·.told .opened))) other
        rw [handle, same]
        exact .none ⟨rfl, rfl⟩
      | message data => exact .none (onmessage_steady _ data)
      | error => exact .none (onerror_steady _)
      | closed code => exact onclose_schedules options input _ code
    split
    · exact told.schedules (handled.steady (update_steady rfl))
    · exact told.schedules handled
  next => exact .none told

theorem blobSettles_steady (blob : Nat) : Steady page (page.blobSettles blob) := by
  unfold blobSettles
  dsimp only
  split
  · exact (update_steady rfl).trans (handleMessage_steady _ (.text _))
  · exact update_steady rfl

/-- Unless the client takes an open, an event schedules at most one attempt. -/
theorem step_schedules (other : page.opens input.event = false) :
    Schedules options input page (page.step options input) := by
  unfold step
  cases event : input.event with
  | start => exact start_schedules options input page
  | stop => exact .none (stop_steady page)
  | setHeartbeatTimeoutMs timeoutMs => exact .none (setHeartbeatTimeoutMs_steady page timeoutMs)
  | timerFires timer => exact timerFires_schedules options input page timer
  | socketEvent socket tells =>
    rw [event] at other
    exact deliver_schedules options input page other
  | blobSettles blob => exact .none (blobSettles_steady page blob)

/-- An open that the client takes schedules none, and sets the base back. -/
theorem step_opens (opens : page.opens input.event = true) :
    (page.step options input).reconnects = page.reconnects ∧
      (page.step options input).client.reconnectDelayMs = options.minBackoffMs := by
  unfold step
  cases event : input.event with
  | socketEvent socket tells =>
    rw [event] at opens
    cases tells with
    | opened =>
      obtain ⟨active, attached⟩ := Bool.and_eq_true_iff.1 opens
      unfold deliver
      dsimp only
      rw [if_pos attached]
      have reset := onopen_resets options (page.update (·.updateSocket socket (·.told .opened))) active
      split
      · exact reset
      · exact reset
    | _ => exact absurd opens Bool.false_ne_true
  | _ =>
    rw [event] at opens
    exact absurd opens Bool.false_ne_true

/-! ## Runs -/

/-- The reconnect timers that an event makes. -/
def scheduled (before after : Page) : List (Timeout TimerCallback Double) :=
  after.reconnects.drop before.reconnects.length

/-- The attempts scheduled since the client last took an open. -/
def attempts (past : Past Page PageInput) : Nat :=
  past.foldl (fun count tick =>
    if tick.1.opens tick.2.event then 0 else count + (scheduled tick.1 (tick.1.step options tick.2)).length) 0

/-- The base after so many attempts. -/
def backoff : Nat → Double
  | 0 => options.minBackoffMs
  | attempts + 1 => mathMin (backoff attempts * 2) options.maxBackoffMs

/-- An active client waits for its next attempt or has a socket, and no two timers of one kind wait. What an event
schedules has a jittered base for its delay, and the base has doubled with each attempt since the last open. -/
structure Unwedged (past : Past Page PageInput) (page : Page) (input : PageInput) : Prop where
  awake : page.client.active = true →
    (∃ timer ∈ page.loop.pending, timer.callback = .reconnect) ∨ page.client.ws.isSome = true
  alone : ∀ callback, (page.loop.pending.filter (·.callback = callback)).length ≤ 1
  jittered : 0 ≤ input.random → input.random < 1 →
    ∀ timer ∈ scheduled page (page.step options input), Jittered page.client.reconnectDelayMs timer.delay
  base : page.client.reconnectDelayMs = backoff options (attempts options past)

/-- What the events so far leave true. -/
structure Inv (past : Past Page PageInput) (page : Page) : Prop where
  sound : page.Sound
  awake : page.client.Awake
  base : page.client.reconnectDelayMs = backoff options (attempts options past)

variable {options input page} {past : Past Page PageInput}

theorem Schedules.scheduled (schedules : Schedules options input page (page.step options input)) :
    ((scheduled page (page.step options input)) = [] ∧
        (page.step options input).client.reconnectDelayMs = page.client.reconnectDelayMs) ∨
      ∃ timer, scheduled page (page.step options input) = [timer] ∧
        timer.delay = jitteredMs page.client.reconnectDelayMs input.random ∧
        (page.step options input).client.reconnectDelayMs =
          mathMin (page.client.reconnectDelayMs * 2) options.maxBackoffMs := by
  unfold Page.scheduled
  cases schedules with
  | none steady => exact .inl ⟨by rw [steady.reconnects, List.drop_length], steady.base⟩
  | one timer reconnects delay base => exact .inr ⟨timer, by rw [reconnects, List.drop_left], delay, base⟩

theorem Inv.step (inv : Inv options past page) : Inv options (past ++ [(page, input)]) (page.step options input) := by
  obtain ⟨sound, awake, base⟩ := inv
  have stepped := Shows.step options input ⟨sound, rfl⟩
  refine ⟨stepped.sound, ?_, ?_⟩
  · rw [stepped.same]
    cases page.clientEvent input.event with
    | none => exact awake
    | some event => exact ReconnectingWsClient.step_awake options _ awake
  · rw [attempts, List.foldl_append, ← attempts]
    change _ = backoff options (if page.opens input.event then 0 else _)
    cases opens : page.opens input.event with
    | true => exact (step_opens options input page opens).2
    | false =>
      rcases (step_schedules options input page opens).scheduled with ⟨none, kept⟩ | ⟨timer, one, -, doubled⟩
      · rw [none]
        exact kept.trans base
      · rw [one]
        rw [base] at doubled
        exact doubled

end Page

namespace Page
attribute [local instance] Binary64.binary64
variable (options : ReconnectingWsClientOptions)

theorem Inv.unwedged {past : Past Page PageInput} {page : Page} (inv : Inv options past page) (input : PageInput) :
    Unwedged options past page input := by
  obtain ⟨sound, awake, base⟩ := inv
  refine ⟨?_, sound.owned.alone, ?_, base⟩
  · intro active
    rw [sound.owned.pending_iff, ReconnectingWsClient.timerId, Option.isSome_map]
    exact awake active
  · intro nonneg below timer made
    cases opens : page.opens input.event with
    | true =>
      rw [scheduled, (step_opens options input page opens).1, List.drop_length] at made
      exact absurd made List.not_mem_nil
    | false =>
      rcases (step_schedules options input page opens).scheduled with ⟨none, -⟩ | ⟨own, one, delay, -⟩
      · rw [none] at made
        exact absurd made List.not_mem_nil
      · rw [one, List.mem_singleton] at made
        rw [made, delay]
        exact jitteredMs_jittered (by decide +kernel) (by decide +kernel) _ nonneg below

/-- Whatever happens to it, in whatever order, the client is never wedged. -/
theorem never_wedged (inputs : List PageInput) :
    Always (step options) (Unwedged options) [] (create options) inputs :=
  Always.of_forall (Inv options) (fun _ _ input inv => inv.unwedged options input) (fun _ _ _ inv => inv.step) [] _ inputs
    ⟨(Shows.create options).sound, fun active => absurd active Bool.false_ne_true, rfl⟩

example : (List.range 7).map (backoff {}) = [500, 1000, 2000, 4000, 8000, 15000, 15000] := by decide +kernel

end Page
end AotDrone.Webapp
