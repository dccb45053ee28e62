import AotDrone.Lib.Simulation
import AotDrone.Webapp.Stream

/-! What the dashboard shows of the stream, against the newest message of each kind. -/

namespace AotDrone.Webapp
open AotDrone.Lib AotDrone.Lib.Double AotDrone.Lib.Run AotDrone.Lib.EventLoop AotDrone.Json

/-- The newest message of each kind, and when the newest link status came. -/
structure Newest where
  linkStatus : Option LinkStatus := none
  linkUpdatedAtMs : Option ℤ := none
  linkEnvelopeTimestamp : Option Double := none
  latestTel : Option TelUpdate := none
  latestVis : Option VisUpdate := none

/-- Without a batch: an envelope that can be read replaces the one before it. -/
def Newest.receive (newest : Newest) (envelope : WsEnvelope) (receivedAtMs : ℤ) : Newest :=
  match envelope.event with
  | .linkStatus =>
    match asLinkStatus (.obj envelope.data) with
    | none => newest
    | some linkStatus =>
      { newest with
        linkStatus := some linkStatus
        linkUpdatedAtMs := some receivedAtMs
        linkEnvelopeTimestamp := some envelope.timestamp }
  | .telUpdate => { newest with latestTel := (parseTelUpdate (.obj envelope.data)).value <|> newest.latestTel }
  | .visUpdate => { newest with latestVis := (parseVisUpdate (.obj envelope.data)).value <|> newest.latestVis }
  | .warning => newest

def Newest.after (newest : Newest) : DashboardEvent → Newest
  | .parsedEnvelope envelope receivedAtMs => newest.receive envelope receivedAtMs
  | _ => newest

def newestOf (events : List DashboardEvent) : Newest := events.foldl Newest.after {}

/-- What the state shows. -/
def StreamState.newest (state : StreamState) : Newest where
  linkStatus := state.linkStatus
  linkUpdatedAtMs := state.linkUpdatedAtMs
  linkEnvelopeTimestamp := state.linkEnvelopeTimestamp
  latestTel := state.latestTel
  latestVis := state.latestVis

/-- It hands over no batch. -/
def StreamAction.Plain : StreamAction → Prop
  | .streamBatch _ => False
  | _ => True

namespace StreamState
variable (state : StreamState)

/-- What only a batch changes. -/
def streamed : Newest × List Double × List Double := (state.newest, state.confidenceHistory, state.ageHistory)

theorem streamed_reducer {action : StreamAction} (plain : action.Plain) :
    (state.reducer action).streamed = state.streamed := by
  cases action with
  | streamBatch batch => exact plain.elim
  | schemaMismatchDetected detail =>
    unfold reducer
    dsimp only
    split <;> rfl
  | _ => rfl

theorem streamed_reduceAll {actions : List StreamAction} (plain : ∀ action ∈ actions, action.Plain) :
    (actions.foldl reducer state).streamed = state.streamed := by
  induction actions generalizing state with
  | nil => rfl
  | cons action rest ih =>
    obtain ⟨first, later⟩ := List.forall_mem_cons.1 plain
    exact (ih _ later).trans (state.streamed_reducer first)

theorem newest_reduceAll {actions : List StreamAction} (plain : ∀ action ∈ actions, action.Plain) :
    (actions.foldl reducer state).newest = state.newest :=
  congrArg Prod.fst (state.streamed_reduceAll plain)

/-- To collect an envelope and then hand over the batch is to hand over the batch and then receive the envelope. -/
theorem newest_collect (batch : PendingStreamBatch) (envelope : WsEnvelope) (receivedAtMs : ℤ) (source : OverlaySource) :
    (state.reduceBatch (Dashboard.collect batch envelope receivedAtMs source).1).newest =
      (state.reduceBatch batch).newest.receive envelope receivedAtMs := by
  unfold Dashboard.collect Newest.receive
  cases envelope.event with
  | warning => rfl
  | linkStatus =>
    dsimp only
    cases asLinkStatus (.obj envelope.data) with
    | none => rfl
    | some linkStatus =>
      dsimp only
      unfold reduceBatch newest
      cases batch.linkStatus <;> rfl
  | telUpdate =>
    dsimp only
    cases (parseTelUpdate (.obj envelope.data)).value with
    | none => rfl
    | some tel => cases source <;> rfl
  | visUpdate =>
    dsimp only
    cases (parseVisUpdate (.obj envelope.data)).value with
    | none => rfl
    | some vis => cases source <;> rfl

end StreamState

namespace Dashboard

/-! ## What an event does to the state -/

/-- What the reader of an update reports. -/
def schemaMismatch (envelope : WsEnvelope) : Option String :=
  match envelope.event with
  | .telUpdate => (parseTelUpdate (.obj envelope.data)).mismatch
  | .visUpdate => (parseVisUpdate (.obj envelope.data)).mismatch
  | .linkStatus | .warning => none

def warningEntry (envelope : WsEnvelope) (receivedAtMs : ℤ) : Option WarningEntry :=
  (asWarningPayload (.obj envelope.data)).map fun payload =>
    { toWarningPayload := payload, receivedAtMs, envelopeSeq := envelope.seq }

/-- What is dispatched at once. -/
def actions : DashboardEvent → List StreamAction
  | .parsedEnvelope envelope receivedAtMs =>
    if envelope.event = .warning then
      (warningEntry envelope receivedAtMs).toList.map (.warningReceived · receivedAtMs)
    else (schemaMismatch envelope).toList.map .schemaMismatchDetected
  | .connectionChange connected => .wsConnectionChanged connected :: if connected then [.wsTransportRecovered] else []
  | .transportEvent consecutiveErrors => [.wsTransportError consecutiveErrors]
  | .clearWarnings => [.clearWarnings]
  | .animationFrame _ | .cleanup => []

/-- The batch that an animation frame hands over. -/
def handed (dashboard : Dashboard) : DashboardEvent → Option PendingStreamBatch
  | .animationFrame id =>
    if (dashboard.frames.timer? id).isSome ∧ dashboard.pendingBatch.lastMessageAtMs.isSome then
      some dashboard.pendingBatch
    else none
  | _ => none

variable (dashboard : Dashboard)

theorem collect_mismatch (batch : PendingStreamBatch) (envelope : WsEnvelope) (receivedAtMs : ℤ)
    (source : OverlaySource) : (collect batch envelope receivedAtMs source).2 = schemaMismatch envelope := by
  unfold collect schemaMismatch
  cases envelope.event with
  | warning => rfl
  | linkStatus =>
    dsimp only
    cases asLinkStatus (.obj envelope.data) <;> rfl
  | telUpdate =>
    dsimp only
    cases (parseTelUpdate (.obj envelope.data)).value <;> rfl
  | visUpdate =>
    dsimp only
    cases (parseVisUpdate (.obj envelope.data)).value <;> rfl

theorem scheduleFlush_state : dashboard.scheduleFlush.state = dashboard.state := by
  unfold scheduleFlush
  split <;> rfl

theorem scheduleFlush_pendingBatch : dashboard.scheduleFlush.pendingBatch = dashboard.pendingBatch := by
  unfold scheduleFlush
  split <;> rfl

theorem scheduleFlush_overlaySource : dashboard.scheduleFlush.overlaySource = dashboard.overlaySource := by
  unfold scheduleFlush
  split <;> rfl

/-- An update goes into the batch, and a frame is asked for. -/
theorem parsedEnvelope_update {envelope : WsEnvelope} (update : envelope.event ≠ .warning) (receivedAtMs : ℤ) :
    dashboard.step (.parsedEnvelope envelope receivedAtMs) =
      { dashboard with
        state := (actions (.parsedEnvelope envelope receivedAtMs)).foldl StreamState.reducer dashboard.state
        pendingBatch :=
          (collect dashboard.pendingBatch envelope receivedAtMs dashboard.overlaySource).1 }.scheduleFlush := by
  unfold step handleParsedEnvelope actions
  dsimp only
  rw [if_neg update, if_neg update, collect_mismatch]
  cases schemaMismatch envelope <;> rfl

/-- A frame that waits hands over what is there. -/
theorem animationFrame_step {id : ℕ} {timer : Timeout Unit Unit} (waits : dashboard.frames.timer? id = some timer) :
    dashboard.step (.animationFrame id) =
      { dashboard with frames := dashboard.frames.clearTimeout id }.flushPendingBatch := by
  unfold step runFrame
  dsimp only
  rw [waits]

theorem animationFrame_gone {id : ℕ} (gone : dashboard.frames.timer? id = none) :
    dashboard.step (.animationFrame id) = dashboard := by
  unfold step runFrame
  dsimp only
  rw [gone]

theorem handed_gone {id : ℕ} (gone : dashboard.frames.timer? id = none) :
    dashboard.handed (.animationFrame id) = none := by
  apply if_neg
  rw [gone]
  exact fun both => Bool.false_ne_true both.1

theorem handed_waits {id : ℕ} {timer : Timeout Unit Unit} (waits : dashboard.frames.timer? id = some timer) :
    dashboard.handed (.animationFrame id) =
      if dashboard.pendingBatch.lastMessageAtMs.isSome then some dashboard.pendingBatch else none := by
  unfold handed
  dsimp only
  rw [waits, Option.isSome_some]
  simp only [true_and]

/-- The plain actions of an event, or the batch that it hands over. -/
theorem step_state (event : DashboardEvent) :
    (dashboard.step event).state =
      (dashboard.handed event).elim ((actions event).foldl StreamState.reducer dashboard.state)
        dashboard.state.reduceBatch := by
  cases event with
  | parsedEnvelope envelope receivedAtMs =>
    by_cases update : envelope.event = .warning
    · unfold step handleParsedEnvelope handed actions warningEntry
      dsimp only
      rw [if_pos update, if_pos update]
      cases asWarningPayload (.obj envelope.data) <;> rfl
    · rw [parsedEnvelope_update dashboard update, scheduleFlush_state]
      rfl
  | animationFrame id =>
    cases waits : dashboard.frames.timer? id with
    | none =>
      rw [animationFrame_gone dashboard waits, handed_gone dashboard waits]
      rfl
    | some timer =>
      rw [animationFrame_step dashboard waits, handed_waits dashboard waits]
      unfold flushPendingBatch
      dsimp only
      cases dashboard.pendingBatch.lastMessageAtMs <;> rfl
  | connectionChange connected => cases connected <;> rfl
  | transportEvent consecutiveErrors => rfl
  | clearWarnings => rfl
  | cleanup => rfl

/-- Nothing that is dispatched at once is a batch. -/
theorem actions_plain (event : DashboardEvent) : ∀ action ∈ actions event, action.Plain := by
  cases event with
  | parsedEnvelope envelope receivedAtMs =>
    intro action member
    unfold actions at member
    dsimp only at member
    split at member
    · obtain ⟨_, _, rfl⟩ := List.mem_map.1 member
      trivial
    · obtain ⟨_, _, rfl⟩ := List.mem_map.1 member
      trivial
  | connectionChange connected => cases connected <;> simp [actions, StreamAction.Plain]
  | _ => simp [actions, StreamAction.Plain]

/-! ## Frames that wait -/

/-- The browser holds back no frame but the one that the component knows. -/
def Holds (dashboard : Dashboard) : Prop :=
  ∀ timer ∈ dashboard.frames.pending, dashboard.frameId = some timer.id

/-- What is collected waits for a frame, and the frame waits in the browser. -/
structure Scheduled (dashboard : Dashboard) : Prop where
  holds : dashboard.Holds
  waiting : ∀ id, dashboard.frameId = some id → ∃ timer ∈ dashboard.frames.pending, timer.id = id
  empty : dashboard.frameId = none → dashboard.pendingBatch = {}
  collected : dashboard.frameId.isSome → dashboard.pendingBatch.lastMessageAtMs.isSome

/-- What the state would show if the batch were handed over now. -/
def merged (dashboard : Dashboard) : Newest := (dashboard.state.reduceBatch dashboard.pendingBatch).newest

theorem collect_lastMessageAtMs (batch : PendingStreamBatch) (envelope : WsEnvelope) (receivedAtMs : ℤ)
    (source : OverlaySource) :
    (collect batch envelope receivedAtMs source).1.lastMessageAtMs = some receivedAtMs := by
  unfold collect
  cases envelope.event with
  | warning => rfl
  | linkStatus =>
    dsimp only
    cases asLinkStatus (.obj envelope.data) <;> rfl
  | telUpdate =>
    dsimp only
    cases (parseTelUpdate (.obj envelope.data)).value with
    | none => rfl
    | some tel => cases source <;> rfl
  | visUpdate =>
    dsimp only
    cases (parseVisUpdate (.obj envelope.data)).value with
    | none => rfl
    | some vis => cases source <;> rfl

/-- An event that leaves the frames and the batch alone. -/
def Quiet : DashboardEvent → Prop
  | .parsedEnvelope envelope _ => envelope.event = .warning
  | .animationFrame _ | .cleanup => False
  | _ => True

theorem step_quiet {event : DashboardEvent} (quiet : Quiet event) :
    dashboard.step event =
      { dashboard with state := (actions event).foldl StreamState.reducer dashboard.state } := by
  cases event with
  | parsedEnvelope envelope receivedAtMs =>
    have warning : envelope.event = .warning := quiet
    unfold step handleParsedEnvelope actions warningEntry
    dsimp only
    rw [if_pos warning, if_pos warning]
    cases asWarningPayload (.obj envelope.data) <;> rfl
  | connectionChange connected => cases connected <;> rfl
  | transportEvent consecutiveErrors => rfl
  | clearWarnings => rfl
  | animationFrame id => exact quiet.elim
  | cleanup => exact quiet.elim

variable {dashboard}

theorem Holds.scheduleFlush (holds : dashboard.Holds) : dashboard.scheduleFlush.Holds := by
  unfold Dashboard.scheduleFlush
  split
  · exact holds
  next free =>
    intro timer pending
    cases (Loop.mem_setTimeout dashboard.frames).1 pending with
    | inl old => exact absurd (holds timer old ▸ rfl) free
    | inr new => rw [new]

/-- Only the frame that is known could wait, and it has just been taken out. -/
theorem Holds.cleared (holds : dashboard.Holds) {id : ℕ} (known : dashboard.frameId = some id)
    (timer : Timeout Unit Unit) : timer ∉ (dashboard.frames.clearTimeout id).pending := by
  intro pending
  obtain ⟨old, other⟩ := (Loop.mem_clearTimeout dashboard.frames).1 pending
  exact other (Option.some_inj.1 ((holds timer old).symm.trans known))

theorem Holds.cleanup (holds : dashboard.Holds) : dashboard.cleanup.Holds := by
  intro timer pending
  unfold Dashboard.cleanup at pending ⊢
  dsimp only at pending ⊢
  cases known : dashboard.frameId with
  | none =>
    rw [known] at pending
    exact known ▸ holds timer pending
  | some id =>
    rw [known] at pending
    exact absurd pending (holds.cleared known timer)

/-- The frame that runs is the one that is known. -/
theorem Holds.frame (holds : dashboard.Holds) {id : ℕ} {timer : Timeout Unit Unit}
    (waits : dashboard.frames.timer? id = some timer) : dashboard.frameId = some id := by
  obtain ⟨pending, same⟩ := Loop.timer?_mem dashboard.frames waits
  exact same ▸ holds timer pending

/-! ## The simulation -/

theorem Scheduled.update (scheduled : dashboard.Scheduled) {envelope : WsEnvelope}
    (update : envelope.event ≠ .warning) (receivedAtMs : ℤ) :
    (dashboard.step (.parsedEnvelope envelope receivedAtMs)).Scheduled := by
  rw [parsedEnvelope_update dashboard update]
  have filled := collect_lastMessageAtMs dashboard.pendingBatch envelope receivedAtMs dashboard.overlaySource
  constructor
  · exact Holds.scheduleFlush scheduled.holds
  · intro id known
    unfold scheduleFlush at known ⊢
    split at known
    next busy =>
      rw [if_pos busy]
      exact scheduled.waiting id known
    next free =>
      rw [if_neg free]
      refine ⟨_, (Loop.mem_setTimeout dashboard.frames).2 (.inr rfl), ?_⟩
      exact Option.some_inj.1 known
  · intro free
    unfold scheduleFlush at free
    split at free
    next busy =>
      rw [free] at busy
      cases busy
    · cases free
  · intro _
    rw [scheduleFlush_pendingBatch]
    dsimp only
    rw [filled]
    rfl

/-- The frame that waits hands over what is collected, and there is something. -/
theorem Scheduled.flushes (scheduled : dashboard.Scheduled) {id : ℕ} {timer : Timeout Unit Unit}
    (waits : dashboard.frames.timer? id = some timer) :
    dashboard.step (.animationFrame id) =
      { dashboard with
        state := dashboard.state.reduceBatch dashboard.pendingBatch
        pendingBatch := {}
        frameId := none
        frames := dashboard.frames.clearTimeout id } := by
  obtain ⟨lastMessageAtMs, filled⟩ :=
    Option.isSome_iff_exists.1 (scheduled.collected (scheduled.holds.frame waits ▸ rfl))
  rw [animationFrame_step dashboard waits]
  unfold flushPendingBatch
  dsimp only
  rw [filled, Option.isNone_some, if_neg Bool.false_ne_true]
  rfl

theorem Scheduled.frame (scheduled : dashboard.Scheduled) (id : ℕ) :
    (dashboard.step (.animationFrame id)).Scheduled := by
  cases waits : dashboard.frames.timer? id with
  | none =>
    rw [animationFrame_gone dashboard waits]
    exact scheduled
  | some timer =>
    rw [scheduled.flushes waits]
    constructor
    · intro other pending
      exact absurd pending (scheduled.holds.cleared (scheduled.holds.frame waits) other)
    · exact fun _ none => nomatch none
    · exact fun _ => rfl
    · exact fun none => nomatch none

/-- No other frame waits. -/
theorem Scheduled.alone (scheduled : dashboard.Scheduled) {id : ℕ} (known : dashboard.frameId = some id) :
    dashboard.frames.pending.map (·.id) = [id] := by
  refine Loop.pending_alone _ (scheduled.waiting id known) fun timer pending => ?_
  exact Option.some_inj.1 ((scheduled.holds timer pending).symm.trans known)

/-- An event that does not cut a frame off. -/
def Calm (dashboard : Dashboard) (event : DashboardEvent) : Prop := event = .cleanup → dashboard.frameId = none

theorem Scheduled.cleanup (scheduled : dashboard.Scheduled) (calm : dashboard.Calm .cleanup) :
    dashboard.step .cleanup = dashboard := by
  have free := calm rfl
  have empty := scheduled.empty free
  unfold step Dashboard.cleanup
  dsimp only
  rw [free, Option.elim_none, ← empty, ← free]

theorem newest_reduceBatch {first second : StreamState} (same : first.newest = second.newest)
    (batch : PendingStreamBatch) : (first.reduceBatch batch).newest = (second.reduceBatch batch).newest := by
  obtain ⟨link, updated, stamp, tel, vis⟩ := Newest.mk.inj same
  unfold StreamState.reduceBatch StreamState.newest
  cases batch.linkStatus <;> simp [link, updated, stamp, tel, vis]

/-- What is collected follows the newest messages. -/
structure Follows (dashboard : Dashboard) (newest : Newest) : Prop where
  scheduled : dashboard.Scheduled
  merged : dashboard.merged = newest

theorem Follows.start (source : OverlaySource) : Follows { overlaySource := source } {} where
  scheduled := ⟨nofun, nofun, fun _ => rfl, nofun⟩
  merged := rfl

theorem Follows.step {newest : Newest} (follows : dashboard.Follows newest) {event : DashboardEvent}
    (calm : dashboard.Calm event) : (dashboard.step event).Follows (newest.after event) := by
  obtain ⟨scheduled, merged⟩ := follows
  have quiet (quiet : Quiet event) (plain : newest.after event = newest) :
      (dashboard.step event).Follows (newest.after event) := by
    rw [step_quiet dashboard quiet, plain]
    refine ⟨⟨scheduled.holds, scheduled.waiting, scheduled.empty, scheduled.collected⟩, ?_⟩
    exact (newest_reduceBatch (StreamState.newest_reduceAll _ (actions_plain event)) _).trans merged
  cases event with
  | parsedEnvelope envelope receivedAtMs =>
    by_cases warning : envelope.event = .warning
    · apply quiet warning
      unfold Newest.after Newest.receive
      dsimp only
      rw [warning]
    · refine ⟨scheduled.update warning receivedAtMs, ?_⟩
      unfold Dashboard.merged
      rw [parsedEnvelope_update dashboard warning, scheduleFlush_state, scheduleFlush_pendingBatch]
      dsimp only
      rw [newest_reduceBatch (StreamState.newest_reduceAll _ (actions_plain _)), StreamState.newest_collect]
      exact congrArg (Newest.receive · envelope receivedAtMs) merged
  | animationFrame id =>
    refine ⟨scheduled.frame id, ?_⟩
    cases waits : dashboard.frames.timer? id with
    | none =>
      rw [animationFrame_gone dashboard waits]
      exact merged
    | some timer =>
      rw [scheduled.flushes waits]
      exact merged
  | connectionChange connected => exact quiet trivial rfl
  | transportEvent consecutiveErrors => exact quiet trivial rfl
  | clearWarnings => exact quiet trivial rfl
  | cleanup =>
    rw [scheduled.cleanup calm]
    exact ⟨scheduled, merged⟩

end Dashboard

open Dashboard in
/-- As long as no frame is cut off, the state shows the newest message of each kind, or one frame waits and shows it. -/
theorem newest_shown (source : OverlaySource) (events : List DashboardEvent)
    (calm : Always Dashboard.step (fun _ => Calm) [] { overlaySource := source } events) :
    let dashboard := run source events
    (dashboard.frameId = none → dashboard.state.newest = newestOf events) ∧
      ∀ id, dashboard.frameId = some id →
        dashboard.frames.pending.map (·.id) = [id] ∧
          (dashboard.step (.animationFrame id)).state.newest = newestOf events := by
  have follows : (run source events).Follows (newestOf events) :=
    Always.simulates Follows Newest.after (fun _ _ _ _ follows calm => follows.step calm) [] _ _ events
      (Follows.start source) calm
  refine ⟨?_, fun id known => ⟨follows.scheduled.alone known, ?_⟩⟩
  · intro free
    have merged := follows.merged
    unfold Dashboard.merged at merged
    rwa [follows.scheduled.empty free] at merged
  · obtain ⟨timer, pending, same⟩ := follows.scheduled.waiting id known
    have waiting : ((run source events).frames.timer? id).isSome :=
      List.find?_isSome.2 ⟨timer, pending, beq_iff_eq.2 same⟩
    obtain ⟨found, waits⟩ := Option.isSome_iff_exists.1 waiting
    rw [follows.scheduled.flushes waits]
    exact follows.merged

/-- A link status comes, is shown by its frame, and the effect is cleaned up after that. -/
def linkThenCleanup : List DashboardEvent :=
  [.parsedEnvelope ⟨none, .linkStatus, [(pyStr "fc_connected", .bool true)], 0, 1⟩ 1000, .animationFrame 0, .cleanup]

theorem newest_shown_linkThenCleanup :
    (Dashboard.run .vis linkThenCleanup).state.newest = newestOf linkThenCleanup ∧
      (newestOf linkThenCleanup).linkUpdatedAtMs = some 1000 :=
  ⟨(newest_shown .vis linkThenCleanup ⟨nofun, nofun, fun _ => rfl, trivial⟩).1 rfl, rfl⟩

/-! ## A frame that is cut off -/

namespace Dashboard
variable {dashboard : Dashboard}

/-- The component waits for a frame that no one will run. -/
structure Wedged (dashboard : Dashboard) : Prop where
  waits : dashboard.frameId.isSome = true
  idle : dashboard.frames.pending = []

theorem Wedged.timer? (wedged : dashboard.Wedged) (id : ℕ) : dashboard.frames.timer? id = none := by
  unfold Loop.timer?
  rw [wedged.idle, List.find?_nil]

/-- No batch is handed over any more, and no frame is asked for. -/
theorem Wedged.step (wedged : dashboard.Wedged) (event : DashboardEvent) :
    (dashboard.step event).Wedged ∧ dashboard.handed event = none := by
  have quiet (quiet : Quiet event) : (dashboard.step event).Wedged := by
    rw [step_quiet dashboard quiet]
    exact ⟨wedged.waits, wedged.idle⟩
  cases event with
  | parsedEnvelope envelope receivedAtMs =>
    refine ⟨?_, rfl⟩
    by_cases warning : envelope.event = .warning
    · exact quiet warning
    · rw [parsedEnvelope_update dashboard warning]
      unfold scheduleFlush
      dsimp only
      rw [if_pos wedged.waits]
      exact ⟨wedged.waits, wedged.idle⟩
  | animationFrame id =>
    refine ⟨?_, handed_gone dashboard (wedged.timer? id)⟩
    rw [animationFrame_gone dashboard (wedged.timer? id)]
    exact wedged
  | connectionChange connected => exact ⟨quiet trivial, rfl⟩
  | transportEvent consecutiveErrors => exact ⟨quiet trivial, rfl⟩
  | clearWarnings => exact ⟨quiet trivial, rfl⟩
  | cleanup =>
    refine ⟨⟨wedged.waits, ?_⟩, rfl⟩
    obtain ⟨id, known⟩ := Option.isSome_iff_exists.1 wedged.waits
    unfold Dashboard.step cleanup
    dsimp only
    rw [known, Option.elim_some]
    change dashboard.frames.pending.filter _ = []
    rw [wedged.idle, List.filter_nil]

theorem Holds.step (holds : dashboard.Holds) (event : DashboardEvent) : (dashboard.step event).Holds := by
  have quiet (quiet : Quiet event) : (dashboard.step event).Holds := by
    rw [step_quiet dashboard quiet]
    exact holds
  cases event with
  | parsedEnvelope envelope receivedAtMs =>
    by_cases warning : envelope.event = .warning
    · exact quiet warning
    · rw [parsedEnvelope_update dashboard warning]
      exact Holds.scheduleFlush holds
  | animationFrame id =>
    cases waits : dashboard.frames.timer? id with
    | none =>
      rw [animationFrame_gone dashboard waits]
      exact holds
    | some timer =>
      rw [animationFrame_step dashboard waits]
      intro other pending
      refine absurd ?_ (holds.cleared (holds.frame waits) other)
      unfold flushPendingBatch at pending
      dsimp only at pending
      split at pending <;> exact pending
  | connectionChange connected => exact quiet trivial
  | transportEvent consecutiveErrors => exact quiet trivial
  | clearWarnings => exact quiet trivial
  | cleanup => exact holds.cleanup

theorem Holds.run (source : OverlaySource) (events : List DashboardEvent) : (run source events).Holds :=
  foldl_invariant Holds (fun _ event holds => holds.step event) _ events nofun

/-- The cleanup cancels the one frame that the component waits for, and does not forget it. -/
theorem Holds.wedged (holds : dashboard.Holds) (waits : dashboard.frameId.isSome) : dashboard.cleanup.Wedged := by
  refine ⟨waits, ?_⟩
  obtain ⟨id, known⟩ := Option.isSome_iff_exists.1 waits
  unfold Dashboard.cleanup
  dsimp only
  rw [known]
  exact List.eq_nil_iff_forall_not_mem.2 (holds.cleared known)

theorem Wedged.run (wedged : dashboard.Wedged) (events : List DashboardEvent) :
    (events.foldl Dashboard.step dashboard).Wedged ∧
      (events.foldl Dashboard.step dashboard).state.streamed = dashboard.state.streamed := by
  induction events generalizing dashboard with
  | nil => exact ⟨wedged, rfl⟩
  | cons event rest ih =>
    obtain ⟨still, none⟩ := wedged.step event
    obtain ⟨after, streamed⟩ := ih still
    rw [step_state, none] at streamed
    exact ⟨after, streamed.trans (StreamState.streamed_reduceAll _ (actions_plain event))⟩

end Dashboard

open Dashboard in
/-- Once a cleanup has cut off a frame, nothing of the stream is shown any more, whatever comes. -/
theorem cut_off (source : OverlaySource) (before later : List DashboardEvent)
    (waits : (run source before).frameId.isSome) :
    let after := run source (before ++ .cleanup :: later)
    after.state.streamed = (run source before).state.streamed ∧ after.frameId.isSome ∧ after.frames.pending = [] := by
  have wedged := (Holds.run source before).wedged waits
  obtain ⟨still, streamed⟩ := wedged.run later
  dsimp only
  unfold run at still streamed ⊢
  rw [List.foldl_append, List.foldl_cons]
  exact ⟨streamed, still.waits, still.idle⟩

/-- The cleanup comes between a link status and its frame, and the next link status is not shown. -/
theorem cut_off_linkStatus :
    (Dashboard.run .vis (linkThenCleanup.take 1 ++ .cleanup :: linkThenCleanup)).state.streamed =
      (Dashboard.run .vis (linkThenCleanup.take 1)).state.streamed :=
  (cut_off .vis (linkThenCleanup.take 1) linkThenCleanup rfl).1

end AotDrone.Webapp
