import AotDrone.Backend.Broadcaster
import AotDrone.Lib.Binary64
import AotDrone.Lib.Simulation

/-! What the clients are sent of the messages and the warnings: however the threads interleave, the envelopes of one
topic are what a gate lets through of its calls one after the other. -/

namespace AotDrone.Backend
open AotDrone.Lib AotDrone.Lib.Double AotDrone.Lib.Spacing AotDrone.Json

/-- The topics that one thread calls for, of those that are not always sent. The thread that shuts the backend down
reports a disconnection of its own. -/
def Topic.Single (stops : Bool) (topic : Topic) : Prop :=
  topic ≠ .linkStatus ∧ (stops = true → topic ≠ .warning "fc_disconnected")

/-- That thread. -/
def Topic.owner : Topic → Caller
  | telUpdate => .telUdp
  | visUpdate => .visUdp
  | linkStatus => .heartbeat
  | warning kind =>
    if kind = "tel_oversize_drop" then .telUdp else if kind = "vis_oversize_drop" then .visUdp else .cmdBridge

/-- The message of the update is the latest that is stored. -/
def SharedState.Holds (shared : SharedState) : Update → Prop
  | .tel msg rxMonotonic => shared.tel.latest = some msg ∧ shared.tel.lastRxMonotonic = some rxMonotonic
  | .vis msg rxMonotonic => shared.vis.latest = some msg ∧ shared.vis.lastRxMonotonic = some rxMonotonic

/-- A call for an update has its time of receipt. -/
def OnTime (ask : BroadcastCall × Double) : Prop := ∀ update, ask.1 = .update update → ask.2 = update.rxMonotonic

/-- What a call sends of itself: a link status is read when it is sent. -/
def BroadcastCall.ownData [Fpu] : BroadcastCall → Option Members
  | .update message => some message.data
  | linkStatus => none
  | warning kind detail severity => some (warningData kind detail severity)

def OwnData [Fpu] (ask : BroadcastCall × Double) (data : Members) : Prop := ∀ own ∈ ask.1.ownData, data = own

/-- The call is one that this thread makes. -/
def BroadcastCall.By (stops : Bool) (caller : Caller) (call : BroadcastCall) : Prop :=
  call.topic.Single stops → caller = call.topic.owner

theorem Feed.single (feed : Feed) (stops : Bool) : feed.topic.Single stops := by
  cases feed <;> exact ⟨Topic.noConfusion, fun _ => Topic.noConfusion⟩

section calls
variable {stops : Bool}

theorem onTelDrop_by {shared : SharedState} {reason : DropReason} {detail : String} :
    ∀ call ∈ onTelDrop shared reason detail, call.By stops .telUdp := by
  intro call member
  unfold onTelDrop at member
  split_ifs at member
  · rw [List.mem_singleton.1 member]
    exact fun _ => rfl
  · cases member

theorem onVisDrop_by {shared : SharedState} {reason : DropReason} {detail : String} :
    ∀ call ∈ onVisDrop shared reason detail, call.By stops .visUdp := by
  intro call member
  unfold onVisDrop at member
  split_ifs at member
  · rw [List.mem_singleton.1 member]
    exact fun _ => rfl
  · cases member

theorem onFcConnectionChanged_by {connected : Bool} :
    ∀ call ∈ onFcConnectionChanged connected, call.By stops .cmdBridge := by
  cases connected <;>
    simp [onFcConnectionChanged, BroadcastCall.By, BroadcastCall.topic, Topic.owner, Topic.Single]

/-- What the thread that shuts down calls for is in nobody's hands. -/
theorem onFcConnectionChanged_stop : ∀ call ∈ onFcConnectionChanged false, call.By true .shutdown := by
  simp [onFcConnectionChanged, BroadcastCall.By, BroadcastCall.topic, Topic.Single]

theorem onTrackingBlocked_by {reason : BlockedReason} : ∀ call ∈ onTrackingBlocked reason, call.By stops .cmdBridge := by
  cases reason <;>
    simp [onTrackingBlocked, BroadcastCall.By, BroadcastCall.topic, Topic.owner, Topic.Single, BlockedReason.name]

theorem BroadcastCall.By.own {caller : Caller} {call : BroadcastCall} (mine : call.By stops caller) {topic : Topic}
    (single : topic.Single stops) (same : call.topic = topic) : caller = topic.owner ∧ call.force = false := by
  subst same
  refine ⟨mine single, ?_⟩
  cases call with
  | linkStatus => exact absurd rfl single.1
  | update _ | warning _ _ _ => rfl

end calls

section
variable [Fpu]

/-! ## Messages -/

/-- A message is stored with its time of receipt. -/
theorem processDatagram_receipt {msg : Type} (kind : StreamKind msg) {maxBytes recursionLimit : Nat}
    {stream : Stream msg} {data : Bytes} {rxMonotonic : Double}
    (returned : (kind.processDatagram maxBytes recursionLimit stream data rxMonotonic).2 = .ok true) :
    (kind.processDatagram maxBytes recursionLimit stream data rxMonotonic).1.lastRxMonotonic = some rxMonotonic := by
  rcases kind.processDatagram_cases maxBytes recursionLimit stream data rxMonotonic with
    ⟨_, _, _, _, _, _, same⟩ | ⟨refused, -⟩
  · rw [same]
    rfl
  · exact absurd returned refused

theorem stored_holds {ingest : IngestConfig} {shared : SharedState} {datagram : Datagram}
    (returned : (Backend.ingest ingest shared datagram).2 = .ok true) :
    ∀ update ∈ datagram.stored (Backend.ingest ingest shared datagram).1,
      (Backend.ingest ingest shared datagram).1.Holds update ∧ update.topic.owner = datagram.caller := by
  intro update member
  cases datagram with
  | tel data rxMonotonic =>
    obtain ⟨msg, latest, rfl⟩ := Option.map_eq_some_iff.1 member
    exact ⟨⟨latest, processDatagram_receipt telKind returned⟩, rfl⟩
  | vis data rxMonotonic =>
    obtain ⟨msg, latest, rfl⟩ := Option.map_eq_some_iff.1 member
    exact ⟨⟨latest, processDatagram_receipt visKind returned⟩, rfl⟩

/-- A datagram of one stream leaves the messages of the other alone. -/
theorem ingest_holds {ingest : IngestConfig} {shared : SharedState} {datagram : Datagram} {update : Update}
    (other : update.topic.owner ≠ datagram.caller) (holds : shared.Holds update) :
    (Backend.ingest ingest shared datagram).1.Holds update := by
  cases datagram <;> cases update <;> first | exact holds | exact absurd rfl other

omit [Fpu] in
theorem drops_by {stops : Bool} {ingest : IngestConfig} {shared : SharedState} {datagram : Datagram} :
    ∀ call ∈ datagram.drops ingest shared, call.By stops datagram.caller := by
  intro call member
  cases datagram with
  | tel data rxMonotonic =>
    unfold Datagram.drops at member
    dsimp only at member
    split_ifs at member
    · exact onTelDrop_by call member
    · cases member
  | vis data rxMonotonic =>
    unfold Datagram.drops at member
    dsimp only at member
    split_ifs at member
    · exact onVisDrop_by call member
    · cases member

omit [Fpu] in
theorem drops_no_update {ingest : IngestConfig} {shared : SharedState} {datagram : Datagram} {update : Update} :
    .update update ∉ datagram.drops ingest shared := by
  cases datagram with
  | tel data rxMonotonic =>
    unfold Datagram.drops onTelDrop
    split_ifs <;> simp
  | vis data rxMonotonic =>
    unfold Datagram.drops onVisDrop
    split_ifs <;> simp

/-- What a call sends that finds its own message still the latest. -/
theorem callData_holds {shared : SharedState} {update : Update} (holds : shared.Holds update) (linkStatus : Members) :
    shared.callData linkStatus update.rxMonotonic (.update update) = some update.data := by
  cases update with
  | tel msg rxMonotonic | vis msg rxMonotonic =>
    obtain ⟨latest, receipt⟩ := holds
    simp [SharedState.callData, SharedState.getTelAge, SharedState.getVisAge, latest, receipt, Update.data,
      Update.rxMonotonic]

/-! ## The invariant -/

namespace Broadcasting
variable {config : SpacingConfig} {ingest : IngestConfig}

/-- Each such topic is in the hands of its owner, and a message in anyone's hands is the latest of its stream. -/
structure Coherent (config : SpacingConfig) (stops : Bool) (system : Broadcasting) : Prop where
  owned : ∀ topic : Topic, topic.Single stops → system.gate.OwnedBy config.rules topic topic.owner
  sequential : ∀ topic : Topic, topic.Single stops → system.gate.Sequential config.rules topic topic.owner
  current : ∀ caller update, .update update ∈ system.gate.inHand caller → system.shared.Holds update
  sends : system.gate.Sends OnTime OwnData

namespace Coherent
variable {system : Broadcasting} {stops : Bool}

theorem submit (inv : system.Coherent config stops) {caller : Caller} {calls : List BroadcastCall}
    (mine : ∀ call ∈ calls, call.By stops caller) (held : ∀ update, .update update ∈ calls → system.shared.Holds update) :
    ({ system with gate := system.gate.submit caller calls } : Broadcasting).Coherent config stops where
  owned topic single :=
    (inv.owned topic single).submit caller fun call member => (mine call member).own single
  sequential topic single :=
    (inv.sequential topic single).submit caller fun call member => (mine call member).own single
  current other update member := by
    rcases Gate.submit_inHand member with old | ⟨-, -, new⟩
    · exact inv.current other update old
    · exact held update new
  sends := inv.sends.submit caller calls

/-- The receiver is through with the datagram before when it takes the next. -/
theorem ingested (inv : system.Coherent config stops) (ingest : IngestConfig) {datagram : Datagram}
    (free : system.gate.busy datagram.caller = false) :
    ({ system with shared := (Backend.ingest ingest system.shared datagram).1 } : Broadcasting).Coherent config stops where
  owned := inv.owned
  sequential := inv.sequential
  current caller update member := by
    have single : update.topic.Single stops := by
      cases update with
      | tel _ _ => exact Feed.tel.single stops
      | vis _ _ => exact Feed.vis.single stops
    have owner := (inv.owned update.topic single caller (.update update) member rfl).1
    apply ingest_holds _ (inv.current caller update member)
    intro same
    rw [owner, same, Gate.inHand_free free] at member
    cases member
  sends := inv.sends

theorem serve (inv : system.Coherent config stops) (datagram : Datagram) :
    (system.serve ingest datagram).Coherent config stops := by
  unfold Broadcasting.serve
  split_ifs with unable
  · exact inv
  obtain ⟨free, -⟩ : system.gate.busy datagram.caller = false ∧ system.ended datagram.caller = false := by
    simpa using unable
  have received := inv.ingested ingest free
  dsimp only
  split
  · next returned =>
    apply received.submit
    · intro call member
      obtain ⟨update, stored, rfl⟩ := List.mem_map.1 member
      intro _
      exact (stored_holds returned update (Option.mem_toList.1 stored)).2.symm
    · intro update member
      obtain ⟨_, stored, same⟩ := List.mem_map.1 member
      rw [← BroadcastCall.update.inj same]
      exact (stored_holds returned _ (Option.mem_toList.1 stored)).1
  · apply received.submit drops_by
    intro update member
    exact absurd member drops_no_update
  · exact ⟨received.owned, received.sequential, received.current, received.sends⟩

theorem advance (inv : system.Coherent config stops) (caller : Caller) (clock : Double) (linkStatus : Members) :
    ({ system with
      gate := system.gate.advance config.rules caller (BroadcastCall.now clock)
        fun call now => system.shared.callData linkStatus now call } : Broadcasting).Coherent config stops := by
  have passed : ∀ update now, system.gate.stage caller = .passed (.update update) now →
      system.shared.callData linkStatus now (.update update) = some update.data := by
    intro update now stage
    have held := inv.current caller update (by simp [Gate.inHand, stage, Stage.call?])
    have time := inv.sends.stages caller (.update update, now) (by simp [stage, Stage.ask?]) update rfl
    rw [show now = update.rxMonotonic from time]
    exact callData_holds held linkStatus
  refine ⟨?_, ?_, ?_, ?_⟩
  · intro topic single
    exact (inv.owned topic single).advance caller _ _
  · intro topic single
    apply (inv.sequential topic single).advance (inv.owned topic single) caller
    intro call now stage same
    cases call with
    | update update => rw [passed update now stage]; rfl
    | linkStatus | warning _ _ _ => rfl
  · intro other update member
    exact inv.current other update (Gate.advance_inHand member)
  · apply inv.sends.advance caller
    · rintro (update | _ | _) own same
      · obtain rfl := BroadcastCall.update.inj same
        rfl
      · cases same
      · cases same
    · intro call now payload stage sent own same
      cases call with
      | update update =>
        rw [passed update now stage] at sent
        exact (Option.some.inj sent).symm.trans (Option.some.inj same)
      | linkStatus => cases same
      | warning kind detail severity => exact (Option.some.inj sent).symm.trans (Option.some.inj same)

theorem step (inv : system.Coherent config stops) (event : BroadcastEvent) (stop : event = .stop → stops = true) :
    (system.step config ingest event).Coherent config stops := by
  cases event with
  | datagram datagram => exact inv.serve datagram
  | fcConnectionChanged connected =>
    apply inv.submit onFcConnectionChanged_by
    intro update member
    cases connected <;> simp [onFcConnectionChanged] at member
  | trackingBlocked reason =>
    apply inv.submit onTrackingBlocked_by
    intro update member
    simp [onTrackingBlocked] at member
  | beat =>
    apply inv.submit
    · intro call member limited
      rw [List.mem_singleton.1 member] at limited
      exact absurd rfl limited.1
    · simp
  | stop =>
    apply inv.submit
    · rw [stop rfl]
      exact onFcConnectionChanged_stop
    · simp [onFcConnectionChanged]
  | advance caller clock linkStatus => exact inv.advance caller clock linkStatus

end Coherent

theorem run_coherent (cmdNextSeq : ℤ) (events : List BroadcastEvent) {stops : Bool}
    (stop : .stop ∈ events → stops = true) : (run config ingest cmdNextSeq events).Coherent config stops := by
  have start : ({ shared := { cmdNextSeq } } : Broadcasting).Coherent config stops := by
    refine ⟨fun topic _ => .closed, fun topic _ => .closed, ?_, .closed⟩
    intro caller update member
    rw [Gate.inHand_free rfl] at member
    cases member
  apply List.foldlRecOn events (Broadcasting.step config ingest) start
  intro system inv event member
  exact inv.step event fun same => stop (same ▸ member)

/-! ## Updates -/

/-- The call of an update, with its time. -/
def updateAsk (update : Update) : BroadcastCall × Double := (.update update, update.rxMonotonic)

omit [Fpu] in
/-- What was asked under the topic of a stream are its updates. -/
theorem asks_updates (feed : Feed) {asks : List (BroadcastCall × Double)} (onTime : ∀ ask ∈ asks, OnTime ask)
    (same : ∀ ask ∈ asks, ask.1.topic = feed.topic) :
    asks = ((asks.map Prod.fst).filterMap BroadcastCall.update?).map updateAsk := by
  induction asks with
  | nil => rfl
  | cons ask rest ih =>
    rw [List.forall_mem_cons] at onTime same
    obtain ⟨call, now⟩ := ask
    cases call with
    | update update =>
      have time : now = update.rxMonotonic := onTime.1 update rfl
      change _ = updateAsk update :: ((rest.map Prod.fst).filterMap BroadcastCall.update?).map updateAsk
      rw [← ih onTime.2 same.2, time]
      rfl
    | linkStatus | warning _ _ _ => cases feed <;> cases same.1

/-- What is let through of the calls is what is let through of the messages. -/
theorem admitted_updates (feed : Feed) (updates : List Update) :
    (admitted (config.due feed.topic) none (updates.map updateAsk)).map
        (fun ask => (ask.1.ownData, ask.2)) =
      (thinned config feed updates).map (Prod.map some id) := by
  have asks : updates.map updateAsk =
      (updates.map fun update => (update, update.rxMonotonic)).map (Prod.map BroadcastCall.update id) := by
    rw [List.map_map]
    rfl
  rw [asks, admitted_map, List.map_map, thinned, List.map_map]
  rfl

namespace Coherent
variable {system : Broadcasting} {stops : Bool}

/-- Every envelope of a topic that is not always sent carries what its own call had to send, and its time. -/
theorem broadcasts_eq (inv : system.Coherent config stops) {topic : Topic} (limited : topic ≠ .linkStatus) :
    (system.broadcasts topic).map (Prod.map some id) =
      (system.gate.sentOf config.rules topic).map fun ask => (ask.1.ownData, ask.2) := by
  unfold broadcasts Gate.sentOf
  rw [List.filter_map, List.map_map, List.map_map]
  apply List.map_congr_left
  intro s member
  obtain ⟨present, same⟩ := List.mem_filter.1 member
  obtain ⟨⟨call, now⟩, data⟩ := s
  have own := (inv.sends.sent _ present).2
  cases call with
  | update _ | warning _ _ _ => rw [show data = _ from own _ rfl]; rfl
  | linkStatus => exact absurd (of_decide_eq_true same).symm limited

/-- What has been asked of a stream are the first of its stored messages. -/
theorem asked_stored (inv : system.Coherent config stops) (feed : Feed) :
    ∃ updates later, system.stored feed = updates ++ later ∧
      system.gate.askedOf config.rules feed.topic = updates.map updateAsk ∧
      (system.gate.busy feed.topic.owner = false → later = []) := by
  have sequential := inv.sequential feed.topic (feed.single stops)
  refine ⟨_, (system.gate.waitingOf config.rules feed.topic feed.topic.owner).filterMap BroadcastCall.update?, ?_,
    asks_updates feed ?_ ?_, ?_⟩
  · rw [← List.filterMap_append, sequential.asks]
    rfl
  · intro ask member
    exact inv.sends.asked ask (List.mem_filter.1 member).1
  · intro ask member
    exact of_decide_eq_true (List.mem_filter.1 member).2
  · intro free
    obtain ⟨stage, todo⟩ := system.gate.idle_of_not_busy free
    rw [Gate.waitingOf, stage, todo]
    rfl

end Coherent

/-- However the threads interleave, the envelopes of a stream are the messages that come at least a period after the
one sent before, in their order, each with its own receipt; and once its receiver is through with what it took, all of
them have been sent. -/
theorem updates_thinned (cmdNextSeq : ℤ) (events : List BroadcastEvent) (feed : Feed) :
    let system := run config ingest cmdNextSeq events
    ∃ later, thinned config feed (system.stored feed) = system.broadcasts feed.topic ++ later ∧
      (system.gate.busy feed.topic.owner = false → later = []) := by
  intro system
  have inv : system.Coherent config true := run_coherent cmdNextSeq events fun _ => rfl
  have single := feed.single true
  have sends := (inv.sequential feed.topic single).sends
  obtain ⟨updates, waiting, stored, asked, through⟩ := inv.asked_stored feed
  obtain ⟨rest, more⟩ : thinned config feed updates <+: thinned config feed (updates ++ waiting) := by
    unfold thinned
    rw [List.map_append]
    exact (admitted_initial none _ _).map _
  -- What has passed and is not sent yet comes right after what is sent.
  have same : (thinned config feed updates).map (Prod.map some id) =
      (system.broadcasts feed.topic).map (Prod.map some id) ++
        ((system.gate.stage feed.topic.owner).passing config.rules feed.topic).map
          fun ask => (ask.1.ownData, ask.2) := by
    rw [← admitted_updates, ← asked, inv.broadcasts_eq single.1, ← List.map_append]
    exact congrArg _ sends.symm
  obtain ⟨sent, passing, split, first, second⟩ := List.map_eq_append_iff.1 same
  have injective : Function.Injective (Prod.map (some : Members → _) (id : Double → _)) :=
    (Option.some_injective _).prodMap Function.injective_id
  rw [List.map_injective_iff.2 injective first] at split
  refine ⟨passing ++ rest, ?_, ?_⟩
  · rw [stored, ← more, split, List.append_assoc]
  · intro free
    obtain ⟨stage, -⟩ := system.gate.idle_of_not_busy free
    rw [stage, Stage.passing, List.map_nil, List.map_eq_nil_iff] at second
    rw [through free, List.append_nil] at more
    rw [second, List.nil_append]
    exact List.append_right_eq_self.1 more

/-! ## Warnings -/

/-- The second time is not within the interval after the first. -/
def WarningsApart (config : SpacingConfig) (earlier later : Double) : Prop :=
  ¬ (0 < config.warningMinInterval ∧ later - earlier < config.warningMinInterval)

theorem due_warning {kind : String} {last now : Double} :
    config.due (.warning kind) last now = true ↔ WarningsApart config last now := by
  unfold SpacingConfig.due WarningsApart
  rw [Bool.not_eq_true', decide_eq_false_iff_not]

/-- However the threads interleave, two warnings of one kind are never sent within the interval; and a warning is
either sent, or held back because an earlier one of its kind was sent within the interval, or it is the one that its
thread is about to send. Of a lost connection that holds until the backend shuts down: the thread that does so reports
one of its own. -/
theorem warnings_spaced (cmdNextSeq : ℤ) (events : List BroadcastEvent) (kind : String)
    (running : kind = "fc_disconnected" → .stop ∉ events) :
    let system := run config ingest cmdNextSeq events
    let sent := system.broadcasts (.warning kind)
    sent.IsChain (fun earlier later => WarningsApart config earlier.2 later.2) ∧
      ∀ before ask, before ++ [ask] <+: system.gate.askedOf config.rules (.warning kind) →
        (∃ data ∈ ask.1.ownData, (data, ask.2) ∈ sent) ∨
          system.gate.stage (Topic.warning kind).owner = .passed ask.1 ask.2 ∨
          ∃ earlier ∈ sent, earlier.2 ∈ before.map Prod.snd ∧ ¬ WarningsApart config earlier.2 ask.2 := by
  intro system sent
  obtain ⟨stops, inv, single⟩ : ∃ stops, system.Coherent config stops ∧ (Topic.warning kind).Single stops := by
    by_cases shared : kind = "fc_disconnected"
    · exact ⟨false, run_coherent cmdNextSeq events fun stop => absurd stop (running shared), Topic.noConfusion, nofun⟩
    · exact ⟨true, run_coherent cmdNextSeq events fun _ => rfl, Topic.noConfusion, fun _ same => shared (by cases same; rfl)⟩
  have sequential := inv.sequential _ single
  have own := inv.broadcasts_eq single.1
  have times : sent.map Prod.snd = (system.gate.sentOf config.rules (.warning kind)).map Prod.snd := by
    have seconds := congrArg (List.map Prod.snd) own
    rwa [List.map_map, List.map_map] at seconds
  have sent_of : ∀ ask ∈ system.gate.sentOf config.rules (.warning kind),
      ∃ data ∈ ask.1.ownData, (data, ask.2) ∈ sent := by
    intro ask member
    have image : (ask.1.ownData, ask.2) ∈ sent.map (Prod.map some id) := by
      rw [own]
      exact List.mem_map_of_mem member
    obtain ⟨⟨data, now⟩, present, same⟩ := List.mem_map.1 image
    obtain ⟨first, second⟩ := Prod.mk.inj same
    exact ⟨data, first.symm, second ▸ present⟩
  constructor
  · have spaced := admitted_spaced (config.due (.warning kind)) (system.gate.askedOf config.rules (.warning kind))
    rw [← show _ = admitted (config.due (.warning kind)) none _ from sequential.sends] at spaced
    have chain : (sent.map Prod.snd).IsChain (WarningsApart config) := by
      rw [times]
      exact List.isChain_map_of_isChain Prod.snd (fun _ _ due => due_warning.1 due) spaced.left_of_append
    exact List.isChain_of_isChain_map Prod.snd (fun _ _ apart => apart) chain
  · intro before ask ⟨after, split⟩
    rw [List.append_assoc, List.singleton_append] at split
    rcases admitted_covers (config.due (.warning kind)) split.symm with sends | ⟨earlier, member, soon⟩
    · rw [← show _ = admitted (config.due (.warning kind)) none _ from sequential.sends] at sends
      rcases List.mem_append.1 sends with done | passing
      · exact .inl (sent_of ask done)
      · exact .inr (.inl (Stage.eq_passed passing))
    · obtain ⟨data, -, present⟩ := sent_of earlier (sequential.sent_before split.symm member)
      have earlier_asked := (admitted_sublist none before).subset member
      refine .inr (.inr ⟨_, present, List.mem_map_of_mem earlier_asked, ?_⟩)
      intro apart
      rw [due_warning.2 apart] at soon
      cases soon

end Broadcasting
end

namespace Broadcasting
attribute [local instance] Binary64.binary64

/-- The bridge loses its connection at 10 s and again at 11 s. -/
def lostTwice : List BroadcastEvent :=
  .fcConnectionChanged false :: List.replicate 8 (.advance .cmdBridge 10 []) ++
    .fcConnectionChanged false :: List.replicate 8 (.advance .cmdBridge 11 [])

theorem warnings_spaced_lostTwice :
    let system := run {} {} 0 lostTwice
    ((system.broadcasts (.warning "fc_disconnected")).IsChain fun earlier later =>
        WarningsApart {} earlier.2 later.2) ∧
      system.gate.asked.length = 4 ∧ (system.broadcasts (.warning "fc_disconnected")).length = 1 :=
  ⟨(warnings_spaced 0 lostTwice "fc_disconnected" (fun _ => by simp [lostTwice])).1, by decide +kernel, by decide +kernel⟩

end Broadcasting
end AotDrone.Backend
