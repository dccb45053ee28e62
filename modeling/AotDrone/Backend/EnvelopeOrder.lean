import AotDrone.Backend.WsManager
import AotDrone.Lib.Run

/-! The numbers of the envelopes that one client gets. -/

namespace AotDrone.Backend
open AotDrone.Lib AotDrone.Lib.Double AotDrone.Lib.Run AotDrone.Json

/-! ## Lists of envelopes -/

/-- The numbers increase and are all given out. -/
structure Ordered (next : Nat) (envelopes : List Envelope) : Prop where
  increasing : envelopes.Pairwise fun first second => first.seq < second.seq
  given : ∀ envelope ∈ envelopes, envelope.seq < next

namespace Ordered
variable {next : Nat} {envelopes : List Envelope}

theorem nil : Ordered next [] := ⟨.nil, fun _ none => absurd none List.not_mem_nil⟩

theorem sublist (ordered : Ordered next envelopes) {fewer : List Envelope} (kept : fewer.Sublist envelopes) :
    Ordered next fewer :=
  ⟨ordered.increasing.sublist kept, fun envelope mem => ordered.given envelope (kept.mem mem)⟩

theorem mono (ordered : Ordered next envelopes) {later : Nat} (after : next ≤ later) : Ordered later envelopes :=
  ⟨ordered.increasing, fun envelope mem => (ordered.given envelope mem).trans_le after⟩

theorem snoc (ordered : Ordered next envelopes) {envelope : Envelope} (latest : ∀ m ∈ envelopes, m.seq < envelope.seq)
    (given : envelope.seq < next) : Ordered next (envelopes ++ [envelope]) := by
  constructor
  · rw [List.pairwise_append]
    refine ⟨ordered.increasing, List.pairwise_singleton _ _, ?_⟩
    intro m mem last at_last
    rw [List.mem_singleton.1 at_last]
    exact latest m mem
  · intro m mem
    cases List.mem_append.1 mem with
    | inl old => exact ordered.given m old
    | inr new =>
      rw [List.mem_singleton.1 new]
      exact given

end Ordered

theorem forall_mem_modify {α : Type*} {P : α → Prop} {items : List α} (all : ∀ item ∈ items, P item) {i : Nat} {f : α → α}
    (changed : ∀ item, items[i]? = some item → P (f item)) : ∀ item ∈ items.modify i f, P item := by
  intro item mem
  obtain ⟨j, found⟩ := List.mem_iff_getElem?.1 mem
  rw [List.getElem?_modify] at found
  obtain ⟨before, at_j, rfl⟩ := Option.map_eq_some_iff.1 found
  by_cases same : i = j
  · subst same
    rw [if_pos rfl]
    exact changed before at_j
  · rw [if_neg same]
    exact all before (List.mem_of_getElem? at_j)

/-! ## The queues -/

namespace WsManager
variable (manager : WsManager) (clientId : Nat)

theorem queue_setQueue (f : List Envelope → List Envelope) (other : Nat) :
    (manager.setQueue clientId f).queue other =
      ((manager.clients.lookup other).map (if other = clientId then f else id)).getD [] := by
  unfold queue setQueue
  dsimp only
  congr 1
  induction manager.clients with
  | nil => rfl
  | cons client rest ih =>
    obtain ⟨id, queue⟩ := client
    rw [List.map_cons]
    by_cases own : id = clientId
    · subst own
      rw [if_pos rfl, List.lookup_cons, List.lookup_cons, ih]
      by_cases same : other = id
      · subst same
        rw [beq_self_eq_true, if_pos rfl]
        rfl
      · rw [beq_false_of_ne same]
    · rw [if_neg own, List.lookup_cons, List.lookup_cons, ih]
      by_cases same : other = id
      · subst same
        rw [beq_self_eq_true, if_neg own]
        rfl
      · rw [beq_false_of_ne same]

theorem queue_register (other : Nat) : manager.register.2.queue other = manager.queue other := by
  unfold queue register
  dsimp only
  rw [List.lookup_append]
  cases manager.clients.lookup other with
  | some queue => rfl
  | none =>
    rw [Option.none_or, List.lookup_cons]
    split <;> rfl

theorem queue_unregister (other : Nat) : ((manager.unregister clientId).queue other).Sublist (manager.queue other) := by
  by_cases same : other = clientId
  · have gone : (manager.unregister clientId).clients.lookup other = none := by
      rw [List.lookup_eq_none_iff]
      intro client mem
      have differs := (List.mem_filter.1 mem).2
      rw [same]
      exact bne_iff_ne.2 (of_decide_eq_true differs).symm
    unfold queue
    rw [gone]
    exact List.nil_sublist _
  · have kept : (manager.unregister clientId).clients.lookup other = manager.clients.lookup other := by
      unfold unregister
      dsimp only
      induction manager.clients with
      | nil => rfl
      | cons client rest ih =>
        obtain ⟨id, queue⟩ := client
        by_cases own : id = clientId
        · rw [List.filter_cons_of_neg (by simp [own]), ih, List.lookup_cons, own, beq_false_of_ne same]
        · rw [List.filter_cons_of_pos (by simp [own]), List.lookup_cons, List.lookup_cons, ih]
    unfold queue
    rw [kept]

theorem queue_append (envelope : Envelope) (other : Nat) :
    (manager.append clientId envelope).queue other = manager.queue other ∨
      (other = clientId ∧ ∃ fewer, fewer.Sublist (manager.queue other) ∧
        (manager.append clientId envelope).queue other = fewer ++ [envelope]) := by
  unfold append
  rw [queue_setQueue]
  unfold queue
  by_cases same : other = clientId
  · rw [if_pos same]
    cases manager.clients.lookup other with
    | none => exact .inl rfl
    | some queue =>
      refine .inr ⟨same, _, ?_, rfl⟩
      split
      · exact List.tail_sublist queue
      · exact List.Sublist.refl queue
  · rw [if_neg same, Option.map_id]
    exact .inl rfl

theorem setQueue_ids (f : List Envelope → List Envelope) :
    (manager.setQueue clientId f).clients.map Prod.fst = manager.clients.map Prod.fst := by
  unfold setQueue
  rw [List.map_map]
  apply List.map_congr_left
  intro client _
  dsimp only [Function.comp]
  split <;> rfl

/-- What `pop_next` takes is the head of the queue, and no queue grows. -/
theorem queue_popNext {envelope : Envelope} {rest : WsManager} (popped : manager.popNext clientId = some (envelope, rest)) :
    rest = manager.setQueue clientId List.tail ∧ manager.queue clientId = envelope :: rest.queue clientId ∧
      ∀ other, (rest.queue other).Sublist (manager.queue other) := by
  unfold popNext at popped
  cases waiting : manager.queue clientId with
  | nil =>
    rw [waiting] at popped
    cases popped
  | cons first others =>
    rw [waiting] at popped
    cases popped
    refine ⟨rfl, ?_, ?_⟩
    · rw [queue_setQueue, if_pos rfl]
      unfold queue at waiting
      cases found : manager.clients.lookup clientId with
      | none =>
        rw [found] at waiting
        cases waiting
      | some queue =>
        rw [found] at waiting
        cases waiting
        rfl
    · intro other
      rw [queue_setQueue]
      unfold queue
      cases manager.clients.lookup other with
      | none => exact List.Sublist.refl _
      | some queue =>
        rw [Option.map_some, Option.getD_some, Option.getD_some]
        split
        · exact List.tail_sublist queue
        · exact List.Sublist.refl queue

end WsManager

/-! ## The hub -/

namespace Hub

/-- What a client has got and what is under way to it, oldest first. -/
def traffic (hub : Hub) (endpoint : Endpoint) : List Envelope :=
  endpoint.sent ++ endpoint.pending.toList ++ hub.manager.queue endpoint.clientId

structure Sound (hub : Hub) : Prop where
  clients : ∀ clientId ∈ hub.manager.clients.map Prod.fst, clientId < hub.manager.nextClientId
  numbered : ∀ broadcast ∈ hub.broadcasts, broadcast.envelope.seq < hub.manager.nextEventSeq
  ordered : ∀ endpoint ∈ hub.endpoints, Ordered hub.manager.nextEventSeq (hub.traffic endpoint)

/-- An envelope joins a queue only after those with smaller numbers, and a snapshot is built only while the queue of its
client is empty. -/
def InOrder (_past : Past Hub HubEvent) (hub : Hub) : HubEvent → Prop
  | .append broadcast => ∀ b ∈ hub.broadcasts[broadcast]?, ∀ clientId ∈ b.targets.bind List.head?,
    ∀ endpoint ∈ hub.endpoints, endpoint.clientId = clientId → ∀ m ∈ hub.traffic endpoint, m.seq < b.envelope.seq
  | .snapshot endpoint (some _) _ => ∀ e ∈ hub.endpoints[endpoint]?, (hub.manager.queue e.clientId).isEmpty = true
  | _ => True

instance InOrder.decidable (past : Past Hub HubEvent) (hub : Hub) (event : HubEvent) :
    Decidable (InOrder past hub event) :=
  match event with
  | .append broadcast => inferInstanceAs (Decidable (∀ b ∈ hub.broadcasts[broadcast]?,
    ∀ clientId ∈ b.targets.bind List.head?, ∀ endpoint ∈ hub.endpoints, endpoint.clientId = clientId →
      ∀ m ∈ hub.traffic endpoint, m.seq < b.envelope.seq))
  | .snapshot endpoint (some _) _ => inferInstanceAs (Decidable (∀ e ∈ hub.endpoints[endpoint]?,
    (hub.manager.queue e.clientId).isEmpty = true))
  | .snapshot _ none _ | .broadcast _ _ _ | .list _ | .register | .unregister _ | .connect | .send _ | .popNext _ =>
    .isTrue trivial

variable {hub : Hub}

/-- A number is given out. -/
theorem Sound.number (sound : hub.Sound) (event : WsEvent) (data : Members) (timestamp : Double) :
    { hub with manager := (hub.manager.buildEnvelope event data timestamp).2 }.Sound :=
  ⟨sound.clients, fun broadcast mem => (sound.numbered broadcast mem).trans (Nat.lt_succ_self _),
    fun endpoint mem => (sound.ordered endpoint mem).mono (Nat.le_succ _)⟩

theorem Sound.broadcast (sound : hub.Sound) (event : WsEvent) (data : Members) (timestamp : Double) :
    (hub.broadcast event data timestamp).Sound := by
  have numbered := sound.number event data timestamp
  refine ⟨numbered.clients, ?_, numbered.ordered⟩
  intro broadcast mem
  cases List.mem_append.1 mem with
  | inl old => exact numbered.numbered broadcast old
  | inr new =>
    rw [List.mem_singleton.1 new]
    exact Nat.lt_succ_self _

theorem Sound.list (sound : hub.Sound) (broadcast : Nat) : (hub.list broadcast).Sound :=
  ⟨sound.clients, forall_mem_modify sound.numbered fun b found => sound.numbered b (List.mem_of_getElem? found),
    sound.ordered⟩

theorem Sound.append (sound : hub.Sound) {broadcast : Nat} (past : Past Hub HubEvent)
    (inOrder : InOrder past hub (.append broadcast)) : (hub.append broadcast).Sound := by
  unfold Hub.append
  split
  next envelope clientId rest found =>
    have given := sound.numbered _ (List.mem_of_getElem? found)
    refine ⟨?_, ?_, ?_⟩
    · unfold WsManager.append
      rw [WsManager.setQueue_ids]
      exact sound.clients
    · intro b mem
      cases List.mem_or_eq_of_mem_set mem with
      | inl old => exact sound.numbered b old
      | inr new =>
        rw [new]
        exact given
    · intro endpoint mem
      have ordered := sound.ordered endpoint mem
      unfold traffic
      dsimp only
      cases hub.manager.queue_append clientId envelope endpoint.clientId with
      | inl same =>
        rw [same]
        exact ordered
      | inr joins =>
        obtain ⟨own, fewer, kept, joined⟩ := joins
        rw [joined, ← List.append_assoc]
        have part := List.Sublist.append_left kept (endpoint.sent ++ endpoint.pending.toList)
        apply (ordered.sublist part).snoc _ given
        intro m at_m
        exact inOrder _ found clientId rfl endpoint mem own m (part.mem at_m)
  next => exact sound

theorem Sound.register (sound : hub.Sound) : { hub with manager := hub.manager.register.2 }.Sound := by
  refine ⟨?_, sound.numbered, ?_⟩
  · intro clientId mem
    unfold WsManager.register at mem
    rw [List.map_append] at mem
    cases List.mem_append.1 mem with
    | inl old => exact (sound.clients clientId old).trans (Nat.lt_succ_self _)
    | inr new =>
      rw [List.mem_singleton.1 new]
      exact Nat.lt_succ_self _
  · intro endpoint mem
    unfold traffic
    rw [WsManager.queue_register]
    exact sound.ordered endpoint mem

theorem Sound.unregister (sound : hub.Sound) (clientId : Nat) :
    { hub with manager := hub.manager.unregister clientId }.Sound := by
  refine ⟨?_, sound.numbered, ?_⟩
  · intro other mem
    obtain ⟨client, at_client, rfl⟩ := List.mem_map.1 mem
    exact sound.clients _ (List.mem_map_of_mem (List.mem_of_mem_filter at_client))
  · intro endpoint mem
    exact (sound.ordered endpoint mem).sublist
      (List.Sublist.append_left (hub.manager.queue_unregister clientId endpoint.clientId) _)

theorem Sound.connect (sound : hub.Sound) : hub.connect.Sound := by
  have registered := sound.register
  refine ⟨registered.clients, registered.numbered, ?_⟩
  intro endpoint mem
  cases List.mem_append.1 mem with
  | inl old => exact registered.ordered endpoint old
  | inr new =>
    rw [List.mem_singleton.1 new]
    have fresh : hub.manager.clients.lookup hub.manager.nextClientId = none := by
      rw [List.lookup_eq_none_iff]
      intro client at_client
      exact bne_iff_ne.2 (sound.clients client.1 (List.mem_map_of_mem at_client)).ne'
    have empty : hub.manager.queue hub.manager.nextClientId = [] := by
      unfold WsManager.queue
      rw [fresh]
      rfl
    change Ordered _ (hub.manager.register.2.queue hub.manager.nextClientId)
    rw [WsManager.queue_register, empty]
    exact Ordered.nil

theorem Sound.updateEndpoint (sound : hub.Sound) {endpoint : Nat} {f : Endpoint → Endpoint}
    (same : ∀ e, hub.endpoints[endpoint]? = some e → Ordered hub.manager.nextEventSeq (hub.traffic (f e))) :
    (hub.updateEndpoint endpoint f).Sound :=
  ⟨sound.clients, sound.numbered, forall_mem_modify sound.ordered same⟩

theorem Sound.snapshot (sound : hub.Sound) {endpoint : Nat} {data : Option Members} {timestamp : Double}
    (past : Past Hub HubEvent) (inOrder : InOrder past hub (.snapshot endpoint data timestamp)) :
    (hub.snapshot endpoint data timestamp).Sound := by
  unfold Hub.snapshot
  cases found : hub.endpoints[endpoint]? with
  | none => exact sound
  | some e =>
    obtain ⟨clientId, stage, pending, sent⟩ := e
    cases pending with
    | some envelope => exact sound
    | none =>
      dsimp only
      split
      · exact sound
      next event data _ =>
        have empty := inOrder _ found
        rw [List.isEmpty_iff] at empty
        apply (sound.number event data timestamp).updateEndpoint
        intro e at_e
        cases found.symm.trans at_e
        have ordered := sound.ordered _ (List.mem_of_getElem? found)
        unfold traffic at ordered ⊢
        change Ordered _ (sent ++ [_] ++ hub.manager.queue clientId)
        rw [empty] at ordered ⊢
        rw [List.append_nil]
        rw [Option.toList_none, List.append_nil, List.append_nil] at ordered
        exact (ordered.mono (Nat.le_succ _)).snoc ordered.given (Nat.lt_succ_self _)
      · split
        · exact sound
        · exact sound.updateEndpoint fun e at_e => sound.ordered e (List.mem_of_getElem? at_e)

theorem Sound.send (sound : hub.Sound) (endpoint : Nat) : (hub.send endpoint).Sound := by
  apply sound.updateEndpoint
  intro e found
  have ordered := sound.ordered e (List.mem_of_getElem? found)
  unfold traffic at ordered ⊢
  rw [Option.toList_none, List.append_nil]
  exact ordered

theorem Sound.popNext (sound : hub.Sound) (endpoint : Nat) : (hub.popNext endpoint).Sound := by
  unfold Hub.popNext
  cases found : hub.endpoints[endpoint]? with
  | none => exact sound
  | some e =>
    obtain ⟨clientId, stage, pending, sent⟩ := e
    cases pending with
    | some envelope => cases stage <;> exact sound
    | none =>
      cases stage with
      | linkStatus | telUpdate | visUpdate => exact sound
      | draining =>
        dsimp only
        cases popped : hub.manager.popNext clientId with
        | none => exact sound
        | some next =>
          obtain ⟨envelope, rest⟩ := next
          obtain ⟨rfl, head, fewer⟩ := hub.manager.queue_popNext clientId popped
          have shrunk : { hub with manager := hub.manager.setQueue clientId List.tail }.Sound := by
            refine ⟨?_, sound.numbered, ?_⟩
            · rw [WsManager.setQueue_ids]
              exact sound.clients
            · intro endpoint mem
              exact (sound.ordered endpoint mem).sublist (List.Sublist.append_left (fewer endpoint.clientId) _)
          apply shrunk.updateEndpoint
          intro e at_e
          cases found.symm.trans at_e
          have ordered := sound.ordered _ (List.mem_of_getElem? found)
          unfold traffic at ordered ⊢
          change Ordered _ (sent ++ [envelope] ++ (hub.manager.setQueue clientId List.tail).queue clientId)
          rw [head, Option.toList_none, List.append_nil] at ordered
          rw [List.append_assoc]
          exact ordered

/-! ## Runs -/

theorem step_sound (past : Past Hub HubEvent) {event : HubEvent} (sound : hub.Sound) (inOrder : InOrder past hub event) :
    (hub.step event).Sound := by
  cases event with
  | broadcast event data timestamp => exact sound.broadcast event data timestamp
  | list broadcast => exact sound.list broadcast
  | append broadcast => exact sound.append past inOrder
  | register => exact sound.register
  | unregister clientId => exact sound.unregister clientId
  | connect => exact sound.connect
  | snapshot endpoint data timestamp => exact sound.snapshot past inOrder
  | send endpoint => exact sound.send endpoint
  | popNext endpoint => exact sound.popNext endpoint

/-- Every client has got envelopes with increasing numbers. -/
def Increasing (_past : Past Hub HubEvent) (hub : Hub) (event : HubEvent) : Prop :=
  ∀ endpoint ∈ (hub.step event).endpoints, endpoint.sent.Pairwise fun first second => first.seq < second.seq

/-- Along every run in which the queues are filled in order, what a client gets has increasing numbers. -/
theorem envelopes_increase (queueMax : Nat) (positive : 0 < queueMax) (events : List HubEvent)
    (inOrder : Always step InOrder [] (create queueMax positive) events) :
    Always step Increasing [] (create queueMax positive) events := by
  apply Always.of_invariant (fun _ hub => hub.Sound) _ _ _ _ _ _ inOrder
  · intro past hub event sound order endpoint mem
    have ordered := (step_sound past sound order).ordered endpoint mem
    unfold traffic at ordered
    rw [List.append_assoc] at ordered
    exact (ordered.sublist (List.sublist_append_left _ _)).increasing
  · intro past hub event sound order
    exact step_sound past sound order
  · refine ⟨?_, ?_, ?_⟩
    all_goals
      intro _ none
      exact absurd none List.not_mem_nil

/-- A client gets its snapshots before the first broadcast. -/
theorem snapshot_before_broadcast :
    Always step Increasing [] (create 10 (by decide))
      [.connect, .snapshot 0 (some []) 0, .send 0, .snapshot 0 none 0, .snapshot 0 none 0, .broadcast .linkStatus [] 1,
        .list 0, .append 0, .popNext 0, .send 0] :=
  envelopes_increase 10 (by decide) _ (by decide)

/-- A broadcast is queued for a client that has registered and not yet built its snapshot. -/
def earlyBroadcast : List HubEvent :=
  [.connect, .broadcast .linkStatus [] 1, .list 0, .append 0, .snapshot 0 (some []) 2, .send 0, .snapshot 0 none 2,
    .snapshot 0 none 2, .popNext 0, .send 0]

/-- The client gets the snapshot with number 2 and then the broadcast with number 1. -/
theorem early_broadcast_late : ¬ Always step Increasing [] (create 10 (by decide)) earlyBroadcast := by
  intro ⟨_, _, _, _, _, _, _, _, _, increasing, _⟩
  have order := increasing _ List.mem_cons_self
  revert order
  decide

end Hub
end AotDrone.Backend
