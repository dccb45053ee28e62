import AotDrone.Lib.Run
import AotDrone.Lib.Window

/-! The queues of `ws_manager.py` at the granularity of its locked sections. -/

namespace AotDrone.Backend
open AotDrone.Lib AotDrone.Lib.Run AotDrone.Lib.Window

/-- What the locks guard, and the calls that stand between two locked sections. The queue of a client outlives its
place among the clients, for the calls that still hold it. -/
structure WsQueues (α : Type) where
  queueMax : Nat
  /-- What the constructor checks. -/
  positive : 0 < queueMax
  clients : List Nat := []
  nextClientId : Nat := 1
  queues : Nat → List α := fun _ => []
  /-- Each call of `broadcast_envelope`, with the clients it has still to serve. -/
  broadcasts : List (α × List Nat) := []
  /-- Each call of `pop_next` that has found its client, until it returns. -/
  pops : List (Option Nat) := []

/-- A locked section, of a call in any thread. -/
inductive Section (α : Type) where
  | register
  | unregister (clientId : Nat)
  /-- A call of `broadcast_envelope` copies the clients. -/
  | list (envelope : α)
  | append (broadcast : Nat)
  /-- A call of `pop_next` looks for its client. -/
  | lookUp (clientId : Nat)
  | pop (call : Nat)

namespace WsQueues

variable {α : Type}

def create (queueMax : Nat) (positive : 0 < queueMax) : WsQueues α := { queueMax, positive }

section sections
variable (manager : WsQueues α)

def register : WsQueues α :=
  { manager with
    nextClientId := manager.nextClientId + 1
    clients := manager.clients ++ [manager.nextClientId]
    queues := Function.update manager.queues manager.nextClientId [] }

def unregister (clientId : Nat) : WsQueues α :=
  { manager with clients := manager.clients.filter fun client => client ≠ clientId }

def list (envelope : α) : WsQueues α :=
  { manager with broadcasts := manager.broadcasts ++ [(envelope, manager.clients)] }

def setQueue (clientId : Nat) (queue : List α) : WsQueues α :=
  { manager with queues := Function.update manager.queues clientId queue }

def append (broadcast : Nat) : WsQueues α :=
  match manager.broadcasts[broadcast]? with
  | some (envelope, clientId :: rest) =>
    { manager with broadcasts := manager.broadcasts.set broadcast (envelope, rest) }.setQueue clientId
      (Window.append manager.queueMax (manager.queues clientId) envelope)
  | _ => manager

/-- `self._clients.get`, without which `pop_next` returns nothing. -/
def find (clientId : Nat) : Option Nat := if clientId ∈ manager.clients then some clientId else none

def lookUp (clientId : Nat) : WsQueues α :=
  match manager.find clientId with
  | none => manager
  | some client => { manager with pops := manager.pops ++ [some client] }

def pop (call : Nat) : WsQueues α :=
  match manager.pops[call]? with
  | some (some clientId) =>
    { manager with pops := manager.pops.set call none }.setQueue clientId (manager.queues clientId).tail
  | _ => manager

def step : Section α → WsQueues α
  | .register => manager.register
  | .unregister clientId => manager.unregister clientId
  | .list envelope => manager.list envelope
  | .append broadcast => manager.append broadcast
  | .lookUp clientId => manager.lookUp clientId
  | .pop call => manager.pop call

/-- What a section does to the queue of a client: an envelope is appended, or `pop_next` returns one. -/
def happens : Section α → Option (Nat × Op α)
  | .append broadcast =>
    match manager.broadcasts[broadcast]? with
    | some (envelope, clientId :: _) => some (clientId, .append envelope)
    | _ => none
  | .pop call =>
    match manager.pops[call]? with
    | some (some clientId) => (manager.queues clientId).head?.map fun envelope => (clientId, .pop envelope)
    | _ => none
  | _ => none

def happensTo (clientId : Nat) (entry : Section α) : Option (Op α) :=
  (manager.happens entry).bind fun happened => if happened.1 = clientId then some happened.2 else none

end sections

/-- All that has happened to the queue of a client. -/
def history (past : Past (WsQueues α) (Section α)) (clientId : Nat) : List (Op α) :=
  past.filterMap fun earlier => earlier.1.happensTo clientId earlier.2

/-- `unregister` has returned for a client that was registered. -/
def Unregistered (past : Past (WsQueues α) (Section α)) (clientId : Nat) : Prop :=
  ∃ earlier ∈ past, earlier.2 = .unregister clientId ∧ clientId < earlier.1.nextClientId

/-- What holds of a client at each locked section. -/
structure QueueKept (past : Past (WsQueues α) (Section α)) (manager : WsQueues α) (entry : Section α)
    (clientId : Nat) : Prop where
  serves : Serves manager.queueMax (logOf manager.queueMax (history past clientId)) (manager.queues clientId)
  /-- A call of `pop_next` that starts after `unregister` finds no client. -/
  gone : Unregistered past clientId → manager.find clientId = none
  /-- What is popped after `unregister` is popped by a call that had found the client before. -/
  late : ∀ earlier ∈ past, earlier.2 = .unregister clientId → clientId < earlier.1.nextClientId →
    ∀ envelope, manager.happensTo clientId entry = some (.pop envelope) →
      ∃ call : Nat, entry = .pop call ∧ earlier.1.pops[call]? = some (some clientId)

/-- Every number that a call holds has been given to a client. -/
structure Numbered (manager : WsQueues α) : Prop where
  clients : ∀ clientId ∈ manager.clients, clientId < manager.nextClientId
  broadcasts : ∀ broadcast ∈ manager.broadcasts, ∀ clientId ∈ broadcast.2, clientId < manager.nextClientId
  pops : ∀ clientId, some clientId ∈ manager.pops → clientId < manager.nextClientId

structure QueueInv (queueMax : Nat) (past : Past (WsQueues α) (Section α)) (manager : WsQueues α) : Prop extends
    Numbered manager where
  max : manager.queueMax = queueMax
  serves : ∀ clientId, Serves queueMax (logOf queueMax (history past clientId)) (manager.queues clientId)
  fresh : ∀ clientId, manager.nextClientId ≤ clientId → history past clientId = []
  unregistered : ∀ clientId, Unregistered past clientId →
    clientId < manager.nextClientId ∧ clientId ∉ manager.clients
  late : ∀ clientId, ∀ earlier ∈ past, earlier.2 = .unregister clientId → clientId < earlier.1.nextClientId →
    ∀ call : Nat, manager.pops[call]? = some (some clientId) → earlier.1.pops[call]? = some (some clientId)

variable {queueMax : Nat} {past : Past (WsQueues α) (Section α)} {manager : WsQueues α} {entry : Section α}
  {clientId : Nat}

theorem history_append (past : Past (WsQueues α) (Section α)) (manager : WsQueues α) (entry : Section α)
    (clientId : Nat) :
    history (past ++ [(manager, entry)]) clientId =
      history past clientId ++ (manager.happensTo clientId entry).toList := by
  unfold history
  rw [List.filterMap_append, List.filterMap_cons]
  cases manager.happensTo clientId entry with
  | none => rfl
  | some op => rfl

theorem unregistered_append : Unregistered (past ++ [(manager, entry)]) clientId →
    Unregistered past clientId ∨ entry = .unregister clientId ∧ clientId < manager.nextClientId := by
  rintro ⟨earlier, member, left⟩
  rcases List.mem_append.1 member with before | now
  · exact .inl ⟨earlier, before, left⟩
  · cases List.mem_singleton.1 now
    exact .inr left

theorem find_eq_none : manager.find clientId = none ↔ clientId ∉ manager.clients := by
  unfold find
  split_ifs with found <;> simp [found]

/-! ## One section -/

/-- The ways through a section: what happens to a queue, and what the section leaves. -/
inductive Steps (manager : WsQueues α) : Section α → Option (Nat × Op α) → WsQueues α → Prop
  | register : Steps manager .register none manager.register
  | unregister (clientId : Nat) : Steps manager (.unregister clientId) none (manager.unregister clientId)
  | list (envelope : α) : Steps manager (.list envelope) none (manager.list envelope)
  | append (call clientId : Nat) (envelope : α) (rest : List Nat)
      (listed : manager.broadcasts[call]? = some (envelope, clientId :: rest)) :
      Steps manager (.append call) (some (clientId, .append envelope))
        ({ manager with broadcasts := manager.broadcasts.set call (envelope, rest) }.setQueue clientId
          (Window.append manager.queueMax (manager.queues clientId) envelope))
  | lookUp (clientId : Nat) (found : clientId ∈ manager.clients) :
      Steps manager (.lookUp clientId) none { manager with pops := manager.pops ++ [some clientId] }
  | pop (call clientId : Nat) (envelope : α) (rest : List α) (held : manager.pops[call]? = some (some clientId))
      (front : manager.queues clientId = envelope :: rest) :
      Steps manager (.pop call) (some (clientId, .pop envelope))
        ({ manager with pops := manager.pops.set call none }.setQueue clientId rest)
  | empty (call clientId : Nat) (held : manager.pops[call]? = some (some clientId))
      (front : manager.queues clientId = []) :
      Steps manager (.pop call) none ({ manager with pops := manager.pops.set call none }.setQueue clientId [])
  | idle (entry : Section α) (other : ∀ clientId, entry ≠ .unregister clientId) : Steps manager entry none manager

theorem step_steps (manager : WsQueues α) (entry : Section α) :
    Steps manager entry (manager.happens entry) (manager.step entry) := by
  cases entry with
  | register => exact .register
  | unregister clientId => exact .unregister clientId
  | list envelope => exact .list envelope
  | append call =>
    change Steps manager _ _ (manager.append call)
    unfold happens append
    dsimp only
    split
    next envelope clientId rest listed => exact .append call clientId envelope rest listed
    next => exact .idle _ nofun
  | lookUp clientId =>
    change Steps manager _ _ (manager.lookUp clientId)
    unfold happens lookUp find
    split_ifs with found
    · exact .lookUp clientId found
    · exact .idle _ nofun
  | pop call =>
    change Steps manager _ _ (manager.pop call)
    unfold happens pop
    dsimp only
    split
    next clientId held =>
      cases front : manager.queues clientId with
      | nil => exact .empty call clientId held front
      | cons envelope rest => exact .pop call clientId envelope rest held front
    next => exact .idle _ nofun

theorem step_queueMax (manager : WsQueues α) (entry : Section α) :
    (manager.step entry).queueMax = manager.queueMax := by
  have steps := step_steps manager entry
  generalize manager.happens entry = happened at steps
  generalize manager.step entry = after at steps ⊢
  cases steps <;> rfl

/-- What a section does to the queue of a client. -/
inductive QueueMoves (manager : WsQueues α) (clientId : Nat) : Option (Op α) → List α → Prop
  | unmoved : QueueMoves manager clientId none (manager.queues clientId)
  | created (new : manager.nextClientId = clientId) : QueueMoves manager clientId none []
  | appended (envelope : α) : QueueMoves manager clientId (some (.append envelope))
      (Window.append manager.queueMax (manager.queues clientId) envelope)
  | popped (envelope : α) (rest : List α) (front : manager.queues clientId = envelope :: rest) :
      QueueMoves manager clientId (some (.pop envelope)) rest

theorem setQueue_queues (manager : WsQueues α) (other : Nat) (queue : List α) (clientId : Nat) :
    (manager.setQueue other queue).queues clientId = if other = clientId then queue else manager.queues clientId := by
  unfold setQueue
  dsimp only
  rw [Function.update_apply]
  exact if_congr eq_comm rfl rfl

theorem step_moves (manager : WsQueues α) (entry : Section α) (clientId : Nat) :
    manager.QueueMoves clientId (manager.happensTo clientId entry) ((manager.step entry).queues clientId) := by
  have steps := step_steps manager entry
  unfold happensTo
  generalize manager.happens entry = happened at steps ⊢
  generalize manager.step entry = after at steps ⊢
  cases steps with
  | unregister other => exact .unmoved
  | list envelope => exact .unmoved
  | lookUp other found => exact .unmoved
  | idle entry other => exact .unmoved
  | register =>
    change manager.QueueMoves clientId none (Function.update manager.queues manager.nextClientId [] clientId)
    by_cases new : manager.nextClientId = clientId
    · rw [new, Function.update_self]
      exact .created new
    · rw [Function.update_of_ne (Ne.symm new)]
      exact .unmoved
  | append call other envelope rest listed =>
    rw [setQueue_queues, Option.bind_some]
    split_ifs with same
    · subst same
      exact .appended envelope
    · exact .unmoved
  | pop call other envelope rest held front =>
    rw [setQueue_queues, Option.bind_some]
    split_ifs with same
    · subst same
      exact .popped envelope rest front
    · exact .unmoved
  | empty call other held front =>
    rw [setQueue_queues]
    split_ifs with same
    · subst same
      rw [← front]
      exact .unmoved
    · exact .unmoved

/-- The queue of every client goes with its log. -/
theorem Serves.step {history : List (Op α)} (positive : 0 < manager.queueMax)
    (serves : Serves manager.queueMax (logOf manager.queueMax history) (manager.queues clientId))
    (fresh : manager.nextClientId = clientId → history = []) (entry : Section α) :
    Serves manager.queueMax
      (logOf manager.queueMax (history ++ (manager.happensTo clientId entry).toList))
      ((manager.step entry).queues clientId) := by
  have moves := step_moves manager entry clientId
  generalize manager.happensTo clientId entry = op at moves ⊢
  generalize (manager.step entry).queues clientId = queue at moves ⊢
  cases moves with
  | unmoved => simpa using serves
  | created new =>
    rw [fresh new]
    exact Serves.start
  | appended envelope =>
    rw [Option.toList_some, logOf_append]
    exact serves.append positive
  | popped envelope rest front =>
    rw [front] at serves
    rw [Option.toList_some, logOf_append]
    exact serves.pop

/-- A call that returns lets go of its client. -/
theorem held_before {pops : List (Option Nat)} {call : Nat} (held : some clientId ∈ pops.set call none) :
    some clientId ∈ pops := by
  rcases List.mem_or_eq_of_mem_set held with earlier | returned
  · exact earlier
  · cases returned

theorem Numbered.step (numbered : Numbered manager) (entry : Section α) : Numbered (manager.step entry) := by
  have steps := step_steps manager entry
  generalize manager.happens entry = happened at steps
  generalize manager.step entry = after at steps ⊢
  cases steps with
  | idle entry other => exact numbered
  | register =>
    constructor
    · change ∀ clientId ∈ manager.clients ++ [manager.nextClientId], clientId < manager.nextClientId + 1
      intro clientId member
      rcases List.mem_append.1 member with earlier | new
      · exact Nat.lt_succ_of_lt (numbered.clients clientId earlier)
      · rw [List.mem_singleton.1 new]
        exact Nat.lt_succ_self _
    · exact fun broadcast member clientId target =>
        Nat.lt_succ_of_lt (numbered.broadcasts broadcast member clientId target)
    · exact fun clientId member => Nat.lt_succ_of_lt (numbered.pops clientId member)
  | unregister other =>
    exact ⟨fun clientId member => numbered.clients clientId (List.mem_of_mem_filter member), numbered.broadcasts,
      numbered.pops⟩
  | list envelope =>
    refine ⟨numbered.clients, ?_, numbered.pops⟩
    change ∀ broadcast ∈ manager.broadcasts ++ [(envelope, manager.clients)], _
    intro broadcast member
    rcases List.mem_append.1 member with earlier | new
    · exact numbered.broadcasts broadcast earlier
    · rw [List.mem_singleton.1 new]
      exact numbered.clients
  | append call other envelope rest listed =>
    refine ⟨numbered.clients, ?_, numbered.pops⟩
    change ∀ broadcast ∈ manager.broadcasts.set call (envelope, rest), _
    intro broadcast member
    rcases List.mem_or_eq_of_mem_set member with earlier | served
    · exact numbered.broadcasts broadcast earlier
    · rw [served]
      exact fun clientId target =>
        numbered.broadcasts _ (List.mem_of_getElem? listed) clientId (List.mem_cons_of_mem _ target)
  | lookUp other found =>
    refine ⟨numbered.clients, numbered.broadcasts, ?_⟩
    change ∀ clientId, some clientId ∈ manager.pops ++ [some other] → clientId < manager.nextClientId
    intro clientId member
    rcases List.mem_append.1 member with earlier | new
    · exact numbered.pops clientId earlier
    · rw [Option.some.inj (List.mem_singleton.1 new)]
      exact numbered.clients other found
  | pop call other envelope rest held front =>
    exact ⟨numbered.clients, numbered.broadcasts, fun clientId member => numbered.pops clientId (held_before member)⟩
  | empty call other held front =>
    exact ⟨numbered.clients, numbered.broadcasts, fun clientId member => numbered.pops clientId (held_before member)⟩

/-- Nothing happens to a client before it has its number. -/
theorem Numbered.happensTo_fresh (numbered : Numbered manager) (fresh : manager.nextClientId ≤ clientId)
    (entry : Section α) : manager.happensTo clientId entry = none := by
  have steps := step_steps manager entry
  unfold happensTo
  generalize manager.happens entry = happened at steps ⊢
  generalize manager.step entry = after at steps
  cases steps with
  | append call other envelope rest listed =>
    have known := numbered.broadcasts _ (List.mem_of_getElem? listed) other List.mem_cons_self
    exact if_neg (known.trans_le fresh).ne
  | pop call other envelope rest held front =>
    have known := numbered.pops other (List.mem_of_getElem? held)
    exact if_neg (known.trans_le fresh).ne
  | _ => rfl

/-- No section brings a client back. -/
theorem step_clients (manager : WsQueues α) (entry : Section α) :
    manager.nextClientId ≤ (manager.step entry).nextClientId ∧
      ∀ clientId < manager.nextClientId, clientId ∈ (manager.step entry).clients →
        clientId ∈ manager.clients ∧ entry ≠ .unregister clientId := by
  have steps := step_steps manager entry
  generalize manager.happens entry = happened at steps
  generalize manager.step entry = after at steps ⊢
  cases steps with
  | register =>
    refine ⟨Nat.le_succ _, ?_⟩
    change ∀ clientId < manager.nextClientId, clientId ∈ manager.clients ++ [manager.nextClientId] → _
    intro clientId known member
    rcases List.mem_append.1 member with earlier | new
    · exact ⟨earlier, nofun⟩
    · exact absurd (List.mem_singleton.1 new) known.ne
  | unregister other =>
    refine ⟨le_rfl, ?_⟩
    intro clientId _ member
    obtain ⟨earlier, stays⟩ := List.mem_filter.1 member
    exact ⟨earlier, fun same => of_decide_eq_true stays (Section.unregister.inj same).symm⟩
  | idle entry other => exact ⟨le_rfl, fun clientId _ member => ⟨member, other clientId⟩⟩
  | _ => exact ⟨le_rfl, fun clientId _ member => ⟨member, nofun⟩⟩

/-- A call finds only clients that are there. -/
theorem step_pops (manager : WsQueues α) (entry : Section α) {call : Nat}
    (held : (manager.step entry).pops[call]? = some (some clientId)) :
    manager.pops[call]? = some (some clientId) ∨ clientId ∈ manager.clients := by
  have steps := step_steps manager entry
  generalize manager.happens entry = happened at steps
  generalize manager.step entry = after at steps held
  have returned {other : Nat} (held : (manager.pops.set other none)[call]? = some (some clientId)) :
      manager.pops[call]? = some (some clientId) := by
    rw [List.getElem?_set] at held
    split_ifs at held
    · cases held
    · exact held
  cases steps with
  | lookUp other found =>
    change (manager.pops ++ [some other])[call]? = _ at held
    rw [List.getElem?_append] at held
    split_ifs at held with earlier
    · exact .inl held
    · right
      have new := List.mem_singleton.1 (List.mem_of_getElem? held)
      rwa [Option.some.inj new]
  | pop other _ _ rest _ front => exact .inl (returned held)
  | empty other _ _ front => exact .inl (returned held)
  | _ => exact .inl held

/-- Only a call that has found the client pops its queue. -/
theorem held_of_popped {envelope : α} (popped : manager.happensTo clientId entry = some (.pop envelope)) :
    ∃ call : Nat, entry = .pop call ∧ manager.pops[call]? = some (some clientId) := by
  unfold happensTo at popped
  obtain ⟨⟨other, op⟩, happened, same⟩ := Option.bind_eq_some_iff.1 popped
  obtain ⟨rfl, rfl⟩ : other = clientId ∧ op = .pop envelope := by simpa using same
  have steps := step_steps manager entry
  generalize manager.happens entry = happens at steps happened
  generalize manager.step entry = after at steps
  subst happened
  cases steps with
  | pop call _ _ rest held front => exact ⟨call, rfl, held⟩

/-! ## Runs -/

theorem QueueInv.start (positive : 0 < queueMax) : QueueInv queueMax [] (create queueMax positive : WsQueues α) where
  clients := List.forall_mem_nil _
  broadcasts := List.forall_mem_nil _
  pops := nofun
  max := rfl
  serves _ := Serves.start
  fresh _ _ := rfl
  unregistered := nofun
  late := nofun

theorem QueueInv.step (inv : QueueInv queueMax past manager) (entry : Section α) :
    QueueInv queueMax (past ++ [(manager, entry)]) (manager.step entry) := by
  obtain ⟨grows, stays⟩ := step_clients manager entry
  refine { inv.toNumbered.step entry with max := ?_, serves := ?_, fresh := ?_, unregistered := ?_, late := ?_ }
  · exact (step_queueMax manager entry).trans inv.max
  · intro clientId
    have serves := inv.serves clientId
    rw [history_append]
    rw [← inv.max] at serves ⊢
    exact Serves.step manager.positive serves (fun new => inv.fresh clientId new.le) entry
  · intro clientId fresh
    have before := grows.trans fresh
    rw [history_append, inv.fresh clientId before, inv.toNumbered.happensTo_fresh before]
    rfl
  · intro clientId left
    rcases unregistered_append left with earlier | ⟨now, known⟩
    · obtain ⟨known, absent⟩ := inv.unregistered clientId earlier
      exact ⟨known.trans_le grows, fun member => absent (stays clientId known member).1⟩
    · exact ⟨known.trans_le grows, fun member => (stays clientId known member).2 now⟩
  · intro clientId earlier member left known call held
    rcases List.mem_append.1 member with before | now
    · rcases step_pops manager entry held with found | present
      · exact inv.late clientId earlier before left known call found
      · exact absurd present (inv.unregistered clientId ⟨earlier, before, left, known⟩).2
    · cases List.mem_singleton.1 now
      dsimp only at left
      subst left
      exact held

/-- Along every interleaving of the locked sections each queue keeps to its bound and drops only its oldest
envelopes, and after a client has left only the calls that had found it before pop from its queue. -/
theorem queues_kept (queueMax : Nat) (positive : 0 < queueMax) (entries : List (Section α)) :
    Always step (fun past manager entry => ∀ clientId, QueueKept past manager entry clientId) []
      (create queueMax positive) entries := by
  apply Always.of_forall (QueueInv queueMax)
  · intro past manager entry inv clientId
    refine ⟨?_, ?_, ?_⟩
    · rw [inv.max]
      exact inv.serves clientId
    · exact fun left => find_eq_none.2 (inv.unregistered clientId left).2
    · intro earlier member left known envelope popped
      obtain ⟨call, same, held⟩ := held_of_popped popped
      exact ⟨call, same, inv.late clientId earlier member left known call held⟩
  · exact fun past manager entry inv => inv.step entry
  · exact QueueInv.start positive

/-- Two envelopes for a queue of one, and a call of `pop_next` on each side of `unregister`. -/
theorem single_kept : 0 < 1 ∧
    Always step (fun past manager entry => ∀ clientId, QueueKept past manager entry clientId) []
      (create 1 Nat.one_pos)
      [.register, .list 'a', .append 0, .list 'b', .append 1, .lookUp 1, .unregister 1, .lookUp 1, .pop 0] :=
  ⟨Nat.one_pos, queues_kept 1 Nat.one_pos _⟩

/-- A call of `pop_next` finds its client, `unregister` returns, and the call pops an envelope. -/
theorem popped_after_unregister :
    ¬ Always step (fun past manager entry => ∀ clientId, Unregistered past clientId →
        ∀ envelope, manager.happensTo clientId entry ≠ some (.pop envelope)) [] (create 1 Nat.one_pos)
      [.register, .list 'a', .append 0, .lookUp 1, .unregister 1, .pop 0] := by
  rintro ⟨-, -, -, -, -, popped, -⟩
  exact popped 1 ⟨_, List.mem_append_right _ (List.mem_singleton_self _), rfl, by decide⟩ 'a' rfl

end WsQueues
end AotDrone.Backend
