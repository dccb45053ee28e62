import AotDrone.Json.ReadDumps
import AotDrone.Vision.LogBucket

/-! The sender of the VIS datagrams (`udp_vis_sender.py`). `sendto` takes a datagram or raises an `OSError`. -/

namespace AotDrone.Vision
open AotDrone.Lib AotDrone.Lib.Double AotDrone.Json

/-- The keys of the log. -/
inductive SendKey where
  | oversize
  | send
  deriving DecidableEq

structure VisUdpSenderConfig where
  maxPayloadBytes : ℕ := 512
  logInterval : Double := 60

/-- Whether `sendto` takes the datagram, and the clock of the log. -/
structure SendCall where
  taken : Bool
  now : Double

structure VisUdpSender where
  sentOk : ℕ := 0
  sentFail : ℕ := 0
  droppedOversize : ℕ := 0
  log : BucketLog SendKey := {}
  /-- What `sendto` has taken, oldest first. -/
  datagrams : List Bytes := []

section
variable [Fpu] [FloatRepr] (config : VisUdpSenderConfig)

/-- The bytes of a payload. -/
def encodeCompactJson (payload : Value) : Bytes := asciiBytes (dumps payload)

namespace VisUdpSender

def send (sender : VisUdpSender) (payload : Value) (call : SendCall) : VisUdpSender :=
  let data := encodeCompactJson payload
  if config.maxPayloadBytes < data.length then
    { sender with
      droppedOversize := sender.droppedOversize + 1
      log := sender.log.logRateLimited config.logInterval .oversize call.now }
  else if call.taken then { sender with sentOk := sender.sentOk + 1, datagrams := sender.datagrams ++ [data] }
  else
    { sender with
      sentFail := sender.sentFail + 1
      log := sender.log.logRateLimited config.logInterval .send call.now }

/-- One call on a payload after the other. -/
def step (sender : VisUdpSender) (sending : Value × SendCall) : VisUdpSender := sender.send config sending.1 sending.2

/-- A call leaves what was taken before it as it is. -/
theorem step_datagrams (sender : VisUdpSender) (sending : Value × SendCall) :
    sender.datagrams <+: (sender.step config sending).datagrams := by
  unfold step send
  dsimp only
  split_ifs
  · exact List.prefix_rfl
  · exact List.prefix_append _ _
  · exact List.prefix_rfl

/-! ## Accounts -/

/-- The key that a call logs under. -/
def keyOf (sending : Value × SendCall) : Option SendKey :=
  if config.maxPayloadBytes < (encodeCompactJson sending.1).length then some .oversize
  else if sending.2.taken then none
  else some .send

/-- When the calls so far have logged under the key. -/
def loggedAt (key : SendKey) (sendings : List (Value × SendCall)) : List Double :=
  sendings.filterMap fun sending => if keyOf config sending = some key then some sending.2.now else none

/-- The calls whose datagram is taken. -/
def taken (sendings : List (Value × SendCall)) : List (Value × SendCall) :=
  sendings.filter fun sending => keyOf config sending = none

/-- The counters, the log and the datagrams tell of the same calls. -/
structure Accounts (sendings : List (Value × SendCall)) (sender : VisUdpSender) : Prop where
  keeps : ∀ key, sender.log.Keeps config.logInterval key (loggedAt config key sendings)
  sentOk : sender.sentOk = (taken config sendings).length
  sentFail : sender.sentFail = (loggedAt config .send sendings).length
  droppedOversize : sender.droppedOversize = (loggedAt config .oversize sendings).length
  datagrams : sender.datagrams = (taken config sendings).map fun sending => encodeCompactJson sending.1

variable {config} {sendings : List (Value × SendCall)} {sender : VisUdpSender}

theorem loggedAt_append (key : SendKey) (sending : Value × SendCall) :
    loggedAt config key (sendings ++ [sending]) =
      loggedAt config key sendings ++ if keyOf config sending = some key then [sending.2.now] else [] := by
  unfold loggedAt
  rw [List.filterMap_append]
  congr 1
  by_cases same : keyOf config sending = some key <;> simp [same]

theorem taken_append (sending : Value × SendCall) :
    taken config (sendings ++ [sending]) =
      taken config sendings ++ if keyOf config sending = none then [sending] else [] := by
  unfold taken
  rw [List.filter_append]
  congr 1
  by_cases same : keyOf config sending = none <;> simp [same]

/-- A call that logs keeps the log's account of every key. -/
theorem keeps_logged (keeps : ∀ key, sender.log.Keeps config.logInterval key (loggedAt config key sendings))
    {sending : Value × SendCall} {own : SendKey} (logs : keyOf config sending = some own) (key : SendKey) :
    (sender.log.logRateLimited config.logInterval own sending.2.now).Keeps config.logInterval key
      (loggedAt config key (sendings ++ [sending])) := by
  rw [loggedAt_append, logs]
  by_cases same : own = key
  · rw [if_pos (congrArg some same), ← same]
    exact (keeps own).logged sending.2.now
  · rw [if_neg (fun equal => same (Option.some.inj equal)), List.append_nil]
    exact (keeps key).other (Ne.symm same) sending.2.now

theorem Accounts.step (accounts : Accounts config sendings sender) (sending : Value × SendCall) :
    Accounts config (sendings ++ [sending]) (sender.step config sending) := by
  obtain ⟨keeps, sentOk, sentFail, droppedOversize, datagrams⟩ := accounts
  have failures := @loggedAt_append _ _ config sendings .send sending
  have drops := @loggedAt_append _ _ config sendings .oversize sending
  have sent := @taken_append _ _ config sendings sending
  unfold VisUdpSender.step send
  dsimp only
  by_cases large : config.maxPayloadBytes < (encodeCompactJson sending.1).length
  · have logs : keyOf config sending = some .oversize := if_pos large
    rw [if_pos large]
    rw [logs] at failures drops sent
    refine ⟨keeps_logged keeps logs, ?_, ?_, ?_, ?_⟩
    · simpa [sent] using sentOk
    · simpa [failures] using sentFail
    · simpa [drops] using droppedOversize
    · simpa [sent] using datagrams
  · rw [if_neg large]
    cases took : sending.2.taken with
    | true =>
      have logs : keyOf config sending = none := by
        unfold keyOf
        rw [if_neg large, took, if_pos rfl]
      rw [if_pos rfl]
      rw [logs] at failures drops sent
      refine ⟨?_, ?_, ?_, ?_, ?_⟩
      · intro key
        rw [loggedAt_append, logs, if_neg nofun, List.append_nil]
        exact keeps key
      · simpa [sent] using sentOk
      · simpa [failures] using sentFail
      · simpa [drops] using droppedOversize
      · simpa [sent] using datagrams
    | false =>
      have logs : keyOf config sending = some .send := by
        unfold keyOf
        rw [if_neg large, took, if_neg Bool.false_ne_true]
      rw [if_neg Bool.false_ne_true]
      rw [logs] at failures drops sent
      refine ⟨keeps_logged keeps logs, ?_, ?_, ?_, ?_⟩
      · simpa [sent] using sentOk
      · simpa [failures] using sentFail
      · simpa [drops] using droppedOversize
      · simpa [sent] using datagrams

theorem Accounts.start : Accounts config [] {} := ⟨fun _ => .start, rfl, rfl, rfl, rfl⟩

theorem Accounts.run (accounts : Accounts config sendings sender) (later : List (Value × SendCall)) :
    Accounts config (sendings ++ later) (later.foldl (VisUdpSender.step config) sender) := by
  induction later generalizing sendings sender with
  | nil => simpa using accounts
  | cons sending rest ih =>
    have next := ih (accounts.step sending)
    rwa [List.append_assoc] at next

/-- Every call is counted once. -/
theorem length_sendings (sendings : List (Value × SendCall)) :
    (taken config sendings).length + (loggedAt config .send sendings).length +
      (loggedAt config .oversize sendings).length = sendings.length := by
  induction sendings using List.reverseRecOn with
  | nil => rfl
  | append_singleton earlier sending ih =>
    rw [taken_append, loggedAt_append, loggedAt_append, List.length_append, List.length_append, List.length_append,
      List.length_append, ← ih]
    cases logs : keyOf config sending with
    | none =>
      simp
      omega
    | some key => cases key <;> simp <;> omega

end VisUdpSender
end
end AotDrone.Vision
