import AotDrone.Backend.CmdBridge
import AotDrone.Link.CmdRead
import AotDrone.Link.Restart

/-! What becomes of a disarm on its way from `/api/intent` to the flight controller. It passes through two
places that hold one value each: the latest intent of the backend and the last frame of the command server. -/

namespace AotDrone.Link
open AotDrone.Lib AotDrone.Lib.Double AotDrone.Lib.Decimal AotDrone.Lib.Run AotDrone.Json AotDrone.Backend AotDrone.Fc

/-- A payload on the connection. `number` is how many intents had been accepted when its tick read the latest
one; nothing reads it, the statements do. -/
structure Parcel where
  number : Nat
  json : Text

/-- The backend, the connection and the flight controller. The connection is a queue that is never cut. -/
structure Chain where
  bridge : CmdBridge
  /-- The intents accepted so far, oldest first. -/
  accepted : List Intent := []
  tickNumber : Nat := 0
  wire : List Parcel := []
  server : CommandServer := {}
  mailNumber : Nat := 0
  /-- No turn has applied the frame in the mailbox. -/
  unapplied : Bool := false
  loop : MainLoop

/-- A request, a datagram, one of the reads of a tick, a publication or a turn of the main loop. -/
inductive ChainEvent where
  | intent (request : IntentRequest) (updateMonotonic : Double)
  | vision (msg : VisMessage) (rxMonotonic : Double)
  | connect (now : Double) (connects : Bool)
  | readIntent (now : Double)
  | readVis
  | send
  | deliver (recvTime : Double)
  | turn (r : Readings)

/-- The arm field of a frame that has one. -/
def armField (frame : CommandFrame) : Option Bool := if frame.hasArm then some frame.arm else none

namespace Chain
variable [Fpu]

/-- The frame that a turn applies. -/
def applied (chain : Chain) : Option CommandFrame := chain.loop.accepted chain.server.latestCommand

variable [FloatRepr] [Libc] (config : BridgeConfig)

def step (chain : Chain) : ChainEvent → Chain
  | .intent request updateMonotonic =>
    match postIntent request with
    | .error _ => chain
    | .ok intent =>
      { chain with
        bridge := chain.bridge.step config (.updateIntent intent updateMonotonic)
        accepted := chain.accepted ++ [intent] }
  | .vision msg rxMonotonic => { chain with bridge := chain.bridge.step config (.recordVisOk msg rxMonotonic) }
  | .connect now connects => { chain with bridge := chain.bridge.step config (.attemptConnect now connects) }
  | .readIntent now =>
    match chain.bridge.stage, chain.bridge.socketOpen with
    | .idle, true =>
      { chain with
        bridge := chain.bridge.step config (.getLatestIntent now)
        tickNumber := chain.accepted.length }
    | _, _ => chain
  | .readVis => { chain with bridge := chain.bridge.step config .getLatestVis }
  | .send =>
    { chain with
      bridge := chain.bridge.step config (.getVisAge true)
      wire := chain.wire ++ ((chain.bridge.sent config (.getVisAge true)).map fun payload =>
        { number := chain.tickNumber, json := dumps (.obj payload.members) : Parcel }).toList }
  | .deliver recvTime =>
    match chain.wire with
    | [] => chain
    | parcel :: rest =>
      if (parseCmdFrame parcel.json).isSome then
        { chain with
          wire := rest
          server := chain.server.receive parcel.json recvTime
          mailNumber := parcel.number
          unapplied := true }
      else { chain with wire := rest, server := chain.server.receive parcel.json recvTime }
  | .turn r =>
    { chain with
      loop := chain.loop.step { r with latest := chain.server.latestCommand }
      unapplied := chain.unapplied && chain.applied.isNone }

omit [FloatRepr] [Libc] in
/-- A backend without an intent, not connected yet, and a flight controller that has just booted. -/
def init (hover : HoverEnv) (cmdNextSeq : ℤ) : Chain where
  bridge := CmdBridge.init config cmdNextSeq
  loop := boot hover

/-- The frame of a step that sends one the flight controller can read. -/
def sentFrame (chain : Chain) : ChainEvent → Option CommandFrame
  | .send => (chain.bridge.sent config (.getVisAge true)).bind fun payload =>
      parseCmdFrame (dumps (.obj payload.members))
  | _ => none

/-- The frame that a step puts into the mailbox. -/
def publishedFrame (chain : Chain) : ChainEvent → Option CommandFrame
  | .deliver _ => chain.wire.head?.bind fun parcel => parseCmdFrame parcel.json
  | _ => none

omit [Fpu] [FloatRepr] [Libc] in
/-- The intent accepted as the `n`-th. -/
def intentAt (chain : Chain) : Nat → Option Intent
  | 0 => none
  | n + 1 => chain.accepted[n]?

omit [Fpu] [FloatRepr] [Libc] in
def armAt (chain : Chain) (n : Nat) : Option Bool := (chain.intentAt n).bind Intent.arm

omit [Fpu] [FloatRepr] [Libc] in
/-- An intent accepted after the `n`-th says `arm=true`. -/
def armedSince (chain : Chain) (n : Nat) : Bool := (chain.accepted.drop n).any fun intent => intent.arm = some true

omit [FloatRepr] [Libc] in
/-- The main loop calls `setArm(false)`. -/
def setsArmFalse (chain : Chain) : ChainEvent → Bool
  | .turn _ => chain.applied.any fun frame => armField frame = some false
  | _ => false

/-! ## What the past says about the `n`-th intent -/

omit [FloatRepr] [Libc] in
/-- `setArm(false)` has been called since it was accepted. -/
def Called (past : Past Chain ChainEvent) (n : Nat) : Prop :=
  ∃ turn ∈ past, n ≤ turn.1.accepted.length ∧ turn.1.setsArmFalse turn.2 = true

/-- A readable frame with `arm=false` that was built from it or from a later intent has been sent. -/
def SentDisarm (past : Past Chain ChainEvent) (n : Nat) : Prop :=
  ∃ turn ∈ past, n ≤ turn.1.tickNumber ∧ ∃ frame ∈ turn.1.sentFrame config turn.2, armField frame = some false

/-- A readable frame without an arm field was built from a later intent and sent first. -/
def OverwrittenInBackend (past : Past Chain ChainEvent) (n : Nat) : Prop :=
  ∃ before turn after, past = before ++ turn :: after ∧ ¬ SentDisarm config before n ∧ n < turn.1.tickNumber ∧
    ∃ frame ∈ turn.1.sentFrame config turn.2, armField frame = none

omit [FloatRepr] in
/-- A frame without an arm field was published over one with `arm=false` that no turn had applied. -/
def OverwrittenInMailbox (past : Past Chain ChainEvent) (n : Nat) : Prop :=
  ∃ turn ∈ past, (∃ frame ∈ turn.1.publishedFrame turn.2, armField frame = none) ∧ n ≤ turn.1.mailNumber ∧
    turn.1.unapplied = true ∧ ∃ mail ∈ turn.1.server.latestCommand, armField mail = some false

omit [FloatRepr] [Libc] in
/-- A turn that applies a frame built from a later intent finds that `setArm(false)` has been called or calls it,
unless there was an `arm=true` in between. -/
def DisarmKept (past : Past Chain ChainEvent) (chain : Chain) : ChainEvent → Prop
  | .turn r =>
    chain.applied.isSome = true → ∀ n < chain.mailNumber, chain.armAt n = some false →
      chain.armedSince n = true ∨ Called (past ++ [(chain, .turn r)]) n
  | _ => True

/-- The same, or the disarm was overwritten in one of the two places. -/
def DisarmKeptOrOverwritten (past : Past Chain ChainEvent) (chain : Chain) : ChainEvent → Prop
  | .turn r =>
    chain.applied.isSome = true → ∀ n < chain.mailNumber, chain.armAt n = some false →
      (chain.armedSince n = true ∨ Called (past ++ [(chain, .turn r)]) n) ∨
        OverwrittenInBackend config past n ∨ OverwrittenInMailbox past n
  | _ => True

/-! ## What is where -/

omit [Fpu] [FloatRepr] [Libc] in
/-- The intent that the tick under way has read. -/
def intentRead : TickStage → Option (Option Intent)
  | .readIntent _ intent => some intent
  | .readVis _ intent _ _ => some intent
  | _ => none

omit [FloatRepr] in
/-- Every intent and every frame is the one its number spoken, and the numbers are in order. -/
structure Sound (chain : Chain) : Prop where
  latest : chain.bridge.shared.latestIntent = chain.intentAt chain.accepted.length
  read : ∀ intent ∈ intentRead chain.bridge.stage, intent = chain.intentAt chain.tickNumber
  wire : ∀ parcel ∈ chain.wire, ∀ frame ∈ parseCmdFrame parcel.json, armField frame = chain.armAt parcel.number
  mail : ∀ frame ∈ chain.server.latestCommand, armField frame = chain.armAt chain.mailNumber
  counted : chain.tickNumber ≤ chain.accepted.length
  ordered : (chain.mailNumber :: chain.wire.map Parcel.number).Pairwise (· ≤ ·)
  behind : ∀ number ∈ chain.mailNumber :: chain.wire.map Parcel.number, number ≤ chain.tickNumber

variable {config} {past : Past Chain ChainEvent} {chain : Chain} {n : Nat}

omit [Fpu] [FloatRepr] [Libc] in
theorem intentAt_grown {next : Chain} (grown : chain.accepted <+: next.accepted)
    (counted : n ≤ chain.accepted.length) : next.intentAt n = chain.intentAt n := by
  obtain ⟨later, grown⟩ := grown
  cases n with
  | zero => rfl
  | succ n => rw [intentAt, intentAt, ← grown, List.getElem?_append_left counted]

omit [Fpu] [FloatRepr] [Libc] in
theorem armAt_grown {next : Chain} (grown : chain.accepted <+: next.accepted)
    (counted : n ≤ chain.accepted.length) : next.armAt n = chain.armAt n := by
  rw [armAt, armAt, intentAt_grown grown counted]

omit [Fpu] [FloatRepr] [Libc] in
/-- A later intent says `arm=true`. -/
theorem armedSince_of_armAt {later : Nat} (after : n < later) (arms : chain.armAt later = some true) :
    chain.armedSince n = true := by
  obtain ⟨intent, found, arm⟩ := Option.bind_eq_some_iff.1 arms
  cases later with
  | zero => cases found
  | succ later =>
    rw [armedSince, List.any_eq_true]
    refine ⟨intent, ?_, by simpa using arm⟩
    apply List.mem_of_getElem? (i := later - n)
    rw [List.getElem?_drop, show n + (later - n) = later by omega]
    exact found

omit [Fpu] [FloatRepr] [Libc] in
theorem armedSince_grown {next : Chain} (grown : chain.accepted <+: next.accepted)
    (armed : chain.armedSince n = true) : next.armedSince n = true := by
  rw [armedSince, List.any_eq_true] at armed ⊢
  obtain ⟨intent, member, arm⟩ := armed
  obtain ⟨later, grown⟩ := grown
  refine ⟨intent, ?_, arm⟩
  rw [← grown, List.drop_append]
  exact List.mem_append_left _ member

omit [Libc] in
/-- What the bridge does other than taking an intent leaves the latest one as it is. -/
theorem step_latestIntent (bridge : CmdBridge) {action : BridgeAction}
    (other : ∀ intent time, action ≠ .updateIntent intent time) :
    (bridge.step config action).shared.latestIntent = bridge.shared.latestIntent := by
  unfold CmdBridge.step
  cases action with
  | recordVisOk msg rxMonotonic => rfl
  | updateIntent intent time => exact absurd rfl (other intent time)
  | closeSocket => rfl
  | attemptConnect now connects =>
    simp only [CmdBridge.act]
    split
    · simp only [CmdBridge.attemptConnect]
      split_ifs <;> rfl
    · rfl
  | getLatestIntent now =>
    simp only [CmdBridge.act]
    split <;> rfl
  | getLatestVis =>
    simp only [CmdBridge.act]
    split <;> rfl
  | getVisAge sends =>
    simp only [CmdBridge.act]
    split
    · exact (CmdBridge.sendTick_frame ..).2.1
    · rfl

omit [Libc] in
/-- Only the first read of a tick makes it hold another intent. -/
theorem step_intentRead (bridge : CmdBridge) {action : BridgeAction} (other : ∀ now, action ≠ .getLatestIntent now) :
    ∀ intent ∈ intentRead (bridge.step config action).stage, intent ∈ intentRead bridge.stage := by
  unfold CmdBridge.step
  cases action with
  | recordVisOk msg rxMonotonic => exact fun _ read => read
  | updateIntent intent time => exact fun _ read => read
  | closeSocket => exact fun _ read => read
  | attemptConnect now connects =>
    simp only [CmdBridge.act]
    split
    · simp only [CmdBridge.attemptConnect]
      split_ifs <;> exact fun _ read => read
    · exact fun _ read => read
  | getLatestIntent now => exact absurd rfl (other now)
  | getLatestVis =>
    simp only [CmdBridge.act]
    split
    · next found => rw [found]; exact fun _ read => read
    · exact fun _ read => read
  | getVisAge sends =>
    simp only [CmdBridge.act]
    split
    · next now intent snapshot receivedAt _ =>
      obtain ⟨-, -, ended⟩ := CmdBridge.sendTick_frame config bridge now intent snapshot sends
      rcases ended with ended | ended <;> rw [ended] <;> rintro _ ⟨⟩
    · exact fun _ read => read

/-- A frame says of the arm field what the intent of its tick says. -/
theorem sent_arm (sound : Sound chain) {payload : CmdPayload} {frame : CommandFrame}
    (sent : chain.bridge.sent config (.getVisAge true) = some payload)
    (reads : frame ∈ parseCmdFrame (dumps (.obj payload.members))) : armField frame = chain.armAt chain.tickNumber := by
  obtain ⟨now, intent, snapshot, receivedAt, stage, seq, reason, built⟩ := CmdBridge.sent_cases sent
  have read : intent = chain.intentAt chain.tickNumber := by
    apply sound.read
    rw [stage]
    rfl
  rw [Option.mem_def, parseCmdFrame_dumps] at reads
  obtain ⟨present, value⟩ := readCmdFrame_arm reads
  rw [armField, armAt, present, value, ← read, ← buildCmdPayload_arm built]
  cases payload.arm <;> rfl

/-! ## Step lemmas -/

omit [FloatRepr] in
/-- A step that leaves the connection and the mailbox alone. -/
theorem Sound.of_bridge (sound : Sound chain) {next : Chain} (grown : chain.accepted <+: next.accepted)
    (latest : next.bridge.shared.latestIntent = next.intentAt next.accepted.length)
    (read : ∀ intent ∈ intentRead next.bridge.stage, intent = next.intentAt next.tickNumber)
    (counted : chain.tickNumber ≤ next.tickNumber ∧ next.tickNumber ≤ next.accepted.length)
    (wire : next.wire = chain.wire) (server : next.server = chain.server) (mailNumber : next.mailNumber = chain.mailNumber) :
    Sound next := by
  have within {number : Nat} (member : number ∈ chain.mailNumber :: chain.wire.map Parcel.number) :
      number ≤ chain.accepted.length := (sound.behind number member).trans sound.counted
  refine ⟨latest, read, ?_, ?_, counted.2, ?_, ?_⟩
  · rw [wire]
    intro parcel member frame reads
    rw [armAt_grown grown (within (List.mem_cons_of_mem _ (List.mem_map_of_mem member)))]
    exact sound.wire parcel member frame reads
  · rw [server, mailNumber, armAt_grown grown (within List.mem_cons_self)]
    exact sound.mail
  · rw [wire, mailNumber]
    exact sound.ordered
  · rw [wire, mailNumber]
    exact fun number member => (sound.behind number member).trans counted.1

/-- A step of the bridge alone, other than the ones that concern the latest intent. -/
theorem Sound.bridge_step (sound : Sound chain) {action : BridgeAction}
    (noUpdate : ∀ intent time, action ≠ .updateIntent intent time) (noRead : ∀ now, action ≠ .getLatestIntent now) :
    Sound { chain with bridge := chain.bridge.step config action } := by
  refine ⟨?_, ?_, sound.wire, sound.mail, sound.counted, sound.ordered, sound.behind⟩
  · exact (step_latestIntent _ noUpdate).trans sound.latest
  · exact fun intent read => sound.read intent (step_intentRead _ noRead intent read)

omit [FloatRepr] in
/-- What the mailbox holds after a publication. -/
theorem latestCommand_receive (server : CommandServer) (json : Text) (recvTime : Double) :
    (server.receive json recvTime).latestCommand = (parseCmdFrame json).or server.latestCommand := by
  unfold CommandServer.receive
  cases parseCmdFrame json <;> rfl

/-- A payload that is no frame is taken off the connection. -/
theorem step_dropped {parcel : Parcel} {rest : List Parcel} (onWire : chain.wire = parcel :: rest)
    (reads : parseCmdFrame parcel.json = none) (recvTime : Double) :
    chain.step config (.deliver recvTime) =
      { chain with wire := rest, server := chain.server.receive parcel.json recvTime } := by
  simp [step, onWire, reads]

/-- A frame is taken off the connection and put into the mailbox. -/
theorem step_published {parcel : Parcel} {rest : List Parcel} {frame : CommandFrame}
    (onWire : chain.wire = parcel :: rest) (reads : parseCmdFrame parcel.json = some frame) (recvTime : Double) :
    chain.step config (.deliver recvTime) =
      { chain with
        wire := rest
        server := chain.server.receive parcel.json recvTime
        mailNumber := parcel.number
        unapplied := true } := by
  simp [step, onWire, reads]

theorem Sound.send (sound : Sound chain) : Sound (chain.step config .send) := by
  have bridged : Sound { chain with bridge := chain.bridge.step config (.getVisAge true) } :=
    sound.bridge_step (by rintro _ _ ⟨⟩) (by rintro _ ⟨⟩)
  refine ⟨bridged.latest, bridged.read, ?_, sound.mail, sound.counted, ?_, ?_⟩
  · intro parcel member frame reads
    rcases List.mem_append.1 member with old | new
    · exact sound.wire parcel old frame reads
    · rw [Option.mem_toList, Option.map_eq_some_iff] at new
      obtain ⟨payload, sent, rfl⟩ := new
      exact sent_arm sound sent reads
  · simp only [step, List.map_append]
    rw [← List.cons_append, List.pairwise_append]
    refine ⟨sound.ordered, ?_, ?_⟩
    · cases chain.bridge.sent config (.getVisAge true) <;> simp
    · intro number member last new
      cases sent : chain.bridge.sent config (.getVisAge true) with
      | none => simp [sent] at new
      | some payload =>
        have same : last = chain.tickNumber := by simpa [sent] using new
        exact same ▸ sound.behind number member
  · simp only [step, List.map_append]
    rw [← List.cons_append]
    intro number member
    rcases List.mem_append.1 member with old | new
    · exact sound.behind number old
    · cases sent : chain.bridge.sent config (.getVisAge true) with
      | none => simp [sent] at new
      | some payload =>
        have same : number = chain.tickNumber := by simpa [sent] using new
        exact same.le

theorem Sound.deliver (sound : Sound chain) (recvTime : Double) : Sound (chain.step config (.deliver recvTime)) := by
  cases onWire : chain.wire with
  | nil =>
    have same : chain.step config (.deliver recvTime) = chain := by simp only [step, onWire]
    rwa [same]
  | cons parcel rest =>
    obtain ⟨latest, read, wire, mail, counted, ordered, behind⟩ := sound
    rw [onWire] at wire ordered behind
    rw [List.map_cons] at ordered behind
    cases reads : parseCmdFrame parcel.json with
    | none =>
      rw [step_dropped onWire reads]
      refine ⟨latest, read, fun p member => wire p (List.mem_cons_of_mem _ member), ?_, counted, ?_, ?_⟩
      · rw [latestCommand_receive, reads, Option.none_or]
        exact mail
      · exact ordered.sublist ((List.sublist_cons_self ..).cons_cons _)
      · intro number member
        rcases List.mem_cons.1 member with rfl | member
        · exact behind _ List.mem_cons_self
        · exact behind number (List.mem_cons_of_mem _ (List.mem_cons_of_mem _ member))
    | some frame =>
      rw [step_published onWire reads]
      refine ⟨latest, read, fun p member => wire p (List.mem_cons_of_mem _ member), ?_, counted, ?_, ?_⟩
      · rw [latestCommand_receive, reads, Option.some_or]
        rintro _ ⟨⟩
        exact wire parcel List.mem_cons_self frame reads
      · exact ordered.of_cons
      · exact fun number member => behind number (List.mem_cons_of_mem _ member)

theorem sound_step (sound : Sound chain) (event : ChainEvent) : Sound (chain.step config event) := by
  cases event with
  | intent request updateMonotonic =>
    simp only [step]
    cases accepted : postIntent request with
    | error _ => exact sound
    | ok intent =>
      have grown : chain.accepted <+: chain.accepted ++ [intent] := List.prefix_append ..
      apply sound.of_bridge grown
      · change some intent = _
        simp [intentAt]
      · intro read reads
        rw [intentAt_grown grown sound.counted]
        exact sound.read read reads
      · exact ⟨le_rfl, sound.counted.trans grown.length_le⟩
      · rfl
      · rfl
      · rfl
  | vision msg rxMonotonic => exact sound.bridge_step (by rintro _ _ ⟨⟩) (by rintro _ ⟨⟩)
  | connect now connects => exact sound.bridge_step (by rintro _ _ ⟨⟩) (by rintro _ ⟨⟩)
  | readIntent now =>
    simp only [step]
    split
    · next idle connected =>
      apply sound.of_bridge (by exact List.prefix_refl chain.accepted)
      · exact (step_latestIntent _ (by rintro _ _ ⟨⟩)).trans sound.latest
      · simp only [CmdBridge.step, CmdBridge.act, idle, connected]
        rintro _ ⟨⟩
        exact sound.latest
      · exact ⟨sound.counted, le_rfl⟩
      · rfl
      · rfl
      · rfl
    · exact sound
  | readVis => exact sound.bridge_step (by rintro _ _ ⟨⟩) (by rintro _ ⟨⟩)
  | send => exact sound.send
  | deliver recvTime => exact sound.deliver recvTime
  | turn r => exact ⟨sound.latest, sound.read, sound.wire, sound.mail, sound.counted, sound.ordered, sound.behind⟩

/-! ## Where a disarm is -/

omit [FloatRepr] in
/-- A frame of a later intent has an arm field, if it stands in the mailbox. -/
def MailSays (chain : Chain) (n : Nat) : Prop :=
  ∀ frame ∈ chain.server.latestCommand, n < chain.mailNumber → armField frame ≠ none

omit [Fpu] [FloatRepr] in
/-- The same for the frames on the connection. -/
def WireSays (wire : List Parcel) (n : Nat) : Prop :=
  ∀ parcel ∈ wire, ∀ frame ∈ parseCmdFrame parcel.json, n < parcel.number → armField frame ≠ none

variable (config) in
/-- What has become of the disarm accepted as the `n`-th intent. -/
inductive Phase (past : Past Chain ChainEvent) (chain : Chain) (n : Nat) : Prop where
  | waiting (unsent : ¬ SentDisarm config past n) (mail : MailSays chain n) (wire : WireSays chain.wire n)
  | onWire (mail : MailSays chain n) (before : List Parcel) (disarm : Parcel) (after : List Parcel)
      (wire : chain.wire = before ++ disarm :: after) (spoken : WireSays before n) (late : n ≤ disarm.number)
      (frame : CommandFrame) (reads : parseCmdFrame disarm.json = some frame) (disarms : armField frame = some false)
  | inMailbox (frame : CommandFrame) (mail : chain.server.latestCommand = some frame)
      (disarms : armField frame = some false) (late : n ≤ chain.mailNumber) (unapplied : chain.unapplied = true)
  | settled (either : (chain.armedSince n = true ∨ Called past n) ∨
      OverwrittenInBackend config past n ∨ OverwrittenInMailbox past n)

omit [Fpu] [FloatRepr] [Libc] in
theorem Called.append (called : Called past n) (turn : Chain × ChainEvent) : Called (past ++ [turn]) n := by
  obtain ⟨t, member, rest⟩ := called
  exact ⟨t, List.mem_append_left _ member, rest⟩

theorem OverwrittenInBackend.append (lost : OverwrittenInBackend config past n) (turn : Chain × ChainEvent) :
    OverwrittenInBackend config (past ++ [turn]) n := by
  obtain ⟨before, t, after, rfl, rest⟩ := lost
  exact ⟨before, t, after ++ [turn], by simp, rest⟩

omit [FloatRepr] in
theorem OverwrittenInMailbox.append (lost : OverwrittenInMailbox past n) (turn : Chain × ChainEvent) :
    OverwrittenInMailbox (past ++ [turn]) n := by
  obtain ⟨t, member, rest⟩ := lost
  exact ⟨t, List.mem_append_left _ member, rest⟩

/-- What is settled stays so. -/
theorem settled_append {next : Chain} (grown : chain.accepted <+: next.accepted) (turn : Chain × ChainEvent)
    (either : (chain.armedSince n = true ∨ Called past n) ∨
      OverwrittenInBackend config past n ∨ OverwrittenInMailbox past n) :
    (next.armedSince n = true ∨ Called (past ++ [turn]) n) ∨
      OverwrittenInBackend config (past ++ [turn]) n ∨ OverwrittenInMailbox (past ++ [turn]) n := by
  rcases either with (armed | called) | lost | lost
  · exact .inl (.inl (armedSince_grown grown armed))
  · exact .inl (.inr (called.append turn))
  · exact .inr (.inl (lost.append turn))
  · exact .inr (.inr (lost.append turn))

theorem sentDisarm_append {event : ChainEvent} (quiet : chain.sentFrame config event = none)
    (sent : SentDisarm config (past ++ [(chain, event)]) n) : SentDisarm config past n := by
  obtain ⟨turn, member, number, frame, out, disarms⟩ := sent
  rcases List.mem_append.1 member with old | new
  · exact ⟨turn, old, number, frame, out, disarms⟩
  · cases List.mem_singleton.1 new
    rw [quiet] at out
    cases out

/-- An event that neither sends nor touches the connection or the mailbox. -/
theorem Phase.of_quiet (phase : Phase config past chain n) {event : ChainEvent} {next : Chain}
    (quiet : chain.sentFrame config event = none) (grown : chain.accepted <+: next.accepted)
    (wire : next.wire = chain.wire) (server : next.server = chain.server) (mailNumber : next.mailNumber = chain.mailNumber)
    (unapplied : next.unapplied = chain.unapplied) : Phase config (past ++ [(chain, event)]) next n := by
  have mailSays (mail : MailSays chain n) : MailSays next n := by
    rw [MailSays, server, mailNumber]
    exact mail
  cases phase with
  | waiting unsent mail spoken =>
    exact .waiting (fun sent => unsent (sentDisarm_append quiet sent)) (mailSays mail) (wire ▸ spoken)
  | onWire mail before disarm after place spoken late frame reads disarms =>
    exact .onWire (mailSays mail) before disarm after (wire.trans place) spoken late frame reads disarms
  | inMailbox frame mail disarms late fresh =>
    exact .inMailbox frame (server ▸ mail) disarms (mailNumber ▸ late) (unapplied.trans fresh)
  | settled either => exact .settled (settled_append grown _ either)

/-- A tick sends: nothing was on its way, and now the disarm is or is lost to a frame without an arm field. -/
theorem Phase.send (phase : Phase config past chain n) :
    Phase config (past ++ [(chain, .send)]) (chain.step config .send) n := by
  have grown : chain.accepted <+: (chain.step config .send).accepted := List.prefix_refl _
  cases phase with
  | waiting unsent mail spoken =>
    cases sent : chain.bridge.sent config (.getVisAge true) with
    | none =>
      have quiet : chain.sentFrame config .send = none := by rw [sentFrame, sent, Option.bind_none]
      refine .waiting (fun again => unsent (sentDisarm_append quiet again)) mail ?_
      simpa [step, sent] using spoken
    | some payload =>
      have wire : (chain.step config .send).wire =
          chain.wire ++ [{ number := chain.tickNumber, json := dumps (.obj payload.members) }] := by simp [step, sent]
      have out : chain.sentFrame config .send = parseCmdFrame (dumps (.obj payload.members)) := by
        rw [sentFrame, sent, Option.bind_some]
      cases reads : parseCmdFrame (dumps (.obj payload.members)) with
      | none =>
        refine .waiting (fun again => unsent (sentDisarm_append (out.trans reads) again)) mail ?_
        rw [wire]
        intro parcel member frame parsed
        rcases List.mem_append.1 member with old | new
        · exact spoken parcel old frame parsed
        · cases List.mem_singleton.1 new
          rw [reads] at parsed
          cases parsed
      | some frame =>
        by_cases later : n < chain.tickNumber ∧ armField frame = none
        · exact .settled (.inr (.inl ⟨past, _, [], rfl, unsent, later.1, frame, out.trans reads, later.2⟩))
        by_cases disarm : n ≤ chain.tickNumber ∧ armField frame = some false
        · exact .onWire mail chain.wire _ [] wire spoken disarm.1 frame reads disarm.2
        · refine .waiting ?_ mail ?_
          · rintro ⟨turn, member, number, again, found, disarms⟩
            rcases List.mem_append.1 member with old | new
            · exact unsent ⟨turn, old, number, again, found, disarms⟩
            · cases List.mem_singleton.1 new
              rw [out, reads] at found
              cases found
              exact disarm ⟨number, disarms⟩
          · rw [wire]
            intro parcel member again parsed number
            rcases List.mem_append.1 member with old | new
            · exact spoken parcel old again parsed number
            · cases List.mem_singleton.1 new
              rw [reads] at parsed
              cases parsed
              exact fun silent => later ⟨number, silent⟩
  | onWire mail before disarm after place spoken late frame reads disarms =>
    obtain ⟨sent, wire⟩ : ∃ sent, (chain.step config .send).wire = chain.wire ++ sent := ⟨_, rfl⟩
    exact .onWire mail before disarm (after ++ sent) (by simp [wire, place]) spoken late frame reads disarms
  | inMailbox frame mail disarms late fresh => exact .inMailbox frame mail disarms late fresh
  | settled either => exact .settled (settled_append grown _ either)

theorem Phase.dropped (phase : Phase config past chain n) {parcel : Parcel} {rest : List Parcel}
    (onWire : chain.wire = parcel :: rest) (reads : parseCmdFrame parcel.json = none) (recvTime : Double) :
    Phase config (past ++ [(chain, .deliver recvTime)]) (chain.step config (.deliver recvTime)) n := by
  have quiet : chain.sentFrame config (.deliver recvTime) = none := rfl
  have latest : (chain.server.receive parcel.json recvTime).latestCommand = chain.server.latestCommand := by
    rw [latestCommand_receive, reads, Option.none_or]
  rw [step_dropped onWire reads]
  cases phase with
  | waiting unsent mail spoken =>
    refine .waiting (fun sent => unsent (sentDisarm_append quiet sent)) (by rwa [MailSays, latest]) ?_
    exact fun p member => spoken p (onWire ▸ List.mem_cons_of_mem _ member)
  | onWire mail before carrier after place spoken late frame parsed disarms =>
    cases before with
    | nil =>
      rw [onWire] at place
      cases place
      rw [reads] at parsed
      cases parsed
    | cons head before =>
      rw [onWire] at place
      cases place
      exact .onWire (by rwa [MailSays, latest]) before carrier after rfl (fun p member => spoken p (.tail _ member))
        late frame parsed disarms
  | inMailbox frame mail disarms late fresh => exact .inMailbox frame (latest.trans mail) disarms late fresh
  | settled either => exact .settled (settled_append (List.prefix_refl _) _ either)

theorem Phase.published (sound : Sound chain) (disarm : chain.armAt n = some false) (phase : Phase config past chain n)
    {parcel : Parcel} {rest : List Parcel} {frame : CommandFrame} (onWire : chain.wire = parcel :: rest)
    (reads : parseCmdFrame parcel.json = some frame) (recvTime : Double) :
    Phase config (past ++ [(chain, .deliver recvTime)]) (chain.step config (.deliver recvTime)) n := by
  have quiet : chain.sentFrame config (.deliver recvTime) = none := rfl
  have latest : (chain.server.receive parcel.json recvTime).latestCommand = some frame := by
    rw [latestCommand_receive, reads, Option.some_or]
  have named : armField frame = chain.armAt parcel.number := sound.wire parcel (onWire ▸ List.mem_cons_self) frame reads
  rw [step_published onWire reads]
  cases phase with
  | waiting unsent mail spoken =>
    refine .waiting (fun sent => unsent (sentDisarm_append quiet sent)) ?_ ?_
    · rintro _ found later
      cases latest.symm.trans found
      exact spoken parcel (onWire ▸ List.mem_cons_self) frame reads later
    · exact fun p member => spoken p (onWire ▸ List.mem_cons_of_mem _ member)
  | onWire mail before carrier after place spoken late again parsed disarms =>
    rw [onWire] at place
    cases before with
    | nil =>
      cases place
      cases reads.symm.trans parsed
      exact .inMailbox frame latest disarms late rfl
    | cons head before =>
      cases place
      refine .onWire ?_ before carrier after rfl (fun p member => spoken p (.tail _ member)) late again parsed disarms
      rintro _ found later
      cases latest.symm.trans found
      exact spoken parcel List.mem_cons_self frame reads later
  | inMailbox mail found disarms late fresh =>
    have ordered := sound.ordered
    rw [onWire, List.map_cons, List.pairwise_cons] at ordered
    have number : n ≤ parcel.number := late.trans (ordered.1 _ List.mem_cons_self)
    cases arm : armField frame with
    | none =>
      refine .settled (.inr (.inr ⟨_, List.mem_append_right _ (List.mem_singleton_self _), ⟨frame, ?_, arm⟩, late,
        fresh, mail, found, disarms⟩))
      simp [publishedFrame, onWire, reads]
    | some armed =>
      cases armed with
      | false => exact .inMailbox frame latest arm number rfl
      | true =>
        have after : n ≠ parcel.number := by
          rintro rfl
          rw [disarm, arm] at named
          cases named
        have later : n < parcel.number := by omega
        exact .settled (.inl (.inl (armedSince_of_armAt later (named.symm.trans arm))))
  | settled either => exact .settled (settled_append (List.prefix_refl _) _ either)

/-- The next frame of the connection reaches the mailbox. -/
theorem Phase.deliver (sound : Sound chain) (disarm : chain.armAt n = some false) (phase : Phase config past chain n)
    (recvTime : Double) : Phase config (past ++ [(chain, .deliver recvTime)]) (chain.step config (.deliver recvTime)) n := by
  cases onWire : chain.wire with
  | nil =>
    have same : chain.step config (.deliver recvTime) = chain := by simp only [step, onWire]
    rw [same]
    exact phase.of_quiet rfl (List.prefix_refl _) rfl rfl rfl rfl
  | cons parcel rest =>
    cases reads : parseCmdFrame parcel.json with
    | none => exact phase.dropped onWire reads recvTime
    | some frame => exact phase.published sound disarm onWire reads recvTime

/-- The main loop takes a turn. -/
theorem Phase.turn (sound : Sound chain) (phase : Phase config past chain n) (r : Readings) :
    Phase config (past ++ [(chain, .turn r)]) (chain.step config (.turn r)) n := by
  have quiet : chain.sentFrame config (.turn r) = none := rfl
  cases phase with
  | waiting unsent mail spoken => exact .waiting (fun sent => unsent (sentDisarm_append quiet sent)) mail spoken
  | onWire mail before carrier after place spoken late frame reads disarms =>
    exact .onWire mail before carrier after place spoken late frame reads disarms
  | inMailbox frame mail disarms late fresh =>
    cases applies : chain.applied with
    | none =>
      refine .inMailbox frame mail disarms late ?_
      simp [step, fresh, applies]
    | some applied =>
      cases (accepted_mem applies).symm.trans mail
      refine .settled (.inl (.inr ⟨_, List.mem_append_right _ (List.mem_singleton_self _), ?_, ?_⟩))
      · exact late.trans ((sound.behind _ List.mem_cons_self).trans sound.counted)
      · simp [setsArmFalse, applies, disarms]
  | settled either => exact .settled (settled_append (List.prefix_refl _) _ either)

theorem phase_step (sound : Sound chain) (disarm : chain.armAt n = some false) (phase : Phase config past chain n)
    (event : ChainEvent) : Phase config (past ++ [(chain, event)]) (chain.step config event) n := by
  cases event with
  | intent request updateMonotonic =>
    simp only [step]
    split
    · exact phase.of_quiet rfl (List.prefix_refl _) rfl rfl rfl rfl
    · exact phase.of_quiet rfl (List.prefix_append ..) rfl rfl rfl rfl
  | vision msg rxMonotonic => exact phase.of_quiet rfl (List.prefix_refl _) rfl rfl rfl rfl
  | connect now connects => exact phase.of_quiet rfl (List.prefix_refl _) rfl rfl rfl rfl
  | readIntent now =>
    simp only [step]
    split <;> exact phase.of_quiet rfl (List.prefix_refl _) rfl rfl rfl rfl
  | readVis => exact phase.of_quiet rfl (List.prefix_refl _) rfl rfl rfl rfl
  | send => exact phase.send
  | deliver recvTime => exact phase.deliver sound disarm recvTime
  | turn r => exact phase.turn sound r

theorem step_accepted (event : ChainEvent) : chain.accepted <+: (chain.step config event).accepted := by
  cases event with
  | intent request updateMonotonic =>
    simp only [step]
    split
    · exact List.prefix_refl _
    · exact List.prefix_append ..
  | deliver recvTime =>
    simp only [step]
    split
    · exact List.prefix_refl _
    · split_ifs <;> exact List.prefix_refl _
  | readIntent now =>
    simp only [step]
    split <;> exact List.prefix_refl _
  | vision msg rxMonotonic | connect now connects | readVis | send | turn r => exact List.prefix_refl _

/-- A tick reads an intent that has been accepted. -/
theorem step_tickNumber (sound : Sound chain) (event : ChainEvent) :
    (chain.step config event).tickNumber ≤ chain.accepted.length := by
  cases event with
  | readIntent now =>
    simp only [step]
    split
    · exact le_rfl
    · exact sound.counted
  | intent request updateMonotonic =>
    simp only [step]
    split <;> exact sound.counted
  | deliver recvTime =>
    simp only [step]
    split
    · exact sound.counted
    · split_ifs <;> exact sound.counted
  | vision msg rxMonotonic | connect now connects | readVis | send | turn r => exact sound.counted

variable (config) in
structure DisarmInv (past : Past Chain ChainEvent) (chain : Chain) : Prop where
  sound : Sound chain
  counted : ∀ turn ∈ past, turn.1.tickNumber ≤ chain.accepted.length
  phase : ∀ n, chain.armAt n = some false → Phase config past chain n

theorem disarmInv_step (inv : DisarmInv config past chain) (event : ChainEvent) :
    DisarmInv config (past ++ [(chain, event)]) (chain.step config event) := by
  obtain ⟨sound, counted, phase⟩ := inv
  have grown : chain.accepted <+: (chain.step config event).accepted := step_accepted event
  have next : Sound (chain.step config event) := sound_step sound event
  have within : ∀ turn ∈ past ++ [(chain, event)], turn.1.tickNumber ≤ chain.accepted.length := by
    intro turn member
    rcases List.mem_append.1 member with old | new
    · exact counted turn old
    · cases List.mem_singleton.1 new
      exact sound.counted
  refine ⟨next, fun turn member => (within turn member).trans grown.length_le, ?_⟩
  intro n disarm
  by_cases old : n ≤ chain.accepted.length
  · rw [armAt_grown grown old] at disarm
    exact phase_step sound disarm (phase n disarm) event
  · -- The intent has just been accepted, and no tick has read it.
    have number {m : Nat} (member : m ∈ (chain.step config event).mailNumber ::
        (chain.step config event).wire.map Parcel.number) : m < n := by
      have read := next.behind m member
      have reserved : (chain.step config event).tickNumber ≤ chain.accepted.length := step_tickNumber sound event
      omega
    refine .waiting ?_ ?_ ?_
    · rintro ⟨turn, member, late, -⟩
      have read := within turn member
      omega
    · intro frame found later
      exact absurd later (number List.mem_cons_self).le.not_gt
    · intro parcel member frame reads later
      exact absurd later (number (List.mem_cons_of_mem _ (List.mem_map_of_mem member))).le.not_gt

/-- A turn that applies a frame of a later intent calls `setArm`, or the disarm is settled. -/
theorem disarmKeptOrOverwritten_of_inv (inv : DisarmInv config past chain) (event : ChainEvent) :
    DisarmKeptOrOverwritten config past chain event := by
  cases event with
  | turn r =>
    intro applies n later disarm
    obtain ⟨applied, accepted⟩ := Option.isSome_iff_exists.1 applies
    have mail : chain.server.latestCommand = some applied := accepted_mem accepted
    have named := inv.sound.mail applied mail
    have count : chain.mailNumber ≤ chain.accepted.length :=
      (inv.sound.behind _ List.mem_cons_self).trans inv.sound.counted
    -- What the turn does with a frame that has an arm field settles the matter.
    have speaks (spoken : armField applied ≠ none) :
        chain.armedSince n = true ∨ Called (past ++ [(chain, .turn r)]) n := by
      cases arm : armField applied with
      | none => exact absurd arm spoken
      | some armed =>
        cases armed with
        | true => exact .inl (armedSince_of_armAt later (named.symm.trans arm))
        | false =>
          refine .inr ⟨_, List.mem_append_right _ (List.mem_singleton_self _), later.le.trans count, ?_⟩
          simp [setsArmFalse, accepted, arm]
    cases inv.phase n disarm with
    | waiting unsent mailSays wire => exact .inl (speaks (mailSays applied mail later))
    | onWire mailSays before carrier after place spoken late frame reads disarms =>
      exact .inl (speaks (mailSays applied mail later))
    | inMailbox frame found disarms late fresh =>
      cases mail.symm.trans found
      exact .inl (speaks (by simp [disarms]))
    | settled either =>
      rcases either with (armed | called) | lost
      · exact .inl (.inl armed)
      · exact .inl (.inr (called.append _))
      · exact .inr lost
  | _ => trivial

/-- Along every interleaving, a disarm that was accepted reaches `setArm(false)` before a frame of a later intent
is applied, unless an `arm=true` came in between or the disarm was overwritten in one of the two places. -/
theorem disarm_kept_or_overwritten (config : BridgeConfig) (hover : HoverEnv) (cmdNextSeq : ℤ)
    (events : List ChainEvent) :
    Always (Chain.step config) (DisarmKeptOrOverwritten config) [] (Chain.init config hover cmdNextSeq) events := by
  apply Always.of_forall (DisarmInv config)
  · intro past chain event inv
    exact disarmKeptOrOverwritten_of_inv inv event
  · intro past chain event inv
    exact disarmInv_step inv event
  · refine ⟨⟨rfl, ?_, ?_, ?_, le_rfl, ?_, ?_⟩, ?_, ?_⟩
    · rintro _ ⟨⟩
    · rintro _ ⟨⟩
    · rintro _ ⟨⟩
    · exact List.pairwise_singleton ..
    · intro number member
      exact (List.mem_singleton.1 member).le
    · rintro _ ⟨⟩
    · intro n disarm
      cases n <;> cases disarm

end Chain

section hardware
attribute [local instance] Binary64.binary64 plainRepr Libc.strict

def landRequest (arm : Option Bool) : IntentRequest where
  desiredMode := modeLandSafely
  arm := arm
  setpoints := none

/-- A request without an arm field comes before the next tick. -/
def disarmReplaced : List ChainEvent :=
  [.connect 0 true, .intent (landRequest (some false)) 1, .intent (landRequest none) 1, .readIntent 2, .readVis, .send,
    .deliver 2, .turn anyTurn]

instance (past : Past Chain ChainEvent) (n : Nat) : Decidable (Chain.Called past n) :=
  inferInstanceAs (Decidable (∃ turn ∈ past, _ ∧ _))

instance (past : Past Chain ChainEvent) (chain : Chain) (event : ChainEvent) :
    Decidable (Chain.DisarmKept past chain event) :=
  match event with
  | .turn _ => inferInstanceAs (Decidable (_ → ∀ n < chain.mailNumber, _ → _))
  | .intent _ _ | .vision _ _ | .connect _ _ | .readIntent _ | .readVis | .send | .deliver _ => .isTrue trivial

theorem disarm_replaced_before_tick :
    ¬ Always (Chain.step .unset) Chain.DisarmKept [] (Chain.init .unset ⟨0, .inl rfl⟩ 0) disarmReplaced := by
  decide +kernel

/-- The frame with the disarm is sent, and replaced in the mailbox before the main loop looks. -/
example : ¬ Always (Chain.step .unset) Chain.DisarmKept [] (Chain.init .unset ⟨0, .inl rfl⟩ 0)
    [.connect 0 true, .intent (landRequest (some false)) 1, .readIntent 2, .readVis, .send,
      .intent (landRequest none) 2, .readIntent 2, .readVis, .send, .deliver 2, .deliver 2, .turn anyTurn] := by
  decide +kernel

end hardware
end AotDrone.Link
