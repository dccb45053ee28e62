import AotDrone.Backend.BridgeLoop
import AotDrone.Lib.Replace
import AotDrone.Lib.Simulation
import AotDrone.Link.Disarm
import AotDrone.Link.Framing
import AotDrone.Link.SeqOrder
import Mathlib.Data.List.Sort

/-! Commands over connections that are lost and made again. The bridge (`cmd_bridge.py`) sends on the connection it made
last until a send fails; the receive thread (`CommandServer.cpp`) reads one connection until `read_frame` returns false
and then accepts the next; the loop (`main.cpp`) looks at the frame that was read last. -/

namespace AotDrone.Link
open AotDrone.Lib AotDrone.Lib.Double AotDrone.Lib.Run AotDrone.Json AotDrone.Backend AotDrone.Fc

/-- A payload whose frame `sendall` is given. `place` is how many ticks had reserved a number before; nothing reads
it, the statements do. -/
structure Offer where
  place : ℕ
  payload : CmdPayload

/-- A connection. What is written is what the bridge's kernel took, what has arrived is what `recv` has returned. -/
structure Channel where
  offers : List Offer := []
  written : Text := []
  arrived : Connection := []
  published : ℕ := 0

/-- The backend, its connections in the order they were made, and the flight controller. -/
structure CmdPath where
  bridge : CmdBridge
  ticks : ℕ := 0
  opened : ℕ := 0
  channel : ℕ → Channel := fun _ => {}
  /-- The connection that the receive thread reads, once it is made. -/
  serving : ℕ := 0
  server : CommandServer := {}
  /-- The payloads read, oldest first. -/
  read : List Text := []
  loop : MainLoop
  /-- The frames applied, oldest first. -/
  applied : List CommandFrame := []

/-- A step of the backend, in which a send that fails may have taken some of the frame; what `recv` returns; the
receive thread publishes the next payload it has read, or gives the connection up; a turn of the loop. -/
inductive CmdPathEvent where
  | backend (event : LoopEvent) (taken : ℕ)
  | recv (piece : Text)
  | publish (recvTime : Double)
  | hangUp
  | turn (r : Readings)

/-! ## What is read of a stream that breaks off -/

section streams
variable {maxLength : ℕ} {connection : Connection}

/-- Of a frame that is longer than the flight controller takes nothing is read. -/
theorem readFrame_long (arriving : Arriving connection) {raw : Text} (long : maxLength < raw.length)
    (fits : raw.length < 2 ^ 32) {rest : Text} (stream : connection.flatten = frameBytes raw ++ rest) :
    (Fc.readFrame maxLength connection).1 = none := by
  rw [frameBytes, List.append_assoc] at stream
  obtain ⟨left, -, -, read⟩ := readFrame_header maxLength arriving rfl stream
  rw [read, networkLength_packLength fits, if_pos (.inr long)]

/-- Of a frame that has not arrived as a whole nothing is read. -/
theorem readFrame_unfinished (arriving : Arriving connection) {raw : Text} (nonempty : 1 ≤ raw.length)
    (fits : raw.length < 2 ^ 32) (bound : maxLength < 2 ^ 32) {cut : ℕ} (cuts : cut < 4 + raw.length)
    (stream : connection.flatten = (frameBytes raw).take cut) : (Fc.readFrame maxLength connection).1 = none := by
  by_cases short : raw.length ≤ maxLength
  · exact readFrame_cut arriving nonempty short bound cuts stream
  · by_cases headless : cut < 4
    · apply readFrame_headless arriving
      rw [stream, List.length_take]
      omega
    · rw [frameBytes, List.take_append, List.take_of_length_le (by rw [packLength_length]; omega)] at stream
      obtain ⟨left, -, -, read⟩ := readFrame_header maxLength arriving rfl stream
      rw [read, networkLength_packLength fits, if_pos (.inr (not_le.1 short))]

/-- Wherever a stream of frames breaks off, what is read of it is an initial part of the payloads. -/
theorem readFrames_initial {payloads : List Text} (bound : maxLength < 2 ^ 32)
    (sizes : ∀ raw ∈ payloads, 1 ≤ raw.length ∧ raw.length < 2 ^ 32) (arriving : Arriving connection)
    (stream : connection.flatten <+: (payloads.map frameBytes).flatten) :
    readFrames maxLength connection <+: payloads := by
  induction payloads generalizing connection with
  | nil =>
    have empty : connection.flatten = [] := List.prefix_nil.1 stream
    rw [readFrames_stop (readFrame_headless arriving (by rw [empty]; decide))]
  | cons raw later ih =>
    obtain ⟨⟨nonempty, fits⟩, sizes⟩ := List.forall_mem_cons.1 sizes
    rw [List.map_cons, List.flatten_cons] at stream
    have begins : frameBytes raw <+: frameBytes raw ++ (later.map frameBytes).flatten := List.prefix_append _ _
    by_cases cuts : connection.flatten.length < 4 + raw.length
    · have part : connection.flatten <+: frameBytes raw :=
        List.prefix_of_prefix_length_le stream begins (by rw [frameBytes_length]; omega)
      rw [readFrames_stop (readFrame_unfinished arriving nonempty fits bound cuts (List.prefix_iff_eq_take.1 part))]
      exact List.nil_prefix
    · have whole : frameBytes raw <+: connection.flatten :=
        List.prefix_of_prefix_length_le begins stream (by rw [frameBytes_length]; omega)
      obtain ⟨behind, same⟩ := whole
      rw [← same] at stream
      by_cases short : raw.length ≤ maxLength
      · obtain ⟨left, read, arrives, rest⟩ := readFrame_frameBytes arriving nonempty short bound same.symm
        rw [readFrames_step, read]
        refine List.cons_prefix_cons.2 ⟨rfl, ih sizes arrives ?_⟩
        rw [rest]
        exact (List.prefix_append_right_inj _).1 stream
      · rw [readFrames_stop (readFrame_long arriving (not_le.1 short) fits same.symm)]
        exact List.nil_prefix

end streams

variable [Fpu] [FloatRepr] [Libc]

namespace Offer

omit [Libc] in
def json (offer : Offer) : Text := dumps (.obj offer.payload.members)

/-- What the receive thread makes of the payload. -/
def frame (offer : Offer) : Option CommandFrame := parseCmdFrame offer.json

end Offer

namespace CmdPath
variable (config : BridgeConfig) (ingest : IngestConfig)

omit [Libc] in
/-- The payload whose frame an event gives to `sendall`, and whether that returns. -/
def offered (bridge : CmdBridge) : LoopEvent → Option (CmdPayload × Bool)
  | .getVisAge sends => (bridge.sent config (.getVisAge true)).map fun payload => (payload, sends)
  | .postIntent _ _ | .telDatagram _ _ | .visDatagram _ _ | .attemptConnect _ _ | .getLatestIntent _ | .getLatestVis =>
    none

def step (path : CmdPath) : CmdPathEvent → CmdPath
  | .backend event taken =>
    let bridge := path.bridge.loopStep config ingest event
    let channel :=
      match offered config path.bridge event with
      | none => path.channel
      | some (payload, sends) =>
        let last := path.channel (path.opened - 1)
        let frame := frameBytes (dumps (.obj payload.members))
        Function.update path.channel (path.opened - 1)
          { last with
            offers := last.offers ++ [{ place := path.ticks, payload }]
            written := last.written ++ if sends then frame else frame.take taken }
    { path with
      bridge
      ticks := path.ticks + (path.bridge.tickSeq event).toList.length
      opened := path.opened + if bridge.socketOpen && !path.bridge.socketOpen then 1 else 0
      channel }
  | .recv piece =>
    let current := path.channel path.serving
    if piece ≠ [] ∧ current.arrived.flatten ++ piece <+: current.written then
      { path with
        channel := Function.update path.channel path.serving { current with arrived := current.arrived ++ [piece] } }
    else path
  | .publish recvTime =>
    let current := path.channel path.serving
    match (readFrames tcpMaxFrameBytes current.arrived)[current.published]? with
    | none => path
    | some json =>
      { path with
        channel := Function.update path.channel path.serving { current with published := current.published + 1 }
        server := path.server.receive json recvTime
        read := path.read ++ [json] }
  | .hangUp => if path.serving < path.opened then { path with serving := path.serving + 1 } else path
  | .turn r =>
    { path with
      loop := path.loop.step { r with latest := path.server.latestCommand }
      applied := path.applied ++ (path.loop.accepted path.server.latestCommand).toList }

omit [FloatRepr] [Libc] in
/-- A backend that starts at `monotonic`, and a flight controller that has just booted. -/
def init (hover : HoverEnv) (monotonic : Double) : CmdPath where
  bridge :=
    { shared := SharedState.reset { cmdNextSeq := 0 } monotonic
      connectBackoff := config.connectBackoffInitial }
  loop := boot hover

omit [Fpu] [FloatRepr] [Libc] in
/-- All that was given to `sendall`, in the order of the connections. -/
def offers (path : CmdPath) : List Offer := (List.range path.opened).flatMap fun i => (path.channel i).offers

omit [Fpu] [FloatRepr] [Libc] in
/-- What has been published of each connection. -/
def got (path : CmdPath) : List Offer :=
  (List.range path.opened).flatMap fun i => (path.channel i).offers.take (path.channel i).published

variable {config ingest}

/-! ## What a step of the bridge does to its socket and its numbers -/

section bridge
variable {bridge : CmdBridge} {now : Double} {intent : Option Intent} {snapshot : Option VisMessage}

omit [Libc] in
theorem sendTick_next (sends : Bool) :
    (bridge.sendTick config now intent snapshot sends).1.shared.cmdNextSeq = nextSeq bridge.shared.cmdNextSeq := by
  unfold CmdBridge.sendTick
  dsimp only
  split
  · rfl
  · split
    · rfl
    · rfl
    · split_ifs <;> rfl

omit [Libc] in
/-- A tick gives a frame to `sendall` only over an open socket, which it leaves open exactly when `sendall` returns. -/
theorem sendTick_offers {payload : CmdPayload}
    (out : (bridge.sendTick config now intent snapshot true).2 = some payload) (sends : Bool) :
    bridge.socketOpen = true ∧ (bridge.sendTick config now intent snapshot sends).1.socketOpen = sends ∧
      payload.seq = bridge.shared.cmdNextSeq ∧
      1 ≤ (dumps (.obj payload.members)).length ∧ (dumps (.obj payload.members)).length < 2 ^ 32 := by
  unfold CmdBridge.sendTick at out ⊢
  dsimp only at out ⊢
  split at out
  · cases out
  next other reason built =>
    split at out
    · cases out
    · cases out
    next frame framed =>
      by_cases opened : bridge.socketOpen = true
      · rw [if_neg (not_not_intro opened), if_neg (not_not_intro rfl)] at out
        obtain rfl := Option.some.inj out
        have number := (buildCmdPayload_ok built).1.1
        have sizes : 1 ≤ (dumps (.obj other.members)).length ∧ (dumps (.obj other.members)).length < 2 ^ 32 := by
          unfold frameCmdPayload at framed
          dsimp only at framed
          split_ifs at framed with range long
          exact ⟨range.1, not_le.1 long⟩
        refine ⟨opened, ?_, number, sizes⟩
        rw [if_neg (not_not_intro opened)]
        cases sends with
        | true => exact opened
        | false => rfl
      · rw [if_pos opened] at out
        cases out

omit [Libc] in
theorem loopStep_next (event : LoopEvent) :
    (bridge.loopStep config ingest event).shared.cmdNextSeq =
      if (bridge.tickSeq event).isSome then nextSeq bridge.shared.cmdNextSeq else bridge.shared.cmdNextSeq := by
  cases event with
  | postIntent request updateMonotonic =>
    unfold CmdBridge.loopStep
    dsimp only
    split <;> rfl
  | telDatagram data rxMonotonic => rfl
  | visDatagram data rxMonotonic => rfl
  | attemptConnect now connects =>
    change _ = bridge.shared.cmdNextSeq
    unfold CmdBridge.loopStep CmdBridge.step CmdBridge.act
    dsimp only
    split
    · unfold CmdBridge.attemptConnect
      split_ifs <;> rfl
    · rfl
  | getLatestIntent now =>
    unfold CmdBridge.loopStep CmdBridge.step CmdBridge.act
    dsimp only
    split <;> rfl
  | getLatestVis =>
    unfold CmdBridge.loopStep CmdBridge.step CmdBridge.act
    dsimp only
    split <;> rfl
  | getVisAge sends =>
    unfold CmdBridge.loopStep CmdBridge.step CmdBridge.act CmdBridge.tickSeq
    dsimp only
    cases stage : bridge.stage with
    | readVis now intent snapshot receivedAt => exact sendTick_next sends
    | idle => rfl
    | readIntent now intent => rfl
    | crashed => rfl

variable (ingest) in
omit [Libc] in
theorem offered_some {event : LoopEvent} {payload : CmdPayload} {sends : Bool}
    (out : offered config bridge event = some (payload, sends)) :
    (bridge.tickSeq event).isSome = true ∧ bridge.socketOpen = true ∧
      (bridge.loopStep config ingest event).socketOpen = sends ∧ payload.seq = bridge.shared.cmdNextSeq ∧
      1 ≤ (dumps (.obj payload.members)).length ∧ (dumps (.obj payload.members)).length < 2 ^ 32 := by
  cases event with
  | getVisAge answer =>
    obtain ⟨sent, given, same⟩ := Option.map_eq_some_iff.1 out
    obtain ⟨rfl, rfl⟩ := Prod.mk.inj same
    unfold CmdBridge.loopStep CmdBridge.step CmdBridge.tickSeq
    dsimp only
    obtain ⟨now, intent, snapshot, receivedAt, stage, -⟩ := CmdBridge.sent_cases given
    unfold CmdBridge.sent at given
    rw [CmdBridge.act_getVisAge config stage] at given ⊢
    rw [stage]
    exact ⟨rfl, sendTick_offers given answer⟩
  | postIntent _ _ | telDatagram _ _ | visDatagram _ _ | attemptConnect _ _ | getLatestIntent _ | getLatestVis =>
    cases out

end bridge

end CmdPath

/-! ## The invariant -/

/-- An accepted frame carries the number of its payload. -/
theorem Offer.frame_seq {offer : Offer} {frame : CommandFrame} (parsed : offer.frame = some frame) :
    frame.seq = offer.payload.seq := by
  unfold Offer.frame Offer.json at parsed
  rw [parseCmdFrame_dumps] at parsed
  obtain ⟨finite, seqIn, -⟩ := readCmdFrame_header parsed
  obtain ⟨-, seqLookup, -, -⟩ := lookup_header offer.payload finite
  unfold readCmdFrame at parsed
  simp only [Option.bind_eq_bind] at parsed
  obtain ⟨type, -, parsed⟩ := Option.bind_eq_some_iff.1 parsed
  split_ifs at parsed
  obtain ⟨seqToken, seqFound, parsed⟩ := Option.bind_eq_some_iff.1 parsed
  obtain ⟨_, -, parsed⟩ := Option.bind_eq_some_iff.1 parsed
  obtain ⟨_, -, parsed⟩ := Option.bind_eq_some_iff.1 parsed
  obtain ⟨seq, seqRead, parsed⟩ := Option.bind_eq_some_iff.1 parsed
  obtain ⟨_, -, parsed⟩ := Option.bind_eq_some_iff.1 parsed
  obtain ⟨_, -, parsed⟩ := Option.bind_eq_some_iff.1 parsed
  obtain ⟨_, -, parsed⟩ := Option.bind_eq_some_iff.1 parsed
  obtain ⟨_, -, parsed⟩ := Option.bind_eq_some_iff.1 parsed
  rw [numberUnder, seqLookup, Option.bind_some] at seqFound
  cases seqFound
  rw [parseIntLike_ofInt, if_pos seqIn] at seqRead
  cases seqRead
  cases parsed
  rfl

namespace Channel
variable (channel : Channel)

omit [Libc] in
/-- All that was offered has been written. -/
def Whole : Prop := channel.written = (channel.offers.map fun offer => frameBytes offer.json).flatten

omit [Libc] in
/-- What holds of every connection. -/
structure Sound : Prop where
  sizes : ∀ offer ∈ channel.offers, 1 ≤ offer.json.length ∧ offer.json.length < 2 ^ 32
  written : channel.written <+: (channel.offers.map fun offer => frameBytes offer.json).flatten
  arriving : Arriving channel.arrived
  arrived : channel.arrived.flatten <+: channel.written
  published : channel.published ≤ channel.offers.length

variable {channel}

namespace Sound

omit [Libc] in
theorem empty : Channel.Sound {} where
  sizes := by simp
  written := List.nil_prefix
  arriving := by simp [Arriving]
  arrived := List.nil_prefix
  published := le_rfl

omit [Libc] in
/-- The payload that is read after `n` others is the one that was offered after `n` others. -/
theorem read (sound : channel.Sound) {n : ℕ} {json : Text}
    (found : (readFrames tcpMaxFrameBytes channel.arrived)[n]? = some json) :
    ∃ offer, channel.offers[n]? = some offer ∧ offer.json = json := by
  have sizes : ∀ raw ∈ channel.offers.map Offer.json, 1 ≤ raw.length ∧ raw.length < 2 ^ 32 := by
    intro raw member
    obtain ⟨offer, known, rfl⟩ := List.mem_map.1 member
    exact sound.sizes offer known
  have stream : channel.arrived.flatten <+: ((channel.offers.map Offer.json).map frameBytes).flatten := by
    rw [List.map_map]
    exact sound.arrived.trans sound.written
  have bound : tcpMaxFrameBytes < 2 ^ 32 := by decide
  obtain ⟨more, initial⟩ := readFrames_initial bound sizes sound.arriving stream
  obtain ⟨within, -⟩ := List.getElem?_eq_some_iff.1 found
  have same : (channel.offers.map Offer.json)[n]? = some json := by
    rw [← initial, List.getElem?_append_left within, found]
  rw [List.getElem?_map] at same
  exact Option.map_eq_some_iff.1 same

omit [Libc] in
theorem recv (sound : channel.Sound) {piece : Text} (nonempty : piece ≠ [])
    (inside : channel.arrived.flatten ++ piece <+: channel.written) :
    Channel.Sound { channel with arrived := channel.arrived ++ [piece] } where
  sizes := sound.sizes
  written := sound.written
  arriving := List.forall_mem_append.2 ⟨sound.arriving, List.forall_mem_singleton.2 nonempty⟩
  arrived := by rwa [List.flatten_append, List.flatten_singleton]
  published := sound.published

omit [Libc] in
theorem publish (sound : channel.Sound) (short : channel.published < channel.offers.length) :
    Channel.Sound { channel with published := channel.published + 1 } where
  sizes := sound.sizes
  written := sound.written
  arriving := sound.arriving
  arrived := sound.arrived
  published := short

omit [Libc] in
/-- A frame is offered behind frames that were written as a whole, and some or all of it is written. -/
theorem send (sound : channel.Sound) (whole : channel.Whole) {offer : Offer} {part : Text}
    (begun : part <+: frameBytes offer.json) (sizes : 1 ≤ offer.json.length ∧ offer.json.length < 2 ^ 32) :
    Channel.Sound { channel with offers := channel.offers ++ [offer], written := channel.written ++ part } where
  sizes := List.forall_mem_append.2 ⟨sound.sizes, List.forall_mem_singleton.2 sizes⟩
  written := by
    rw [List.map_append, List.flatten_append, ← whole, List.map_singleton, List.flatten_singleton]
    exact (List.prefix_append_right_inj _).2 begun
  arriving := sound.arriving
  arrived := sound.arrived.trans (List.prefix_append _ _)
  published := by
    rw [List.length_append]
    exact Nat.le_add_right_of_le sound.published

end Sound

omit [Libc] in
theorem Whole.send (whole : channel.Whole) (offer : Offer) :
    Channel.Whole
      { channel with
        offers := channel.offers ++ [offer]
        written := channel.written ++ frameBytes offer.json } := by
  unfold Whole at whole ⊢
  rw [List.map_append, List.flatten_append, ← whole, List.map_singleton, List.flatten_singleton]

end Channel

omit [Libc] in
/-- The connections: `opened` have been made, the receive thread is at `serving`, and the backend's socket is the last
of them while it is open. -/
structure Connections (opened serving : ℕ) (socketOpen : Bool) (channel : ℕ → Channel) : Prop where
  channels : ∀ i, (channel i).Sound
  unopened : ∀ i, opened ≤ i → channel i = {}
  unserved : ∀ i, serving < i → (channel i).published = 0
  connected : socketOpen = true → 0 < opened ∧ (channel (opened - 1)).Whole

namespace Connections
variable {opened serving : ℕ} {socketOpen : Bool} {channel : ℕ → Channel}
  (connections : Connections opened serving socketOpen channel)
include connections

omit [Libc] in
/-- One of the connections made changes. -/
theorem update {i : ℕ} (made : i < opened) {changed : Channel} (sound : changed.Sound)
    (unserved : serving < i → changed.published = 0) {stillOpen : Bool}
    (whole : stillOpen = true → socketOpen = true ∧ ((channel i).Whole → changed.Whole)) :
    Connections opened serving stillOpen (Function.update channel i changed) where
  channels j := by
    by_cases here : j = i
    · rw [here, Function.update_self]
      exact sound
    · rw [Function.update_of_ne here]
      exact connections.channels j
  unopened j beyond := by
    rw [Function.update_of_ne (by omega)]
    exact connections.unopened j beyond
  unserved j later := by
    by_cases here : j = i
    · rw [here, Function.update_self]
      exact unserved (here ▸ later)
    · rw [Function.update_of_ne here]
      exact connections.unserved j later
  connected isOpen := by
    obtain ⟨wasOpen, kept⟩ := whole isOpen
    obtain ⟨any, last⟩ := connections.connected wasOpen
    refine ⟨any, ?_⟩
    by_cases here : opened - 1 = i
    · rw [here, Function.update_self]
      exact kept (here ▸ last)
    · rwa [Function.update_of_ne here]

omit [Libc] in
theorem connect (socketOpen : Bool) : Connections (opened + 1) serving socketOpen channel where
  channels := connections.channels
  unopened i beyond := connections.unopened i (Nat.le_of_succ_le beyond)
  unserved := connections.unserved
  connected _ := by
    rw [Nat.add_sub_cancel, connections.unopened opened le_rfl]
    exact ⟨Nat.succ_pos _, rfl⟩

omit [Libc] in
theorem next : Connections opened (serving + 1) socketOpen channel where
  channels := connections.channels
  unopened := connections.unopened
  unserved i later := connections.unserved i (Nat.lt_of_succ_lt later)
  connected := connections.connected

omit [Libc] in
theorem still {stillOpen : Bool} (kept : stillOpen = true → socketOpen = true) :
    Connections opened serving stillOpen channel where
  channels := connections.channels
  unopened := connections.unopened
  unserved := connections.unserved
  connected isOpen := connections.connected (kept isOpen)

end Connections

omit [Fpu] [FloatRepr] [Libc] in
/-- Offers in the order of their ticks, of which there have been `ticks`, numbered on the ring from `start`. -/
structure Offered (start : ℤ) (ticks : ℕ) (offers : List Offer) : Prop where
  ordered : offers.Pairwise fun first second => first.place < second.place
  recent : ∀ offer ∈ offers, offer.place < ticks
  numbered : ∀ offer ∈ offers, offer.payload.seq = (start + offer.place) % cmdSeqMod

namespace Offered
variable {start : ℤ} {ticks : ℕ} {offers : List Offer} (offered : Offered start ticks offers)
include offered

omit [Fpu] [FloatRepr] [Libc] in
theorem later (more : ℕ) : Offered start (ticks + more) offers where
  ordered := offered.ordered
  recent offer member := Nat.lt_add_right _ (offered.recent offer member)
  numbered := offered.numbered

omit [Fpu] [FloatRepr] [Libc] in
theorem append {payload : CmdPayload} (number : payload.seq = (start + ticks) % cmdSeqMod) :
    Offered start (ticks + 1) (offers ++ [{ place := ticks, payload }]) where
  ordered := by
    refine List.pairwise_append.2 ⟨offered.ordered, List.pairwise_singleton _ _, ?_⟩
    intro other member last single
    rw [List.mem_singleton.1 single]
    exact offered.recent other member
  recent := by
    rw [List.forall_mem_append, List.forall_mem_singleton]
    exact ⟨fun other member => Nat.lt_succ_of_lt (offered.recent other member), Nat.lt_succ_self _⟩
  numbered := by
    rw [List.forall_mem_append, List.forall_mem_singleton]
    exact ⟨offered.numbered, number⟩

omit [Fpu] [FloatRepr] [Libc] in
theorem sublist {chosen : List Offer} (part : chosen.Sublist offers) : Offered start ticks chosen where
  ordered := offered.ordered.sublist part
  recent offer member := offered.recent offer (part.subset member)
  numbered offer member := offered.numbered offer (part.subset member)

end Offered

/-- What the flight controller has made of the offers that it `got`. -/
structure Received (got : List Offer) (read : List Text) (mail : Option CommandFrame) (applied : List CommandFrame)
    (lastCmdSeq : Option ℤ) : Prop where
  read : read = got.map Offer.json
  mail : mail = (got.filterMap Offer.frame).getLast?
  applied : ∃ used : List Offer, applied.map some = used.map Offer.frame ∧ (∀ offer ∈ used, offer ∈ got) ∧
    used.Pairwise (fun first second => first.place < second.place) ∧
    lastCmdSeq = used.getLast?.map fun offer => offer.payload.seq

/-! ### What the loop makes of the frame in the mailbox -/

omit [Fpu] [FloatRepr] [Libc] in
/-- The first frame is accepted. -/
theorem accepted_first {loop : MainLoop} (none : loop.lastCmdSeq = none) {frame : CommandFrame}
    (inRange : 0 ≤ frame.seq ∧ frame.seq ≤ cmdSeqMax) : (loop.accepted (some frame)).isSome = true := by
  have accepts : loop.accepts frame = true := by
    unfold MainLoop.accepts MainLoop.seqInRange
    rw [none, Bool.and_true, Bool.and_eq_true, decide_eq_true_eq, decide_eq_true_eq]
    exact inRange
  rw [MainLoop.accepted, Option.filter_some, if_pos accepts]
  rfl

/-- Every offer that was applied is a frame. -/
theorem frames_of_applied {used : List Offer} {applied : List CommandFrame}
    (same : applied.map some = used.map Offer.frame) : ∀ other ∈ used, other.frame.isSome = true := by
  intro other known
  have listed := List.mem_map_of_mem (f := Offer.frame) known
  rw [← same] at listed
  obtain ⟨frame, -, own⟩ := List.mem_map.1 listed
  rw [← own]
  rfl

section mailbox
variable {start : ℤ} {ticks : ℕ} {got : List Offer} (offered : Offered start ticks got) {loop : MainLoop}

include offered in
/-- Of two offers that were read the one in a later place is ahead, unless half the ring lies between. -/
theorem Offered.accepted_iff {last offer : Offer} (lastRead : last ∈ got) (offerRead : offer ∈ got)
    {frame : CommandFrame} (parsed : offer.frame = some frame) (applied : loop.lastCmdSeq = some last.payload.seq) :
    (loop.accepted (some frame)).isSome = true ↔ Forward (offer.place - last.place) := by
  have seq := Offer.frame_seq parsed
  rw [offered.numbered offer offerRead] at seq
  rw [offered.numbered last lastRead] at applied
  have inRange : 0 ≤ frame.seq ∧ frame.seq ≤ cmdSeqMax := by
    rw [seq]
    exact emod_range _
  rw [accepted_seqAdvances_iff applied inRange, seq, forward_mod, add_sub_add_left_eq_sub]

include offered in
/-- What has been applied lies strictly before an offer that is accepted. -/
theorem Offered.behind {used : List Offer} (member : ∀ offer ∈ used, offer ∈ got)
    (increasing : used.Pairwise fun first second => first.place < second.place)
    (last : loop.lastCmdSeq = used.getLast?.map fun offer => offer.payload.seq)
    (isFrame : ∀ other ∈ used, other.frame.isSome = true) {offer : Offer} (offerRead : offer ∈ got)
    {frame : CommandFrame} (parsed : offer.frame = some frame)
    (latest : ∀ other ∈ got, other.frame.isSome = true → other.place ≤ offer.place)
    (accepted : (loop.accepted (some frame)).isSome = true) : ∀ other ∈ used, other.place < offer.place := by
  rcases List.eq_nil_or_concat' used with rfl | ⟨earlier, final, rfl⟩
  · intro other none
    cases none
  · rw [List.forall_mem_append, List.forall_mem_singleton] at member isFrame
    rw [List.getLast?_concat] at last
    have ahead := (offered.accepted_iff member.2 offerRead parsed last).1 accepted
    have notLater := latest final member.2 isFrame.2
    have strictly : final.place < offer.place := by
      unfold Forward at ahead
      by_contra notBefore
      have same : (offer.place : ℤ) - final.place = 0 := by omega
      rw [same] at ahead
      exact absurd ahead (by decide)
    have ordered := (List.pairwise_append.1 increasing).2.2
    refine List.forall_mem_append.2 ⟨?_, List.forall_mem_singleton.2 strictly⟩
    intro other known
    exact (ordered other known final (List.mem_singleton_self final)).trans strictly

namespace Received
variable {read : List Text} {server : CommandServer} {applied : List CommandFrame}

include offered in
/-- The offer in the mailbox is the last of those read that is a frame. -/
theorem looked {mail : Option CommandFrame} {lastCmdSeq : Option ℤ}
    (received : Received got read mail applied lastCmdSeq) {frame : CommandFrame} (holds : mail = some frame) :
    ∃ offer ∈ got, offer.frame = some frame ∧
      ∀ other ∈ got, other.frame.isSome = true → other.place ≤ offer.place := by
  rw [received.mail] at holds
  obtain ⟨frames, ends⟩ := List.getLast?_eq_some_iff.1 holds
  obtain ⟨before, behind, split, -, later⟩ := List.filterMap_eq_append_iff.1 ends
  obtain ⟨skipped, offer, after, own, -, parsed, none⟩ := List.filterMap_eq_cons_iff.1 later
  have whole : got = (before ++ skipped) ++ offer :: after := by rw [split, own, List.append_assoc]
  have ordered := List.pairwise_append.1 (whole ▸ offered.ordered)
  rw [whole]
  refine ⟨offer, List.mem_append_right _ List.mem_cons_self, parsed, ?_⟩
  intro other member isFrame
  rcases List.mem_append.1 member with earlier | rest
  · exact (ordered.2.2 other earlier offer List.mem_cons_self).le
  · rcases List.mem_cons.1 rest with rfl | follows
    · exact le_rfl
    · rw [List.filterMap_eq_nil_iff.1 none other follows] at isFrame
      cases isFrame

/-- The receive thread publishes a payload. -/
theorem publish {lastCmdSeq : Option ℤ} (received : Received got read server.latestCommand applied lastCmdSeq)
    (offer : Offer) (recvTime : Double) :
    Received (got ++ [offer]) (read ++ [offer.json]) (server.receive offer.json recvTime).latestCommand applied
      lastCmdSeq where
  read := by
    rw [List.map_append, received.read]
    rfl
  mail := by
    rw [Chain.latestCommand_receive, List.filterMap_append, received.mail]
    change offer.frame.or _ = _
    rw [List.filterMap_cons]
    cases parsed : offer.frame with
    | none => exact (congrArg List.getLast? (List.append_nil _)).symm
    | some frame => exact List.getLast?_concat.symm
  applied := by
    obtain ⟨used, same, member, increasing, last⟩ := received.applied
    exact ⟨used, same, fun other known => List.mem_append_left _ (member other known), increasing, last⟩

include offered in
/-- A turn applies the frame in the mailbox, or passes it over. -/
theorem turn (received : Received got read server.latestCommand applied loop.lastCmdSeq) (r : Readings) :
    Received got read server.latestCommand (applied ++ (loop.accepted server.latestCommand).toList)
      (loop.step { r with latest := server.latestCommand }).lastCmdSeq := by
  refine ⟨received.read, received.mail, ?_⟩
  obtain ⟨used, same, member, increasing, last⟩ := received.applied
  rw [step_lastCmdSeq]
  dsimp only
  cases accepted : loop.accepted server.latestCommand with
  | none =>
    refine ⟨used, ?_, member, increasing, last⟩
    rw [Option.toList_none, List.append_nil]
    exact same
  | some frame =>
    obtain ⟨offer, offerRead, parsed, latest⟩ := received.looked offered (accepted_mem accepted)
    have isFrame := frames_of_applied same
    refine ⟨used ++ [offer], ?_, ?_, ?_, ?_⟩
    · rw [List.map_append, List.map_append, same, List.map_singleton, parsed]
      rfl
    · exact List.forall_mem_append.2 ⟨member, List.forall_mem_singleton.2 offerRead⟩
    · refine List.pairwise_append.2 ⟨increasing, List.pairwise_singleton _ _, ?_⟩
      intro other known own single
      obtain rfl := List.mem_singleton.1 single
      have isSome : (loop.accepted (some frame)).isSome = true := by
        rw [← accepted_mem accepted, accepted]
        rfl
      exact offered.behind member increasing last isFrame offerRead parsed latest isSome other known
    · rw [List.getLast?_concat]
      exact congrArg some (Offer.frame_seq parsed)

end Received
end mailbox

/-- What every step finds. `start` is the number of the first tick before it is put on the ring. -/
structure CmdPath.Sound (start : ℤ) (path : CmdPath) : Prop where
  next : path.bridge.shared.cmdNextSeq = (start + path.ticks) % cmdSeqMod
  connections : Connections path.opened path.serving path.bridge.socketOpen path.channel
  ordered : Offered start path.ticks path.offers
  received : Received path.got path.read path.server.latestCommand path.applied path.loop.lastCmdSeq

namespace CmdPath
variable {config : BridgeConfig} {ingest : IngestConfig} {start : ℤ} {path : CmdPath}

omit [Fpu] [FloatRepr] [Libc] in
theorem got_sublist (path : CmdPath) : path.got.Sublist path.offers :=
  List.Sublist.flatMap_right _ fun _ _ => List.take_sublist _ _

omit [Fpu] [FloatRepr] [Libc] in
theorem offers_kept {channel : ℕ → Channel} (kept : ∀ i, (channel i).offers = (path.channel i).offers) :
    { path with channel }.offers = path.offers := List.flatMap_congr fun i _ => kept i

omit [Fpu] [FloatRepr] [Libc] in
theorem got_kept {channel : ℕ → Channel} (kept : ∀ i, (channel i).offers = (path.channel i).offers)
    (published : ∀ i, (channel i).published = (path.channel i).published) : { path with channel }.got = path.got := by
  apply List.flatMap_congr
  intro i _
  dsimp only
  rw [kept, published]

omit [Fpu] [FloatRepr] [Libc] in
/-- A connection that has just been made adds nothing yet. -/
theorem lists_opened (fresh : path.channel path.opened = {}) :
    { path with opened := path.opened + 1 }.offers = path.offers ∧
      { path with opened := path.opened + 1 }.got = path.got := by
  unfold offers got
  dsimp only
  rw [List.range_succ, List.flatMap_append, List.flatMap_append, List.flatMap_singleton, List.flatMap_singleton, fresh]
  exact ⟨List.append_nil _, List.append_nil _⟩

namespace Sound

/-! ### The receive thread and the loop -/

theorem gotten (sound : path.Sound start) : Offered start path.ticks path.got := sound.ordered.sublist path.got_sublist

/-- The receive thread is at a connection that has been made, if there is anything on it. -/
theorem made (sound : path.Sound start) (something : path.channel path.serving ≠ {}) : path.serving < path.opened := by
  by_contra unopened
  exact something (sound.connections.unopened _ (not_lt.1 unopened))

theorem recv (sound : path.Sound start) (piece : Text) : (path.step config ingest (.recv piece)).Sound start := by
  unfold step
  dsimp only
  split_ifs with arrives
  · obtain ⟨nonempty, inside⟩ := arrives
    have current := sound.connections.channels path.serving
    have made : path.serving < path.opened := by
      refine sound.made fun empty => ?_
      rw [empty] at inside
      exact nonempty (List.prefix_nil.1 inside)
    set channel := Function.update path.channel path.serving
      { path.channel path.serving with arrived := (path.channel path.serving).arrived ++ [piece] }
    have kept : ∀ i, (channel i).offers = (path.channel i).offers := apply_update_kept Channel.offers rfl
    have published : ∀ i, (channel i).published = (path.channel i).published :=
      apply_update_kept Channel.published rfl
    refine ⟨sound.next, ?_, (offers_kept kept).symm ▸ sound.ordered, (got_kept kept published).symm ▸ sound.received⟩
    exact sound.connections.update made (current.recv nonempty inside)
      (fun later => absurd later (lt_irrefl _)) fun isOpen => ⟨isOpen, id⟩
  · exact sound

theorem hangUp (sound : path.Sound start) : (path.step config ingest .hangUp).Sound start := by
  unfold step
  dsimp only
  split_ifs
  · exact ⟨sound.next, sound.connections.next, sound.ordered, sound.received⟩
  · exact sound

theorem publish (sound : path.Sound start) (recvTime : Double) :
    (path.step config ingest (.publish recvTime)).Sound start := by
  unfold step
  dsimp only
  split
  · exact sound
  next json found =>
    have current := sound.connections.channels path.serving
    obtain ⟨offer, present, rfl⟩ := current.read found
    have made : path.serving < path.opened := by
      refine sound.made fun empty => ?_
      rw [empty] at present
      cases present
    have short : (path.channel path.serving).published < (path.channel path.serving).offers.length :=
      (List.getElem?_eq_some_iff.1 present).1
    set channel := Function.update path.channel path.serving
      { path.channel path.serving with published := (path.channel path.serving).published + 1 } with updated
    have kept : ∀ i, (channel i).offers = (path.channel i).offers := apply_update_kept Channel.offers rfl
    have got : ({ path with channel } : CmdPath).got = path.got ++ [offer] := by
      apply flatMap_range_grow made
      · simp only [kept]
        rw [updated, Function.update_self, List.take_add_one, present]
        rfl
      · intro j before
        dsimp only
        rw [updated, Function.update_of_ne before.ne]
      · intro j later
        dsimp only
        rw [updated, Function.update_of_ne later.ne', sound.connections.unserved j later]
        exact ⟨List.take_zero, List.take_zero⟩
    refine ⟨sound.next, ?_, (offers_kept kept).symm ▸ sound.ordered, got.symm ▸ sound.received.publish offer recvTime⟩
    exact sound.connections.update made (current.publish short)
      (fun later => absurd later (lt_irrefl _)) fun isOpen => ⟨isOpen, id⟩

theorem turn (sound : path.Sound start) (r : Readings) : (path.step config ingest (.turn r)).Sound start :=
  ⟨sound.next, sound.connections, sound.ordered, sound.received.turn sound.gotten r⟩

/-! ### The backend -/

variable (config ingest) in
theorem next_after (sound : path.Sound start) (event : LoopEvent) :
    (path.bridge.loopStep config ingest event).shared.cmdNextSeq =
      (start + (path.ticks + (path.bridge.tickSeq event).toList.length : ℕ)) % cmdSeqMod := by
  rw [loopStep_next, sound.next]
  cases path.bridge.tickSeq event with
  | none => rfl
  | some seq =>
    rw [Option.isSome_some, if_pos rfl, nextSeq_emod, add_assoc]
    rfl

/-- A step that gives nothing to `sendall`. -/
theorem quiet (sound : path.Sound start) {event : LoopEvent} (silent : offered config path.bridge event = none)
    (taken : ℕ) : (path.step config ingest (.backend event taken)).Sound start := by
  have next := sound.next_after config ingest event
  unfold step
  dsimp only
  rw [silent]
  dsimp only
  by_cases opens : ((path.bridge.loopStep config ingest event).socketOpen && !path.bridge.socketOpen) = true
  · rw [if_pos opens]
    obtain ⟨offers, got⟩ := lists_opened (sound.connections.unopened path.opened le_rfl)
    exact ⟨next, sound.connections.connect _, offers.symm ▸ sound.ordered.later _, got.symm ▸ sound.received⟩
  · rw [if_neg opens]
    refine ⟨next, sound.connections.still ?_, sound.ordered.later _, sound.received⟩
    intro isOpen
    by_contra closed
    rw [Bool.not_eq_true] at closed
    rw [isOpen, closed] at opens
    exact opens rfl

/-- A tick that gives a frame to `sendall`. -/
theorem send (sound : path.Sound start) {event : LoopEvent} {payload : CmdPayload} {sends : Bool}
    (out : offered config path.bridge event = some (payload, sends)) (taken : ℕ) :
    (path.step config ingest (.backend event taken)).Sound start := by
  have next := sound.next_after config ingest event
  obtain ⟨ticks, isOpen, after, number, sizes⟩ := offered_some ingest out
  have one : (path.bridge.tickSeq event).toList.length = 1 := by
    obtain ⟨seq, own⟩ := Option.isSome_iff_exists.1 ticks
    rw [own]
    rfl
  obtain ⟨opened, whole⟩ := sound.connections.connected isOpen
  have made : path.opened - 1 < path.opened := Nat.sub_lt opened Nat.one_pos
  have current := sound.connections.channels (path.opened - 1)
  rw [one] at next
  unfold step
  dsimp only
  rw [out, one, isOpen, Bool.not_true, Bool.and_false, if_neg Bool.false_ne_true, Nat.add_zero]
  dsimp only
  set offer : Offer := { place := path.ticks, payload }
  set part := if sends then frameBytes (dumps (.obj payload.members))
    else (frameBytes (dumps (.obj payload.members))).take taken with partly
  set channel := Function.update path.channel (path.opened - 1)
    { path.channel (path.opened - 1) with
      offers := (path.channel (path.opened - 1)).offers ++ [offer]
      written := (path.channel (path.opened - 1)).written ++ part } with updated
  have published : ∀ i, (channel i).published = (path.channel i).published :=
    apply_update_kept Channel.published rfl
  have offers : ({ path with channel } : CmdPath).offers = path.offers ++ [offer] := by
    apply flatMap_range_grow made
    · dsimp only
      rw [updated, Function.update_self]
    · intro j before
      dsimp only
      rw [updated, Function.update_of_ne before.ne]
    · intro j later
      dsimp only
      rw [updated, Function.update_of_ne later.ne', sound.connections.unopened j (by omega)]
      exact ⟨rfl, rfl⟩
  have got : ({ path with channel } : CmdPath).got = path.got := by
    apply List.flatMap_congr
    intro i _
    dsimp only
    rw [published]
    by_cases here : i = path.opened - 1
    · rw [here, updated, Function.update_self]
      exact List.take_append_of_le_length current.published
    · rw [updated, Function.update_of_ne here]
  have begun : part <+: frameBytes offer.json := by
    rw [partly]
    split_ifs
    · exact List.prefix_rfl
    · exact List.take_prefix _ _
  refine ⟨next, ?_, offers.symm ▸ sound.ordered.append (number.trans sound.next), got.symm ▸ sound.received⟩
  refine sound.connections.update made (current.send whole begun sizes)
    (fun later => sound.connections.unserved _ later) fun stillOpen => ⟨isOpen, fun whole => ?_⟩
  have returns : sends = true := after.symm.trans stillOpen
  rw [partly, if_pos returns]
  exact whole.send offer

theorem backend (sound : path.Sound start) (event : LoopEvent) (taken : ℕ) :
    (path.step config ingest (.backend event taken)).Sound start := by
  cases out : offered config path.bridge event with
  | none => exact sound.quiet out taken
  | some given => exact sound.send out taken

theorem step (sound : path.Sound start) (event : CmdPathEvent) : (path.step config ingest event).Sound start := by
  cases event with
  | backend event taken => exact sound.backend event taken
  | recv piece => exact sound.recv piece
  | publish recvTime => exact sound.publish recvTime
  | hangUp => exact sound.hangUp
  | turn r => exact sound.turn r

end Sound

variable (config) in
theorem init_sound (hover : HoverEnv) (monotonic : Double) :
    (init config hover monotonic).Sound (SharedState.monotonicMillis monotonic) where
  next := by
    change SharedState.monotonicMillis monotonic % cmdSeqMod =
      (SharedState.monotonicMillis monotonic + (0 : ℕ)) % cmdSeqMod
    rw [Nat.cast_zero, add_zero]
  connections := ⟨fun _ => .empty, fun _ _ => rfl, fun _ _ => rfl, by simp [init]⟩
  ordered := ⟨List.Pairwise.nil, by simp [offers, init], by simp [offers, init]⟩
  received := ⟨rfl, rfl, [], rfl, by simp, List.Pairwise.nil, rfl⟩

omit [Fpu] [FloatRepr] [Libc] in
/-- Offers in the order of their places that are all among others in that order. -/
theorem sublist_of_increasing {used got : List Offer} (member : ∀ offer ∈ used, offer ∈ got)
    (increasing : used.Pairwise fun first second => first.place < second.place)
    (ordered : got.Pairwise fun first second => first.place < second.place) : used.Sublist got := by
  have antisymm : Std.Antisymm fun first second : Offer => first.place < second.place :=
    ⟨fun first second before behind => absurd before behind.asymm⟩
  have distinct : used.Nodup := increasing.imp fun before same => absurd (congrArg Offer.place same) before.ne
  exact List.sublist_of_subperm_of_pairwise (List.subperm_of_subset distinct member) increasing ordered

omit [Fpu] [FloatRepr] [Libc] in
theorem eq_of_place {got : List Offer} (ordered : got.Pairwise fun first second => first.place < second.place)
    {first second : Offer} (firstRead : first ∈ got) (secondRead : second ∈ got) (same : first.place = second.place) :
    first = second := by
  by_contra different
  have apart : got.Pairwise fun first second => first.place ≠ second.place := ordered.imp fun before => before.ne
  have symmetric : Std.Symm fun first second : Offer => first.place ≠ second.place := ⟨fun _ _ => Ne.symm⟩
  exact apart.forall firstRead secondRead different same

/-- A turn passes the frame in the mailbox over only if it is the one applied last or lies too far behind it. -/
theorem Sound.passed (sound : path.Sound start) {used : List Offer} (member : ∀ offer ∈ used, offer ∈ path.got)
    (isFrame : ∀ other ∈ used, other.frame.isSome = true)
    (last : path.loop.lastCmdSeq = used.getLast?.map fun offer => offer.payload.seq) {frame : CommandFrame}
    (mail : path.server.latestCommand = some frame) : ∃ mail ∈ path.got, mail.frame = some frame ∧
      ((path.loop.accepted (some frame)).isSome = true ∨
        ∃ last, used.getLast? = some last ∧ (last = mail ∨ last.place + 2 ^ 30 < mail.place)) := by
  obtain ⟨offer, offerRead, parsed, latest⟩ := sound.received.looked sound.gotten mail
  refine ⟨offer, offerRead, parsed, ?_⟩
  cases final : used.getLast? with
  | none =>
    rw [final] at last
    refine .inl (accepted_first last ?_)
    rw [Offer.frame_seq parsed, sound.gotten.numbered offer offerRead]
    exact emod_range _
  | some final' =>
    rw [final] at last
    have known := List.mem_of_getLast? final
    by_cases accepted : (path.loop.accepted (some frame)).isSome = true
    · exact .inl accepted
    · refine .inr ⟨final', rfl, ?_⟩
      rw [sound.gotten.accepted_iff (member _ known) offerRead parsed last] at accepted
      have notLater := latest final' (member _ known) (isFrame _ known)
      by_cases same : final'.place = offer.place
      · exact .inl (eq_of_place sound.gotten.ordered (member _ known) offerRead same)
      · unfold Forward cmdSeqHalf cmdSeqMod cmdSeqMax at accepted
        omega

/-- However connections are lost and made and wherever a send or a stream breaks off, the flight controller reads of
each connection an initial part of the payloads that were offered on it, in the order of their numbers; its mailbox
holds the last of them that is a frame; it applies frames of them in their order, none twice; and a turn passes the
frame in the mailbox over only if it is the one applied last, or came more than half the ring after it. -/
theorem commands_in_order (config : BridgeConfig) (ingest : IngestConfig) (hover : HoverEnv) (monotonic : Double)
    (events : List CmdPathEvent) :
    let path := events.foldl (CmdPath.step config ingest) (init config hover monotonic)
    path.read = path.got.map Offer.json ∧
      path.offers.Pairwise (fun first second => first.place < second.place) ∧
      (∀ offer ∈ path.offers,
        offer.payload.seq = (SharedState.monotonicMillis monotonic + offer.place) % cmdSeqMod) ∧
      path.server.latestCommand = (path.got.filterMap Offer.frame).getLast? ∧
      ∃ used : List Offer, used.Sublist path.got ∧ path.applied.map some = used.map Offer.frame ∧
        ∀ frame, path.server.latestCommand = some frame → ∃ mail ∈ path.got, mail.frame = some frame ∧
          ((path.loop.accepted (some frame)).isSome = true ∨
            ∃ last, used.getLast? = some last ∧ (last = mail ∨ last.place + 2 ^ 30 < mail.place)) := by
  intro path
  have sound : path.Sound (SharedState.monotonicMillis monotonic) :=
    foldl_invariant (CmdPath.Sound (SharedState.monotonicMillis monotonic)) (fun _ event sound => sound.step event) _ _
      (init_sound config hover monotonic)
  obtain ⟨used, applied, member, increasing, last⟩ := sound.received.applied
  refine ⟨sound.received.read, sound.ordered.ordered, sound.ordered.numbered, sound.received.mail, used, ?_, applied, ?_⟩
  · exact sublist_of_increasing member increasing sound.gotten.ordered
  · intro frame mail
    exact sound.passed member (frames_of_applied applied) last mail

end CmdPath
end AotDrone.Link
