import AotDrone.Backend.FrameServer
import AotDrone.Json.ReadDumps
import AotDrone.Lib.PrefixCode
import AotDrone.Lib.Replace
import AotDrone.Lib.Run

/-! The video stream (`video_hub.py`, `video_stream` of `app.py`): the hub with its viewers, their generators, and the
parts that they yield. -/

namespace AotDrone.Backend
open AotDrone.Lib AotDrone.Lib.Double AotDrone.Lib.Decimal AotDrone.Json

/-! ## The parts -/

/-- What comes before the body of a part. -/
def partHeader (boundary : String) (size : ℕ) : Bytes :=
  asciiBytes (("--" ++ boundary ++ "\r\nContent-Type: image/jpeg\r\nContent-Length: ").toList ++
    Nat.toDigits 10 size ++ "\r\n\r\n".toList)

/-- `make_mjpeg_part`. The boundary is ASCII, as that of every caller is; of another one `encode` raises. -/
def makeMjpegPart (boundary : String) (frameBytes : Bytes) : Bytes :=
  partHeader boundary frameBytes.length ++ frameBytes ++ asciiBytes "\r\n".toList

theorem asciiBytes_append (text text' : Text) : asciiBytes (text ++ text') = asciiBytes text ++ asciiBytes text' :=
  List.map_append

theorem digit_byte {c : Char} (digit : c.isDigit = true) : (UInt8.ofNat c.toNat).toNat = c.toNat := by
  have bounds := digit_bounds digit
  rw [UInt8.toNat_ofNat']
  omega

theorem asciiBytes_digits_injective : Function.Injective fun n => asciiBytes (Nat.toDigits 10 n) := by
  intro n m same
  have digits : ∀ k, ∀ c ∈ Nat.toDigits 10 k, c.isDigit = true :=
    fun k c member => Nat.isDigit_of_mem_toDigits (by decide) (by decide) member
  have back : ∀ k, ((asciiBytes (Nat.toDigits 10 k)).map UInt8.toNat) = (Nat.toDigits 10 k).map Char.toNat := by
    intro k
    unfold asciiBytes
    rw [List.map_map]
    exact List.map_congr_left fun c member => digit_byte (digits k c member)
  have codes : (Nat.toDigits 10 n).map Char.toNat = (Nat.toDigits 10 m).map Char.toNat := by
    rw [← back, ← back]
    exact congrArg _ same
  have texts : Nat.toDigits 10 n = Nat.toDigits 10 m :=
    List.map_injective_iff.2 (fun _ _ => Char.toNat_inj.1) codes
  rw [← Nat.ofDigitChars_ten_toDigits (n := n), texts, Nat.ofDigitChars_ten_toDigits]

theorem partHeader_prefixCode (boundary : String) : PrefixCode (partHeader boundary) := by
  have ended : PrefixCode fun n => asciiBytes (Nat.toDigits 10 n) ++ 13 :: asciiBytes "\n\r\n".toList := by
    apply PrefixCode.ended asciiBytes_digits_injective
    intro n member
    obtain ⟨c, own, same⟩ := List.mem_map.1 member
    have digit := Nat.isDigit_of_mem_toDigits (by decide) (by decide) own
    have value := congrArg UInt8.toNat same
    rw [digit_byte digit] at value
    have bounds := digit_bounds digit
    change c.toNat = 13 at value
    omega
  have code := ended.after (asciiBytes ("--" ++ boundary ++ "\r\nContent-Type: image/jpeg\r\nContent-Length: ").toList)
  have same : partHeader boundary = fun n =>
      asciiBytes ("--" ++ boundary ++ "\r\nContent-Type: image/jpeg\r\nContent-Length: ").toList ++
        (asciiBytes (Nat.toDigits 10 n) ++ 13 :: asciiBytes "\n\r\n".toList) := by
    ext n : 1
    unfold partHeader
    rw [asciiBytes_append, asciiBytes_append, List.append_assoc]
    rfl
  rwa [same]

theorem makeMjpegPart_prefixCode (boundary : String) : PrefixCode (makeMjpegPart boundary) :=
  (partHeader_prefixCode boundary).counted (asciiBytes "\r\n".toList)

/-- What a viewer has of a stream tells the frames of all of its parts, whatever the frames hold, be it a boundary. -/
theorem stream_tells_frames (boundary : String) (frames frames' : List Bytes) :
    frames.flatMap (makeMjpegPart boundary) <+: frames'.flatMap (makeMjpegPart boundary) ↔ frames <+: frames' :=
  (makeMjpegPart_prefixCode boundary).flatMap_initial frames frames'

/-! ## The hub -/

/-- The hub with what it counts of its viewers. -/
structure StreamHub extends VideoFrameHub where
  videoClients : ℕ := 0
  videoFpsEst : Double := 0
  lastServedMonotonic : Option Double := none
  framesServedTotal : ℕ := 0

namespace StreamHub

def run (hub : StreamHub) (call : HubCall) : StreamHub := { hub with toVideoFrameHub := call.run hub.toVideoFrameHub }

def registerClient (hub : StreamHub) : StreamHub := { hub with videoClients := hub.videoClients + 1 }

/-- `max(0, n - 1)`, as the subtraction of `ℕ` has it. -/
def unregisterClient (hub : StreamHub) : StreamHub := { hub with videoClients := hub.videoClients - 1 }

section
variable [Fpu]

def getFreshJpeg (hub : StreamHub) (maxAge now : Double) : Option Bytes :=
  match hub.latestJpeg, hub.lastRxMonotonic with
  | some latestJpeg, some lastRx => if maxAge < pyMax 0 (now - lastRx) then none else some latestJpeg
  | some _, none | none, _ => none

def recordFrameServed (hub : StreamHub) (now : Double) : StreamHub :=
  let served := { hub with lastServedMonotonic := some now, framesServedTotal := hub.framesServedTotal + 1 }
  match hub.lastServedMonotonic with
  | none => served
  | some prev =>
    let delta := now - prev
    if delta ≤ 0 then served
    else
      let instFps := 1 / delta
      if hub.videoFpsEst ≤ 0 then { served with videoFpsEst := instFps }
      else { served with videoFpsEst := 0.85 * hub.videoFpsEst + 0.15 * instFps }

theorem recordFrameServed_eq (hub : StreamHub) (now : Double) :
    (hub.recordFrameServed now).toVideoFrameHub = hub.toVideoFrameHub ∧
      (hub.recordFrameServed now).videoClients = hub.videoClients ∧
        (hub.recordFrameServed now).framesServedTotal = hub.framesServedTotal + 1 := by
  unfold recordFrameServed
  cases hub.lastServedMonotonic with
  | none => exact ⟨rfl, rfl, rfl⟩
  | some prev =>
    dsimp only
    split_ifs <;> exact ⟨rfl, rfl, rfl⟩

end
end StreamHub

/-! ## The generators -/

/-- `max_parts` of the query. -/
structure MaxParts where
  parts : ℕ
  least : 1 ≤ parts
  most : parts ≤ 1000

def readMaxParts (maxParts : ℤ) : Option MaxParts :=
  if range : 1 ≤ maxParts ∧ maxParts ≤ 1000 then
    some { parts := maxParts.toNat, least := by omega, most := by omega }
  else none

/-- A generator that has not begun, one that has yielded its last part, and one that is through. -/
inductive StreamStage where
  | created
  | yielded
  | done
  deriving DecidableEq

structure StreamClient where
  maxParts : Option MaxParts
  stage : StreamStage := .created
  emittedParts : ℕ := 0
  sent : List Bytes := []

/-- The runtime, the hub and the generator of each response there has been. -/
structure VideoServer where
  frameFresh : Double
  hub : StreamHub := {}
  clients : List StreamClient := []

inductive StreamEvent where
  | call (call : HubCall)
  /-- `GET /video` -/
  | get (maxParts : Option ℤ)
  /-- The response asks the generator for its next part. `synthetic` is what `_render_synthetic_frame` makes now, if it
  does not raise. -/
  | next (id : ℕ) (now : Double) (synthetic : Option Bytes)
  /-- The viewer is gone, be it during a yield or a sleep. -/
  | close (id : ℕ)

namespace VideoServer
variable [Fpu]

/-- The body of the loop up to its `yield`; what it raises ends the generator. -/
def emit (server : VideoServer) (id : ℕ) (client : StreamClient) (now : Double) (synthetic : Option Bytes) : VideoServer :=
  match (server.hub.getFreshJpeg server.frameFresh now).or synthetic with
  | none =>
    { server with hub := server.hub.unregisterClient, clients := server.clients.set id { client with stage := .done } }
  | some frame =>
    { server with
      hub := server.hub.recordFrameServed now
      clients := server.clients.set id
        { client with stage := .yielded, sent := client.sent ++ [makeMjpegPart "frame" frame] } }

def step (server : VideoServer) : StreamEvent → VideoServer
  | .call call => { server with hub := server.hub.run call }
  | .get maxParts =>
    match maxParts with
    | none => { server with clients := server.clients ++ [{ maxParts := none }] }
    | some maxParts =>
      match readMaxParts maxParts with
      | none => server
      | some maxParts => { server with clients := server.clients ++ [{ maxParts := some maxParts }] }
  | .next id now synthetic =>
    match server.clients[id]? with
    | none => server
    | some client =>
      match client.stage with
      | .created => { server with hub := server.hub.registerClient }.emit id client now synthetic
      | .yielded =>
        let client := { client with emittedParts := client.emittedParts + 1 }
        if client.maxParts.any fun maxParts => decide (maxParts.parts ≤ client.emittedParts) then
          { server with
            hub := server.hub.unregisterClient
            clients := server.clients.set id { client with stage := .done } }
        else server.emit id client now synthetic
      | .done => server
  | .close id =>
    match server.clients[id]? with
    | none => server
    | some client =>
      match client.stage with
      | .created => { server with clients := server.clients.set id { client with stage := .done } }
      | .yielded =>
        { server with
          hub := server.hub.unregisterClient
          clients := server.clients.set id { client with stage := .done } }
      | .done => server

def run (frameFresh : Double) (events : List StreamEvent) : VideoServer := events.foldl step { frameFresh }

end VideoServer

/-! ## What the viewers get -/

/-- The frame that an event stores. -/
def StreamEvent.upload? : StreamEvent → Option (Bytes × Double)
  | call (.setJpeg jpegBytes now) => some (jpegBytes, now)
  | call .recordBadFrame | get _ | next _ _ _ | close _ => none

/-- The latest frame, as long as it is fresh, or the synthetic one. -/
def frameAt [Fpu] (frameFresh : Double) (latest : Option (Bytes × Double)) (now : Double) (synthetic : Option Bytes) :
    Option Bytes :=
  (latest.filter fun upload => !decide (frameFresh < pyMax 0 (now - upload.2))).elim synthetic fun upload => some upload.1

namespace StreamClient

def streaming (client : StreamClient) : Bool := decide (client.stage = .yielded)

/-- How many parts a generator has yielded, and has counted. -/
def Counts (client : StreamClient) : Prop :=
  match client.stage with
  | .created => client.sent = [] ∧ client.emittedParts = 0
  | .yielded =>
    client.sent.length = client.emittedParts + 1 ∧ ∀ maxParts ∈ client.maxParts, client.emittedParts + 1 ≤ maxParts.parts
  | .done => ∀ maxParts ∈ client.maxParts, client.sent.length ≤ maxParts.parts

theorem Counts.atMost {client : StreamClient} (counts : client.Counts) (maxParts : MaxParts)
    (asked : client.maxParts = some maxParts) : client.sent.length ≤ maxParts.parts := by
  unfold Counts at counts
  cases stage : client.stage with
  | created =>
    rw [stage] at counts
    rw [counts.1]
    exact Nat.zero_le _
  | yielded =>
    rw [stage] at counts
    rw [counts.1]
    exact counts.2 maxParts asked
  | done =>
    rw [stage] at counts
    exact counts maxParts asked

end StreamClient

namespace VideoServer
variable {frameFresh : Double} {events : List StreamEvent} {server : VideoServer}

/-- The counters of the hub are those of the generators, and it holds the latest upload. -/
structure Accounts (frameFresh : Double) (events : List StreamEvent) (server : VideoServer) : Prop where
  fresh : server.frameFresh = frameFresh
  latest : server.hub.latestJpeg = (events.filterMap StreamEvent.upload?).getLast?.map Prod.fst ∧
    server.hub.lastRxMonotonic = (events.filterMap StreamEvent.upload?).getLast?.map Prod.snd
  videoClients : server.hub.videoClients = server.clients.countP StreamClient.streaming
  framesServed : server.hub.framesServedTotal = (server.clients.map (·.sent.length)).sum
  clients : ∀ client ∈ server.clients, client.Counts

theorem getFreshJpeg_or [Fpu] {latest : Option (Bytes × Double)} {hub : StreamHub} (jpeg : hub.latestJpeg = latest.map Prod.fst)
    (rx : hub.lastRxMonotonic = latest.map Prod.snd) (maxAge now : Double) (synthetic : Option Bytes) :
    (hub.getFreshJpeg maxAge now).or synthetic = frameAt maxAge latest now synthetic := by
  unfold StreamHub.getFreshJpeg frameAt
  rw [jpeg, rx]
  cases latest with
  | none => rfl
  | some upload =>
    by_cases old : maxAge < pyMax 0 (now - upload.2)
    · simp [Option.filter, old]
    · simp [Option.filter, old]

namespace Accounts

theorem start (frameFresh : Double) : Accounts frameFresh [] { frameFresh } := ⟨rfl, ⟨rfl, rfl⟩, rfl, rfl, nofun⟩

/-- The latest upload is the same after an event that is none. -/
theorem latest_later (accounts : Accounts frameFresh events server) {event : StreamEvent} (none : event.upload? = none) :
    server.hub.latestJpeg = ((events ++ [event]).filterMap StreamEvent.upload?).getLast?.map Prod.fst ∧
      server.hub.lastRxMonotonic = ((events ++ [event]).filterMap StreamEvent.upload?).getLast?.map Prod.snd := by
  rw [List.filterMap_append, List.filterMap_cons_none none, List.filterMap_nil, List.append_nil]
  exact accounts.latest

theorem idle (accounts : Accounts frameFresh events server) {event : StreamEvent} (none : event.upload? = none) :
    Accounts frameFresh (events ++ [event]) server :=
  ⟨accounts.fresh, accounts.latest_later none, accounts.videoClients, accounts.framesServed, accounts.clients⟩

theorem join (accounts : Accounts frameFresh events server) {event : StreamEvent} (none : event.upload? = none)
    (maxParts : Option MaxParts) :
    Accounts frameFresh (events ++ [event]) { server with clients := server.clients ++ [{ maxParts }] } := by
  refine ⟨accounts.fresh, accounts.latest_later none, ?_, ?_, ?_⟩
  · change server.hub.videoClients = (server.clients ++ _).countP _
    rw [accounts.videoClients, List.countP_append]
    rfl
  · change server.hub.framesServedTotal = ((server.clients ++ _).map _).sum
    rw [accounts.framesServed, List.map_append, List.sum_append]
    rfl
  · intro client member
    rcases List.mem_append.1 member with earlier | own
    · exact accounts.clients client earlier
    · rw [List.mem_singleton.1 own]
      exact ⟨rfl, rfl⟩

/-- One generator goes on, and the hub counts it. -/
theorem replace (accounts : Accounts frameFresh events server) {event : StreamEvent} (none : event.upload? = none)
    {id : ℕ} {client after : StreamClient} {hub : StreamHub} (present : server.clients[id]? = some client)
    (same : hub.toVideoFrameHub = server.hub.toVideoFrameHub)
    (videoClients : hub.videoClients + (if client.streaming then 1 else 0) =
      server.hub.videoClients + if after.streaming then 1 else 0)
    (framesServed : hub.framesServedTotal + client.sent.length = server.hub.framesServedTotal + after.sent.length)
    (counts : after.Counts) :
    Accounts frameFresh (events ++ [event]) { server with hub, clients := server.clients.set id after } := by
  refine ⟨accounts.fresh, ?_, ?_, ?_, ?_⟩
  · rw [same]
    exact accounts.latest_later none
  · have streaming := countP_set_present present after StreamClient.streaming
    have own := accounts.videoClients
    change hub.videoClients = (server.clients.set id after).countP StreamClient.streaming
    omega
  · have sums := sum_map_set present after fun client => client.sent.length
    have own := accounts.framesServed
    change hub.framesServedTotal = ((server.clients.set id after).map fun client => client.sent.length).sum
    omega
  · exact forall_mem_set accounts.clients counts

/-- A viewer that is streaming is counted. -/
theorem counted (accounts : Accounts frameFresh events server) {id : ℕ} {client : StreamClient}
    (present : server.clients[id]? = some client) (streaming : client.streaming = true) : 1 ≤ server.hub.videoClients := by
  rw [accounts.videoClients]
  exact List.countP_pos_iff.2 ⟨client, List.mem_of_getElem? present, streaming⟩

/-- A generator that has yielded ends. -/
theorem finish (accounts : Accounts frameFresh events server) {event : StreamEvent} (none : event.upload? = none)
    {id : ℕ} {client : StreamClient} (present : server.clients[id]? = some client) (stage : client.stage = .yielded)
    (emittedParts : ℕ) :
    Accounts frameFresh (events ++ [event])
      { server with
        hub := server.hub.unregisterClient
        clients := server.clients.set id { client with emittedParts, stage := .done } } := by
  have streaming : client.streaming = true := decide_eq_true stage
  have counted := accounts.counted present streaming
  have counts := accounts.clients client (List.mem_of_getElem? present)
  refine accounts.replace none present ?_ ?_ ?_ ?_
  · rfl
  · rw [if_pos streaming]
    exact Nat.sub_add_cancel counted
  · rfl
  · exact fun maxParts asked => counts.atMost maxParts asked

variable [Fpu]

theorem call (accounts : Accounts frameFresh events server) (call : HubCall) :
    Accounts frameFresh (events ++ [.call call]) (server.step (.call call)) := by
  refine ⟨accounts.fresh, ?_, ?_, ?_, accounts.clients⟩
  · cases call with
    | setJpeg jpegBytes now =>
      rw [List.filterMap_append]
      exact ⟨by simp [step, StreamHub.run, HubCall.run, VideoFrameHub.setJpeg, StreamEvent.upload?],
        by simp [step, StreamHub.run, HubCall.run, VideoFrameHub.setJpeg, StreamEvent.upload?]⟩
    | recordBadFrame => exact accounts.latest_later rfl
  · exact accounts.videoClients
  · exact accounts.framesServed

/-- The body of the loop, for a generator that is counted. -/
theorem emit (accounts : Accounts frameFresh events server) {id : ℕ} {client : StreamClient} {hub : StreamHub}
    {emittedParts : ℕ} (present : server.clients[id]? = some client)
    (same : hub.toVideoFrameHub = server.hub.toVideoFrameHub)
    (videoClients : hub.videoClients + (if client.streaming then 1 else 0) = server.hub.videoClients + 1)
    (framesServed : hub.framesServedTotal = server.hub.framesServedTotal)
    (counts : client.sent.length = emittedParts) (room : ∀ maxParts ∈ client.maxParts, emittedParts + 1 ≤ maxParts.parts)
    (now : Double) (synthetic : Option Bytes) :
    Accounts frameFresh (events ++ [.next id now synthetic])
      (({ server with hub } : VideoServer).emit id { client with emittedParts } now synthetic) := by
  have kept := accounts.clients client (List.mem_of_getElem? present)
  have latest : (hub.getFreshJpeg server.frameFresh now).or synthetic =
      frameAt frameFresh (events.filterMap StreamEvent.upload?).getLast? now synthetic := by
    rw [accounts.fresh]
    apply getFreshJpeg_or
    · rw [same]
      exact accounts.latest.1
    · rw [same]
      exact accounts.latest.2
  unfold VideoServer.emit
  dsimp only
  rw [latest]
  cases frame : frameAt frameFresh (events.filterMap StreamEvent.upload?).getLast? now synthetic with
  | none =>
    dsimp only
    refine accounts.replace rfl present ?_ ?_ ?_ ?_
    · exact same
    · change hub.videoClients - 1 + _ = server.hub.videoClients + 0
      cases streaming : client.streaming with
      | true =>
        have counted := accounts.counted present streaming
        rw [streaming, if_pos rfl] at videoClients
        rw [if_pos rfl]
        omega
      | false =>
        rw [streaming, if_neg Bool.false_ne_true] at videoClients
        rw [if_neg Bool.false_ne_true]
        omega
    · exact congrArg (· + _) framesServed
    · exact fun maxParts asked => kept.atMost maxParts asked
  | some frame' =>
    obtain ⟨store, clients, served⟩ := hub.recordFrameServed_eq now
    dsimp only
    refine accounts.replace rfl present (store.trans same) ?_ ?_ ?_
    · rw [clients]
      exact videoClients
    · rw [served, framesServed, List.length_append, Nat.add_right_comm, Nat.add_assoc]
      rfl
    · refine ⟨?_, room⟩
      rw [List.length_append, counts]
      rfl

theorem next (accounts : Accounts frameFresh events server) (id : ℕ) (now : Double) (synthetic : Option Bytes) :
    Accounts frameFresh (events ++ [.next id now synthetic]) (server.step (.next id now synthetic)) := by
  unfold step
  dsimp only
  cases present : server.clients[id]? with
  | none => exact accounts.idle rfl
  | some client =>
    have counts := accounts.clients client (List.mem_of_getElem? present)
    unfold StreamClient.Counts at counts
    dsimp only
    cases stage : client.stage with
    | done => exact accounts.idle rfl
    | created =>
      rw [stage] at counts
      have quiet : client.streaming = false := by
        unfold StreamClient.streaming
        rw [stage]
        rfl
      have room : ∀ maxParts ∈ client.maxParts, client.emittedParts + 1 ≤ maxParts.parts := by
        intro maxParts _
        rw [counts.2]
        exact maxParts.least
      have none : client.sent.length = client.emittedParts := by
        rw [counts.1, counts.2]
        rfl
      exact @emit _ _ _ _ accounts id client server.hub.registerClient client.emittedParts present rfl (by rw [quiet]; rfl)
        rfl none room now synthetic
    | yielded =>
      rw [stage] at counts
      have streaming : client.streaming = true := decide_eq_true stage
      dsimp only
      split_ifs with enough
      · exact accounts.finish rfl present stage (client.emittedParts + 1)
      · have room : ∀ maxParts ∈ client.maxParts, client.emittedParts + 1 + 1 ≤ maxParts.parts := by
          intro maxParts asked
          by_contra few
          apply enough
          rw [Option.mem_def.1 asked, Option.any_some, decide_eq_true_eq]
          omega
        exact accounts.emit present rfl (by rw [if_pos streaming]) rfl counts.1 room now synthetic

theorem close (accounts : Accounts frameFresh events server) (id : ℕ) :
    Accounts frameFresh (events ++ [.close id]) (server.step (.close id)) := by
  unfold step
  dsimp only
  cases present : server.clients[id]? with
  | none => exact accounts.idle rfl
  | some client =>
    dsimp only
    cases stage : client.stage with
    | done => exact accounts.idle rfl
    | yielded => exact accounts.finish rfl present stage client.emittedParts
    | created =>
      have kept := accounts.clients client (List.mem_of_getElem? present)
      refine accounts.replace rfl present ?_ ?_ ?_ ?_
      · rfl
      · have quiet : client.streaming = false := by
          unfold StreamClient.streaming
          rw [stage]
          rfl
        rw [quiet]
        rfl
      · rfl
      · exact fun maxParts asked => kept.atMost maxParts asked

theorem step (accounts : Accounts frameFresh events server) (event : StreamEvent) :
    Accounts frameFresh (events ++ [event]) (server.step event) := by
  cases event with
  | call call => exact accounts.call call
  | next id now synthetic => exact accounts.next id now synthetic
  | close id => exact accounts.close id
  | get maxParts =>
    unfold VideoServer.step
    cases maxParts with
    | none => exact accounts.join rfl none
    | some maxParts =>
      dsimp only
      cases readMaxParts maxParts with
      | none => exact accounts.idle rfl
      | some maxParts => exact accounts.join rfl (some maxParts)

theorem run (frameFresh : Double) (events : List StreamEvent) :
    Accounts frameFresh events (VideoServer.run frameFresh events) := by
  induction events using List.reverseRecOn with
  | nil => exact start frameFresh
  | append_singleton events event ih =>
    unfold VideoServer.run at ih ⊢
    rw [List.foldl_append]
    exact ih.step event

end Accounts

/-! ## What is sent at which event -/

/-- The parts of a viewer. -/
def sentTo (server : VideoServer) (id : ℕ) : List Bytes := (server.clients[id]?.map (·.sent)).getD []

/-- A viewer has the same parts when another goes on, or when it goes on without one. -/
theorem sentTo_set {id : ℕ} {client after : StreamClient} {hub : StreamHub} (present : server.clients[id]? = some client)
    (other : ℕ) :
    ({ server with hub, clients := server.clients.set id after } : VideoServer).sentTo other =
      if other = id then after.sent else server.sentTo other := by
  unfold sentTo
  dsimp only
  rw [getElem?_set_present present]
  split_ifs <;> rfl

theorem sentTo_still {id : ℕ} {client after : StreamClient} (hub : StreamHub) (present : server.clients[id]? = some client)
    (same : after.sent = client.sent) (other : ℕ) :
    ({ server with hub, clients := server.clients.set id after } : VideoServer).sentTo other = server.sentTo other := by
  rw [sentTo_set present, same]
  split_ifs with mine
  · unfold sentTo
    rw [mine, present]
    rfl
  · rfl

/-- A viewer that has just come has no parts, as it had none before. -/
theorem sentTo_join (server : VideoServer) (maxParts : Option MaxParts) (id : ℕ) :
    ({ server with clients := server.clients ++ [{ maxParts }] } : VideoServer).sentTo id = server.sentTo id := by
  unfold sentTo
  dsimp only
  rw [List.getElem?_append]
  split_ifs with early
  · rfl
  · rw [List.getElem?_eq_none (not_lt.1 early)]
    cases (id - server.clients.length) with
    | zero => rfl
    | succ _ => rfl

variable [Fpu]

/-- The frame for a viewer at an event that sends it one more part: of the uploads before, the last one decides. -/
def frameDue (frameFresh : Double) (id : ℕ) (before : List StreamEvent) : StreamEvent → Option Bytes
  | .next own now synthetic =>
    let server := run frameFresh before
    if own = id ∧ (server.sentTo id).length < ((server.step (.next own now synthetic)).sentTo id).length then
      frameAt frameFresh (before.filterMap StreamEvent.upload?).getLast? now synthetic
    else none
  | .call _ | .get _ | .close _ => none

/-- The frames for a viewer, in the order of the events that have sent it their parts. -/
def framesDue (frameFresh : Double) (id : ℕ) (events : List StreamEvent) : List Bytes :=
  Run.trailAlong (frameDue frameFresh id) events

theorem emit_sentTo {id : ℕ} {client : StreamClient} {hub : StreamHub} {emittedParts : ℕ}
    (present : server.clients[id]? = some client) (same : hub.toVideoFrameHub = server.hub.toVideoFrameHub)
    (now : Double) (synthetic : Option Bytes) (other : ℕ) :
    (({ server with hub } : VideoServer).emit id { client with emittedParts } now synthetic).sentTo other =
      server.sentTo other ++ if other = id then
        (((server.hub.getFreshJpeg server.frameFresh now).or synthetic).map (makeMjpegPart "frame")).toList
      else [] := by
  have fresh : hub.getFreshJpeg server.frameFresh now = server.hub.getFreshJpeg server.frameFresh now := by
    unfold StreamHub.getFreshJpeg
    rw [same]
  have own : server.sentTo id = client.sent := by
    unfold sentTo
    rw [present]
    rfl
  unfold VideoServer.emit
  dsimp only
  rw [fresh]
  cases (server.hub.getFreshJpeg server.frameFresh now).or synthetic with
  | none =>
    dsimp only
    rw [sentTo_set present]
    split_ifs with mine
    · rw [mine, own]
      exact (List.append_nil _).symm
    · exact (List.append_nil _).symm
  | some frame =>
    dsimp only
    rw [sentTo_set present]
    split_ifs with mine
    · rw [mine, own]
      rfl
    · exact (List.append_nil _).symm

/-- Only its own request adds to a viewer's parts, and then the one of the frame that the hub has for it. -/
theorem sentTo_step (server : VideoServer) (event : StreamEvent) (id : ℕ) :
    (server.step event).sentTo id = server.sentTo id ∨
      ∃ now synthetic, event = .next id now synthetic ∧ (server.step event).sentTo id = server.sentTo id ++
        (((server.hub.getFreshJpeg server.frameFresh now).or synthetic).map (makeMjpegPart "frame")).toList := by
  have emitted {own : ℕ} {client : StreamClient} {hub : StreamHub} {emittedParts : ℕ}
      (present : server.clients[own]? = some client) (same : hub.toVideoFrameHub = server.hub.toVideoFrameHub)
      (now : Double) (synthetic : Option Bytes) :
      (({ server with hub } : VideoServer).emit own { client with emittedParts } now synthetic).sentTo id =
          server.sentTo id ∨
        ∃ now' synthetic', StreamEvent.next own now synthetic = .next id now' synthetic' ∧
          (({ server with hub } : VideoServer).emit own { client with emittedParts } now synthetic).sentTo id =
            server.sentTo id ++
              (((server.hub.getFreshJpeg server.frameFresh now').or synthetic').map (makeMjpegPart "frame")).toList := by
    rw [emit_sentTo present same]
    by_cases mine : id = own
    · refine .inr ⟨now, synthetic, by rw [mine], ?_⟩
      rw [if_pos mine]
    · refine .inl ?_
      rw [if_neg mine, List.append_nil]
  cases event with
  | call call => exact .inl rfl
  | get maxParts =>
    unfold VideoServer.step
    cases maxParts with
    | none => exact .inl (sentTo_join server none id)
    | some maxParts =>
      dsimp only
      cases readMaxParts maxParts with
      | none => exact .inl rfl
      | some maxParts => exact .inl (sentTo_join server (some maxParts) id)
  | next own now synthetic =>
    unfold VideoServer.step
    dsimp only
    cases present : server.clients[own]? with
    | none => exact .inl rfl
    | some client =>
      dsimp only
      cases stage : client.stage with
      | done => exact .inl rfl
      | created => exact @emitted own client server.hub.registerClient client.emittedParts present rfl now synthetic
      | yielded =>
        dsimp only
        split_ifs with enough
        · refine .inl (sentTo_still server.hub.unregisterClient present ?_ id)
          rfl
        · exact emitted present rfl now synthetic
  | close own =>
    unfold VideoServer.step
    dsimp only
    cases present : server.clients[own]? with
    | none => exact .inl rfl
    | some client =>
      dsimp only
      cases stage : client.stage with
      | done => exact .inl rfl
      | created =>
        refine .inl (sentTo_still server.hub present ?_ id)
        rfl
      | yielded =>
        refine .inl (sentTo_still server.hub.unregisterClient present ?_ id)
        rfl

/-- A viewer's parts are those of the frames that were due to it. -/
theorem sentTo_run (frameFresh : Double) (id : ℕ) (events : List StreamEvent) :
    (run frameFresh events).sentTo id = (framesDue frameFresh id events).map (makeMjpegPart "frame") := by
  induction events using List.reverseRecOn with
  | nil => rfl
  | append_singleton events event ih =>
    have accounts := Accounts.run frameFresh events
    have stepped : run frameFresh (events ++ [event]) = (run frameFresh events).step event := List.foldl_append
    unfold framesDue at ih ⊢
    rw [Run.trailAlong_concat, List.map_append, ← ih, stepped]
    rcases sentTo_step (run frameFresh events) event id with same | ⟨now, synthetic, rfl, grown⟩
    · have quiet : frameDue frameFresh id events event = none := by
        cases event with
        | call call => rfl
        | get maxParts => rfl
        | close own => rfl
        | next own now synthetic =>
          refine if_neg fun grows => ?_
          rw [same] at grows
          exact lt_irrefl _ grows.2
      rw [same, quiet]
      exact (List.append_nil _).symm
    · have frame := getFreshJpeg_or accounts.latest.1 accounts.latest.2 (run frameFresh events).frameFresh now synthetic
      rw [frame, accounts.fresh] at grown
      rw [grown]
      congr 1
      unfold frameDue
      dsimp only
      rw [grown, List.length_append]
      cases frameAt frameFresh (events.filterMap StreamEvent.upload?).getLast? now synthetic with
      | none =>
        rw [ite_self]
        rfl
      | some due =>
        rw [if_pos ⟨rfl, Nat.lt_succ_self _⟩]
        rfl

/-- However uploads, requests, parts and departures interleave: the hub counts exactly the viewers that are streaming
and the parts that they were sent; no viewer is sent more than it asks for; and each of its parts is the one of the frame
that was the latest and fresh at the event that sent it, or synthetic for want of one. -/
theorem viewers_accounted (frameFresh : Double) (events : List StreamEvent) :
    let server := run frameFresh events
    server.hub.videoClients = server.clients.countP StreamClient.streaming ∧
      server.hub.framesServedTotal = (server.clients.map (·.sent.length)).sum ∧
      ∀ id client, server.clients[id]? = some client →
        (∀ maxParts ∈ client.maxParts, client.sent.length ≤ maxParts.parts) ∧
          client.sent = (framesDue frameFresh id events).map (makeMjpegPart "frame") := by
  intro server
  have accounts : Accounts frameFresh events server := Accounts.run frameFresh events
  refine ⟨accounts.videoClients, accounts.framesServed, ?_⟩
  intro id client present
  refine ⟨fun maxParts asked => ?_, ?_⟩
  · exact (accounts.clients client (List.mem_of_getElem? present)).atMost maxParts asked
  · rw [← sentTo_run]
    unfold sentTo
    change client.sent = (server.clients[id]?.map (·.sent)).getD []
    rw [present]
    rfl

end VideoServer
end AotDrone.Backend
