import AotDrone.Backend.CmdSchema
import AotDrone.Fc.FrameCodec
import AotDrone.Lib.Binary64

/-! Frames of the backend read back by the flight controller, in whatever pieces TCP delivers them. -/

namespace AotDrone.Link
open AotDrone.Lib AotDrone.Lib.Double AotDrone.Json AotDrone.Backend AotDrone.Fc

/-- A payload with its length in front. -/
def frameBytes (raw : Text) : Text := packLength raw.length ++ raw

theorem packLength_length (n : Nat) : (packLength n).length = 4 := rfl

theorem networkLength_packLength {n : Nat} (fits : n < 2 ^ 32) : networkLength (packLength n) = n := by
  have byte (m : Nat) : (Char.ofNat (m % 0x100)).toNat = m % 0x100 := toNat_charOfNat (by omega)
  simp only [networkLength, packLength, List.foldl_cons, List.foldl_nil, byte]
  omega

section connection
variable {connection : Connection} {raw rest : Text} {maxLength : Nat}

theorem readFrame_header (maxLength : Nat) (arriving : Arriving connection) {header : Text} (four : header.length = 4)
    (stream : connection.flatten = header ++ rest) :
    ∃ left, Arriving left ∧ left.flatten = rest ∧
      readFrame maxLength connection =
        if networkLength header = 0 ∨ maxLength < networkLength header then (none, left)
        else recvExact (networkLength header) left := by
  obtain ⟨value, after, left⟩ := recvExact_some arriving stream
  refine ⟨(recvExact 4 connection).2, ?_, ?_, ?_⟩
  · rwa [four] at after
  · rwa [four] at left
  · rw [four] at value
    unfold readFrame
    cases read : recvExact 4 connection with
    | mk found left =>
      rw [read] at value
      cases value
      rfl

/-- A frame that has arrived is read, and nothing behind it. -/
theorem readFrame_frameBytes (arriving : Arriving connection) (nonempty : 1 ≤ raw.length)
    (short : raw.length ≤ maxLength) (fits : maxLength < 2 ^ 32)
    (stream : connection.flatten = frameBytes raw ++ rest) :
    ∃ left, readFrame maxLength connection = (some raw, left) ∧ Arriving left ∧ left.flatten = rest := by
  rw [frameBytes, List.append_assoc] at stream
  obtain ⟨after, arrives, body, read⟩ := readFrame_header maxLength arriving rfl stream
  obtain ⟨value, arrives, left⟩ := recvExact_some arrives body
  rw [networkLength_packLength (by omega), if_neg (by omega)] at read
  refine ⟨(recvExact raw.length after).2, ?_, arrives, left⟩
  rw [read, ← value]

theorem readFrame_headless (arriving : Arriving connection) (few : connection.flatten.length < 4) :
    (readFrame maxLength connection).1 = none := by
  have none := recvExact_none arriving few
  unfold readFrame
  cases read : recvExact 4 connection with
  | mk found left =>
    rw [read] at none
    cases none
    rfl

/-- A frame cut short is not read. -/
theorem readFrame_cut (arriving : Arriving connection) (nonempty : 1 ≤ raw.length)
    (short : raw.length ≤ maxLength) (fits : maxLength < 2 ^ 32) {cut : Nat} (cuts : cut < 4 + raw.length)
    (stream : connection.flatten = (frameBytes raw).take cut) : (readFrame maxLength connection).1 = none := by
  by_cases headless : cut < 4
  · apply readFrame_headless arriving
    rw [stream, List.length_take]
    omega
  · rw [frameBytes, List.take_append, List.take_of_length_le (by rw [packLength_length]; omega),
      packLength_length] at stream
    obtain ⟨after, arrives, body, read⟩ := readFrame_header maxLength arriving rfl stream
    rw [read, networkLength_packLength (by omega), if_neg (by omega)]
    apply recvExact_none arrives
    rw [body, List.length_take]
    omega

end connection

/-! ## Whole streams -/

/-- The payloads whose frames lie within the first `cut` bytes of the stream. -/
def completeFrames (cut : Nat) : List Text → List Text
  | [] => []
  | raw :: later =>
    if (frameBytes raw).length ≤ cut then raw :: completeFrames (cut - (frameBytes raw).length) later else []

theorem frameBytes_length (raw : Text) : (frameBytes raw).length = 4 + raw.length := by
  rw [frameBytes, List.length_append, packLength_length]

/-- What the receive thread makes of the payloads of a connection. -/
def publishAll [Fpu] [Libc] (clock : Nat → Double) (frames : Nat) (server : CommandServer) : List Text → CommandServer
  | [] => server
  | json :: later => publishAll clock (frames + 1) (server.receive json (clock frames)) later

theorem readFrames_step (maxLength : Nat) (connection : Connection) :
    readFrames maxLength connection =
      match readFrame maxLength connection with
      | (none, _) => []
      | (some json, left) => json :: readFrames maxLength left := by
  rw [readFrames]
  split <;> simp_all

theorem readFrames_stop {maxLength : Nat} {connection : Connection}
    (refused : (readFrame maxLength connection).1 = none) : readFrames maxLength connection = [] := by
  rw [readFrames_step]
  cases read : readFrame maxLength connection with
  | mk found left =>
    rw [read] at refused
    cases refused
    rfl

theorem serveClient_eq [Fpu] [Libc] (clock : Nat → Double) (frames : Nat) (server : CommandServer)
    (connection : Connection) :
    serveClient clock frames server connection =
      publishAll clock frames server (readFrames tcpMaxFrameBytes connection) := by
  fun_induction serveClient clock frames server connection with
  | case1 frames server connection left closed =>
    rw [readFrames_step, closed]
    rfl
  | case2 frames server connection json left read ih =>
    rw [readFrames_step, read, ih]
    rfl

theorem readFrames_complete {payloads : List Text} {maxLength : Nat} (fits : maxLength < 2 ^ 32)
    (sizes : ∀ raw ∈ payloads, 1 ≤ raw.length ∧ raw.length ≤ maxLength) {cut : Nat} {connection : Connection}
    (arriving : Arriving connection) (stream : connection.flatten = ((payloads.map frameBytes).flatten).take cut) :
    readFrames maxLength connection = completeFrames cut payloads := by
  induction payloads generalizing cut connection with
  | nil =>
    rw [List.map_nil, List.flatten_nil, List.take_nil] at stream
    exact readFrames_stop (readFrame_headless arriving (by rw [stream]; decide))
  | cons raw later ih =>
    obtain ⟨⟨nonempty, short⟩, sizes⟩ := List.forall_mem_cons.1 sizes
    rw [List.map_cons, List.flatten_cons, List.take_append] at stream
    rw [completeFrames]
    split_ifs with complete
    · rw [List.take_of_length_le complete] at stream
      obtain ⟨left, read, arrives, rest⟩ := readFrame_frameBytes arriving nonempty short fits stream
      rw [readFrames_step, read, ← ih sizes arrives rest]
    · have cuts : cut < 4 + raw.length := by
        rw [frameBytes_length] at complete
        omega
      rw [Nat.sub_eq_zero_of_le (by omega), List.take_zero, List.append_nil] at stream
      exact readFrames_stop (readFrame_cut arriving nonempty short fits cuts stream)

theorem publishAll_append [Fpu] [Libc] (clock : Nat → Double) (frames : Nat) (server : CommandServer)
    (before after : List Text) :
    publishAll clock frames server (before ++ after) =
      publishAll clock (frames + before.length) (publishAll clock frames server before) after := by
  induction before generalizing frames server with
  | nil => rfl
  | cons json before ih =>
    rw [List.cons_append, publishAll, ih, publishAll, List.length_cons, Nat.add_right_comm, Nat.add_assoc]

/-- Whatever the pieces and wherever the stream ends, the payloads read are those of the complete frames; a
payload that does not parse leaves those behind it alone; and of a frame whose header is out of range no
payload byte is taken. -/
theorem framing_round_trip [Fpu] [Libc] (payloads : List Text)
    (sizes : ∀ raw ∈ payloads, 1 ≤ raw.length ∧ raw.length ≤ tcpMaxFrameBytes) (cut : Nat) (connection : Connection)
    (arriving : Arriving connection) (stream : connection.flatten = ((payloads.map frameBytes).flatten).take cut) :
    readFrames tcpMaxFrameBytes connection = completeFrames cut payloads ∧
      (∀ (clock : Nat → Double) (server : CommandServer) (before after : List Text) (bad : Text),
        completeFrames cut payloads = before ++ bad :: after → parseCmdFrame bad = none →
          serveClient clock 0 server connection =
            publishAll clock (before.length + 1) (publishAll clock 0 server before) after) ∧
      ∀ (other : Connection) (header rest : Text), Arriving other → header.length = 4 →
        other.flatten = header ++ rest → networkLength header = 0 ∨ tcpMaxFrameBytes < networkLength header →
          (readFrame tcpMaxFrameBytes other).1 = none ∧ (readFrame tcpMaxFrameBytes other).2.flatten = rest := by
  have complete := readFrames_complete (by decide) sizes arriving stream
  refine ⟨complete, ?_, ?_⟩
  · intro clock server before after bad split rejected
    rw [serveClient_eq, complete, split, publishAll_append, publishAll, Nat.zero_add]
    unfold CommandServer.receive
    rw [rejected]
  · intro other header rest arrives four arrived refused
    obtain ⟨left, _, behind, read⟩ := readFrame_header tcpMaxFrameBytes arrives four arrived
    rw [read, if_pos refused]
    exact ⟨rfl, behind⟩

section hardware
attribute [local instance] Binary64.binary64 Libc.strict

/-- Two frames, the second without its last byte, in four pieces. -/
theorem second_frame_cut :
    readFrames tcpMaxFrameBytes [packLength 2 ++ ['\x7b'], '\x7d' :: (packLength 2).take 1, (packLength 2).drop 1, ['\x7b']] =
      [['\x7b', '\x7d']] :=
  (framing_round_trip [['\x7b', '\x7d'], ['\x7b', '\x7d']] (by decide) 11 _ (by decide) (by decide)).1

end hardware

end AotDrone.Link
