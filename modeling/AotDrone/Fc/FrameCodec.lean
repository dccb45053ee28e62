import AotDrone.Fc.MainLoop

/-! Length-prefixed frames from a TCP connection (`FrameCodec.cpp`, the inner loop of
`CommandServer::run_loop`). -/

namespace AotDrone.Fc
open AotDrone.Lib AotDrone.Lib.Double

/-- The bytes still to come from the peer, in the pieces it arrives in; the peer closes behind the last. -/
abbrev Connection := List Text

def tcpMaxFrameBytes : Nat := 4096

/-- `recv` takes from the piece that has arrived; nothing is taken from a closed connection. -/
def recv (room : Nat) : Connection → Text × Connection
  | [] => ([], [])
  | piece :: later => (piece.take room, if piece.length ≤ room then later else piece.drop room :: later)

/-- The bytes, if they all come, and what is left of the connection. -/
def recvExact (bytes : Nat) (connection : Connection) : Option Text × Connection :=
  match bytes with
  | 0 => (some [], connection)
  | more + 1 =>
    match recv (more + 1) connection with
    | ([], left) => (none, left)
    | (first :: got, left) =>
      let (rest, left) := recvExact (more - got.length) left
      (rest.map ((first :: got) ++ ·), left)
termination_by bytes

/-- `ntohl` of the header. -/
def networkLength (header : Text) : Nat := header.foldl (fun sum byte => sum * 0x100 + byte.toNat) 0

def readFrame (maxLength : Nat) (connection : Connection) : Option Text × Connection :=
  match recvExact 4 connection with
  | (none, left) => (none, left)
  | (some header, left) =>
    if networkLength header = 0 ∨ maxLength < networkLength header then (none, left)
    else recvExact (networkLength header) left

/-- Bytes that are taken are gone from the connection. -/
theorem recv_conserves (room : Nat) (connection : Connection) :
    (recv room connection).1 ++ (recv room connection).2.flatten = connection.flatten := by
  cases connection with
  | nil => rfl
  | cons piece later =>
    simp only [recv]
    split_ifs with all
    · rw [List.take_of_length_le all, List.flatten_cons]
    · rw [List.flatten_cons, ← List.append_assoc, List.take_append_drop, List.flatten_cons]

theorem recv_length_le (room : Nat) (connection : Connection) : (recv room connection).1.length ≤ room := by
  cases connection with
  | nil => exact Nat.zero_le _
  | cons piece later => exact List.length_take_le ..

/-- What is read is as long as it was asked for, and was next on the connection. -/
theorem recvExact_read {bytes : Nat} {connection left : Connection} {got : Text}
    (read : recvExact bytes connection = (some got, left)) :
    got.length = bytes ∧ got ++ left.flatten = connection.flatten := by
  induction bytes using Nat.strong_induction_on generalizing connection got with
  | _ bytes ih =>
    cases bytes with
    | zero =>
      rw [recvExact] at read
      cases read
      exact ⟨rfl, rfl⟩
    | succ more =>
      have stream := recv_conserves (more + 1) connection
      have room := recv_length_le (more + 1) connection
      rw [recvExact] at read
      cases received : recv (more + 1) connection with
      | mk taken after =>
        rw [received] at read stream room
        cases taken with
        | nil => cases read
        | cons first taken =>
          dsimp only at read stream room
          rw [List.length_cons] at room
          cases later : recvExact (more - taken.length) after with
          | mk value rest =>
            rw [later] at read
            cases value with
            | none => cases read
            | some tail =>
              cases read
              obtain ⟨length, next⟩ := ih _ (by omega) later
              refine ⟨?_, ?_⟩
              · rw [List.length_append, length, List.length_cons]
                omega
              · rw [List.append_assoc, next, stream]

/-- Every frame that is read takes bytes from the connection. -/
theorem readFrame_shorter {maxLength : Nat} {connection left : Connection} {json : Text}
    (read : readFrame maxLength connection = (some json, left)) :
    left.flatten.length < connection.flatten.length := by
  unfold readFrame at read
  cases headed : recvExact 4 connection with
  | mk found after =>
    rw [headed] at read
    cases found with
    | none => cases read
    | some header =>
      dsimp only at read
      split_ifs at read with refused
      · cases read
      · have before := congrArg List.length (recvExact_read headed).2
        have behind := congrArg List.length (recvExact_read read).2
        have four := (recvExact_read headed).1
        rw [List.length_append] at before behind
        omega

/-- The payloads of a connection until `read_frame` returns false. -/
def readFrames (maxLength : Nat) (connection : Connection) : List Text :=
  match _found : readFrame maxLength connection with
  | (none, _) => []
  | (some json, left) => json :: readFrames maxLength left
termination_by connection.flatten.length
decreasing_by exact readFrame_shorter (by assumption)

/-- One connection of the receive thread. `clock` is what `now_s()` reads behind each frame. -/
def serveClient [Fpu] [Libc] (clock : Nat → Double) (frames : Nat) (server : CommandServer) (connection : Connection) :
    CommandServer :=
  match _found : readFrame tcpMaxFrameBytes connection with
  | (none, _) => server
  | (some json, left) => serveClient clock (frames + 1) (server.receive json (clock frames)) left
termination_by connection.flatten.length
decreasing_by exact readFrame_shorter (by assumption)

/-- Pieces that have arrived are not empty. -/
def Arriving (connection : Connection) : Prop := ∀ piece ∈ connection, piece ≠ []

instance : DecidablePred Arriving := fun connection =>
  inferInstanceAs (Decidable (∀ piece ∈ connection, piece ≠ []))

section connection
variable {connection : Connection}

theorem recv_arriving (arriving : Arriving connection) {room : Nat} (positive : 0 < room) :
    Arriving (recv room connection).2 ∧ ((recv room connection).1 = [] → connection.flatten = []) := by
  cases connection with
  | nil => exact ⟨arriving, fun _ => rfl⟩
  | cons piece later =>
    obtain ⟨nonempty, arriving⟩ := List.forall_mem_cons.1 arriving
    have some : piece.take room ≠ [] := by
      simp [nonempty, positive.ne']
    refine ⟨?_, fun none => absurd none some⟩
    simp only [recv]
    split_ifs with all
    · exact arriving
    · refine List.forall_mem_cons.2 ⟨?_, arriving⟩
      rw [Ne, List.drop_eq_nil_iff]
      omega

/-- In whatever pieces they come, the bytes asked for are the next ones; too few of them are none. -/
theorem recvExact_eq (arriving : Arriving connection) (bytes : Nat) :
    Arriving (recvExact bytes connection).2 ∧
      (recvExact bytes connection).1 =
        (if bytes ≤ connection.flatten.length then some (connection.flatten.take bytes) else none) ∧
      (recvExact bytes connection).2.flatten = connection.flatten.drop bytes := by
  induction bytes using Nat.strong_induction_on generalizing connection with
  | _ bytes ih =>
    cases bytes with
    | zero =>
      rw [recvExact]
      exact ⟨arriving, by simp, by simp⟩
    | succ more =>
      obtain ⟨after, closed⟩ := recv_arriving arriving (Nat.succ_pos more)
      have stream := recv_conserves (more + 1) connection
      have room := recv_length_le (more + 1) connection
      rw [recvExact]
      cases received : recv (more + 1) connection with
      | mk got left =>
        rw [received] at after stream room closed
        cases got with
        | nil =>
          have empty := closed rfl
          rw [empty, List.nil_append] at stream
          dsimp only at stream ⊢
          exact ⟨after, by rw [empty]; simp, by rw [empty, stream]; simp⟩
        | cons first got =>
          dsimp only at after stream room ⊢
          have shorter : more - got.length < more + 1 := by omega
          obtain ⟨later, value, rest⟩ := ih _ shorter after
          rw [List.length_cons] at room
          have split : more + 1 = (first :: got).length + (more - got.length) := by
            rw [List.length_cons]
            omega
          refine ⟨later, ?_, ?_⟩
          · rw [value, ← stream]
            by_cases enough : more - got.length ≤ left.flatten.length
            · rw [if_pos enough, if_pos (by rw [List.length_append]; omega), split, List.take_length_add_append]
              rfl
            · rw [if_neg enough, if_neg (by rw [List.length_append]; omega)]
              rfl
          · rw [rest, ← stream, split, List.drop_append]
            simp

/-- The next bytes are there. -/
theorem recvExact_some (arriving : Arriving connection) {bytes rest : Text}
    (stream : connection.flatten = bytes ++ rest) :
    (recvExact bytes.length connection).1 = some bytes ∧
      Arriving (recvExact bytes.length connection).2 ∧ (recvExact bytes.length connection).2.flatten = rest := by
  obtain ⟨after, value, left⟩ := recvExact_eq arriving bytes.length
  rw [stream] at value left
  rw [if_pos (by rw [List.length_append]; omega), List.take_left] at value
  exact ⟨value, after, left.trans List.drop_left⟩

theorem recvExact_none (arriving : Arriving connection) {bytes : Nat} (few : connection.flatten.length < bytes) :
    (recvExact bytes connection).1 = none :=
  (recvExact_eq arriving bytes).2.1.trans (if_neg (Nat.not_le_of_lt few))

end connection
end AotDrone.Fc
