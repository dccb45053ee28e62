import AotDrone.Fc.MspFraming
import AotDrone.Lib.Cutter

/-! What `parse_drain` makes of a serial line, whatever pieces its bytes come in and whatever noise is between
the frames. -/

namespace AotDrone.Fc.Msp
open AotDrone.Lib

/-- A response as it stands on the line, with a right or a wrong checksum. -/
structure RawFrame where
  cmd : UInt8
  payload : Bytes
  checksum : UInt8
  short : payload.length ≤ 255

namespace RawFrame

def size (raw : RawFrame) : UInt8 := UInt8.ofNat raw.payload.length

def bytes (raw : RawFrame) : Bytes :=
  marker ++ raw.size :: raw.cmd :: (raw.payload ++ [raw.checksum])

def sound (raw : RawFrame) : Bool := xorChecksum (raw.size :: raw.cmd :: raw.payload) == raw.checksum

def parsed (raw : RawFrame) : ParsedFrame := { cmd := raw.cmd, payload := raw.payload }

theorem size_toNat (raw : RawFrame) : raw.size.toNat = raw.payload.length := by
  have short := raw.short
  rw [size, UInt8.toNat_ofNat']
  omega

theorem bytes_length (raw : RawFrame) : raw.bytes.length = raw.payload.length + 6 := by
  simp only [bytes, marker, List.length_append, List.length_cons, List.length_nil]
  omega

end RawFrame

inductive Piece where
  | garbage (byte : UInt8)
  | frame (raw : RawFrame)

namespace Piece

def bytes : Piece → Bytes
  | garbage byte => [byte]
  | frame raw => raw.bytes

def parsed : Piece → Option ParsedFrame
  | garbage _ => none
  | frame raw => if raw.sound then some raw.parsed else none

def corrupt : Piece → Bool
  | garbage _ => false
  | frame raw => !raw.sound

end Piece

/-- The frame whose marker has just been read. -/
def takeFrame : Bytes → Option (RawFrame × Bytes)
  | size :: cmd :: rest =>
    match rest.drop size.toNat with
    | [] => none
    | checksum :: behind =>
      have short := Nat.le_trans (List.length_take_le size.toNat rest) (Nat.le_of_lt_succ size.toNat_lt)
      some ({ cmd, payload := rest.take size.toNat, checksum, short }, behind)
  | _ => none

/-- A byte is garbage as soon as two more are there and no marker starts at it. -/
def nextPiece : Bytes → Option (Piece × Bytes)
  | dollar :: m :: angle :: rest =>
    if [dollar, m, angle] = marker then (takeFrame rest).map fun (raw, behind) => (.frame raw, behind)
    else some (.garbage dollar, m :: angle :: rest)
  | _ => none

theorem takeFrame_eq (raw : RawFrame) (behind : Bytes) :
    takeFrame (raw.size :: raw.cmd :: (raw.payload ++ raw.checksum :: behind)) = some (raw, behind) := by
  have tail : (raw.payload ++ raw.checksum :: behind).drop raw.size.toNat = raw.checksum :: behind := by
    rw [raw.size_toNat, List.drop_left]
  have front : (raw.payload ++ raw.checksum :: behind).take raw.size.toNat = raw.payload := by
    rw [raw.size_toNat, List.take_left]
  simp only [takeFrame, tail, front]

theorem takeFrame_some {stream behind : Bytes} {raw : RawFrame} (found : takeFrame stream = some (raw, behind)) :
    stream = raw.size :: raw.cmd :: (raw.payload ++ raw.checksum :: behind) := by
  match stream with
  | [] | [_] => cases found
  | size :: cmd :: rest =>
    simp only [takeFrame] at found
    cases tail : rest.drop size.toNat with
    | nil =>
      rw [tail] at found
      cases found
    | cons checksum left =>
      simp only [tail] at found
      cases found
      have long : size.toNat ≤ rest.length := by
        by_contra few
        rw [List.drop_eq_nil_of_le (by omega)] at tail
        cases tail
      have whole : rest.take size.toNat ++ checksum :: behind = rest := by
        rw [← tail, List.take_append_drop]
      have announced : UInt8.ofNat (rest.take size.toNat).length = size := by
        rw [List.length_take, Nat.min_eq_left long, UInt8.ofNat_toNat]
      rw [RawFrame.size, announced, whole]

theorem takeFrame_none {size cmd : UInt8} {rest : Bytes} (partly : takeFrame (size :: cmd :: rest) = none) :
    rest.length ≤ size.toNat := by
  rw [takeFrame] at partly
  split at partly
  next tail => exact List.drop_eq_nil_iff.1 tail
  next => cases partly

theorem nextPiece_frame (raw : RawFrame) (behind : Bytes) :
    nextPiece (raw.bytes ++ behind) = some (.frame raw, behind) := by
  have spelled : raw.bytes ++ behind =
      0x24 :: 0x4D :: 0x3E :: raw.size :: raw.cmd :: (raw.payload ++ raw.checksum :: behind) := by
    simp [RawFrame.bytes, marker]
  rw [spelled, nextPiece, if_pos (show [0x24, 0x4D, 0x3E] = marker from rfl), takeFrame_eq]
  rfl

theorem nextPiece_some {stream rest : Bytes} {piece : Piece} (found : nextPiece stream = some (piece, rest)) :
    (∃ dollar m angle behind, [dollar, m, angle] ≠ marker ∧ stream = dollar :: m :: angle :: behind ∧
      piece = .garbage dollar ∧ rest = m :: angle :: behind) ∨
    (∃ raw, piece = .frame raw ∧ stream = raw.bytes ++ rest) := by
  match stream with
  | [] | [_] | [_, _] => cases found
  | dollar :: m :: angle :: behind =>
    rw [nextPiece] at found
    split_ifs at found with marked
    · obtain ⟨⟨raw, left⟩, taken, same⟩ := Option.map_eq_some_iff.1 found
      cases same
      refine .inr ⟨raw, rfl, ?_⟩
      rw [takeFrame_some taken, RawFrame.bytes, ← marked]
      simp
    · cases found
      exact .inl ⟨dollar, m, angle, behind, marked, rfl, rfl, rfl⟩

/-- The line cut into frames and garbage bytes. -/
def mspCutter : Cutter UInt8 Piece where
  next := nextPiece
  bytes := Piece.bytes
  split found := by
    obtain ⟨dollar, m, angle, behind, _, rfl, rfl, rfl⟩ | ⟨raw, rfl, rfl⟩ := nextPiece_some found
    · rfl
    · rfl
  nonempty := by
    rintro (byte | raw)
    · exact List.cons_ne_nil _ _
    · exact List.cons_ne_nil _ _
  settled more found := by
    obtain ⟨dollar, m, angle, behind, unmarked, rfl, rfl, rfl⟩ | ⟨raw, rfl, rfl⟩ := nextPiece_some found
    · exact if_neg unmarked
    · rw [List.append_assoc]
      exact nextPiece_frame raw _

/-! ## The parser along the pieces -/

section parser
variable {dollar m angle : UInt8} (behind : Bytes)

theorem parseResponse_garbage (unmarked : [dollar, m, angle] ≠ marker) :
    parseResponse (dollar :: m :: angle :: behind) =
      { parseResponse (m :: angle :: behind) with
        bytesConsumed := (parseResponse (m :: angle :: behind)).bytesConsumed + 1 } := by
  have scan : scanMarker (dollar :: m :: angle :: behind) =
      ((scanMarker (m :: angle :: behind)).1, (scanMarker (m :: angle :: behind)).2 + 1) := if_neg unmarked
  cases behind with
  | nil => simp [parseResponse, scanMarker, unmarked]
  | cons next behind =>
    generalize tail : m :: angle :: next :: behind = buf at scan
    have long : ¬ buf.length < 3 := by simp [← tail]
    have longer : ¬ buf.length + 1 < 3 := by omega
    unfold parseResponse
    rw [scan, List.length_cons, if_neg long, if_neg longer]
    obtain ⟨found, i⟩ := scanMarker buf
    cases found with
    | false => rfl
    | true =>
      simp only [show i + 1 + 5 = i + 5 + 1 from rfl, show i + 1 + 3 = i + 3 + 1 from rfl,
        show i + 1 + 4 = i + 4 + 1 from rfl, Nat.add_right_comm i 1, Nat.add_right_comm (i + 5) 1,
        List.getD_cons_succ, List.drop_succ_cons, Nat.add_lt_add_iff_right]
      split_ifs <;> rfl

theorem parseResponse_frame (raw : RawFrame) :
    parseResponse (raw.bytes ++ behind) =
      if raw.sound then { frame := some raw.parsed, bytesConsumed := raw.bytes.length }
      else { bytesConsumed := raw.bytes.length, checksumError := true } := by
  have spelled : raw.bytes ++ behind =
      0x24 :: 0x4D :: 0x3E :: raw.size :: raw.cmd :: (raw.payload ++ raw.checksum :: behind) := by
    simp [RawFrame.bytes, marker]
  have scan (rest : Bytes) : scanMarker (0x24 :: 0x4D :: 0x3E :: rest) = (true, 0) := if_pos rfl
  have length := congrArg List.length spelled
  rw [List.length_append, raw.bytes_length] at length
  have payload : ((raw.bytes ++ behind).drop (0 + 5)).take raw.size.toNat = raw.payload := by
    rw [spelled, raw.size_toNat]
    exact List.take_left
  have expected : (raw.bytes ++ behind).getD (0 + 5 + raw.size.toNat) 0 = raw.checksum := by
    rw [spelled, raw.size_toNat, Nat.zero_add, Nat.add_comm]
    simp
  have checksum : raw.payload.foldl (· ^^^ ·) (raw.size ^^^ raw.cmd) = xorChecksum (raw.size :: raw.cmd :: raw.payload) := by
    simp [xorChecksum]
  have frameTotal : 0 + (3 + 1 + 1 + raw.size.toNat + 1) = raw.bytes.length := by
    rw [raw.bytes_length, raw.size_toNat]
    omega
  unfold parseResponse
  rw [if_neg (by rw [List.length_append, raw.bytes_length]; omega), spelled, scan, ← spelled]
  dsimp only
  rw [if_neg (by rw [List.length_append, raw.bytes_length]; omega)]
  have size : (raw.bytes ++ behind).getD (0 + 3) 0 = raw.size := by rw [spelled]; rfl
  have cmd : (raw.bytes ++ behind).getD (0 + 4) 0 = raw.cmd := by rw [spelled]; rfl
  rw [size, cmd, frameTotal, if_neg (by rw [List.length_append]; omega), payload, expected, checksum]
  cases sound : raw.sound with
  | false =>
    rw [if_pos (bne_iff_ne.1 (by rw [bne, ← RawFrame.sound, sound]; rfl))]
    rfl
  | true =>
    rw [if_neg (not_not.2 (beq_iff_eq.1 sound))]
    rfl

theorem parseResponse_waits {buf : Bytes} (waits : nextPiece buf = none) : parseResponse buf = {} := by
  match buf with
  | [] | [_] | [_, _] => rfl
  | dollar :: m :: angle :: rest =>
    rw [nextPiece] at waits
    split_ifs at waits with marked
    have partly : takeFrame rest = none := Option.map_eq_none_iff.1 waits
    have scan : scanMarker (dollar :: m :: angle :: rest) = (true, 0) := if_pos marked
    unfold parseResponse
    rw [if_neg (by simp), scan]
    dsimp only
    match rest with
    | [] | [_] => rfl
    | size :: cmd :: rest =>
      have few := takeFrame_none partly
      rw [if_neg (by simp), if_pos]
      simp only [List.length_cons, List.getD_cons_succ, List.getD_cons_zero]
      omega

theorem parseResponse_stays {buf : Bytes} (none : (parseResponse buf).bytesConsumed = 0) :
    parseResponse buf = {} := by
  cases found : nextPiece buf with
  | none => exact parseResponse_waits found
  | some front =>
    obtain ⟨dollar, m, angle, behind, unmarked, rfl, -, -⟩ | ⟨raw, -, spelled⟩ := nextPiece_some found
    · rw [parseResponse_garbage behind unmarked] at none
      cases none
    · rw [spelled, parseResponse_frame] at none
      have length := raw.bytes_length
      split_ifs at none
      · dsimp only at none
        omega
      · dsimp only at none
        omega

end parser

/-! ## Draining -/

section drain
variable {σ : Type} (handle : σ → ParsedFrame → σ) (parseErrors : Nat) (state : σ)

/-- A callback that never stops. -/
def steady : σ → ParsedFrame → σ × Bool := fun state frame => (handle state frame, false)

theorem parseDrain_steady {acc : Bytes} (arrived : acc ≠ []) :
    parseDrain (steady handle) acc parseErrors state =
      if (parseResponse acc).bytesConsumed = 0 then
        (acc, if (parseResponse acc).checksumError then parseErrors + 1 else parseErrors,
          ((parseResponse acc).frame.map (handle state)).getD state)
      else
        parseDrain (steady handle) (acc.drop (parseResponse acc).bytesConsumed)
          (if (parseResponse acc).checksumError then parseErrors + 1 else parseErrors)
          (((parseResponse acc).frame.map (handle state)).getD state) := by
  have taken : ((parseResponse acc).frame.map (steady handle state)).getD (state, false) =
      (((parseResponse acc).frame.map (handle state)).getD state, false) := by
    cases (parseResponse acc).frame <;> rfl
  have kept : (parseResponse acc).bytesConsumed = 0 → acc.drop (parseResponse acc).bytesConsumed = acc := by
    intro none
    rw [none, List.drop_zero]
  rw [parseDrain, if_neg arrived]
  simp only [taken, Bool.false_eq_true, ↓reduceIte, dite_eq_ite]
  by_cases waits : (parseResponse acc).bytesConsumed = 0
  · rw [if_pos waits, if_pos waits, kept waits]
  · rw [if_neg waits, if_neg waits]

theorem parseDrain_waits {acc : Bytes} (waits : nextPiece acc = none) :
    parseDrain (steady handle) acc parseErrors state = (acc, parseErrors, state) := by
  by_cases empty : acc = []
  · rw [parseDrain, if_pos empty]
  · rw [parseDrain_steady handle parseErrors state empty, parseResponse_waits waits]
    rfl

/-- One piece of the line. -/
theorem parseDrain_piece {acc rest : Bytes} {piece : Piece} (found : nextPiece acc = some (piece, rest)) :
    parseDrain (steady handle) acc parseErrors state =
      parseDrain (steady handle) rest (if piece.corrupt then parseErrors + 1 else parseErrors)
        ((piece.parsed.map (handle state)).getD state) := by
  obtain ⟨dollar, m, angle, behind, unmarked, rfl, rfl, rfl⟩ | ⟨raw, rfl, rfl⟩ := nextPiece_some found
  · -- the parser skips all garbage at once; whether it stops is decided behind the first byte
    have skipped := parseResponse_garbage behind unmarked
    have arrived : m :: angle :: behind ≠ [] := List.cons_ne_nil _ _
    generalize m :: angle :: behind = tail at skipped arrived
    rw [parseDrain_steady handle parseErrors state (List.cons_ne_nil _ _), skipped, if_neg (Nat.succ_ne_zero _)]
    change parseDrain (steady handle) (tail.drop (parseResponse tail).bytesConsumed)
      (if (parseResponse tail).checksumError then parseErrors + 1 else parseErrors)
      (((parseResponse tail).frame.map (handle state)).getD state) = parseDrain (steady handle) tail parseErrors state
    by_cases none : (parseResponse tail).bytesConsumed = 0
    · rw [parseResponse_stays none]
      rfl
    · rw [parseDrain_steady handle parseErrors state arrived, if_neg none]
  · have arrived : raw.bytes ++ rest ≠ [] := List.cons_ne_nil _ _
    have progress : raw.bytes.length ≠ 0 := by
      rw [raw.bytes_length]
      omega
    rw [parseDrain_steady handle parseErrors state arrived, parseResponse_frame]
    cases sound : raw.sound with
    | false => simp [Piece.corrupt, Piece.parsed, sound, progress]
    | true => simp [Piece.corrupt, Piece.parsed, sound, progress]

theorem parseDrain_eq (stream : Bytes) :
    parseDrain (steady handle) stream parseErrors state =
      ((mspCutter.cut stream).2, parseErrors + (mspCutter.cut stream).1.countP Piece.corrupt,
        ((mspCutter.cut stream).1.filterMap Piece.parsed).foldl handle state) := by
  induction stream using mspCutter.cut_induction generalizing parseErrors state with
  | waits stream waits =>
    rw [mspCutter.cut_none waits]
    exact parseDrain_waits handle parseErrors state waits
  | piece stream piece rest found ih =>
    rw [mspCutter.cut_some found, parseDrain_piece handle parseErrors state found, ih]
    cases piece with
    | garbage byte => simp [Piece.corrupt, Piece.parsed, List.filterMap_cons]
    | frame raw => cases sound : raw.sound <;> simp [Piece.corrupt, Piece.parsed, sound]; omega

/-- One chunk appended to the accumulator and drained. -/
def receive (line : Bytes × Nat × σ) (chunk : Bytes) : Bytes × Nat × σ :=
  parseDrain (steady handle) (line.1 ++ chunk) line.2.1 line.2.2

theorem receive_parseDrain (stream chunk : Bytes) :
    receive handle (parseDrain (steady handle) stream parseErrors state) chunk =
      parseDrain (steady handle) (stream ++ chunk) parseErrors state := by
  simp only [receive, parseDrain_eq, mspCutter.cut_append stream chunk, List.countP_append, List.filterMap_append,
    List.foldl_append, Nat.add_assoc]

theorem receive_chunks (chunks : List Bytes) (stream : Bytes) :
    chunks.foldl (receive handle) (parseDrain (steady handle) stream parseErrors state) =
      parseDrain (steady handle) (stream ++ chunks.flatten) parseErrors state := by
  induction chunks generalizing stream with
  | nil => rw [List.foldl_nil, List.flatten_nil, List.append_nil]
  | cons chunk later ih => rw [List.foldl_cons, receive_parseDrain, ih, List.flatten_cons, List.append_assoc]

end drain

theorem waits_length {left : Bytes} (waits : nextPiece left = none) : left.length ≤ 260 := by
  match left with
  | [] | [_] | [_, _] => simp
  | dollar :: m :: angle :: rest =>
    rw [nextPiece] at waits
    split_ifs at waits with marked
    match rest with
    | [] | [_] => simp
    | size :: cmd :: rest =>
      have few := takeFrame_none (Option.map_eq_none_iff.1 waits)
      have byte := size.toNat_lt
      simp only [List.length_cons]
      omega

theorem waits_marked {left : Bytes} (waits : nextPiece left = none) (long : 3 ≤ left.length) : marker <+: left := by
  match left with
  | [] | [_] | [_, _] => simp at long
  | dollar :: m :: angle :: rest =>
    rw [nextPiece] at waits
    split_ifs at waits with marked
    exact ⟨rest, by rw [← marked]; rfl⟩

/-- Bytes of a frame among those left over are behind the marker of an unfinished one. -/
theorem waits_unfinished {before behind : Bytes} {raw : RawFrame}
    (waits : nextPiece (before ++ raw.bytes ++ behind) = none) :
    before ≠ [] ∧ marker <+: before ++ raw.bytes ++ behind := by
  constructor
  · rintro rfl
    rw [List.nil_append, nextPiece_frame] at waits
    cases waits
  · apply waits_marked waits
    have length := raw.bytes_length
    simp only [List.length_append]
    omega

/-- Chunks of any sizes give the frames, the errors and the leftover of the whole stream; the pieces and the
leftover are the stream, byte for byte; and no frame that the parser could deliver is left over. -/
theorem drain_any_chunks (stream : Bytes) :
    ∃ (pieces : List Piece) (left : Bytes),
      (∀ (σ : Type) (handle : σ → ParsedFrame → σ) (parseErrors : Nat) (state : σ) (chunks : List Bytes),
        chunks.flatten = stream →
          chunks.foldl (receive handle) ([], parseErrors, state) =
              parseDrain (steady handle) stream parseErrors state ∧
            parseDrain (steady handle) stream parseErrors state =
              (left, parseErrors + pieces.countP Piece.corrupt, (pieces.filterMap Piece.parsed).foldl handle state)) ∧
      stream = (pieces.map Piece.bytes).flatten ++ left ∧
      left.length ≤ 260 ∧ parseResponse left = {} ∧
      ∀ (before behind : Bytes) (raw : RawFrame), left = before ++ raw.bytes ++ behind →
        before ≠ [] ∧ marker <+: left := by
  have stops := mspCutter.cut_stops stream
  refine ⟨(mspCutter.cut stream).1, (mspCutter.cut stream).2, ?_, (mspCutter.cut_conserves stream).symm,
    waits_length stops, parseResponse_waits stops, ?_⟩
  · intro σ handle parseErrors state chunks whole
    have start : parseDrain (steady handle) [] parseErrors state = ([], parseErrors, state) :=
      parseDrain_waits handle parseErrors state rfl
    refine ⟨?_, parseDrain_eq handle parseErrors state stream⟩
    rw [← start, receive_chunks, List.nil_append, whole]
  · intro before behind raw spelled
    rw [spelled] at stops ⊢
    exact waits_unfinished stops

/-! ## Frames among noise -/

inductive Segment where
  | garbage (bytes : Bytes)
  | frame (raw : RawFrame)

namespace Segment

def bytes : Segment → Bytes
  | garbage bytes => bytes
  | frame raw => raw.bytes

def parsed : Segment → Option ParsedFrame
  | garbage _ => none
  | frame raw => (Piece.frame raw).parsed

def corrupt : Segment → Bool
  | garbage _ => false
  | frame raw => (Piece.frame raw).corrupt

end Segment

def line (segments : List Segment) : Bytes := (segments.map Segment.bytes).flatten

/-- No marker starts in garbage, wherever it would end. -/
def Unmarked : List Segment → Prop
  | [] => True
  | .garbage bytes :: later => (∀ i < bytes.length, ¬ marker <+: (bytes ++ line later).drop i) ∧ Unmarked later
  | .frame _ :: later => Unmarked later

instance Unmarked.decidable : DecidablePred Unmarked
  | [] => .isTrue trivial
  | .garbage bytes :: later =>
    have := Unmarked.decidable later
    inferInstanceAs (Decidable ((∀ i < bytes.length, ¬ marker <+: (bytes ++ line later).drop i) ∧ Unmarked later))
  | .frame _ :: later => Unmarked.decidable later

theorem nextPiece_short {stream : Bytes} (few : stream.length ≤ 2) : nextPiece stream = none := by
  match stream with
  | [] | [_] | [_, _] => rfl
  | _ :: _ :: _ :: _ => simp at few

theorem nextPiece_garbage {byte : UInt8} {rest : Bytes} (long : 2 ≤ rest.length)
    (unmarked : ¬ marker <+: byte :: rest) : nextPiece (byte :: rest) = some (.garbage byte, rest) := by
  match rest with
  | [] | [_] => simp at long
  | m :: angle :: rest =>
    have different : [byte, m, angle] ≠ marker := by
      intro marked
      exact unmarked ⟨rest, by rw [← marked]; rfl⟩
    exact if_neg different

/-- Frames do not fit in two bytes. -/
theorem no_frames {segments : List Segment} (few : (line segments).length ≤ 2) :
    segments.filterMap Segment.parsed = [] ∧ segments.countP Segment.corrupt = 0 := by
  induction segments with
  | nil => exact ⟨rfl, rfl⟩
  | cons segment later ih =>
    rw [line, List.map_cons, List.flatten_cons, List.length_append] at few
    cases segment with
    | garbage bytes => exact ih (Nat.le_trans (Nat.le_add_left _ _) few)
    | frame raw =>
      have length := raw.bytes_length
      simp only [Segment.bytes] at few
      omega

/-- What the pieces of a stream deliver. -/
def delivers (stream : Bytes) : List ParsedFrame × Nat :=
  ((mspCutter.cut stream).1.filterMap Piece.parsed, (mspCutter.cut stream).1.countP Piece.corrupt)

theorem delivers_none {stream : Bytes} (waits : nextPiece stream = none) : delivers stream = ([], 0) := by
  rw [delivers, mspCutter.cut_none waits]
  rfl

theorem delivers_garbage {bytes : Bytes} {later : List Segment}
    (unmarked : ∀ i < bytes.length, ¬ marker <+: (bytes ++ line later).drop i)
    (rest : delivers (line later) = (later.filterMap Segment.parsed, later.countP Segment.corrupt)) :
    delivers (bytes ++ line later) = (later.filterMap Segment.parsed, later.countP Segment.corrupt) := by
  induction bytes with
  | nil => exact rest
  | cons byte bytes ih =>
    have first := unmarked 0 (Nat.succ_pos _)
    have behind := ih fun i within => unmarked (i + 1) (Nat.succ_lt_succ within)
    rw [List.cons_append, List.drop_zero] at first
    by_cases long : 2 ≤ (bytes ++ line later).length
    · rw [← behind, List.cons_append, delivers, mspCutter.cut_some (nextPiece_garbage long first)]
      rfl
    · -- too short to be told from the start of a marker, and for a frame
      rw [List.length_append] at long
      have few : (line later).length ≤ 2 := by omega
      obtain ⟨parsed, corrupt⟩ := no_frames few
      rw [parsed, corrupt]
      apply delivers_none
      apply nextPiece_short
      simp only [List.length_cons, List.length_append]
      omega

theorem delivers_line {segments : List Segment} (unmarked : Unmarked segments) :
    delivers (line segments) = (segments.filterMap Segment.parsed, segments.countP Segment.corrupt) := by
  induction segments with
  | nil => exact delivers_none rfl
  | cons segment later ih =>
    cases segment with
    | garbage bytes =>
      exact delivers_garbage unmarked.1 (ih unmarked.2)
    | frame raw =>
      have found : mspCutter.next (line (.frame raw :: later)) = some (.frame raw, line later) :=
        nextPiece_frame raw (line later)
      obtain ⟨frames, errors⟩ := Prod.mk.inj (ih unmarked)
      rw [delivers, mspCutter.cut_some found, List.filterMap_cons, List.countP_cons, List.filterMap_cons,
        List.countP_cons, ← frames, ← errors]
      rfl

/-- Frames among garbage and broken frames are delivered in order, and exactly the broken ones counted. -/
theorem drain_through_noise {σ : Type} (segments : List Segment) (unmarked : Unmarked segments)
    (handle : σ → ParsedFrame → σ) (parseErrors : Nat) (state : σ) :
    (parseDrain (steady handle) (line segments) parseErrors state).2 =
      (parseErrors + segments.countP Segment.corrupt, (segments.filterMap Segment.parsed).foldl handle state) := by
  obtain ⟨frames, errors⟩ := Prod.mk.inj (delivers_line unmarked)
  rw [parseDrain_eq, ← frames, ← errors]

/-- A reply whose payload spells a marker, behind a false start and before a broken acknowledgement. -/
theorem marker_in_payload :
    (parseDrain (steady fun frames frame => frames ++ [frame])
      (line [.garbage [0x24, 0x4D], .frame ⟨105, marker, 105 ^^^ 3 ^^^ 0x24 ^^^ 0x4D ^^^ 0x3E, by decide⟩,
        .frame ⟨1, [], 7, by decide⟩]) 0 []).2 = (1, [{ cmd := 105, payload := marker }]) :=
  drain_through_noise _ (by decide) _ 0 []

end AotDrone.Fc.Msp
