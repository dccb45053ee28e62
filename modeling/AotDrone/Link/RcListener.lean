import AotDrone.Fc.FakeSink
import AotDrone.Link.TelDatagram

/-! The harness that listens to the fake sink (`fake_betaflight_listener.py`), on what a process has sent it. -/

namespace AotDrone.Link
open AotDrone.Lib AotDrone.Lib.Double AotDrone.Lib.Decimal AotDrone.Json AotDrone.Backend AotDrone.Fc

/-! ## The listener -/

/-- A frame, as far as the harness goes on to use it. -/
structure RcFrame where
  seq : ℤ
  channels : List ℤ
  deriving DecidableEq

def expectedFields : List String := ["type", "seq", "timestamp_s", "channels"]

/-- What `isinstance(value, int)` lets through, as a number. -/
def asInt : Value → Option ℤ
  | .int n => some n
  | .bool b => some (if b then 1 else 0)
  | .null | .float _ | .str _ | .arr _ | .obj _ => none

def isNumber : Value → Bool
  | .int _ | .bool _ | .float _ => true
  | .null | .str _ | .arr _ | .obj _ => false

def isText (value : Value) (text : PyStr) : Bool :=
  match value with
  | .str s => decide (s = text)
  | .null | .bool _ | .int _ | .float _ | .arr _ | .obj _ => false

def readMembers (members : Members) : Option RcFrame :=
  if isText (members.get "type") (pyStr "RC") && expectedFields.all members.has then do
    let seq ← (asInt (members.get "seq")).filter fun seq => decide (0 ≤ seq)
    if isNumber (members.get "timestamp_s") then
      match members.get "channels" with
      | .arr items => if items.length = 8 then (items.mapM asInt).map fun channels => { seq, channels } else none
      | .null | .bool _ | .int _ | .float _ | .str _ | .obj _ => none
    else none
  else none

/-- `decode_frame`, of a value that has been read. -/
def readFrame : Value → Option RcFrame
  | .obj members => readMembers members
  | .null | .bool _ | .int _ | .float _ | .str _ | .arr _ => none

def recursionLimit : ℕ := 1000

/-- `decode_frame`; only the nesting of a payload can raise. -/
def decodeFrame [Fpu] (payload : Bytes) : Except LoadsError (Option RcFrame) :=
  match decodeUtf8 payload with
  | none => .ok none
  | some text =>
    match loads recursionLimit text with
    | .ok value => .ok (readFrame value)
    | .error .decodeError => .ok none
    | .error .recursionError => .error .recursionError
    | .error .fuel => .error .fuel

structure RunStats where
  received : ℕ := 0
  decodeErrors : ℕ := 0
  outOfBand : ℕ := 0
  seqFirst : Option ℤ := none
  seqLast : Option ℤ := none
  seqGaps : ℕ := 0
  tFirstRecv : Option Double := none
  tLastRecv : Option Double := none

structure ListenerArgs where
  expectHz : Double
  hzTolerance : Double
  minFrames : ℤ
  maxSeqGap : ℤ
  strict : Bool

/-- The loop, with the code it has exited with if it has. -/
structure Listener where
  stats : RunStats := {}
  exited : Option ℕ := none

def isInBand (channel : ℤ) : Bool := decide (1000 ≤ channel) && decide (channel ≤ 2000)

namespace Listener
variable (args : ListenerArgs)

/-- What the harness makes of the number of a frame: the counted gap, and whether it can go on. -/
def checkSeq (stats : RunStats) (seq : ℤ) : RunStats × Bool :=
  match stats.seqFirst with
  | none => ({ stats with seqFirst := some seq, seqLast := some seq }, true)
  | some _ =>
    let gap := seq - stats.seqLast.getD 0
    if gap = 1 then ({ stats with seqLast := some seq }, true)
    else if gap < 0 ∨ args.maxSeqGap < gap then ({ stats with seqGaps := stats.seqGaps + 1 }, false)
    else ({ stats with seqGaps := stats.seqGaps + 1, seqLast := some seq }, true)

def takeFrame (stats : RunStats) (frame : RcFrame) : Listener :=
  let (stats, goesOn) := checkSeq args { stats with received := stats.received + 1 } frame.seq
  if goesOn = false then { stats, exited := some 2 }
  else if frame.channels.all isInBand then { stats }
  else { stats := { stats with outOfBand := stats.outOfBand + 1 }, exited := some 2 }

variable [Fpu]

/-- One datagram, of which `recvfrom` keeps 2048 bytes, and the time it comes at. -/
def hear (listener : Listener) (heard : Bytes × Double) : Listener :=
  match listener.exited with
  | some _ => listener
  | none =>
    let stats :=
      { listener.stats with
        tFirstRecv := listener.stats.tFirstRecv.or (some heard.2)
        tLastRecv := some heard.2 }
    match decodeFrame (heard.1.take 2048) with
    | .error _ => { stats, exited := some 1 }
    | .ok none =>
      { stats := { stats with decodeErrors := stats.decodeErrors + 1 }, exited := if args.strict then some 2 else none }
    | .ok (some frame) => takeFrame args stats frame

/-- `_evaluate_and_report`, where the assertion raises if nothing was received. -/
def evaluate (stats : RunStats) : ℕ :=
  if (stats.received : ℤ) < args.minFrames then 2
  else
    match stats.tFirstRecv, stats.tLastRecv with
    | some tFirst, some tLast =>
      let elapsed := pyMax (tLast - tFirst) 1e-6
      let observedHz := if 1 < stats.received then Fpu.round (stats.received - 1 : ℤ) / elapsed else 0
      let lo := args.expectHz * (1 - args.hzTolerance)
      let hi := args.expectHz * (1 + args.hzTolerance)
      if ¬ (lo ≤ observedHz ∧ observedHz ≤ hi) then 2
      else if args.strict && decide (0 < stats.decodeErrors) then 2
      else 0
    | none, _ | some _, none => 1

/-- The exit code of a run that hears these datagrams. -/
def main (heard : List (Bytes × Double)) : ℕ :=
  let listener := heard.foldl (hear args) {}
  listener.exited.getD (evaluate args listener.stats)

end Listener

/-! ## A datagram as JSON -/

section datagram
variable [FixedFormat] (seq : ℕ) (timestamp : ℚ) (cmd : BetaFlightCommand)

def numberItems (numbers : List ℕ) : List (Blank × Node × Blank) :=
  numbers.map fun n : ℕ => (.none, .number (.ofInt n), .none)

def rcNodes : List (String × Node) :=
  [("type", .string (quotedOf (pyStr "RC"))), ("seq", .number (.ofInt seq)),
    ("timestamp_s", .number (fixedToken timestamp)), ("channels", .array .none (numberItems cmd.channels))]

def rcNamed : List (PyStr × Node) := (rcNodes seq timestamp cmd).map fun m => (pyStr m.1, m.2)

def rcNode : Node := .object .none (namedFields (rcNamed seq timestamp cmd))

omit [FixedFormat] in
theorem itemsText_numbers (numbers : List ℕ) : itemsText (numberItems numbers) = numbersText numbers := by
  induction numbers with
  | nil => rfl
  | cons n numbers ih =>
    cases numbers with
    | nil => simp [numberItems, itemsText, numbersText, Blank.none, Node.text, intText]
    | cons next rest =>
      unfold numberItems at ih ⊢
      rw [List.map_cons] at ih
      rw [List.map_cons, List.map_cons, itemsText, ih, numbersText]
      rfl

theorem rcDatagram_text : rcDatagram seq (fin timestamp) cmd = (rcNode seq timestamp cmd).text := by
  have plain : ∀ m ∈ rcNodes seq timestamp cmd, escape (pyStr m.1) = m.1.toList := by
    simp only [rcNodes, List.forall_mem_cons, List.not_mem_nil, false_imp_iff, implies_true, and_true]
    decide
  have members := membersText_named (rcNodes seq timestamp cmd) plain
  have array : (Node.array .none (numberItems cmd.channels)).text = '[' :: (numbersText cmd.channels ++ [']']) := by
    rw [Node.text, itemsText_numbers]
    rfl
  rw [rcDatagram, rcNode, Node.text, rcNamed, ← members, rcNodes, List.map_cons, List.map_cons, List.map_cons,
    List.map_cons, array]
  rfl

omit [FixedFormat] in
theorem ascii_numbers (numbers : List ℕ) : Ascii (numbersText numbers) := by
  induction numbers with
  | nil => exact List.forall_mem_nil _
  | cons n numbers ih =>
    cases numbers with
    | nil => exact ascii_render _
    | cons next rest => exact (ascii_render _).append (.cons (by decide) ih)

theorem rcNode_ascii : Ascii (rcNode seq timestamp cmd).text := by
  have array : Ascii (Node.array .none (numberItems cmd.channels)).text := by
    rw [Node.text, itemsText_numbers]
    exact .cons (by decide) ((ascii_numbers _).append (.cons (by decide) (List.forall_mem_nil _)))
  have values : ∀ m ∈ rcNamed seq timestamp cmd, Ascii m.2.text := by
    simp only [rcNamed, rcNodes, List.map_cons, List.map_nil, List.forall_mem_cons, List.not_mem_nil, false_imp_iff,
      implies_true, and_true]
    exact ⟨ascii_word "\"RC\"".toList (by decide), ascii_render _, ascii_render _, array⟩
  exact .cons (by decide) ((ascii_named values).append (.cons (by decide) (List.forall_mem_nil _)))

theorem rcNode_depth : (rcNode seq timestamp cmd).depth = 2 := by
  simp only [rcNode, rcNamed, rcNodes, namedFields, numberItems, BetaFlightCommand.channels, List.map_cons, List.map_nil,
    Node.depth, fieldsDepth]
  rfl

variable [Fpu]

omit [FixedFormat] in
theorem itemsRead_numbers (numbers : List ℕ) (before : List Value) :
    itemsRead Dialect.python before (numberItems numbers) = some (before ++ numbers.map fun n : ℕ => .int n) := by
  induction numbers generalizing before with
  | nil =>
    rw [List.map_nil, List.append_nil]
    rfl
  | cons n numbers ih =>
    unfold numberItems at ih ⊢
    rw [List.map_cons, itemsRead, Node.read, read_ofInt]
    change itemsRead _ (before ++ [.int n]) _ = _
    rw [ih, List.append_assoc]
    rfl

/-- The members that the harness reads. -/
def rcMembers : Members := (rcNamed seq timestamp cmd).map fun m => (m.1, (m.2.read Dialect.python).getD .null)

theorem rcNode_read : (rcNode seq timestamp cmd).read Dialect.python = some (.obj (rcMembers seq timestamp cmd)) := by
  have array : ∃ items, (Node.array .none (numberItems cmd.channels)).read Dialect.python = some (.arr items) :=
    ⟨_, by rw [Node.read, itemsRead_numbers]; rfl⟩
  apply object_read Dialect.python fun v => (v.read Dialect.python).getD .null
  · simp only [rcNamed, rcNodes, List.map_cons, List.map_nil, List.forall_mem_cons, List.not_mem_nil, false_imp_iff,
      implies_true, and_true]
    obtain ⟨items, read⟩ := array
    exact ⟨rfl, rfl, rfl, by rw [read]; rfl⟩
  · simp only [rcNamed, rcNodes, List.map_cons, List.map_nil, List.forall_mem_cons, List.not_mem_nil, false_imp_iff,
      implies_true, and_true]
    decide
  · simp only [rcNamed, rcNodes, List.map_cons, List.map_nil]
    decide

theorem readMembers_rc : readMembers (rcMembers seq timestamp cmd) =
    some { seq, channels := cmd.channels.map fun n : ℕ => (n : ℤ) } := by
  obtain ⟨time, told, number⟩ : ∃ time, (Node.number (fixedToken timestamp)).read Dialect.python = some time ∧
      isNumber time = true := by
    refine ⟨Token.read (fixedToken timestamp), rfl, ?_⟩
    rcases read_cases (fixedToken timestamp) with ⟨n, whole, -⟩ | fraction
    · rw [whole]
      rfl
    · rw [fraction]
      rfl
  have tag : (Node.string (quotedOf (pyStr "RC"))).read Dialect.python = some (.str (pyStr "RC")) := by
    rw [Node.read, decoded_quotedOf (by decide)]
  have count : (Node.number (.ofInt seq)).read Dialect.python = some (.int seq) := by
    rw [Node.read, read_ofInt]
    rfl
  have array : (Node.array .none (numberItems cmd.channels)).read Dialect.python =
      some (.arr (cmd.channels.map fun n : ℕ => .int n)) := by
    rw [Node.read, itemsRead_numbers]
    rfl
  have members : rcMembers seq timestamp cmd = [(pyStr "type", .str (pyStr "RC")), (pyStr "seq", .int seq),
      (pyStr "timestamp_s", time), (pyStr "channels", .arr (cmd.channels.map fun n : ℕ => .int n))] := by
    simp only [rcMembers, rcNamed, rcNodes, List.map_cons, List.map_nil, told, tag, count, array, Option.getD_some]
  have nonneg : decide ((0 : ℤ) ≤ seq) = true := decide_eq_true (Int.natCast_nonneg seq)
  rw [members]
  unfold readMembers
  change (if true = true then
    ((some (seq : ℤ)).filter fun seq => decide (0 ≤ seq)).bind fun seq =>
      if isNumber time = true then
        if (cmd.channels.map fun n : ℕ => Value.int n).length = 8 then
          ((cmd.channels.map fun n : ℕ => Value.int n).mapM asInt).map fun channels => RcFrame.mk seq channels
        else none
      else none
    else none) = _
  rw [if_pos rfl, number]
  simp only [Option.filter, nonneg]
  rfl

/-- The harness reads the number and the channels of a datagram as they were. -/
theorem decodeFrame_rc : decodeFrame (asciiBytes (rcDatagram seq (fin timestamp) cmd)) =
    .ok (some { seq, channels := cmd.channels.map fun n : ℕ => (n : ℤ) }) := by
  have loaded : loads recursionLimit (codePoints (rcNode seq timestamp cmd).text) =
      .ok (.obj (rcMembers seq timestamp cmd)) := by
    rw [loads, read_node Dialect.python _ (by rw [rcNode_depth]; decide), rcNode_read]
    rfl
  rw [decodeFrame, rcDatagram_text, decodeUtf8_ascii (rcNode_ascii seq timestamp cmd)]
  dsimp only
  rw [loaded]
  exact congrArg Except.ok (readMembers_rc seq timestamp cmd)

end datagram

/-! ## What the harness makes of a run -/

/-- The harness goes on from one number to the next. -/
def Follows (args : ListenerArgs) (seq next : ℤ) : Prop :=
  next - seq = 1 ∨ 0 ≤ next - seq ∧ next - seq ≤ args.maxSeqGap

instance (args : ListenerArgs) : DecidableRel (Follows args) := fun _ _ => inferInstanceAs (Decidable (_ ∨ _))

/-- How often the next number is not the one after. -/
def seqBreaks : List ℤ → ℕ
  | [] | [_] => 0
  | seq :: next :: rest => (if next - seq = 1 then 0 else 1) + seqBreaks (next :: rest)

/-- What the harness has counted when it has heard these frames. -/
def heardStats (heard : List (ℤ × Double)) : RunStats where
  received := heard.length
  seqFirst := (heard.map Prod.fst).head?
  seqLast := (heard.map Prod.fst).getLast?
  seqGaps := seqBreaks (heard.map Prod.fst)
  tFirstRecv := (heard.map Prod.snd).head?
  tLastRecv := (heard.map Prod.snd).getLast?

theorem seqBreaks_append (seqs : List ℤ) (last next : ℤ) (ends : seqs.getLast? = some last) :
    seqBreaks (seqs ++ [next]) = seqBreaks seqs + if next - last = 1 then 0 else 1 := by
  induction seqs with
  | nil => cases ends
  | cons first seqs ih =>
    cases seqs with
    | nil =>
      obtain rfl := Option.some.inj ends
      exact Nat.add_comm _ _
    | cons second rest =>
      have later := ih ends
      rw [List.cons_append] at later
      rw [List.cons_append, List.cons_append, seqBreaks, later, seqBreaks, Nat.add_assoc]

theorem takeFrame_inBand (args : ListenerArgs) (stats : RunStats) {frame : RcFrame}
    (inBand : frame.channels.all isInBand = true) :
    Listener.takeFrame args stats frame =
      let checked := Listener.checkSeq args { stats with received := stats.received + 1 } frame.seq
      { stats := checked.1, exited := if checked.2 then none else some 2 } := by
  unfold Listener.takeFrame
  dsimp only
  rw [inBand, if_pos rfl]
  cases (Listener.checkSeq args { stats with received := stats.received + 1 } frame.seq).2 <;> rfl

section runs
variable [FixedFormat] [Fpu]

/-- A datagram that is numbered is a frame in the band. -/
theorem hear_numbered (args : ListenerArgs) (stats : RunStats) {k : ℕ} {text : Text} {cmd : BetaFlightCommand}
    (numbered : FakeSink.Numbered k text cmd) (time : Double) :
    Listener.hear args { stats } (asciiBytes text, time) =
      let checked := Listener.checkSeq args
        { stats with
          received := stats.received + 1
          tFirstRecv := stats.tFirstRecv.or (some time)
          tLastRecv := some time } ((k % 2 ^ 64 : ℕ) : ℤ)
      { stats := checked.1, exited := if checked.2 then none else some 2 } := by
  obtain ⟨timestamp, rfl⟩ := numbered.text
  have short : (asciiBytes (rcDatagram (k % 2 ^ 64) (fin timestamp) cmd)).take 2048 =
      asciiBytes (rcDatagram (k % 2 ^ 64) (fin timestamp) cmd) := by
    apply List.take_of_length_le
    rw [asciiBytes, List.length_map]
    exact numbered.short.le.trans (by decide)
  have inBand : (cmd.channels.map fun n : ℕ => (n : ℤ)).all isInBand = true := by
    rw [List.all_eq_true]
    intro channel member
    obtain ⟨n, own, rfl⟩ := List.mem_map.1 member
    obtain ⟨least, most⟩ := numbered.channels n own
    unfold isInBand
    rw [Bool.and_eq_true, decide_eq_true_eq, decide_eq_true_eq]
    omega
  unfold Listener.hear
  dsimp only
  rw [short, decodeFrame_rc]
  exact takeFrame_inBand args _ inBand

/-- The harness after these frames: it has counted them, or has exited for a number that does not follow. -/
def Heard (args : ListenerArgs) (heard : List (ℤ × Double)) (listener : Listener) : Prop :=
  if (heard.map Prod.fst).IsChain (Follows args) then listener = { stats := heardStats heard }
  else listener.exited = some 2

omit [FixedFormat] [Fpu] in
theorem checkSeq_heard (args : ListenerArgs) (heard : List (ℤ × Double)) (seq : ℤ) (time : Double)
    (chain : (heard.map Prod.fst).IsChain (Follows args)) :
    let checked := Listener.checkSeq args
      { heardStats heard with
        received := (heardStats heard).received + 1
        tFirstRecv := (heardStats heard).tFirstRecv.or (some time)
        tLastRecv := some time } seq
    Heard args (heard ++ [(seq, time)]) { stats := checked.1, exited := if checked.2 then none else some 2 } := by
  rcases heard.eq_nil_or_concat with rfl | ⟨before, ⟨last, since⟩, rfl⟩
  · exact (if_pos (List.isChain_singleton seq)).mpr rfl
  · rw [List.concat_eq_append] at chain ⊢
    have ends : ((before ++ [(last, since)]).map Prod.fst).getLast? = some last := by
      rw [List.map_append, List.map_singleton, List.getLast?_concat]
    obtain ⟨first, begins⟩ : ∃ first, ((before ++ [(last, since)]).map Prod.fst).head? = some first := by
      rw [List.map_append, List.head?_append]
      exact ⟨_, Option.or_some⟩
    generalize before ++ [(last, since)] = heard at chain ends begins ⊢
    have follows : ((heard ++ [(seq, time)]).map Prod.fst).IsChain (Follows args) ↔ Follows args last seq := by
      rw [List.map_append, List.isChain_append]
      simp [chain, ends]
    have stats : heardStats (heard ++ [(seq, time)]) =
        { heardStats heard with
          received := (heardStats heard).received + 1
          tFirstRecv := (heardStats heard).tFirstRecv.or (some time)
          tLastRecv := some time
          seqFirst := some first
          seqLast := some seq
          seqGaps := (heardStats heard).seqGaps + if seq - last = 1 then 0 else 1 } := by
      unfold heardStats
      simp only [List.map_append, List.map_singleton, List.length_append, List.length_singleton, List.head?_append,
        List.getLast?_concat, seqBreaks_append _ last seq ends, begins, List.head?_singleton, Option.some_or]
    have known : (heardStats heard).seqFirst = some first := begins
    have latest : (heardStats heard).seqLast = some last := ends
    unfold Heard Listener.checkSeq
    dsimp only
    rw [known, latest, stats]
    by_cases next : seq - last = 1
    · rw [if_pos (follows.2 (.inl next)), Option.getD_some, if_pos next, if_pos next]
      rfl
    · rw [Option.getD_some, if_neg next, if_neg next]
      by_cases outside : seq - last < 0 ∨ args.maxSeqGap < seq - last
      · have breaks : ¬ Follows args last seq := by
          unfold Follows
          omega
        rw [if_neg (breaks ∘ follows.1), if_pos outside]
        rfl
      · have fits : Follows args last seq := by
          unfold Follows
          omega
        rw [if_pos (follows.2 fits), if_neg outside]
        rfl

theorem Heard.hear {args : ListenerArgs} {heard : List (ℤ × Double)} {listener : Listener}
    (so : Heard args heard listener) {k : ℕ} {text : Text} {cmd : BetaFlightCommand}
    (numbered : FakeSink.Numbered k text cmd) (time : Double) :
    Heard args (heard ++ [(((k % 2 ^ 64 : ℕ) : ℤ), time)]) (listener.hear args (asciiBytes text, time)) := by
  unfold Heard at so
  split_ifs at so with chain
  · rw [so, hear_numbered args _ numbered]
    exact checkSeq_heard args heard _ time chain
  · unfold Heard Listener.hear
    rw [so]
    have broken : ¬ ((heard ++ [(((k % 2 ^ 64 : ℕ) : ℤ), time)]).map Prod.fst).IsChain (Follows args) := by
      rw [List.map_append, List.isChain_append]
      exact fun all => chain all.1
    rw [if_neg broken]
    exact so

end runs

/-! ## A whole session -/

section hardware
attribute [local instance] Binary64.binary64
variable [FixedFormat] [Libc]

/-- Whatever the loop of the FC is told, and whichever of its datagrams reach the harness, in any order and any number of
times: the harness fails for their numbers exactly when one does not follow, and for its counts and its rate
otherwise; it never finds one that it cannot read, nor a channel out of the band. -/
theorem harness_verdict (hover : HoverEnv) (start : ℤ) (events : List RcEvent) (args : ListenerArgs) :
    let sent := (RcProcess.run hover start events).sink.sent
    ∀ reached : List (Fin sent.length × Double),
      let heard := reached.map fun r => (((r.1.val % 2 ^ 64 : ℕ) : ℤ), r.2)
      Listener.main args (reached.map fun r => (asciiBytes (sent.get r.1), r.2)) =
        if (heard.map Prod.fst).IsChain (Follows args) then Listener.evaluate args (heardStats heard) else 2 := by
  intro sent reached heard
  have orderly := (RcProcess.run_inv hover start events).orderly
  have so : ∀ reached : List (Fin sent.length × Double),
      Heard args (reached.map fun r => (((r.1.val % 2 ^ 64 : ℕ) : ℤ), r.2))
        ((reached.map fun r => (asciiBytes (sent.get r.1), r.2)).foldl (Listener.hear args) {}) := by
    intro reached
    induction reached using List.reverseRecOn with
    | nil => exact (if_pos List.IsChain.nil).mpr rfl
    | append_singleton reached r ih =>
      obtain ⟨cmd, numbered⟩ := orderly.numbered r.1.val (sent.get r.1) (List.getElem?_eq_getElem r.1.isLt)
      rw [List.map_append, List.map_append, List.foldl_append]
      exact ih.hear numbered r.2
  have told := so reached
  unfold Heard at told
  unfold Listener.main
  dsimp only
  split_ifs at told with chain
  · rw [told, if_pos chain]
    rfl
  · rw [told, if_neg chain]
    rfl

end hardware
end AotDrone.Link
