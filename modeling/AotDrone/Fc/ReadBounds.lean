import AotDrone.Fc.ReadTokens
import AotDrone.Lib.Binary64

/-! The reader of CMD payloads stays inside the text and comes to an end, whatever the bytes are. On a
text that an `int` can count it is the reader of `CommandReceiver`. -/

namespace AotDrone.Fc.ReadLog
open AotDrone.Lib AotDrone.Lib.Double AotDrone.Lib.Logged

/-! ## Values and members -/

section members
variable {json : Text} {turns pos stop : Nat}

theorem standsAt_ends (room : stop ≤ json.length) (word : Text) :
    Reads json (standsAt json pos stop word)
      (· = decide (pos + word.length ≤ stop ∧ compareAt json pos word = true)) := by
  unfold standsAt
  split_ifs with fits
  · have sound : Access.Sound json (.compare pos word.length) := fits.trans room
    apply (Ends.report sound).bind
    intro _ _
    exact .pure (by simp [fits])
  · exact .pure (by simp [fits])

theorem wordEnd_finds (room : stop ≤ json.length) {word : Text} (solid : 0 < word.length)
    (fits : pos + word.length ≤ stop) :
    Finds json (wordEnd json pos stop word) (fun next => pos < next ∧ next ≤ stop) (Fc.wordEnd json pos stop word) := by
  have bounded (next : Nat) (made : some (pos + word.length) = some next) : pos < next ∧ next ≤ stop := by
    cases made
    omega
  unfold wordEnd Fc.wordEnd
  by_cases last : pos + word.length = stop
  · rw [if_pos last, if_pos (.inl last)]
    exact .pure bounded
  · rw [if_neg last]
    apply (readAt_ends (by omega)).bind
    intro c read
    subst read
    by_cases delimited : isValueDelim (charAt json (pos + word.length)) = true
    · rw [if_pos delimited, if_pos (.inr delimited)]
      exact .pure ⟨bounded, fun _ => rfl⟩
    · rw [if_neg delimited, if_neg (by simp [last, delimited])]
      exact .pure ⟨nofun, fun _ => rfl⟩

/-- A word that may stand at a position: its end, or what comes next. -/
theorem word_finds (room : stop ≤ json.length) {word : Text} (solid : 0 < word.length) {other : Scan (Option Nat)}
    {found : Option Nat} (otherwise : Finds json other (fun next => pos < next ∧ next ≤ stop) found) :
    Finds json
      (standsAt json pos stop word >>= fun stands => if stands then wordEnd json pos stop word else other)
      (fun next => pos < next ∧ next ≤ stop)
      (if pos + word.length ≤ stop ∧ compareAt json pos word = true then Fc.wordEnd json pos stop word else found) := by
  apply Ends.bind (standsAt_ends room word)
  intro stands same
  subst same
  simp only [decide_eq_true_eq]
  split_ifs with both
  · exact wordEnd_finds room solid both.1
  · exact otherwise

variable [IntOverflow]

theorem skipJsonValue_finds (room : stop ≤ json.length) (enough : json.length < turns) :
    Finds json (skipJsonValue turns json pos stop) (fun next => pos < next ∧ next ≤ stop)
      (Fc.skipJsonValue json pos stop) := by
  unfold skipJsonValue Fc.skipJsonValue
  by_cases out : stop ≤ pos
  · rw [if_pos out, if_pos out]
    exact .pure nofun
  · rw [if_neg out, if_neg out]
    apply Ends.bind (readAt_ends (by omega))
    intro c read
    subst read
    by_cases quote : charAt json pos = '"'
    · rw [if_pos quote, if_pos quote]
      exact (parseJsonStringToken_ends pos room enough).finds.map _ fun _ bound => bound
    · rw [if_neg quote, if_neg quote]
      by_cases brace : charAt json pos = '{'
      · rw [if_pos brace, if_pos brace]
        apply (findMatchingClose_finds room enough).map
        intro close bound
        omega
      · rw [if_neg brace, if_neg brace]
        by_cases bracket : charAt json pos = '['
        · rw [if_pos bracket, if_pos bracket]
          apply (findMatchingClose_finds room enough).map
          intro close bound
          omega
        · rw [if_neg bracket, if_neg bracket]
          apply word_finds room (by decide)
          apply word_finds room (by decide)
          apply word_finds room (by decide)
          exact (parseJsonNumberTokenFrom_ends pos room enough).finds.map _ fun _ bound => bound

theorem findRootObjectSpan_finds (enough : json.length < turns) :
    Finds json (findRootObjectSpan turns json) (fun span => span.2 < json.length) (Fc.findRootObjectSpan json) := by
  unfold findRootObjectSpan Fc.findRootObjectSpan
  apply Ends.bind (skipWsRange_ends le_rfl enough)
  intro i done
  obtain ⟨rfl, -, -⟩ := done
  dsimp only
  generalize Fc.skipWsRange json 0 json.length = i
  by_cases out : json.length ≤ i
  · rw [if_pos out, if_pos (.inl out)]
    exact .pure ⟨nofun, fun _ => rfl⟩
  · rw [if_neg out]
    apply Ends.bind (readAt_ends (by omega))
    intro c read
    subst read
    by_cases brace : charAt json i = '{'
    · rw [if_neg (not_not.2 brace), if_neg (by simp [out, brace])]
      apply orReturn_ends (findMatchingClose_finds le_rfl enough)
      · intro done
        constructor
        · exact nofun
        · intro countable
          rw [← done.2 countable]
      · intro closePos done
        obtain ⟨bound, same⟩ := done
        have inside := (bound closePos rfl).2
        apply Ends.bind (skipWsRange_ends le_rfl enough)
        intro tail done
        obtain ⟨rfl, -, -⟩ := done
        by_cases rest : Fc.skipWsRange json (closePos + 1) json.length = json.length
        · rw [if_neg (not_not.2 rest)]
          apply Ends.pure
          constructor
          · intro span made
            cases made
            exact inside
          · intro countable
            rw [← same countable]
            dsimp only
            rw [if_neg (not_not.2 rest)]
        · rw [if_pos rest]
          apply Ends.pure
          constructor
          · exact nofun
          · intro countable
            rw [← same countable]
            dsimp only
            rw [if_pos rest]
    · rw [if_pos brace, if_pos (.inr brace)]
      exact .pure ⟨nofun, fun _ => rfl⟩

/-- The plain loop from behind the name of a member on. -/
def memberRest (json : Text) (objEnd : Nat) (key : Text) (n : Nat) (parsedKey : Text) (afterKey : Nat) : Option Nat :=
  let i := Fc.skipWsRange json afterKey objEnd
  if objEnd ≤ i ∨ charAt json i ≠ ':' then none
  else
    let i := Fc.skipWsRange json (i + 1) objEnd
    if objEnd ≤ i then none
    else if parsedKey = key then some i
    else
      match Fc.skipJsonValue json i objEnd with
      | none => none
      | some next =>
        findKeyLoop json objEnd key n (if next < objEnd ∧ charAt json next = ',' then next + 1 else next)

/-- What a turn that began at `i` may do when `plain` is what is left of the plain loop. -/
def KeyAfter (json : Text) (objEnd : Nat) (key : Text) (i : Nat) (plain : Nat → Option Nat) :
    Turn Nat (Option Nat) → Prop
  | .leave r => (∀ found, r = some found → found < objEnd) ∧ (Countable json → ∀ n, plain n = r)
  | .again next => i < next ∧ next ≤ objEnd ∧ (Countable json → ∀ n, plain n = findKeyLoop json objEnd key n next)

omit [IntOverflow] in
theorem KeyAfter.fails {objEnd i : Nat} {key : Text} {plain : Nat → Option Nat} (none : ∀ n, plain n = none) :
    KeyAfter json objEnd key i plain (.leave .none) := ⟨nofun, fun _ => none⟩

theorem memberTurn_ends {objEnd i afterKey : Nat} {key parsedKey : Text} (room : objEnd ≤ json.length)
    (enough : json.length < turns) (after : i < afterKey) :
    Reads json (memberTurn turns json objEnd key parsedKey afterKey)
      (KeyAfter json objEnd key i fun n => memberRest json objEnd key n parsedKey afterKey) := by
  unfold memberTurn
  apply (skipWsRange_ends room enough).bind
  intro colon done
  obtain ⟨spaces, colon_ge, -⟩ := done
  by_cases out : objEnd ≤ colon
  · rw [if_pos out]
    apply Ends.pure
    apply KeyAfter.fails
    intro n
    simp only [memberRest, ← spaces, if_pos (Or.inl out)]
  · rw [if_neg out]
    apply (readAt_ends (by omega)).bind
    intro c read
    subst read
    by_cases separated : charAt json colon = ':'
    · have neither : ¬ (objEnd ≤ colon ∨ charAt json colon ≠ ':') := by simp [out, separated]
      rw [if_neg (not_not.2 separated)]
      apply (skipWsRange_ends room enough).bind
      intro value done
      obtain ⟨moreSpaces, value_ge, -⟩ := done
      by_cases past : objEnd ≤ value
      · rw [if_pos past]
        apply Ends.pure
        apply KeyAfter.fails
        intro n
        simp only [memberRest, ← spaces, if_neg neither, ← moreSpaces, if_pos past]
      · rw [if_neg past]
        by_cases named : parsedKey = key
        · rw [if_pos named]
          apply Ends.pure
          constructor
          · intro found made
            cases made
            omega
          · intro _ n
            simp only [memberRest, ← spaces, if_neg neither, ← moreSpaces, if_neg past, if_pos named]
        · rw [if_neg named]
          apply orReturn_ends (skipJsonValue_finds room enough)
          · intro done
            constructor
            · exact nofun
            · intro countable n
              simp only [memberRest, ← spaces, if_neg neither, ← moreSpaces, if_neg past, if_neg named,
                ← done.2 countable]
          · intro next done
            obtain ⟨bound, same⟩ := done
            obtain ⟨next_gt, next_le⟩ := bound next rfl
            apply (testAt_ends room (· == ',')).bind
            intro comma tested
            subst tested
            apply Ends.pure
            simp only [beq_iff_eq, decide_eq_true_eq]
            refine ⟨?_, ?_, ?_⟩
            · split_ifs <;> omega
            · split_ifs <;> omega
            · intro countable n
              simp only [memberRest, ← spaces, if_neg neither, ← moreSpaces, if_neg past, if_neg named,
                ← same countable]
    · rw [if_pos separated]
      apply Ends.pure
      apply KeyAfter.fails
      intro n
      simp only [memberRest, ← spaces, if_pos (Or.inr separated)]

theorem keyTurn_ends {objEnd i : Nat} {key : Text} (room : objEnd ≤ json.length) (enough : json.length < turns) :
    Reads json (keyTurn turns json objEnd key i)
      (KeyAfter json objEnd key i fun n => findKeyLoop json objEnd key (n + 1) i) := by
  unfold keyTurn
  by_cases under : i < objEnd
  · rw [if_pos under]
    have inside : ¬ objEnd ≤ i := not_le.2 under
    apply (skipWsRange_ends room enough).bind
    intro start done
    obtain ⟨spaces, start_ge, start_le⟩ := done
    by_cases out : objEnd ≤ start
    · rw [if_pos out]
      apply Ends.pure
      apply KeyAfter.fails
      intro n
      simp only [findKeyLoop, if_neg inside, ← spaces, if_pos out]
    · rw [if_neg out]
      apply (readAt_ends (by omega)).bind
      intro c read
      subst read
      by_cases comma : charAt json start = ','
      · rw [if_pos comma]
        apply Ends.pure
        constructor
        · omega
        · constructor
          · omega
          · intro _ n
            simp only [findKeyLoop, if_neg inside, ← spaces, if_neg out, if_pos comma]
      · rw [if_neg comma]
        apply (readAt_ends (by omega)).bind
        intro c read
        subst read
        by_cases quote : charAt json start = '"'
        · rw [if_neg (not_not.2 quote)]
          apply orReturn_ends (parseJsonStringToken_ends start room enough)
          · intro done
            apply KeyAfter.fails
            intro n
            simp only [findKeyLoop, if_neg inside, ← spaces, if_neg out, if_neg comma, if_neg (not_not.2 quote),
              ← done.1]
          · intro token done
            obtain ⟨parsedKey, afterKey⟩ := token
            obtain ⟨named, bound⟩ := done
            obtain ⟨after, -⟩ := bound _ rfl
            have plain (n : Nat) : findKeyLoop json objEnd key (n + 1) i =
                memberRest json objEnd key n parsedKey afterKey := by
              simp only [findKeyLoop, if_neg inside, ← spaces, if_neg out, if_neg comma, if_neg (not_not.2 quote),
                ← named]
              rfl
            simp only [plain]
            exact memberTurn_ends room enough (start_ge.trans_lt after)
        · rw [if_pos quote]
          apply Ends.pure
          apply KeyAfter.fails
          intro n
          simp only [findKeyLoop, if_neg inside, ← spaces, if_neg out, if_neg comma, if_pos quote]
  · rw [if_neg under]
    apply Ends.pure
    apply KeyAfter.fails
    intro n
    rw [findKeyLoop, if_pos (not_lt.1 under)]

theorem findKeyInObject_finds {objStart objEnd : Nat} {key : Text} (inside : objEnd < json.length)
    (enough : json.length < turns) :
    Finds json (findKeyInObject turns json objStart objEnd key) (fun pos => pos < objEnd)
      (Fc.findKeyInObject json objStart objEnd key) := by
  unfold findKeyInObject Fc.findKeyInObject
  by_cases out : objEnd ≤ objStart
  · rw [if_pos out, if_pos (.inl out)]
    exact .pure nofun
  · rw [if_neg out]
    apply Ends.bind (readAt_ends (by omega))
    intro c read
    subst read
    by_cases opens : charAt json objStart = '{'
    · rw [if_neg (not_not.2 opens)]
      -- the closing brace stands at the end of the span, which is a position of the text
      apply Ends.bind (readAt_ends inside)
      intro c read
      subst read
      by_cases closes : charAt json objEnd = '}'
      · rw [if_neg (not_not.2 closes), if_neg (by simp [out, opens, closes])]
        apply scan_ends (fun i => i ≤ objEnd ∧ (Countable json → ∃ n, objEnd < i + n ∧ findKeyLoop json objEnd key n i =
          findKeyLoop json objEnd key (objEnd - objStart) (objStart + 1))) objEnd inside.le _ _ enough
        · intro i inv
          obtain ⟨within, plain⟩ := inv
          apply (keyTurn_ends inside.le enough).mono
          intro turn done
          have fuel (countable : Countable json) : ∃ n, objEnd ≤ i + n ∧ findKeyLoop json objEnd key (n + 1) i =
              findKeyLoop json objEnd key (objEnd - objStart) (objStart + 1) := by
            obtain ⟨n, room, same⟩ := plain countable
            obtain ⟨m, rfl⟩ : ∃ m, n = m + 1 := ⟨n - 1, by omega⟩
            exact ⟨m, by omega, same⟩
          cases turn with
          | leave r =>
            constructor
            · exact done.1
            · intro countable
              obtain ⟨n, -, same⟩ := fuel countable
              exact (done.2 countable n).symm.trans same
          | again next =>
            obtain ⟨advance, within, kept⟩ := done
            refine ⟨⟨within, ?_⟩, advance, within⟩
            intro countable
            obtain ⟨n, room, same⟩ := fuel countable
            have advanced : i < next := advance
            exact ⟨n, by omega, (kept countable n).symm.trans same⟩
        · constructor
          · omega
          · intro _
            exact ⟨objEnd - objStart, by omega, rfl⟩
      · rw [if_pos closes, if_pos (.inr (.inr closes))]
        exact .pure ⟨nofun, fun _ => rfl⟩
    · rw [if_pos opens, if_pos (.inr (.inl opens))]
      exact .pure ⟨nofun, fun _ => rfl⟩

/-! ## Fields -/

section fields
variable {objStart objEnd : Nat} {key : Text} (inside : objEnd < json.length) (enough : json.length < turns)
include inside enough

theorem findObjectSpanInObject_finds :
    Finds json (findObjectSpanInObject turns json objStart objEnd key) (fun span => span.2 < json.length)
      (Fc.findObjectSpanInObject json objStart objEnd key) := by
  apply (findKeyInObject_finds inside enough).require
  · intro absent
    rw [Fc.findObjectSpanInObject, absent]
  · intro pos present
    rw [Fc.findObjectSpanInObject, present]
  · exact nofun
  intro pos under
  apply Ends.bind (testAt_ends inside.le (· == '{'))
  intro brace same
  subst same
  by_cases opens : charAt json pos = '{'
  · rw [if_neg (by simp [under, opens])]
    dsimp only
    rw [if_neg (by simp [under, opens])]
    apply (findMatchingClose_finds inside.le enough).map
    intro close bound
    exact bound.2.trans inside
  · rw [if_pos (by simp [opens])]
    dsimp only
    rw [if_pos (.inr opens)]
    exact .pure ⟨nofun, fun _ => rfl⟩

theorem parseJsonStringFieldInObject_finds :
    Finds json (parseJsonStringFieldInObject turns json objStart objEnd key) (fun _ => True)
      (Fc.parseJsonStringFieldInObject json objStart objEnd key) := by
  apply (findKeyInObject_finds inside enough).require
  · intro absent
    rw [Fc.parseJsonStringFieldInObject, absent]
  · intro pos present
    rw [Fc.parseJsonStringFieldInObject, present]
  · exact nofun
  · intro pos _
    exact (parseJsonStringToken_ends pos inside.le enough).finds.map _ fun _ _ => trivial

theorem parseJsonNumberTokenInObject_finds :
    Finds json (parseJsonNumberTokenInObject turns json objStart objEnd key) (fun _ => True)
      (Fc.parseJsonNumberTokenInObject json objStart objEnd key) := by
  apply (findKeyInObject_finds inside enough).require
  · intro absent
    rw [Fc.parseJsonNumberTokenInObject, absent]
  · intro pos present
    rw [Fc.parseJsonNumberTokenInObject, present]
  · exact nofun
  · intro pos _
    exact (parseJsonNumberTokenFrom_ends pos inside.le enough).finds.map _ fun _ _ => trivial

/-- `word` stands at a position of the text and a delimiter follows it. -/
def holdsWord (json : Text) (pos stop : Nat) (word : Text) : Bool :=
  decide (pos + word.length ≤ stop ∧ compareAt json pos word = true ∧ (Fc.wordEnd json pos stop word).isSome = true)

omit inside enough [IntOverflow] in
theorem wordAt_ends {pos stop : Nat} (room : stop ≤ json.length) {word : Text} (solid : 0 < word.length) :
    Reads json (wordAt json pos stop word) fun r => Countable json → r = holdsWord json pos stop word := by
  unfold wordAt holdsWord
  apply (standsAt_ends room word).bind
  intro stands same
  subst same
  simp only [decide_eq_true_eq]
  split_ifs with both
  · apply Ends.bind (wordEnd_finds room solid both.1)
    intro next done
    apply Ends.pure
    intro countable
    simp [both, done.2 countable]
  · apply Ends.pure
    intro _
    simp only [← and_assoc, both, false_and, decide_false]

theorem parseJsonBoolFieldInObject_finds :
    Finds json (parseJsonBoolFieldInObject turns json objStart objEnd key) (fun _ => True)
      (Fc.parseJsonBoolFieldInObject json objStart objEnd key) := by
  have plain : Fc.parseJsonBoolFieldInObject json objStart objEnd key =
      (Fc.findKeyInObject json objStart objEnd key).bind fun pos =>
        if holdsWord json pos objEnd "true".toList then some true
        else if holdsWord json pos objEnd "false".toList then some false
        else none := by
    unfold Fc.parseJsonBoolFieldInObject holdsWord
    simp only [decide_eq_true_eq]
    cases Fc.findKeyInObject json objStart objEnd key <;> rfl
  rw [plain]
  apply (findKeyInObject_finds inside enough).bind
  intro pos _
  have known (r : Option Bool) : ∀ value, r = some value → True := fun _ _ => trivial
  apply Ends.bind (wordAt_ends inside.le (by decide))
  intro isTrue same
  cases isTrue with
  | true =>
    apply Ends.pure
    refine ⟨known _, ?_⟩
    intro countable
    rw [← same countable]
    rfl
  | false =>
    apply Ends.bind (wordAt_ends inside.le (by decide))
    intro isFalse same'
    cases isFalse with
    | true =>
      apply Ends.pure
      refine ⟨known _, ?_⟩
      intro countable
      rw [← same countable, ← same' countable]
      rfl
    | false =>
      apply Ends.pure
      refine ⟨known _, ?_⟩
      intro countable
      rw [← same countable, ← same' countable]
      rfl

theorem parseOptionalBoolInObject_ends :
    Reads json (parseOptionalBoolInObject turns json objStart objEnd key) fun r =>
      Countable json → r = Fc.parseOptionalBoolInObject json objStart objEnd key := by
  unfold parseOptionalBoolInObject Fc.parseOptionalBoolInObject
  apply orReturn_ends (parseJsonBoolFieldInObject_finds inside enough)
  · intro done countable
    rw [← done.2 countable]
  · intro value done
    apply Ends.pure
    intro countable
    rw [← done.2 countable]

variable [Fpu] [Libc]

theorem parseOptionalNumberInObject_finds :
    Finds json (parseOptionalNumberInObject turns json objStart objEnd key) (fun _ => True)
      (Fc.parseOptionalNumberInObject json objStart objEnd key) := by
  apply (parseJsonNumberTokenInObject_finds inside enough).require
  · intro absent
    rw [Fc.parseOptionalNumberInObject, absent]
  · intro token present
    rw [Fc.parseOptionalNumberInObject, present]
  · exact fun _ _ => trivial
  · intro token _
    exact .pure fun _ _ => trivial

end fields

/-! ## The frame -/

variable [Fpu] [Libc]

theorem parseSetpoints_finds {rootStart rootEnd : Nat} (inside : rootEnd < json.length) (enough : json.length < turns) :
    Finds json (parseSetpoints turns json rootStart rootEnd) (fun _ => True)
      (Fc.parseSetpoints json rootStart rootEnd) := by
  apply (findKeyInObject_finds inside enough).require
  · intro absent
    rw [Fc.parseSetpoints, absent]
  · intro pos present
    rw [Fc.parseSetpoints, present]
  · exact fun _ _ => trivial
  intro pos under
  apply Ends.bind (testAt_ends inside.le (· == '{'))
  intro brace same
  subst same
  by_cases opens : charAt json pos = '{'
  · rw [if_neg (by simp [under, opens])]
    dsimp only
    rw [if_neg (by simp [under, opens])]
    apply (findObjectSpanInObject_finds inside enough).require
    · intro absent
      rw [absent]
    · intro span present
      rw [present]
    · exact fun _ _ => trivial
    intro span closed
    apply (parseOptionalNumberInObject_finds closed enough).bind
    intro roll _
    apply (parseOptionalNumberInObject_finds closed enough).bind
    intro pitch _
    apply (parseOptionalNumberInObject_finds closed enough).bind
    intro yawRate _
    apply (parseOptionalNumberInObject_finds closed enough).bind
    intro throttle _
    exact Ends.pure ⟨fun _ _ => trivial, fun _ => rfl⟩
  · rw [if_pos (by simp [opens])]
    dsimp only
    rw [if_pos (.inr opens)]
    exact .pure ⟨fun _ _ => trivial, fun _ => rfl⟩

theorem parseTracking_finds {rootStart rootEnd : Nat} (inside : rootEnd < json.length) (enough : json.length < turns) :
    Finds json (parseTracking turns json rootStart rootEnd) (fun _ => True)
      (Fc.parseTracking json rootStart rootEnd) := by
  apply (findKeyInObject_finds inside enough).require
  · intro absent
    rw [Fc.parseTracking, absent]
  · intro pos present
    rw [Fc.parseTracking, present]
  · exact fun _ _ => trivial
  intro pos under
  apply Ends.bind (testAt_ends inside.le (· == '{'))
  intro brace same
  subst same
  by_cases opens : charAt json pos = '{'
  · rw [if_neg (by simp [under, opens])]
    dsimp only
    rw [if_neg (by simp [under, opens])]
    apply (findObjectSpanInObject_finds inside enough).require
    · intro absent
      rw [absent]
    · intro span present
      rw [present]
    · exact fun _ _ => trivial
    intro span closed
    apply (parseJsonNumberTokenInObject_finds closed enough).bind
    intro stateToken _
    apply (parseJsonNumberTokenInObject_finds closed enough).bind
    intro locXToken _
    apply (parseJsonNumberTokenInObject_finds closed enough).bind
    intro locYToken _
    apply (parseJsonNumberTokenInObject_finds closed enough).bind
    intro boundWToken _
    apply (parseJsonNumberTokenInObject_finds closed enough).bind
    intro boundHToken _
    apply (parseJsonNumberTokenInObject_finds closed enough).bind
    intro confidenceToken _
    apply (parseJsonNumberTokenInObject_finds closed enough).bind
    intro visSeqToken _
    apply (parseJsonNumberTokenInObject_finds closed enough).bind
    intro visTimestampToken _
    apply Finds.convert
    intro trackingState
    apply Finds.convert
    intro locX
    apply Finds.convert
    intro locY
    apply Finds.convert
    intro boundW
    apply Finds.convert
    intro boundH
    apply Finds.convert
    intro confidence
    apply Finds.convert
    intro visSeq
    apply Finds.convert
    intro visTimestamp
    split_ifs
    · exact Ends.pure ⟨fun _ _ => trivial, fun _ => rfl⟩
    · exact Ends.pure ⟨fun _ _ => trivial, fun _ => rfl⟩
  · rw [if_pos (by simp [opens])]
    dsimp only
    rw [if_pos (.inr opens)]
    exact .pure ⟨fun _ _ => trivial, fun _ => rfl⟩

/-- The result says what the plain reader finds, and a refusal leaves the frame behind `out` alone. -/
def Answers (json : Text) (out : CommandFrame) (x : Scan (Bool × CommandFrame)) (plain : Option CommandFrame) : Prop :=
  Reads json x fun r =>
    (r.1 = false → r.2 = out) ∧ (Countable json → r = plain.elim (false, out) fun frame => (true, frame))

section answers
variable {α : Type} {out : CommandFrame} {f : α → Scan (Bool × CommandFrame)} {g : α → Option CommandFrame}
omit [IntOverflow] [Fpu] [Libc]

theorem Answers.require {x : Scan (Option α)} {B : α → Prop} {found : Option α} {plain : Option CommandFrame}
    (first : Finds json x B found) (absent : found = none → plain = none) (present : ∀ a, found = some a → plain = g a)
    (rest : ∀ a, B a → Answers json out (f a) (g a)) : Answers json out (orReturn x (false, out) f) plain := by
  apply orReturn_ends first
  · intro done
    constructor
    · intro _
      rfl
    · intro countable
      rw [absent (done.2 countable).symm]
      rfl
  · intro a done
    obtain ⟨bound, same⟩ := done
    apply (rest a (bound a rfl)).mono
    intro r holds
    constructor
    · exact holds.1
    · intro countable
      rw [present a (same countable).symm]
      exact holds.2 countable

theorem Answers.bind {x : Scan (Option α)} {B : α → Prop} {found : Option α} (first : Finds json x B found)
    (rest : ∀ a, B a → Answers json out (f a) (g a)) :
    Answers json out (orReturn x (false, out) f) (found.bind g) := by
  apply Answers.require first
  · intro absent
    rw [absent]
    rfl
  · intro a present
    rw [present]
  · exact rest

/-- A part of the frame that is read in any case. -/
theorem Answers.always {x : Scan α} {value : α} (first : Reads json x fun r => Countable json → r = value)
    (rest : ∀ a, Answers json out (f a) (g a)) : Answers json out (x >>= f) (g value) := by
  apply Ends.bind first
  intro a same
  apply (rest a).mono
  intro r holds
  constructor
  · exact holds.1
  · intro countable
    rw [← same countable]
    exact holds.2 countable

theorem Answers.convert {found : Option α} (rest : ∀ a, Answers json out (f a) (g a)) :
    Answers json out (orReturn (pure found) (false, out) f) (found.bind g) :=
  Answers.bind (Finds.pure (B := fun _ => True) fun _ _ => trivial) fun a _ => rest a

theorem Answers.refuse : Answers json out (pure (false, out)) none := Ends.pure ⟨fun _ => rfl, fun _ => rfl⟩

end answers

theorem parseCmdFrame_answers (out : CommandFrame) (enough : json.length < turns) :
    Answers json out (parseCmdFrame turns json out) (Fc.parseCmdFrame json) := by
  apply Answers.require (findRootObjectSpan_finds enough)
  · intro absent
    rw [Fc.parseCmdFrame, absent]
  · intro span present
    rw [Fc.parseCmdFrame, present]
  intro span inside
  apply Answers.bind (parseJsonStringFieldInObject_finds inside enough)
  intro type _
  by_cases cmd : type = "CMD".toList
  · rw [if_neg (not_not.2 cmd), if_neg (not_not.2 cmd)]
    apply Answers.bind (parseJsonNumberTokenInObject_finds inside enough)
    intro seqToken _
    apply Answers.bind (parseJsonNumberTokenInObject_finds inside enough)
    intro tsToken _
    apply Answers.bind (parseJsonNumberTokenInObject_finds inside enough)
    intro modeToken _
    apply Answers.convert
    intro seq
    apply Answers.convert
    intro timestamp
    apply Answers.convert
    intro desiredMode
    have armed : Reads json (parseOptionalBoolInObject turns json span.1 span.2 "arm".toList) _ :=
      parseOptionalBoolInObject_ends inside enough
    generalize Fc.parseOptionalBoolInObject json span.1 span.2 "arm".toList = arm at armed
    apply Answers.always armed
    intro arm
    apply Answers.bind (parseSetpoints_finds inside enough)
    intro setpoints _
    apply Answers.bind (parseTracking_finds inside enough)
    intro tracking _
    exact Ends.pure ⟨nofun, fun _ => rfl⟩
  · rw [if_pos cmd, if_pos cmd]
    exact .refuse

/-- Whatever the bytes are, every loop of the reader comes to its end by itself within a turn more than the
text has bytes, each of its turns advances, every access stays inside the text, and a refusal leaves the
frame alone. -/
theorem parseCmdFrame_total (json : Text) (out : CommandFrame) (turns : Nat) (enough : json.length < turns) :
    ∃ result after, (parseCmdFrame turns json out).value = some (result, after) ∧ (result = false → after = out) ∧
      ∀ access ∈ (parseCmdFrame turns json out).events, access.Sound json := by
  obtain ⟨⟨result, after⟩, value, answered, clean⟩ := parseCmdFrame_answers out enough
  exact ⟨result, after, value, answered.1, clean⟩

/-- On a text that an `int` can count this is the plain reader. -/
theorem parseCmdFrame_value (out : CommandFrame) (enough : json.length < turns) (countable : Countable json) :
    (parseCmdFrame turns json out).value =
      some ((Fc.parseCmdFrame json).elim (false, out) fun frame => (true, frame)) := by
  obtain ⟨answer, value, answered, -⟩ := parseCmdFrame_answers out enough
  rw [value, answered.2 countable]

end members

section hardware
attribute [local instance] Binary64.binary64 Libc.strict

/-- Two's complement. -/
@[reducible] def wrapping : IntOverflow where
  left n := n.bmod (2 ^ 32)

/-- A frame that breaks off within an escape. -/
def truncated : Text := "\x7b\"type\":\"CMD\",\"seq\":7,\"note\":\"\\".toList

attribute [local instance] wrapping in
theorem truncated_total : truncated.length < 40 ∧
    ∃ result after, (parseCmdFrame 40 truncated {}).value = some (result, after) ∧ (result = false → after = {}) ∧
      ∀ access ∈ (parseCmdFrame 40 truncated {}).events, access.Sound truncated :=
  ⟨by decide, parseCmdFrame_total truncated {} 40 (by decide)⟩

end hardware
end AotDrone.Fc.ReadLog
