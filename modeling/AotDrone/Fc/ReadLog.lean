import AotDrone.Fc.CommandReceiver
import AotDrone.Lib.Logged

/-! The reader of CMD payloads once more, with every access of the text and every turn of a loop
written down, and with an `int` for the depth of the braces. A loop may take `turns` turns. -/

namespace AotDrone.Fc
open AotDrone.Lib AotDrone.Lib.Double AotDrone.Lib.Logged

/-- What a result outside its range leaves in an `int` is up to the compiler. -/
class IntOverflow where
  left : ℤ → ℤ

def storedInt [IntOverflow] (n : ℤ) : ℤ := if intMin ≤ n ∧ n ≤ intMax then n else IntOverflow.left n

namespace ReadLog

/-- An access of the text, or a turn of a loop with its index before and after it. -/
inductive Access where
  | read (pos : Nat)
  | compare (pos count : Nat)
  | substr (start stop : Nat)
  | turn (before after : Nat)
  deriving DecidableEq

/-- The access stays inside the text; the turn advances. -/
def Access.Sound (json : Text) : Access → Prop
  | .read pos => pos < json.length
  | .compare pos count => pos + count ≤ json.length
  | .substr start stop => start ≤ stop ∧ stop ≤ json.length
  | .turn before after => before < after

abbrev Scan (α : Type) := Logged Access α

def readAt (json : Text) (i : Nat) : Scan Char := do
  report (.read i)
  pure (charAt json i)

/-- `if (!x) return failed;` -/
def orReturn {α β : Type} (x : Scan (Option α)) (failed : β) (f : α → Scan β) : Scan β := do
  match ← x with
  | none => pure failed
  | some a => f a

/-- `json[i] == first || json[i] == second` -/
def readEither (json : Text) (i : Nat) (first second : Char) : Scan Bool := do
  let c ← readAt json i
  if c = first then pure true
  else do
    let c ← readAt json i
    pure (decide (c = second))

/-- `i < stop && (json[i] == first || json[i] == second)` -/
def eitherAt (json : Text) (i stop : Nat) (first second : Char) : Scan Bool :=
  if i < stop then readEither json i first second else pure false

/-- `i < stop && test(json[i])` -/
def testAt (json : Text) (i stop : Nat) (test : Char → Bool) : Scan Bool :=
  if i < stop then do
    let c ← readAt json i
    pure (test c)
  else pure false

/-- A loop of the source over the position that `index` picks from its state. -/
def scan {σ α : Type} (index : σ → Nat) (turn : σ → Scan (Turn σ α)) (turns : Nat) (s : σ) : Scan α :=
  loop (fun before after => .turn (index before) (index after)) turn turns s

/-- `while (i < stop && accepts(json[i])) ++i;` -/
def spanTurn (json : Text) (accepts : Char → Bool) (stop i : Nat) : Scan (Turn Nat Nat) :=
  if i < stop then do
    let c ← readAt json i
    if accepts c then pure (.again (i + 1)) else pure (.leave i)
  else pure (.leave i)

def stringTurn (json : Text) (stop : Nat) :
    Nat × Text × Bool → Scan (Turn (Nat × Text × Bool) (Option (Text × Nat)))
  | (i, value, escaped) =>
    if i < stop then do
      let c ← readAt json i
      if escaped then pure (.again (i + 1, value ++ [c], false))
      else if c = '\\' then pure (.again (i + 1, value, true))
      else if c = '"' then pure (.leave (some (value, i + 1)))
      else pure (.again (i + 1, value ++ [c], false))
    else pure (.leave none)

structure CloseState where
  i : Nat
  depth : ℤ := 0
  inString : Bool := false
  escaped : Bool := false

def closeTurn [IntOverflow] (json : Text) (stop : Nat) (openCh closeCh : Char) (s : CloseState) :
    Scan (Turn CloseState (Option Nat)) :=
  let next := { s with i := s.i + 1 }
  if s.i < stop then do
    let c ← readAt json s.i
    if s.inString then
      if s.escaped then pure (.again { next with escaped := false })
      else if c = '\\' then pure (.again { next with escaped := true })
      else if c = '"' then pure (.again { next with inString := false })
      else pure (.again next)
    else if c = '"' then pure (.again { next with inString := true })
    else if c = openCh then pure (.again { next with depth := storedInt (s.depth + 1) })
    else if c = closeCh then
      let depth := storedInt (s.depth - 1)
      if depth = 0 then pure (.leave (some s.i))
      else if depth < 0 then pure (.leave none)
      else pure (.again { next with depth })
    else pure (.again next)
  else pure (.leave none)

section reader
variable (turns : Nat)

def skipWsRange (json : Text) (i stop : Nat) : Scan Nat := scan id (spanTurn json isSpace stop) turns i

def parseJsonStringToken (json : Text) (start stop : Nat) : Scan (Option (Text × Nat)) :=
  if stop ≤ start then pure none
  else do
    let c ← readAt json start
    if c ≠ '"' then pure none else scan (·.1) (stringTurn json stop) turns (start + 1, [], false)

def findMatchingClose [IntOverflow] (json : Text) (openPos stop : Nat) (openCh closeCh : Char) : Scan (Option Nat) :=
  if stop ≤ openPos then pure none
  else do
    let c ← readAt json openPos
    if c ≠ openCh then pure none
    else scan (·.i) (closeTurn json stop openCh closeCh) turns { i := openPos }

def digitsEnd (json : Text) (i stop : Nat) : Scan Nat := scan id (spanTurn json Char.isDigit stop) turns i

def exponentEnd (json : Text) (i stop : Nat) : Scan (Option Nat) := do
  let hasExponent ← eitherAt json i stop 'e' 'E'
  if hasExponent then do
    let signed ← eitherAt json (i + 1) stop '+' '-'
    let i := if signed then i + 1 + 1 else i + 1
    let next ← digitsEnd turns json i stop
    if i < next then pure (some next) else pure none
  else pure (some i)

/-- Past the digits behind a point at `whole`, if there is one. -/
def fractionEnd (json : Text) (whole stop : Nat) (point : Bool) : Scan Nat :=
  if point then digitsEnd turns json (whole + 1) stop else pure whole

def parseJsonNumberTokenFrom (json : Text) (start stop : Nat) : Scan (Option (Text × Nat)) :=
  if stop ≤ start then pure none
  else do
    let signed ← readEither json start '+' '-'
    let i := if signed then start + 1 else start
    let whole ← digitsEnd turns json i stop
    let point ← testAt json whole stop (· == '.')
    let next ← fractionEnd turns json whole stop point
    let hasDigit := decide (i < whole) || (point && decide (whole + 1 < next))
    if hasDigit = false then pure none
    else
      orReturn (exponentEnd turns json next stop) none fun next => do
        let strange ← testAt json next stop fun c => !isValueDelim c
        if strange then pure none
        else do
          report (.substr start next)
          pure (some (substr json start (next - start), next))

/-- `pos + n <= stop && json.compare(pos, n, word) == 0` -/
def standsAt (json : Text) (pos stop : Nat) (word : Text) : Scan Bool :=
  if pos + word.length ≤ stop then do
    report (.compare pos word.length)
    pure (compareAt json pos word)
  else pure false

def wordEnd (json : Text) (pos stop : Nat) (word : Text) : Scan (Option Nat) :=
  if pos + word.length = stop then pure (some (pos + word.length))
  else do
    let c ← readAt json (pos + word.length)
    if isValueDelim c then pure (some (pos + word.length)) else pure none

variable [IntOverflow]

def skipJsonValue (json : Text) (valuePos stop : Nat) : Scan (Option Nat) :=
  if stop ≤ valuePos then pure none
  else do
    let c ← readAt json valuePos
    if c = '"' then do
      let token ← parseJsonStringToken turns json valuePos stop
      pure (token.map (·.2))
    else if c = '{' then do
      let closePos ← findMatchingClose turns json valuePos stop '{' '}'
      pure (closePos.map (· + 1))
    else if c = '[' then do
      let closePos ← findMatchingClose turns json valuePos stop '[' ']'
      pure (closePos.map (· + 1))
    else do
      let isTrue ← standsAt json valuePos stop "true".toList
      if isTrue then wordEnd json valuePos stop "true".toList
      else do
        let isFalse ← standsAt json valuePos stop "false".toList
        if isFalse then wordEnd json valuePos stop "false".toList
        else do
          let isNull ← standsAt json valuePos stop "null".toList
          if isNull then wordEnd json valuePos stop "null".toList
          else do
            let token ← parseJsonNumberTokenFrom turns json valuePos stop
            pure (token.map (·.2))

def findRootObjectSpan (json : Text) : Scan (Option (Nat × Nat)) := do
  let i ← skipWsRange turns json 0 json.length
  if json.length ≤ i then pure none
  else do
    let c ← readAt json i
    if c ≠ '{' then pure none
    else
      orReturn (findMatchingClose turns json i json.length '{' '}') none fun closePos => do
        let tail ← skipWsRange turns json (closePos + 1) json.length
        if tail ≠ json.length then pure none else pure (some (i, closePos))

/-- The turn from behind the name of a member on. -/
def memberTurn (json : Text) (objEnd : Nat) (key parsedKey : Text) (afterKey : Nat) : Scan (Turn Nat (Option Nat)) := do
  let i ← skipWsRange turns json afterKey objEnd
  if objEnd ≤ i then pure (.leave none)
  else do
    let c ← readAt json i
    if c ≠ ':' then pure (.leave none)
    else do
      let i ← skipWsRange turns json (i + 1) objEnd
      if objEnd ≤ i then pure (.leave none)
      else if parsedKey = key then pure (.leave (some i))
      else
        orReturn (skipJsonValue turns json i objEnd) (.leave none) fun next => do
          let comma ← testAt json next objEnd (· == ',')
          pure (.again (if comma then next + 1 else next))

def keyTurn (json : Text) (objEnd : Nat) (key : Text) (i : Nat) : Scan (Turn Nat (Option Nat)) :=
  if i < objEnd then do
    let i ← skipWsRange turns json i objEnd
    if objEnd ≤ i then pure (.leave none)
    else do
      let c ← readAt json i
      if c = ',' then pure (.again (i + 1))
      else do
        let c ← readAt json i
        if c ≠ '"' then pure (.leave none)
        else
          orReturn (parseJsonStringToken turns json i objEnd) (.leave none) fun (parsedKey, afterKey) =>
            memberTurn turns json objEnd key parsedKey afterKey
  else pure (.leave none)

def findKeyInObject (json : Text) (objStart objEnd : Nat) (key : Text) : Scan (Option Nat) :=
  if objEnd ≤ objStart then pure none
  else do
    let c ← readAt json objStart
    if c ≠ '{' then pure none
    else do
      let c ← readAt json objEnd
      if c ≠ '}' then pure none else scan id (keyTurn turns json objEnd key) turns (objStart + 1)

def findObjectSpanInObject (json : Text) (objStart objEnd : Nat) (key : Text) : Scan (Option (Nat × Nat)) :=
  orReturn (findKeyInObject turns json objStart objEnd key) none fun valuePos => do
    let brace ← testAt json valuePos objEnd (· == '{')
    if brace = false then pure none
    else do
      let closePos ← findMatchingClose turns json valuePos objEnd '{' '}'
      pure (closePos.map fun closePos => (valuePos, closePos))

def parseJsonStringFieldInObject (json : Text) (objStart objEnd : Nat) (key : Text) : Scan (Option Text) :=
  orReturn (findKeyInObject turns json objStart objEnd key) none fun valuePos => do
    let token ← parseJsonStringToken turns json valuePos objEnd
    pure (token.map (·.1))

def parseJsonNumberTokenInObject (json : Text) (objStart objEnd : Nat) (key : Text) : Scan (Option Text) :=
  orReturn (findKeyInObject turns json objStart objEnd key) none fun valuePos => do
    let token ← parseJsonNumberTokenFrom turns json valuePos objEnd
    pure (token.map (·.1))

/-- `word` stands at the position and a delimiter follows it. -/
def wordAt (json : Text) (pos stop : Nat) (word : Text) : Scan Bool := do
  let stands ← standsAt json pos stop word
  if stands then do
    let next ← wordEnd json pos stop word
    pure next.isSome
  else pure false

def parseJsonBoolFieldInObject (json : Text) (objStart objEnd : Nat) (key : Text) : Scan (Option Bool) :=
  orReturn (findKeyInObject turns json objStart objEnd key) none fun valuePos => do
    let isTrue ← wordAt json valuePos objEnd "true".toList
    if isTrue then pure (some true)
    else do
      let isFalse ← wordAt json valuePos objEnd "false".toList
      if isFalse then pure (some false) else pure none

variable [Fpu] [Libc]

def parseOptionalNumberInObject (json : Text) (objStart objEnd : Nat) (key : Text) : Scan (Option (Bool × Double)) :=
  orReturn (parseJsonNumberTokenInObject turns json objStart objEnd key) (some (false, 0)) fun token =>
    pure ((parseDouble token).map fun value => (true, value))

omit [Fpu] [Libc] in
def parseOptionalBoolInObject (json : Text) (objStart objEnd : Nat) (key : Text) : Scan (Bool × Bool) :=
  orReturn (parseJsonBoolFieldInObject turns json objStart objEnd key) (false, false) fun value =>
    pure (true, value)

def parseSetpoints (json : Text) (rootStart rootEnd : Nat) : Scan (Option CommandSetpoints) :=
  orReturn (findKeyInObject turns json rootStart rootEnd "setpoints".toList) (some {}) fun valuePos => do
    let brace ← testAt json valuePos rootEnd (· == '{')
    if brace = false then pure none
    else
      orReturn (findObjectSpanInObject turns json rootStart rootEnd "setpoints".toList) none fun (start, stop) =>
      orReturn (parseOptionalNumberInObject turns json start stop "roll".toList) none fun (hasRoll, roll) =>
      orReturn (parseOptionalNumberInObject turns json start stop "pitch".toList) none fun (hasPitch, pitch) =>
      orReturn (parseOptionalNumberInObject turns json start stop "yaw_rate".toList) none fun (hasYawRate, yawRate) =>
      orReturn (parseOptionalNumberInObject turns json start stop "throttle".toList) none fun (hasThrottle, throttle) =>
        pure (some { hasRoll, roll, hasPitch, pitch, hasYawRate, yawRate, hasThrottle, throttle })

def parseTracking (json : Text) (rootStart rootEnd : Nat) : Scan (Option CommandTracking) :=
  orReturn (findKeyInObject turns json rootStart rootEnd "tracking".toList) (some {}) fun valuePos => do
    let brace ← testAt json valuePos rootEnd (· == '{')
    if brace = false then pure none
    else
      orReturn (findObjectSpanInObject turns json rootStart rootEnd "tracking".toList) none fun (start, stop) =>
      let number (key : String) := parseJsonNumberTokenInObject turns json start stop key.toList
      orReturn (number "tracking_state") none fun stateToken =>
      orReturn (number "loc_x") none fun locXToken =>
      orReturn (number "loc_y") none fun locYToken =>
      orReturn (number "bound_w") none fun boundWToken =>
      orReturn (number "bound_h") none fun boundHToken =>
      orReturn (number "confidence") none fun confidenceToken =>
      orReturn (number "vis_seq") none fun visSeqToken =>
      orReturn (number "vis_timestamp_s") none fun visTimestampToken =>
      orReturn (pure (parseIntLike stateToken)) none fun trackingState =>
      orReturn (pure (parseDouble locXToken)) none fun locX =>
      orReturn (pure (parseDouble locYToken)) none fun locY =>
      orReturn (pure (parseDouble boundWToken)) none fun boundW =>
      orReturn (pure (parseDouble boundHToken)) none fun boundH =>
      orReturn (pure (parseDouble confidenceToken)) none fun confidence =>
      orReturn (pure (parseIntLike visSeqToken)) none fun visSeq =>
      orReturn (pure (parseDouble visTimestampToken)) none fun visTimestamp =>
        if trackingState < 1 ∨ 4 < trackingState then pure none
        else
          pure (some
            { hasTracking := true, trackingState, locX, locY, boundW, boundH, confidence, visSeq, visTimestamp })

/-- The result, and the frame behind the reference `out`. -/
def parseCmdFrame (json : Text) (out : CommandFrame) : Scan (Bool × CommandFrame) :=
  let failed := (false, out)
  orReturn (findRootObjectSpan turns json) failed fun (rootStart, rootEnd) =>
  orReturn (parseJsonStringFieldInObject turns json rootStart rootEnd "type".toList) failed fun type =>
    if type ≠ "CMD".toList then pure failed
    else
      let number (key : String) := parseJsonNumberTokenInObject turns json rootStart rootEnd key.toList
      orReturn (number "seq") failed fun seqToken =>
      orReturn (number "timestamp_s") failed fun tsToken =>
      orReturn (number "desired_mode") failed fun modeToken =>
      orReturn (pure (parseIntLike seqToken)) failed fun seq =>
      orReturn (pure (parseDouble tsToken)) failed fun timestamp =>
      orReturn (pure (parseIntLike modeToken)) failed fun desiredMode => do
        let (hasArm, arm) ← parseOptionalBoolInObject turns json rootStart rootEnd "arm".toList
        orReturn (parseSetpoints turns json rootStart rootEnd) failed fun setpoints =>
        orReturn (parseTracking turns json rootStart rootEnd) failed fun tracking =>
          pure (true, { seq, timestamp, desiredMode, hasArm, arm, setpoints, tracking, rawJson := json })

end reader
end ReadLog
end AotDrone.Fc
