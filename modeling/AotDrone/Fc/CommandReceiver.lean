import AotDrone.Lib.Decimal

/-! The hand-written reader of CMD payloads (`CommandReceiver.h`, `CommandReceiver.cpp`). A loop
of the source is a recursion on the number of positions it may still visit. -/

namespace AotDrone.Fc
open AotDrone.Lib AotDrone.Lib.Double

/-- `json[i]`; the terminator stands behind the last character. -/
def charAt (json : Text) (i : Nat) : Char := json.getD i '\x00'

/-- C `isspace`. -/
def isSpace (c : Char) : Bool :=
  c == ' ' || c == '\t' || c == '\n' || c == '\x0b' || c == '\x0c' || c == '\x0d'

def isValueDelim (c : Char) : Bool := c == ',' || c == '}' || c == ']' || isSpace c

def skipWsLoop (json : Text) : Nat → Nat → Nat
  | 0, i => i
  | n + 1, i => if isSpace (charAt json i) then skipWsLoop json n (i + 1) else i

/-- The first position that is not white space, at most `stop`. -/
def skipWsRange (json : Text) (i stop : Nat) : Nat := skipWsLoop json (stop - i) i

def stringTokenLoop (json : Text) : Nat → Nat → Text → Bool → Option (Text × Nat)
  | 0, _, _, _ => none
  | n + 1, i, value, escaped =>
    let c := charAt json i
    if escaped then stringTokenLoop json n (i + 1) (value ++ [c]) false
    else if c = '\\' then stringTokenLoop json n (i + 1) value true
    else if c = '"' then some (value, i + 1)
    else stringTokenLoop json n (i + 1) (value ++ [c]) false

/-- The characters of a string, an escape read as the character after the backslash. -/
def parseJsonStringToken (json : Text) (start stop : Nat) : Option (Text × Nat) :=
  if stop ≤ start ∨ charAt json start ≠ '"' then none
  else stringTokenLoop json (stop - (start + 1)) (start + 1) [] false

def matchingCloseLoop (json : Text) (openCh closeCh : Char) : Nat → Nat → ℤ → Bool → Bool → Option Nat
  | 0, _, _, _, _ => none
  | n + 1, i, depth, inString, escaped =>
    let c := charAt json i
    if inString then
      if escaped then matchingCloseLoop json openCh closeCh n (i + 1) depth true false
      else if c = '\\' then matchingCloseLoop json openCh closeCh n (i + 1) depth true true
      else if c = '"' then matchingCloseLoop json openCh closeCh n (i + 1) depth false escaped
      else matchingCloseLoop json openCh closeCh n (i + 1) depth true escaped
    else if c = '"' then matchingCloseLoop json openCh closeCh n (i + 1) depth true escaped
    else if c = openCh then matchingCloseLoop json openCh closeCh n (i + 1) (depth + 1) false escaped
    else if c = closeCh then
      if depth - 1 = 0 then some i
      else if depth - 1 < 0 then none
      else matchingCloseLoop json openCh closeCh n (i + 1) (depth - 1) false escaped
    else matchingCloseLoop json openCh closeCh n (i + 1) depth false escaped

def findMatchingClose (json : Text) (openPos stop : Nat) (openCh closeCh : Char) : Option Nat :=
  if stop ≤ openPos ∨ charAt json openPos ≠ openCh then none
  else matchingCloseLoop json openCh closeCh (stop - openPos) openPos 0 false false

def digitsLoop (json : Text) : Nat → Nat → Nat
  | 0, i => i
  | n + 1, i => if (charAt json i).isDigit then digitsLoop json n (i + 1) else i

/-- The end of the run of digits from `i`, at most `stop`. -/
def digitsEnd (json : Text) (i stop : Nat) : Nat := digitsLoop json (stop - i) i

/-- Past an exponent at `i` if there is one; `none` for an exponent without digits. -/
def exponentEnd (json : Text) (i stop : Nat) : Option Nat :=
  if i < stop ∧ (charAt json i = 'e' ∨ charAt json i = 'E') then
    let i := i + 1
    let i := if i < stop ∧ (charAt json i = '+' ∨ charAt json i = '-') then i + 1 else i
    let next := digitsEnd json i stop
    if i < next then some next else none
  else some i

def substr (json : Text) (start count : Nat) : Text := (json.drop start).take count

def parseJsonNumberTokenFrom (json : Text) (start stop : Nat) : Option (Text × Nat) :=
  if stop ≤ start then none
  else
    let i := if charAt json start = '+' ∨ charAt json start = '-' then start + 1 else start
    let whole := digitsEnd json i stop
    let point := decide (whole < stop) && decide (charAt json whole = '.')
    let next := if point then digitsEnd json (whole + 1) stop else whole
    let hasDigit := decide (i < whole) || (point && decide (whole + 1 < next))
    if hasDigit = false then none
    else
      match exponentEnd json next stop with
      | none => none
      | some next =>
        if next < stop ∧ isValueDelim (charAt json next) = false then none
        else some (substr json start (next - start), next)

/-- `json.compare(pos, n, word) == 0` for a word of length n. -/
def compareAt (json : Text) (pos : Nat) (word : Text) : Bool := substr json pos word.length == word

/-- The end of `word` at `pos` when a delimiter follows it. -/
def wordEnd (json : Text) (pos stop : Nat) (word : Text) : Option Nat :=
  if pos + word.length = stop ∨ isValueDelim (charAt json (pos + word.length)) = true then
    some (pos + word.length)
  else none

def skipJsonValue (json : Text) (valuePos stop : Nat) : Option Nat :=
  if stop ≤ valuePos then none
  else
    let c := charAt json valuePos
    if c = '"' then (parseJsonStringToken json valuePos stop).map (·.2)
    else if c = '{' then (findMatchingClose json valuePos stop '{' '}').map (· + 1)
    else if c = '[' then (findMatchingClose json valuePos stop '[' ']').map (· + 1)
    else if valuePos + 4 ≤ stop ∧ compareAt json valuePos "true".toList then
      wordEnd json valuePos stop "true".toList
    else if valuePos + 5 ≤ stop ∧ compareAt json valuePos "false".toList then
      wordEnd json valuePos stop "false".toList
    else if valuePos + 4 ≤ stop ∧ compareAt json valuePos "null".toList then
      wordEnd json valuePos stop "null".toList
    else (parseJsonNumberTokenFrom json valuePos stop).map (·.2)

/-- The positions of the braces of the root object. -/
def findRootObjectSpan (json : Text) : Option (Nat × Nat) :=
  let i := skipWsRange json 0 json.length
  if json.length ≤ i ∨ charAt json i ≠ '{' then none
  else
    match findMatchingClose json i json.length '{' '}' with
    | none => none
    | some closePos =>
      if skipWsRange json (closePos + 1) json.length ≠ json.length then none else some (i, closePos)

/-- Every turn of the loop advances, so the positions before `objEnd` bound the turns. -/
def findKeyLoop (json : Text) (objEnd : Nat) (key : Text) : Nat → Nat → Option Nat
  | 0, _ => none
  | n + 1, i =>
    if objEnd ≤ i then none
    else
      let i := skipWsRange json i objEnd
      if objEnd ≤ i then none
      else if charAt json i = ',' then findKeyLoop json objEnd key n (i + 1)
      else if charAt json i ≠ '"' then none
      else
        match parseJsonStringToken json i objEnd with
        | none => none
        | some (parsedKey, afterKey) =>
          let i := skipWsRange json afterKey objEnd
          if objEnd ≤ i ∨ charAt json i ≠ ':' then none
          else
            let i := skipWsRange json (i + 1) objEnd
            if objEnd ≤ i then none
            else if parsedKey = key then some i
            else
              match skipJsonValue json i objEnd with
              | none => none
              | some next =>
                findKeyLoop json objEnd key n
                  (if next < objEnd ∧ charAt json next = ',' then next + 1 else next)

/-- The position of the value of the first member whose name reads as `key`. -/
def findKeyInObject (json : Text) (objStart objEnd : Nat) (key : Text) : Option Nat :=
  if objEnd ≤ objStart ∨ charAt json objStart ≠ '{' ∨ charAt json objEnd ≠ '}' then none
  else findKeyLoop json objEnd key (objEnd - objStart) (objStart + 1)

def findObjectSpanInObject (json : Text) (objStart objEnd : Nat) (key : Text) : Option (Nat × Nat) :=
  match findKeyInObject json objStart objEnd key with
  | none => none
  | some valuePos =>
    if objEnd ≤ valuePos ∨ charAt json valuePos ≠ '{' then none
    else (findMatchingClose json valuePos objEnd '{' '}').map fun closePos => (valuePos, closePos)

def parseJsonStringFieldInObject (json : Text) (objStart objEnd : Nat) (key : Text) : Option Text :=
  match findKeyInObject json objStart objEnd key with
  | none => none
  | some valuePos => (parseJsonStringToken json valuePos objEnd).map (·.1)

def parseJsonNumberTokenInObject (json : Text) (objStart objEnd : Nat) (key : Text) : Option Text :=
  match findKeyInObject json objStart objEnd key with
  | none => none
  | some valuePos => (parseJsonNumberTokenFrom json valuePos objEnd).map (·.1)

def parseJsonBoolFieldInObject (json : Text) (objStart objEnd : Nat) (key : Text) : Option Bool :=
  match findKeyInObject json objStart objEnd key with
  | none => none
  | some valuePos =>
    if valuePos + 4 ≤ objEnd ∧ compareAt json valuePos "true".toList ∧
        (wordEnd json valuePos objEnd "true".toList).isSome then some true
    else if valuePos + 5 ≤ objEnd ∧ compareAt json valuePos "false".toList ∧
        (wordEnd json valuePos objEnd "false".toList).isSome then some false
    else none

structure CommandSetpoints where
  hasRoll : Bool := false
  roll : Double := 0
  hasPitch : Bool := false
  pitch : Double := 0
  hasYawRate : Bool := false
  yawRate : Double := 0
  hasThrottle : Bool := false
  throttle : Double := 0
  deriving DecidableEq

structure CommandTracking where
  hasTracking : Bool := false
  trackingState : ℤ := 4
  locX : Double := 0
  locY : Double := 0
  boundW : Double := 0
  boundH : Double := 0
  confidence : Double := 0
  visSeq : ℤ := 0
  visTimestamp : Double := 0
  deriving DecidableEq

structure CommandFrame where
  seq : ℤ := 0
  timestamp : Double := 0
  desiredMode : ℤ := 0
  hasArm : Bool := false
  arm : Bool := false
  setpoints : CommandSetpoints := {}
  tracking : CommandTracking := {}
  rawJson : Text := []
  deriving DecidableEq

def intMin : ℤ := -2 ^ 31
def intMax : ℤ := 2 ^ 31 - 1

section numbers
variable [Fpu] [Libc]

def parseDouble (token : Text) : Option Double :=
  match strtod token with
  | some value => if value.isFinite then some value else none
  | none => none

def nearbyint : Double → Double
  | fin value => fin (roundHalfEven value)
  | value => value

def parseIntLike (token : Text) : Option ℤ :=
  match parseDouble token with
  | none => none
  | some value =>
    if value < fin intMin ∨ fin intMax < value then none
    else
      let nearest := nearbyint value
      if 1e-6 < Double.abs (value - nearest) then none else some (truncate nearest)

/-- A member that is absent or not a number token is simply not set. -/
def parseOptionalNumberInObject (json : Text) (objStart objEnd : Nat) (key : Text) :
    Option (Bool × Double) :=
  match parseJsonNumberTokenInObject json objStart objEnd key with
  | none => some (false, 0)
  | some token => (parseDouble token).map fun value => (true, value)

def parseOptionalBoolInObject (json : Text) (objStart objEnd : Nat) (key : Text) : Bool × Bool :=
  match parseJsonBoolFieldInObject json objStart objEnd key with
  | none => (false, false)
  | some value => (true, value)

def parseSetpoints (json : Text) (rootStart rootEnd : Nat) : Option CommandSetpoints :=
  match findKeyInObject json rootStart rootEnd "setpoints".toList with
  | none => some {}
  | some valuePos =>
    if rootEnd ≤ valuePos ∨ charAt json valuePos ≠ '{' then none
    else
      match findObjectSpanInObject json rootStart rootEnd "setpoints".toList with
      | none => none
      | some (start, stop) => do
        let (hasRoll, roll) ← parseOptionalNumberInObject json start stop "roll".toList
        let (hasPitch, pitch) ← parseOptionalNumberInObject json start stop "pitch".toList
        let (hasYawRate, yawRate) ← parseOptionalNumberInObject json start stop "yaw_rate".toList
        let (hasThrottle, throttle) ← parseOptionalNumberInObject json start stop "throttle".toList
        some { hasRoll, roll, hasPitch, pitch, hasYawRate, yawRate, hasThrottle, throttle }

def parseTracking (json : Text) (rootStart rootEnd : Nat) : Option CommandTracking :=
  match findKeyInObject json rootStart rootEnd "tracking".toList with
  | none => some {}
  | some valuePos =>
    if rootEnd ≤ valuePos ∨ charAt json valuePos ≠ '{' then none
    else
      match findObjectSpanInObject json rootStart rootEnd "tracking".toList with
      | none => none
      | some (start, stop) => do
        let stateToken ← parseJsonNumberTokenInObject json start stop "tracking_state".toList
        let locXToken ← parseJsonNumberTokenInObject json start stop "loc_x".toList
        let locYToken ← parseJsonNumberTokenInObject json start stop "loc_y".toList
        let boundWToken ← parseJsonNumberTokenInObject json start stop "bound_w".toList
        let boundHToken ← parseJsonNumberTokenInObject json start stop "bound_h".toList
        let confidenceToken ← parseJsonNumberTokenInObject json start stop "confidence".toList
        let visSeqToken ← parseJsonNumberTokenInObject json start stop "vis_seq".toList
        let visTimestampToken ← parseJsonNumberTokenInObject json start stop "vis_timestamp_s".toList
        let trackingState ← parseIntLike stateToken
        let locX ← parseDouble locXToken
        let locY ← parseDouble locYToken
        let boundW ← parseDouble boundWToken
        let boundH ← parseDouble boundHToken
        let confidence ← parseDouble confidenceToken
        let visSeq ← parseIntLike visSeqToken
        let visTimestamp ← parseDouble visTimestampToken
        if trackingState < 1 ∨ 4 < trackingState then none
        else
          some
            { hasTracking := true, trackingState, locX, locY, boundW, boundH, confidence, visSeq,
              visTimestamp }

/-- `none` when the source returns false, which leaves the output frame alone. -/
def parseCmdFrame (json : Text) : Option CommandFrame :=
  match findRootObjectSpan json with
  | none => none
  | some (rootStart, rootEnd) => do
    let type ← parseJsonStringFieldInObject json rootStart rootEnd "type".toList
    if type ≠ "CMD".toList then none
    else
      let seqToken ← parseJsonNumberTokenInObject json rootStart rootEnd "seq".toList
      let tsToken ← parseJsonNumberTokenInObject json rootStart rootEnd "timestamp_s".toList
      let modeToken ← parseJsonNumberTokenInObject json rootStart rootEnd "desired_mode".toList
      let seq ← parseIntLike seqToken
      let timestamp ← parseDouble tsToken
      let desiredMode ← parseIntLike modeToken
      let (hasArm, arm) := parseOptionalBoolInObject json rootStart rootEnd "arm".toList
      let setpoints ← parseSetpoints json rootStart rootEnd
      let tracking ← parseTracking json rootStart rootEnd
      some { seq, timestamp, desiredMode, hasArm, arm, setpoints, tracking, rawJson := json }

end numbers
end AotDrone.Fc
