import AotDrone.Json.Reader

/-! Envelopes as the webapp reads them (`types.ts`, `parseWsEnvelope` of `ws.ts`). What `JSON.parse` makes has one kind of
number, so only `Value.float` is one here. -/

namespace AotDrone.Webapp
open AotDrone.Lib AotDrone.Lib.Double AotDrone.Json

/-- `isRecord`, with the record. -/
def asRecord : Value → Option Members
  | .obj members => some members
  | _ => none

/-- `record[name]`, where `none` stands for `undefined`. -/
def property (members : Members) (name : String) : Option Value := members.lookup (pyStr name)

def readNumber : Option Value → Option Double
  | some (.float x) => if x.isFinite then some x else none
  | _ => none

def readBoolean : Option Value → Option Bool
  | some (.bool b) => some b
  | _ => none

def readString : Option Value → Option PyStr
  | some (.str s) => some s
  | _ => none

def readNullableNumber : Option Value → Option Double
  | none | some .null => none
  | v => readNumber v

inductive WsEventType where
  | telUpdate
  | visUpdate
  | linkStatus
  | warning
  deriving DecidableEq, Repr

def WsEventType.name : WsEventType → String
  | telUpdate => "TEL_UPDATE"
  | visUpdate => "VIS_UPDATE"
  | linkStatus => "LINK_STATUS"
  | warning => "WARNING"

def wsEvents : List WsEventType := [.telUpdate, .visUpdate, .linkStatus, .warning]

def readEvent (v : Option Value) : Option WsEventType :=
  (readString v).bind fun s => wsEvents.find? fun event => decide (pyStr event.name = s)

structure WsEnvelope where
  wsVer : Option Double
  event : WsEventType
  data : Members
  timestamp : Double
  seq : Double

/-- `Number.isInteger` -/
def isInteger : Double → Bool
  | fin x => decide (x.den = 1)
  | _ => false

/-- A finite integer that is not negative. -/
def readSeq : Option Value → Option Double
  | some (.float x) => if isInteger x ∧ ¬ x < 0 then some x else none
  | _ => none

def parseWsEnvelope (value : Value) : Option WsEnvelope := do
  let record ← asRecord value
  let event ← readEvent (property record "event")
  let data ← (property record "data").bind asRecord
  let timestamp ← readNumber (property record "timestamp_s")
  let seq ← readSeq (property record "seq")
  some { wsVer := readNumber (property record "ws_ver"), event, data, timestamp, seq }

/-- A text that is an envelope. -/
def envelopeText [Fpu] (text : PyStr) : Option WsEnvelope := (jsonParse text).bind parseWsEnvelope

end AotDrone.Webapp
