import Mathlib.Data.List.Basic
import Mathlib.Tactic.SplitIfs

/-! MSPv1 frames over a serial line (`MspFraming.cpp`, `parse_drain` of `MspRcSink.cpp`). -/

namespace AotDrone.Fc.Msp

abbrev Bytes := List UInt8

def mspRc : UInt8 := 105
def mspSetRawRc : UInt8 := 200
def mspRcChannelMinUs : Nat := 1000
def mspRcChannelMaxUs : Nat := 2000

def xorChecksum (buf : Bytes) : UInt8 := buf.foldl (· ^^^ ·) 0

/-- `$M<`, the size, the command, the payload and the checksum over what is behind the header. -/
def encodeRequest (cmd : UInt8) (payload : Bytes) : Bytes :=
  let size := UInt8.ofNat (min payload.length 255)
  let sent := payload.take size.toNat
  [0x24, 0x4D, 0x3C, size, cmd] ++ sent ++ [sent.foldl (· ^^^ ·) (size ^^^ cmd)]

def clampChannel (v : Nat) : Nat :=
  if v < mspRcChannelMinUs then mspRcChannelMinUs
  else if mspRcChannelMaxUs < v then mspRcChannelMaxUs
  else v

def encodeSetRawRc (channels : List Nat) : Bytes :=
  encodeRequest mspSetRawRc (channels.flatMap fun v =>
    [UInt8.ofNat (clampChannel v % 0x100), UInt8.ofNat (clampChannel v / 0x100 % 0x100)])

structure ParsedFrame where
  cmd : UInt8
  payload : Bytes
  deriving DecidableEq

structure ParseResult where
  frame : Option ParsedFrame := none
  bytesConsumed : Nat := 0
  checksumError : Bool := false
  deriving DecidableEq

/-- `$M>`. -/
def marker : Bytes := [0x24, 0x4D, 0x3E]

/-- Whether the scan finds a marker, and the index at which it stops: two bytes before the end if it does not. -/
def scanMarker : Bytes → Bool × Nat
  | dollar :: m :: angle :: rest =>
    if [dollar, m, angle] = marker then (true, 0)
    else ((scanMarker (m :: angle :: rest)).1, (scanMarker (m :: angle :: rest)).2 + 1)
  | _ => (false, 0)

def parseResponse (buf : Bytes) : ParseResult :=
  if buf.length < 3 then {}
  else
    match scanMarker buf with
    | (false, i) => { bytesConsumed := i }
    | (true, i) =>
      if buf.length < i + 5 then { bytesConsumed := i }
      else
        let size := buf.getD (i + 3) 0
        let cmd := buf.getD (i + 4) 0
        let frameTotal := 3 + 1 + 1 + size.toNat + 1
        if buf.length < i + frameTotal then { bytesConsumed := i }
        else
          let payload := (buf.drop (i + 5)).take size.toNat
          let cksum := payload.foldl (· ^^^ ·) (size ^^^ cmd)
          let expected := buf.getD (i + 5 + size.toNat) 0
          if cksum ≠ expected then { bytesConsumed := i + frameTotal, checksumError := true }
          else { frame := some { cmd, payload }, bytesConsumed := i + frameTotal }

/-- Every complete frame of the accumulator is handed to `onFrame`, until it asks to stop. `state` is what
`onFrame` captures. Left are the accumulator, the error count and the state. -/
def parseDrain {σ : Type} (onFrame : σ → ParsedFrame → σ × Bool) (acc : Bytes) (parseErrors : Nat) (state : σ) :
    Bytes × Nat × σ :=
  if acc = [] then (acc, parseErrors, state)
  else
    let pr := parseResponse acc
    let left := acc.drop pr.bytesConsumed
    let errors := if pr.checksumError then parseErrors + 1 else parseErrors
    let (state, stop) := (pr.frame.map (onFrame state)).getD (state, false)
    if stop then (left, errors, state)
    else if _waits : pr.bytesConsumed = 0 then (left, errors, state)
    else parseDrain onFrame left errors state
termination_by acc.length
decreasing_by
  rw [List.length_drop]
  have arrived : 0 < acc.length := List.length_pos_of_ne_nil (by assumption)
  have progress : (parseResponse acc).bytesConsumed ≠ 0 := by assumption
  omega

end AotDrone.Fc.Msp
