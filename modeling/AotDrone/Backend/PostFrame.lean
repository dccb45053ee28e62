import AotDrone.Backend.CmdSchema
import AotDrone.Backend.HeaderText

/-! The upload of a camera frame (`post_frame` of `app.py`, `video_hub.py`). -/

namespace AotDrone.Backend
open AotDrone.Lib AotDrone.Json

/-- The store of the latest frame and its two counters. -/
structure VideoFrameHub where
  latestJpeg : Option Bytes := none
  lastRxMonotonic : Option Double := none
  framesRxOk : Nat := 0
  framesRxBad : Nat := 0

namespace VideoFrameHub

def setJpeg (hub : VideoFrameHub) (jpegBytes : Bytes) (now : Double) : VideoFrameHub :=
  { hub with latestJpeg := some jpegBytes, lastRxMonotonic := some now, framesRxOk := hub.framesRxOk + 1 }

def recordBadFrame (hub : VideoFrameHub) : VideoFrameHub := { hub with framesRxBad := hub.framesRxBad + 1 }

end VideoFrameHub

/-- A call of the hub, under its lock. -/
inductive HubCall where
  | setJpeg (jpegBytes : Bytes) (now : Double)
  | recordBadFrame

def HubCall.run : HubCall → VideoFrameHub → VideoFrameHub
  | setJpeg jpegBytes now, hub => hub.setJpeg jpegBytes now
  | recordBadFrame, hub => hub.recordBadFrame

/-- A request: its headers, where they are present, and the chunks of its body. -/
structure FrameRequest where
  contentType : Option PyStr
  transferEncoding : Option PyStr
  contentLength : Option PyStr
  chunks : List Bytes

/-- The globals of the module that the handler reads. -/
structure VideoRuntime where
  enabled : Bool
  maxJpegBytes : ℤ
  validateDecode : Bool

/-- The trace of a handler: its calls of the hub, and each value that the buffer of the body has had. -/
structure Trace where
  calls : List HubCall := []
  buffers : List Bytes := []

abbrev Handler := ExceptT HttpException (StateM Trace)

namespace Handler

/-- What a request is answered, and the trace it leaves. -/
def serve {α : Type} (handler : Handler α) : Except HttpException α × Trace := handler.run.run {}

def callHub (call : HubCall) : Handler Unit := modify fun trace => { trace with calls := trace.calls ++ [call] }

/-- The buffer of the body has this value now. -/
def buffer (payload : Bytes) : Handler Bytes := do
  modify fun trace => { trace with buffers := trace.buffers ++ [payload] }
  pure payload

/-- `record_bad_frame` and the exception after it. -/
def rejectWith {α : Type} (statusCode : Nat) (detail : String) : Handler α := do
  callHub .recordBadFrame
  throw { statusCode, detail }

end Handler

open Handler

/-- The body, chunk by chunk. -/
def readBody (maxBytes : ℤ) : Bytes → List Bytes → Handler Bytes
  | payload, [] => pure payload
  | payload, chunk :: rest =>
    if chunk.isEmpty then readBody maxBytes payload rest
    else if maxBytes < payload.length + chunk.length then
      rejectWith 400 s!"jpeg payload exceeds max size ({maxBytes} bytes)"
    else do readBody maxBytes (← buffer (payload ++ chunk)) rest

def looksLikeJpeg (payload : Bytes) : Bool :=
  decide (4 ≤ payload.length) && [0xFF, 0xD8].isPrefixOf payload && [0xFF, 0xD9].isSuffixOf payload

/-- Once the length that was announced has passed its checks. -/
def storeBody (runtime : VideoRuntime) (canDecodeJpeg : Bytes → Bool) (chunks : List Bytes) (now : Double) :
    Handler Nat := do
  let payload ← readBody runtime.maxJpegBytes (← buffer []) chunks
  if payload.length = 0 then rejectWith 400 "empty request body"
  else if looksLikeJpeg payload = false then rejectWith 400 "invalid jpeg payload"
  else if runtime.validateDecode && !canDecodeJpeg payload then rejectWith 400 "jpeg decode validation failed"
  else
    callHub (.setJpeg payload now)
    pure payload.length

def checkContentLength (maxBytes : ℤ) (header : Option PyStr) : Handler Unit :=
  match header with
  | none => rejectWith 411 "content-length header is required"
  | some header =>
    let text := strip header
    if text.isEmpty then rejectWith 400 "invalid content-length header"
    else
      match pyInt text with
      | none => rejectWith 400 "invalid content-length header"
      | some contentLength =>
        if contentLength < 0 then rejectWith 400 "invalid content-length header"
        else if maxBytes < contentLength then rejectWith 400 s!"content-length exceeds max size ({maxBytes} bytes)"
        else pure ()

/-- The tokens of a `transfer-encoding` header. -/
def encodings (header : PyStr) : List PyStr :=
  ((splitCommas header).filter fun token => !(strip token).isEmpty).map fun token => lower (strip token)

/-- `now` is the monotonic clock when the frame is stored; the answer is the size of a frame that is. -/
def postFrame (runtime : VideoRuntime) (videoHub : Option VideoFrameHub) (canDecodeJpeg : Bytes → Bool)
    (request : FrameRequest) (now : Double) : Handler Nat :=
  if runtime.enabled = false then throw { statusCode := 503, detail := "video streaming is disabled" }
  else if videoHub.isNone then throw { statusCode := 503, detail := "video subsystem not ready" }
  else if contains (pyStr "image/jpeg") (lower (request.contentType.getD [])) = false then
    rejectWith 400 "content-type must be image/jpeg"
  else if (encodings (request.transferEncoding.getD [])).contains (pyStr "chunked") then
    rejectWith 400 "transfer-encoding: chunked is not supported on /api/frame"
  else do
    checkContentLength runtime.maxJpegBytes request.contentLength
    storeBody runtime canDecodeJpeg request.chunks now

/-! ## All or nothing -/

variable {α β : Type} {maxBytes : ℤ} {before : Trace}

/-- Nothing is called yet, and the buffer has kept to its size. -/
structure Quiet (maxBytes : ℤ) (trace : Trace) : Prop where
  calls : trace.calls = []
  buffers : ∀ payload ∈ trace.buffers, (payload.length : ℤ) ≤ maxBytes

/-- An error of the client, counted once. -/
structure Refusal (maxBytes : ℤ) (exception : HttpException) (trace : Trace) : Prop where
  status : 400 ≤ exception.statusCode ∧ exception.statusCode < 500
  calls : trace.calls = [.recordBadFrame]
  buffers : ∀ payload ∈ trace.buffers, (payload.length : ℤ) ≤ maxBytes

/-- From `before` the handler returns as `Post` says, or refuses the request. -/
def Spec (maxBytes : ℤ) (handler : Handler α) (before : Trace) (Post : α → Trace → Prop) : Prop :=
  match handler.run.run before with
  | (.ok value, after) => Post value after
  | (.error exception, after) => Refusal maxBytes exception after

variable {Post : α → Trace → Prop}

theorem spec_rejectWith {statusCode : Nat} {detail : String} (status : 400 ≤ statusCode ∧ statusCode < 500)
    (quiet : Quiet maxBytes before) : Spec maxBytes (rejectWith statusCode detail) before Post := by
  refine ⟨status, ?_, quiet.buffers⟩
  change before.calls ++ [HubCall.recordBadFrame] = _
  rw [quiet.calls]
  rfl

theorem spec_bind {first : Handler α} {next : α → Handler β} {Last : β → Trace → Prop}
    (begins : Spec maxBytes first before Post)
    (ends : ∀ value between, Post value between → Spec maxBytes (next value) between Last) :
    Spec maxBytes (first >>= next) before Last := by
  unfold Spec at begins ⊢
  rw [ExceptT.run_bind, StateT.run_bind]
  generalize first.run.run before = outcome at begins
  obtain ⟨_ | value, between⟩ := outcome
  · exact begins
  · exact ends value between begins

theorem Spec.served {handler : Handler α} (spec : Spec maxBytes handler {} Post) :
    (∃ value, handler.serve.1 = .ok value ∧ Post value handler.serve.2) ∨
      ∃ exception, handler.serve.1 = .error exception ∧ Refusal maxBytes exception handler.serve.2 := by
  unfold Spec at spec
  unfold Handler.serve
  generalize handler.run.run {} = outcome at spec ⊢
  obtain ⟨exception | value, trace⟩ := outcome
  · exact .inr ⟨exception, rfl, spec⟩
  · exact .inl ⟨value, rfl, spec⟩

theorem spec_buffer (quiet : Quiet maxBytes before) {payload : Bytes} (fits : (payload.length : ℤ) ≤ maxBytes) :
    Spec maxBytes (buffer payload) before fun held after => held = payload ∧ Quiet maxBytes after := by
  refine ⟨rfl, quiet.calls, ?_⟩
  intro held member
  rcases List.mem_append.1 member with earlier | now
  · exact quiet.buffers held earlier
  · rw [List.mem_singleton.1 now]
    exact fits

/-- What is read of a body is all of it, and fits. -/
theorem spec_readBody {payload : Bytes} (chunks : List Bytes) (quiet : Quiet maxBytes before)
    (fits : (payload.length : ℤ) ≤ maxBytes) :
    Spec maxBytes (readBody maxBytes payload chunks) before fun body after =>
      body = payload ++ chunks.flatten ∧ (body.length : ℤ) ≤ maxBytes ∧ Quiet maxBytes after := by
  induction chunks generalizing payload before with
  | nil => exact ⟨by simp, fits, quiet⟩
  | cons chunk rest ih =>
    unfold readBody
    split_ifs with empty long
    · rw [List.isEmpty_iff.1 empty, List.flatten_cons, List.nil_append]
      exact ih quiet fits
    · exact spec_rejectWith (by decide) quiet
    · apply spec_bind (spec_buffer quiet (by rw [List.length_append]; push_cast; omega))
      rintro _ between ⟨rfl, held⟩
      rw [List.flatten_cons, ← List.append_assoc]
      exact ih held (by rw [List.length_append]; push_cast; omega)

theorem spec_checkContentLength (header : Option PyStr) (quiet : Quiet maxBytes before) :
    Spec maxBytes (checkContentLength maxBytes header) before fun _ after => 0 ≤ maxBytes ∧ Quiet maxBytes after := by
  unfold checkContentLength
  cases header with
  | none => exact spec_rejectWith (by decide) quiet
  | some header =>
    dsimp only
    split_ifs
    · exact spec_rejectWith (by decide) quiet
    · cases pyInt (strip header) with
      | none => exact spec_rejectWith (by decide) quiet
      | some contentLength =>
        dsimp only
        split_ifs
        · exact spec_rejectWith (by decide) quiet
        · exact spec_rejectWith (by decide) quiet
        · exact ⟨by omega, quiet⟩

/-- A frame that is stored is the body, has the markers, and fits. -/
structure Stored (maxBytes : ℤ) (chunks : List Bytes) (now : Double) (size : Nat) (trace : Trace) : Prop where
  size : size = chunks.flatten.length
  fits : (chunks.flatten.length : ℤ) ≤ maxBytes
  begins : [0xFF, 0xD8] <+: chunks.flatten
  ends : [0xFF, 0xD9] <:+ chunks.flatten
  calls : trace.calls = [.setJpeg chunks.flatten now]
  buffers : ∀ payload ∈ trace.buffers, (payload.length : ℤ) ≤ maxBytes

theorem spec_storeBody (runtime : VideoRuntime) (canDecodeJpeg : Bytes → Bool) (chunks : List Bytes) (now : Double)
    (room : 0 ≤ runtime.maxJpegBytes) (quiet : Quiet runtime.maxJpegBytes before) :
    Spec runtime.maxJpegBytes (storeBody runtime canDecodeJpeg chunks now) before
      (Stored runtime.maxJpegBytes chunks now) := by
  have fits : ((([] : Bytes).length : ℕ) : ℤ) ≤ runtime.maxJpegBytes := room
  unfold storeBody
  apply spec_bind (spec_buffer quiet fits)
  rintro _ _ ⟨rfl, fresh⟩
  apply spec_bind (spec_readBody chunks fresh fits)
  rintro payload after ⟨same, fits, read⟩
  rw [List.nil_append] at same
  subst same
  split_ifs with empty markers decoded
  · exact spec_rejectWith (by decide) read
  · exact spec_rejectWith (by decide) read
  · exact spec_rejectWith (by decide) read
  · rw [Bool.not_eq_false] at markers
    unfold looksLikeJpeg at markers
    simp only [Bool.and_eq_true, List.isPrefixOf_iff_prefix, List.isSuffixOf_iff_suffix] at markers
    refine ⟨rfl, fits, markers.1.2, markers.2, ?_, read.buffers⟩
    change after.calls ++ [HubCall.setJpeg chunks.flatten now] = _
    rw [read.calls]
    rfl

/-- A request to a server with video either stores its whole body, or is refused and only counted. -/
theorem postFrame_allOrNothing (hub : VideoFrameHub) (maxJpegBytes : ℤ) (validateDecode : Bool)
    (canDecodeJpeg : Bytes → Bool) (request : FrameRequest) (now : Double) :
    let runtime : VideoRuntime := { enabled := true, maxJpegBytes, validateDecode }
    let served := (postFrame runtime (some hub) canDecodeJpeg request now).serve
    let after := served.2.calls.foldl (fun hub call => call.run hub) hub
    (served.1 = .ok request.chunks.flatten.length ∧
          Stored maxJpegBytes request.chunks now request.chunks.flatten.length served.2 ∧
            after = hub.setJpeg request.chunks.flatten now ∨
        ∃ exception, served.1 = .error exception ∧ Refusal maxJpegBytes exception served.2 ∧
          after.latestJpeg = hub.latestJpeg ∧ after.lastRxMonotonic = hub.lastRxMonotonic ∧
            after.framesRxOk = hub.framesRxOk ∧ after.framesRxBad = hub.framesRxBad + 1) ∧
      ∀ payload ∈ served.2.buffers, (payload.length : ℤ) ≤ maxJpegBytes := by
  intro runtime served after
  have spec : Spec maxJpegBytes (postFrame runtime (some hub) canDecodeJpeg request now) {}
      (Stored maxJpegBytes request.chunks now) := by
    have quiet : Quiet maxJpegBytes {} := ⟨rfl, List.forall_mem_nil _⟩
    unfold postFrame
    rw [if_neg Bool.noConfusion, if_neg Bool.noConfusion]
    split_ifs
    · exact spec_rejectWith (by decide) quiet
    · exact spec_rejectWith (by decide) quiet
    · apply spec_bind (spec_checkContentLength request.contentLength quiet)
      rintro _ checked ⟨room, still⟩
      exact spec_storeBody runtime canDecodeJpeg request.chunks now room still
  rcases spec.served with ⟨size, answered, stored⟩ | ⟨exception, answered, refused⟩
  · obtain rfl := stored.size
    have stores : after = hub.setJpeg request.chunks.flatten now := by
      unfold after
      rw [stored.calls]
      rfl
    exact ⟨.inl ⟨answered, stored, stores⟩, stored.buffers⟩
  · have counts : after = hub.recordBadFrame := by
      unfold after
      rw [refused.calls]
      rfl
    refine ⟨.inr ⟨exception, answered, refused, ?_⟩, refused.buffers⟩
    rw [counts]
    exact ⟨rfl, rfl, rfl, rfl⟩

end AotDrone.Backend
