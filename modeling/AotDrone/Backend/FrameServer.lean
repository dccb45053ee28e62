import AotDrone.Backend.ApiToken
import AotDrone.Backend.PostFrame
import AotDrone.Backend.RateLimit
import AotDrone.Json.ReadNode

/-! The route of the frames as a server (`app.py`): the token, the rate of the address, and the handler, on the request
that `frame_pusher.py` makes. -/

namespace AotDrone.Backend
open AotDrone.Lib AotDrone.Lib.Double AotDrone.Json

/-! ## The length as a header -/

theorem pyStr_toString (n : ℕ) :
    pyStr (toString n) = (Nat.toDigits 10 n).map fun c => Fin.ofNat 0x110000 c.toNat := by
  change pyStr (String.ofList (Nat.toDigits 10 n)) = _
  unfold pyStr
  rw [String.toList_ofList]

theorem digit_bounds {c : Char} (digit : c.isDigit = true) : 48 ≤ c.toNat ∧ c.toNat ≤ 57 := by
  simp only [Char.isDigit, Bool.and_eq_true, decide_eq_true_eq, ge_iff_le, UInt32.le_iff_toNat_le] at digit
  exact digit

theorem decimal_digit {c : Char} (digit : c.isDigit = true) :
    decimal (Fin.ofNat 0x110000 c.toNat) = some (c.toNat - 48) := by
  have bounds := digit_bounds digit
  have first : (decide (48 ≤ c.toNat) && decide (c.toNat ≤ 48 + 9)) = true := by
    rw [Bool.and_eq_true, decide_eq_true_eq, decide_eq_true_eq]
    omega
  have zeros : decimalZeros = 48 :: decimalZeros.tail := rfl
  unfold decimal
  rw [codePoint_val, zeros, List.find?_cons, first]
  rfl

theorem readDigits_digits {digits : List Char} (present : digits ≠ []) (all : ∀ c ∈ digits, c.isDigit = true) :
    readDigits (digits.map fun c => Fin.ofNat 0x110000 c.toNat) = some (digits.map fun c => c.toNat - 48) := by
  induction digits with
  | nil => exact absurd rfl present
  | cons first rest ih =>
    have digit := decimal_digit (all first List.mem_cons_self)
    cases rest with
    | nil =>
      rw [List.map_singleton, readDigits, digit]
      rfl
    | cons second rest =>
      have later := ih (List.cons_ne_nil _ _) fun c member => all c (List.mem_cons_of_mem _ member)
      have solid : CodePoint.is (Fin.ofNat 0x110000 second.toNat) '_' = false := by
        rw [codePoint_is, decide_eq_false_iff_not]
        rintro rfl
        exact absurd (all '_' (by simp)) (by decide)
      rw [List.map_cons] at later ⊢
      rw [List.map_cons, readDigits, digit, solid]
      simp only [Bool.false_eq_true, if_false]
      rw [later]
      rfl

theorem ofDigits_toDigits (n : ℕ) :
    Nat.ofDigits 10 ((Nat.toDigits 10 n).map fun c => c.toNat - 48).reverse = n := by
  have folded : ∀ digits : List Char,
      Nat.ofDigits 10 (digits.map fun c => c.toNat - 48).reverse = Nat.ofDigitChars 10 digits 0 := by
    intro digits
    induction digits using List.reverseRecOn with
    | nil => rfl
    | append_singleton digits c ih =>
      rw [List.map_append, List.reverse_append, Nat.ofDigitChars_append, ← ih, List.map_singleton,
        List.reverse_singleton, List.singleton_append, Nat.ofDigits_cons, Nat.ofDigitChars_cons, Nat.ofDigitChars_nil]
      exact Nat.add_comm _ _
  rw [folded]
  exact Nat.ofDigitChars_ten_toDigits

theorem digit_not_space {c : Char} (digit : c.isDigit = true) : isSpace (Fin.ofNat 0x110000 c.toNat) = false := by
  have bounds := digit_bounds digit
  unfold isSpace
  simp only [codePoint_val, List.mem_cons, List.not_mem_nil, or_false]
  simp
  omega

/-- A text with nothing in it that is stripped is left as it is. -/
theorem stripBy_solid {space : CodePoint → Bool} {text : PyStr} (solid : ∀ c ∈ text, space c = false) :
    stripBy space text = text := by
  by_cases present : text = []
  · rw [present]
    rfl
  · exact (stripBy_eq_iff present solid).2 ⟨[], [], by simp, nofun, nofun⟩

theorem strip_toString (n : ℕ) : strip (pyStr (toString n)) = pyStr (toString n) := by
  apply stripBy_solid
  rw [pyStr_toString]
  intro c member
  obtain ⟨digit, own, rfl⟩ := List.mem_map.1 member
  exact digit_not_space (Nat.isDigit_of_mem_toDigits (by decide) (by decide) own)

/-- `int` reads back a length, unless it is too long for it. -/
theorem pyInt_toString (n : ℕ) :
    pyInt (pyStr (toString n)) = if maxStrDigits < (Nat.toDigits 10 n).length then none else some (n : ℤ) := by
  have digits : ∀ c ∈ Nat.toDigits 10 n, c.isDigit = true :=
    fun c member => Nat.isDigit_of_mem_toDigits (by decide) (by decide) member
  have solid : stripBy isIntSpace (pyStr (toString n)) = pyStr (toString n) := by
    apply stripBy_solid
    rw [pyStr_toString]
    intro c member
    obtain ⟨digit, own, rfl⟩ := List.mem_map.1 member
    unfold isIntSpace
    rw [digit_not_space (digits digit own), Bool.false_and]
  have magnitude : readMagnitude (pyStr (toString n)) =
      if maxStrDigits < (Nat.toDigits 10 n).length then none else some n := by
    unfold readMagnitude
    rw [pyStr_toString, readDigits_digits Nat.toDigits_ne_nil digits]
    change (if maxStrDigits < ((Nat.toDigits 10 n).map fun c => c.toNat - 48).length then none else some _) = _
    rw [List.length_map, ofDigits_toDigits]
  unfold pyInt
  rw [solid]
  rw [pyStr_toString] at magnitude ⊢
  cases split : Nat.toDigits 10 n with
  | nil => exact absurd split Nat.toDigits_ne_nil
  | cons first rest =>
    rw [split] at magnitude digits
    have digit := digits first List.mem_cons_self
    have plain : ∀ sign : Char, sign.isDigit = false → CodePoint.is (Fin.ofNat 0x110000 first.toNat) sign = false := by
      intro sign other
      rw [codePoint_is, decide_eq_false_iff_not]
      rintro rfl
      exact absurd digit (other ▸ Bool.false_ne_true)
    rw [List.map_cons] at magnitude ⊢
    dsimp only
    rw [plain '-' rfl, plain '+' rfl, if_neg Bool.false_ne_true, if_neg Bool.false_ne_true, magnitude]
    split_ifs <;> rfl

/-! ## The request of a frame -/

/-- The pieces that a body arrives in. -/
def pieces : List ℕ → Bytes → List Bytes
  | [], body => [body]
  | size :: rest, body => body.take size :: pieces rest (body.drop size)

@[simp] theorem flatten_pieces (sizes : List ℕ) (body : Bytes) : (pieces sizes body).flatten = body := by
  induction sizes generalizing body with
  | nil => exact List.flatten_singleton
  | cons size rest ih => rw [pieces, List.flatten_cons, ih, List.take_append_drop]

/-- The headers that the client sends with a body. -/
def frameRequest (body : Bytes) (sizes : List ℕ) : FrameRequest where
  contentType := some (pyStr "image/jpeg")
  transferEncoding := none
  contentLength := some (pyStr (toString body.length))
  chunks := pieces sizes body

/-- The frames that are stored. -/
def VideoRuntime.accepts (runtime : VideoRuntime) (canDecodeJpeg : Bytes → Bool) (body : Bytes) : Bool :=
  decide ((body.length : ℤ) ≤ runtime.maxJpegBytes) && looksLikeJpeg body &&
    !(runtime.validateDecode && !canDecodeJpeg body)

open Handler

theorem run_bind_ok {α β : Type} {first : Handler α} {next : α → Handler β} {before between : Trace} {value : α}
    (returns : first.run.run before = (.ok value, between)) :
    (first >>= next).run.run before = (next value).run.run between := by
  rw [ExceptT.run_bind, StateT.run_bind, returns]
  rfl

theorem run_bind_error {α β : Type} {first : Handler α} {next : α → Handler β} {before between : Trace}
    {exception : HttpException} (raises : first.run.run before = (.error exception, between)) :
    (first >>= next).run.run before = (.error exception, between) := by
  rw [ExceptT.run_bind, StateT.run_bind, raises]
  rfl

theorem readBody_fits {maxBytes : ℤ} {payload : Bytes} (chunks : List Bytes) (before : Trace)
    (fits : (payload.length + chunks.flatten.length : ℤ) ≤ maxBytes) :
    ∃ buffers, (readBody maxBytes payload chunks).run.run before =
      (.ok (payload ++ chunks.flatten), { calls := before.calls, buffers }) := by
  induction chunks generalizing payload before with
  | nil =>
    rw [List.flatten_nil, List.append_nil]
    exact ⟨before.buffers, rfl⟩
  | cons chunk rest ih =>
    rw [List.flatten_cons] at fits ⊢
    rw [List.length_append] at fits
    push_cast at fits
    unfold readBody
    by_cases empty : chunk.isEmpty = true
    · rw [if_pos empty, List.isEmpty_iff.1 empty, List.nil_append]
      exact ih before (by omega)
    · rw [if_neg empty, if_neg (by omega), ← List.append_assoc]
      exact ih { before with buffers := before.buffers ++ [payload ++ chunk] }
        (by rw [List.length_append]; push_cast; omega)

/-- What the handler answers a frame, and what it does to the store. -/
def frameAnswer (runtime : VideoRuntime) (canDecodeJpeg : Bytes → Bool) (body : Bytes) (now : Double) :
    ℕ × List HubCall :=
  if runtime.enabled = false then (503, [])
  else if runtime.accepts canDecodeJpeg body then (200, [.setJpeg body now])
  else (400, [.recordBadFrame])

/-- The status of what a handler has answered. -/
def statusOf {α : Type} : Except HttpException α → ℕ
  | .ok _ => 200
  | .error exception => exception.statusCode

theorem storeBody_fits (runtime : VideoRuntime) (canDecodeJpeg : Bytes → Bool) (chunks : List Bytes) (now : Double)
    (before : Trace) (fits : (chunks.flatten.length : ℤ) ≤ runtime.maxJpegBytes) :
    let served := (storeBody runtime canDecodeJpeg chunks now).run.run before
    (statusOf served.1, served.2.calls) =
      if runtime.accepts canDecodeJpeg chunks.flatten then (200, before.calls ++ [.setJpeg chunks.flatten now])
      else (400, before.calls ++ [.recordBadFrame]) := by
  obtain ⟨buffers, read⟩ := @readBody_fits runtime.maxJpegBytes [] chunks
    { before with buffers := before.buffers ++ [[]] } (by simpa using fits)
  unfold storeBody
  have fresh : (buffer []).run.run before = (.ok [], { before with buffers := before.buffers ++ [[]] }) := rfl
  rw [run_bind_ok fresh, run_bind_ok read, List.nil_append]
  unfold VideoRuntime.accepts
  rw [decide_eq_true fits, Bool.true_and]
  by_cases empty : chunks.flatten.length = 0
  · rw [if_pos empty, List.length_eq_zero_iff.1 empty]
    rfl
  · rw [if_neg empty]
    cases markers : looksLikeJpeg chunks.flatten with
    | false => rfl
    | true =>
      rw [if_neg Bool.noConfusion, Bool.true_and]
      cases runtime.validateDecode && !canDecodeJpeg chunks.flatten <;> rfl

theorem checkContentLength_toString {maxBytes : ℤ} (readable : maxBytes < 10 ^ maxStrDigits) (n : ℕ) (before : Trace) :
    let checked := (checkContentLength maxBytes (some (pyStr (toString n)))).run.run before
    if (n : ℤ) ≤ maxBytes then checked = (.ok (), before)
    else ∃ detail, checked =
      (.error { statusCode := 400, detail }, { before with calls := before.calls ++ [.recordBadFrame] }) := by
  have present : (pyStr (toString n)).isEmpty = false := by
    rw [pyStr_toString, List.isEmpty_eq_false_iff, ne_eq, List.map_eq_nil_iff]
    exact Nat.toDigits_ne_nil
  unfold checkContentLength
  dsimp only
  rw [strip_toString, present, if_neg Bool.false_ne_true, pyInt_toString]
  by_cases fits : (n : ℤ) ≤ maxBytes
  · have short : n < 10 ^ maxStrDigits := by exact_mod_cast lt_of_le_of_lt fits readable
    have few : (Nat.toDigits 10 n).length ≤ maxStrDigits :=
      (Nat.length_toDigits_le_iff (by decide) (by decide)).2 short
    rw [if_pos fits, if_neg (not_lt.2 few)]
    dsimp only
    rw [if_neg (by omega), if_neg (not_lt.2 fits)]
    rfl
  · rw [if_neg fits]
    split_ifs with many
    · exact ⟨_, rfl⟩
    · dsimp only
      rw [if_neg (by omega), if_pos (not_le.1 fits)]
      exact ⟨_, rfl⟩

theorem postFrame_frame (runtime : VideoRuntime) (readable : runtime.maxJpegBytes < 10 ^ maxStrDigits)
    (hub : VideoFrameHub) (canDecodeJpeg : Bytes → Bool) (body : Bytes) (sizes : List ℕ) (now : Double) :
    let served := (postFrame runtime (some hub) canDecodeJpeg (frameRequest body sizes) now).serve
    (statusOf served.1, served.2.calls) = frameAnswer runtime canDecodeJpeg body now := by
  unfold postFrame frameAnswer
  by_cases disabled : runtime.enabled = false
  · rw [if_pos disabled, if_pos disabled]
    rfl
  · have plain : (encodings ((frameRequest body sizes).transferEncoding.getD [])).contains (pyStr "chunked") = false := rfl
    have jpeg : contains (pyStr "image/jpeg") (lower ((frameRequest body sizes).contentType.getD [])) = true := by
      change contains (pyStr "image/jpeg") (lower (pyStr "image/jpeg")) = true
      decide
    rw [if_neg disabled, if_neg disabled, Option.isNone_some, if_neg Bool.false_ne_true, jpeg, if_neg Bool.noConfusion,
      plain, if_neg Bool.false_ne_true]
    have checked := checkContentLength_toString readable body.length {}
    unfold Handler.serve frameRequest
    dsimp only at checked ⊢
    by_cases fits : (body.length : ℤ) ≤ runtime.maxJpegBytes
    · rw [if_pos fits] at checked
      have stored := storeBody_fits runtime canDecodeJpeg (pieces sizes body) now {} (by rwa [flatten_pieces])
      rw [flatten_pieces] at stored
      rw [run_bind_ok checked]
      exact stored
    · rw [if_neg fits] at checked
      obtain ⟨detail, checked⟩ := checked
      unfold VideoRuntime.accepts
      rw [run_bind_error checked, decide_eq_false fits]
      rfl

/-! ## The server -/

/-- The globals behind the route. The limit of the size has been read by `int`. -/
structure FrameServer where
  token : Option ApiToken
  limiter : Option IpRateLimiter
  runtime : VideoRuntime
  readable : runtime.maxJpegBytes < 10 ^ maxStrDigits
  canDecodeJpeg : Bytes → Bool
  hub : VideoFrameHub := {}

namespace FrameServer

/-- What comes before the handler, and the status of a request that is turned away there. -/
def enter [Fpu] (server : FrameServer) (authorization : Option PyStr) (hit : Hit) : Option ℕ × FrameServer :=
  match requireApiToken server.token authorization with
  | .error (.http exception) => (some exception.statusCode, server)
  | .error .typeError => (some 500, server)
  | .ok () =>
    match server.limiter with
    | none => (none, server)
    | some limiter =>
      let (allowed, limiter) := limiter.allow hit
      (if allowed then none else some 429, { server with limiter := some limiter })

def handle (server : FrameServer) (body : Bytes) (sizes : List ℕ) (now : Double) : ℕ × FrameServer :=
  let served := (postFrame server.runtime (some server.hub) server.canDecodeJpeg (frameRequest body sizes) now).serve
  (statusOf served.1, { server with hub := served.2.calls.foldl (fun hub call => call.run hub) server.hub })

/-- What a frame is answered, if it comes as far as the handler. -/
def status (server : FrameServer) (body : Bytes) : ℕ :=
  if server.runtime.enabled = false then 503 else if server.runtime.accepts server.canDecodeJpeg body then 200 else 400

theorem status_cases (server : FrameServer) (body : Bytes) :
    server.status body = 200 ∨ server.status body = 400 ∨ server.status body = 503 := by
  unfold status
  split_ifs
  · exact .inr (.inr rfl)
  · exact .inl rfl
  · exact .inr (.inl rfl)

/-- The parts of a server that requests do not change. -/
structure Same (before after : FrameServer) : Prop where
  token : after.token = before.token
  runtime : after.runtime = before.runtime
  canDecodeJpeg : after.canDecodeJpeg = before.canDecodeJpeg

/-- The store after a frame has been handled. -/
def hubAfter (server : FrameServer) (body : Bytes) (now : Double) : VideoFrameHub :=
  if server.status body = 200 then server.hub.setJpeg body now
  else if server.status body = 400 then server.hub.recordBadFrame
  else server.hub

theorem frameAnswer_eq (server : FrameServer) (body : Bytes) (now : Double) :
    let answer := frameAnswer server.runtime server.canDecodeJpeg body now
    answer.1 = server.status body ∧
      answer.2.foldl (fun hub call => call.run hub) server.hub = server.hubAfter body now := by
  unfold frameAnswer hubAfter status
  by_cases disabled : server.runtime.enabled = false
  · rw [if_pos disabled, if_pos disabled]
    exact ⟨rfl, rfl⟩
  · rw [if_neg disabled, if_neg disabled]
    cases server.runtime.accepts server.canDecodeJpeg body <;> exact ⟨rfl, rfl⟩

theorem handle_eq (server : FrameServer) (body : Bytes) (sizes : List ℕ) (now : Double) :
    server.handle body sizes now = (server.status body, { server with hub := server.hubAfter body now }) := by
  have answer := postFrame_frame server.runtime server.readable server.hub server.canDecodeJpeg body sizes now
  obtain ⟨status, hub⟩ := server.frameAnswer_eq body now
  unfold handle
  dsimp only at answer status hub ⊢
  rw [← answer] at status hub
  rw [← status, ← hub]

end FrameServer

/-- The client's header for the token that both sides have been given. -/
theorem requireApiToken_bearer (token : ApiToken) :
    requireApiToken (some token) (some (pyStr "Bearer " ++ token.text)) = .ok () := by
  obtain ⟨present, tchars⟩ := token.all_tchar
  apply requireApiToken_ok.2
  have parts : partitionSpace (pyStr "Bearer " ++ token.text) = (pyStr "Bearer", token.text) := rfl
  have scheme : lower (pyStr "Bearer") = pyStr "bearer" := by decide
  rw [Option.getD_some, parts]
  exact ⟨scheme, present, stripBy_solid fun c member => tchar_not_space (tchars c member)⟩

theorem FrameServer.enter_cases [Fpu] {server : FrameServer} {authorization : Option PyStr} (hit : Hit)
    (known : requireApiToken server.token authorization = .ok ()) :
    ((server.enter authorization hit).1 = none ∨ (server.enter authorization hit).1 = some 429) ∧
      server.Same (server.enter authorization hit).2 ∧ (server.enter authorization hit).2.hub = server.hub := by
  unfold enter
  rw [known]
  dsimp only
  cases server.limiter with
  | none => exact ⟨.inl rfl, ⟨rfl, rfl, rfl⟩, rfl⟩
  | some limiter =>
    dsimp only
    cases (limiter.allow hit).1 with
    | true => exact ⟨.inl rfl, ⟨rfl, rfl, rfl⟩, rfl⟩
    | false => exact ⟨.inr rfl, ⟨rfl, rfl, rfl⟩, rfl⟩

end AotDrone.Backend
