import AotDrone.Backend.CmdSchema
import AotDrone.Backend.HeaderText

/-! The token that guards the routes (`app.py`), on a request and on the upgrade of a WebSocket. -/

namespace AotDrone.Backend
open AotDrone.Lib AotDrone.Json

/-- `_HTTP_TOKEN_TCHARS` -/
def isTchar (c : CodePoint) : Bool :=
  (decide ('a'.toNat ≤ c.val) && decide (c.val ≤ 'z'.toNat)) || (decide ('A'.toNat ≤ c.val) && decide (c.val ≤ 'Z'.toNat)) ||
    c.isDigit || "!#$%&'*+-.^_`|~".toList.any c.is

/-- `_is_http_token` -/
def isHttpToken (value : PyStr) : Bool := !value.isEmpty && value.all isTchar

/-- A token that the backend starts with. -/
structure ApiToken where
  text : PyStr
  isToken : isHttpToken text = true

/-- `_read_env_token`, of the value in the environment. -/
def readEnvToken (name : String) (raw : Option PyStr) : Except String (Option ApiToken) :=
  match raw with
  | none => .ok none
  | some raw =>
    let stripped := strip raw
    if stripped.isEmpty then .ok none
    else if isToken : isHttpToken stripped = true then .ok (some ⟨stripped, isToken⟩)
    else
      .error (name ++ " contains characters that are not HTTP-token-safe. Use a token of alphanumerics + any of " ++
        "!#$%&'*+-.^_`|~ (secrets.token_hex / secrets.token_urlsafe both produce valid tokens).")

/-- What the checks raise. -/
inductive AuthError where
  | http (exception : HttpException)
  /-- Of `hmac.compare_digest`, which compares only ASCII texts. -/
  | typeError

def isAscii (s : PyStr) : Bool := s.all fun c => decide (c.val < 128)

/-- `hmac.compare_digest` -/
def compareDigest (a b : PyStr) : Except AuthError Bool :=
  if isAscii a && isAscii b then .ok (a = b) else .error .typeError

/-- `text.partition(" ")`: what is before the first space, and what is after it. -/
def partitionSpace (text : PyStr) : PyStr × PyStr :=
  (text.takeWhile fun c => !c.is ' ', (text.dropWhile fun c => !c.is ' ').drop 1)

def requireApiToken (expected : Option ApiToken) (authorization : Option PyStr) : Except AuthError Unit :=
  match expected with
  | none => .ok ()
  | some expected => do
    let (scheme, presented) := partitionSpace (authorization.getD [])
    if lower scheme ≠ pyStr "bearer" ∨ presented = [] then
      throw (.http { statusCode := 401, detail := "missing bearer token" })
    if ¬ (← compareDigest (strip presented) expected.text) then
      throw (.http { statusCode := 401, detail := "invalid bearer token" })

/-- `_WS_BEARER_PREFIX` -/
def wsBearerPrefix : PyStr := pyStr "aot.bearer."

/-- The protocols from here on, when a token is expected. -/
def selectBearer (expected : ApiToken) : List PyStr → Except AuthError (Bool × Option PyStr)
  | [] => .ok (false, none)
  | proto :: rest =>
    if wsBearerPrefix.isPrefixOf proto then do
      if ← compareDigest (proto.drop wsBearerPrefix.length) expected.text then .ok (true, some proto)
      else selectBearer expected rest
    else selectBearer expected rest

def selectWsSubprotocol (expected : Option ApiToken) (offered : List PyStr) : Except AuthError (Bool × Option PyStr) :=
  match expected with
  | none => .ok (true, offered.head?)
  | some expected => selectBearer expected offered

/-! ## What is let in -/

theorem tchar_ascii {c : CodePoint} (tchar : isTchar c = true) : c.val < 128 := by
  simp [isTchar, CodePoint.isDigit, CodePoint.is] at tchar
  omega

theorem tchar_not_space {c : CodePoint} (tchar : isTchar c = true) : isSpace c = false := by
  simp [isTchar, CodePoint.isDigit, CodePoint.is] at tchar
  simp [isSpace]
  omega

theorem ApiToken.all_tchar (token : ApiToken) : token.text ≠ [] ∧ ∀ c ∈ token.text, isTchar c = true := by
  have isToken := token.isToken
  unfold isHttpToken at isToken
  rw [Bool.and_eq_true, Bool.not_eq_true', List.isEmpty_eq_false_iff, List.all_eq_true] at isToken
  exact isToken

theorem ApiToken.ascii (token : ApiToken) : isAscii token.text = true :=
  List.all_eq_true.2 fun c member => decide_eq_true (tchar_ascii (token.all_tchar.2 c member))

theorem compareDigest_token {presented : PyStr} {token : ApiToken} :
    compareDigest presented token.text = .ok true ↔ presented = token.text := by
  unfold compareDigest
  rw [token.ascii, Bool.and_true]
  split_ifs with ascii
  · simp
  · refine iff_of_false not_false ?_
    rintro rfl
    exact ascii token.ascii

/-- What is left of a text between its spaces. -/
theorem stripBy_eq_iff {space : CodePoint → Bool} {text core : PyStr} (present : core ≠ [])
    (solid : ∀ c ∈ core, space c = false) :
    stripBy space text = core ↔
      ∃ before after, text = before ++ core ++ after ∧ (∀ c ∈ before, space c = true) ∧ ∀ c ∈ after, space c = true := by
  unfold stripBy
  constructor
  · rintro rfl
    refine ⟨text.takeWhile space, (text.dropWhile space).rtakeWhile space, ?_, ?_, ?_⟩
    · rw [List.append_assoc, List.rdropWhile_append_rtakeWhile, List.takeWhile_append_dropWhile]
    · intro c member
      exact List.mem_takeWhile_imp member
    · intro c member
      exact List.mem_rtakeWhile_imp member
  · rintro ⟨before, after, rfl, spaces, trailing⟩
    obtain ⟨first, rest, rfl⟩ := List.exists_cons_of_ne_nil present
    have head : space first = false := solid first List.mem_cons_self
    rw [List.append_assoc, List.dropWhile_append_of_pos spaces, List.cons_append, List.dropWhile_cons_of_neg (by simp [head])]
    rw [← List.cons_append, List.rdropWhile, List.reverse_append, List.dropWhile_append_of_pos (by simpa using trailing)]
    rw [← List.rdropWhile, List.rdropWhile_eq_self_iff]
    intro ne
    rw [solid _ (List.getLast_mem ne)]
    exact Bool.false_ne_true

theorem partitionSpace_scheme {scheme rest : PyStr} (solid : ∀ c ∈ scheme, c.is ' ' = false) :
    partitionSpace (scheme ++ pyStr " " ++ rest) = (scheme, rest) := by
  have stays : ∀ c ∈ scheme, (!c.is ' ') = true := by
    intro c member
    rw [solid c member]
    rfl
  unfold partitionSpace
  rw [List.append_assoc, List.takeWhile_append_of_pos stays, List.dropWhile_append_of_pos stays]
  have stop : (pyStr " " ++ rest) = (0x20 : CodePoint) :: rest := rfl
  rw [stop, List.takeWhile_cons_of_neg (by decide), List.dropWhile_cons_of_neg (by decide), List.append_nil]
  rfl

theorem partitionSpace_presented {text : PyStr} (present : (partitionSpace text).2 ≠ []) :
    text = (partitionSpace text).1 ++ pyStr " " ++ (partitionSpace text).2 := by
  unfold partitionSpace at present ⊢
  dsimp only at present ⊢
  have split := List.takeWhile_append_dropWhile (p := fun c : CodePoint => !c.is ' ') (l := text)
  cases rest : text.dropWhile fun c => !c.is ' ' with
  | nil => rw [rest] at present; exact absurd rfl present
  | cons first rest' =>
    have stop := List.head?_dropWhile_not (fun c : CodePoint => !c.is ' ') text
    rw [rest] at stop split
    have space : first = 0x20 := by
      simp only [List.head?_cons, CodePoint.is, Bool.not_eq_false', beq_iff_eq] at stop
      exact Fin.ext stop
    rw [space] at split ⊢
    rw [List.append_assoc]
    exact split.symm

theorem lower_bearer {scheme : PyStr} (bearer : lower scheme = pyStr "bearer") : ∀ c ∈ scheme, c.is ' ' = false := by
  intro c member
  by_contra space
  rw [Bool.not_eq_false, CodePoint.is, beq_iff_eq] at space
  have lowered : lowerChar c = [c] := by
    unfold lowerChar
    simp [space]
  have member' : c ∈ lower scheme := List.mem_flatMap.2 ⟨c, member, by rw [lowered]; exact List.mem_singleton_self c⟩
  rw [bearer] at member'
  have known : c.val ∈ (pyStr "bearer").map Fin.val := List.mem_map_of_mem member'
  rw [space] at known
  revert known
  decide

theorem requireApiToken_ok {token : ApiToken} {authorization : Option PyStr} :
    requireApiToken (some token) authorization = .ok () ↔
      lower (partitionSpace (authorization.getD [])).1 = pyStr "bearer" ∧
        (partitionSpace (authorization.getD [])).2 ≠ [] ∧
          strip (partitionSpace (authorization.getD [])).2 = token.text := by
  unfold requireApiToken
  dsimp only
  by_cases missing : lower (partitionSpace (authorization.getD [])).1 ≠ pyStr "bearer" ∨
      (partitionSpace (authorization.getD [])).2 = []
  · rw [if_pos missing]
    refine iff_of_false nofun ?_
    rintro ⟨scheme, present, -⟩
    exact missing.elim (· scheme) present
  · rw [if_neg missing]
    rw [not_or, not_not] at missing
    rw [← compareDigest_token]
    cases compareDigest (strip (partitionSpace (authorization.getD [])).2) token.text with
    | error e => exact iff_of_false nofun fun all => nomatch all.2.2
    | ok same =>
      cases same with
      | true => exact iff_of_true rfl ⟨missing.1, missing.2, rfl⟩
      | false => exact iff_of_false nofun (by simp)

/-- A request is let in exactly when its header names the scheme in any case and, after one space, carries the token with
nothing but white space around it. -/
theorem requireApiToken_iff (token : ApiToken) (authorization : Option PyStr) :
    requireApiToken (some token) authorization = .ok () ↔
      ∃ scheme before after, authorization = some (scheme ++ pyStr " " ++ (before ++ token.text ++ after)) ∧
        lower scheme = pyStr "bearer" ∧ (∀ c ∈ before, isSpace c = true) ∧ ∀ c ∈ after, isSpace c = true := by
  obtain ⟨present, tchars⟩ := token.all_tchar
  have solid : ∀ c ∈ token.text, isSpace c = false := fun c member => tchar_not_space (tchars c member)
  rw [requireApiToken_ok, strip, stripBy_eq_iff present solid]
  constructor
  · rintro ⟨scheme, presented, before, after, split, spaces, trailing⟩
    cases authorization with
    | none => exact absurd rfl presented
    | some header =>
      refine ⟨(partitionSpace header).1, before, after, ?_, scheme, spaces, trailing⟩
      rw [← split]
      exact congrArg some (partitionSpace_presented presented)
  · rintro ⟨scheme, before, after, rfl, bearer, spaces, trailing⟩
    rw [Option.getD_some, partitionSpace_scheme (lower_bearer bearer)]
    refine ⟨bearer, ?_, before, after, rfl, spaces, trailing⟩
    simp [present]

/-- `b` is in the list, and all before it are as `P` says. -/
def FirstAt {α : Type} (P : α → Prop) (b : α) (items : List α) : Prop :=
  ∃ before after, items = before ++ b :: after ∧ b ∉ before ∧ ∀ item ∈ before, P item

theorem firstAt_cons_self {α : Type} (P : α → Prop) (b : α) (rest : List α) : FirstAt P b (b :: rest) :=
  ⟨[], rest, rfl, List.not_mem_nil, List.forall_mem_nil _⟩

theorem firstAt_cons {α : Type} {P : α → Prop} {b first : α} (other : first ≠ b) (rest : List α) :
    FirstAt P b (first :: rest) ↔ P first ∧ FirstAt P b rest := by
  constructor
  · rintro ⟨_ | ⟨head, before⟩, after, split, fresh, holds⟩
    · exact absurd (List.cons.inj split).1 other
    · obtain ⟨rfl, rfl⟩ := List.cons.inj split
      exact ⟨holds first List.mem_cons_self, before, after, rfl, fun member => fresh (List.mem_cons_of_mem _ member),
        fun item member => holds item (List.mem_cons_of_mem _ member)⟩
  · rintro ⟨holds, before, after, rfl, fresh, all⟩
    refine ⟨first :: before, after, rfl, ?_, List.forall_mem_cons.2 ⟨holds, all⟩⟩
    rw [List.mem_cons, not_or]
    exact ⟨Ne.symm other, fresh⟩

/-- The upgrade of a WebSocket is let in exactly when the protocol of the token is offered, unless a protocol offered
before it carries what is not ASCII; and it is the protocol that is echoed. -/
theorem selectWsSubprotocol_iff (token : ApiToken) (offered : List PyStr) (echo : Option PyStr) :
    selectWsSubprotocol (some token) offered = .ok (true, echo) ↔
      echo = some (wsBearerPrefix ++ token.text) ∧
        FirstAt (fun proto => wsBearerPrefix <+: proto → isAscii (proto.drop wsBearerPrefix.length) = true)
          (wsBearerPrefix ++ token.text) offered := by
  change selectBearer token offered = _ ↔ _
  induction offered with
  | nil =>
    refine iff_of_false nofun ?_
    rintro ⟨-, before, after, split, -⟩
    cases before <;> cases split
  | cons proto rest ih =>
    rw [selectBearer]
    by_cases own : proto = wsBearerPrefix ++ token.text
    · rw [own, if_pos (List.isPrefixOf_iff_prefix.2 (List.prefix_append _ _)), List.drop_left,
        compareDigest_token.2 rfl]
      refine ⟨fun returned => ⟨?_, firstAt_cons_self _ _ _⟩, fun ⟨same, _⟩ => same ▸ rfl⟩
      cases returned
      rfl
    · rw [firstAt_cons own]
      by_cases bearer : wsBearerPrefix.isPrefixOf proto = true
      · have begins := List.isPrefixOf_iff_prefix.1 bearer
        have wrong : proto.drop wsBearerPrefix.length ≠ token.text := by
          intro same
          obtain ⟨rest, rfl⟩ := begins
          rw [List.drop_left] at same
          exact own (same ▸ rfl)
        rw [if_pos bearer]
        unfold compareDigest
        rw [token.ascii, Bool.and_true]
        cases ascii : isAscii (proto.drop wsBearerPrefix.length) with
        | true =>
          rw [if_pos rfl, decide_eq_false wrong]
          exact ih.trans ⟨fun ⟨same, first⟩ => ⟨same, fun _ => rfl, first⟩, fun ⟨same, _, first⟩ => ⟨same, first⟩⟩
        | false =>
          rw [if_neg Bool.false_ne_true]
          exact iff_of_false nofun fun ⟨_, all, _⟩ => Bool.false_ne_true (all begins)
      · rw [if_neg bearer, ih]
        have free : wsBearerPrefix <+: proto → isAscii (proto.drop wsBearerPrefix.length) = true :=
          fun begins => absurd (List.isPrefixOf_iff_prefix.2 begins) bearer
        exact ⟨fun ⟨same, first⟩ => ⟨same, free, first⟩, fun ⟨same, _, first⟩ => ⟨same, first⟩⟩

end AotDrone.Backend
