import AotDrone.Backend.HeaderText
import AotDrone.Vision.LogBucket

/-! The upload of frames (`frame_pusher.py`). The encoder and the answers of the HTTP client are parameters of a call;
what is posted is kept as a list. -/

namespace AotDrone.Vision
open AotDrone.Lib AotDrone.Lib.Double AotDrone.Lib.Spacing AotDrone.Json AotDrone.Backend

inductive PushKey where
  | oversize
  | pushException
  | pushNon2xx
  | encodePrimary
  | encodeRetry
  deriving DecidableEq

/-- A request to the backend, whose content type is `image/jpeg`. -/
structure Post where
  content : Bytes
  authorization : Option PyStr

/-- What the constructor makes of its arguments. -/
structure FramePusherConfig where
  maxJpegBytes : ℤ
  retryQualityStep : ℤ
  logInterval : Double
  apiToken : Option PyStr

def clampQuality (quality : ℤ) : ℤ := max 1 (min 100 quality)

namespace FramePusherConfig

def create (maxJpegBytes retryQualityStep : ℤ) (logInterval : Double) (apiToken : Option PyStr) : FramePusherConfig where
  maxJpegBytes := max 1 maxJpegBytes
  retryQualityStep := max 1 retryQualityStep
  logInterval := pyMax 0 logInterval
  apiToken := (apiToken.filter fun token => !token.isEmpty).map strip

/-- The header that `push` adds. -/
def authorization (config : FramePusherConfig) : Option PyStr :=
  (config.apiToken.filter fun token => !token.isEmpty).map (pyStr "Bearer " ++ ·)

end FramePusherConfig

/-- A call of `push_frame`: what the encoder makes of the frame at each quality and what the client answers, which both
may raise, and the time of the line that it may log. -/
structure PushCall where
  quality : ℤ
  encode : ℤ → Option Bytes
  respond : Post → Option ℤ
  now : Double

structure FramePusher where
  pushOk : ℕ := 0
  pushFail : ℕ := 0
  droppedOversize : ℕ := 0
  log : BucketLog PushKey := {}
  posts : List Post := []

namespace FramePusher
variable [Fpu] (config : FramePusherConfig)

/-- A failure, which is counted and logged under its key. -/
def fail (pusher : FramePusher) (key : PushKey) (now : Double) : FramePusher :=
  { pusher with pushFail := pusher.pushFail + 1, log := pusher.log.logRateLimited config.logInterval key now }

def push (pusher : FramePusher) (jpegBytes : Bytes) (call : PushCall) : Bool × FramePusher :=
  if config.maxJpegBytes < jpegBytes.length then
    (false,
      { pusher with
        droppedOversize := pusher.droppedOversize + 1
        log := pusher.log.logRateLimited config.logInterval .oversize call.now })
  else
    let post : Post := { content := jpegBytes, authorization := config.authorization }
    let pusher := { pusher with posts := pusher.posts ++ [post] }
    match call.respond post with
    | none => (false, pusher.fail config .pushException call.now)
    | some statusCode =>
      if 200 ≤ statusCode ∧ statusCode < 300 then (true, { pusher with pushOk := pusher.pushOk + 1 })
      else (false, pusher.fail config .pushNon2xx call.now)

def pushFrame (pusher : FramePusher) (call : PushCall) : Bool × FramePusher :=
  let qualityPrimary := clampQuality call.quality
  match call.encode qualityPrimary with
  | none => (false, pusher.fail config .encodePrimary call.now)
  | some encoded =>
    if encoded.length ≤ config.maxJpegBytes then pusher.push config encoded call
    else
      let retryQuality := clampQuality (qualityPrimary - config.retryQualityStep)
      if retryQuality = qualityPrimary then pusher.push config encoded call
      else
        match call.encode retryQuality with
        | none => (false, pusher.fail config .encodeRetry call.now)
        | some encodedRetry => pusher.push config encodedRetry call

def step (pusher : FramePusher) (call : PushCall) : FramePusher := (pusher.pushFrame config call).2

/-! ## One call -/

/-- What a call comes to: a frame that is stored, one that is too large, or a failure under its key. -/
inductive Outcome where
  | ok
  | dropped
  | failed (key : PushKey)
  deriving DecidableEq

/-- The key that a call logs under. -/
def Outcome.key? : Outcome → Option PushKey
  | ok => none
  | dropped => some .oversize
  | failed key => some key

end FramePusher

namespace PushCall
variable (config : FramePusherConfig) (call : PushCall)

/-- The frame that `push` is given, or the key of the encoding that fails. -/
def encoded : Except PushKey Bytes :=
  let qualityPrimary := clampQuality call.quality
  let retryQuality := clampQuality (qualityPrimary - config.retryQualityStep)
  match call.encode qualityPrimary with
  | none => .error .encodePrimary
  | some encoded =>
    if encoded.length ≤ config.maxJpegBytes ∨ retryQuality = qualityPrimary then .ok encoded
    else
      match call.encode retryQuality with
      | none => .error .encodeRetry
      | some encodedRetry => .ok encodedRetry

/-- The frame that is posted, if one is. -/
def posted : Option Bytes := (call.encoded config).toOption.filter fun content => content.length ≤ config.maxJpegBytes

def outcome : FramePusher.Outcome :=
  match call.encoded config with
  | .error key => .failed key
  | .ok content =>
    if config.maxJpegBytes < content.length then .dropped
    else
      match call.respond { content, authorization := config.authorization } with
      | none => .failed .pushException
      | some statusCode => if 200 ≤ statusCode ∧ statusCode < 300 then .ok else .failed .pushNon2xx

end PushCall

namespace FramePusher
variable [Fpu] {config : FramePusherConfig}

/-- The call counts its outcome, logs it unless the frame is stored, and posts at most one frame. -/
structure Settled (config : FramePusherConfig) (pusher : FramePusher) (call : PushCall) (result : Bool × FramePusher) :
    Prop where
  returns : result.1 = decide (call.outcome config = .ok)
  pushOk : result.2.pushOk = pusher.pushOk + if call.outcome config = .ok then 1 else 0
  droppedOversize : result.2.droppedOversize = pusher.droppedOversize + if call.outcome config = .dropped then 1 else 0
  total : result.2.pushOk + result.2.pushFail + result.2.droppedOversize =
    pusher.pushOk + pusher.pushFail + pusher.droppedOversize + 1
  log : result.2.log = (call.outcome config).key?.elim pusher.log
    fun key => pusher.log.logRateLimited config.logInterval key call.now
  posts : result.2.posts = pusher.posts ++
    (call.posted config).toList.map fun content => { content, authorization := config.authorization }

theorem pushFrame_eq (pusher : FramePusher) (call : PushCall) :
    pusher.pushFrame config call =
      match call.encoded config with
      | .error key => (false, pusher.fail config key call.now)
      | .ok content => pusher.push config content call := by
  unfold pushFrame PushCall.encoded
  dsimp only
  cases call.encode (clampQuality call.quality) with
  | none => rfl
  | some encoded =>
    dsimp only
    by_cases fits : (encoded.length : ℤ) ≤ config.maxJpegBytes
    · rw [if_pos fits, if_pos (.inl fits)]
    · rw [if_neg fits]
      by_cases same : clampQuality (clampQuality call.quality - config.retryQualityStep) = clampQuality call.quality
      · rw [if_pos same, if_pos (.inr same)]
      · rw [if_neg same, if_neg (not_or.2 ⟨fits, same⟩)]
        cases call.encode (clampQuality (clampQuality call.quality - config.retryQualityStep)) <;> rfl

variable (config) in
theorem pushFrame_settled (pusher : FramePusher) (call : PushCall) :
    Settled config pusher call (pusher.pushFrame config call) := by
  rw [pushFrame_eq]
  cases encoded : call.encoded config with
  | error key =>
    have outcome : call.outcome config = .failed key := by
      unfold PushCall.outcome
      rw [encoded]
    have posted : call.posted config = none := by
      unfold PushCall.posted
      rw [encoded]
      rfl
    constructor <;> simp [outcome, posted, fail, Outcome.key?]
    omega
  | ok content =>
    dsimp only
    have outcome : call.outcome config =
        if config.maxJpegBytes < content.length then .dropped
        else
          match call.respond { content, authorization := config.authorization } with
          | none => .failed .pushException
          | some statusCode => if 200 ≤ statusCode ∧ statusCode < 300 then .ok else .failed .pushNon2xx := by
      unfold PushCall.outcome
      rw [encoded]
    have posted : call.posted config = if config.maxJpegBytes < content.length then none else some content := by
      unfold PushCall.posted
      rw [encoded]
      by_cases large : config.maxJpegBytes < content.length
      · simp [Except.toOption, Option.filter, large, not_le.2 large]
      · simp [Except.toOption, Option.filter, large, not_lt.1 large]
    unfold push
    by_cases large : config.maxJpegBytes < content.length
    · rw [if_pos large] at outcome posted ⊢
      constructor <;> simp [outcome, posted, Outcome.key?]
      omega
    · rw [if_neg large] at outcome posted ⊢
      cases answer : call.respond { content, authorization := config.authorization } with
      | none =>
        rw [answer] at outcome
        constructor <;> simp [outcome, posted, fail, Outcome.key?, answer]
        omega
      | some statusCode =>
        rw [answer] at outcome
        dsimp only at outcome
        by_cases accepted : 200 ≤ statusCode ∧ statusCode < 300
        · rw [if_pos accepted] at outcome
          constructor <;> simp [outcome, posted, Outcome.key?, answer, accepted]
          omega
        · rw [if_neg accepted] at outcome
          constructor <;> simp [outcome, posted, fail, Outcome.key?, answer, accepted]
          omega

/-! ## Runs -/

/-- When the calls so far have logged under the key. -/
def loggedAt (config : FramePusherConfig) (key : PushKey) (calls : List PushCall) : List Double :=
  calls.filterMap fun call => if (call.outcome config).key? = some key then some call.now else none

/-- The counters and the log tell of the same calls. -/
structure Accounts (config : FramePusherConfig) (calls : List PushCall) (pusher : FramePusher) : Prop where
  keeps : ∀ key, pusher.log.Keeps config.logInterval key (loggedAt config key calls)
  total : pusher.pushOk + pusher.pushFail + pusher.droppedOversize = calls.length
  pushOk : pusher.pushOk = calls.countP fun call => call.outcome config = .ok
  droppedOversize : pusher.droppedOversize = (loggedAt config .oversize calls).length
  posts : pusher.posts = (calls.filterMap (·.posted config)).map
    fun content => { content, authorization := config.authorization }

omit [Fpu] in
theorem encoded_ne_oversize {call : PushCall} : call.encoded config ≠ .error .oversize := by
  unfold PushCall.encoded
  dsimp only
  split
  · simp
  · split_ifs
    · simp
    · split <;> simp

omit [Fpu] in
theorem outcome_ne_oversize (call : PushCall) : call.outcome config ≠ .failed .oversize := by
  unfold PushCall.outcome
  split
  next key encoded =>
    intro same
    exact encoded_ne_oversize (encoded.trans (by rw [Outcome.failed.inj same]))
  next =>
    split_ifs
    · simp
    · split
      · simp
      · split_ifs <;> simp

theorem Accounts.step {calls : List PushCall} {pusher : FramePusher} (accounts : Accounts config calls pusher)
    (call : PushCall) : Accounts config (calls ++ [call]) (pusher.step config call) := by
  obtain ⟨-, pushOk, droppedOversize, total, log, posts⟩ := pusher.pushFrame_settled config call
  have logged : ∀ key, loggedAt config key (calls ++ [call]) =
      loggedAt config key calls ++ if (call.outcome config).key? = some key then [call.now] else [] := by
    intro key
    unfold loggedAt
    rw [List.filterMap_append]
    congr 1
    by_cases same : (call.outcome config).key? = some key <;> simp [same]
  refine ⟨?_, ?_, ?_, ?_, ?_⟩
  · intro key
    change (pusher.pushFrame config call).2.log.Keeps _ _ _
    rw [log, logged]
    cases own : (call.outcome config).key? with
    | none => simpa using accounts.keeps key
    | some logs =>
      by_cases same : logs = key
      · subst same
        simpa using (accounts.keeps logs).logged call.now
      · rw [if_neg (by simpa using same), List.append_nil]
        exact (accounts.keeps key).other (Ne.symm same) call.now
  · change (pusher.pushFrame config call).2.pushOk + (pusher.pushFrame config call).2.pushFail +
      (pusher.pushFrame config call).2.droppedOversize = _
    rw [total, accounts.total, List.length_append]
    rfl
  · change (pusher.pushFrame config call).2.pushOk = _
    rw [pushOk, accounts.pushOk, List.countP_append, List.countP_singleton]
    simp
  · change (pusher.pushFrame config call).2.droppedOversize = _
    rw [droppedOversize, accounts.droppedOversize, logged, List.length_append]
    congr 1
    cases own : call.outcome config with
    | ok => simp [Outcome.key?]
    | dropped => simp [Outcome.key?]
    | failed key =>
      have apart : key ≠ .oversize := fun same => outcome_ne_oversize call (own.trans (by rw [same]))
      simp [Outcome.key?, apart]
  · change (pusher.pushFrame config call).2.posts = _
    rw [posts, accounts.posts, List.filterMap_append, List.map_append]
    congr 1

variable (config) in
theorem accounts_of_run (calls : List PushCall) : Accounts config calls (calls.foldl (step config) {}) := by
  induction calls using List.reverseRecOn with
  | nil => exact ⟨fun _ => .start, rfl, rfl, rfl, rfl⟩
  | append_singleton calls call ih =>
    rw [List.foldl_append]
    exact ih.step call

omit [Fpu] in
theorem length_loggedAt_cons (key : PushKey) (call : PushCall) (calls : List PushCall) :
    (loggedAt config key (call :: calls)).length =
      (loggedAt config key calls).length + if (call.outcome config).key? = some key then 1 else 0 := by
  unfold loggedAt
  rw [List.filterMap_cons]
  by_cases same : (call.outcome config).key? = some key <;> simp [same]

variable (config) in
omit [Fpu] in
/-- Every call is stored or logs under one key. -/
theorem length_eq_logged (calls : List PushCall) :
    calls.length = (calls.countP fun call => call.outcome config = .ok) + (loggedAt config .oversize calls).length +
      ((loggedAt config .encodePrimary calls).length + (loggedAt config .encodeRetry calls).length +
        (loggedAt config .pushException calls).length + (loggedAt config .pushNon2xx calls).length) := by
  induction calls with
  | nil => rfl
  | cons call calls ih =>
    simp only [List.length_cons, List.countP_cons, length_loggedAt_cons]
    cases own : call.outcome config with
    | ok =>
      simp only [Outcome.key?, decide_true, reduceIte, reduceCtorEq]
      omega
    | dropped =>
      simp [Outcome.key?]
      omega
    | failed key =>
      cases key with
      | oversize => exact absurd own (outcome_ne_oversize call)
      | encodePrimary | encodeRetry | pushException | pushNon2xx =>
        simp [Outcome.key?]
        omega

/-- Along every run each call is counted once, as stored, too large or failed, and every one that is not stored is told
of by the lines of the log or will be by the next; the lines of one key are an interval apart, except that one at time
zero holds nothing back; and each call posts its frame or nothing, never above the limit, with the header of the token. -/
theorem pushes_accounted (config : FramePusherConfig) (calls : List PushCall) :
    let pusher := calls.foldl (step config) {}
    pusher.pushOk + pusher.pushFail + pusher.droppedOversize = calls.length ∧
      pusher.droppedOversize = pusher.log.accounted .oversize ∧
      pusher.pushFail = pusher.log.accounted .encodePrimary + pusher.log.accounted .encodeRetry +
        pusher.log.accounted .pushException + pusher.log.accounted .pushNon2xx ∧
      (∀ key, (pusher.log.timesOf key).IsChain fun earlier later =>
        earlier.2 = 0 ∨ config.logInterval ≤ 0 ∨ config.logInterval ≤ later.2 - earlier.2) ∧
      pusher.posts = (calls.filterMap (·.posted config)).map (fun content =>
        { content, authorization := config.authorization }) ∧
      ∀ post ∈ pusher.posts, (post.content.length : ℤ) ≤ config.maxJpegBytes ∧
        post.authorization = config.authorization := by
  intro pusher
  have accounts : Accounts config calls pusher := accounts_of_run config calls
  have total := accounts.total
  have split := length_eq_logged config calls
  refine ⟨total, ?_, ?_, ?_, accounts.posts, ?_⟩
  · rw [accounts.droppedOversize, (accounts.keeps .oversize).accounts]
  · rw [(accounts.keeps .encodePrimary).accounts, (accounts.keeps .encodeRetry).accounts,
      (accounts.keeps .pushException).accounts, (accounts.keeps .pushNon2xx).accounts]
    have pushOk := accounts.pushOk
    have droppedOversize := accounts.droppedOversize
    omega
  · intro key
    rw [(accounts.keeps key).lines]
    exact (admitted_spaced (shouldLog config.logInterval) _).imp fun _ _ => shouldLog_iff.1
  · intro post member
    rw [accounts.posts, List.mem_map] at member
    obtain ⟨content, posted, rfl⟩ := member
    obtain ⟨call, -, own⟩ := List.mem_filterMap.1 posted
    exact ⟨of_decide_eq_true (Option.filter_eq_some_iff.1 own).2, rfl⟩

end FramePusher
end AotDrone.Vision
