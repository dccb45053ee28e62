import AotDrone.Backend.FrameServer
import AotDrone.Lib.Replace
import AotDrone.Vision.FramePusher

/-! The frames from the vision process to the store of the backend: the pusher waits for one answer at a time, and what
it has given up may still arrive. -/

namespace AotDrone.Link
open AotDrone.Lib AotDrone.Lib.Double AotDrone.Lib.Run AotDrone.Json AotDrone.Backend AotDrone.Vision

/-- A frame for `push_frame`, as the encoder sees it. -/
structure PushTask where
  quality : ℤ
  encode : ℤ → Option Bytes

/-- The call, when it gets this answer. -/
def PushTask.call (task : PushTask) (answer : Option ℤ) (now : Double) : PushCall where
  quality := task.quality
  encode := task.encode
  respond := fun _ => answer
  now := now

inductive UploadStage where
  | sent
  | admitted
  | answered (statusCode : ℕ)
  deriving DecidableEq

structure Upload where
  post : Post
  stage : UploadStage

/-- The two processes, and every upload that there has been. The pusher waits for one of them. -/
structure FramePath where
  pusher : FramePusher := {}
  waiting : Option (PushTask × ℕ) := none
  uploads : List Upload := []
  server : FrameServer

inductive FrameEvent where
  /-- The loop pushes a frame, if it is not waiting. -/
  | push (task : PushTask) (now : Double)
  /-- An upload comes to the checks of the route. -/
  | enter (id : ℕ) (hit : Hit)
  /-- The body of an upload has been read, in pieces of these sizes. -/
  | handle (id : ℕ) (sizes : List ℕ) (now : Double)
  /-- The answer comes back. -/
  | answer (now : Double)
  /-- The client raises, be it for a timeout or a lost connection. -/
  | giveUp (now : Double)

def FrameEvent.task? : FrameEvent → Option PushTask
  | push task _ => some task
  | enter _ _ | handle _ _ _ | answer _ | giveUp _ => none

namespace FramePath

section steps
variable [Fpu] (config : FramePusherConfig)

def step (path : FramePath) : FrameEvent → FramePath
  | .push task now =>
    match path.waiting with
    | some _ => path
    | none =>
      let attempt := path.pusher.step config (task.call none now)
      match attempt.posts.drop path.pusher.posts.length with
      | [] => { path with pusher := attempt }
      | post :: _ =>
        { path with
          waiting := some (task, path.uploads.length)
          uploads := path.uploads ++ [{ post, stage := .sent }] }
  | .enter id hit =>
    match path.uploads[id]? with
    | none => path
    | some upload =>
      match upload.stage with
      | .sent =>
        let (refusal, server) := path.server.enter upload.post.authorization hit
        let stage := match refusal with
          | none => .admitted
          | some statusCode => .answered statusCode
        { path with server, uploads := path.uploads.set id { upload with stage } }
      | .admitted | .answered _ => path
  | .handle id sizes now =>
    match path.uploads[id]? with
    | none => path
    | some upload =>
      match upload.stage with
      | .admitted =>
        let (statusCode, server) := path.server.handle upload.post.content sizes now
        { path with server, uploads := path.uploads.set id { upload with stage := .answered statusCode } }
      | .sent | .answered _ => path
  | .answer now =>
    match path.waiting with
    | none => path
    | some (task, id) =>
      match path.uploads[id]?.map Upload.stage with
      | some (.answered statusCode) =>
        { path with pusher := path.pusher.step config (task.call (some statusCode) now), waiting := none }
      | none | some .sent | some .admitted => path
  | .giveUp now =>
    match path.waiting with
    | none => path
    | some (task, _) => { path with pusher := path.pusher.step config (task.call none now), waiting := none }

def run (server : FrameServer) (events : List FrameEvent) : FramePath := events.foldl (step config) { server }

/-- An upload that the server has stored. -/
def stored (upload : Upload) : Bool := decide (upload.stage = .answered 200)

/-- The upload that an event has the server answer 200. -/
def accepts (path : FramePath) (event : FrameEvent) : Option ℕ :=
  match event with
  | .handle id _ _ =>
    if path.uploads[id]?.any stored = false ∧ (path.step config event).uploads[id]?.any stored = true then some id
    else none
  | .push _ _ | .enter _ _ | .answer _ | .giveUp _ => none

/-- The uploads answered 200, in the order in which they were handled. -/
def accepted (server : FrameServer) (events : List FrameEvent) : List ℕ :=
  trail (step config) (accepts config) { server } events

end steps

/-! ## What holds all along -/

/-- An upload that the server has counted as bad. -/
def bad (upload : Upload) : Bool := decide (upload.stage = .answered 400)

/-- The uploads that the pusher no longer waits for. -/
def settled (path : FramePath) : List Upload :=
  match path.waiting with
  | none => path.uploads
  | some (_, id) => path.uploads.take id

/-- An upload is one encoding of a frame, within the size, with the header of the token; and whatever it has been
answered is for its rate or for its frame. -/
structure Sound (config : FramePusherConfig) (server : FrameServer) (tasks : List PushTask) (upload : Upload) : Prop where
  encoded : ∃ task ∈ tasks, ∃ quality, 1 ≤ quality ∧ quality ≤ 100 ∧ task.encode quality = some upload.post.content
  fits : (upload.post.content.length : ℤ) ≤ config.maxJpegBytes
  authorization : upload.post.authorization = config.authorization
  answered : ∀ statusCode, upload.stage = .answered statusCode →
    statusCode = 429 ∨ statusCode = server.status upload.post.content

/-- The store holds the uploads of `order`, each of them once, the last of them as the latest frame. -/
structure Holds (hub : VideoFrameHub) (uploads : List Upload) (order : List ℕ) : Prop where
  nodup : order.Nodup
  mem : ∀ id, id ∈ order ↔ uploads[id]?.any stored = true
  framesRxOk : hub.framesRxOk = order.length
  count : order.length = uploads.countP stored
  framesRxBad : hub.framesRxBad = uploads.countP bad
  latestJpeg : hub.latestJpeg = order.getLast?.bind fun id => uploads[id]?.map (·.post.content)

variable {config : FramePusherConfig} {server : FrameServer} {tasks : List PushTask} {order : List ℕ}
  {path : FramePath}

section uploads
variable {uploads : List Upload} {id : ℕ} {upload : Upload} {stage : UploadStage}

theorem countP_restage (present : uploads[id]? = some upload) {p : Upload → Bool} (before : p upload = false) :
    (uploads.set id { upload with stage }).countP p = uploads.countP p + if p { upload with stage } then 1 else 0 := by
  have counts := countP_set_present present { upload with stage } p
  rwa [before] at counts

theorem content_restage (present : uploads[id]? = some upload) (other : ℕ) :
    (uploads.set id { upload with stage })[other]?.map (·.post.content) = uploads[other]?.map (·.post.content) := by
  rw [getElem?_set_present present]
  split_ifs with same
  · rw [same, present]
    rfl
  · rfl

end uploads

namespace Holds
variable {hub : VideoFrameHub} {uploads : List Upload} {order : List ℕ} {id : ℕ} {upload : Upload}

theorem restage (holds : Holds hub uploads order) {stage : UploadStage} (present : uploads[id]? = some upload)
    (before : stored upload = false ∧ bad upload = false)
    (after : stored { upload with stage } = false ∧ bad { upload with stage } = false) :
    Holds hub (uploads.set id { upload with stage }) order := by
  refine ⟨holds.nodup, ?_, holds.framesRxOk, ?_, ?_, ?_⟩
  · intro other
    rw [holds.mem, getElem?_set_present present]
    split_ifs with same
    · rw [same, present, Option.any_some, Option.any_some, before.1, after.1]
    · rfl
  · rw [holds.count, countP_restage present before.1, after.1]
    rfl
  · rw [holds.framesRxBad, countP_restage present before.2, after.2]
    rfl
  · simp only [content_restage present]
    exact holds.latestJpeg

theorem store (holds : Holds hub uploads order) (present : uploads[id]? = some upload)
    (before : stored upload = false ∧ bad upload = false) (now : Double) :
    Holds (hub.setJpeg upload.post.content now) (uploads.set id { upload with stage := .answered 200 })
      (order ++ [id]) := by
  have fresh : id ∉ order := by
    rw [holds.mem, present, Option.any_some, before.1]
    exact Bool.false_ne_true
  refine ⟨?_, ?_, ?_, ?_, ?_, ?_⟩
  · exact List.nodup_append.2 ⟨holds.nodup, List.nodup_singleton id, by
      rintro other member _ last rfl
      exact fresh (List.mem_singleton.1 last ▸ member)⟩
  · intro other
    rw [List.mem_append, List.mem_singleton, holds.mem, getElem?_set_present present]
    split_ifs with same
    · exact iff_of_true (.inr same) rfl
    · exact or_iff_left same
  · rw [List.length_append]
    exact congrArg (· + 1) holds.framesRxOk
  · rw [List.length_append, holds.count, countP_restage present before.1]
    rfl
  · rw [countP_restage present before.2]
    exact holds.framesRxBad
  · rw [List.getLast?_concat]
    simp only [content_restage present]
    change some upload.post.content = uploads[id]?.map _
    rw [present]
    rfl

theorem reject (holds : Holds hub uploads order) (present : uploads[id]? = some upload)
    (before : stored upload = false ∧ bad upload = false) :
    Holds hub.recordBadFrame (uploads.set id { upload with stage := .answered 400 }) order := by
  refine ⟨holds.nodup, ?_, holds.framesRxOk, ?_, ?_, ?_⟩
  · intro other
    rw [holds.mem, getElem?_set_present present]
    split_ifs with same
    · rw [same, present, Option.any_some, before.1]
      rfl
    · rfl
  · rw [holds.count, countP_restage present before.1]
    rfl
  · rw [countP_restage present before.2]
    exact congrArg (· + 1) holds.framesRxBad
  · simp only [content_restage present]
    exact holds.latestJpeg

theorem send (holds : Holds hub uploads order) (post : Post) :
    Holds hub (uploads ++ [{ post, stage := .sent }]) order := by
  have bound : ∀ id ∈ order, id < uploads.length := by
    intro id member
    rw [holds.mem] at member
    by_contra outside
    rw [List.getElem?_eq_none (not_lt.1 outside)] at member
    exact Bool.false_ne_true member
  refine ⟨holds.nodup, ?_, holds.framesRxOk, ?_, ?_, ?_⟩
  · intro id
    rw [holds.mem]
    rcases lt_trichotomy id uploads.length with inside | rfl | outside
    · rw [List.getElem?_append_left inside]
    · rw [List.getElem?_eq_none le_rfl, List.getElem?_concat_length]
      exact iff_of_false Bool.false_ne_true Bool.false_ne_true
    · rw [List.getElem?_eq_none outside.le, List.getElem?_eq_none (by simpa using Nat.succ_le_of_lt outside)]
  · rw [holds.count, List.countP_append]
    rfl
  · rw [holds.framesRxBad, List.countP_append]
    rfl
  · rw [holds.latestJpeg]
    cases last : order.getLast? with
    | none => rfl
    | some id =>
      change uploads[id]?.map _ = (uploads ++ _)[id]?.map _
      rw [List.getElem?_append_left (bound id (List.mem_of_getLast? last))]

end Holds

/-! ## The pusher's part -/

theorem encoded_encodes {call : PushCall} {content : Bytes} (encoded : call.encoded config = .ok content) :
    ∃ quality, 1 ≤ quality ∧ quality ≤ 100 ∧ call.encode quality = some content := by
  have range : ∀ quality, 1 ≤ clampQuality quality ∧ clampQuality quality ≤ 100 := by
    intro quality
    unfold clampQuality
    omega
  unfold PushCall.encoded at encoded
  dsimp only at encoded
  cases primary : call.encode (clampQuality call.quality) with
  | none =>
    rw [primary] at encoded
    cases encoded
  | some first =>
    rw [primary] at encoded
    dsimp only at encoded
    split_ifs at encoded with fits
    · obtain rfl := Except.ok.inj encoded
      exact ⟨_, (range _).1, (range _).2, primary⟩
    · cases retry : call.encode (clampQuality (clampQuality call.quality - config.retryQualityStep)) with
      | none =>
        rw [retry] at encoded
        cases encoded
      | some second =>
        rw [retry] at encoded
        obtain rfl := Except.ok.inj encoded
        exact ⟨_, (range _).1, (range _).2, retry⟩

theorem posted_eq_some {call : PushCall} {content : Bytes} (posted : call.posted config = some content) :
    call.encoded config = .ok content ∧ (content.length : ℤ) ≤ config.maxJpegBytes := by
  obtain ⟨encoded, fits⟩ := Option.filter_eq_some_iff.1 posted
  refine ⟨?_, of_decide_eq_true fits⟩
  cases own : call.encoded config with
  | error key =>
    rw [own] at encoded
    cases encoded
  | ok body =>
    rw [own] at encoded
    exact congrArg Except.ok (Option.some.inj encoded)

theorem outcome_ok {call : PushCall} (ok : call.outcome config = .ok) :
    ∃ post statusCode, call.respond post = some statusCode ∧ 200 ≤ statusCode ∧ statusCode < 300 := by
  unfold PushCall.outcome at ok
  cases own : call.encoded config with
  | error key =>
    rw [own] at ok
    cases ok
  | ok content =>
    rw [own] at ok
    dsimp only at ok
    split_ifs at ok
    cases answer : call.respond { content, authorization := config.authorization } with
    | none =>
      rw [answer] at ok
      cases ok
    | some statusCode =>
      rw [answer] at ok
      dsimp only at ok
      split_ifs at ok with accepted
      exact ⟨_, statusCode, answer, accepted⟩

section runs
variable [Fpu]

/-- What an attempt adds to the posts. -/
theorem attempt_posts (pusher : FramePusher) (call : PushCall) :
    (pusher.step config call).posts.drop pusher.posts.length =
      (call.posted config).toList.map fun content => { content, authorization := config.authorization } := by
  have posts := (pusher.pushFrame_settled config call).posts
  unfold FramePusher.step
  rw [posts, List.drop_left]

theorem pushOk_le (pusher : FramePusher) (task : PushTask) (answer : Option ℤ) (now : Double) :
    (pusher.step config (task.call answer now)).pushOk ≤
      pusher.pushOk + if answer.any fun statusCode => decide (200 ≤ statusCode) && decide (statusCode < 300) then 1 else 0 := by
  have counts := (pusher.pushFrame_settled config (task.call answer now)).pushOk
  unfold FramePusher.step
  rw [counts]
  apply Nat.add_le_add_left
  by_cases ok : (task.call answer now).outcome config = .ok
  · obtain ⟨post, statusCode, own, least, most⟩ := outcome_ok ok
    obtain rfl : answer = some statusCode := own
    rw [if_pos ok, Option.any_some, decide_eq_true least, decide_eq_true most]
    exact le_rfl
  · rw [if_neg ok]
    exact Nat.zero_le _

end runs

/-! ## Runs -/

structure Consistent (config : FramePusherConfig) (server : FrameServer) (tasks : List PushTask) (order : List ℕ)
    (path : FramePath) : Prop where
  same : server.Same path.server
  waits : ∀ task id, path.waiting = some (task, id) → id + 1 = path.uploads.length
  pushOk : path.pusher.pushOk ≤ path.settled.countP stored
  sound : ∀ upload ∈ path.uploads, Sound config server tasks upload
  holds : Holds path.server.hub path.uploads order

theorem settled_restage {id : ℕ} {upload : Upload} {stage : UploadStage} (after : FrameServer)
    (present : path.uploads[id]? = some upload) (before : stored upload = false) :
    path.settled.countP stored ≤
      ({ path with server := after, uploads := path.uploads.set id { upload with stage } } : FramePath).settled.countP
        stored := by
  unfold settled
  dsimp only
  cases path.waiting with
  | none =>
    dsimp only
    rw [countP_restage present before]
    exact Nat.le_add_right _ _
  | some waits =>
    dsimp only
    rw [List.take_set]
    rcases lt_or_ge id waits.2 with inside | outside
    · rw [@countP_restage (path.uploads.take waits.2) id upload stage (by rwa [List.getElem?_take_of_lt inside]) _ before]
      exact Nat.le_add_right _ _
    · rw [List.set_eq_of_length_le ((List.length_take_le _ _).trans outside)]

namespace Consistent

theorem start (server : FrameServer) (fresh : server.hub = {}) :
    Consistent config server [] [] { server } := by
  refine ⟨⟨rfl, rfl, rfl⟩, nofun, le_rfl, nofun, List.nodup_nil, fun id => ?_, ?_, rfl, ?_, ?_⟩
  · exact iff_of_false (List.not_mem_nil) Bool.false_ne_true
  · change server.hub.framesRxOk = 0
    rw [fresh]
  · change server.hub.framesRxBad = 0
    rw [fresh]
  · change server.hub.latestJpeg = none
    rw [fresh]

theorem sound_more (consistent : Consistent config server tasks order path) (more : List PushTask) :
    ∀ upload ∈ path.uploads, Sound config server (tasks ++ more) upload := by
  intro upload member
  obtain ⟨⟨task, known, encoded⟩, fits, authorization, answered⟩ := consistent.sound upload member
  exact ⟨⟨task, List.mem_append_left more known, encoded⟩, fits, authorization, answered⟩

theorem push [Fpu] (consistent : Consistent config server tasks order path) (task : PushTask) (now : Double) :
    Consistent config server (tasks ++ [task]) order (path.step config (.push task now)) := by
  have sound := consistent.sound_more [task]
  unfold FramePath.step
  dsimp only
  cases waiting : path.waiting with
  | some _ => exact ⟨consistent.same, consistent.waits, consistent.pushOk, sound, consistent.holds⟩
  | none =>
    dsimp only
    have settled : path.settled = path.uploads := by
      unfold FramePath.settled
      rw [waiting]
    have pushOk := consistent.pushOk
    rw [settled] at pushOk
    rw [attempt_posts]
    cases posted : (task.call none now).posted config with
    | none =>
      rw [Option.toList_none, List.map_nil]
      refine ⟨consistent.same, nofun, ?_, sound, consistent.holds⟩
      change (path.pusher.step config (task.call none now)).pushOk ≤ path.uploads.countP stored
      exact (pushOk_le path.pusher task none now).trans pushOk
    | some content =>
      rw [Option.toList_some, List.map_singleton]
      obtain ⟨encoded, fits⟩ := posted_eq_some posted
      refine ⟨consistent.same, ?_, ?_, ?_, consistent.holds.send _⟩
      · intro other id same
        obtain ⟨-, rfl⟩ := Prod.mk.inj (Option.some.inj same)
        exact (@List.length_append _ path.uploads [_]).symm
      · change path.pusher.pushOk ≤ ((path.uploads ++ _).take path.uploads.length).countP stored
        rwa [List.take_left]
      · intro upload member
        rcases List.mem_append.1 member with old | new
        · exact sound upload old
        · rw [List.mem_singleton.1 new]
          exact ⟨⟨task, by simp, encoded_encodes encoded⟩, fits, rfl, nofun⟩

/-- An upload that has come further, and a server that has done its part. -/
theorem restage (consistent : Consistent config server tasks order path) {id : ℕ} {upload : Upload} {stage : UploadStage}
    {after : FrameServer} (present : path.uploads[id]? = some upload) (before : stored upload = false)
    (same : path.server.Same after)
    (answered : ∀ statusCode, stage = .answered statusCode →
      statusCode = 429 ∨ statusCode = server.status upload.post.content)
    {later : List ℕ} (holds : Holds after.hub (path.uploads.set id { upload with stage }) later) :
    Consistent config server tasks later
      { path with server := after, uploads := path.uploads.set id { upload with stage } } := by
  refine ⟨?_, ?_, ?_, ?_, holds⟩
  · exact ⟨same.token.trans consistent.same.token, same.runtime.trans consistent.same.runtime,
      same.canDecodeJpeg.trans consistent.same.canDecodeJpeg⟩
  · intro task other waiting
    rw [List.length_set]
    exact consistent.waits task other waiting
  · exact consistent.pushOk.trans (settled_restage after present before)
  · obtain ⟨encoded, fits, authorization, -⟩ := consistent.sound upload (List.mem_of_getElem? present)
    exact forall_mem_set consistent.sound ⟨encoded, fits, authorization, answered⟩

theorem enter [Fpu] (consistent : Consistent config server tasks order path)
    (shared : requireApiToken server.token config.authorization = .ok ()) (id : ℕ) (hit : Hit) :
    Consistent config server tasks order (path.step config (.enter id hit)) := by
  unfold FramePath.step
  dsimp only
  cases present : path.uploads[id]? with
  | none => exact consistent
  | some upload =>
    dsimp only
    cases stage : upload.stage with
    | admitted => exact consistent
    | answered _ => exact consistent
    | sent =>
      dsimp only
      have before : stored upload = false ∧ bad upload = false := by
        unfold stored bad
        rw [stage]
        exact ⟨rfl, rfl⟩
      have known : requireApiToken path.server.token upload.post.authorization = .ok () := by
        rwa [consistent.same.token, (consistent.sound upload (List.mem_of_getElem? present)).authorization]
      obtain ⟨refusal, same, hub⟩ := FrameServer.enter_cases hit known
      have holds := consistent.holds
      rcases refusal with none | limited
      · rw [none]
        apply consistent.restage present before.1 same
        · intro statusCode own
          cases own
        · rw [hub]
          exact holds.restage present before ⟨rfl, rfl⟩
      · rw [limited]
        apply consistent.restage present before.1 same
        · intro statusCode own
          exact .inl (UploadStage.answered.inj own).symm
        · rw [hub]
          exact holds.restage present before ⟨rfl, rfl⟩

/-- An event that leaves the uploads alone is not answered. -/
theorem accepts_unchanged [Fpu] {event : FrameEvent} (same : path.step config event = path) :
    path.accepts config event = none := by
  cases event with
  | handle id sizes now =>
    unfold accepts
    dsimp only
    rw [same, if_neg]
    rintro ⟨before, after⟩
    rw [before] at after
    cases after
  | push _ _ | enter _ _ | answer _ | giveUp _ => rfl

theorem step_handle [Fpu] {id : ℕ} {upload : Upload} (present : path.uploads[id]? = some upload)
    (stage : upload.stage = .admitted) (sizes : List ℕ) (now : Double) :
    path.step config (.handle id sizes now) =
      { path with
        server := { path.server with hub := path.server.hubAfter upload.post.content now }
        uploads := path.uploads.set id
          { upload with stage := .answered (path.server.status upload.post.content) } } := by
  simp only [FramePath.step, present, stage, FrameServer.handle_eq]

theorem accepts_handle [Fpu] {id : ℕ} {upload : Upload} (present : path.uploads[id]? = some upload)
    (stage : upload.stage = .admitted) (sizes : List ℕ) (now : Double) :
    path.accepts config (.handle id sizes now) =
      if path.server.status upload.post.content = 200 then some id else none := by
  have after : (path.step config (.handle id sizes now)).uploads[id]?.any stored =
      decide (path.server.status upload.post.content = 200) := by
    rw [step_handle present stage]
    dsimp only
    rw [getElem?_set_present present, if_pos rfl]
    simp [stored]
  have before : stored upload = false := by
    unfold stored
    rw [stage]
    rfl
  unfold accepts
  dsimp only
  rw [after, present, Option.any_some, before]
  simp

theorem handle [Fpu] (consistent : Consistent config server tasks order path) (id : ℕ) (sizes : List ℕ) (now : Double) :
    Consistent config server tasks (order ++ (path.accepts config (.handle id sizes now)).toList)
      (path.step config (.handle id sizes now)) := by
  have idle (same : path.step config (.handle id sizes now) = path) :
      Consistent config server tasks (order ++ (path.accepts config (.handle id sizes now)).toList)
        (path.step config (.handle id sizes now)) := by
    rw [accepts_unchanged same, same, Option.toList_none, List.append_nil]
    exact consistent
  cases present : path.uploads[id]? with
  | none => exact idle (by simp only [FramePath.step, present])
  | some upload =>
    cases stage : upload.stage with
    | sent => exact idle (by simp only [FramePath.step, present, stage])
    | answered _ => exact idle (by simp only [FramePath.step, present, stage])
    | admitted =>
      have before : stored upload = false ∧ bad upload = false := by
        unfold stored bad
        rw [stage]
        exact ⟨rfl, rfl⟩
      have status : path.server.status upload.post.content = server.status upload.post.content := by
        unfold FrameServer.status
        rw [consistent.same.runtime, consistent.same.canDecodeJpeg]
      rw [accepts_handle present stage, step_handle present stage]
      apply consistent.restage present before.1
      · exact ⟨rfl, rfl, rfl⟩
      · intro statusCode own
        exact .inr ((UploadStage.answered.inj own).symm.trans status)
      · change Holds (path.server.hubAfter upload.post.content now) _ _
        unfold FrameServer.hubAfter
        rcases path.server.status_cases upload.post.content with accepted | refused | disabled
        · rw [accepted]
          exact consistent.holds.store present before now
        · have other : ¬ path.server.status upload.post.content = 200 := by omega
          rw [if_neg other, if_neg other, refused, Option.toList_none, List.append_nil]
          exact consistent.holds.reject present before
        · have other : ¬ path.server.status upload.post.content = 200 := by omega
          rw [if_neg other, if_neg other, disabled, Option.toList_none, List.append_nil]
          exact consistent.holds.restage present before ⟨rfl, rfl⟩

/-- The pusher no longer waits. -/
theorem settle [Fpu] (consistent : Consistent config server tasks order path) {task : PushTask} {id : ℕ}
    (waiting : path.waiting = some (task, id)) (answer : Option ℤ) (now : Double)
    (genuine : ∀ statusCode, answer = some statusCode → 200 ≤ statusCode → statusCode < 300 →
      path.uploads[id]?.any stored = true) :
    Consistent config server tasks order
      { path with pusher := path.pusher.step config (task.call answer now), waiting := none } := by
  refine ⟨consistent.same, nofun, ?_, consistent.sound, consistent.holds⟩
  have last := consistent.waits task id waiting
  have pushOk := consistent.pushOk
  unfold FramePath.settled at pushOk
  rw [waiting] at pushOk
  dsimp only at pushOk
  change (path.pusher.step config (task.call answer now)).pushOk ≤ path.uploads.countP stored
  have all : path.uploads = path.uploads.take id ++ path.uploads[id]?.toList := by
    rw [← List.take_add_one, last, List.take_length]
  have counts := @pushOk_le config _ path.pusher task answer now
  rw [all, List.countP_append]
  apply counts.trans (Nat.add_le_add pushOk _)
  split_ifs with accepted
  · obtain ⟨statusCode, own, range⟩ := (Option.any_eq_true _ _).1 accepted
    rw [Bool.and_eq_true, decide_eq_true_eq, decide_eq_true_eq] at range
    obtain ⟨upload, present, stores⟩ := (Option.any_eq_true _ _).1 (genuine statusCode own range.1 range.2)
    rw [present, Option.toList_some, List.countP_singleton, if_pos stores]
  · exact Nat.zero_le _

theorem answer [Fpu] (consistent : Consistent config server tasks order path) (now : Double) :
    Consistent config server tasks order (path.step config (.answer now)) := by
  unfold FramePath.step
  dsimp only
  cases waiting : path.waiting with
  | none => exact consistent
  | some waits =>
    obtain ⟨task, id⟩ := waits
    dsimp only
    cases present : path.uploads[id]? with
    | none => exact consistent
    | some upload =>
      rw [Option.map_some]
      cases stage : upload.stage with
      | sent => exact consistent
      | admitted => exact consistent
      | answered statusCode =>
        apply consistent.settle waiting
        intro accepted same least most
        obtain rfl := Option.some.inj same
        rw [present, Option.any_some]
        have sound := consistent.sound upload (List.mem_of_getElem? present)
        rcases sound.answered statusCode stage with limited | own
        · omega
        · unfold stored
          rw [stage, own]
          rcases server.status_cases upload.post.content with ok | refused | disabled
          · rw [ok]
            rfl
          · omega
          · omega

theorem giveUp [Fpu] (consistent : Consistent config server tasks order path) (now : Double) :
    Consistent config server tasks order (path.step config (.giveUp now)) := by
  unfold FramePath.step
  dsimp only
  cases waiting : path.waiting with
  | none => exact consistent
  | some waits => exact consistent.settle waiting none now nofun

theorem step [Fpu] (consistent : Consistent config server tasks order path)
    (shared : requireApiToken server.token config.authorization = .ok ()) (event : FrameEvent) :
    Consistent config server (tasks ++ event.task?.toList) (order ++ (path.accepts config event).toList)
      (path.step config event) := by
  have same : tasks ++ [] = tasks := List.append_nil tasks
  have kept : order ++ [] = order := List.append_nil order
  cases event with
  | push task now => exact kept.symm ▸ consistent.push task now
  | enter id hit => exact same.symm ▸ kept.symm ▸ consistent.enter shared id hit
  | handle id sizes now => exact same.symm ▸ consistent.handle id sizes now
  | answer now => exact same.symm ▸ kept.symm ▸ consistent.answer now
  | giveUp now => exact same.symm ▸ kept.symm ▸ consistent.giveUp now

theorem run [Fpu] (shared : requireApiToken server.token config.authorization = .ok ()) (fresh : server.hub = {})
    (events : List FrameEvent) :
    Consistent config server (events.filterMap FrameEvent.task?) (FramePath.accepted config server events)
      (FramePath.run config server events) := by
  induction events using List.reverseRecOn with
  | nil => exact start server fresh
  | append_singleton events event ih =>
    have tasks : [event].filterMap FrameEvent.task? = event.task?.toList := by
      cases event <;> rfl
    unfold FramePath.accepted FramePath.run at ih ⊢
    rw [List.filterMap_append, tasks, trail_concat, List.foldl_append]
    exact ih.step shared event

end Consistent

/-- The header of the pusher passes the check of a backend that has been started with the same text. -/
theorem authorization_known {raw : Option PyStr} {token : Option ApiToken} {name : String}
    (shared : readEnvToken name raw = .ok token) (maxJpegBytes retryQualityStep : ℤ) (logInterval : Double) :
    requireApiToken token (FramePusherConfig.create maxJpegBytes retryQualityStep logInterval raw).authorization =
      .ok () := by
  cases token with
  | none => rfl
  | some token =>
    cases raw with
    | none => cases shared
    | some raw =>
      unfold readEnvToken at shared
      dsimp only at shared
      split_ifs at shared with blank isToken
      · cases shared
      obtain rfl := Option.some.inj (Except.ok.inj shared)
      rw [Bool.not_eq_true] at blank
      have present : raw.isEmpty = false := by
        cases raw with
        | nil => exact blank
        | cons _ _ => rfl
      have header : (FramePusherConfig.create maxJpegBytes retryQualityStep logInterval (some raw)).authorization =
          some (pyStr "Bearer " ++ strip raw) := by
        unfold FramePusherConfig.create FramePusherConfig.authorization
        simp [Option.filter, present, blank]
      rw [header]
      exact requireApiToken_bearer ⟨strip raw, isToken⟩

variable [Fpu] in
/-- Whatever is lost, late or given up: the store holds exactly the uploads that it has answered so, each of them once,
and the last one that it handled is the latest frame; no upload is turned away but for its rate, its size, its markers or its
decoding; and the pusher never counts more frames than are stored. -/
theorem frames_delivered (maxJpegBytes retryQualityStep : ℤ) (logInterval : Double) (raw : Option PyStr)
    (server : FrameServer) (shared : readEnvToken "BACKEND_API_TOKEN" raw = .ok server.token) (fresh : server.hub = {})
    (events : List FrameEvent) :
    let config := FramePusherConfig.create maxJpegBytes retryQualityStep logInterval raw
    let path := run config server events
    (∀ upload ∈ path.uploads, Sound config server (events.filterMap FrameEvent.task?) upload) ∧
      Holds path.server.hub path.uploads (accepted config server events) ∧
      path.pusher.pushOk ≤ (accepted config server events).length := by
  intro config path
  have consistent : Consistent config server (events.filterMap FrameEvent.task?) (accepted config server events) path :=
    Consistent.run (authorization_known shared maxJpegBytes retryQualityStep logInterval) fresh events
  refine ⟨consistent.sound, consistent.holds, ?_⟩
  rw [consistent.holds.count]
  apply consistent.pushOk.trans
  unfold settled
  cases path.waiting with
  | none => exact le_rfl
  | some waits => exact (List.take_sublist _ _).countP_le

/-- A server with a token that takes four bytes. -/
def smallServer : FrameServer where
  token := some ⟨pyStr "token", by decide⟩
  limiter := none
  runtime := { enabled := true, maxJpegBytes := 4, validateDecode := false }
  readable := by
    have less : (4 : ℤ) < 10 ^ 1 := by norm_num
    exact less.trans_le (pow_le_pow_right₀ (by norm_num) (by decide))
  canDecodeJpeg := fun _ => false

/-- The smallest frame, which arrives only after the pusher has given it up, and the next one. -/
def lateThenNext : List FrameEvent :=
  [.push ⟨75, fun _ => some [0xFF, 0xD8, 0xFF, 0xD9]⟩ 1, .enter 0 ⟨[], 1, 1⟩, .giveUp 2, .handle 0 [2] 3,
    .push ⟨75, fun _ => some [0xFF, 0xD8, 0xFF, 0xD9]⟩ 4, .enter 1 ⟨[], 4, 4⟩, .handle 1 [] 5, .answer 6]

theorem frames_delivered_lateThenNext :
    let path := @run exact (.create 100 20 60 (some (pyStr " token"))) smallServer lateThenNext
    path.pusher.pushOk = 1 ∧ Holds path.server.hub path.uploads [0, 1] ∧ path.pusher.pushOk ≤ 2 := by
  refine ⟨rfl, ?_⟩
  exact (@frames_delivered exact 100 20 60 (some (pyStr " token")) smallServer rfl rfl lateThenNext).2

end FramePath
end AotDrone.Link
