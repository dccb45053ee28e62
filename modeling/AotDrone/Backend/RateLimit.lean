import AotDrone.Json.Value
import AotDrone.Lib.Run
import AotDrone.Lib.TokenBucket

/-! The limit on the requests of each address (`rate_limit.py`). -/

namespace AotDrone.Backend
open AotDrone.Lib AotDrone.Lib.Double AotDrone.Lib.Run AotDrone.Lib.TokenBucket AotDrone.Json

structure TokenBucket where
  capacity : Double
  refillPerS : Double
  tokens : Double
  lastRefill : Double

namespace TokenBucket

/-- A bucket starts full. -/
def create (capacity refillPerS now : Double) : TokenBucket :=
  { capacity, refillPerS, tokens := capacity, lastRefill := now }

def allow [Fpu] (bucket : TokenBucket) (now : Double) : Bool × TokenBucket :=
  let elapsed := pyMax 0 (now - bucket.lastRefill)
  let tokens := pyMin bucket.capacity (bucket.tokens + elapsed * bucket.refillPerS)
  if 1 ≤ tokens then (true, { bucket with tokens := tokens - 1, lastRefill := now })
  else (false, { bucket with tokens, lastRefill := now })

end TokenBucket

structure IpRateLimiter where
  capacity : Double
  refillPerS : Double
  buckets : PyStr → Option TokenBucket := fun _ => none

/-- A request, with what the clock says when a bucket is made for it and when it takes its token. -/
structure Hit where
  ip : PyStr
  created : Double
  now : Double

namespace IpRateLimiter

def bucket (limiter : IpRateLimiter) (hit : Hit) : TokenBucket :=
  (limiter.buckets hit.ip).getD (.create limiter.capacity limiter.refillPerS hit.created)

variable [Fpu]

def allow (limiter : IpRateLimiter) (hit : Hit) : Bool × IpRateLimiter :=
  let (allowed, bucket) := (limiter.bucket hit).allow hit.now
  (allowed, { limiter with buckets := Function.update limiter.buckets hit.ip (some bucket) })

def step (limiter : IpRateLimiter) (hit : Hit) : IpRateLimiter := (limiter.allow hit).2

/-! ## Each address on its own -/

def answers : IpRateLimiter → List Hit → List (Hit × Bool)
  | _, [] => []
  | limiter, hit :: rest => (hit, (limiter.allow hit).1) :: answers (limiter.step hit) rest

def answersTo (ip : PyStr) (limiter : IpRateLimiter) (hits : List Hit) : List Bool :=
  ((limiter.answers hits).filter fun answer => answer.1.ip = ip).map Prod.snd

/-- The answers of one bucket, which is made when it is needed. -/
def bucketAnswers (capacity refillPerS : Double) : Option TokenBucket → List Hit → List Bool
  | _, [] => []
  | bucket, hit :: rest =>
    let (allowed, next) := (bucket.getD (.create capacity refillPerS hit.created)).allow hit.now
    allowed :: bucketAnswers capacity refillPerS (some next) rest

theorem answersTo_eq (ip : PyStr) (limiter : IpRateLimiter) (hits : List Hit) :
    limiter.answersTo ip hits =
      bucketAnswers limiter.capacity limiter.refillPerS (limiter.buckets ip) (hits.filter fun hit => hit.ip = ip) := by
  induction hits generalizing limiter with
  | nil => rfl
  | cons hit rest ih =>
    have later := ih (limiter.step hit)
    unfold answersTo at later ⊢
    rw [answers, List.filter_cons, List.filter_cons]
    by_cases same : hit.ip = ip
    · subst same
      have moved : (limiter.step hit).buckets hit.ip = some ((limiter.bucket hit).allow hit.now).2 :=
        Function.update_self _ _ _
      rw [moved] at later
      rw [if_pos (decide_eq_true rfl), if_pos (decide_eq_true rfl), List.map_cons, later]
      rfl
    · have still : (limiter.step hit).buckets ip = limiter.buckets ip := Function.update_of_ne (Ne.symm same) _ _
      rw [still] at later
      rw [if_neg (by simpa using same), if_neg (by simpa using same), later]
      rfl

end IpRateLimiter

/-! ## In exact numbers -/

section rationals
attribute [local instance] exact

/-- The bucket that holds these numbers. -/
def TokenBucket.of (capacity refill : ℚ) (bucket : Bucket ℚ) : TokenBucket where
  capacity := fin capacity
  refillPerS := fin refill
  tokens := fin bucket.tokens
  lastRefill := fin bucket.last

theorem TokenBucket.allow_of (capacity refill : ℚ) (bucket : Bucket ℚ) (now : ℚ) :
    (TokenBucket.of capacity refill bucket).allow (fin now) =
      (decide (bucket.Allows capacity refill now), .of capacity refill (bucket.next capacity refill now)) := by
  have elapsed : pyMax 0 (fin now - fin bucket.last) = fin (max 0 (now - bucket.last)) := by
    rw [fin_sub]
    exact pyMax_fin 0 (now - bucket.last)
  have refilled : pyMin (fin capacity) (fin bucket.tokens + fin (max 0 (now - bucket.last)) * fin refill) =
      fin (bucket.refilled capacity refill now) := pyMin_fin _ _
  have taken : fin (bucket.refilled capacity refill now) - 1 = fin (bucket.refilled capacity refill now - 1) :=
    fin_sub _ 1
  unfold TokenBucket.allow TokenBucket.of
  dsimp only
  rw [elapsed, refilled, taken]
  unfold Bucket.next
  by_cases allowed : bucket.Allows capacity refill now
  · have reached : (1 : Double) ≤ fin (bucket.refilled capacity refill now) := fin_le_fin.2 allowed
    rw [if_pos reached, if_pos allowed, decide_eq_true allowed]
  · have short : ¬ (1 : Double) ≤ fin (bucket.refilled capacity refill now) := fun reached => allowed (fin_le_fin.1 reached)
    rw [if_neg short, if_neg allowed, decide_eq_false allowed, sub_zero]

namespace IpRateLimiter

def create (capacity refill : ℚ) : IpRateLimiter := { capacity := fin capacity, refillPerS := fin refill }

end IpRateLimiter

/-- A request whose times are numbers. -/
structure Request where
  ip : PyStr
  created : ℚ
  now : ℚ

def Request.hit (request : Request) : Hit where
  ip := request.ip
  created := fin request.created
  now := fin request.now

/-- The clock does not go back, from one request to the next and within one. -/
structure Timed (requests : List Request) : Prop where
  between : requests.Pairwise fun earlier later => earlier.now ≤ later.created
  within : ∀ request ∈ requests, request.created ≤ request.now

namespace IpRateLimiter

def serve (limiter : IpRateLimiter) (request : Request) : IpRateLimiter := limiter.step request.hit

def allows (limiter : IpRateLimiter) (request : Request) : Bool := (limiter.allow request.hit).1

/-- How many requests of an address were allowed in a window. -/
def allowedIn (past : Past IpRateLimiter Request) (ip : PyStr) (start stop : ℚ) : ℕ :=
  past.countP fun earlier => decide (earlier.2.ip = ip ∧ start ≤ earlier.2.now ∧ earlier.2.now ≤ stop) &&
    earlier.1.allows earlier.2

/-- What holds of every request. -/
structure LimitKept (capacity refill : ℚ) (past : Past IpRateLimiter Request) (limiter : IpRateLimiter)
    (request : Request) : Prop where
  rate : ∀ ip start stop, start ≤ stop →
    (allowedIn (past ++ [(limiter, request)]) ip start stop : ℚ) ≤ capacity + refill * (stop - start)
  tokens : ∀ ip, ∀ bucket ∈ (limiter.serve request).buckets ip, 0 ≤ bucket.tokens ∧ bucket.tokens ≤ fin capacity
  spaced : (∀ earlier ∈ past, earlier.2.ip = request.ip → earlier.2.now + 1 / refill ≤ request.now) →
    limiter.allows request = true

/-- A bucket and the requests that it has answered. -/
def BucketInv (capacity refill : ℚ) (past : Past IpRateLimiter Request) (ip : PyStr) : Option TokenBucket → Prop
  | none => ∀ earlier ∈ past, earlier.2.ip ≠ ip
  | some bucket => ∃ held : Bucket ℚ, bucket = .of capacity refill held ∧ held.Fits capacity ∧
      (∃ earlier ∈ past, earlier.2.ip = ip ∧ earlier.2.now = held.last) ∧
        ∀ start stop, start ≤ stop → held.Bounded capacity refill start stop (allowedIn past ip start stop)

structure LimiterInv (capacity refill : ℚ) (past : Past IpRateLimiter Request) (limiter : IpRateLimiter) : Prop where
  capacityIs : limiter.capacity = fin capacity
  refillIs : limiter.refillPerS = fin refill
  buckets : ∀ ip, BucketInv capacity refill past ip (limiter.buckets ip)

variable {capacity refill : ℚ} {past : Past IpRateLimiter Request} {limiter : IpRateLimiter} {request : Request}

theorem allowedIn_append (past : Past IpRateLimiter Request) (limiter : IpRateLimiter) (request : Request) (ip : PyStr)
    (start stop : ℚ) :
    allowedIn (past ++ [(limiter, request)]) ip start stop =
      allowedIn past ip start stop +
        if request.ip = ip ∧ start ≤ request.now ∧ request.now ≤ stop ∧ limiter.allows request = true then 1 else 0 := by
  unfold allowedIn
  rw [List.countP_append, List.countP_singleton]
  simp only [Bool.and_eq_true, decide_eq_true_eq, and_assoc]

theorem allowedIn_other {ip : PyStr} (other : ∀ earlier ∈ past, earlier.2.ip ≠ ip) (start stop : ℚ) :
    allowedIn past ip start stop = 0 := by
  apply List.countP_eq_zero.2
  intro earlier member
  simp [other earlier member]

/-- The bucket that answers a request, made for it or not. -/
structure Answers (capacity refill : ℚ) (past : Past IpRateLimiter Request) (limiter : IpRateLimiter)
    (request : Request) (held : Bucket ℚ) : Prop where
  same : limiter.bucket request.hit = .of capacity refill held
  fits : held.Fits capacity
  earlier : held.last ≤ request.now
  bounded : ∀ start stop, start ≤ stop →
    held.Bounded capacity refill start stop (allowedIn past request.ip start stop)
  spaced : (∀ earlier ∈ past, earlier.2.ip = request.ip → earlier.2.now + 1 / refill ≤ request.now) →
    held.Allows capacity refill request.now

theorem LimiterInv.answers (enough : 1 ≤ capacity) (positive : 0 < refill) (inv : LimiterInv capacity refill past limiter)
    (before : ∀ earlier ∈ past, earlier.2.now ≤ request.created) (within : request.created ≤ request.now) :
    ∃ held, Answers capacity refill past limiter request held := by
  have room : 0 ≤ capacity := zero_le_one.trans enough
  have bucket := inv.buckets request.ip
  have chosen : limiter.bucket request.hit = (limiter.buckets request.ip).getD _ := rfl
  rw [inv.capacityIs, inv.refillIs] at chosen
  cases present : limiter.buckets request.ip with
  | none =>
    rw [present] at bucket chosen
    refine ⟨{ tokens := capacity, last := request.created }, chosen, .full room _, within, ?_, ?_⟩
    · intro start stop window
      rw [allowedIn_other bucket]
      exact .full room positive.le window _
    · exact fun _ => Bucket.full_allows enough positive.le _ _
  | some held =>
    rw [present] at bucket chosen
    obtain ⟨held, rfl, fits, ⟨earlier, member, same, last⟩, bounded⟩ := bucket
    have ordered := (before earlier member).trans within
    refine ⟨held, chosen, fits, last ▸ ordered, bounded, ?_⟩
    intro spaced
    exact fits.allows enough positive (last ▸ spaced earlier member same)

variable {held : Bucket ℚ}

theorem Answers.allows_iff (answers : Answers capacity refill past limiter request held) :
    limiter.allows request = true ↔ held.Allows capacity refill request.now := by
  have served : limiter.allows request = ((limiter.bucket request.hit).allow (fin request.now)).1 := rfl
  rw [served, answers.same, TokenBucket.allow_of]
  exact decide_eq_true_iff

theorem Answers.serve_buckets (answers : Answers capacity refill past limiter request held) :
    (limiter.serve request).buckets =
      Function.update limiter.buckets request.ip (some (.of capacity refill (held.next capacity refill request.now))) := by
  have served : (limiter.serve request).buckets = Function.update limiter.buckets request.ip
      (some ((limiter.bucket request.hit).allow (fin request.now)).2) := rfl
  rw [served, answers.same, TokenBucket.allow_of]

theorem LimiterInv.serve (enough : 1 ≤ capacity) (positive : 0 < refill) (inv : LimiterInv capacity refill past limiter)
    (answers : Answers capacity refill past limiter request held) :
    LimiterInv capacity refill (past ++ [(limiter, request)]) (limiter.serve request) := by
  have room : 0 ≤ capacity := zero_le_one.trans enough
  refine ⟨inv.capacityIs, inv.refillIs, ?_⟩
  intro ip
  rw [answers.serve_buckets]
  by_cases same : request.ip = ip
  · subst same
    rw [Function.update_self]
    refine ⟨_, rfl, answers.fits.next room positive.le _, ⟨_, List.mem_append_right _ (List.mem_singleton_self _), rfl,
      rfl⟩, ?_⟩
    intro start stop window
    rw [allowedIn_append]
    simp only [answers.allows_iff, true_and]
    exact (answers.bounded start stop window).next positive.le room answers.fits answers.earlier
  · have bucket := inv.buckets ip
    have unmoved (start stop : ℚ) :
        allowedIn (past ++ [(limiter, request)]) ip start stop = allowedIn past ip start stop := by
      rw [allowedIn_append, if_neg fun all => same all.1, Nat.add_zero]
    rw [Function.update_of_ne (Ne.symm same)]
    cases present : limiter.buckets ip with
    | none =>
      rw [present] at bucket
      intro earlier member
      rcases List.mem_append.1 member with old | now
      · exact bucket earlier old
      · rw [List.mem_singleton.1 now]
        exact same
    | some other =>
      rw [present] at bucket
      obtain ⟨kept, rfl, fits, ⟨earlier, member, its⟩, bounded⟩ := bucket
      refine ⟨kept, rfl, fits, ⟨earlier, List.mem_append_left _ member, its⟩, ?_⟩
      intro start stop window
      rw [unmoved]
      exact bounded start stop window

theorem LimiterInv.kept (positive : 0 < refill) (enough : 1 ≤ capacity)
    (after : LimiterInv capacity refill (past ++ [(limiter, request)]) (limiter.serve request))
    (answers : Answers capacity refill past limiter request held) :
    LimitKept capacity refill past limiter request := by
  refine ⟨?_, ?_, fun spaced => answers.allows_iff.2 (answers.spaced spaced)⟩
  · intro ip start stop window
    have bucket := after.buckets ip
    cases present : (limiter.serve request).buckets ip with
    | none =>
      rw [present] at bucket
      have refills : 0 ≤ refill * (stop - start) := mul_nonneg positive.le (sub_nonneg.2 window)
      rw [allowedIn_other bucket]
      push_cast
      linarith
    | some held =>
      rw [present] at bucket
      obtain ⟨_, -, -, -, bounded⟩ := bucket
      exact (bounded start stop window).total
  · intro ip bucket member
    have held := after.buckets ip
    rw [Option.mem_def.1 member] at held
    obtain ⟨kept, rfl, fits, -, -⟩ := held
    exact ⟨fin_le_fin.2 fits.1, fin_le_fin.2 fits.2⟩

/-- Every address has its rate, from its requests alone: no window holds more than the capacity and what comes back
in it, no address that keeps its distance is refused, and the others have no say in it. -/
theorem limits_kept (enough : 1 ≤ capacity) (positive : 0 < refill) {requests : List Request} (timed : Timed requests) :
    Always serve (LimitKept capacity refill) [] (create capacity refill) requests ∧
      ∀ (others : List Request) (ip : PyStr),
        (requests.filter fun request => request.ip = ip) = (others.filter fun request => request.ip = ip) →
          (create capacity refill).answersTo ip (requests.map Request.hit) =
            (create capacity refill).answersTo ip (others.map Request.hit) := by
  constructor
  · have between : Always serve (fun past _ request => ∀ earlier ∈ past, earlier.2.now ≤ request.created) []
        (create capacity refill) requests :=
      Always.of_pairwise (fun earlier later : Request => earlier.now ≤ later.created) _ _ _ (List.forall_mem_nil _)
        timed.between
    have within : Always serve (fun _ _ request => request.created ≤ request.now) [] (create capacity refill) requests :=
      (Always.iff_forall (fun request : Request => request.created ≤ request.now) _ _ _).2 timed.within
    have clocked := Always.and _ _ _ between within
    refine Always.of_invariant (LimiterInv capacity refill) ?_ ?_ [] _ requests ⟨rfl, rfl, fun _ => nofun⟩ clocked
    · intro past limiter request inv clocked
      obtain ⟨held, answers⟩ := inv.answers enough positive clocked.1 clocked.2
      exact (inv.serve enough positive answers).kept positive enough answers
    · intro past limiter request inv clocked
      obtain ⟨held, answers⟩ := inv.answers enough positive clocked.1 clocked.2
      exact inv.serve enough positive answers
  · intro others ip same
    have own (requests : List Request) : (requests.map Request.hit).filter (fun hit => hit.ip = ip) =
        (requests.filter fun request => request.ip = ip).map Request.hit := List.filter_map
    rw [answersTo_eq, answersTo_eq, own, own, same]

def hitAt (ip : String) (now : ℚ) : Request := { ip := pyStr ip, created := now, now }

/-- Two requests in one instant from each of two addresses, and one of each a second later. -/
theorem limits_kept_burst :
    (1 : ℚ) ≤ 1 ∧ (0 : ℚ) < 1 ∧
      Always serve (LimitKept 1 1) [] (create 1 1)
        [hitAt "10.0.0.1" 0, hitAt "10.0.0.1" 0, hitAt "10.0.0.2" 0, hitAt "10.0.0.2" 0, hitAt "10.0.0.1" 1] := by
  refine ⟨le_rfl, one_pos, (limits_kept le_rfl one_pos ⟨?_, ?_⟩).1⟩
  · decide +kernel
  · decide +kernel

end IpRateLimiter
end rationals
end AotDrone.Backend
