import AotDrone.Lib.Double
import AotDrone.Lib.Spacing

/-! `_log_rate_limited` and its buckets, which `frame_pusher.py` and `udp_vis_sender.py` both have: what is held back is
counted, and told with the next line of its key. -/

namespace AotDrone.Vision
open AotDrone.Lib AotDrone.Lib.Double AotDrone.Lib.Spacing

structure LogBucket where
  lastLog : Double := 0
  suppressed : ℕ := 0

/-- A line of the log: its key, its time, and how many calls it says were held back. -/
structure LogLine (κ : Type) where
  key : κ
  now : Double
  suppressed : ℕ

structure BucketLog (κ : Type) where
  buckets : κ → LogBucket := fun _ => {}
  lines : List (LogLine κ) := []

section
variable [Fpu] {κ : Type} [DecidableEq κ] (interval : Double)

/-- The last line of the key was at `last`, or at no time but zero, or the interval is over. -/
def shouldLog (last now : Double) : Bool :=
  decide (last = 0) || decide (interval ≤ 0) || decide (interval ≤ now - last)

theorem shouldLog_iff {interval last now : Double} :
    shouldLog interval last now = true ↔ last = 0 ∨ interval ≤ 0 ∨ interval ≤ now - last := by
  unfold shouldLog
  simp only [Bool.or_eq_true, decide_eq_true_iff, or_assoc]

def BucketLog.logRateLimited (log : BucketLog κ) (key : κ) (now : Double) : BucketLog κ :=
  let bucket := log.buckets key
  if shouldLog interval bucket.lastLog now then
    { buckets := Function.update log.buckets key { lastLog := now, suppressed := 0 }
      lines := log.lines ++ [{ key, now, suppressed := bucket.suppressed }] }
  else
    { log with buckets := Function.update log.buckets key { bucket with suppressed := bucket.suppressed + 1 } }

namespace BucketLog

/-- The times of the lines of a key. -/
def timesOf (log : BucketLog κ) (key : κ) : List (Unit × Double) :=
  (log.lines.filter (·.key = key)).map fun line => ((), line.now)

/-- What the lines of a key tell of, and what its next line will tell besides. -/
def accounted (log : BucketLog κ) (key : κ) : ℕ :=
  ((log.lines.filter (·.key = key)).map fun line => line.suppressed + 1).sum + (log.buckets key).suppressed

/-- The calls under a key have been at these times: the lines are those that a gate lets through, and no call is left
out of the account. -/
structure Keeps (log : BucketLog κ) (key : κ) (calls : List Double) : Prop where
  last : (log.buckets key).lastLog = ((log.timesOf key).getLast?.map Prod.snd).getD 0
  lines : log.timesOf key = admitted (shouldLog interval) none (calls.map fun now => ((), now))
  accounts : log.accounted key = calls.length

variable {interval} {log : BucketLog κ} {key : κ} {calls : List Double}

variable (interval log) in
theorem logged_other {other : κ} (apart : key ≠ other) (now : Double) :
    (log.logRateLimited interval other now).buckets key = log.buckets key ∧
      (log.logRateLimited interval other now).lines.filter (·.key = key) = log.lines.filter (·.key = key) := by
  unfold logRateLimited
  dsimp only
  split_ifs
  · exact ⟨Function.update_of_ne apart _ _, by simp [List.filter_append, Ne.symm apart]⟩
  · exact ⟨Function.update_of_ne apart _ _, rfl⟩

theorem logged_through {now : Double} (should : shouldLog interval (log.buckets key).lastLog now = true) :
    (log.logRateLimited interval key now).buckets key = { lastLog := now, suppressed := 0 } ∧
      (log.logRateLimited interval key now).lines.filter (·.key = key) =
        log.lines.filter (·.key = key) ++ [{ key, now, suppressed := (log.buckets key).suppressed }] := by
  unfold logRateLimited
  dsimp only
  rw [if_pos should]
  exact ⟨Function.update_self _ _ _, by simp [List.filter_append]⟩

theorem logged_held {now : Double} (should : shouldLog interval (log.buckets key).lastLog now = false) :
    (log.logRateLimited interval key now).buckets key =
        { log.buckets key with suppressed := (log.buckets key).suppressed + 1 } ∧
      (log.logRateLimited interval key now).lines = log.lines := by
  unfold logRateLimited
  dsimp only
  rw [should, if_neg Bool.false_ne_true]
  exact ⟨Function.update_self _ _ _, rfl⟩

theorem Keeps.start : ({} : BucketLog κ).Keeps interval key [] := ⟨rfl, rfl, rfl⟩

theorem Keeps.other (keeps : log.Keeps interval key calls) {other : κ} (apart : key ≠ other) (now : Double) :
    (log.logRateLimited interval other now).Keeps interval key calls := by
  obtain ⟨bucket, lines⟩ := logged_other interval log apart now
  refine ⟨?_, ?_, ?_⟩
  · rw [bucket, timesOf, lines]
    exact keeps.last
  · rw [timesOf, lines]
    exact keeps.lines
  · rw [accounted, lines, bucket]
    exact keeps.accounts

theorem Keeps.logged (keeps : log.Keeps interval key calls) (now : Double) :
    (log.logRateLimited interval key now).Keeps interval key (calls ++ [now]) := by
  have due : shouldLog interval (log.buckets key).lastLog now =
      (((log.timesOf key).getLast?.map Prod.snd).or none).all (shouldLog interval · now) := by
    rw [keeps.last, Option.or_none]
    cases (log.timesOf key).getLast? with
    | none => rfl
    | some last => rfl
  have through := @admitted_append Double Unit (shouldLog interval) none (calls.map fun now => ((), now)) ((), now)
  rw [← keeps.lines, ← due] at through
  have accounts := keeps.accounts
  unfold accounted at accounts
  cases should : shouldLog interval (log.buckets key).lastLog now with
  | true =>
    obtain ⟨bucket, lines⟩ := logged_through should
    rw [should, if_pos rfl] at through
    refine ⟨?_, ?_, ?_⟩
    · rw [bucket, timesOf, lines, List.map_append, List.map_singleton, List.getLast?_concat]
      rfl
    · rw [timesOf, lines, List.map_append, List.map_append]
      exact through.symm
    · rw [accounted, lines, bucket, List.map_append, List.sum_append, List.length_append, ← accounts]
      simp only [List.map_singleton, List.sum_singleton, List.length_singleton]
      omega
  | false =>
    obtain ⟨bucket, lines⟩ := logged_held should
    rw [should, if_neg Bool.false_ne_true, List.append_nil] at through
    refine ⟨?_, ?_, ?_⟩
    · rw [bucket, timesOf, lines]
      exact keeps.last
    · rw [timesOf, lines, List.map_append]
      exact through.symm
    · rw [accounted, lines, bucket, List.length_append, ← accounts]
      exact (Nat.add_assoc _ _ _).symm

end BucketLog
end
end AotDrone.Vision
