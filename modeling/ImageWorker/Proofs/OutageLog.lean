import ImageWorker.Flow.FailureStreak
import ImageWorker.Power
import Mathlib.Data.List.Induction

/-!
# What an outage leaves in the log

A tracker is told of failures and successes one after the other. It counts the failures since the
last success, and lets those be logged that are within its limit. A streak that passes the limit
leaves one line when it does so and one when a success ends it, however long it is and whatever
came before; a shorter one leaves none. After a success the tracker is as it was in the beginning,
so the lines about a streak depend on its length alone.

The lines of those who use the tracker are not counted here. Numbers are not bounded; below the
bounds of 32 bits no number that the tracker keeps or compares leaves them.
-/

namespace ImageWorker.FailureStreak

inductive Event where
  | failure
  | success
  deriving DecidableEq, Repr

def step (s : FailureStreak) : Event → FailureStreak × List LogLine
  | .failure => (s.failure.1, s.failure.2.2)
  | .success => s.success

def after (s : FailureStreak) : List Event → FailureStreak
  | [] => s
  | e :: events => (s.step e).1.after events

def lines (s : FailureStreak) : List Event → List LogLine
  | [] => []
  | e :: events => (s.step e).2 ++ (s.step e).1.lines events

/-- How many failures came after the last success. -/
def sinceSuccess (events : List Event) : Nat := (events.reverse.takeWhile (· = .failure)).length

/-- The line of a streak that passes the limit. -/
def silenced (limit : Nat) : LogLine :=
  .warn .retry (toString limit ++
    " connection attempts failed in a row, logging only recovery from now on") []

/-- The line at the end of such a streak. -/
def restored (n : Nat) : LogLine :=
  .info .retry ("Connection restored after " ++ toString n ++ " failed attempts") []

variable {s : FailureStreak} {limit n : Nat} {before events rest : List Event}

theorem step_failure (s : FailureStreak) : s.step .failure =
    (⟨s.count + 1, s.loudLimit⟩,
      if s.count = s.loudLimit then [silenced s.loudLimit] else []) := by
  simp [step, failure, silenced]

theorem step_success (s : FailureStreak) : s.step .success =
    (ofLimit s.loudLimit, if s.loudLimit < s.count then [restored s.count] else []) := rfl

theorem loudLimit_step (s : FailureStreak) (e : Event) :
    (s.step e).1.loudLimit = s.loudLimit := by cases e <;> rfl

theorem after_append (s : FailureStreak) (before rest : List Event) :
    s.after (before ++ rest) = (s.after before).after rest := by
  induction before generalizing s with
  | nil => rfl
  | cons e before ih => exact ih _

theorem lines_append (s : FailureStreak) (before rest : List Event) :
    s.lines (before ++ rest) = s.lines before ++ (s.after before).lines rest := by
  induction before generalizing s with
  | nil => rfl
  | cons e before ih => rw [List.cons_append, lines, ih, lines, after, List.append_assoc]

theorem loudLimit_after (s : FailureStreak) (events : List Event) :
    (s.after events).loudLimit = s.loudLimit := by
  induction events generalizing s with
  | nil => rfl
  | cons e events ih => rw [after, ih, loudLimit_step]

theorem sinceSuccess_failure (events : List Event) :
    sinceSuccess (events ++ [.failure]) = sinceSuccess events + 1 := by
  simp [sinceSuccess]

theorem sinceSuccess_success (events : List Event) :
    sinceSuccess (events ++ [.success]) = 0 := by
  simp [sinceSuccess]

theorem sinceSuccess_le_length (events : List Event) : sinceSuccess events ≤ events.length := by
  rw [← List.length_reverse]
  exact (List.takeWhile_sublist _).length_le

/-- The tracker counts the failures since the last success. -/
theorem count_after (limit : Nat) (events : List Event) :
    ((ofLimit limit).after events).count = sinceSuccess events := by
  induction events using List.reverseRecOn with
  | nil => rfl
  | append_singleton events e ih =>
    rw [after_append]
    cases e with
    | failure => rw [sinceSuccess_failure, ← ih]; rfl
    | success => rw [sinceSuccess_success]; rfl

theorem after_eq (limit : Nat) (events : List Event) :
    (ofLimit limit).after events = ⟨sinceSuccess events, limit⟩ := by
  have count := count_after limit events
  have same := loudLimit_after (ofLimit limit) events
  cases tracker : (ofLimit limit).after events
  rw [tracker] at count same
  exact congrArg₂ _ count same

theorem after_replicate (s : FailureStreak) (n : Nat) :
    s.after (List.replicate n .failure) = ⟨s.count + n, s.loudLimit⟩ := by
  induction n generalizing s with
  | zero => rfl
  | succ n ih =>
    rw [List.replicate_succ, after, ih, step_failure, Nat.add_right_comm, Nat.add_assoc]

/-- The line is written when the limit is passed, and only then. -/
theorem lines_replicate (s : FailureStreak) (n : Nat) :
    s.lines (List.replicate n .failure) =
      if s.count ≤ s.loudLimit ∧ s.loudLimit < s.count + n then [silenced s.loudLimit] else [] := by
  induction n generalizing s with
  | zero =>
    rw [if_neg (by omega)]
    rfl
  | succ n ih =>
    rw [List.replicate_succ, lines, ih, step_failure]
    dsimp only
    rcases Nat.lt_trichotomy s.count s.loudLimit with below | reached | above
    · rw [if_neg (Nat.ne_of_lt below), List.nil_append]
      exact if_congr (by omega) rfl rfl
    · rw [if_pos reached, if_neg (by omega), if_pos (by omega), List.append_nil]
    · rw [if_neg (Nat.ne_of_gt above), if_neg (by omega), if_neg (by omega), List.append_nil]

/-- What a streak of `n` failures leaves when it passes the limit. -/
def onset (limit n : Nat) : List LogLine := if limit < n then [silenced limit] else []

/-- What a success after it leaves. -/
def relief (limit n : Nat) : List LogLine := if limit < n then [restored n] else []

theorem sinceSuccess_eq_zero (start : before.getLast? ≠ some .failure) :
    sinceSuccess before = 0 := by
  rcases List.eq_nil_or_concat before with rfl | ⟨earlier, last, rfl⟩
  · rfl
  · cases last with
    | failure => simp at start
    | success => rw [List.concat_eq_append, sinceSuccess_success]

theorem after_streak (start : before.getLast? ≠ some .failure) :
    (ofLimit limit).after (before ++ List.replicate n .failure) = ⟨n, limit⟩ := by
  rw [after_append, after_eq, sinceSuccess_eq_zero start, after_replicate, Nat.zero_add]

theorem lines_streak (start : before.getLast? ≠ some .failure) :
    (ofLimit limit).lines (before ++ List.replicate n .failure) =
      (ofLimit limit).lines before ++ onset limit n := by
  rw [lines_append, after_eq, sinceSuccess_eq_zero start, lines_replicate, onset]
  simp

theorem lines_streak_success (start : before.getLast? ≠ some .failure) :
    (ofLimit limit).lines (before ++ List.replicate n .failure ++ .success :: rest) =
      (ofLimit limit).lines before ++ onset limit n ++ relief limit n ++
        (ofLimit limit).lines rest := by
  rw [lines_append, lines_streak start, after_streak start, lines, step_success, relief]
  simp only [List.append_assoc]

/-- The tracker counts the failures since the last success and tells which are within the limit.
Of a streak between successes it says once that it passes the limit, and once that it is over, if it
does pass it. If the limit and the streaks are below the bounds of 32 bits, so is every number. -/
theorem streaks_logged (limit : Nat) :
    (∀ events, ((ofLimit limit).after events).count = sinceSuccess events) ∧
    (∀ events, ((ofLimit limit).after events).failure.2.1 = true ↔
      sinceSuccess (events ++ [.failure]) ≤ limit) ∧
    (∀ before n, before.getLast? ≠ some .failure →
      (ofLimit limit).lines (before ++ List.replicate n .failure) =
        (ofLimit limit).lines before ++ onset limit n ∧
      ∀ rest, (ofLimit limit).lines (before ++ List.replicate n .failure ++ .success :: rest) =
        (ofLimit limit).lines before ++ onset limit n ++ relief limit n ++
          (ofLimit limit).lines rest) ∧
    ∀ events, limit < 2 ^ 32 - 1 →
      (∀ before, before <+: events → sinceSuccess before < 2 ^ 32 - 1) →
      ∀ before, before <+: events →
        ((ofLimit limit).after before).count < 2 ^ 32 ∧ limit + 1 < 2 ^ 32 := by
  refine ⟨count_after limit, fun events => ?_,
    fun _ _ start => ⟨lines_streak start, fun _ => lines_streak_success start⟩,
    fun events limited short before early => ?_⟩
  · rw [after_eq, sinceSuccess_failure]
    exact decide_eq_true_iff
  · have := short before early
    rw [count_after]
    omega

theorem streaks_logged_of_outage :
    (ofLimit 2).lines ([.failure, .success] ++ List.replicate 3 .failure ++ .success :: []) =
        [silenced 2, restored 3] ∧
      (ofLimit 2).lines ([.failure, .success] ++ List.replicate 2 .failure ++ .success :: []) = [] ∧
      ((ofLimit 2).after [.failure, .success, .failure]).count < 2 ^ 32 := by
  obtain ⟨_, _, streak, bounded⟩ := streaks_logged 2
  refine ⟨(streak _ 3 (by decide)).2 _, (streak _ 2 (by decide)).2 _, ?_⟩
  refine (bounded _ (by decide) (fun before early => ?_) _ (List.prefix_refl _)).1
  have short : before.length ≤ 3 := early.length_le
  have counted := sinceSuccess_le_length before
  omega

end ImageWorker.FailureStreak
