import ImageWorker.Proofs.JobTrace
import ImageWorker.Proofs.ProgramRuns

/-!
# The course of a storage call

A retried operation goes on as long as its attempts fail and shutdown has not fired, and its last
exchange decides what comes of it: an attempt that succeeds, one that fails for good, or shutdown.
Inside a job each attempt is one storage call, and a call that failed for good is logged.
-/

namespace ImageWorker

abbrev RetryExchange (ε α : Type) := Program.Exchange RetryRequest (RetryRequest.Answer ε α)

variable {ε α : Type}

/-- An exchange that leaves open what comes of the operation. -/
inductive RetryExchange.GoesOn : RetryExchange ε α → Prop where
  | running : GoesOn ⟨.isStopping, false⟩
  | failed (e : ε) : GoesOn ⟨.attempt, .finished (.error e)⟩
  | paused (delay : Duration) : GoesOn ⟨.pause delay, .finished ()⟩
  | noted (n : Note) : GoesOn ⟨.note n, ()⟩

/-- An exchange that decides what comes of the operation. -/
inductive RetryExchange.Decides : RetryExchange ε α → RetryOutcome ε α → Prop where
  | success (value : α) : Decides ⟨.attempt, .finished (.ok value)⟩ (.success value)
  | failed (e : ε) (attempts : Nat) : Decides ⟨.attempt, .finished (.error e)⟩ (.failed e attempts)
  | stopping (attempts : Nat) : Decides ⟨.isStopping, true⟩ (.cancelled attempts)
  | abandoned (attempts : Nat) : Decides ⟨.attempt, .stopped⟩ (.cancelled attempts)
  | interrupted (delay : Duration) (attempts : Nat) :
      Decides ⟨.pause delay, .stopped⟩ (.cancelled attempts)

open RetryExchange

def RetryDecided (trace : List (RetryExchange ε α)) (outcome : RetryOutcome ε α) : Prop :=
  ∃ before last, trace = before ++ [last] ∧ (∀ x ∈ before, GoesOn x) ∧ Decides last outcome

theorem RetryDecided.single {x : RetryExchange ε α} {outcome : RetryOutcome ε α}
    (h : Decides x outcome) : RetryDecided [x] outcome :=
  ⟨[], x, rfl, by simp, h⟩

theorem RetryDecided.cons {x : RetryExchange ε α} {trace : List (RetryExchange ε α)}
    {outcome : RetryOutcome ε α} (hx : GoesOn x) (h : RetryDecided trace outcome) :
    RetryDecided (x :: trace) outcome := by
  obtain ⟨before, last, rfl, on, decides⟩ := h
  exact ⟨x :: before, last, rfl, by simpa using ⟨hx, on⟩, decides⟩

/-- One attempt decides, or it fails and what follows does. -/
theorem attemptOnce_decided {made : Nat}
    {next : ε → Program RetryRequest (RetryRequest.Answer ε α) (RetryOutcome ε α)}
    {trace : List (RetryExchange ε α)} {outcome : RetryOutcome ε α}
    (run : (attemptOnce made next).Runs trace outcome)
    (failed : ∀ e rest, (next e).Runs rest outcome →
      RetryDecided (⟨.attempt, .finished (.error e)⟩ :: rest) outcome) :
    RetryDecided trace outcome := by
  unfold attemptOnce at run
  rw [Program.runs_ask_iff] at run
  obtain ⟨stopping, rest, rfl, run⟩ := run
  cases stopping with
  | true =>
    obtain ⟨rfl, rfl⟩ := Program.runs_done_iff.mp run
    exact .single (.stopping made)
  | false =>
    obtain ⟨answer, rest, rfl, later⟩ := Program.runs_ask_iff.mp run
    refine .cons .running ?_
    match answer, later with
    | .stopped, later =>
      obtain ⟨rfl, rfl⟩ := Program.runs_done_iff.mp later
      exact .single (.abandoned (made + 1))
    | .finished (.ok value), later =>
      obtain ⟨rfl, rfl⟩ := Program.runs_done_iff.mp later
      exact .single (.success value)
    | .finished (.error e), later => exact failed e rest later

theorem retryFrom_decided {text : ε → String} {p : RetryPolicy} {made left : Nat}
    {trace : List (RetryExchange ε α)} {outcome : RetryOutcome ε α}
    (run : (retryFrom text p made left).Runs trace outcome) : RetryDecided trace outcome := by
  -- One attempt is followed by a pause and the same with one attempt less.
  induction left generalizing made trace with
  | zero =>
    refine attemptOnce_decided run fun e rest last => ?_
    obtain ⟨rfl, rfl⟩ := Program.runs_done_iff.mp last
    exact .single (.failed e (made + 1))
  | succ left ih =>
    refine attemptOnce_decided run fun e rest warned => ?_
    rw [Program.runs_ask_iff] at warned
    obtain ⟨_, rest, rfl, counted⟩ := warned
    rw [Program.runs_ask_iff] at counted
    obtain ⟨_, rest, rfl, paused⟩ := counted
    rw [Program.runs_ask_iff] at paused
    obtain ⟨answer, rest, rfl, later⟩ := paused
    refine .cons (.failed e) (.cons (.noted _) (.cons (.noted _) ?_))
    match answer, later with
    | .stopped, later =>
      obtain ⟨rfl, rfl⟩ := Program.runs_done_iff.mp later
      exact .single (.interrupted p.delay (made + 1))
    | .finished (), later => exact .cons (.paused p.delay) (ih later)

/-- A retried operation goes on until its last exchange, which decides. -/
theorem retry_decided {text : ε → String} {p : RetryPolicy} {trace : List (RetryExchange ε α)}
    {outcome : RetryOutcome ε α} (run : (retry text p).Runs trace outcome) :
    RetryDecided trace outcome :=
  retryFrom_decided run

namespace Pipeline

variable {exchange : Race (Except StorageError α) → JobExchange}

/-- The exchange of a job that stands for one of a retried storage call. -/
def storageExchange (exchange : Race (Except StorageError α) → JobExchange) :
    RetryExchange StorageError α → JobExchange
  | ⟨.isStopping, answer⟩ => ⟨.isStopping, answer⟩
  | ⟨.attempt, answer⟩ => exchange answer
  | ⟨.pause delay, answer⟩ => ⟨.pause delay, answer⟩
  | ⟨.note n, answer⟩ => ⟨.note n, answer⟩

/-- How a storage call goes that makes `exchange` of each attempt: attempts fail until one
succeeds, fails for good or gives way to shutdown. -/
inductive Tries (exchange : Race (Except StorageError α) → JobExchange) :
    JobTrace → Except JobError α → Prop where
  | success {before : List (RetryExchange StorageError α)} {value : α} :
      (∀ x ∈ before, GoesOn x) →
        Tries exchange (before.map (storageExchange exchange) ++
          [exchange (.finished (.ok value))]) (.ok value)
  | failed {before : List (RetryExchange StorageError α)} {e : StorageError} {n : Note} :
      (∀ x ∈ before, GoesOn x) →
        Tries exchange (before.map (storageExchange exchange) ++
          [exchange (.finished (.error e)), ⟨.note n, ()⟩]) (.error (.storage e))
  | stopped {before : List (RetryExchange StorageError α)} {last : RetryExchange StorageError α}
      {attempts : Nat} :
      (∀ x ∈ before, GoesOn x) → Decides last (.cancelled attempts) →
        Tries exchange (before.map (storageExchange exchange) ++
          [storageExchange exchange last]) (.error .cancelled)

/-- A storage call makes its attempts, and between them it only waits. -/
theorem Tries.attempt_or_waits {trace : JobTrace} {result : Except JobError α}
    (tried : Tries exchange trace result) {x : JobExchange} (mem : x ∈ trace) :
    (∃ answer, x = exchange answer) ∨ x.request.isWaiting = true := by
  have single (y : RetryExchange StorageError α) :
      (∃ answer, storageExchange exchange y = exchange answer) ∨
        (storageExchange exchange y).request.isWaiting = true := by
    obtain ⟨r, answer⟩ := y
    cases r with
    | attempt => exact .inl ⟨answer, rfl⟩
    | isStopping | pause | note => exact .inr rfl
  cases tried with
  | success =>
    simp only [List.mem_append, List.mem_map, List.mem_singleton] at mem
    rcases mem with ⟨y, _, rfl⟩ | rfl
    · exact single y
    · exact .inl ⟨_, rfl⟩
  | failed =>
    simp only [List.mem_append, List.mem_map, List.mem_cons, List.not_mem_nil, or_false] at mem
    rcases mem with ⟨y, _, rfl⟩ | rfl | rfl
    · exact single y
    · exact .inl ⟨_, rfl⟩
    · exact .inr rfl
  | @stopped _ last =>
    simp only [List.mem_append, List.mem_map, List.mem_singleton] at mem
    rcases mem with ⟨y, _, rfl⟩ | rfl
    · exact single y
    · exact single last

theorem Tries.forall_mem {P : JobExchange → Prop}
    (waits : ∀ x : JobExchange, x.request.isWaiting = true → P x)
    (attempts : ∀ answer, P (exchange answer)) {calls : JobTrace}
    {result : Except JobError α} (tried : Tries exchange calls result) : ∀ x ∈ calls, P x := by
  intro x mem
  rcases tried.attempt_or_waits mem with ⟨answer, rfl⟩ | waiting
  · exact attempts answer
  · exact waits x waiting

theorem request_runs_iff {r : JobRequest} {trace : JobTrace} {a : r.Answer} :
    Program.Runs (.ask r .done) trace a ↔ trace = [⟨r, a⟩] := by
  rw [Program.runs_ask_iff]
  constructor
  · rintro ⟨answer, rest, rfl, run⟩
    obtain ⟨rfl, rfl⟩ := Program.runs_done_iff.mp run
    rfl
  · rintro rfl
    exact ⟨a, [], rfl, .done a⟩

theorem note_runs_iff {n : Note} {trace : JobTrace} {u : Unit} :
    (note n).Runs trace u ↔ trace = [⟨.note n, ()⟩] :=
  request_runs_iff

theorem storageCall_runs_iff {attempt : JobProgram (Race (Except StorageError α))}
    (one : ∀ trace a, attempt.Runs trace a ↔ trace = [exchange a]) (r : RetryRequest)
    (trace : JobTrace) (a : r.Answer StorageError α) :
    (storageCall attempt r).Runs trace a ↔ trace = [storageExchange exchange ⟨r, a⟩] := by
  cases r with
  | attempt => exact one trace a
  | isStopping | pause delay | note n => exact request_runs_iff

/-- The course of a storage call whose attempts ask one question each. -/
theorem withRetry_tries {p : Pipeline} {operation what : String}
    {attempt : JobProgram (Race (Except StorageError α))}
    (one : ∀ trace a, attempt.Runs trace a ↔ trace = [exchange a]) {trace : JobTrace}
    {result : Except JobError α} (run : (p.withRetry operation what attempt).Runs trace result) :
    Tries exchange trace result := by
  unfold withRetry at run
  rw [Program.bind_eq, Program.runs_bind_iff] at run
  obtain ⟨_, outcome, rest, rfl, translated, run⟩ := run
  obtain ⟨inner, retried, rfl⟩ :=
    (Program.runs_translate_iff (storageCall_runs_iff one)).mp translated
  obtain ⟨before, last, rfl, on, decides⟩ := retry_decided retried
  cases decides with
  | success value =>
    obtain ⟨rfl, rfl⟩ := Program.runs_done_iff.mp run
    simpa [storageExchange] using Tries.success on
  | failed e attempts =>
    obtain ⟨_, _, rest, rfl, noted, last⟩ := Program.runs_bind_iff.mp run
    obtain rfl := note_runs_iff.mp noted
    obtain ⟨rfl, rfl⟩ := Program.runs_done_iff.mp last
    simpa [storageExchange] using Tries.failed on
  | stopping attempts =>
    obtain ⟨rfl, rfl⟩ := Program.runs_done_iff.mp run
    simpa using Tries.stopped on (.stopping attempts)
  | abandoned attempts =>
    obtain ⟨rfl, rfl⟩ := Program.runs_done_iff.mp run
    simpa using Tries.stopped on (.abandoned attempts)
  | interrupted delay attempts =>
    obtain ⟨rfl, rfl⟩ := Program.runs_done_iff.mp run
    simpa using Tries.stopped on (.interrupted delay attempts)

end Pipeline

end ImageWorker
