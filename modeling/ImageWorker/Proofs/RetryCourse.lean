import ImageWorker.Proofs.StorageCall

/-!
# The course of a retried operation

A script says what each call of an operation comes to and when shutdown fires, if it does. A clock
runs while the operation is retried, and every call is recorded with the time from its beginning to
its end. As long as the operation is retried, all its calls have failed, a pause came after each of
them, and each was counted; what comes of it follows when that stops.
-/

namespace ImageWorker

variable {ε α : Type}

/-- What the calls of an operation come to, one after another, and when shutdown fires. -/
structure RetryScript (ε α : Type) where
  result : Nat → Except ε α
  /-- In nanoseconds; shutdown need not fire at all. -/
  stopAt : Option Nat

/-- A call of the operation. One that gives way to shutdown ends there. -/
structure RetryCall (ε α : Type) where
  began : Nat
  ended : Nat
  answer : Race (Except ε α)

def RetryCall.failed (c : RetryCall ε α) : Bool :=
  match c.answer with
  | .finished (.error _) => true
  | .finished (.ok _) | .stopped => false

structure RetryHistory (ε α : Type) where
  now : Nat
  calls : List (RetryCall ε α)

/-- An exchange in which shutdown takes effect. -/
inductive RetryExchange.Stops : RetryExchange ε α → Prop where
  | stopping : Stops ⟨.isStopping, true⟩
  | abandoned : Stops ⟨.attempt, .stopped⟩
  | interrupted (delay : Duration) : Stops ⟨.pause delay, .stopped⟩

open RetryExchange

def RetryRequest.metric? : RetryRequest → Option Metric
  | note (.count m) => some m
  | isStopping | attempt | pause _ | note (.log _) => none

abbrev RetryTrace (ε α : Type) := List (RetryExchange ε α)

namespace RetryTrace

/-- Shutdown takes effect somewhere in a trace. -/
def Stopped (trace : RetryTrace ε α) : Prop := ∃ x ∈ trace, Stops x

def metrics (trace : RetryTrace ε α) : List Metric := trace.filterMap (·.request.metric?)

theorem metrics_append (first second : RetryTrace ε α) :
    metrics (first ++ second) = metrics first ++ metrics second :=
  List.filterMap_append

end RetryTrace

def retrySeries (operation : String) : Series :=
  ⟨"imgflow_storage_retries_total", [("operation", operation)]⟩

namespace RetryScript

variable (w : RetryScript ε α)

def fired (now : Nat) : Bool := w.stopAt.any (· ≤ now)

/-- The `i`-th call fails, counted from zero. -/
def Fails (i : Nat) : Prop := ∃ e, w.result i = .error e

/-- Time passes as it will, only a whole pause takes its time. Once shutdown has fired, it may come
before the end of a call or a pause. -/
inductive Allows : RetryHistory ε α → (r : RetryRequest) → r.Answer ε α → RetryHistory ε α → Prop
  | isStopping {now now' : Nat} {calls : List (RetryCall ε α)} :
      now ≤ now' → Allows ⟨now, calls⟩ .isStopping (w.fired now') ⟨now', calls⟩
  | finished {now began ended : Nat} {calls : List (RetryCall ε α)} :
      now ≤ began → began ≤ ended →
        Allows ⟨now, calls⟩ .attempt (.finished (w.result calls.length))
          ⟨ended, calls ++ [⟨began, ended, .finished (w.result calls.length)⟩]⟩
  | abandoned {now began ended : Nat} {calls : List (RetryCall ε α)} :
      now ≤ began → began ≤ ended → w.fired ended = true →
        Allows ⟨now, calls⟩ .attempt .stopped ⟨ended, calls ++ [⟨began, ended, .stopped⟩]⟩
  | rested {now now' : Nat} {delay : Duration} {calls : List (RetryCall ε α)} :
      now + delay.nanos ≤ now' →
        Allows ⟨now, calls⟩ (.pause delay) (.finished ()) ⟨now', calls⟩
  | interrupted {now now' : Nat} {delay : Duration} {calls : List (RetryCall ε α)} :
      now ≤ now' → w.fired now' = true →
        Allows ⟨now, calls⟩ (.pause delay) .stopped ⟨now', calls⟩
  | noted {now now' : Nat} {n : Note} {calls : List (RetryCall ε α)} :
      now ≤ now' → Allows ⟨now, calls⟩ (.note n) () ⟨now', calls⟩

/-- The script as what surrounds a retried operation. -/
def surroundings : Surroundings RetryRequest (RetryRequest.Answer ε α) (RetryHistory ε α) where
  Allows := w.Allows
  Drifts _ _ := False

variable {w}

theorem fired_mono {now now' : Nat} (later : now ≤ now') (fired : w.fired now = true) :
    w.fired now' = true := by
  unfold RetryScript.fired at *
  cases h : w.stopAt with
  | none => simp [h] at fired
  | some t =>
    simp only [h, Option.any_some, decide_eq_true_eq] at fired ⊢
    omega

/-- Every question has an answer at any time. -/
theorem possible (s : RetryHistory ε α) (r : RetryRequest) :
    ∃ answer s', w.surroundings.Allows s r answer s' := by
  obtain ⟨now, calls⟩ := s
  cases r with
  | isStopping => exact ⟨_, _, Allows.isStopping (Nat.le_refl _)⟩
  | attempt => exact ⟨_, _, Allows.finished (Nat.le_refl _) (Nat.le_refl _)⟩
  | pause delay => exact ⟨_, _, Allows.rested (Nat.le_refl _)⟩
  | note n => exact ⟨_, _, Allows.noted (Nat.le_refl _)⟩

/-- The exchanges of an attempt that fails and is not the last one, up to the pause after it. -/
def failedAttempt (p : RetryPolicy) (made : Nat) (e : ε) (why : String) : RetryTrace ε α :=
  [⟨.isStopping, false⟩, ⟨.attempt, .finished (.error e)⟩,
    ⟨.note (.log (p.warning (made + 1) why)), ()⟩, ⟨.note (.count (.storageRetry p.operation)), ()⟩]

variable {p : RetryPolicy} {now : Nat} {calls : List (RetryCall ε α)}

variable (w p) in
/-- Calls that never overlap: each follows those before it after a whole pause, at the end of which
shutdown had not fired. -/
structure Spaced (calls : List (RetryCall ε α)) : Prop where
  timed : ∀ c ∈ calls, c.began ≤ c.ended
  paused : calls.Pairwise fun c c' =>
    c.ended + p.delay.nanos ≤ c'.began ∧ w.fired (c.ended + p.delay.nanos) = false

variable (p) in
/-- A whole pause lies behind every call. -/
def Rested (now : Nat) (calls : List (RetryCall ε α)) : Prop :=
  ∀ c ∈ calls, c.ended + p.delay.nanos ≤ now

variable (w p) in
/-- How things are while the operation is retried: the calls so far have failed, as the script has
it, and each of them was counted. -/
structure Underway (past : RetryTrace ε α) (calls : List (RetryCall ε α)) : Prop where
  failed : ∀ (i : Nat) (c : RetryCall ε α), calls[i]? = some c →
    ∃ e, w.result i = .error e ∧ c.answer = .finished (.error e)
  spaced : w.Spaced p calls
  counted : RetryTrace.metrics past = List.replicate calls.length (.storageRetry p.operation)

variable (w p) in
/-- What can be said of the calls and the retries counted, whatever came of the operation. -/
structure Accounted (trace : RetryTrace ε α) (calls : List (RetryCall ε α)) : Prop where
  limited : calls.length ≤ p.limit
  answered : ∀ (i : Nat) (c : RetryCall ε α), calls[i]? = some c →
    c.answer = .finished (w.result i) ∨ c.answer = .stopped
  spaced : w.Spaced p calls
  counted : RetryTrace.metrics trace =
    List.replicate ((calls.take (p.limit - 1)).countP RetryCall.failed) (.storageRetry p.operation)

variable (w p) in
inductive Settled (s : RetryHistory ε α) : RetryOutcome ε α → Prop
  | success {i : Nat} {value : α} :
      i < p.limit → (∀ j < i, w.Fails j) → w.result i = .ok value → s.calls.length = i + 1 →
        Settled s (.success value)
  | failed {e : ε} {attempts : Nat} :
      attempts = p.limit → (∀ i < attempts, w.Fails i) → w.result (attempts - 1) = .error e →
        s.calls.length = attempts → Settled s (.failed e attempts)
  | cancelled {attempts : Nat} :
      w.fired s.now = true → attempts = s.calls.length → Settled s (.cancelled attempts)

theorem spaced_concat {began ended now' : Nat} (spaced : w.Spaced p calls)
    (rested : Rested p now calls) (checked : now ≤ now') (running : w.fired now' = false)
    (later : now' ≤ began) (timed : began ≤ ended) (answer : Race (Except ε α)) :
    w.Spaced p (calls ++ [⟨began, ended, answer⟩]) where
  timed c mem := by
    rcases List.mem_append.mp mem with before | here
    · exact spaced.timed c before
    · rw [List.mem_singleton.mp here]
      exact timed
  paused := by
    refine List.pairwise_append.mpr ⟨spaced.paused, List.pairwise_singleton _ _, ?_⟩
    intro c before c' here
    rw [List.mem_singleton.mp here]
    have behind := rested c before
    refine ⟨by show _ ≤ began; omega, Bool.eq_false_iff.mpr fun fired => ?_⟩
    rw [fired_mono (Nat.le_trans behind checked) fired] at running
    cases running

/-- A whole pause after the last call is one after every call. -/
theorem Spaced.rested {c : RetryCall ε α} (spaced : w.Spaced p (calls ++ [c]))
    (whole : c.ended + p.delay.nanos ≤ now) : Rested p now (calls ++ [c]) := by
  intro c' mem
  rcases List.mem_append.mp mem with before | here
  · have first := ((List.pairwise_append.mp spaced.paused).2.2 c' before c (.head _)).1
    have timed := spaced.timed c (List.mem_append_right _ (.head _))
    omega
  · rw [List.mem_singleton.mp here]
    exact whole

theorem forall_getElem?_concat {β : Type} {P : Nat → β → Prop} {l : List β} {b : β}
    (before : ∀ i c, l[i]? = some c → P i c) (last : P l.length b) :
    ∀ i c, (l ++ [b])[i]? = some c → P i c := by
  intro i c h
  rw [List.getElem?_append] at h
  split at h
  next => exact before i c h
  next beyond =>
    obtain ⟨at_end, rfl⟩ : i - l.length = 0 ∧ b = c := by
      simpa [List.getElem?_singleton] using h
    obtain rfl : i = l.length := by omega
    exact last

namespace Underway

variable {past : RetryTrace ε α}

theorem start : w.Underway p [] [] where
  failed := by simp
  spaced := ⟨by simp, .nil⟩
  counted := rfl

theorem fails (under : w.Underway p past calls) : ∀ i < calls.length, w.Fails i := by
  intro i lt
  obtain ⟨e, failed, _⟩ := under.failed i calls[i] (List.getElem?_eq_getElem lt)
  exact ⟨e, failed⟩

theorem countP_failed (under : w.Underway p past calls) :
    calls.countP RetryCall.failed = calls.length := by
  refine List.countP_eq_length.mpr fun c mem => ?_
  obtain ⟨i, at_i⟩ := List.getElem?_of_mem mem
  obtain ⟨e, _, answered⟩ := under.failed i c at_i
  simp [RetryCall.failed, answered]

theorem uncounted (under : w.Underway p past calls) {last : RetryTrace ε α}
    (nothing : RetryTrace.metrics last = []) : w.Underway p (past ++ last) calls where
  failed := under.failed
  spaced := under.spaced
  counted := by rw [RetryTrace.metrics_append, nothing, List.append_nil, under.counted]

theorem accounted (under : w.Underway p past calls) (room : calls.length < p.limit) :
    w.Accounted p past calls where
  limited := Nat.le_of_lt room
  answered i c at_i := by
    obtain ⟨e, failed, answered⟩ := under.failed i c at_i
    exact .inl (by rw [answered, failed])
  spaced := under.spaced
  counted := by rw [List.take_of_length_le (by omega), under.countP_failed, under.counted]

/-- A call is not counted that does not fail, or fails as the last one there can be. -/
theorem accounted_concat (under : w.Underway p past calls) (room : calls.length < p.limit)
    {c : RetryCall ε α}
    (answered : c.answer = .finished (w.result calls.length) ∨ c.answer = .stopped)
    (spaced : w.Spaced p (calls ++ [c])) (final : c.failed = true → calls.length + 1 = p.limit) :
    w.Accounted p past (calls ++ [c]) where
  limited := by
    rw [List.length_append, List.length_singleton]
    exact room
  answered := forall_getElem?_concat (under.accounted room).answered answered
  spaced := spaced
  counted := by
    rw [(under.accounted room).counted, List.take_append, List.countP_append]
    congr 1
    cases failed : c.failed with
    | true =>
      have none_left : p.limit - 1 - calls.length = 0 := by
        have := final failed
        omega
      simp [none_left]
    | false =>
      refine (Nat.add_eq_left.mpr (List.countP_eq_zero.mpr fun c' mem => ?_)).symm
      obtain rfl := List.mem_singleton.mp (List.mem_of_mem_take mem)
      simp [failed]

/-- A call that fails is counted, and the operation goes on. -/
theorem again (under : w.Underway p past calls) {began ended : Nat} {e : ε} (why : String)
    (failed : w.result calls.length = .error e)
    (spaced : w.Spaced p (calls ++ [⟨began, ended, .finished (.error e)⟩])) :
    w.Underway p (past ++ failedAttempt p calls.length e why)
      (calls ++ [⟨began, ended, .finished (.error e)⟩]) where
  failed := forall_getElem?_concat under.failed ⟨e, failed, rfl⟩
  spaced := spaced
  counted := by
    have once : RetryTrace.metrics (failedAttempt (α := α) p calls.length e why) =
        [.storageRetry p.operation] := rfl
    rw [RetryTrace.metrics_append, under.counted, once, List.length_append,
      List.length_singleton, List.replicate_succ']

end Underway

variable {trace : RetryTrace ε α} {s' : RetryHistory ε α} {outcome : RetryOutcome ε α}

/-- One attempt settles the matter, or its call fails and what follows does. -/
theorem attemptOnce_settled {past : RetryTrace ε α} (under : w.Underway p past calls)
    (rested : Rested p now calls) (room : calls.length < p.limit)
    {next : ε → Program RetryRequest (RetryRequest.Answer ε α) (RetryOutcome ε α)}
    (run : w.surroundings.Runs ⟨now, calls⟩ (attemptOnce calls.length next) trace s' outcome)
    (failed : ∀ e began ended rest, w.result calls.length = .error e →
      w.Spaced p (calls ++ [⟨began, ended, .finished (.error e)⟩]) →
      w.surroundings.Runs ⟨ended, calls ++ [⟨began, ended, .finished (.error e)⟩]⟩ (next e) rest s'
        outcome →
      w.Accounted p (past ++ (⟨.isStopping, false⟩ :: ⟨.attempt, .finished (.error e)⟩ :: rest))
        s'.calls ∧ w.Settled p s' outcome) :
    w.Accounted p (past ++ trace) s'.calls ∧ w.Settled p s' outcome := by
  unfold attemptOnce at run
  cases run with
  | ask allowed run =>
  cases allowed with
  | @isStopping _ now' _ checked =>
  cases fired : w.fired now' with
  | true =>
    rw [fired] at run
    cases run
    exact ⟨(under.uncounted rfl).accounted room, .cancelled fired rfl⟩
  | false =>
    rw [fired] at run
    cases run with
    | ask allowed run =>
    cases allowed with
    | @abandoned _ began ended _ later timed stopped =>
      cases run
      have spaced := spaced_concat under.spaced rested checked fired later timed .stopped
      exact ⟨(under.uncounted rfl).accounted_concat room (.inr rfl) spaced nofun,
        .cancelled stopped (by simp)⟩
    | @finished _ began ended _ later timed =>
      have spaced := spaced_concat under.spaced rested checked fired later timed
        (.finished (w.result calls.length))
      cases result : w.result calls.length with
      | ok value =>
        rw [result] at spaced run
        cases run
        refine ⟨(under.uncounted rfl).accounted_concat room (.inl ?_) spaced nofun, ?_⟩
        · exact congrArg _ result.symm
        · exact .success room under.fails result (by simp)
      | error e =>
        rw [result] at spaced run
        exact failed e began ended _ result spaced run

theorem retryFrom_settled {text : ε → String} {past : RetryTrace ε α} {left : Nat}
    (under : w.Underway p past calls) (rested : Rested p now calls)
    (limit : calls.length + left + 1 = p.limit)
    (run : w.surroundings.Runs ⟨now, calls⟩ (retryFrom text p calls.length left) trace s' outcome) :
    w.Accounted p (past ++ trace) s'.calls ∧ w.Settled p s' outcome := by
  -- One attempt is followed by a pause and the same with one attempt less.
  induction left generalizing now calls past trace with
  | zero =>
    refine attemptOnce_settled under rested (by omega) run
      fun e began ended rest result spaced last => ?_
    cases last
    have answered : Race.finished (.error e) = .finished (w.result calls.length) :=
      congrArg _ result.symm
    refine ⟨(under.uncounted rfl).accounted_concat (by omega) (.inl answered) spaced
      fun _ => limit, ?_⟩
    have failed : ∀ i < calls.length + 1, w.Fails i := fun i lt =>
      (Nat.lt_succ_iff_lt_or_eq.mp lt).elim (under.fails i) fun here => here ▸ ⟨e, result⟩
    exact .failed limit failed result (by simp)
  | succ left ih =>
    refine attemptOnce_settled under rested (by omega) run
      fun e began ended rest result spaced warned => ?_
    cases warned with
    | ask allowed counted =>
    cases allowed with
    | @noted _ warned _ _ later =>
    cases counted with
    | ask allowed paused =>
    cases allowed with
    | @noted _ counted _ _ later' =>
    cases paused with
    | @ask _ _ _ _ answer _ rest _ allowed run =>
    have under := under.again (text e) result spaced
    have made (c : RetryCall ε α) : (calls ++ [c]).length = calls.length + 1 := by
      rw [List.length_append, List.length_singleton]
    show w.Accounted p (past ++ (failedAttempt p calls.length e (text e) ++
      (⟨.pause p.delay, answer⟩ :: rest))) s'.calls ∧ _
    rw [← List.append_assoc]
    cases allowed with
    | @interrupted _ now' _ _ _ stopped =>
      cases run
      exact ⟨(under.uncounted rfl).accounted (by rw [made]; omega),
        .cancelled stopped (made _).symm⟩
    | @rested _ now' _ _ whole =>
      have behind : ended + p.delay.nanos ≤ now' := by omega
      rw [List.append_cons]
      rw [← made] at run
      exact ih (under.uncounted rfl) (spaced.rested behind) (by rw [made]; omega) run

/-- Shutdown that has fired by the beginning takes effect before the first attempt. -/
theorem attemptOnce_stopped {made : Nat}
    {next : ε → Program RetryRequest (RetryRequest.Answer ε α) (RetryOutcome ε α)}
    (fired : w.fired now = true)
    (run : w.surroundings.Runs ⟨now, calls⟩ (attemptOnce made next) trace s' outcome) :
    outcome = .cancelled made := by
  unfold attemptOnce at run
  cases run with
  | ask allowed run =>
  cases allowed with
  | isStopping later =>
  rw [fired_mono later fired] at run
  cases run
  rfl

theorem retryFrom_stopped {text : ε → String} {made left : Nat} (fired : w.fired now = true)
    (run : w.surroundings.Runs ⟨now, calls⟩ (retryFrom text p made left) trace s' outcome) :
    outcome = .cancelled made := by
  cases left with
  | zero => exact attemptOnce_stopped fired run
  | succ left => exact attemptOnce_stopped fired run

/-- Shutdown has taken effect exactly if the operation is cancelled. -/
theorem stopped_iff_of_decided (decided : RetryDecided trace outcome) :
    RetryTrace.Stopped trace ↔ ∃ attempts, outcome = .cancelled attempts := by
  obtain ⟨before, last, rfl, on, decides⟩ := decided
  constructor
  · rintro ⟨x, mem, stops⟩
    rcases List.mem_append.mp mem with earlier | here
    · have goes := on x earlier
      cases stops <;> cases goes
    · obtain rfl := List.mem_singleton.mp here
      cases stops <;> cases decides <;> exact ⟨_, rfl⟩
  · rintro ⟨attempts, rfl⟩
    refine ⟨last, List.mem_append_right _ (.head _), ?_⟩
    cases decides
    · exact .stopping
    · exact .abandoned
    · exact .interrupted _

namespace Settled

variable {s : RetryHistory ε α}

/-- Without shutdown the first call that does not fail decides. -/
theorem success_iff (settled : w.Settled p s outcome)
    (unstopped : ∀ attempts, outcome ≠ .cancelled attempts) {value : α} :
    outcome = .success value ↔
      ∃ i < p.limit, (∀ j < i, w.Fails j) ∧ w.result i = .ok value := by
  constructor
  · rintro rfl
    cases settled with
    | @success i _ room before here _ => exact ⟨i, room, before, here⟩
  · rintro ⟨i, room, before, here⟩
    cases settled with
    | @success i' value' _ before' here' _ =>
      obtain lt | rfl | lt := Nat.lt_trichotomy i i'
      · obtain ⟨e, fails⟩ := before' i lt
        cases here.symm.trans fails
      · obtain rfl := Except.ok.inj (here.symm.trans here')
        rfl
      · obtain ⟨e, fails⟩ := before i' lt
        cases here'.symm.trans fails
    | failed limit fails _ _ =>
      obtain ⟨e, fails⟩ := fails i (limit ▸ room)
      cases here.symm.trans fails
    | cancelled _ _ => exact absurd rfl (unstopped _)

/-- Without shutdown only a whole row of failures is final. -/
theorem failed_iff (settled : w.Settled p s outcome)
    (unstopped : ∀ attempts, outcome ≠ .cancelled attempts) {e : ε} {attempts : Nat} :
    outcome = .failed e attempts ↔
      (∀ i < p.limit, w.Fails i) ∧ attempts = p.limit ∧ w.result (p.limit - 1) = .error e := by
  constructor
  · rintro rfl
    cases settled with
    | failed limit fails last _ => exact ⟨limit ▸ fails, limit, limit ▸ last⟩
  · rintro ⟨fails, rfl, last⟩
    cases settled with
    | @success i _ room _ here _ =>
      obtain ⟨e', fails⟩ := fails i room
      cases here.symm.trans fails
    | failed limit _ last' _ =>
      subst limit
      rw [Except.error.inj (last.symm.trans last')]
    | cancelled _ _ => exact absurd rfl (unstopped _)

end Settled

/-- Every retry counts once into the series of its operation. -/
theorem count_retries (operation : String) (earlier : List Metric) (n : Nat) :
    (Tally.ofMetrics (earlier ++ List.replicate n (.storageRetry operation))).count
        (retrySeries operation) =
      (Tally.ofMetrics earlier).count (retrySeries operation) + n := by
  have once : Metric.series (.storageRetry operation) = [retrySeries operation] := rfl
  rw [Tally.count_ofMetrics, Tally.count_ofMetrics, List.flatMap_append, List.count_append,
    List.flatMap_replicate, once, List.flatten_replicate_singleton, List.count_replicate_self]

variable (w p) in
/-- The whole course of a retried operation, from its beginning to its outcome. -/
structure Retried (start : Nat) (trace : RetryTrace ε α) (s : RetryHistory ε α)
    (outcome : RetryOutcome ε α) : Prop where
  limited : s.calls.length ≤ p.limit
  spaced : w.Spaced p s.calls
  answered : ∀ (i : Nat) (c : RetryCall ε α), s.calls[i]? = some c →
    c.answer = .finished (w.result i) ∨ c.answer = .stopped
  success : ∀ value, outcome = .success value ↔
    ¬ RetryTrace.Stopped trace ∧ ∃ i < p.limit, (∀ j < i, w.Fails j) ∧ w.result i = .ok value
  failed : ∀ e attempts, outcome = .failed e attempts ↔
    ¬ RetryTrace.Stopped trace ∧ (∀ i < p.limit, w.Fails i) ∧ attempts = p.limit ∧
      w.result (p.limit - 1) = .error e
  cancelled : ∀ attempts, outcome = .cancelled attempts ↔
    RetryTrace.Stopped trace ∧ attempts = s.calls.length
  /-- No call is made beyond the one that decides. -/
  decided : (∀ value, outcome = .success value →
      ∃ i, s.calls.length = i + 1 ∧ w.result i = .ok value) ∧
    ∀ e attempts, outcome = .failed e attempts → s.calls.length = attempts
  /-- Shutdown takes effect only after it has fired. -/
  fired : RetryTrace.Stopped trace → w.fired s.now = true
  onEntry : w.fired start = true → outcome = .cancelled 0
  /-- Every failure but that of the last call there can be is counted as a retry. -/
  counted : ∀ earlier : List Metric,
    (Tally.ofMetrics (earlier ++ RetryTrace.metrics trace)).count (retrySeries p.operation) =
      (Tally.ofMetrics earlier).count (retrySeries p.operation) +
        (s.calls.take (p.limit - 1)).countP RetryCall.failed

theorem Accounted.retried {start : Nat} {s : RetryHistory ε α}
    (accounted : w.Accounted p trace s.calls) (settled : w.Settled p s outcome)
    (stopped : RetryTrace.Stopped trace ↔ ∃ attempts, outcome = .cancelled attempts)
    (onEntry : w.fired start = true → outcome = .cancelled 0) :
    w.Retried p start trace s outcome := by
  have unstopped : ¬ RetryTrace.Stopped trace ↔ ∀ attempts, outcome ≠ .cancelled attempts :=
    (not_congr stopped).trans not_exists
  exact {
    limited := accounted.limited
    spaced := accounted.spaced
    answered := accounted.answered
    success := fun value => by
      rw [unstopped]
      constructor
      · intro success
        have unstopped : ∀ attempts, outcome ≠ .cancelled attempts := by simp [success]
        exact ⟨unstopped, (settled.success_iff unstopped).mp success⟩
      · exact fun ⟨unstopped, first⟩ => (settled.success_iff unstopped).mpr first
    failed := fun e attempts => by
      rw [unstopped]
      constructor
      · intro failed
        have unstopped : ∀ attempts, outcome ≠ .cancelled attempts := by simp [failed]
        exact ⟨unstopped, (settled.failed_iff unstopped).mp failed⟩
      · exact fun ⟨unstopped, all⟩ => (settled.failed_iff unstopped).mpr all
    cancelled := fun attempts => by
      rw [stopped]
      constructor
      · rintro rfl
        cases settled with
        | cancelled _ made => exact ⟨⟨_, rfl⟩, made⟩
      · rintro ⟨⟨attempts', rfl⟩, rfl⟩
        cases settled with
        | cancelled _ made => rw [made]
    decided := by
      constructor
      · rintro value rfl
        cases settled with
        | @success i _ _ _ here made => exact ⟨i, made, here⟩
      · rintro e attempts rfl
        cases settled with
        | failed _ _ _ made => exact made
    fired := fun h => by
      obtain ⟨attempts, rfl⟩ := stopped.mp h
      cases settled with
      | cancelled fired _ => exact fired
    onEntry
    counted := fun earlier => by rw [accounted.counted, count_retries] }

/-- A retried operation comes to an end, and it is attempted as often and as slowly as its policy
says. -/
theorem retry_completes (w : RetryScript ε α) (text : ε → String) (p : RetryPolicy) (now : Nat) :
    w.surroundings.Completes (retry text p) ⟨now, []⟩ (w.Retried p now) := by
  refine Surroundings.completes_of_runs possible fun trace s outcome run => ?_
  have limit : 0 + (p.limit - 1) + 1 = p.limit := by
    have := Nat.le_max_right p.attempts 1
    unfold RetryPolicy.limit
    omega
  obtain ⟨accounted, settled⟩ := retryFrom_settled .start nofun limit run
  have decided := retry_decided (Surroundings.runs_iff.mp run).1
  exact accounted.retried settled (stopped_iff_of_decided decided) fun fired =>
    retryFrom_stopped fired run

end RetryScript

end ImageWorker
