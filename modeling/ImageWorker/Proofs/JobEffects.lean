import ImageWorker.Proofs.JobProgress

/-!
# What others see of a job

Up to its last announcement a job shows its first announcement and then storage calls alone. A
whole job either shows nothing more than that and a cleanup of local files, or exactly one last
announcement and exactly one cleanup, and its outcome tells which.
-/

namespace ImageWorker

namespace Pipeline

open JobTrace

variable {p : Pipeline} {job : Job} {trace : JobTrace} {outcome : Outcome}

/-- The effects of a job that is announced and not yet reported: storage calls follow its
announcement. -/
def UnderWay (job : Job) (shown : JobTrace) : Prop :=
  ∃ published calls, fatal? published = none ∧ (∀ x ∈ calls, x.request.isStorageCall = true) ∧
    shown = ⟨.announceUnlessStopped (.processing job), .finished published⟩ :: calls

/-- Of a storage call others only see its attempts. -/
theorem Tries.isStorageCall {α : Type} {exchange : Race (Except StorageError α) → JobExchange}
    (storage : ∀ answer, (exchange answer).request.isStorageCall = true)
    {result : Except JobError α} (tried : Tries exchange trace result) :
    ∀ x ∈ effects trace, x.request.isStorageCall = true := by
  intro x hx
  obtain ⟨mem, effect⟩ := List.mem_filter.mp hx
  rcases tried.attempt_or_waits mem with ⟨answer, rfl⟩ | waiting
  · exact storage answer
  · simp [JobRequest.isEffect_of_isWaiting waiting] at effect

theorem UnderWay.append {shown calls : JobTrace} (h : UnderWay job shown)
    (storage : ∀ x ∈ calls, x.request.isStorageCall = true) : UnderWay job (shown ++ calls) := by
  obtain ⟨published, calls', passing, storage', rfl⟩ := h
  exact ⟨published, calls' ++ calls, passing, List.forall_mem_append.mpr ⟨storage', storage⟩, rfl⟩

/-- Exchanges that others do not see leave a job under way. -/
theorem UnderWay.hidden {rest : JobTrace} (h : UnderWay job (effects trace))
    (hidden : effects rest = []) : UnderWay job (effects (trace ++ rest)) := by
  simpa [hidden] using h

theorem UnderWay.calls {rest : JobTrace} {α : Type}
    {exchange : Race (Except StorageError α) → JobExchange} {result : Except JobError α}
    (h : UnderWay job (effects trace))
    (storage : ∀ answer, (exchange answer).request.isStorageCall = true)
    (tried : Tries exchange rest result) : UnderWay job (effects (trace ++ rest)) := by
  rw [effects_append]
  exact h.append (tried.isStorageCall storage)

/-- Of an announcement among reports others only see the announcement. -/
theorem effects_announcement (job : Job) {before after : JobTrace} (quiet : Quiet before)
    (quietAfter : Quiet after) (answer : Race (Except QueueError Unit)) :
    effects (before ++ ⟨.announceUnlessStopped (.processing job), answer⟩ :: after) =
      [⟨.announceUnlessStopped (.processing job), answer⟩] := by
  simp [effects_cons, quiet.effects, quietAfter.effects]

/-- A job is under way at each of its milestones. -/
theorem Passes.underWay {m : Milestone} (passed : Passes p job trace m) :
    UnderWay job (effects trace) := by
  induction passed with
  | @announced before after published quiet quietAfter passing =>
    exact ⟨published, [], passing, by simp, effects_announcement job quiet quietAfter _⟩
  | downloaded _ tried ih => exact ih.calls (fun _ => rfl) tried
  | uploaded _ tried ih => exact ih.calls (fun _ => rfl) tried
  | staged _ _ ih | transformed _ _ ih | resultStaged _ _ _ ih => exact ih.hidden rfl

/-- A job is under way when a stage of it fails. -/
theorem Fails.underWay {stage : Stage} {rawPath resultPath : Option Path} {e : JobError}
    (failed : Fails p job trace stage rawPath resultPath e) : UnderWay job (effects trace) := by
  cases failed with
  | download passed tried => exact passed.underWay.calls (fun _ => rfl) tried
  | upload passed tried => exact passed.underWay.calls (fun _ => rfl) tried
  | rawKey passed | request passed | deriveKey passed | resultKey passed => exact passed.underWay
  | rawFile passed | transform passed | resultFile passed => exact passed.underWay.hidden rfl

theorem event?_eq_none_of_isStorageCall {r : JobRequest} (h : r.isStorageCall = true) :
    r.event? = none ∧ r.task? = none := by
  cases r with
  | download | upload => exact ⟨rfl, rfl⟩
  | _ => exact absurd h Bool.false_ne_true

theorem UnderWay.announcements_eq (h : UnderWay job (effects trace)) :
    announcements trace = [.processing job] := by
  obtain ⟨published, calls, _, storage, shown⟩ := h
  have silent : announcements calls = [] := List.filterMap_eq_nil_iff.mpr fun x hx =>
    (event?_eq_none_of_isStorageCall (storage x hx)).1
  rw [← announcements_effects, shown]
  exact congrArg (_ :: ·) silent

theorem UnderWay.tasks_eq (h : UnderWay job (effects trace)) : tasks trace = [] := by
  obtain ⟨published, calls, _, storage, shown⟩ := h
  have silent : tasks calls = [] := List.filterMap_eq_nil_iff.mpr fun x hx =>
    (event?_eq_none_of_isStorageCall (storage x hx)).2
  rw [← tasks_effects, shown]
  exact silent

/-- Up to where shutdown stops it a job shows no more than its announcement and storage calls. -/
theorem Stops.shown {files : Option (Path × Path)} (stopped : Stops p job trace files) :
    announcements trace = [.processing job] ∧ tasks trace = [] := by
  cases stopped with
  | announcing quiet =>
    rw [← announcements_effects, ← tasks_effects, effects_append, quiet.effects]
    exact ⟨rfl, rfl⟩
  | downloading passed tried =>
    have underWay := passed.underWay.calls (fun _ => rfl) tried
    exact ⟨underWay.announcements_eq, underWay.tasks_eq⟩
  | uploading passed tried =>
    have underWay := passed.underWay.calls (fun _ => rfl) tried
    exact ⟨underWay.announcements_eq, underWay.tasks_eq⟩

theorem announcements_scheduled (ts : List CleanupTask) :
    announcements (ts.map scheduled) = [] := by
  simp [announcements, scheduled, JobRequest.event?]

theorem tasks_scheduled (ts : List CleanupTask) : tasks (ts.map scheduled) = ts := by
  induction ts with
  | nil => rfl
  | cons t ts ih => exact congrArg (t :: ·) ih

/-- A job that is given up because it could not be announced. -/
def GivenUp (job : Job) (trace : JobTrace) (outcome : Outcome) : Prop :=
  ∃ e, e.errorClass = .fatal ∧ outcome = .error (.publishFailed e) ∧
    effects trace = [⟨.announceUnlessStopped (.processing job), .finished (.error e)⟩]

/-- A job that shutdown stopped before it was reported. -/
structure Cancelled (job : Job) (trace : JobTrace) (outcome : Outcome) : Prop where
  outcome_eq : outcome = .error .cancelled
  announcements_eq : announcements trace = [.processing job]
  sourceRemovals_eq : sourceRemovals trace = []

/-- A job that is reported as finished or failed, with one cleanup. -/
structure Reported (trace : JobTrace) (outcome : Outcome) : Prop where
  verdicts_length : (verdicts trace).length = 1
  tasks_length : (tasks trace).length = 1
  outcome_eq : (∃ done, outcome = .ok done) ∨
    (∃ stage e, outcome = .error (.rejected stage false e)) ∨
    ∃ e, outcome = .error (.terminalPublishFailed e)

theorem fatal?_eq_some_iff {published : Except QueueError Unit} {e : QueueError} :
    fatal? published = some e ↔ published = .error e ∧ e.errorClass = .fatal := by
  cases published with
  | ok u => simp [fatal?]
  | error e' =>
    simp only [fatal?, ErrorClass.isFatal, beq_iff_eq, Option.ite_none_right_eq_some,
      Option.some.injEq, Except.error.injEq]
    constructor
    · rintro ⟨h, rfl⟩
      exact ⟨rfl, h⟩
    · rintro ⟨rfl, h⟩
      exact ⟨h, rfl⟩

theorem concluded_eq (published : Except QueueError Unit) (otherwise : Outcome) :
    concluded published otherwise = otherwise ∨
      ∃ e, concluded published otherwise = .error (.terminalPublishFailed e) := by
  cases h : fatal? published with
  | none => exact .inl (by simp [concluded, h])
  | some e => exact .inr ⟨e, by simp [concluded, h]⟩

theorem Closes.effects_eq {event : StatusEvent} {published : Except QueueError Unit}
    {task : CleanupTask} (closes : Closes event published task trace) :
    effects trace = [⟨.announce event, published⟩, scheduled task] := by
  obtain ⟨before, between, after, quietBefore, quietBetween, quietAfter, rfl⟩ := closes
  simp [effects_cons, scheduled, quietBefore.effects, quietBetween.effects, quietAfter.effects]

theorem Closes.announcements_eq {event : StatusEvent} {published : Except QueueError Unit}
    {task : CleanupTask} (closes : Closes event published task trace) :
    announcements trace = [event] := by
  rw [← announcements_effects, closes.effects_eq]
  rfl

theorem Closes.tasks_eq {event : StatusEvent} {published : Except QueueError Unit}
    {task : CleanupTask} (closes : Closes event published task trace) : tasks trace = [task] := by
  rw [← tasks_effects, closes.effects_eq]
  rfl

/-- A job that is closed with a verdict is reported. -/
theorem Closes.reported {event : StatusEvent} {published : Except QueueError Unit}
    {task : CleanupTask} {before : JobTrace} (closes : Closes event published task trace)
    (underWay : UnderWay job (effects before)) (terminal : event.status.isTerminal = true) :
    (verdicts (before ++ trace)).length = 1 ∧ (tasks (before ++ trace)).length = 1 := by
  have announced : announcements (before ++ trace) = [.processing job, event] := by
    rw [announcements_append, underWay.announcements_eq, closes.announcements_eq]
    rfl
  have cleaned : tasks (before ++ trace) = [task] := by
    rw [tasks_append, underWay.tasks_eq, closes.tasks_eq]
    rfl
  constructor
  · have unfinished : (StatusEvent.processing job).status.isTerminal = false := rfl
    simp [verdicts, announced, unfinished, terminal]
  · rw [cleaned, List.length_singleton]

/-- A job is given up, cancelled or reported. -/
theorem Ends.givenUp_or_cancelled_or_reported (ends : Ends p job trace outcome) :
    GivenUp job trace outcome ∨ Cancelled job trace outcome ∨ Reported trace outcome := by
  cases ends with
  | @unannounced before after published e quiet quietAfter fatal =>
    obtain ⟨rfl, class_eq⟩ := fatal?_eq_some_iff.mp fatal
    exact .inl ⟨e, class_eq, rfl, effects_announcement job quiet quietAfter _⟩
  | @stopped trace files stopped =>
    obtain ⟨announced, untouched⟩ := stopped.shown
    refine .inr (.inl ⟨rfl, ?_, ?_⟩)
    · rw [announcements_append, announced, announcements_scheduled]
      rfl
    · rw [sourceRemovals, tasks_append, untouched, tasks_scheduled]
      cases files <;> rfl
  | @failed _ _ stage _ _ e published failed closes =>
    obtain ⟨verdict, cleanup⟩ := closes.reported failed.underWay rfl
    refine .inr (.inr ⟨verdict, cleanup, ?_⟩)
    rcases concluded_eq published (.error (.inStage stage e)) with h | ⟨cause, h⟩
    · exact .inr (.inl ⟨stage, e, h⟩)
    · exact .inr (.inr ⟨cause, h⟩)
  | @processed _ _ _ _ key url _ published passed closes =>
    obtain ⟨verdict, cleanup⟩ := closes.reported passed.underWay rfl
    refine .inr (.inr ⟨verdict, cleanup, ?_⟩)
    rcases concluded_eq published (.ok ⟨job.id, key, url⟩) with h | ⟨cause, h⟩
    · exact .inl ⟨_, h⟩
    · exact .inr (.inr ⟨cause, h⟩)

end Pipeline

end ImageWorker
