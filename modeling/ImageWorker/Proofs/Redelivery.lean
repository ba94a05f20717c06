import ImageWorker.Job.Resolution
import ImageWorker.Proofs.JobEffects
import ImageWorker.Proofs.JobStore

/-!
# Reports and redeliveries

A delivery is put back only if it has shown no verdict and left its source alone, and one that is
not put back has shown a verdict and scheduled a cleanup, except where it is dropped because it
could not be announced. As the broker delivers a message again only after it was put back, all
deliveries of a message together show one verdict and remove its source once at most.
-/

namespace ImageWorker

open Pipeline JobTrace

variable {p : Pipeline} {job : Job} {trace : JobTrace} {outcome : Outcome} {policy : FatalPolicy}

/-- A reported job is not put back. -/
theorem Pipeline.Reported.not_requeued (reported : Reported trace outcome) :
    (Decision.ofOutcome policy outcome).requeues = false := by
  rcases reported.outcome_eq with ⟨_, rfl⟩ | ⟨_, _, rfl⟩ | ⟨_, rfl⟩
  · rfl
  · rfl
  · cases policy <;> rfl

/-- Neither a verdict is shown nor the removal of the source scheduled. -/
def JobTrace.Undecided (trace : JobTrace) : Prop := verdicts trace = [] ∧ sourceRemovals trace = []

/-- A job that is given up shows no verdict and leaves no cleanup. -/
theorem Pipeline.GivenUp.unreported (given : GivenUp job trace outcome) :
    verdicts trace = [] ∧ tasks trace = [] := by
  obtain ⟨e, _, _, shown⟩ := given
  rw [verdicts, ← announcements_effects, ← tasks_effects, shown]
  exact ⟨rfl, rfl⟩

theorem Pipeline.GivenUp.undecided (given : GivenUp job trace outcome) : Undecided trace := by
  obtain ⟨silent, untouched⟩ := given.unreported
  exact ⟨silent, by rw [sourceRemovals, untouched]; rfl⟩

theorem Pipeline.Cancelled.undecided (cancelled : Cancelled job trace outcome) :
    Undecided trace := by
  refine ⟨?_, cancelled.sourceRemovals_eq⟩
  rw [verdicts, cancelled.announcements_eq]
  rfl

/-- A delivery that is put back is undecided. -/
theorem undecided_of_requeued {body : Bytes} (run : (p.process body).Runs trace outcome)
    (requeued : (Decision.ofOutcome policy outcome).requeues = true) : Undecided trace := by
  rcases process_ends run with ⟨e, _, rfl, _⟩ | ⟨envelope, _, ends⟩
  · exact ⟨rfl, rfl⟩
  · rcases ends.givenUp_or_cancelled_or_reported with given | cancelled | reported
    · exact given.undecided
    · exact cancelled.undecided
    · exact absurd requeued (Bool.not_eq_true _ ▸ reported.not_requeued)

/-- What has been done for a delivery never shows more than one verdict and one removal. -/
theorem reached_verdicts_le_one {body : Bytes} {rest : JobProgram Outcome}
    (reached : (p.process body).Reaches trace rest) :
    (verdicts trace).length ≤ 1 ∧ (sourceRemovals trace).length ≤ 1 := by
  -- A run in progress can be carried on to a whole one, which shows no less.
  obtain ⟨later, outcome, run⟩ := reached.exists_runs
  have whole : (verdicts (trace ++ later)).length ≤ 1 ∧
      (sourceRemovals (trace ++ later)).length ≤ 1 := by
    rcases process_ends run with ⟨e, _, nothing, _⟩ | ⟨envelope, _, ends⟩
    · simp [nothing, verdicts, sourceRemovals, announcements, tasks]
    · rcases ends.givenUp_or_cancelled_or_reported with given | cancelled | reported
      · simp [given.undecided.1, given.undecided.2]
      · simp [cancelled.undecided.1, cancelled.undecided.2]
      · have filtered := List.length_filter_le (·.mode.removesSource) (tasks (trace ++ later))
        rw [reported.tasks_length] at filtered
        exact ⟨Nat.le_of_eq reported.verdicts_length, filtered⟩
  simp only [verdicts, sourceRemovals, announcements_append, tasks_append, List.filter_append,
    List.length_append] at whole ⊢
  omega

/-- What is done for the deliveries of a message: every delivery before the last has ended and is
put back, and the last may still be under way. -/
inductive Deliveries (body : Bytes) : List JobTrace → Prop where
  | last {p : Pipeline} {trace : JobTrace} {rest : JobProgram Outcome} :
      (p.process body).Reaches trace rest → Deliveries body [trace]
  | again {p : Pipeline} {policy : FatalPolicy} {trace : JobTrace} {outcome : Outcome}
      {later : List JobTrace} :
      (p.process body).Runs trace outcome → (Decision.ofOutcome policy outcome).requeues = true →
        Deliveries body later → Deliveries body (trace :: later)

variable {body : Bytes} {history : List JobTrace}

/-- Every delivery before the last is undecided. -/
theorem Deliveries.undecided {earlier later : List JobTrace} (deliveries : Deliveries body history)
    (split : history = earlier ++ trace :: later) (followed : later ≠ []) : Undecided trace := by
  induction deliveries generalizing earlier with
  | last _ =>
    cases earlier with
    | nil => exact absurd (List.cons.inj split).2.symm followed
    | cons _ earlier => simp at split
  | again run requeued _ ih =>
    cases earlier with
    | nil =>
      obtain ⟨rfl, rfl⟩ := List.cons.inj split
      exact undecided_of_requeued run requeued
    | cons _ earlier => exact ih (List.cons.inj split).2

/-- All deliveries of a message together show at most one verdict and one removal. -/
theorem Deliveries.verdicts_le_one (deliveries : Deliveries body history) :
    (history.flatMap verdicts).length ≤ 1 ∧ (history.flatMap sourceRemovals).length ≤ 1 := by
  induction deliveries with
  | last reached => simpa using reached_verdicts_le_one reached
  | again run requeued _ ih =>
    obtain ⟨silent, kept⟩ := undecided_of_requeued run requeued
    simpa [silent, kept] using ih

/-- A requeued run shows nothing final, so over any number of deliveries of a message there is at
most one verdict and at most one removal of its source, both in the last delivery. -/
theorem requeue_safe (body : Bytes) :
    (∀ (p : Pipeline) (policy : FatalPolicy) (trace : JobTrace) (outcome : Outcome),
      (p.process body).Runs trace outcome → (Decision.ofOutcome policy outcome).requeues = true →
        verdicts trace = [] ∧ sourceRemovals trace = []) ∧
      ∀ history, Deliveries body history →
        (history.flatMap verdicts).length ≤ 1 ∧ (history.flatMap sourceRemovals).length ≤ 1 ∧
          ∀ earlier trace later, history = earlier ++ trace :: later →
            verdicts trace ≠ [] ∨ sourceRemovals trace ≠ [] → later = [] := by
  refine ⟨fun p policy trace outcome run requeued => undecided_of_requeued run requeued, ?_⟩
  intro history deliveries
  obtain ⟨once, removedOnce⟩ := deliveries.verdicts_le_one
  refine ⟨once, removedOnce, fun earlier trace later split decided => ?_⟩
  refine Classical.byContradiction fun followed => ?_
  obtain ⟨silent, kept⟩ := deliveries.undecided split followed
  exact decided.elim (· silent) (· kept)

def interruptAnnouncement (objects : ObjectMap) : (r : JobRequest) → r.Answer × ObjectMap
  | .announceUnlessStopped _ => (.stopped, objects)
  | r => objects.oblige r

theorem requeue_safe_interrupted_then_done :
    Deliveries (turnDelivery "raw/a.png")
        [(turn "raw/a.png" interruptAnnouncement).1, (turn "raw/a.png" ObjectMap.oblige).1] ∧
      (verdicts (turn "raw/a.png" ObjectMap.oblige).1).length = 1 ∧
      verdicts (turn "raw/a.png" interruptAnnouncement).1 = [] := by
  have requeued : (Decision.ofOutcome .proceed
      (turn "raw/a.png" interruptAnnouncement).2.2).requeues = true := by
    decide +kernel
  have deliveries : Deliveries (turnDelivery "raw/a.png")
      [(turn "raw/a.png" interruptAnnouncement).1, (turn "raw/a.png" ObjectMap.oblige).1] :=
    .again (turn_runs _ _) requeued (.last (turn_runs _ _).reaches)
  have silent := ((requeue_safe (turnDelivery "raw/a.png")).1 _ .proceed _ _
    (turn_runs "raw/a.png" interruptAnnouncement) requeued).1
  exact ⟨deliveries, by decide +kernel, silent⟩

/-- A job that is not put back has shown one verdict and scheduled one cleanup, unless a fatal
failure to announce it is passed over: then it is dropped, and nothing else is seen of it. -/
theorem reported_or_given_up {envelope : Envelope} (accepted : Envelope.parse body = .ok envelope)
    (run : (p.process body).Runs trace outcome)
    (resolved : (Decision.ofOutcome policy outcome).requeues = false) :
    (verdicts trace).length = 1 ∧ (tasks trace).length = 1 ∨
      policy = .proceed ∧ ∃ e : QueueError, e.errorClass = .fatal ∧
        outcome = .error (.publishFailed e) ∧ verdicts trace = [] ∧ tasks trace = [] ∧
        effects trace =
          [⟨.announceUnlessStopped (.processing envelope.job), .finished (.error e)⟩] := by
  have ends := ends_of_accepted accepted run
  rcases ends.givenUp_or_cancelled_or_reported with given | cancelled | reported
  · obtain ⟨silent, untouched⟩ := given.unreported
    obtain ⟨e, fatal, rfl, shown⟩ := given
    have proceeds : policy = .proceed := by
      cases policy with
      | proceed => rfl
      | halt =>
        simp [Decision.ofOutcome, JobError.errorClass, fatal, Decision.requeues] at resolved
    exact .inr ⟨proceeds, e, fatal, rfl, silent, untouched, shown⟩
  · rw [cancelled.outcome_eq] at resolved
    exact absurd resolved Bool.true_eq_false.mp
  · exact .inl ⟨reported.verdicts_length, reported.tasks_length⟩

theorem reported_or_given_up_of_done :
    (verdicts (turn "raw/a.png" ObjectMap.oblige).1).length = 1 ∧
      (tasks (turn "raw/a.png" ObjectMap.oblige).1).length = 1 := by
  have resolved : (Decision.ofOutcome .proceed
      (turn "raw/a.png" ObjectMap.oblige).2.2).requeues = false := by
    decide +kernel
  have reported := reported_or_given_up parse_turnDelivery (turn_runs _ _) resolved
  exact reported.resolve_right fun ⟨_, _, _, _, silent, _⟩ => absurd silent (by decide +kernel)

def refuseAnnouncement (objects : ObjectMap) : (r : JobRequest) → r.Answer × ObjectMap
  | .announceUnlessStopped _ =>
    (.finished (.error (.channelClosed "status channel is closed")), objects)
  | r => objects.oblige r

/-- A job that is given up under the policy to proceed is dropped without a verdict. -/
theorem given_up_is_unreported :
    ¬ ∀ (p : Pipeline) (body : Bytes) (envelope : Envelope) (policy : FatalPolicy)
        (trace : JobTrace) (outcome : Outcome), Envelope.parse body = .ok envelope →
        (p.process body).Runs trace outcome →
        (Decision.ofOutcome policy outcome).requeues = false →
          (verdicts trace).length = 1 ∧ (tasks trace).length = 1 := by
  intro always
  have resolved : (Decision.ofOutcome .proceed
      (turn "raw/a.png" refuseAnnouncement).2.2).requeues = false := by
    decide +kernel
  have silent : verdicts (turn "raw/a.png" refuseAnnouncement).1 = [] := by decide +kernel
  have reported := always _ _ _ _ _ _ parse_turnDelivery (turn_runs _ _) resolved
  simp [silent] at reported

end ImageWorker
