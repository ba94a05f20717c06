import ImageWorker.Proofs.JobEffects
import ImageWorker.Proofs.JobStore

/-!
# The course of a delivery

A delivery takes exactly one of four courses, and each says what others see of it, in which order,
and what comes of it. The announcements alone tell the courses apart.
-/

namespace ImageWorker

open Pipeline JobTrace

variable {p : Pipeline} {job : Job} {trace before : JobTrace} {outcome : Outcome}

/-- The job has come to its upload: its image is made and the key of its result is known. -/
def InUpload (job : Job) (trace : JobTrace) : Prop :=
  ∃ raw t image key, ⟨.transform raw t, .ok image⟩ ∈ trace ∧
    destinationKey job.sourceKey t = .ok key

/-- Both files of a job are written, each at the path of its key. -/
def Staged (p : Pipeline) (job : Job) (trace : JobTrace) (rawPath resultPath : Path) : Prop :=
  ∃ raw t image key, p.staging.rawPath job.sourceKey = .ok rawPath ∧
    ⟨.save rawPath raw, .ok ()⟩ ∈ trace ∧ ⟨.transform raw t, .ok image⟩ ∈ trace ∧
    destinationKey job.sourceKey t = .ok key ∧ p.staging.processedPath key = .ok resultPath ∧
    ⟨.save resultPath image.bytes, .ok ()⟩ ∈ trace

/-- A job that ends before it is reported. Only in its upload does it leave files, and only if it
is given up has its announcement failed for good. -/
structure Interrupted (p : Pipeline) (job : Job) (trace : JobTrace) (outcome : Outcome) :
    Prop where
  announcements_eq : announcements trace = [.processing job]
  outcome_eq : outcome = .error .cancelled ∨ ∃ e, outcome = .error (.publishFailed e)
  given_up_iff (e : QueueError) : outcome = .error (.publishFailed e) ↔
    e.errorClass = .fatal ∧
      ⟨.announceUnlessStopped (.processing job), .finished (.error e)⟩ ∈ trace
  untouched_of_given_up (e : QueueError) : outcome = .error (.publishFailed e) →
    storageCalls trace = [] ∧ tasks trace = []
  tasks_eq_of_upload : InUpload job trace → ∃ rawPath resultPath,
    Staged p job trace rawPath resultPath ∧
      tasks trace = [⟨.deleteLocal, job.sourceKey, some rawPath, some resultPath⟩]
  tasks_eq_nil : ¬ InUpload job trace → tasks trace = []

/-- A job of which a stage fails. The stage alone decides how the failure is reported and what is
removed. -/
def Failed (p : Pipeline) (job : Job) (trace : JobTrace) (outcome : Outcome) : Prop :=
  ∃ before stage rawPath resultPath e published, before <+: trace ∧
    Fails p job before stage rawPath resultPath e ∧ UnderWay job (effects before) ∧
    effects trace = effects before ++
      [⟨.announce (.failed job stage.failureCode), published⟩,
        scheduled ⟨stage.cleanupMode, job.sourceKey, rawPath, resultPath⟩] ∧
    outcome = concluded published (.error (.rejected stage false e))

/-- A job whose result is uploaded and reported. -/
def Processed (p : Pipeline) (job : Job) (trace : JobTrace) (outcome : Outcome) : Prop :=
  ∃ before calls rawPath key image resultPath url published, before <+: trace ∧
    Passes p job before (.uploaded rawPath key image resultPath url) ∧
    UnderWay job (effects before) ∧
    effects before = calls ++ [uploadExchange key image (.finished (.ok url))] ∧
    effects trace = effects before ++
      [⟨.announce (.processed job url), published⟩,
        scheduled ⟨.cleanupAll, job.sourceKey, some rawPath, some resultPath⟩] ∧
    outcome = concluded published (.ok ⟨job.id, key, url⟩)

inductive Course where
  | refused
  | interrupted
  | failed
  | processed
  deriving DecidableEq, Repr

namespace Course

def Describes (p : Pipeline) (body : Bytes) (trace : JobTrace) (outcome : Outcome) :
    Course → Prop
  | refused => ∃ e, Envelope.parse body = .error e ∧ trace = [] ∧ outcome = .error (.message e)
  | interrupted => ∃ envelope, Envelope.parse body = .ok envelope ∧
    Interrupted p envelope.job trace outcome
  | failed => ∃ envelope, Envelope.parse body = .ok envelope ∧ Failed p envelope.job trace outcome
  | processed => ∃ envelope, Envelope.parse body = .ok envelope ∧
    Processed p envelope.job trace outcome

def statuses : Course → List JobStatus
  | refused => []
  | interrupted => [.processing]
  | failed => [.processing, .failed]
  | processed => [.processing, .processed]

theorem statuses_injective {c d : Course} (h : c.statuses = d.statuses) : c = d := by
  cases c <;> cases d <;> first | rfl | exact absurd h (by decide)

end Course

theorem Staged.inUpload {rawPath resultPath : Path}
    (staged : Staged p job trace rawPath resultPath) : InUpload job trace := by
  obtain ⟨raw, t, image, key, _, _, transformed, derived, _⟩ := staged
  exact ⟨raw, t, image, key, transformed, derived⟩

theorem Staged.append {rawPath resultPath : Path} (staged : Staged p job trace rawPath resultPath)
    (rest : JobTrace) : Staged p job (trace ++ rest) rawPath resultPath := by
  obtain ⟨raw, t, image, key, rawPlace, saved, transformed, derived, resultPlace, kept⟩ := staged
  exact ⟨raw, t, image, key, rawPlace, List.mem_append_left _ saved,
    List.mem_append_left _ transformed, derived, resultPlace, List.mem_append_left _ kept⟩

theorem JobTrace.Untransformed.not_inUpload (untransformed : Untransformed trace) :
    ¬ InUpload job trace := by
  rintro ⟨raw, t, image, key, mem, _⟩
  exact absurd (untransformed _ mem) Bool.true_eq_false.mp

/-- A job whose result is staged has written both files. -/
theorem Pipeline.Passes.both_staged {rawPath resultPath : Path} {key : String}
    {image : TransformedImage}
    (passed : Passes p job trace (.resultStaged rawPath key image resultPath)) :
    Staged p job trace rawPath resultPath := by
  cases passed with
  | resultStaged passed derived resultPlace =>
    cases passed with
    | @transformed _ raw _ _ _ passed resolved =>
      cases passed with
      | staged passed rawPlace =>
        exact ⟨raw, _, image, key, rawPlace, by simp, by simp, derived, resultPlace, by simp⟩

theorem untransformed_announcement (job : Job) {before after : JobTrace} (quiet : Quiet before)
    (quietAfter : Quiet after) (answer : Race (Except QueueError Unit)) :
    Untransformed (before ++ ⟨.announceUnlessStopped (.processing job), answer⟩ :: after) := by
  rw [untransformed_append_iff, untransformed_cons_iff]
  exact ⟨quiet.untransformed, rfl, quietAfter.untransformed⟩

theorem Pipeline.Passes.untransformed (passed : Passes p job trace .announced) :
    Untransformed trace := by
  cases passed with
  | announced quiet quietAfter _ => exact untransformed_announcement job quiet quietAfter _

/-- Where shutdown stops a job decides what it leaves: in its upload both files, and nothing
before it has an image. -/
theorem Pipeline.Stops.files_eq {files : Option (Path × Path)} (stopped : Stops p job trace files) :
    (files = none ∧ Untransformed trace) ∨
      ∃ rawPath resultPath, files = some (rawPath, resultPath) ∧
        Staged p job trace rawPath resultPath := by
  cases stopped with
  | announcing quiet => exact .inl ⟨rfl, untransformed_announcement job quiet quiet_nil _⟩
  | downloading passed tried =>
    refine .inl ⟨rfl, untransformed_append_iff.mpr ⟨passed.untransformed, fun x mem => ?_⟩⟩
    rcases tried.attempt_or_waits mem with ⟨answer, rfl⟩ | waiting
    · rfl
    · exact JobRequest.isTransform_of_isWaiting waiting
  | uploading passed tried => exact .inr ⟨_, _, rfl, passed.both_staged.append _⟩

theorem Pipeline.UnderWay.not_fatal {e : QueueError} (underWay : UnderWay job (effects trace))
    (mem : ⟨.announceUnlessStopped (.processing job), .finished (.error e)⟩ ∈ trace) :
    e.errorClass ≠ .fatal := by
  obtain ⟨published, calls, passing, storage, shown⟩ := underWay
  have visible : _ ∈ effects trace :=
    List.mem_filter.mpr ⟨mem, JobRequest.isEffect_announceUnlessStopped _⟩
  rw [shown, List.mem_cons] at visible
  rcases visible with same | called
  · obtain rfl : .error e = published := by simpa using same
    intro fatal
    simp [fatal?, fatal, ErrorClass.isFatal] at passing
  · exact absurd (storage _ called) Bool.false_ne_true

/-- The announcement of a job that shutdown stops has not failed for good. -/
theorem Pipeline.Stops.not_fatal {files : Option (Path × Path)} {e : QueueError}
    (stopped : Stops p job trace files)
    (mem : ⟨.announceUnlessStopped (.processing job), .finished (.error e)⟩ ∈ trace) :
    e.errorClass ≠ .fatal := by
  cases stopped with
  | announcing quiet =>
    simp only [List.mem_append, List.mem_singleton] at mem
    rcases mem with mem | same
    · exact absurd (quiet _ mem) Bool.false_ne_true
    · simp at same
  | downloading passed tried => exact (passed.underWay.calls (fun _ => rfl) tried).not_fatal mem
  | uploading passed tried => exact (passed.underWay.calls (fun _ => rfl) tried).not_fatal mem

/-- A job that cannot be announced is interrupted before anything else. -/
theorem Interrupted.of_unannounced {before after : JobTrace} {published : Except QueueError Unit}
    {e : QueueError} (quiet : Quiet before) (quietAfter : Quiet after)
    (fatal : fatal? published = some e) :
    Interrupted p job
      (before ++ ⟨.announceUnlessStopped (.processing job), .finished published⟩ :: after)
      (.error (.publishFailed e)) := by
  obtain ⟨rfl, class_eq⟩ := fatal?_eq_some_iff.mp fatal
  have shown := effects_announcement job quiet quietAfter (.finished (.error e))
  have untransformed :=
    untransformed_announcement job quiet quietAfter (.finished (.error e))
  have untouched : storageCalls (before ++
      ⟨.announceUnlessStopped (.processing job), .finished (.error e)⟩ :: after) = [] := by
    rw [← storageCalls_effects, shown]
    rfl
  have unscheduled : tasks (before ++
      ⟨.announceUnlessStopped (.processing job), .finished (.error e)⟩ :: after) = [] := by
    rw [← tasks_effects, shown]
    rfl
  refine ⟨?_, .inr ⟨e, rfl⟩, fun e' => ?_, fun _ _ => ?_, fun upload => ?_, fun _ => ?_⟩
  · rw [← announcements_effects, shown]
    rfl
  · constructor
    · rintro ⟨⟩
      exact ⟨class_eq, by simp⟩
    · rintro ⟨_, mem⟩
      have visible : _ ∈ effects _ :=
        List.mem_filter.mpr ⟨mem, JobRequest.isEffect_announceUnlessStopped _⟩
      rw [shown] at visible
      obtain rfl : e' = e := by simpa using visible
      rfl
  · exact ⟨untouched, unscheduled⟩
  · exact absurd upload untransformed.not_inUpload
  · exact unscheduled

theorem Interrupted.of_stopped {files : Option (Path × Path)} (stopped : Stops p job trace files) :
    Interrupted p job (trace ++ (localCleanup job files).map scheduled) (.error .cancelled) := by
  obtain ⟨announced, untouched⟩ := stopped.shown
  have cleaned : tasks (trace ++ (localCleanup job files).map scheduled) =
      localCleanup job files := by
    rw [tasks_append, untouched, tasks_scheduled, List.nil_append]
  refine ⟨?_, .inl rfl, fun e => ?_, fun _ given => ?_, fun upload => ?_, fun outside => ?_⟩
  · rw [announcements_append, announced, announcements_scheduled]
    rfl
  · constructor
    · rintro ⟨⟩
    · rintro ⟨fatal, mem⟩
      simp only [List.mem_append, List.mem_map] at mem
      rcases mem with mem | ⟨task, _, same⟩
      · exact absurd fatal (stopped.not_fatal mem)
      · simp [scheduled] at same
  · simp at given
  · rcases stopped.files_eq with ⟨rfl, untransformed⟩ | ⟨rawPath, resultPath, rfl, staged⟩
    · refine absurd upload (Untransformed.not_inUpload ?_)
      simpa [localCleanup] using untransformed
    · exact ⟨rawPath, resultPath, staged.append _, cleaned⟩
  · rcases stopped.files_eq with ⟨rfl, _⟩ | ⟨_, _, rfl, staged⟩
    · exact cleaned
    · exact absurd (staged.append _).inUpload outside

theorem Failed.of_closes {rest : JobTrace} {stage : Stage} {rawPath resultPath : Option Path}
    {e : JobError} {published : Except QueueError Unit}
    (failed : Fails p job trace stage rawPath resultPath e)
    (closes : Closes (.failed job stage.failureCode) published
      ⟨stage.cleanupMode, job.sourceKey, rawPath, resultPath⟩ rest) :
    Failed p job (trace ++ rest) (concluded published (.error (.inStage stage e))) := by
  refine ⟨trace, stage, rawPath, resultPath, e, published, List.prefix_append _ _, failed,
    failed.underWay, ?_, rfl⟩
  rw [effects_append, closes.effects_eq]

/-- The last that others see before a result is announced is its upload. -/
theorem Pipeline.Passes.last_upload {rawPath resultPath : Path} {key url : String}
    {image : TransformedImage}
    (passed : Passes p job trace (.uploaded rawPath key image resultPath url)) :
    ∃ calls, effects trace = calls ++ [uploadExchange key image (.finished (.ok url))] := by
  cases passed with
  | @uploaded trace _ _ _ _ _ _ passed tried =>
    cases tried with
    | @success attempts _ _ =>
      exact ⟨effects (trace ++ attempts.map (storageExchange (uploadExchange key image))), by
        rw [← List.append_assoc, effects_append]; rfl⟩

theorem Processed.of_closes {rest : JobTrace} {rawPath resultPath : Path} {key url : String}
    {image : TransformedImage} {published : Except QueueError Unit}
    (passed : Passes p job trace (.uploaded rawPath key image resultPath url))
    (closes : Closes (.processed job url) published
      ⟨.cleanupAll, job.sourceKey, some rawPath, some resultPath⟩ rest) :
    Processed p job (trace ++ rest) (concluded published (.ok ⟨job.id, key, url⟩)) := by
  obtain ⟨calls, uploaded⟩ := passed.last_upload
  refine ⟨trace, calls, rawPath, key, image, resultPath, url, published, List.prefix_append _ _,
    passed, passed.underWay, uploaded, ?_, rfl⟩
  rw [effects_append, closes.effects_eq]

namespace Course

variable {body : Bytes} {course : Course}

theorem exists_describes (run : (p.process body).Runs trace outcome) :
    ∃ course : Course, course.Describes p body trace outcome := by
  rcases process_ends run with unreadable | ⟨envelope, accepted, ends⟩
  · exact ⟨refused, unreadable⟩
  · cases ends with
    | unannounced quiet quietAfter fatal =>
      exact ⟨interrupted, envelope, accepted, .of_unannounced quiet quietAfter fatal⟩
    | stopped stopped => exact ⟨interrupted, envelope, accepted, .of_stopped stopped⟩
    | failed fails closes => exact ⟨failed, envelope, accepted, .of_closes fails closes⟩
    | processed passed closes => exact ⟨processed, envelope, accepted, .of_closes passed closes⟩

/-- The announcements of a delivery are those of its course. -/
theorem Describes.statuses_eq (described : course.Describes p body trace outcome) :
    (announcements trace).map (·.status) = course.statuses := by
  cases course with
  | refused =>
    obtain ⟨_, _, rfl, _⟩ := described
    rfl
  | interrupted =>
    obtain ⟨_, _, interrupted⟩ := described
    rw [interrupted.announcements_eq]
    rfl
  | failed =>
    obtain ⟨_, _, before, stage, _, _, _, published, _, _, underWay, shown, _⟩ := described
    rw [← announcements_effects, shown, announcements_append, announcements_effects,
      underWay.announcements_eq]
    rfl
  | processed =>
    obtain ⟨_, _, before, _, _, _, _, _, _, _, _, _, underWay, _, shown, _⟩ := described
    rw [← announcements_effects, shown, announcements_append, announcements_effects,
      underWay.announcements_eq]
    rfl

end Course

/-- A delivery with a result takes the last course. -/
theorem processed_of_done {body : Bytes} {done : ProcessedJob}
    (run : (p.process body).Runs trace (.ok done)) :
    ∃ envelope, Envelope.parse body = .ok envelope ∧ Processed p envelope.job trace (.ok done) := by
  obtain ⟨course, described⟩ := Course.exists_describes run
  cases course with
  | refused =>
    obtain ⟨_, _, _, outcome_eq⟩ := described
    simp at outcome_eq
  | interrupted =>
    obtain ⟨_, _, interrupted⟩ := described
    simpa using interrupted.outcome_eq
  | failed =>
    obtain ⟨_, _, _, stage, _, _, e, published, _, _, _, _, outcome_eq⟩ := described
    rcases concluded_eq published (.error (.rejected stage false e)) with same | ⟨_, same⟩
    · simp [same] at outcome_eq
    · simp [same] at outcome_eq
  | processed => exact described

/-- Every delivery takes exactly one course, whatever the answers are. -/
theorem process_takes_one_course {body : Bytes} (run : (p.process body).Runs trace outcome) :
    ∃ course : Course, course.Describes p body trace outcome ∧
      ∀ other : Course, other.Describes p body trace outcome → other = course := by
  obtain ⟨course, described⟩ := Course.exists_describes run
  refine ⟨course, described, fun other describedToo => ?_⟩
  exact Course.statuses_injective (describedToo.statuses_eq.symm.trans described.statuses_eq)

theorem turn_takes_processed_course :
    Course.processed.Describes localPipeline (turnDelivery "raw/a.png")
      (turn "raw/a.png" ObjectMap.oblige).1 (turn "raw/a.png" ObjectMap.oblige).2.2 := by
  obtain ⟨course, described, _⟩ :=
    process_takes_one_course (turn_runs "raw/a.png" ObjectMap.oblige)
  have announced : (announcements (turn "raw/a.png" ObjectMap.oblige).1).map (·.status) =
      Course.processed.statuses := by
    decide +kernel
  obtain rfl := Course.statuses_injective (described.statuses_eq.symm.trans announced)
  exact described

end ImageWorker
