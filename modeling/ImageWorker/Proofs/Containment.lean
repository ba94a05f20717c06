import ImageWorker.Proofs.CleanupSteps
import ImageWorker.Proofs.JobProgress
import ImageWorker.Proofs.JobStore
import ImageWorker.Proofs.PathComponents

/-!
# What a job can reach

Whoever sends a delivery chooses the key of the source object. Whatever the key is, the job writes
and removes files below the two staging directories only, uploads below the folder of results only,
and its cleanup deletes no object but the source.
-/

namespace ImageWorker

open Pipeline JobTrace CleanupTask

/-- Whether a path lies below one of the staging directories. -/
def StagingArea.Encloses (a : StagingArea) (path : Path) : Prop :=
  path.Below a.rawRoot ∨ path.Below a.processedRoot

/-- A key of one proper name in the folder of results. -/
def IsResultName (key : String) : Prop :=
  ∃ name, ProperName name ∧ key = processedFolder ++ "/" ++ name

/-- A cleanup that touches nothing beyond its job. -/
structure CleanupTask.Confined (a : StagingArea) (job : Job) (t : CleanupTask) : Prop where
  sourceKey_eq : t.sourceKey = job.sourceKey
  raw : ∀ path, t.rawPath = some path → path.Below a.rawRoot
  processed : ∀ path, t.processedPath = some path → path.Below a.processedRoot

/-- A request of a job that touches nothing beyond it. -/
def JobRequest.Confined (a : StagingArea) (job : Job) : JobRequest → Prop
  | save path _ => a.Encloses path
  | upload key _ _ => IsResultName key
  | schedule task => task.Confined a job
  | _ => True

def CleanupRequest.Confined (a : StagingArea) (job : Job) : CleanupRequest → Prop
  | removeFile path => a.Encloses path
  | deleteObject key => key = job.sourceKey
  | note _ => True

variable {a : StagingArea} {job : Job}

namespace JobTrace

variable {trace first second : JobTrace} {x : JobExchange}

def Confined (a : StagingArea) (job : Job) (trace : JobTrace) : Prop :=
  ∀ x ∈ trace, x.request.Confined a job

@[simp] theorem confined_nil : Confined a job [] := List.forall_mem_nil _

@[simp] theorem confined_append_iff :
    Confined a job (first ++ second) ↔ Confined a job first ∧ Confined a job second :=
  List.forall_mem_append

@[simp] theorem confined_cons_iff :
    Confined a job (x :: trace) ↔ x.request.Confined a job ∧ Confined a job trace :=
  List.forall_mem_cons

theorem Quiet.confined (quiet : Quiet trace) : Confined a job trace := by
  intro x mem
  have report := quiet x mem
  obtain ⟨r, answer⟩ := x
  cases r with
  | note | elapsed => trivial
  | _ => exact absurd report Bool.false_ne_true

end JobTrace

theorem Path.Below.of_some {root path : Path} (below : path.Below root) :
    ∀ other, some path = some other → other.Below root := by
  rintro other ⟨⟩
  exact below

namespace Pipeline

variable {p : Pipeline} {trace rest : JobTrace}

theorem Tries.confined {α : Type} {exchange : Race (Except StorageError α) → JobExchange}
    {result : Except JobError α} (tried : Tries exchange trace result)
    (attempts : ∀ answer, (exchange answer).request.Confined a job) : Confined a job trace := by
  intro x mem
  rcases tried.attempt_or_waits mem with ⟨answer, rfl⟩ | waiting
  · exact attempts answer
  · obtain ⟨r, answer⟩ := x
    cases r with
    | isStopping | pause | note => trivial
    | _ => exact absurd waiting Bool.false_ne_true

/-- What the rest of a job goes by when it stands at a milestone. -/
def Milestone.Confined (a : StagingArea) : Milestone → Prop
  | announced | downloaded _ => True
  | staged _ rawPath | transformed rawPath _ _ => rawPath.Below a.rawRoot
  | resultStaged rawPath key _ resultPath | uploaded rawPath key _ resultPath _ =>
    rawPath.Below a.rawRoot ∧ resultPath.Below a.processedRoot ∧ IsResultName key

theorem Passes.confined {m : Milestone} (passed : Passes p job trace m) :
    Confined p.staging job trace ∧ m.Confined p.staging := by
  induction passed with
  | announced quiet quietAfter =>
    simp [quiet.confined, quietAfter.confined, JobRequest.Confined, Milestone.Confined]
  | downloaded _ tried ih =>
    exact ⟨confined_append_iff.mpr ⟨ih.1, tried.confined fun _ => trivial⟩, trivial⟩
  | staged _ place ih =>
    have below := StagingArea.resolve_below place
    have enclosed : p.staging.Encloses _ := .inl below
    exact ⟨by simp [ih.1, enclosed, JobRequest.Confined], below⟩
  | transformed _ _ ih => exact ⟨by simp [ih.1, JobRequest.Confined], ih.2⟩
  | resultStaged _ derived place ih =>
    have below := StagingArea.resolve_below place
    have enclosed : p.staging.Encloses _ := .inr below
    exact ⟨by simp [ih.1, enclosed, JobRequest.Confined], ih.2, below,
      destinationKey_proper derived⟩
  | uploaded _ tried ih =>
    exact ⟨confined_append_iff.mpr ⟨ih.1, tried.confined fun _ => ih.2.2.2⟩, ih.2⟩

theorem Fails.confined {stage : Stage} {rawPath resultPath : Option Path} {e : JobError}
    (failed : Fails p job trace stage rawPath resultPath e) :
    Confined p.staging job trace ∧
      (∀ path, rawPath = some path → path.Below p.staging.rawRoot) ∧
      ∀ path, resultPath = some path → path.Below p.staging.processedRoot := by
  cases failed with
  | download passed tried =>
    exact ⟨confined_append_iff.mpr ⟨passed.confined.1, tried.confined fun _ => trivial⟩,
      nofun, nofun⟩
  | rawKey passed => exact ⟨passed.confined.1, nofun, nofun⟩
  | rawFile passed place =>
    have enclosed : p.staging.Encloses _ := .inl (StagingArea.resolve_below place)
    exact ⟨by simp [passed.confined.1, enclosed, JobRequest.Confined], nofun, nofun⟩
  | transform passed =>
    obtain ⟨confined, below⟩ := passed.confined
    exact ⟨by simp [confined, JobRequest.Confined], below.of_some, nofun⟩
  | request passed | deriveKey passed | resultKey passed =>
    obtain ⟨confined, below⟩ := passed.confined
    exact ⟨confined, below.of_some, nofun⟩
  | resultFile passed _ place =>
    obtain ⟨confined, below⟩ := passed.confined
    have belowResult := StagingArea.resolve_below place
    have enclosed : p.staging.Encloses _ := .inr belowResult
    exact ⟨by simp [confined, enclosed, JobRequest.Confined], below.of_some, belowResult.of_some⟩
  | upload passed tried =>
    obtain ⟨confined, below, belowResult, named⟩ := passed.confined
    exact ⟨confined_append_iff.mpr ⟨confined, tried.confined fun _ => named⟩, below.of_some,
      belowResult.of_some⟩

theorem Stops.confined {files : Option (Path × Path)} (stopped : Stops p job trace files) :
    Confined p.staging job (trace ++ (localCleanup job files).map scheduled) := by
  cases stopped with
  | announcing quiet => simp [quiet.confined, localCleanup, JobRequest.Confined]
  | downloading passed tried =>
    have tries : JobTrace.Confined p.staging job _ := tried.confined fun _ => trivial
    simp [passed.confined.1, tries, localCleanup]
  | uploading passed tried =>
    obtain ⟨confined, below, belowResult, named⟩ := passed.confined
    have tries : JobTrace.Confined p.staging job _ := tried.confined fun _ => named
    have task : CleanupTask.Confined p.staging job ⟨.deleteLocal, job.sourceKey, _, _⟩ :=
      ⟨rfl, below.of_some, belowResult.of_some⟩
    simp [confined, tries, task, localCleanup, scheduled, JobRequest.Confined]

theorem Closes.confined {event : StatusEvent} {published : Except QueueError Unit}
    {task : CleanupTask} (closes : Closes event published task trace)
    (confined : task.Confined a job) : Confined a job trace := by
  obtain ⟨before, between, after, quiet, quietBetween, quietAfter, rfl⟩ := closes
  simp [quiet.confined, quietBetween.confined, quietAfter.confined, confined, scheduled,
    JobRequest.Confined]

theorem Ends.confined {outcome : Outcome} (ends : Ends p job trace outcome) :
    Confined p.staging job trace := by
  cases ends with
  | unannounced quiet quietAfter =>
    simp [quiet.confined, quietAfter.confined, JobRequest.Confined]
  | stopped stopped => exact stopped.confined
  | failed failed closes =>
    obtain ⟨confined, below, belowResult⟩ := failed.confined
    exact confined_append_iff.mpr ⟨confined, closes.confined ⟨rfl, below, belowResult⟩⟩
  | processed passed closes =>
    obtain ⟨confined, below, belowResult, _⟩ := passed.confined
    exact confined_append_iff.mpr
      ⟨confined, closes.confined ⟨rfl, below.of_some, belowResult.of_some⟩⟩

end Pipeline

instance (r : CleanupRequest) : Nonempty r.Answer := by
  cases r with
  | removeFile | deleteObject => exact ⟨.ok ()⟩
  | note => exact ⟨()⟩

theorem CleanupTask.Confined.steps {t : CleanupTask} (confined : t.Confined a job) :
    ∀ r ∈ t.steps, r.Confined a job := by
  intro r mem
  cases r with
  | note => trivial
  | removeFile path =>
    rcases removeFile_mem_steps_iff.mp mem with ⟨_, known⟩ | ⟨_, known⟩
    · exact .inl (confined.raw path known)
    · exact .inr (confined.processed path known)
  | deleteObject key => exact (deleteObject_mem_steps_iff.mp mem).2.trans confined.sourceKey_eq

theorem CleanupTask.Confined.perform {t : CleanupTask} (confined : t.Confined a job)
    {trace : CleanupTrace} {rest : CleanupProgram Nat} (reached : t.perform.Reaches trace rest) :
    ∀ x ∈ trace, x.request.Confined a job := by
  obtain ⟨later, failures, run⟩ := reached.exists_runs
  have taken := t.perform_steps run
  rintro ⟨r, answer⟩ mem
  have called (step : r.isStep = true) : r ∈ t.steps :=
    taken ▸ CleanupTrace.mem_steps.mpr ⟨step, answer, List.mem_append_left _ mem⟩
  cases r with
  | note => trivial
  | removeFile | deleteObject => exact confined.steps _ (called rfl)

/-- Whatever key a delivery names, the job and its cleanup touch nothing beyond the job. -/
theorem process_confined (p : Pipeline) {body : Bytes} {trace : JobTrace}
    {rest : JobProgram Outcome} (reached : (p.process body).Reaches trace rest) :
    ∀ x ∈ trace, ∃ envelope, Envelope.parse body = .ok envelope ∧
      x.request.Confined p.staging envelope.job ∧
      ∀ task steps left, x.request = .schedule task → task.perform.Reaches steps left →
        ∀ y ∈ steps, y.request.Confined p.staging envelope.job := by
  obtain ⟨later, outcome, run⟩ := reached.exists_runs
  intro x mem
  rcases process_ends run with ⟨e, _, nothing, _⟩ | ⟨envelope, accepted, ends⟩
  · rw [(List.append_eq_nil_iff.mp nothing).1] at mem
    cases mem
  · have confined := ends.confined x (List.mem_append_left _ mem)
    refine ⟨envelope, accepted, confined, fun task steps left scheduled performed => ?_⟩
    rw [scheduled] at confined
    exact CleanupTask.Confined.perform confined performed

theorem process_confined_of_turn :
    (tasks (turn "raw/a.png" ObjectMap.oblige).1).length = 1 ∧
      ∀ x ∈ (turn "raw/a.png" ObjectMap.oblige).1,
        x.request.Confined localPipeline.staging (turnJob "raw/a.png") := by
  refine ⟨by decide +kernel, fun x mem => ?_⟩
  obtain ⟨envelope, accepted, confined, _⟩ :=
    process_confined localPipeline (turn_runs "raw/a.png" ObjectMap.oblige).reaches x mem
  obtain rfl : envelope = ⟨"image_processing", turnJob "raw/a.png"⟩ :=
    Except.ok.inj (accepted.symm.trans parse_turnDelivery)
  exact confined

end ImageWorker
