import ImageWorker.Disk.Staging
import ImageWorker.Flow.Retry
import ImageWorker.Image.Transformed
import ImageWorker.Job.Cleanup
import ImageWorker.Message.Status
import ImageWorker.Report.JobLog
import ImageWorker.Storage.DestinationKey

/-!
# The way of one job

A delivery is parsed, announced as being processed, downloaded, transformed, given a destination
key, uploaded and announced as processed. A stage that fails is announced as failed, and what the
job left behind is scheduled for removal; a job that shutdown interrupts is left to be delivered
again.
-/

namespace ImageWorker

/-- Why a transformation gave no image. -/
inductive TransformFailure where
  | media (cause : MediaError)
  /-- The code broke off; the task that ran it has a number. -/
  | panicked (task : Nat) (text : String)
  deriving DecidableEq, Repr

def TransformFailure.toJobError : TransformFailure → JobError
  | media cause => .media cause
  | panicked task text =>
    .taskFailed ("task " ++ toString task ++ " panicked with message " ++ quoted text)

/-- A job that is done and reported. -/
structure ProcessedJob where
  jobId : String
  destinationKey : String
  publicUrl : String
  deriving DecidableEq, Repr

/-- What comes of a delivery. -/
abbrev Outcome := Except JobError ProcessedJob

inductive JobRequest where
  /-- Has shutdown fired? -/
  | isStopping
  | pause (delay : Duration)
  /-- Publish a status, unless shutdown comes first. -/
  | announceUnlessStopped (event : StatusEvent)
  /-- Publish a status. -/
  | announce (event : StatusEvent)
  | download (key : String)
  | upload (key : String) (content : Bytes) (contentType : String)
  /-- Write a local file. -/
  | save (path : Path) (content : Bytes)
  | transform (content : Bytes) (transformation : Transformation)
  | schedule (task : CleanupTask)
  /-- How long has the job taken so far? -/
  | elapsed
  | note (note : Note)
  deriving DecidableEq, Repr

abbrev JobRequest.Answer : JobRequest → Type
  | isStopping => Bool
  | pause _ => Race Unit
  | announceUnlessStopped _ => Race (Except QueueError Unit)
  | announce _ => Except QueueError Unit
  | download _ => Race (Except StorageError Bytes)
  | upload _ _ _ => Race (Except StorageError String)
  | save _ _ => Except IoError Unit
  | transform _ _ => Except TransformFailure TransformedImage
  | schedule _ => Unit
  | elapsed => Duration
  | note _ => Unit

abbrev JobProgram := Program JobRequest JobRequest.Answer

/-- How jobs are processed: where bytes are staged and how storage calls are retried. -/
structure Pipeline where
  staging : StagingArea
  retry : RetryPolicy
  deriving DecidableEq, Repr

namespace Pipeline

def note (n : Note) : JobProgram Unit := .ask (.note n) fun _ => .done ()

/-- Only a fatal failure to publish is passed on; any other is logged. -/
def settle (event : StatusEvent) : Except QueueError Unit → JobProgram (Except QueueError Unit)
  | .ok () => .done (.ok ())
  | .error e =>
    let about := [("status", event.status.name)]
    if e.errorClass.isFatal then
      .ask (.note (.log (.error .pipeline ("Fatal status publish failure: " ++ e.message)
        about))) fun _ => .done (.error e)
    else
      .ask (.note (.log (.warn .pipeline ("Status publish failed, continuing: " ++ e.message)
        about))) fun _ => .done (.ok ())

def publish (event : StatusEvent) : JobProgram (Except QueueError Unit) :=
  .ask (.announce event) (settle event)

def logOf (job : Job) : JobLog := ⟨job.id, job.transformationType⟩

/-- Reports a failed stage, schedules the removal of what is left, and rejects the job. -/
def fail (job : Job) (stage : Stage) (rawPath processedPath : Option Path) (error : JobError) :
    JobProgram Outcome := do
  note (.log ((logOf job).failed stage.name error.text))
  note (.count (.jobFailed stage.name))
  let published ← publish (.failed job stage.failureCode)
  .ask (.schedule ⟨stage.cleanupMode, job.sourceKey, rawPath, processedPath⟩) fun _ =>
    match published with
    | .error e => .done (.error (.terminalPublishFailed e))
    | .ok () => .done (.error (.inStage stage error))

/-- How a storage call inside a job finds its answers. -/
def storageCall {α : Type} (attempt : JobProgram (Race (Except StorageError α))) :
    (r : RetryRequest) → JobProgram (r.Answer StorageError α)
  | .isStopping => .ask .isStopping .done
  | .attempt => attempt
  | .pause delay => .ask (.pause delay) .done
  | .note n => .ask (.note n) .done

/-- Retries a storage call; `what` names it in the log. -/
def withRetry {α : Type} (p : Pipeline) (operation what : String)
    (attempt : JobProgram (Race (Except StorageError α))) : JobProgram (Except JobError α) := do
  let outcome ← (ImageWorker.retry StorageError.message (p.retry.named operation)).translate
    (storageCall attempt)
  match outcome with
  | .success value => return .ok value
  | .failed e attempts =>
    note (.log (.warn .pipeline (what ++ " failed after " ++ toString attempts ++ " attempts") []))
    return .error (.storage e)
  | .cancelled _ => return .error .cancelled

def download (p : Pipeline) (job : Job) : JobProgram (Except JobError Bytes) :=
  p.withRetry "download" ("Download of " ++ job.sourceKey)
    (.ask (.download job.sourceKey) .done)

/-- Writes a local file at the path that a key has. -/
def stage (path : Except KeyFault Path) (content : Bytes) : JobProgram (Except JobError Path) :=
  match path with
  | .error why => .done (.error (.invalidKey why))
  | .ok path =>
    .ask (.save path content) fun
      | .ok () => .done (.ok path)
      | .error e => .done (.error (.io e))

/-- Resolves the transformation of a job and carries it out. -/
def transform (job : Job) (raw : Bytes) :
    JobProgram (Except JobError (Transformation × TransformedImage)) :=
  match job.transformation with
  | .error e => .done (.error (.message e))
  | .ok t =>
    .ask (.transform raw t) fun
      | .ok image => .done (.ok (t, image))
      | .error e => .done (.error e.toJobError)

/-- Stages the result and uploads it; gives its public URL. -/
def upload (p : Pipeline) (key : String) (image : TransformedImage) :
    JobProgram (Except JobError String) := do
  match ← stage (p.staging.processedPath key) image.bytes with
  | .error e => return .error e
  | .ok _ =>
    p.withRetry "upload" ("Upload of " ++ key)
      (.ask (.upload key image.bytes image.format.contentType) .done)

/-- What follows a successful upload; shutdown is not looked at any more. -/
def finish (job : Job) (key url : String) (rawPath processedPath : Option Path) :
    JobProgram Outcome := do
  let published ← publish (.processed job url)
  .ask (.schedule ⟨.cleanupAll, job.sourceKey, rawPath, processedPath⟩) fun _ =>
    match published with
    | .error e => .done (.error (.terminalPublishFailed e))
    | .ok () =>
      .ask (.note (.count (.jobCompleted job.transformationType))) fun _ =>
        .ask .elapsed fun (elapsed : Duration) =>
          .ask (.note (.log ((logOf job).completed (key ++ " in " ++ elapsed.text)))) fun _ =>
            .done (.ok ⟨job.id, key, url⟩)

/-- From a staged raw file to the end of a job. -/
def fromStaged (p : Pipeline) (job : Job) (raw : Bytes) (rawPath : Path) : JobProgram Outcome := do
  note (.log ((logOf job).stageDone Stage.download.name (toString raw.length ++ " bytes")))
  match ← transform job raw with
  | .error e => fail job .transform (some rawPath) none e
  | .ok (t, image) =>
    note (.log ((logOf job).stageDone Stage.transform.name
      (toString image.width ++ "x" ++ toString image.height ++ " " ++ image.format.contentType)))
    match destinationKey job.sourceKey t with
    | .error why => fail job .deriveKey (some rawPath) none (.invalidKey why)
    | .ok key =>
      let processedPath := (p.staging.processedPath key).toOption
      match ← p.upload key image with
      | .ok url => finish job key url (some rawPath) processedPath
      | .error .cancelled =>
        .ask (.schedule ⟨.deleteLocal, job.sourceKey, some rawPath, processedPath⟩) fun _ =>
          .done (.error .cancelled)
      | .error e => fail job .upload (some rawPath) processedPath e

def fromAnnounced (p : Pipeline) (job : Job) : JobProgram Outcome := do
  match ← p.download job with
  | .error .cancelled => return .error .cancelled
  | .error e => fail job .download none none e
  | .ok raw =>
    match ← stage (p.staging.rawPath job.sourceKey) raw with
    | .error e => fail job .download none none e
    | .ok rawPath => p.fromStaged job raw rawPath

/-- From the announcement of a job to its end, unless shutdown comes first or the announcement
fails for good. -/
def fromStarted (p : Pipeline) (job : Job) : JobProgram Outcome :=
  .ask (.announceUnlessStopped (.processing job)) fun
    | .stopped => .done (.error .cancelled)
    | .finished published => do
      match ← settle (.processing job) published with
      | .error e => return .error (.publishFailed e)
      | .ok () => p.fromAnnounced job

/-- Processes one job. Nothing is staged before it is announced, so a shutdown up to then only
leaves it to be delivered again. -/
def run (p : Pipeline) (job : Job) : JobProgram Outcome := do
  note (.log ((logOf job).started ("source " ++ job.sourceKey)))
  note (.count (.jobStarted job.transformationType))
  if job.created?.isSome then note (.count .queueDelay)
  p.fromStarted job

def process (p : Pipeline) (body : Bytes) : JobProgram Outcome :=
  match Envelope.parse body with
  | .error e => .done (.error (.message e))
  | .ok envelope => p.run envelope.job

end Pipeline

end ImageWorker
