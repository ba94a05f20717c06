import ImageWorker.Failure.KeyFault
import ImageWorker.Failure.MediaError
import ImageWorker.Failure.QueueError
import ImageWorker.Failure.StorageError
import ImageWorker.Message.Error
import ImageWorker.Message.Status

/-!
# How a job ends without a result

A failed stage is reported and then rejects the job; all other failures leave the job to whoever
resolves the message. The class of a rejected job is that of its cause, at any depth.
-/

namespace ImageWorker

/-- The residue that a cleanup removes. -/
inductive CleanupMode where
  /-- The source object. -/
  | deleteSource
  /-- The local raw file and the source object. -/
  | deleteRawAndSource
  /-- Both local files and the source object. -/
  | deleteRawProcessedAndSource
  /-- What a finished job leaves behind: both local files and the source object. -/
  | cleanupAll
  /-- Both local files; the message goes back to its queue. -/
  | deleteLocal
  deriving DecidableEq, Repr

namespace CleanupMode

def all : List CleanupMode :=
  [deleteSource, deleteRawAndSource, deleteRawProcessedAndSource, cleanupAll, deleteLocal]

/-- The mode that is meant when none is given. -/
def default : CleanupMode := deleteSource

def name : CleanupMode → String
  | deleteSource => "delete_s3"
  | deleteRawAndSource => "delete_raw_and_s3"
  | deleteRawProcessedAndSource => "delete_raw_processed_and_s3"
  | cleanupAll => "cleanup_all"
  | deleteLocal => "delete_local"

def removesRaw (m : CleanupMode) : Bool := m != deleteSource

def removesProcessed : CleanupMode → Bool
  | deleteRawProcessedAndSource | cleanupAll | deleteLocal => true
  | deleteSource | deleteRawAndSource => false

def removesSource (m : CleanupMode) : Bool := m != deleteLocal

end CleanupMode

/-- The stages of a job that can fail. -/
inductive Stage where
  | download
  | transform
  | deriveKey
  | upload
  deriving DecidableEq, Repr

namespace Stage

def all : List Stage := [download, transform, deriveKey, upload]

def name : Stage → String
  | download => "download"
  | transform => "transform"
  | deriveKey => "derive_key"
  | upload => "upload"

def failureCode : Stage → FailureCode
  | download => .download
  | transform => .transform
  | deriveKey => .invalidKey
  | upload => .upload

/-- What a failure in a stage leaves to be removed. -/
def cleanupMode : Stage → CleanupMode
  | download => .deleteSource
  | transform | deriveKey => .deleteRawAndSource
  | upload => .deleteRawProcessedAndSource

end Stage

/-- What is wrong with the settings of the worker. -/
inductive ConfigFault where
  | sharedStagingRoot (path : String)
  | noJobQueues
  | metricsExporter (why : String)
  | other (why : String)
  deriving DecidableEq, Repr

def ConfigFault.message : ConfigFault → String
  | sharedStagingRoot path =>
    "raw and processed staging directories must differ (both " ++ path ++ ")"
  | noJobQueues => "no job queues to consume"
  | metricsExporter why => "metrics exporter: " ++ why
  | other why => why

/-- Why a job, or the worker itself, came to no result. -/
inductive JobError where
  /-- A stage failed, and the job was reported as failed. -/
  | rejected (stage : Stage) (requeue : Bool) (source : JobError)
  | publishFailed (cause : QueueError)
  /-- The last status could not be published after the cleanup had been scheduled. -/
  | terminalPublishFailed (cause : QueueError)
  | cancelled
  | invalidKey (why : KeyFault)
  | taskFailed (why : String)
  | config (why : ConfigFault)
  | message (cause : MessageError)
  | storage (cause : StorageError)
  | media (cause : MediaError)
  | queue (cause : QueueError)
  | io (cause : IoError)
  deriving DecidableEq, Repr

namespace JobError

def text : JobError → String
  | rejected stage _ source => stage.name ++ " stage failed: " ++ source.text
  | publishFailed cause => "Status publish failed: " ++ cause.message
  | terminalPublishFailed cause => "Terminal status publish failed: " ++ cause.message
  | cancelled => "Job cancelled by shutdown"
  | invalidKey why => "Invalid key: " ++ why.message
  | taskFailed why => "Blocking task failed: " ++ why
  | config why => "Configuration error: " ++ why.message
  | message cause => "Model error: " ++ cause.message
  | storage cause => "Storage error: " ++ cause.message
  | media cause => "Media error: " ++ cause.message
  | queue cause => "Queue error: " ++ cause.message
  | io cause => "IO error: " ++ cause.message

/-- A failed stage; such a job is never delivered again. -/
def inStage (stage : Stage) (source : JobError) : JobError := rejected stage false source

def stage? : JobError → Option Stage
  | rejected stage _ _ => some stage
  | _ => none

def errorClass : JobError → ErrorClass
  | rejected _ _ source => source.errorClass
  | publishFailed cause | terminalPublishFailed cause | queue cause => cause.errorClass
  | cancelled => .transient
  | config _ => .fatal
  | storage cause => cause.errorClass
  | media cause => cause.errorClass
  | message cause => cause.errorClass
  | io cause => cause.errorClass
  | invalidKey _ | taskFailed _ => .permanent

end JobError

end ImageWorker
