import ImageWorker.Job.Pipeline
import ImageWorker.Pool.Lifecycle
import ImageWorker.Settings.Store

/-!
# The service

The service reads its settings, prepares the staging directories and the store, and then runs the
worker pool until shutdown. Whatever is wrong before that ends it with a line in the log.
-/

namespace ImageWorker

inductive ServiceRequest where
  | log (line : LogLine)
  /-- Offer the metrics to those who connect to a number. -/
  | exportMetrics (number : Nat)
  /-- Make the staging directories. -/
  | makeRoots (area : StagingArea)
  /-- Run a pool whose jobs go through a pipeline with a store. -/
  | runPool (pool : WorkerPool) (pipeline : Pipeline) (store : StoreSettings)
  deriving DecidableEq, Repr

abbrev ServiceRequest.Answer : ServiceRequest → Type
  | log _ => Unit
  | exportMetrics _ => Except String Unit
  | makeRoots _ => Except IoError Unit
  | runPool _ _ _ => Except JobError Unit

/-- A computation of the service; it fails with the line that it leaves in the log. -/
abbrev Service := ExceptT String (Program ServiceRequest ServiceRequest.Answer)

namespace Service

def request (r : ServiceRequest) : Service r.Answer := ExceptT.lift (.ask r .done)

/-- Leaves a line of the information level. -/
def say (text : String) : Service Unit := request (.log (.info .service text []))

/-- Goes on after a success; a failure is told after some words. -/
def orTell {ε α : Type} (words : String) (wording : ε → String) : Except ε α → Service α
  | .ok a => pure a
  | .error e => throw (words ++ wording e)

/-- Offers the metrics; the service goes on in any case. -/
def offerMetrics (number : Nat) : Service Unit := do
  match ← request (.exportMetrics number) with
  | .ok () => say ("Metrics exporter listening on :" ++ toString number)
  | .error why => request (.log (.error .service why []))

/-- What the service does up to the end of the pool. -/
def work (env : Environment) : Service Unit := do
  say "Starting imgflow-worker"
  let worker := WorkerSettings.ofEnvironment env
  match (WorkerSettings.policyOf env).2 with
  | some warning => request (.log warning)
  | none => pure ()
  say ("Worker config: " ++ worker.summary)
  orTell "" JobError.text worker.validate
  let broker ← orTell "Invalid broker configuration: " QueueError.message
    (BrokerSettings.ofEnvironment env)
  say ("Consuming " ++ toString broker.jobQueues.length ++ " queues with " ++
    toString broker.totalWorkers ++ " workers")
  match worker.metricsPort with
  | some number => offerMetrics number
  | none => pure ()
  let area : StagingArea := ⟨worker.rawDir, worker.processedDir⟩
  orTell "Failed to create staging directories: " (fun e => JobError.text (.io e))
    (← request (.makeRoots area))
  let store ← orTell "Failed to create S3 client: " StorageError.message
    (StoreSettings.ofEnvironment env)
  let retry := ((RetryPolicy.ofOperation "storage").withAttempts worker.retryAttempts).withDelay
    worker.retryDelay
  let pool : WorkerPool := ⟨broker, broker.forPool worker.fatalPolicy worker.shutdownTimeout⟩
  orTell "Worker pool error: " JobError.text (← request (.runPool pool ⟨area, retry⟩ store))
  say "Worker shutdown complete"

def run (env : Environment) : Program ServiceRequest ServiceRequest.Answer Bool :=
  (ExceptT.run (work env)).bind fun
    | .ok () => .done true
    | .error text => .ask (.log (.error .service text [])) fun _ => .done false

/-- What is logged when the service is asked to shut down. -/
def shutdownLine : LogLine := .info .service "Received shutdown signal" []

/-- Whether the log has a format that programs can read. -/
def logsRecords (env : Environment) : Bool :=
  (env "LOG_FORMAT").any fun format => format.map Char.toLower = "json"

end Service

end ImageWorker
