import ImageWorker.Broker.Link
import ImageWorker.Settings.Broker
import ImageWorker.Settings.Worker
import ImageWorker.Storage.Client

/-!
# The self-check

The self-check tells whether a worker could run here: its settings make sense, both staging
directories can be written to, and the broker's settings are complete. On demand it also connects
to the broker and asks for the bucket. The first fault ends it.
-/

namespace ImageWorker

/-- Why a self-check fails. -/
inductive CheckFault where
  | workerSettings (why : JobError)
  | directory (why : IoError)
  | notWritable (dir : Path) (why : IoError)
  | unset (name : String)
  | brokerSettings (why : QueueError)
  | brokerUnreachable (why : QueueError)
  | storeSettings (why : StorageError)
  | bucketUnreachable (bucket : String) (why : StorageError)
  deriving DecidableEq, Repr

def CheckFault.message : CheckFault → String
  | workerSettings why => "worker config: " ++ why.text
  | directory why => why.message
  | notWritable dir why => dir.text ++ " is not writable: " ++ why.message
  | unset name => "missing required env var " ++ name
  | brokerSettings why => "broker config: " ++ why.message
  | brokerUnreachable why => "broker unreachable: " ++ why.message
  | storeSettings why => why.message
  | bucketUnreachable bucket why => "bucket " ++ bucket ++ " unreachable: " ++ why.message

/-- What is told about a fault. -/
def CheckFault.complaint (f : CheckFault) : String := "Error: " ++ f.message

inductive CheckRequest where
  | makeDirectories (path : Path)
  | writeFile (path : Path) (content : Bytes)
  | removeFile (path : Path)
  | broker (request : LinkRequest)
  | store (request : StoreRequest)
  /-- Say something to whoever runs the check. -/
  | say (line : String)
  deriving DecidableEq, Repr

abbrev CheckRequest.Answer : CheckRequest → Type
  | makeDirectories _ | writeFile _ _ | removeFile _ => Except IoError Unit
  | broker r => r.Answer
  | store r => r.Answer
  | say _ => Unit

abbrev Check := ExceptT CheckFault (Program CheckRequest CheckRequest.Answer)

namespace Check

/-- Goes on with what a program of the broker gives. -/
def ofLink {α : Type} (p : LinkProgram α) : Check α :=
  ExceptT.lift (p.translate fun r => .ask (.broker r) .done)

/-- Goes on with what a program of the store gives. -/
def ofStore {α : Type} (p : StoreProgram α) : Check α :=
  ExceptT.lift (p.translate fun r => .ask (.store r) .done)

def request (r : CheckRequest) : Check r.Answer := ExceptT.lift (.ask r .done)

/-- Says something, after the name of the check. -/
def say (text : String) : Check Unit := request (.say ("worker-selfcheck: " ++ text))

/-- Goes on after a success. -/
def orFault {ε α : Type} (fault : ε → CheckFault) : Except ε α → Check α
  | .ok a => pure a
  | .error e => throw (fault e)

/-- Makes sure that a directory is there and can be written to. -/
def writable (dir : Path) : Check Unit := do
  orFault .directory (← request (.makeDirectories dir))
  let marker := dir.join ".selfcheck"
  orFault (.notWritable dir) (← request (.writeFile marker (.ofText "ok")))
  orFault .directory (← request (.removeFile marker))

def requiredVariables : List String := ["RABBITMQ_URL", "RABBITMQ_QUEUES", "AWS_BUCKET_NAME"]

/-- Makes sure that variables are set. -/
def present (env : Environment) : List String → Check Unit
  | [] => pure ()
  | name :: names => if (env name).isSome then present env names else throw (.unset name)

def connections (env : Environment) : Check Unit := do
  let link ← orFault .brokerUnreachable (← ofLink (LinkProgram.openLink "imgflow-selfcheck"))
  ofLink (.ask (.close link) .done)
  say "broker ok"
  let store ← orFault .storeSettings (StoreSettings.ofEnvironment env)
  orFault (.bucketUnreachable store.bucket) (← ofStore store.check)
  say "storage ok"

/-- The whole self-check; connections are tried on demand. -/
def all (env : Environment) (connect : Bool) : Check Unit := do
  let worker := WorkerSettings.ofEnvironment env
  orFault .workerSettings worker.validate
  say ("starting with raw_dir=" ++ worker.rawDir.text ++
    " processed_dir=" ++ worker.processedDir.text)
  writable worker.rawDir
  writable worker.processedDir
  present env requiredVariables
  let broker ← orFault .brokerSettings (BrokerSettings.ofEnvironment env)
  say (toString broker.jobQueues.length ++ " job queues, " ++ toString broker.totalWorkers ++
    " workers")
  if connect then connections env
  say "ok"

def connectArgument : String := "--connect"

/-- The self-check with the arguments of a command line. -/
def program (env : Environment) (args : List String) :
    Program CheckRequest CheckRequest.Answer (Except CheckFault Unit) :=
  (all env (args.contains connectArgument)).run

end Check

end ImageWorker
