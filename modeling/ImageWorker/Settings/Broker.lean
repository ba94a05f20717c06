import ImageWorker.Failure.QueueError
import ImageWorker.Settings.Environment
import ImageWorker.Text.Blank

/-!
# Settings of the broker

The job queues are listed as names with worker counts, separated by commas; a name alone has the
default count. The queue that status messages are routed to never gets consumers, also when it is
listed. Counts have 64 bits, and so has their sum, which is taken without a check for overflow.
-/

namespace ImageWorker

structure WorkQueue where
  name : String
  workers : UInt64
  deriving DecidableEq, Repr

/-- The characters before the first occurrence of a separator, and those after it if there is
one. -/
def splitFirst (sep : Char) : List Char → List Char × Option (List Char)
  | [] => ([], none)
  | c :: r =>
    if c = sep then ([], some r)
    else
      let (before, after) := splitFirst sep r
      (c :: before, after)

def splitAll (sep : Char) : List Char → List (List Char)
  | [] => [[]]
  | c :: r =>
    if c = sep then [] :: splitAll sep r
    else
      match splitAll sep r with
      | [] => [[c]]
      | part :: parts => (c :: part) :: parts

namespace WorkQueue

/-- A queue with a name and at least one worker. -/
def checked (entry name : String) (workers : UInt64) : Except QueueError WorkQueue :=
  if name = "" then .error (.config (.emptyQueueName entry))
  else if workers = 0 then .error (.config (.noWorkers name))
  else .ok ⟨name, workers⟩

/-- Reads a name, or a name and a count with a colon between them. -/
def parse (entry : String) (defaultWorkers : UInt64) : Except QueueError WorkQueue :=
  match splitFirst ':' entry.toList with
  | (name, none) => checked entry (trimmed (String.ofList name)) defaultWorkers
  | (name, some count) =>
    match count64? (trimmed (String.ofList count)) with
    | none => .error (.config (.invalidWorkerCount entry))
    | some workers => checked entry (trimmed (String.ofList name)) workers.toUInt64

def entries (list : String) : List String :=
  ((splitAll ',' list.toList).map fun cs => String.ofList (trimBlanks cs)).filter (· ≠ "")

/-- Reads a list; one bad entry refuses all of it. -/
def parseList (list : String) (defaultWorkers : UInt64) : Except QueueError (List WorkQueue) :=
  match (entries list).mapM (parse · defaultWorkers) with
  | .error e => .error e
  | .ok [] => .error (.config .noQueues)
  | .ok queues => .ok queues

end WorkQueue

structure BrokerSettings where
  url : String
  /-- In the order in which they are listed. -/
  queues : List WorkQueue
  statusQueue : String
  statusExchange : String
  statusRoutingKey : String
  publishTimeout : Duration
  /-- The pause after a failed attempt to connect. -/
  reconnectDelay : Duration
  /-- The pause after the broker closed a consumer. -/
  channelClosedPause : Duration
  deriving DecidableEq, Repr

namespace BrokerSettings

/-- The settings with nothing but a broker and queues given. -/
def ofQueues (url : String) (queues : List WorkQueue) : BrokerSettings where
  url := url
  queues := queues
  statusQueue := "status_queue"
  statusExchange := "image_processing"
  statusRoutingKey := "status"
  publishTimeout := .ofSeconds 10
  reconnectDelay := .ofSeconds 5
  channelClosedPause := .ofSeconds 2

/-- The text of a variable that has to be set. -/
def required (env : Environment) (name : String) : Except QueueError String :=
  match env name with
  | some text => .ok text
  | none => .error (.config (.unset name))

def ofEnvironment (env : Environment) : Except QueueError BrokerSettings := do
  let url ← required env "RABBITMQ_URL"
  let list ← required env "RABBITMQ_QUEUES"
  let queues ← WorkQueue.parseList list (env.count64Or "RABBITMQ_DEFAULT_WORKERS" 1).toUInt64
  let base := ofQueues url queues
  return { base with
    statusQueue := (env "RABBITMQ_STATUS_QUEUE").getD base.statusQueue
    statusExchange := (env "RABBITMQ_STATUS_EXCHANGE").getD base.statusExchange
    statusRoutingKey := (env "RABBITMQ_STATUS_ROUTING_KEY").getD base.statusRoutingKey
    publishTimeout := .ofSeconds (env.count64Or "RABBITMQ_PUBLISH_TIMEOUT_SECS" 10)
    reconnectDelay := .ofSeconds (env.count64Or "RABBITMQ_RECONNECT_DELAY_SECS" 5)
    channelClosedPause := .ofSeconds (env.count64Or "RABBITMQ_CHANNEL_CLOSED_PAUSE_SECS" 2) }

/-- The queues that get consumers. -/
def jobQueues (s : BrokerSettings) : List WorkQueue := s.queues.filter (·.name ≠ s.statusQueue)

/-- The sum of the workers of the job queues, modulo what 64 bits can count. -/
def totalWorkers (s : BrokerSettings) : UInt64 := (s.jobQueues.map (·.workers)).foldl (· + ·) 0

end BrokerSettings

end ImageWorker
