import ImageWorker.Pool.Consumer

/-!
# The worker pool

The pool first establishes the link for statuses, then starts the consumers of every job queue,
and waits for shutdown. Then it waits for its consumers, closes the link for statuses and waits
for cleanups, each no longer than its limit.
-/

namespace ImageWorker

inductive PoolRequest where
  /-- Establish the link for statuses, unless shutdown comes first. -/
  | establish
  | pause (delay : Duration)
  /-- Start a consumer. -/
  | spawn (consumer : Consumer)
  /-- Wait for shutdown. -/
  | awaitShutdown
  /-- Wait for the consumers; say whether they all ended in time. -/
  | join (limit : Duration)
  /-- Close the link for statuses. -/
  | shutStatus
  /-- How many cleanups are pending? -/
  | pending
  /-- Wait for cleanups; say whether none is pending. -/
  | waitIdle (limit : Duration)
  | note (note : Note)
  deriving DecidableEq, Repr

abbrev PoolRequest.Answer : PoolRequest → Type
  | establish => Race (Except QueueError Unit)
  | pause _ => Race Unit
  | spawn _ | awaitShutdown | shutStatus | note _ => Unit
  | join _ | waitIdle _ => Bool
  | pending => Nat

abbrev PoolProgram := Program PoolRequest PoolRequest.Answer

structure WorkerPool where
  broker : BrokerSettings
  settings : PoolSettings
  deriving DecidableEq, Repr

/-- Where the pool is between two turns. -/
inductive PoolState where
  | fresh
  | establishing (failures : FailureStreak)
  deriving DecidableEq, Repr

namespace WorkerPool

/-- A turn ends with the next state or the result of the pool. -/
abbrev Step := PoolProgram (PoolState ⊕ Except JobError Unit)

def leave : List Note → PoolProgram Unit
  | [] => .done ()
  | n :: ns => .ask (.note n) fun _ => leave ns

/-- Leaves a line of the information level. -/
def say (text : String) (fields : List (String × String)) : PoolProgram Unit :=
  leave [.log (.info .pool text fields)]

def consumersOf (p : WorkerPool) (q : WorkQueue) : List Consumer :=
  (List.range q.workers.toNat).map fun i =>
    ⟨q.name, "imgflow-" ++ q.name ++ "-" ++ toString i, p.settings⟩

def consumers (p : WorkerPool) : List Consumer := p.broker.jobQueues.flatMap p.consumersOf

def spawnAll : List Consumer → PoolProgram Unit
  | [] => .done ()
  | c :: cs => .ask (.spawn c) fun _ => spawnAll cs

def spawnQueues (p : WorkerPool) : List WorkQueue → PoolProgram Unit
  | [] => .done ()
  | q :: qs => do
    say "Starting workers" [("queue", q.name), ("workers", toString q.workers)]
    spawnAll (p.consumersOf q)
    p.spawnQueues qs

def drainCleanups (p : WorkerPool) : PoolProgram Unit :=
  .ask .pending fun (pending : Nat) =>
    if pending = 0 then .done ()
    else do
      say ("Waiting for " ++ toString pending ++ " cleanup tasks") []
      .ask (.waitIdle p.settings.shutdownTimeout) fun (idle : Bool) =>
        if idle then .done ()
        else
          .ask .pending fun (left : Nat) =>
            leave [.log (.warn .pool ("Abandoning " ++ toString left ++ " cleanup tasks") [])]

/-- From the start of the consumers to the end of the pool. -/
def serve (p : WorkerPool) : Step := do
  p.spawnQueues p.broker.jobQueues
  .ask .awaitShutdown fun _ => do
    say ("Shutdown signal received, stopping " ++ toString p.consumers.length ++ " workers") []
    .ask (.join p.settings.shutdownTimeout) fun (ended : Bool) => do
      if !ended then
        leave [.log (.warn .pool
          ("Workers still running after " ++ p.settings.shutdownTimeout.text) [])]
      .ask .shutStatus fun _ => do
        p.drainCleanups
        say "Worker pool stopped" []
        return .inr (.ok ())

/-- Shutdown came before there was a link for statuses. -/
def giveUp : Step := do
  say "Shutdown before the status publisher was ready" []
  return .inr (.ok ())

/-- What is logged when the link for statuses could not be established. -/
def setupFailed (p : WorkerPool) (e : QueueError) : LogLine :=
  .warn .pool
    ("Status publisher setup failed, retrying in " ++ p.settings.reconnectDelay.text ++ ": " ++
      e.message) []

def establish (p : WorkerPool) (failures : FailureStreak) : Step :=
  .ask .establish fun
    | .stopped => giveUp
    | .finished (.ok ()) => do
      leave (failures.success.2.map .log)
      p.serve
    | .finished (.error e) => do
      let (failures, loud, lines) := failures.failure
      leave (lines.map .log ++ (if loud then [.log (p.setupFailed e)] else []) ++
        [.count (.reconnect p.broker.statusQueue)])
      .ask (.pause p.settings.reconnectDelay) fun
        | .stopped => giveUp
        | .finished () => .done (.inl (.establishing failures))

def turn (p : WorkerPool) :
    Turn PoolRequest PoolRequest.Answer PoolState (Except JobError Unit)
  | .fresh =>
    if p.broker.totalWorkers = 0 then
      .done (.inr (.error (.config .noJobQueues)))
    else .done (.inl (.establishing (.ofLimit loudAttempts)))
  | .establishing failures => p.establish failures

end WorkerPool

end ImageWorker
