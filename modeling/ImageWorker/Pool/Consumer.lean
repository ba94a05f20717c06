import ImageWorker.Broker.Link
import ImageWorker.Flow.FailureStreak
import ImageWorker.Flow.Loop
import ImageWorker.Flow.Race
import ImageWorker.Job.Resolution
import ImageWorker.Pool.Settings

/-!
# The consumers of a queue

A consumer opens a link and takes one delivery after the other: it has the job processed, tells
the broker what becomes of the message, and goes on with the same link as long as it works. It
ends when shutdown fires, or once a decision to halt has been carried out.
-/

namespace ImageWorker

/-- A message that the broker handed over, and what it calls the delivery. -/
structure Delivery where
  tag : Nat
  body : Bytes
  deriving DecidableEq, Repr

/-- How the broker is told to settle deliveries: the one with a tag, or all up to it. -/
inductive Settlement where
  | ack (tag : Nat) (multiple : Bool)
  | nack (tag : Nat) (multiple requeue : Bool)
  deriving DecidableEq, Repr

/-- How a delivery is settled; no other is settled with it. -/
def Delivery.settle (d : Delivery) : Decision → Settlement
  | .ack => .ack d.tag false
  | .nack requeue | .halt requeue => .nack d.tag false requeue

inductive ConsumerRequest where
  /-- Has shutdown fired? -/
  | isStopping
  /-- Ask the broker, unless shutdown comes first. -/
  | brokerUnlessStopped (request : LinkRequest)
  | broker (request : LinkRequest)
  /-- Wait for the next delivery. -/
  | next (link : LinkId)
  /-- Process the body of a delivery. -/
  | process (body : Bytes)
  /-- Tell the broker what becomes of a delivery. -/
  | resolve (settlement : Settlement)
  | pause (delay : Duration)
  deriving DecidableEq, Repr

/-- The answers to these requests; there is no next delivery when the broker ends the consumer. -/
abbrev ConsumerRequest.Answer : ConsumerRequest → Type
  | isStopping => Bool
  | brokerUnlessStopped r => Race r.Answer
  | broker r => r.Answer
  | next _ => Race (Option (Except LinkError Delivery))
  | process _ => Outcome
  | resolve _ => Except LinkError Unit
  | pause _ => Race Unit

abbrev ConsumerProgram := Program ConsumerRequest ConsumerRequest.Answer

namespace ConsumerProgram

/-- Asks the broker, and gives the rest up when shutdown comes first. -/
def unlessStopped {α : Type} : LinkProgram α → ConsumerProgram (Race α)
  | .done a => .done (.finished a)
  | .ask r k =>
    .ask (.brokerUnlessStopped r) fun
      | .finished a => unlessStopped (k a)
      | .stopped => .done .stopped

def leave : List Note → ConsumerProgram Unit
  | [] => .done ()
  | n :: ns => .ask (.broker (.note n)) fun _ => leave ns

end ConsumerProgram

/-- How many failed attempts in a row are logged. -/
def loudAttempts : Nat := 3

structure Consumer where
  queue : String
  label : String
  settings : PoolSettings
  deriving DecidableEq, Repr

/-- Where a consumer is between two turns. -/
inductive ConsumerState where
  /-- Without a link. -/
  | apart (failures : FailureStreak)
  | linked (failures : FailureStreak) (link : LinkId)
  deriving DecidableEq, Repr

inductive ConsumerEnd where
  | stopped
  | halted
  deriving DecidableEq, Repr

def Decision.text : Decision → String
  | ack => "Ack"
  | nack requeue => "Nack \x7b requeue: " ++ toString requeue ++ " \x7d"
  | halt requeue => "Halt \x7b requeue: " ++ toString requeue ++ " \x7d"

namespace Consumer

open ConsumerProgram

/-- A turn ends with the next state or the end of the consumer. -/
abbrev Step := ConsumerProgram (ConsumerState ⊕ ConsumerEnd)

/-- Waits and goes on, or ends when shutdown comes first. -/
def pauseThen (delay : Duration) (state : ConsumerState) : Step :=
  .ask (.pause delay) fun
    | .finished () => .done (.inl state)
    | .stopped => .done (.inr .stopped)

/-- What is logged when no link could be opened. -/
def setupFailed (c : Consumer) (e : QueueError) : LogLine :=
  .warn .pool
    ("Consumer setup failed, retrying in " ++ c.settings.reconnectDelay.text ++ ": " ++ e.message)
    [("worker", c.label)]

def connect (c : Consumer) (failures : FailureStreak) : Step :=
  .ask .isStopping fun (stopping : Bool) =>
    if stopping then .done (.inr .stopped)
    else do
      match ← unlessStopped (LinkProgram.openConsumer c.queue c.label) with
      | .stopped => return .inr .stopped
      | .finished (.ok link) =>
        let (failures, lines) := failures.success
        leave (lines.map .log)
        return .inl (.linked failures link)
      | .finished (.error e) =>
        let (failures, loud, lines) := failures.failure
        leave (lines.map .log ++ (if loud then [.log (c.setupFailed e)] else []) ++
          [.count (.reconnect c.queue)])
        pauseThen c.settings.reconnectDelay (.apart failures)

/-- Closes a link that is lost and waits before the next one is opened. -/
def lose (c : Consumer) (failures : FailureStreak) (link : LinkId) : Step :=
  .ask (.broker (.close link)) fun _ => do
    leave [.count (.reconnect c.queue)]
    pauseThen c.settings.channelClosedPause (.apart failures)

def loseWith (c : Consumer) (failures : FailureStreak) (link : LinkId) (text : String) : Step := do
  leave [.log (.warn .pool text [("worker", c.label)])]
  c.lose failures link

/-- What is logged about the outcome of a delivery. -/
def outcomeNotes (c : Consumer) (outcome : Outcome) (d : Decision) : List Note :=
  match outcome with
  | .ok _ => []
  | .error e =>
    if e.errorClass.isFatal then
      [.log (.error .pool ("Fatal error: " ++ e.text)
        [("worker", c.label), ("decision", d.text)])]
    else
      [.log (.warn .pool ("Delivery not processed: " ++ e.text)
        [("worker", c.label), ("decision", d.text), ("class", e.errorClass.name)])]

/-- Processes a delivery and resolves it. -/
def handle (c : Consumer) (failures : FailureStreak) (link : LinkId) (d : Delivery) : Step :=
  .ask (.process d.body) fun (outcome : Outcome) => do
    let decision := Decision.ofOutcome c.settings.fatalPolicy outcome
    leave (c.outcomeNotes outcome decision)
    .ask (.resolve (d.settle decision)) fun
      | .error e => c.loseWith failures link ("Failed to resolve delivery: " ++ e.message)
      | .ok () => do
        leave [.count (.delivery c.queue decision.resolution)]
        if decision.halts then
          .ask (.broker (.close link)) fun _ => do
            leave [.log (.error .pool
              "Worker halted after a fatal error; operator attention required"
              [("worker", c.label), ("queue", c.queue)])]
            return .inr .halted
        else
          .ask (.broker (.isUsable link)) fun (usable : Bool) =>
            if usable then .done (.inl (.linked failures link)) else c.lose failures link

def consume (c : Consumer) (failures : FailureStreak) (link : LinkId) : Step :=
  .ask (.next link) fun
    | .stopped => .ask (.broker (.close link)) fun _ => .done (.inr .stopped)
    | .finished (some (.ok d)) => c.handle failures link d
    | .finished (some (.error e)) => c.loseWith failures link ("Consumer error: " ++ e.message)
    | .finished none => c.loseWith failures link "Consumer closed by broker"

def turn (c : Consumer) :
    Turn ConsumerRequest ConsumerRequest.Answer ConsumerState ConsumerEnd
  | .apart failures => c.connect failures
  | .linked failures link => c.consume failures link

def start : ConsumerState := .apart (.ofLimit loudAttempts)

end Consumer

end ImageWorker
