import ImageWorker.Job.Pipeline
import ImageWorker.Settings.Worker

/-!
# How a delivery is resolved

The outcome of a job and the policy for fatal failures decide what the broker is told, and whether
the worker goes on. A job whose last status was attempted has had its cleanup scheduled, so it is
never put back.
-/

namespace ImageWorker

/-- What the broker is told about a delivery. -/
inductive Decision where
  | ack
  | nack (requeue : Bool)
  /-- Like `nack`, and the worker stops. -/
  | halt (requeue : Bool)
  deriving DecidableEq, Repr

namespace Decision

def resolution : Decision → String
  | ack => "ack"
  | nack true | halt true => "requeue"
  | nack false | halt false => "reject"

def halts : Decision → Bool
  | halt _ => true
  | ack | nack _ => false

def requeues : Decision → Bool
  | ack => false
  | nack requeue | halt requeue => requeue

end Decision

/-- What the broker is told about a delivery with a given outcome. -/
def Decision.ofOutcome (policy : FatalPolicy) : Outcome → Decision
  | .ok _ => .ack
  | .error (.rejected _ requeue _) => .nack requeue
  | .error (.terminalPublishFailed _) =>
    match policy with
    | .proceed => .nack false
    | .halt => .halt false
  | .error e =>
    match e.errorClass with
    | .transient => .nack true
    | .permanent => .nack false
    | .fatal =>
      match policy with
      | .proceed => .nack false
      | .halt => .halt true

end ImageWorker
