import ImageWorker.Failure.IoClass
import ImageWorker.Json.Error
import ImageWorker.Text.Duration

/-!
# Failures of the message broker
-/

namespace ImageWorker

/-- A failure of the connection to the broker. -/
inductive LinkError where
  | io (cause : IoError)
  | channelsLimitReached
  | invalidProtocolVersion (version : String)
  | invalidChannel (number : Nat)
  | invalidChannelState (state : String)
  | invalidConnectionState (state : String)
  | serialisation (why : String)
  | parsing (why : String)
  | missingHeartbeat
  /-- The broker closed the channel or the connection. -/
  | closedByBroker (why : String)
  deriving DecidableEq, Repr

namespace LinkError

def message : LinkError → String
  | io cause => "IO error: " ++ cause.message
  | channelsLimitReached =>
    "the maximum number of channels for this connection has been reached"
  | invalidProtocolVersion version => "the server only supports AMQP " ++ version
  | invalidChannel number => "invalid channel: " ++ toString number
  | invalidChannelState state => "invalid channel state: " ++ state
  | invalidConnectionState state => "invalid connection state: " ++ state
  | serialisation why => "failed to serialise: " ++ why
  | parsing why => "failed to parse: " ++ why
  | missingHeartbeat => "no heartbeat received from server for too long"
  | closedByBroker why => "protocol error: " ++ why

/-- A lost connection may come back by itself, bad bytes stay bad, and in every other state the
channel or the connection is of no more use. -/
def errorClass : LinkError → ErrorClass
  | io cause =>
    match cause.kind with
    | .timedOut | .connectionReset | .interrupted => .transient
    | _ => .fatal
  | parsing _ | serialisation _ => .permanent
  | _ => .fatal

end LinkError

/-- What is wrong with the settings of the broker. -/
inductive BrokerConfigFault where
  | unset (name : String)
  | invalidWorkerCount (entry : String)
  | emptyQueueName (entry : String)
  | noWorkers (queue : String)
  | noQueues
  | other (why : String)
  deriving DecidableEq, Repr

def BrokerConfigFault.message : BrokerConfigFault → String
  | unset name => name ++ " not set"
  | invalidWorkerCount entry => "invalid worker count in '" ++ entry ++ "'"
  | emptyQueueName entry => "empty queue name in '" ++ entry ++ "'"
  | noWorkers queue => "queue '" ++ queue ++ "' needs at least one worker"
  | noQueues => "no queues configured"
  | other why => why

inductive QueueError where
  | config (why : BrokerConfigFault)
  | notReady (why : String)
  | channelClosed (why : String)
  | publishTimeout (limit : Duration)
  | serialization (cause : Json.Error)
  | link (cause : LinkError)
  deriving DecidableEq, Repr

namespace QueueError

def message : QueueError → String
  | config why => "Invalid broker configuration: " ++ why.message
  | notReady why => "Status publisher not ready: " ++ why
  | channelClosed why => "Channel closed: " ++ why
  | publishTimeout limit => "Publish timed out after " ++ limit.text
  | serialization cause => "Serialization error: " ++ cause.message
  | link cause => "AMQP error: " ++ cause.message

/-- A closed channel is fatal; a publisher that is not ready or slow may be ready later. -/
def errorClass : QueueError → ErrorClass
  | notReady _ | publishTimeout _ => .transient
  | channelClosed _ => .fatal
  | config _ | serialization _ => .permanent
  | link cause => cause.errorClass

end QueueError

end ImageWorker
