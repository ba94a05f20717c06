import ImageWorker.Failure.QueueError
import ImageWorker.Flow.Program
import ImageWorker.Report.Note
import ImageWorker.Text.Bytes

/-!
# Links to the broker

A link is a connection with one channel on it. Links are numbered in the order in which they are
opened; nothing is shared between them, and a broken link is closed and replaced by a new one.
-/

namespace ImageWorker

abbrev LinkId := Nat

inductive LinkRequest where
  /-- Open a connection with a name. -/
  | connect (label : String)
  /-- Open the channel of a connection. -/
  | openChannel (link : LinkId)
  /-- Close a connection that has no channel. -/
  | closeConnection (link : LinkId)
  /-- Close the channel and then the connection, as far as they are open. -/
  | close (link : LinkId)
  /-- Can the connection and the channel still carry anything? -/
  | isUsable (link : LinkId)
  /-- Declare a durable exchange that delivers by key. -/
  | declareExchange (link : LinkId) (exchange : String)
  /-- Declare a durable queue. -/
  | declareQueue (link : LinkId) (queue : String)
  | bindQueue (link : LinkId) (queue exchange key : String)
  /-- Have no more than one delivery sent before it is resolved. -/
  | limitPrefetch (link : LinkId)
  /-- Consume a queue with explicit resolutions. -/
  | consume (link : LinkId) (queue : String)
  /-- Publish a lasting message that has to reach a queue. -/
  | publish (link : LinkId) (exchange key : String) (payload : Bytes)
  | note (note : Note)
  deriving DecidableEq, Repr

/-- The answers to these requests; a new consumer is answered by its tag. -/
abbrev LinkRequest.Answer : LinkRequest → Type
  | connect _ => Except LinkError LinkId
  | openChannel _ | closeConnection _ | declareExchange _ _ | declareQueue _ _
  | bindQueue _ _ _ _ | limitPrefetch _ | publish _ _ _ _ => Except LinkError Unit
  | consume _ _ => Except LinkError String
  | close _ | note _ => Unit
  | isUsable _ => Bool

abbrev LinkProgram := Program LinkRequest LinkRequest.Answer

namespace LinkProgram

/-- The failure of the broker as one of the queue. -/
def ofAnswer {α : Type} : Except LinkError α → Except QueueError α
  | .ok a => .ok a
  | .error e => .error (.link e)

/-- Goes on after a success. -/
def andThen {α β : Type} (p : LinkProgram (Except QueueError α))
    (f : α → LinkProgram (Except QueueError β)) : LinkProgram (Except QueueError β) :=
  p.bind fun
    | .ok a => f a
    | .error e => .done (.error e)

/-- Opens a link; a connection on which no channel can be opened is closed. -/
def openLink (label : String) : LinkProgram (Except QueueError LinkId) :=
  .ask (.connect label) fun
    | .error e => .done (.error (.link e))
    | .ok link =>
      .ask (.openChannel link) fun
        | .ok () => .done (.ok link)
        | .error e =>
          .ask (.closeConnection link) fun
            | .ok () => .done (.error (.link e))
            | .error why =>
              .ask (.note (.log (.warn .brokerLink
                ("Failed to close connection after channel error: " ++ why.message) [])))
                fun _ => .done (.error (.link e))

/-- Closes a link after a failure and gives the failure. -/
def closeAfter {α : Type} (link : LinkId) : Except QueueError α → LinkProgram (Except QueueError α)
  | .ok a => .done (.ok a)
  | .error e => .ask (.close link) fun _ => .done (.error e)

def startConsumer (link : LinkId) (queue : String) : LinkProgram (Except QueueError String) :=
  andThen (.ask (.limitPrefetch link) fun a => .done (ofAnswer a)) fun _ =>
    andThen (.ask (.declareQueue link queue) fun a => .done (ofAnswer a)) fun _ =>
      .ask (.consume link queue) fun a => .done (ofAnswer a)

/-- Opens a link and starts to consume a queue on it. -/
def openConsumer (queue label : String) : LinkProgram (Except QueueError LinkId) :=
  andThen (openLink label) fun link =>
    (startConsumer link queue).bind fun started =>
      (closeAfter link started).bind fun
        | .error e => .done (.error e)
        | .ok tag =>
          .ask (.note (.log (.info .brokerLink "Consumer started"
            [("queue", queue), ("consumer", tag)]))) fun _ => .done (.ok link)

end LinkProgram

end ImageWorker
