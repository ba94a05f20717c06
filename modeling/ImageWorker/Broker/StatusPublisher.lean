import ImageWorker.Broker.Link
import ImageWorker.Flow.Interleaving
import ImageWorker.Message.Status
import ImageWorker.Settings.Broker

/-!
# Publishing statuses

Statuses go out on a link of their own, which all publishers share. A publish that finds the link
broken removes it and fails; the next one finds none and opens a new one, if there has ever been
one. Only one publisher at a time opens a link, and those that waited for it use what it opened.
Whoever puts a link in place or takes it away holds the lock of the place meanwhile.
-/

namespace ImageWorker

structure StatusRoute where
  exchange : String
  routingKey : String
  queue : String
  deriving DecidableEq, Repr

def BrokerSettings.statusRoute (s : BrokerSettings) : StatusRoute :=
  ⟨s.statusExchange, s.statusRoutingKey, s.statusQueue⟩

/-- What a publisher finds in the place of the link. -/
inductive LinkState where
  | usable (link : LinkId)
  | broken
  | missing
  deriving DecidableEq, Repr

inductive PublisherLock where
  /-- Held by whoever changes the link in its place. -/
  | place
  /-- Held by whoever opens a link. -/
  | reconnect
  deriving DecidableEq, Repr

inductive PublisherRequest where
  | broker (request : LinkRequest)
  /-- What is in the place of the link? -/
  | observe
  /-- Has there ever been a link? -/
  | wasEstablished
  | setEstablished
  | acquire (lock : PublisherLock)
  | release (lock : PublisherLock)
  /-- Put a link into its place and get the one that was there. -/
  | replace (link : LinkId)
  /-- Take the link out of its place. -/
  | take
  deriving DecidableEq, Repr

abbrev PublisherRequest.Answer : PublisherRequest → Type
  | broker r => r.Answer
  | observe => LinkState
  | wasEstablished => Bool
  | setEstablished | acquire _ | release _ => Unit
  | replace _ | take => Option LinkId

abbrev PublisherProgram := Program PublisherRequest PublisherRequest.Answer

namespace PublisherProgram

def ofLink {α : Type} (p : LinkProgram α) : PublisherProgram α :=
  p.translate fun r => .ask (.broker r) .done

def holding {α : Type} (lock : PublisherLock) (p : PublisherProgram α) : PublisherProgram α :=
  .ask (.acquire lock) fun _ =>
    p.bind fun a => .ask (.release lock) fun _ => .done a

def log (line : LogLine) : PublisherProgram Unit :=
  .ask (.broker (.note (.log line))) fun _ => .done ()

def closeLink (link : LinkId) : PublisherProgram Unit :=
  .ask (.broker (.close link)) fun _ => .done ()

end PublisherProgram

namespace StatusRoute

open PublisherProgram

def label : String := "imgflow-status"

/-- Declares the exchange, the queue and how they are bound. -/
def declareOn (r : StatusRoute) (link : LinkId) : LinkProgram (Except QueueError Unit) :=
  LinkProgram.andThen
    (.ask (.declareExchange link r.exchange) fun a => .done (LinkProgram.ofAnswer a)) fun _ =>
    LinkProgram.andThen
      (.ask (.declareQueue link r.queue) fun a => .done (LinkProgram.ofAnswer a)) fun _ =>
      .ask (.bindQueue link r.queue r.exchange r.routingKey) fun a =>
        .done (LinkProgram.ofAnswer a)

def openDeclared (r : StatusRoute) : LinkProgram (Except QueueError LinkId) :=
  LinkProgram.andThen (LinkProgram.openLink label) fun link =>
    (r.declareOn link).bind fun declared =>
      (LinkProgram.closeAfter link declared).bind fun
        | .error e => .done (.error e)
        | .ok () => .done (.ok link)

/-- Opens a link and puts it into its place; the caller holds the reconnect lock. -/
def openInPlace (r : StatusRoute) : PublisherProgram (Except QueueError Unit) := do
  match ← ofLink r.openDeclared with
  | .error e => return .error e
  | .ok link =>
    let previous ← holding .place (.ask (.replace link) .done)
    match previous with
    | some old => closeLink old
    | none => pure ()
    .ask .setEstablished fun _ =>
      (log (.info .statusPublisher "Status publisher ready"
        [("exchange", r.exchange), ("queue", r.queue), ("routing_key", r.routingKey)])).bind
        fun _ => .done (.ok ())

def establish (r : StatusRoute) : PublisherProgram (Except QueueError Unit) :=
  holding .reconnect r.openInPlace

/-- Takes the link out of its place and closes it, and says so if there was one. -/
def discard (line : Option LogLine) : PublisherProgram Unit :=
  holding .place <|
    .ask .take fun
      | none => .done ()
      | some link =>
        match line with
        | none => closeLink link
        | some line => (log line).bind fun _ => closeLink link

def shut : PublisherProgram Unit := discard none

/-- Opens a link unless another publisher has done so meanwhile. -/
def reconnect (r : StatusRoute) : PublisherProgram (Except QueueError LinkId) :=
  holding .reconnect <|
    .ask .observe fun
      | .usable link => .done (.ok link)
      | .broken | .missing => do
        match ← r.openInPlace with
        | .error e => return .error e
        | .ok () =>
          .ask .observe fun
            | .usable link => .done (.ok link)
            | .broken | .missing =>
              .done (.error (.channelClosed "status link lost right after reconnect"))

def findLink (r : StatusRoute) : PublisherProgram (Except QueueError LinkId) :=
  .ask .observe fun
    | .usable link => .done (.ok link)
    | .missing =>
      .ask .wasEstablished fun (established : Bool) =>
        if established then r.reconnect
        else .done (.error (.notReady "status channel has not been established"))
    | .broken => do
      discard (some (.warn .statusPublisher
        "Status channel closed; will reconnect on next publish" []))
      return .error (.channelClosed "status channel is closed")

def publish (r : StatusRoute) (event : StatusEvent) :
    PublisherProgram (Except QueueError Unit) := do
  match ← r.findLink with
  | .error e => return .error e
  | .ok link =>
    .ask (.broker (.publish link r.exchange r.routingKey (StatusMessage.ofEvent event).toJson))
      fun a => .done (LinkProgram.ofAnswer a)

def isReady : PublisherProgram Bool :=
  .ask .observe fun
    | .usable _ => .done true
    | .broken | .missing => .done false

end StatusRoute

end ImageWorker
