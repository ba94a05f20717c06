import ImageWorker.Broker.StatusPublisher

/-!
# Publishing within a limit

A publish is given up when its time is over, wherever it stands; opening a new link counts too. The
locks that it holds then are given back, and nothing else is undone.
-/

namespace ImageWorker

inductive TimedRequest where
  /-- Ask, as long as there is time. -/
  | inTime (request : PublisherRequest)
  /-- Give a lock back after the time is over. -/
  | giveBack (lock : PublisherLock)
  deriving DecidableEq, Repr

/-- The answers to these requests; there is none when the time is over first. -/
abbrev TimedRequest.Answer : TimedRequest → Type
  | inTime r => Option r.Answer
  | giveBack _ => Unit

abbrev TimedProgram := Program TimedRequest TimedRequest.Answer

/-- The locks that are held after a question of a publisher. -/
def PublisherRequest.heldAfter (held : List PublisherLock) : PublisherRequest → List PublisherLock
  | acquire lock => lock :: held
  | release lock => held.erase lock
  | _ => held

namespace TimedProgram

/-- Gives locks back, the latest first, and ends without a result. -/
def giveUp {α : Type} : List PublisherLock → TimedProgram (Option α)
  | [] => .done none
  | lock :: held => .ask (.giveBack lock) fun _ => giveUp held

/-- A computation of a publisher that is given up when the time is over. -/
def ofPublisher {α : Type} (held : List PublisherLock) :
    PublisherProgram α → TimedProgram (Option α)
  | .done a => .done (some a)
  | .ask r k =>
    .ask (.inTime r) fun
      | some answer => ofPublisher (r.heldAfter held) (k answer)
      | none => giveUp held

end TimedProgram

def StatusRoute.publishWithin (r : StatusRoute) (limit : Duration) (event : StatusEvent) :
    TimedProgram (Except QueueError Unit) :=
  (TimedProgram.ofPublisher [] (r.publish event)).bind fun
    | some result => .done result
    | none => .done (.error (.publishTimeout limit))

end ImageWorker
