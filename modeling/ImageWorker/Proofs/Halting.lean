import ImageWorker.Proofs.DeliveryHandling

/-!
# Halting

A consumer that decides to halt tells the broker first what becomes of the delivery. Once the broker
takes that, the consumer takes up no more work. If it does not, the consumer treats the link like
any other that is lost: it opens a new one and takes the next delivery from it.
-/

namespace ImageWorker

open Surroundings ConsumerProgram ConsumerTrace

/-- Whether a consumer that asks this is still at work. -/
def ConsumerRequest.takesUpWork : ConsumerRequest → Bool
  | next _ | process _ | brokerUnlessStopped (.connect _) => true
  | _ => false

/-- Whether the broker could not be told what becomes of a delivery. -/
def ConsumerTrace.failsToSettle : ConsumerExchange → Bool
  | ⟨.resolve _, .error _⟩ => true
  | _ => false

namespace Consumer

variable {c : Consumer}

def Halting (c : Consumer) : Stance → Prop
  | .judged _ _ outcome | .accepted _ _ outcome | .counted _ outcome =>
    (c.decision outcome).halts = true
  | .halted => True
  | .free _ | .taken _ _ | .lost _ => False

theorem Halting.step {s s' : Stance} {r : ConsumerRequest} {answer : r.Answer}
    (halting : c.Halting s) (allowed : Allows c s r answer s')
    (settled : failsToSettle ⟨r, answer⟩ = false) :
    c.Halting s' ∧ r.takesUpWork = false := by
  cases allowed with
  | notes | resolves | counts => exact ⟨halting, rfl⟩
  | halts => exact ⟨trivial, rfl⟩
  | unresolved => exact absurd settled Bool.true_eq_false.mp
  | goesOn continues | breaks continues =>
    exact absurd (continues.symm.trans halting) Bool.false_ne_true
  | _ => exact halting.elim

/-- The status channel broke while a verdict was published. -/
def broken : Outcome := .error (.terminalPublishFailed (.channelClosed "status channel is closed"))

end Consumer

end ImageWorker
