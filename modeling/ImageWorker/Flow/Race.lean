/-!
# Giving way to shutdown

Some questions are asked only as long as shutdown has not fired: then either the answer comes
first or shutdown does, and the answer is not waited for.
-/

namespace ImageWorker

/-- What came first, an answer or shutdown. -/
inductive Race (α : Type) where
  | finished (answer : α)
  | stopped
  deriving DecidableEq, Repr

end ImageWorker
