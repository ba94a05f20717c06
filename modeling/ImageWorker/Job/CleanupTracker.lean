import ImageWorker.Flow.Interleaving
import ImageWorker.Flow.Race
import ImageWorker.Job.Cleanup

/-!
# Counting cleanups

Every scheduled cleanup counts as pending until it is over. The one that brings the count down to
zero wakes those who wait for idleness. A waiter asks for a ticket before it looks at the count,
and a ticket receives every call that comes after it was given, so no call is missed.
-/

namespace ImageWorker

/-- What cleanups and those who wait for them ask for. -/
inductive TrackerRequest where
  /-- Count one more cleanup. -/
  | begin (task : CleanupTask)
  /-- Carry a cleanup out. -/
  | perform (task : CleanupTask)
  | note (note : Note)
  /-- Count one cleanup less, and get the count before. -/
  | decrement
  /-- Wake those who wait. -/
  | notifyWaiters
  /-- Get a ticket. -/
  | subscribe
  /-- How many cleanups are pending? -/
  | pending
  /-- Wait for a call to a ticket, or for the end of one's patience. -/
  | await (ticket : Nat)
  deriving DecidableEq, Repr

abbrev TrackerRequest.Answer : TrackerRequest → Type
  | begin _ | note _ | notifyWaiters => Unit
  | perform _ => CleanupTask.Ending
  | decrement | subscribe | pending => Nat
  | await _ => Race Unit

/-- A computation of a cleanup or a waiter: a waiter looks again, or has its result. -/
abbrev TrackerProgram := Program TrackerRequest TrackerRequest.Answer (Unit ⊕ Bool)

namespace TrackerProgram

def leave (after : TrackerProgram) : List Note → TrackerProgram
  | [] => after
  | n :: ns => .ask (.note n) fun _ => leave after ns

/-- Gives up the place among the pending cleanups. -/
def dropGuard : TrackerProgram :=
  .ask .decrement fun (before : Nat) =>
    if before = 1 then .ask .notifyWaiters fun _ => .done (.inr true)
    else .done (.inr true)

def scheduled (t : CleanupTask) : TrackerProgram :=
  .ask (.begin t) fun _ =>
    .ask (.perform t) fun (ending : CleanupTask.Ending) => leave dropGuard (t.endNotes ending)

def look (_ : Unit) : TrackerProgram :=
  .ask .subscribe fun (ticket : Nat) =>
    .ask .pending fun (count : Nat) =>
      if count = 0 then .done (.inr true)
      else
        .ask (.await ticket) fun
          | .finished () => .done (.inl ())
          | .stopped => .done (.inr false)

end TrackerProgram

structure Tracker where
  pending : Nat
  /-- Whether each ticket has received a call, by its number. -/
  called : List Bool
  notes : List Note
  deriving DecidableEq, Repr

namespace Tracker

/-- Before anything was scheduled. -/
def initial : Tracker := ⟨0, [], []⟩

/-- What may follow a question. A wait only ends by a call to the ticket or with one's patience. -/
def Allows (s : Tracker) : (r : TrackerRequest) → r.Answer → Tracker → Prop
  | .begin _, _, s' => s' = { s with pending := s.pending + 1 }
  | .perform _, _, s' => s' = s
  | .note n, _, s' => s' = { s with notes := n :: s.notes }
  | .decrement, before, s' => before = s.pending ∧ s' = { s with pending := s.pending - 1 }
  | .notifyWaiters, _, s' => s' = { s with called := s.called.map fun _ => true }
  | .subscribe, ticket, s' =>
    ticket = s.called.length ∧ s' = { s with called := s.called ++ [false] }
  | .pending, count, s' => count = s.pending ∧ s' = s
  | .await ticket, .finished (), s' => s.called[ticket]? = some true ∧ s' = s
  | .await _, .stopped, s' => s' = s

/-- The surroundings of cleanups and waiters. -/
def surroundings : Surroundings TrackerRequest TrackerRequest.Answer Tracker :=
  ⟨Allows, fun _ _ => False⟩

end Tracker

end ImageWorker
