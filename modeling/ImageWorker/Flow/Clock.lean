import ImageWorker.Flow.Race

/-!
# Time with a shutdown moment

Time is counted in milliseconds and only moves when somebody waits. Shutdown fires at a fixed
moment or never; a wait that gives way to it ends at that moment.
-/

namespace ImageWorker

/-- The present moment and the one at which shutdown fires. -/
structure Clock where
  now : Nat
  stopAt : Option Nat
  deriving DecidableEq, Repr

namespace Clock

def start (stopAt : Option Nat) : Clock := ⟨0, stopAt⟩

def isStopped (c : Clock) : Bool := c.stopAt.any (· ≤ c.now)

/-- Moves to a moment; time never goes back. -/
def moveTo (c : Clock) (moment : Nat) : Clock := { c with now := max c.now moment }

/-- Waits, whether shutdown fires or not. -/
def pass (c : Clock) (millis : Nat) : Clock := { c with now := c.now + millis }

/-- Waits, unless shutdown fires before the time is over. -/
def wait (c : Clock) (millis : Nat) : Race Unit × Clock :=
  match c.stopAt with
  | none => (.finished (), c.pass millis)
  | some moment =>
    if moment < c.now + millis then (.stopped, c.moveTo moment)
    else (.finished (), c.pass millis)

end Clock

end ImageWorker
