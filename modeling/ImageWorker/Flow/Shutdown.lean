/-!
# The shutdown signal

One side triggers, any number of others watch. A trigger that is given up without having fired
never fires, and whoever waits for it waits forever.
-/

namespace ImageWorker

/-- The state that the two sides share. -/
inductive Signal where
  /-- Not fired yet. -/
  | armed
  | fired
  /-- Given up before it fired. -/
  | dropped
  deriving DecidableEq, Repr

namespace Signal

/-- Fires, unless the trigger is gone. -/
def trigger : Signal → Signal
  | armed => fired
  | fired => fired
  | dropped => dropped

/-- Gives the trigger up. -/
def drop : Signal → Signal
  | armed => dropped
  | fired => fired
  | dropped => dropped

def isTriggered (s : Signal) : Bool := s == fired

end Signal

end ImageWorker
