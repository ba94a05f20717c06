import ImageWorker.Report.Log

/-!
# Keeping an outage out of the log

Only the first failures of a streak are logged. When the limit is passed this is said once, and
when a success ends such a streak it says how long the streak was.
-/

namespace ImageWorker

/-- How many failures came in a row, and how many of them are logged. -/
structure FailureStreak where
  count : Nat
  loudLimit : Nat
  deriving DecidableEq, Repr

namespace FailureStreak

def ofLimit (loudLimit : Nat) : FailureStreak := ⟨0, loudLimit⟩

/-- The streak after a success, and the line about its end. -/
def success (s : FailureStreak) : FailureStreak × List LogLine :=
  ({ s with count := 0 },
    if s.loudLimit < s.count then
      [.info .retry ("Connection restored after " ++ toString s.count ++ " failed attempts") []]
    else [])

/-- The streak after one more failure, whether the failure is to be logged, and the line about
falling silent. -/
def failure (s : FailureStreak) : FailureStreak × Bool × List LogLine :=
  let count := s.count + 1
  ({ s with count := count }, count ≤ s.loudLimit,
    if count = s.loudLimit + 1 then
      [.warn .retry (toString s.loudLimit ++
        " connection attempts failed in a row, logging only recovery from now on") []]
    else [])

end FailureStreak

end ImageWorker
