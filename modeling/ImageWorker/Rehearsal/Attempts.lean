import ImageWorker.Flow.Clock
import ImageWorker.Flow.Retry

/-!
# Rehearsing retries

A script says how each attempt of an operation goes; its last entry holds for all further
attempts.
-/

namespace ImageWorker

structure AttemptCue (ε α : Type) where
  /-- Milliseconds until the result. -/
  takes : Nat
  result : Except ε α

/-- What retries meet. -/
structure AttemptScene (ε α : Type) where
  clock : Clock
  script : List (AttemptCue ε α)
  /-- When the attempts began. -/
  starts : List Nat
  notes : List Note

namespace AttemptScene

variable {ε α : Type}

/-- How the next attempt goes; without a script it gives `standard` at once. -/
def cue (s : AttemptScene ε α) (standard : α) : AttemptCue ε α :=
  match s.script[s.starts.length]? with
  | some c => c
  | none => s.script.getLast?.getD ⟨0, .ok standard⟩

def answer (standard : α) : (r : RetryRequest) → StateM (AttemptScene ε α) (r.Answer ε α)
  | .isStopping => do return (← get).clock.isStopped
  | .note n => modify fun s => { s with notes := s.notes ++ [n] }
  | .pause d => modifyGet fun s =>
    let (race, clock) := s.clock.wait d.millis
    (race, { s with clock := clock })
  | .attempt => modifyGet fun s =>
    let cue := s.cue standard
    let (race, clock) := s.clock.wait cue.takes
    let s := { s with starts := s.starts ++ [s.clock.now], clock := clock }
    match race with
    | .finished () => (.finished cue.result, s)
    | .stopped => (.stopped, s)

end AttemptScene

end ImageWorker
