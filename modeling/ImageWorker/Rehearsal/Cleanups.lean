import ImageWorker.Rehearsal.Scene

/-!
# Cleanups beside other work

A scheduled cleanup first runs when somebody waits. It takes its local steps at once and then
waits for the store; a cleanup that is not done at its deadline is given up. Whoever waits for
idleness sees no cleanup pending, or gives up as well.
-/

namespace ImageWorker.Scene

def schedule (s : Scene) (t : CleanupTask) : Scene :=
  { s with
    pending := if s.countsCleanups then s.pending + 1 else s.pending
    cleanups := s.cleanups ++ [⟨t, .scheduled⟩] }

def cleanupEnded (s : Scene) (t : CleanupTask) (ending : CleanupTask.Ending) : Scene :=
  let s := (t.endNotes ending).foldl noted s
  if s.countsCleanups then { s with pending := s.pending - 1 } else s

/-- Runs a cleanup until it is over or has to wait; `deadline` is when it is given up. -/
def carryOn (t : CleanupTask) (deadline : Nat) : CleanupProgram Nat → Scene → Scene
  | .done failures, s => s.cleanupEnded t (.finished failures)
  | .ask (.note n) k, s => carryOn t deadline (k ()) (s.noted n)
  | .ask (.removeFile path) k, s =>
    let (result, s) := s.removeFile path
    carryOn t deadline (k result) s
  | .ask (.deleteObject key) k, s =>
    let (cue, s) := s.beginDelete key
    if cue.takes = 0 then
      let (result, s) := s.endDelete key cue.fault
      carryOn t deadline (k result) s
    else
      { s with cleanups := s.cleanups ++
          [⟨t, .deleting key (s.clock.now + cue.takes) deadline cue.fault k⟩] }

/-- One cleanup does what it can at the present moment. -/
def settleOne (s : Scene) (c : ScheduledCleanup) : Scene :=
  match c.phase with
  | .scheduled => carryOn c.task (s.clock.now + s.cleanupLimit) c.task.perform s
  | .deleting key endsAt deadline fault next =>
    if endsAt ≤ s.clock.now then
      let (result, s) := s.endDelete key fault
      carryOn c.task deadline (next result) s
    else if deadline ≤ s.clock.now then
      s.cleanupEnded c.task (.timedOut (.ofMillis s.cleanupLimit))
    else { s with cleanups := s.cleanups ++ [c] }

/-- Every cleanup does what it can at the present moment. -/
def settle (s : Scene) : Scene := s.cleanups.foldl settleOne { s with cleanups := [] }

def nextMoment (s : Scene) : Option Nat :=
  (s.cleanups.map fun c =>
    match c.phase with
    | .scheduled => s.clock.now
    | .deleting _ endsAt deadline _ _ => min endsAt deadline).min?

/-- Lets time pass up to a moment, in `fuel` steps at most. -/
def passWithin : (fuel : Nat) → (moment : Nat) → Scene → Scene
  | 0, moment, s => { s with clock := s.clock.moveTo moment }
  | fuel + 1, moment, s =>
    let s := s.settle
    match s.nextMoment with
    | none => { s with clock := s.clock.moveTo moment }
    | some next =>
      if next ≤ moment then passWithin fuel moment { s with clock := s.clock.moveTo next }
      else { s with clock := s.clock.moveTo moment }

/-- More steps than cleanups can take: each starts once and ends once. -/
def enoughSteps (s : Scene) : Nat := 2 * s.cleanups.length + 2

def passUntil (s : Scene) (moment : Nat) : Scene := passWithin s.enoughSteps moment s

/-- Waits up to a moment until nothing is pending, in `fuel` steps at most. -/
def waitIdleWithin : (fuel : Nat) → (moment : Nat) → Scene → Bool × Scene
  | 0, moment, s => (false, { s with clock := s.clock.moveTo moment })
  | fuel + 1, moment, s =>
    let s := s.settle
    if s.pending = 0 then (true, s)
    else
      match s.nextMoment with
      | none => (false, { s with clock := s.clock.moveTo moment })
      | some next =>
        if next ≤ moment then waitIdleWithin fuel moment { s with clock := s.clock.moveTo next }
        else (false, { s with clock := s.clock.moveTo moment })

/-- Waits for some milliseconds until nothing is pending; says whether that came about. -/
def waitIdle (s : Scene) (millis : Nat) : Bool × Scene :=
  waitIdleWithin s.enoughSteps (s.clock.now + millis) s

/-- Runs a cleanup to its end while time passes for the others; gives the number of failed
steps. -/
def perform : CleanupProgram Nat → Scene → Nat × Scene
  | .done failures, s => (failures, s)
  | .ask (.note n) k, s => perform (k ()) (s.noted n)
  | .ask (.removeFile path) k, s =>
    let (result, s) := s.removeFile path
    perform (k result) s
  | .ask (.deleteObject key) k, s =>
    let (cue, s) := s.beginDelete key
    let s := if cue.takes = 0 then s else s.passUntil (s.clock.now + cue.takes)
    let (result, s) := s.endDelete key cue.fault
    perform (k result) s

end ImageWorker.Scene
