import ImageWorker.Flow.Program
import ImageWorker.Flow.Race
import ImageWorker.Report.Note
import ImageWorker.Text.Duration

/-!
# Retrying with a fixed pause

An operation is attempted until it succeeds or a fixed number of attempts is used up, with the
same pause after each failure but the last. Attempts and pauses give way to shutdown.
-/

namespace ImageWorker

/-- How often and how slowly an operation is retried. -/
structure RetryPolicy where
  /-- How many attempts there are, the first one included. -/
  attempts : Nat
  delay : Duration
  /-- How notes name the operation. -/
  operation : String
  deriving DecidableEq, Repr

namespace RetryPolicy

/-- Three attempts two seconds apart. -/
def ofOperation (operation : String) : RetryPolicy := ⟨3, .ofSeconds 2, operation⟩

/-- The policy with another number of attempts, at least one. -/
def withAttempts (p : RetryPolicy) (n : Nat) : RetryPolicy := { p with attempts := max n 1 }

def withDelay (p : RetryPolicy) (d : Duration) : RetryPolicy := { p with delay := d }

def named (p : RetryPolicy) (operation : String) : RetryPolicy := { p with operation := operation }

/-- How many attempts are made at most. -/
def limit (p : RetryPolicy) : Nat := max p.attempts 1

end RetryPolicy

/-- What came of an operation. -/
inductive RetryOutcome (ε α : Type) where
  | success (value : α)
  /-- Every attempt failed; the error is that of the last one. -/
  | failed (error : ε) (attempts : Nat)
  /-- Shutdown came first. -/
  | cancelled (attempts : Nat)
  deriving DecidableEq, Repr

def RetryOutcome.isSuccess {ε α : Type} : RetryOutcome ε α → Bool
  | success _ => true
  | failed _ _ | cancelled _ => false

inductive RetryRequest where
  /-- Has shutdown fired? -/
  | isStopping
  | attempt
  | pause (delay : Duration)
  | note (note : Note)
  deriving DecidableEq, Repr

abbrev RetryRequest.Answer (ε α : Type) : RetryRequest → Type
  | isStopping => Bool
  | attempt => Race (Except ε α)
  | pause _ => Race Unit
  | note _ => Unit

/-- The warning about a failed attempt that is not the last one. -/
def RetryPolicy.warning (p : RetryPolicy) (attempt : Nat) (error : String) : LogLine :=
  .warn .retry
    (p.operation ++ " failed (" ++ toString attempt ++ "/" ++ toString p.limit ++
      "), next try in " ++ p.delay.text ++ ": " ++ error) []

/-- One attempt after `made` others, unless shutdown has fired; `next` follows a failure. -/
def attemptOnce {ε α : Type} (made : Nat)
    (next : ε → Program RetryRequest (RetryRequest.Answer ε α) (RetryOutcome ε α)) :
    Program RetryRequest (RetryRequest.Answer ε α) (RetryOutcome ε α) :=
  .ask .isStopping fun (stopping : Bool) =>
    if stopping then .done (.cancelled made)
    else
      .ask .attempt fun
        | .stopped => .done (.cancelled (made + 1))
        | .finished (.ok value) => .done (.success value)
        | .finished (.error e) => next e

/-- Attempts an operation after `made` attempts, and at most `left` times more after that. -/
def retryFrom {ε α : Type} (text : ε → String) (p : RetryPolicy) :
    (made left : Nat) → Program RetryRequest (RetryRequest.Answer ε α) (RetryOutcome ε α)
  | made, 0 => attemptOnce made fun e => .done (.failed e (made + 1))
  | made, left + 1 =>
    attemptOnce made fun e =>
      .ask (.note (.log (p.warning (made + 1) (text e)))) fun _ =>
        .ask (.note (.count (.storageRetry p.operation))) fun _ =>
          .ask (.pause p.delay) fun
            | .stopped => .done (.cancelled (made + 1))
            | .finished () => retryFrom text p (made + 1) left

/-- Attempts an operation until it succeeds or the attempts are used up. -/
def retry {ε α : Type} (text : ε → String) (p : RetryPolicy) :
    Program RetryRequest (RetryRequest.Answer ε α) (RetryOutcome ε α) :=
  retryFrom text p 0 (p.limit - 1)

end ImageWorker
