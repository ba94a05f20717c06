import ImageWorker.Json.Codec

/-!
# Retry classes

Every failure belongs to one of three classes, and the class is all that a later decision about
the message looks at.
-/

namespace ImageWorker

/-- How a failure is treated when the message is resolved. -/
inductive ErrorClass where
  /-- Short-lived trouble; the message may be delivered again. -/
  | transient
  /-- Trouble of the host or the broker that no further attempt at this message can mend. -/
  | fatal
  /-- Everything else; the message is discarded. -/
  | permanent
  deriving DecidableEq, Repr

namespace ErrorClass

/-- Every class, in the order in which messages list them. -/
def all : List ErrorClass := [transient, fatal, permanent]

def name : ErrorClass → String
  | transient => "transient"
  | fatal => "fatal"
  | permanent => "permanent"

def isTransient (c : ErrorClass) : Bool := c == transient

/-- Whether the failure is one of the host or the broker. -/
def isFatal (c : ErrorClass) : Bool := c == fatal

def codec : Json.Codec ErrorClass := .variants all name

end ErrorClass

end ImageWorker
