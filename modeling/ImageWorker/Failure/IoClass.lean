import ImageWorker.Failure.ErrorClass
import ImageWorker.Failure.IoError

/-!
# The class of a host failure

A full disk and exhausted memory concern the host and not the message, timeouts and resets pass,
and anything else stays as it is.
-/

namespace ImageWorker

/-- The class of a failed call to the operating system. A full disk is known by its number, all
others by their kind. -/
def IoError.errorClass (e : IoError) : ErrorClass :=
  if e = IoError.noSpace then .fatal
  else
    match e.kind with
    | .outOfMemory => .fatal
    | .timedOut | .connectionReset | .interrupted => .transient
    | _ => .permanent

end ImageWorker
