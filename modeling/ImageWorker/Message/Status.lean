import ImageWorker.Message.Job

/-!
# Status events

The state of a job is kept elsewhere; the worker only announces changes of it. A job is announced
as taken up, and then at most once as finished or failed.
-/

namespace ImageWorker

inductive JobStatus where
  | processing
  | processed
  | failed
  deriving DecidableEq, Repr

namespace JobStatus

/-- Every state, in the order in which messages list them. -/
def all : List JobStatus := [processing, processed, failed]

def name : JobStatus → String
  | processing => "PROCESSING"
  | processed => "PROCESSED"
  | failed => "FAILED"

def isTerminal : JobStatus → Bool
  | processing => false
  | processed | failed => true

def codec : Json.Codec JobStatus := .variants all name

end JobStatus

/-- Where a job failed, as the status consumer is told. -/
inductive FailureCode where
  | download
  | transform
  | invalidKey
  | upload
  deriving DecidableEq, Repr

namespace FailureCode

def all : List FailureCode := [download, transform, invalidKey, upload]

def name : FailureCode → String
  | download => "download-error"
  | transform => "transform-error"
  | invalidKey => "invalid-key-error"
  | upload => "upload-error"

end FailureCode

/-- An announcement. -/
structure StatusEvent where
  id : String
  userId : String
  status : JobStatus
  publicUrl : String
  errorMessage : String
  deriving DecidableEq, Repr

namespace StatusEvent

def processing (j : Job) : StatusEvent := ⟨j.id, j.userId, .processing, "", ""⟩

/-- A job is finished, and its result is at a URL. -/
def processed (j : Job) (publicUrl : String) : StatusEvent :=
  ⟨j.id, j.userId, .processed, publicUrl, ""⟩

def failed (j : Job) (code : FailureCode) : StatusEvent :=
  ⟨j.id, j.userId, .failed, "", code.name⟩

def codec : Json.Codec StatusEvent :=
  .map
    (.record "StatusEvent"
      (.cons "id" .text <| .cons "userId" .text <| .cons "status" JobStatus.codec <|
        .cons "publicUrl" .text <| .cons "errorMsg" .text .nil))
    (fun (id, userId, status, publicUrl, errorMessage, _) =>
      ⟨id, userId, status, publicUrl, errorMessage⟩)
    (fun e => (e.id, e.userId, e.status, e.publicUrl, e.errorMessage, ()))

end StatusEvent

def statusPattern : String := "status"

structure StatusMessage where
  pattern : String
  event : StatusEvent
  deriving DecidableEq, Repr

namespace StatusMessage

def ofEvent (e : StatusEvent) : StatusMessage := ⟨statusPattern, e⟩

def codec : Json.Codec StatusMessage :=
  .map (.record "StatusMessage" (.cons "pattern" .text (.cons "data" StatusEvent.codec .nil)))
    (fun (pattern, event, _) => ⟨pattern, event⟩) (fun m => (m.pattern, m.event, ()))

def toJson (m : StatusMessage) : Bytes := codec.encode m

end StatusMessage

end ImageWorker
