import ImageWorker.Message.Timestamp
import ImageWorker.Message.Transformation

/-!
# Jobs

A delivery holds an envelope around one job. A job is accepted when its identifier and its source
key hold more than blanks; its transformation is resolved only later.
-/

namespace ImageWorker

structure Job where
  /-- The identifier that the upload service assigned. -/
  id : String
  userId : String
  fileName : Option String
  /-- The object key of the raw upload. -/
  sourceKey : String
  publicUrl : Option String
  status : Option String
  /-- The name of the transformation. -/
  transformationType : String
  /-- The parameters of the transformation, a JSON text. -/
  transformationParameters : Option String
  storedUrl : Option String
  createdAt : Option String
  deriving DecidableEq, Repr

namespace Job

def codec : Json.Codec Job :=
  .map
    (.record "ImageJob"
      (.cons "id" .text <| .cons "userId" .text <| .cons "fileName" .optionalText <|
        .cons "s3RawKey" .text <| .cons "publicUrl" .optionalText <| .cons "status" .optionalText <|
        .cons "transformationType" .text <| .cons "transformationParameters" .optionalText <|
        .cons "s3PublicUrl" .optionalText <| .cons "createdAt" .optionalText .nil))
    (fun (id, userId, fileName, sourceKey, publicUrl, status, type, parameters, storedUrl,
        createdAt, _) =>
      ⟨id, userId, fileName, sourceKey, publicUrl, status, type, parameters, storedUrl, createdAt⟩)
    (fun j => (j.id, j.userId, j.fileName, j.sourceKey, j.publicUrl, j.status,
      j.transformationType, j.transformationParameters, j.storedUrl, j.createdAt, ()))

def transformation (j : Job) : Except MessageError Transformation :=
  Transformation.parse j.transformationType (j.transformationParameters.getD "")

/-- When the job was created, if it says so properly. -/
def created? (j : Job) : Option Timestamp := j.createdAt.bind Timestamp.parse?

end Job

/-- A job as it is delivered. -/
structure Envelope where
  pattern : String
  job : Job
  deriving DecidableEq, Repr

namespace Envelope

/-- The two members of an envelope. -/
def codec : Json.Codec Envelope :=
  .map (.record "JobEnvelope" (.cons "pattern" (.textOr "") (.cons "data" Job.codec .nil)))
    (fun (pattern, job, _) => ⟨pattern, job⟩) (fun e => (e.pattern, e.job, ()))

/-- Accepts an envelope whose job can be told apart and found. -/
def check (e : Envelope) : Except MessageError Envelope :=
  if isAllBlank e.job.id then .error (.malformed .emptyId)
  else if isAllBlank e.job.sourceKey then .error (.malformed .emptySourceKey)
  else .ok e

def parse (body : Bytes) : Except MessageError Envelope :=
  match codec.decode body with
  | .error cause => .error (.malformed (.json cause))
  | .ok e => e.check

def toJson (e : Envelope) : Bytes := codec.encode e

end Envelope

end ImageWorker
