import ImageWorker.Failure.IoClass

/-!
# Failures of the object store
-/

namespace ImageWorker

inductive StorageError where
  | config (why : String)
  | notFound (key : String)
  | timeout (what : String)
  | connection (why : String)
  | credentialsRejected (why : String)
  | uploadFailed (why : String)
  | downloadFailed (why : String)
  | deleteFailed (why : String)
  | presignFailed (why : String)
  | invalidKey (why : String)
  | io (cause : IoError)
  /-- Any other refusal by the service. -/
  | service (why : String)
  deriving DecidableEq, Repr

namespace StorageError

def message : StorageError → String
  | config why => "Failed to configure storage client: " ++ why
  | notFound key => "Object not found: " ++ key
  | timeout what => "Timed out: " ++ what
  | connection why => "Connection failed: " ++ why
  | credentialsRejected why => "Credentials rejected: " ++ why
  | uploadFailed why => "Upload failed: " ++ why
  | downloadFailed why => "Download failed: " ++ why
  | deleteFailed why => "Delete failed: " ++ why
  | presignFailed why => "Presign failed: " ++ why
  | invalidKey why => "Invalid key: " ++ why
  | io cause => "IO error: " ++ cause.message
  | service why => "AWS SDK error: " ++ why

/-- Timeouts and lost connections pass, rejected credentials concern the host. -/
def errorClass : StorageError → ErrorClass
  | timeout _ | connection _ => .transient
  | credentialsRejected _ => .fatal
  | io cause => cause.errorClass
  | _ => .permanent

end StorageError

end ImageWorker
