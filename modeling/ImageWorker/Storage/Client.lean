import ImageWorker.Flow.Program
import ImageWorker.Report.Note
import ImageWorker.Storage.PublicUrl

/-!
# The client of the object store

Each operation sends one request and waits for it no longer than its limit. A request may fail
without an answer, or be refused with a code: some codes mean that there is no such object, some
that the credentials are no good, and all others are failures of the operation itself.
-/

namespace ImageWorker

/-- Why a request to the store failed. -/
inductive ServiceFailure where
  /-- It could not be sent off or the answer did not come, for lack of a connection. -/
  | unreachable (why : String)
  | timedOut (why : String)
  /-- The store refused it, with a code if there was one. -/
  | refused (code : Option String) (why : String)
  deriving DecidableEq, Repr

/-- Codes of the store for an object that does not exist. -/
def missingCodes : List String := ["NoSuchKey", "NotFound"]

/-- Codes of the store for credentials that it does not take. -/
def credentialCodes : List String :=
  ["AccessDenied", "InvalidAccessKeyId", "SignatureDoesNotMatch", "ExpiredToken", "InvalidToken"]

/-- The failure of an operation on a key; `otherwise` is the failure of the operation itself. -/
def ServiceFailure.toStorageError (key : String) (otherwise : String → StorageError) :
    ServiceFailure → StorageError
  | timedOut why => .timeout why
  | unreachable why => .connection why
  | refused none why => otherwise why
  | refused (some code) why =>
    if missingCodes.contains code then .notFound key
    else if credentialCodes.contains code then .credentialsRejected why
    else otherwise why

inductive StoreRequest where
  | get (key : String) (limit : Duration)
  | put (key : String) (content : Bytes) (contentType : String) (limit : Duration)
  | delete (key : String) (limit : Duration)
  | head (bucket : String) (limit : Duration)
  | note (note : Note)
  deriving DecidableEq, Repr

/-- The answers to these requests; there is none when the limit comes first. -/
abbrev StoreRequest.Answer : StoreRequest → Type
  | get _ _ => Option (Except ServiceFailure Bytes)
  | put _ _ _ _ | delete _ _ | head _ _ => Option (Except ServiceFailure Unit)
  | note _ => Unit

abbrev StoreProgram := Program StoreRequest StoreRequest.Answer

namespace StoreSettings

/-- The failure of an operation that took too long. -/
def exceeded (operation key : String) (limit : Duration) : StorageError :=
  .timeout (operation ++ " " ++ key ++ " exceeded " ++ limit.text)

/-- The result of an operation from the answer to its request. -/
def settleAnswer {α : Type} (operation key : String) (limit : Duration)
    (otherwise : String → StorageError) :
    Option (Except ServiceFailure α) → Except StorageError α
  | none => .error (exceeded operation key limit)
  | some (.error e) => .error (e.toStorageError key otherwise)
  | some (.ok a) => .ok a

/-- The wording for a request that cannot be put together. -/
def unsendable : String := "failed to construct request"

def download (s : StoreSettings) (key : String) : StoreProgram (Except StorageError Bytes) :=
  if isNameable key then
    .ask (.get key s.downloadTimeout) fun a =>
      .done (settleAnswer "download" key s.downloadTimeout .downloadFailed a)
  else .done (.error (.downloadFailed unsendable))

/-- Stores an object and gives its public URL. -/
def upload (s : StoreSettings) (content : Bytes) (key contentType : String) :
    StoreProgram (Except StorageError String) :=
  if isNameable key then
    .ask (.put key content contentType s.uploadTimeout) fun a =>
      match settleAnswer "upload" key s.uploadTimeout .uploadFailed a with
      | .error e => .done (.error e)
      | .ok () =>
        match s.publicUrl key with
        | .error e => .done (.error e)
        | .ok url =>
          .ask (.note (.log (.info .objectStore
            ("Uploaded " ++ toString content.length ++ " bytes to " ++ key) []))) fun _ =>
              .done (.ok url)
  else .done (.error (.uploadFailed unsendable))

def remove (s : StoreSettings) (key : String) : StoreProgram (Except StorageError Unit) :=
  if key = "" then .done (.error (.invalidKey "key cannot be empty"))
  else if isNameable key then
    .ask (.delete key s.deleteTimeout) fun a =>
      .done (settleAnswer "delete" key s.deleteTimeout .deleteFailed a)
  else .done (.error (.deleteFailed unsendable))

def check (s : StoreSettings) : StoreProgram (Except StorageError Unit) :=
  .ask (.head s.bucket s.downloadTimeout) fun a =>
    .done (settleAnswer "head_bucket" s.bucket s.downloadTimeout .service a)

end StoreSettings

end ImageWorker
