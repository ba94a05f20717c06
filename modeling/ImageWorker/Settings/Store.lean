import ImageWorker.Failure.StorageError
import ImageWorker.Settings.Environment
import ImageWorker.Text.Duration

/-!
# Settings of the object store
-/

namespace ImageWorker

structure StoreSettings where
  bucket : String
  region : Option String
  endpoint : Option String
  /-- What public URLs begin with; without it they are signed. -/
  publicBase : Option String
  /-- How long a signed URL holds. -/
  signedFor : Duration
  downloadTimeout : Duration
  uploadTimeout : Duration
  deleteTimeout : Duration
  deriving DecidableEq, Repr

namespace StoreSettings

def ofBucket (bucket : String) : StoreSettings where
  bucket := bucket
  region := none
  endpoint := none
  publicBase := none
  signedFor := .ofSeconds 900
  downloadTimeout := .ofSeconds 30
  uploadTimeout := .ofSeconds 60
  deleteTimeout := .ofSeconds 60

def ofEnvironment (env : Environment) : Except StorageError StoreSettings :=
  match env "AWS_BUCKET_NAME" with
  | none => .error (.config "AWS_BUCKET_NAME not set")
  | some bucket =>
    .ok
      { bucket := bucket
        region := env "AWS_REGION"
        endpoint := env "S3_ENDPOINT_URL"
        publicBase := env "S3_PUBLIC_BASE_URL"
        signedFor := .ofSeconds (env.count64Or "S3_PRESIGN_EXPIRY_SECS" 900)
        downloadTimeout := .ofSeconds (env.count64Or "S3_DOWNLOAD_TIMEOUT_SECS" 30)
        uploadTimeout := .ofSeconds (env.count64Or "S3_UPLOAD_TIMEOUT_SECS" 60)
        deleteTimeout := .ofSeconds (env.count64Or "S3_DELETE_TIMEOUT_SECS" 60) }

end StoreSettings

end ImageWorker
