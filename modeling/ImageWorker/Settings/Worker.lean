import ImageWorker.Disk.Path
import ImageWorker.Failure.JobError
import ImageWorker.Report.Log
import ImageWorker.Settings.Environment
import ImageWorker.Text.Quoted

/-!
# Settings of the worker

Every setting has a default, and one that cannot be read counts as missing. The two staging
directories have to be different paths.
-/

namespace ImageWorker

/-- What a worker does after a fatal failure. -/
inductive FatalPolicy where
  /-- Discard the message and go on. -/
  | proceed
  /-- Put the message back and stop. -/
  | halt
  deriving DecidableEq, Repr

namespace FatalPolicy

def name : FatalPolicy → String
  | proceed => "continue"
  | halt => "halt"

/-- The policy with a given name, in either case and with blanks around it; the error is the
wording of the refusal. -/
def parse (s : String) : Except String FatalPolicy :=
  match (trimmed s).map Char.toLower with
  | "continue" => .ok proceed
  | "halt" => .ok halt
  | other => .error ("unknown fatal policy '" ++ other ++ "'")

end FatalPolicy

structure WorkerSettings where
  rawDir : Path
  processedDir : Path
  /-- How often a storage call is tried, the first time included. -/
  retryAttempts : Nat
  /-- The pause between two attempts. -/
  retryDelay : Duration
  /-- How long one cleanup may take. -/
  cleanupTimeout : Duration
  shutdownTimeout : Duration
  fatalPolicy : FatalPolicy
  /-- Where metrics are exported, if at all. -/
  metricsPort : Option Nat
  deriving DecidableEq, Repr

namespace WorkerSettings

def defaults : WorkerSettings where
  rawDir := ⟨"./images/raw"⟩
  processedDir := ⟨"./images/processed"⟩
  retryAttempts := 3
  retryDelay := .ofSeconds 2
  cleanupTimeout := .ofSeconds 90
  shutdownTimeout := .ofSeconds 30
  fatalPolicy := .proceed
  metricsPort := none

/-- The policy in the environment, and the warning about one that is not known. -/
def policyOf (env : Environment) : FatalPolicy × Option LogLine :=
  match env "WORKER_FATAL_POLICY" with
  | none => (defaults.fatalPolicy, none)
  | some text =>
    match FatalPolicy.parse text with
    | .ok policy => (policy, none)
    | .error why => (.proceed, some (.warn .settings (why ++ "; falling back to 'continue'") []))

def ofEnvironment (env : Environment) : WorkerSettings where
  rawDir := ((env "WORKER_RAW_DIR").map Path.mk).getD defaults.rawDir
  processedDir := ((env "WORKER_PROCESSED_DIR").map Path.mk).getD defaults.processedDir
  retryAttempts :=
    (((env "WORKER_RETRY_ATTEMPTS").bind (count? (2 ^ 32))).filter (0 < ·)).getD 3
  retryDelay := .ofSeconds (env.count64Or "WORKER_RETRY_DELAY_SECS" 2)
  cleanupTimeout := .ofSeconds (env.count64Or "WORKER_CLEANUP_TIMEOUT_SECS" 90)
  shutdownTimeout := .ofSeconds (env.count64Or "WORKER_SHUTDOWN_TIMEOUT" 30)
  fatalPolicy := (policyOf env).1
  metricsPort := (env "METRICS_PORT").bind (count? (2 ^ 16))

/-- Refuses one path for both staging directories, where staged files would overwrite each other. Two
different paths are accepted, also where one lies below the other. -/
def validate (s : WorkerSettings) : Except JobError Unit :=
  if s.rawDir.same s.processedDir then .error (.config (.sharedStagingRoot s.rawDir.text))
  else .ok ()

/-- The settings on one line, as they are logged at the start. -/
def summary (s : WorkerSettings) : String :=
  let policy := match s.fatalPolicy with
    | .proceed => "Continue"
    | .halt => "Halt"
  let metrics := match s.metricsPort with
    | none => "None"
    | some number => "Some(" ++ toString number ++ ")"
  "WorkerConfig \x7b raw_dir: " ++ quotedPath s.rawDir.text ++
    ", processed_dir: " ++ quotedPath s.processedDir.text ++
    ", retry_attempts: " ++ toString s.retryAttempts ++
    ", retry_delay: " ++ s.retryDelay.text ++
    ", cleanup_timeout: " ++ s.cleanupTimeout.text ++
    ", shutdown_timeout: " ++ s.shutdownTimeout.text ++
    ", fatal_policy: " ++ policy ++ ", metrics_port: " ++ metrics ++ " \x7d"

end WorkerSettings

end ImageWorker
