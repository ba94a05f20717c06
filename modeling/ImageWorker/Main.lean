import ImageWorker.Rehearsal.Offline

/-!
# The command line

The first argument names the program: `worker-selfcheck`, which takes `--connect`, or
`imgflow-worker`. Files, variables and time are those of the host. This build has no network, so
every connection fails as it does on a host without one.
-/

namespace ImageWorker.CommandLine

def errorNumber? : IO.Error → Option UInt32
  | .alreadyExists _ n _ | .invalidArgument _ n _ | .permissionDenied _ n _
  | .resourceExhausted _ n _ | .inappropriateType _ n _ | .noSuchThing _ n _ => some n
  | .otherError n _ | .resourceBusy n _ | .resourceVanished n _ | .unsupportedOperation n _
  | .hardwareFault n _ | .unsatisfiedConstraints n _ | .illegalOperation n _
  | .protocolError n _ | .timeExpired n _ => some n
  | .interrupted _ n _ | .noFileOrDirectory _ n _ => some n
  | .unexpectedEof | .userError _ => none

/-- Does something on the host. -/
def attempted (act : IO Unit) : IO (Except IoError Unit) := do
  try
    act
    return .ok ()
  catch e =>
    match errorNumber? e with
    | some n => return .error (.number n.toNat)
    | none => return .error (.described .other (toString e))

def makeDirectory (p : Path) : IO (Except IoError Unit) := do
  match ← attempted (IO.FS.createDir p.text) with
  | .ok () => return .ok ()
  | .error e => return if ← ((← IO.currentDir) / p.text).isDir then .ok () else .error e

/-- Makes a directory and those above it that are missing, `fuel` of them at most. -/
def makeDirectoriesWithin : (fuel : Nat) → Path → IO (Except IoError Unit)
  | 0, _ => return .error (.plain .uncategorized)
  | fuel + 1, p => do
    if p.text = "" then return .ok ()
    match ← makeDirectory p with
    | .ok () => return .ok ()
    | .error e =>
      match e.kind, p.parent? with
      | .notFound, some parent =>
        match ← makeDirectoriesWithin fuel parent with
        | .ok () => makeDirectory p
        | .error e => return .error e
      | _, _ => return .error e

/-- Makes a directory and those above it that are missing. -/
def makeDirectories (p : Path) : IO (Except IoError Unit) :=
  makeDirectoriesWithin (p.components.length + 1) p

def splitZeros (bs : Bytes) : List Bytes :=
  bs.foldr
    (fun b parts =>
      match parts with
      | [] => [[b]]
      | part :: parts => if b = 0 then [] :: part :: parts else (b :: part) :: parts)
    [[]]

def hostVariables : IO (List (String × Bytes)) := do
  let entries := splitZeros (← IO.FS.readBinFile "/proc/self/environ").data.toList
  return entries.map fun e =>
    (Bytes.text (e.takeWhile (· ≠ 61)), (e.dropWhile (· ≠ 61)).drop 1)

/-- The nearest settings file in the working directory or above it. -/
def settingsFile : IO (Option Bytes) := do
  for depth in List.range (← IO.currentDir).components.length do
    try
      let content ← IO.FS.readBinFile (String.join (List.replicate depth "../") ++ ".env")
      return some content.data.toList
    catch _ => pure ()
  return none

def environment : IO Environment := do
  let env := Environment.ofVariables (← hostVariables)
  match ← settingsFile with
  | some content => return env.withFile content
  | none => return env

/-- Answers what a self-check asks; connections fail in the given way. -/
def answerCheck (failure : LinkError) : (r : CheckRequest) → IO r.Answer
  | .makeDirectories p => makeDirectories p
  | .writeFile p content => attempted (IO.FS.writeBinFile p.text ⟨content.toArray⟩)
  | .removeFile p => attempted (IO.FS.removeFile p.text)
  | .broker r => return r.offline failure
  | .store r => return r.offline
  | .say line => IO.println line

def selfCheck (args : List String) : IO UInt32 := do
  let env ← environment
  let failure := LinkError.offline ((env "RABBITMQ_URL").getD "")
  match ← (Check.program env args).run (answerCheck failure) with
  | .ok () => return 0
  | .error fault =>
    IO.eprintln fault.complaint
    return 1

def write (records : Bool) (line : LogLine) : IO Unit := do
  if records then IO.println line.record.text
  else IO.println (line.level.name ++ " " ++ line.part.name ++ ": " ++ line.text)
  (← IO.getStdout).flush

def answerPool (records : Bool) (b : BrokerSettings) : (r : PoolRequest) → IO r.Answer
  | .establish =>
    return .finished ((b.statusRoute.establish.offline (.offline b.url)).run .initial).1
  | .pause d => do
    IO.sleep d.millis.toUInt32
    return .finished ()
  | .spawn _ | .awaitShutdown | .shutStatus => return ()
  | .join _ | .waitIdle _ => return true
  | .pending => return (0 : Nat)
  | .note (.log line) => write records line
  | .note (.count _) => return ()

/-- Runs a pool to its end. -/
partial def runPool (records : Bool) (pool : WorkerPool) (state : PoolState) :
    IO (Except JobError Unit) := do
  match ← (pool.turn state).run (answerPool records pool.broker) with
  | .inl state => runPool records pool state
  | .inr result => return result

def answerService (records : Bool) : (r : ServiceRequest) → IO r.Answer
  | .log line => write records line
  | .exportMetrics _ => return .error "Metrics cannot be exported without a network"
  | .makeRoots area => do
    match ← makeDirectories area.rawRoot with
    | .ok () => makeDirectories area.processedRoot
    | .error e => return .error e
  | .runPool pool _ _ => runPool records pool .fresh

def serve : IO UInt32 := do
  let env ← environment
  let ok ← (Service.run env).run (answerService (Service.logsRecords env))
  return if ok then 0 else 1

end ImageWorker.CommandLine

/-- Runs the program that the first argument names. -/
def main (args : List String) : IO UInt32 := do
  match args with
  | "worker-selfcheck" :: rest => ImageWorker.CommandLine.selfCheck rest
  | "imgflow-worker" :: _ => ImageWorker.CommandLine.serve
  | _ =>
    IO.eprintln "usage: worker-selfcheck [--connect] | imgflow-worker"
    return 2
