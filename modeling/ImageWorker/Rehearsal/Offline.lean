import ImageWorker.Broker.Address
import ImageWorker.Broker.SharedLink
import ImageWorker.Broker.TimedPublish
import ImageWorker.Disk.FileTree
import ImageWorker.Flow.Clock
import ImageWorker.Pool.Lifecycle
import ImageWorker.Report.Record
import ImageWorker.Settings.DotEnv
import ImageWorker.Startup.SelfCheck
import ImageWorker.Startup.Service

/-!
# Rehearsing without a network

Nothing can be reached: every connection to the broker and every request to the store fails at
once. Files are those of a tree, and the clock moves when somebody waits. Shutdown fires at a moment
or as soon as the log has a line with a given text.
-/

namespace ImageWorker

/-- The failure of every connection to an address when there is no network. -/
def LinkError.offline (address : String) : LinkError :=
  match BrokerAddress.fault? address with
  | some fault => .ofAddressFault fault
  | none => .io (.number 101)

/-- The failure of a request when there is no network. -/
def ServiceFailure.noNetwork : ServiceFailure := .unreachable "dispatch failure"

/-- The answer to what is asked of a broker that cannot be reached; there never is a link. -/
def LinkRequest.offline (failure : LinkError) : (r : LinkRequest) → r.Answer
  | connect _ => .error failure
  | openChannel _ | closeConnection _ | declareExchange _ _ | declareQueue _ _
  | bindQueue _ _ _ _ | limitPrefetch _ | publish _ _ _ _ => .error failure
  | consume _ _ => .error failure
  | close _ | note _ => ()
  | isUsable _ => false

/-- The answer to what is asked of a store that cannot be reached. -/
def StoreRequest.offline : (r : StoreRequest) → r.Answer
  | get _ _ => some (.error .noNetwork)
  | put _ _ _ _ | delete _ _ | head _ _ => some (.error .noNetwork)
  | note _ => ()

def PublisherRequest.offline (failure : LinkError) :
    (r : PublisherRequest) → StateM SharedLink r.Answer
  | broker r => return r.offline failure
  | observe => return (← get).linkState
  | wasEstablished => return (← get).established
  | setEstablished => modify fun s => { s with established := true }
  | acquire lock => modify fun s => { s with held := lock :: s.held }
  | release lock => modify fun s => { s with held := s.held.erase lock }
  | replace link => modifyGet fun s => (s.stored, { s with stored := some link })
  | take => modifyGet fun s => (s.stored, { s with stored := none })

/-- Answers what a publish with a limit asks; a failure at once is always in time. -/
def TimedRequest.offline (failure : LinkError) : (r : TimedRequest) → StateM SharedLink r.Answer
  | inTime r => do return some (← r.offline failure)
  | giveBack lock => modify fun s => { s with held := s.held.erase lock }

def StoreProgram.offline {α : Type} (p : StoreProgram α) : α :=
  Id.run (p.run fun r => pure r.offline)

def PublisherProgram.offline {α : Type} (failure : LinkError) (p : PublisherProgram α) :
    StateM SharedLink α :=
  p.run (PublisherRequest.offline failure)

/-- What a program of a publisher with a limit gives. -/
def TimedProgram.offline {α : Type} (failure : LinkError) (p : TimedProgram α) :
    StateM SharedLink α :=
  p.run (TimedRequest.offline failure)

structure OfflineHost where
  clock : Clock
  files : FileTree
  /-- Where relative paths begin. -/
  home : Path
  shared : SharedLink
  /-- What was said, line by line. -/
  said : List String
  notes : List Note
  /-- The text in the log upon which shutdown fires. -/
  stopText : Option String

namespace OfflineHost

def absolute (h : OfflineHost) (p : Path) : Path :=
  if p.text.toList.head? = some '/' then p else h.home.join p.text

/-- The environment after the settings file of the host, if there is one. -/
def environment (h : OfflineHost) (env : Environment) : Environment :=
  match h.files.get? (FileTree.steps (h.home.join ".env")) with
  | some (.file content) => env.withFile content
  | _ => env

def onFiles {α : Type} (act : FileTree → α × FileTree) : StateM OfflineHost α := modifyGet fun h =>
  let (a, files) := act h.files
  (a, { h with files := files })

/-- Changes the files, or leaves them as they are. -/
def change (act : FileTree → Except IoError FileTree) :
    StateM OfflineHost (Except IoError Unit) :=
  onFiles fun files =>
    match act files with
    | .ok files => (.ok (), files)
    | .error e => (.error e, files)

/-- Keeps a note, and fires shutdown if it is a line with the given text. -/
def noted (h : OfflineHost) (n : Note) : OfflineHost :=
  let h := { h with notes := h.notes ++ [n] }
  match n, h.stopText with
  | .log line, some text =>
    if h.clock.stopAt.isNone && line.record.text.contains text then
      { h with
        clock := { h.clock with stopAt := some h.clock.now }
        notes := h.notes ++ [.log Service.shutdownLine] }
    else h
  | _, _ => h

/-- Answers what a self-check asks; connections fail in the given way. -/
def answerCheck (failure : LinkError) : (r : CheckRequest) → StateM OfflineHost r.Answer
  | .makeDirectories p => do
    let p := (← get).absolute p
    onFiles fun files => files.makeDirectories p
  | .writeFile p content => do
    let p := (← get).absolute p
    change fun files => files.writeFile p content
  | .removeFile p => do
    let p := (← get).absolute p
    change fun files => files.removeFile p
  | .broker r => return r.offline failure
  | .store r => return r.offline
  | .say line => modify fun h => { h with said := h.said ++ [line] }

def answerPool (b : BrokerSettings) : (r : PoolRequest) → StateM OfflineHost r.Answer
  | .establish => modifyGet fun h =>
    if h.clock.isStopped then (.stopped, h)
    else
      let (result, shared) := (b.statusRoute.establish.offline (.offline b.url)).run h.shared
      (.finished result, { h with shared := shared })
  | .pause d => modifyGet fun h =>
    let (race, clock) := h.clock.wait d.millis
    (race, { h with clock := clock })
  | .awaitShutdown => modify fun h =>
    { h with clock := h.clock.moveTo (h.clock.stopAt.getD h.clock.now) }
  | .shutStatus => modify fun h =>
    { h with shared := ((StatusRoute.shut.offline (.offline b.url)).run h.shared).2 }
  | .spawn _ => return ()
  | .join _ | .waitIdle _ => return true
  | .pending => return (0 : Nat)
  | .note n => modify fun h => h.noted n

/-- How many turns are waited for, in place of a time. Every attempt to connect takes one. -/
def patience : Nat := 515

/-- Runs a pool; there is no result if it still tries to connect after all that was waited. -/
def runPool (p : WorkerPool) : StateM OfflineHost (Option (Except JobError Unit)) :=
  p.turn.runWithin (answerPool p.broker) patience .fresh

/-- Answers what the service asks. A pool without a result counts as one that was told to stop. -/
def answerService : (r : ServiceRequest) → StateM OfflineHost r.Answer
  | .log line => modify fun h => h.noted (.log line)
  | .exportMetrics _ => return .ok ()
  | .makeRoots area => do
    let h ← get
    onFiles fun files =>
      StagingArea.makeRoots ⟨h.absolute area.rawRoot, h.absolute area.processedRoot⟩ files
  | .runPool p _ _ => do return (← runPool p).getD (.ok ())

def selfCheck (h : OfflineHost) (env : Environment) (args : List String) :
    Except CheckFault Unit × OfflineHost :=
  let env := h.environment env
  let failure := LinkError.offline ((env "RABBITMQ_URL").getD "")
  ((Check.program env args).run (answerCheck failure)).run h

/-- Runs the service; the first result says whether all went well. -/
def serve (h : OfflineHost) (env : Environment) : Bool × OfflineHost :=
  ((Service.run (h.environment env)).run answerService).run h

/-- The lines of the log if programs can read it. -/
def records (h : OfflineHost) (env : Environment) : List LogLine :=
  if Service.logsRecords (h.environment env) then Note.lines h.notes else []

end OfflineHost

end ImageWorker
