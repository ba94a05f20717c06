/-!
# Log lines

A log line has a level, the part of the program it comes from, a text and named values. Lines
below the information level are not kept.
-/

namespace ImageWorker

/-- How urgent a log line is. -/
inductive Level where
  | info
  | warn
  | error
  deriving DecidableEq, Repr

def Level.name : Level → String
  | info => "INFO"
  | warn => "WARN"
  | error => "ERROR"

inductive Part where
  | service
  | settings
  | pool
  | pipeline
  | jobLog
  | retry
  | cleanup
  | statusPublisher
  | brokerLink
  | objectStore
  deriving DecidableEq, Repr

def Part.name : Part → String
  | service => "imgflow_worker"
  | settings => "imgflow_worker::config"
  | pool => "imgflow_worker::supervisor"
  | pipeline => "imgflow_worker::pipeline"
  | jobLog => "imgflow_worker::logging"
  | retry => "imgflow_worker::retry"
  | cleanup => "imgflow_worker::cleanup"
  | statusPublisher => "imgflow_queue::status"
  | brokerLink => "imgflow_queue::connector"
  | objectStore => "imgflow_storage::client"

structure LogLine where
  level : Level
  part : Part
  text : String
  /-- The named values that belong to the line. -/
  fields : List (String × String)
  deriving DecidableEq, Repr

namespace LogLine

def info (part : Part) (text : String) (fields : List (String × String)) : LogLine :=
  ⟨.info, part, text, fields⟩

def warn (part : Part) (text : String) (fields : List (String × String)) : LogLine :=
  ⟨.warn, part, text, fields⟩

def error (part : Part) (text : String) (fields : List (String × String)) : LogLine :=
  ⟨.error, part, text, fields⟩

end LogLine

end ImageWorker
