import ImageWorker.Report.Log
import ImageWorker.Report.Metric

/-!
# What the worker leaves for its operators

Besides its proper work the worker writes log lines and counts events; both are notes.
-/

namespace ImageWorker

/-- A log line or a counted event. -/
inductive Note where
  | log (line : LogLine)
  | count (metric : Metric)
  deriving DecidableEq, Repr

namespace Note

def lines (notes : List Note) : List LogLine :=
  notes.filterMap fun
    | log line => some line
    | count _ => none

def metrics (notes : List Note) : List Metric :=
  notes.filterMap fun
    | log _ => none
    | count metric => some metric

end Note

end ImageWorker
