import ImageWorker.Report.Log

/-!
# The log of one job

Every line about a job carries its identifier, and the transformation as the job names it.
-/

namespace ImageWorker

/-- What the log lines of one job have in common. -/
structure JobLog where
  jobId : String
  transformation : String
  deriving DecidableEq, Repr

namespace JobLog

def started (j : JobLog) (detail : String) : LogLine :=
  .info .jobLog ("Accepted job, " ++ detail)
    [("job_id", j.jobId), ("transformation", j.transformation)]

def stageDone (j : JobLog) (stage detail : String) : LogLine :=
  .info .jobLog (stage ++ " done: " ++ detail) [("job_id", j.jobId), ("stage", stage)]

def failed (j : JobLog) (stage reason : String) : LogLine :=
  .error .jobLog ("Job failed during " ++ stage ++ ": " ++ reason)
    [("job_id", j.jobId), ("transformation", j.transformation), ("stage", stage)]

def completed (j : JobLog) (detail : String) : LogLine :=
  .info .jobLog ("Processed " ++ detail)
    [("job_id", j.jobId), ("transformation", j.transformation)]

end JobLog

end ImageWorker
