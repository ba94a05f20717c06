/-!
# Metrics

Each kind of event counts into one or two series. A series has a name and labels; counters count
events, and a histogram is only known by how many samples it has.
-/

namespace ImageWorker

/-- An event that is counted. -/
inductive Metric where
  | jobStarted (transformation : String)
  | jobCompleted (transformation : String)
  | jobFailed (stage : String)
  | queueDelay
  | storageRetry (operation : String)
  | cleanup (mode : String) (clean : Bool)
  | reconnect (queue : String)
  | delivery (queue : String) (resolution : String)
  deriving DecidableEq, Repr

/-- A name and its labels. -/
structure Series where
  name : String
  labels : List (String × String)
  deriving DecidableEq, Repr

namespace Series

def text (s : Series) : String :=
  if s.labels.isEmpty then s.name
  else
    s.name ++ "\x7b" ++ ",".intercalate (s.labels.map fun (k, v) => k ++ "=" ++ v) ++ "\x7d"

end Series

def Metric.series : Metric → List Series
  | jobStarted t => [⟨"imgflow_jobs_started_total", [("transformation", t)]⟩]
  | jobCompleted t =>
    [⟨"imgflow_jobs_completed_total", [("transformation", t)]⟩,
      ⟨"imgflow_job_duration_seconds", [("transformation", t)]⟩]
  | jobFailed stage => [⟨"imgflow_jobs_failed_total", [("stage", stage)]⟩]
  | queueDelay => [⟨"imgflow_job_queue_delay_seconds", []⟩]
  | storageRetry operation => [⟨"imgflow_storage_retries_total", [("operation", operation)]⟩]
  | cleanup mode clean =>
    ⟨"imgflow_cleanup_total", [("mode", mode)]⟩ ::
      if clean then [] else [⟨"imgflow_cleanup_failures_total", [("mode", mode)]⟩]
  | reconnect queue => [⟨"imgflow_reconnects_total", [("queue", queue)]⟩]
  | delivery queue resolution =>
    [⟨"imgflow_deliveries_total", [("queue", queue), ("resolution", resolution)]⟩]

/-- How often each series was counted into, in the order of first use. -/
abbrev Tally := List (Series × Nat)

namespace Tally

def bump : Tally → Series → Tally
  | [], s => [(s, 1)]
  | (s', n) :: t, s => if s' = s then (s', n + 1) :: t else (s', n) :: bump t s

def add (t : Tally) (m : Metric) : Tally := m.series.foldl bump t

def count (t : Tally) (s : Series) : Nat := ((t.find? (·.1 == s)).map (·.2)).getD 0

def ofMetrics (ms : List Metric) : Tally := ms.foldl add []

theorem count_bump (t : Tally) (s s' : Series) :
    (t.bump s).count s' = t.count s' + if s = s' then 1 else 0 := by
  induction t with
  | nil => by_cases same : s = s' <;> simp [bump, count, same]
  | cons entry t ih =>
    obtain ⟨k, n⟩ := entry
    rw [bump]
    split
    next here => by_cases same : s = s' <;> simp [count, here, same]
    next elsewhere =>
      by_cases same : k = s'
      · have other : ¬ s = s' := fun h => elsewhere (same.trans h.symm)
        simp [count, same, other]
      · simpa [count, same] using ih

theorem count_foldl_bump (t : Tally) (ss : List Series) (s : Series) :
    (ss.foldl bump t).count s = t.count s + ss.count s := by
  induction ss generalizing t with
  | nil => rfl
  | cons s' ss ih =>
    rw [List.foldl_cons, ih, count_bump, List.count_cons]
    simp only [beq_iff_eq]
    omega

/-- A tally holds of each series as many counts as its events have. -/
theorem count_ofMetrics (ms : List Metric) (s : Series) :
    (ofMetrics ms).count s = (ms.flatMap Metric.series).count s := by
  have counted (t : Tally) :
      (ms.foldl add t).count s = t.count s + (ms.flatMap Metric.series).count s := by
    induction ms generalizing t with
    | nil => rfl
    | cons m ms ih =>
      rw [List.foldl_cons, ih, add, count_foldl_bump, List.flatMap_cons, List.count_append]
      omega
  have empty : count [] s = 0 := rfl
  rw [ofMetrics, counted, empty, Nat.zero_add]

end Tally

end ImageWorker
