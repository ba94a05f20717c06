import ImageWorker.Job.Cleanup
import ImageWorker.Proofs.ProgramRuns

/-!
# The steps of a cleanup

Whatever the answers are, a cleanup takes the steps that its mode selects and for which it knows a
path, in the same order, and besides leaves notes. Its result is the number of steps that failed.
-/

namespace ImageWorker

abbrev CleanupTrace := List (Program.Exchange CleanupRequest CleanupRequest.Answer)

namespace CleanupRequest

def isStep : CleanupRequest → Bool
  | note _ => false
  | _ => true

def isDelete : CleanupRequest → Bool
  | deleteObject _ => true
  | _ => false

end CleanupRequest

def CleanupTrace.steps (trace : CleanupTrace) : List CleanupRequest :=
  (trace.map (·.request)).filter (·.isStep)

/-- Whether a step fails. That a local file is not there is no failure. -/
def CleanupTrace.isFailure : Program.Exchange CleanupRequest CleanupRequest.Answer → Bool
  | ⟨.removeFile _, .error e⟩ => e.kind ≠ .notFound
  | ⟨.deleteObject _, .error _⟩ => true
  | _ => false

theorem CleanupTrace.steps_append (first second : CleanupTrace) :
    steps (first ++ second) = steps first ++ steps second := by
  simp [steps]

theorem CleanupTrace.mem_steps {trace : CleanupTrace} {r : CleanupRequest} :
    r ∈ steps trace ↔ r.isStep = true ∧ ∃ answer, ⟨r, answer⟩ ∈ trace := by
  rw [steps, List.mem_filter, List.mem_map]
  constructor
  · rintro ⟨⟨⟨r, answer⟩, mem, rfl⟩, step⟩
    exact ⟨step, answer, mem⟩
  · rintro ⟨step, answer, mem⟩
    exact ⟨⟨_, mem, rfl⟩, step⟩

theorem CleanupTrace.filter_isDelete_steps (trace : CleanupTrace) :
    (steps trace).filter (·.isDelete) = (trace.filter (·.request.isDelete)).map (·.request) := by
  rw [steps, List.filter_filter, List.filter_map]
  congr 1
  refine List.filter_congr fun x _ => ?_
  obtain ⟨r, answer⟩ := x
  cases r <;> rfl

namespace CleanupTask

open CleanupTrace

variable {t : CleanupTask} {trace : CleanupTrace} {failures : Nat}

def steps (t : CleanupTask) : List CleanupRequest :=
  (if t.mode.removesRaw then t.rawPath.toList.map .removeFile else []) ++
    (if t.mode.removesProcessed then t.processedPath.toList.map .removeFile else []) ++
    (if t.mode.removesSource then [.deleteObject t.sourceKey] else [])

theorem removeFile_mem_steps_iff {path : Path} :
    .removeFile path ∈ t.steps ↔
      t.mode.removesRaw = true ∧ t.rawPath = some path ∨
        t.mode.removesProcessed = true ∧ t.processedPath = some path := by
  rw [steps, List.mem_append, List.mem_append]
  cases t.mode.removesRaw <;> cases t.mode.removesProcessed <;> cases t.mode.removesSource <;>
    simp

theorem deleteObject_mem_steps_iff {key : String} :
    .deleteObject key ∈ t.steps ↔ t.mode.removesSource = true ∧ key = t.sourceKey := by
  rw [steps, List.mem_append, List.mem_append]
  cases t.mode.removesRaw <;> cases t.mode.removesProcessed <;> cases t.mode.removesSource <;>
    simp

/-- A local file is removed once, and only a failure other than its absence counts. -/
theorem removeLocal_runs {selected : Bool} {place : Option Path}
    (run : (removeLocal selected place).Runs trace failures) :
    (selected = false ∨ place = none) ∧ trace = [] ∧ failures = 0 ∨
      ∃ path answer, selected = true ∧ place = some path ∧
        (isFailure ⟨.removeFile path, answer⟩ = false ∧ failures = 0 ∧
            trace = [⟨.removeFile path, answer⟩] ∨
          isFailure ⟨.removeFile path, answer⟩ = true ∧ failures = 1 ∧
            ∃ n, trace = [⟨.removeFile path, answer⟩, ⟨.note n, ()⟩]) := by
  match place, selected, run with
  | none, selected, run =>
    obtain ⟨rfl, rfl⟩ := Program.runs_done_iff.mp run
    exact .inl ⟨.inr rfl, rfl, rfl⟩
  | some path, false, run =>
    obtain ⟨rfl, rfl⟩ := Program.runs_done_iff.mp run
    exact .inl ⟨.inl rfl, rfl, rfl⟩
  | some path, true, run =>
    obtain ⟨answer, _, rfl, later⟩ := Program.runs_ask_iff.mp run
    refine .inr ⟨path, answer, rfl, rfl, ?_⟩
    match answer, later with
    | .ok (), later =>
      obtain ⟨rfl, rfl⟩ := Program.runs_done_iff.mp later
      exact .inl ⟨rfl, rfl, rfl⟩
    | .error e, later =>
      simp only at later
      split at later
      next missing =>
        obtain ⟨rfl, rfl⟩ := Program.runs_done_iff.mp later
        exact .inl ⟨by simp [isFailure, missing], rfl, rfl⟩
      next present =>
        obtain ⟨_, _, rfl, last⟩ := Program.runs_ask_iff.mp later
        obtain ⟨rfl, rfl⟩ := Program.runs_done_iff.mp last
        exact .inr ⟨by simp [isFailure, present], rfl, _, rfl⟩

theorem removeLocal_steps {selected : Bool} {place : Option Path}
    (run : (removeLocal selected place).Runs trace failures) :
    CleanupTrace.steps trace = if selected then place.toList.map .removeFile else [] := by
  rcases removeLocal_runs run with
    ⟨rfl | rfl, rfl, _⟩ | ⟨path, answer, rfl, rfl, ⟨_, _, rfl⟩ | ⟨_, _, n, rfl⟩⟩
  · rfl
  · cases selected <;> rfl
  · rfl
  · rfl

theorem removeLocal_failures {selected : Bool} {place : Option Path}
    (run : (removeLocal selected place).Runs trace failures) :
    failures = trace.countP isFailure := by
  rcases removeLocal_runs run with
    ⟨_, rfl, rfl⟩ | ⟨path, answer, _, _, ⟨sound, rfl, rfl⟩ | ⟨fails, rfl, n, rfl⟩⟩
  · rfl
  · simp [sound]
  · rw [List.countP_cons_of_pos fails]
    rfl

theorem deleteSource_steps (run : t.deleteSource.Runs trace failures) :
    CleanupTrace.steps trace =
      if t.mode.removesSource then [.deleteObject t.sourceKey] else [] := by
  unfold deleteSource at run
  split at run
  next selected =>
    rw [if_pos selected]
    obtain ⟨answer, _, rfl, later⟩ := Program.runs_ask_iff.mp run
    match answer, later with
    | .ok (), later =>
      obtain ⟨rfl, _⟩ := Program.runs_done_iff.mp later
      rfl
    | .error e, later =>
      obtain ⟨_, _, rfl, last⟩ := Program.runs_ask_iff.mp later
      obtain ⟨rfl, _⟩ := Program.runs_done_iff.mp last
      rfl
  next unselected =>
    rw [if_neg unselected]
    obtain ⟨rfl, _⟩ := Program.runs_done_iff.mp run
    rfl

theorem deleteSource_failures (run : t.deleteSource.Runs trace failures) :
    failures = trace.countP isFailure := by
  unfold deleteSource at run
  split at run
  next =>
    obtain ⟨answer, _, rfl, later⟩ := Program.runs_ask_iff.mp run
    match answer, later with
    | .ok (), later =>
      obtain ⟨rfl, rfl⟩ := Program.runs_done_iff.mp later
      rfl
    | .error e, later =>
      obtain ⟨_, _, rfl, last⟩ := Program.runs_ask_iff.mp later
      obtain ⟨rfl, rfl⟩ := Program.runs_done_iff.mp last
      rfl
  next =>
    obtain ⟨rfl, rfl⟩ := Program.runs_done_iff.mp run
    rfl

/-- A task takes just the steps that it calls for. -/
theorem perform_steps (run : t.perform.Runs trace failures) :
    CleanupTrace.steps trace = t.steps := by
  simp only [perform, Program.bind_eq, Program.runs_bind_iff] at run
  obtain ⟨_, _, _, rfl, raw, _, _, _, rfl, processed, _, _, _, rfl, source, last⟩ := run
  obtain ⟨rfl, _⟩ := Program.runs_done_iff.mp last
  simp only [steps_append, removeLocal_steps raw, removeLocal_steps processed,
    deleteSource_steps source]
  simp [steps, CleanupTrace.steps]

/-- The result of a task is the number of its steps that failed. -/
theorem perform_failures (run : t.perform.Runs trace failures) :
    failures = trace.countP isFailure := by
  simp only [perform, Program.bind_eq, Program.runs_bind_iff] at run
  obtain ⟨_, _, _, rfl, raw, _, _, _, rfl, processed, _, _, _, rfl, source, last⟩ := run
  obtain ⟨rfl, rfl⟩ := Program.runs_done_iff.mp last
  simp only [List.countP_append, ← removeLocal_failures raw, ← removeLocal_failures processed,
    ← deleteSource_failures source, List.countP_nil]
  omega

/-- A cleanup without failures finds no local file that it cannot remove. -/
theorem perform_clean (run : t.perform.Runs trace 0) {path : Path} {e : IoError}
    (mem : ⟨.removeFile path, .error e⟩ ∈ trace) : e.kind = .notFound := by
  have sound := List.countP_eq_zero.mp (perform_failures run).symm _ mem
  simpa [isFailure] using sound

theorem steps_deletes (t : CleanupTask) :
    t.steps.filter (·.isDelete) =
      if t.mode.removesSource then [.deleteObject t.sourceKey] else [] := by
  unfold steps
  cases t.mode.removesRaw <;> cases t.mode.removesProcessed <;> cases t.mode.removesSource <;>
    cases t.rawPath <;> cases t.processedPath <;> rfl

/-- The store is asked for nothing but to delete the source, where that is to go. -/
theorem perform_delete_requests (run : t.perform.Runs trace failures) :
    (trace.filter (·.request.isDelete)).map (·.request) =
      if t.mode.removesSource then [.deleteObject t.sourceKey] else [] := by
  rw [← filter_isDelete_steps, perform_steps run, steps_deletes]

/-- Where the source is to go, it is deleted once, and nothing else is. -/
theorem perform_deletes (run : t.perform.Runs trace failures)
    (selected : t.mode.removesSource = true) :
    ∃ answer, trace.filter (·.request.isDelete) = [⟨.deleteObject t.sourceKey, answer⟩] := by
  have deletes := perform_delete_requests run
  rw [if_pos selected] at deletes
  obtain ⟨x, single, request_eq⟩ := List.map_eq_singleton_iff.mp deletes
  obtain ⟨r, answer⟩ := x
  obtain rfl : r = .deleteObject t.sourceKey := request_eq
  exact ⟨answer, single⟩

end CleanupTask

end ImageWorker
