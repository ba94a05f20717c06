import ImageWorker.Proofs.JobCourse
import ImageWorker.Proofs.KeySegments

/-!
# Whether a reported result survives the cleanup of its job

The cleanup of a finished job deletes the source object. The result is another object, and stays,
unless the source itself has a key of the form that results have: then both are one object.
-/

namespace ImageWorker

open Pipeline JobTrace

namespace ObjectMap

/-- The object that was uploaded last is stored. -/
theorem get?_of_last_upload {before after : ObjectMap} {trace calls : JobTrace} {key url : String}
    {image : TransformedImage} (follows : aroundJobs.Follows before trace after)
    (last : storageCalls trace = calls ++ [uploadExchange key image (.finished (.ok url))]) :
    after.get? key = some image.bytes := by
  have called : aroundJobs.Follows before (storageCalls trace) after :=
    follows.filter aroundJobs_idle
  rw [last, Surroundings.follows_append_iff] at called
  obtain ⟨between, _, uploaded⟩ := called
  cases uploaded with
  | step allowed none =>
    cases none
    obtain rfl : after = between.put key image.bytes := allowed
    rw [get?_put, if_pos rfl]

/-- Of the objects a cleanup touches the source alone, and a delete that succeeds removes it. -/
theorem get?_of_cleanup {s s' : ObjectMap} {task : CleanupTask} {steps : CleanupTrace}
    {failures : Nat} (cleaned : aroundCleanups.Runs s task.perform steps s' failures)
    (selected : task.mode.removesSource = true) :
    (∀ key, task.sourceKey ≠ key → s'.get? key = s.get? key) ∧
      (⟨.deleteObject task.sourceKey, .ok ()⟩ ∈ steps → s'.get? task.sourceKey = none) := by
  obtain ⟨run, follows⟩ := Surroundings.runs_iff.mp cleaned
  obtain ⟨answer, deletes⟩ := CleanupTask.perform_deletes run selected
  have deleted := follows.filter aroundCleanups_idle
  rw [deletes] at deleted
  cases deleted with
  | step allowed none =>
    cases none
    match answer, allowed with
    | .ok (), allowed =>
      obtain rfl : s' = s.erase task.sourceKey := allowed
      exact ⟨fun key other => by rw [get?_erase, if_neg (Ne.symm other)], fun _ => by
        rw [get?_erase, if_pos rfl]⟩
    | .error e, allowed =>
      constructor
      · intro key other
        rcases allowed with rfl | rfl
        · rfl
        · rw [get?_erase, if_neg (Ne.symm other)]
      · intro mem
        have single : _ ∈ steps.filter (·.request.isDelete) := List.mem_filter.mpr ⟨mem, rfl⟩
        rw [deletes] at single
        simp at single

end ObjectMap

open ObjectMap

variable {p : Pipeline} {job : Job} {trace : JobTrace}

theorem Pipeline.Passes.derived {rawPath resultPath : Path} {key url : String}
    {image : TransformedImage}
    (passed : Passes p job trace (.uploaded rawPath key image resultPath url)) :
    ∃ t, job.transformation = .ok t ∧ destinationKey job.sourceKey t = .ok key := by
  cases passed with
  | uploaded passed tried =>
    cases passed with
    | resultStaged passed derived place =>
      cases passed with
      | transformed passed resolved => exact ⟨_, resolved, derived⟩

/-- What is left of a finished job: its result is stored at the reported URL, its one cleanup is the
whole one, and the key of the result is derived from that of the source. -/
theorem result_of_processed {before after : ObjectMap} {done : ProcessedJob}
    (processed : Processed p job trace (.ok done))
    (follows : aroundJobs.Follows before trace after) :
    ∃ t image rawPath resultPath, job.transformation = .ok t ∧
      destinationKey job.sourceKey t = .ok done.destinationKey ∧
      uploadExchange done.destinationKey image (.finished (.ok done.publicUrl)) ∈ trace ∧
      after.get? done.destinationKey = some image.bytes ∧
      announcements trace = [.processing job, .processed job done.publicUrl] ∧
      tasks trace = [⟨.cleanupAll, job.sourceKey, some rawPath, some resultPath⟩] := by
  obtain ⟨before, calls, rawPath, key, image, resultPath, url, published, _, passed, underWay,
    uploaded, shown, outcome_eq⟩ := processed
  obtain rfl : done = ⟨job.id, key, url⟩ := by
    rcases concluded_eq published (.ok ⟨job.id, key, url⟩) with same | ⟨_, same⟩
    · rw [same] at outcome_eq
      exact Except.ok.inj outcome_eq
    · simp [same] at outcome_eq
  obtain ⟨t, resolved, derived⟩ := passed.derived
  have last : storageCalls trace =
      storageCalls calls ++ [uploadExchange key image (.finished (.ok url))] := by
    rw [← storageCalls_effects, shown, uploaded]
    simp [storageCalls, uploadExchange, scheduled, JobRequest.isStorageCall]
  have made : uploadExchange key image (.finished (.ok url)) ∈ storageCalls trace := by
    simp [last]
  refine ⟨t, image, rawPath, resultPath, resolved, derived, (List.mem_filter.mp made).1,
    get?_of_last_upload follows last, ?_, ?_⟩
  · rw [← announcements_effects, shown, announcements_append, announcements_effects,
      underWay.announcements_eq]
    rfl
  · rw [← tasks_effects, shown, tasks_append, tasks_effects, underWay.tasks_eq]
    rfl

variable {body : Bytes} {envelope : Envelope} {before after final : ObjectMap}
  {done : ProcessedJob} {task : CleanupTask} {steps : CleanupTrace} {failures : Nat}

/-- A reported result survives the cleanup of its job unless the key of the source has the form of
a result; then a delete that succeeds removes it. -/
theorem reported_result_survival (accepted : Envelope.parse body = .ok envelope)
    (run : aroundJobs.Runs before (p.process body) trace after (.ok done))
    (cleanup : task ∈ tasks trace)
    (cleaned : aroundCleanups.Runs after task.perform steps final failures) :
    ∃ t image, envelope.job.transformation = .ok t ∧
      uploadExchange done.destinationKey image (.finished (.ok done.publicUrl)) ∈ trace ∧
      .processed envelope.job done.publicUrl ∈ announcements trace ∧
      (envelope.job.sourceKey = done.destinationKey ↔ ResultKey t envelope.job.sourceKey) ∧
      (¬ ResultKey t envelope.job.sourceKey →
        final.get? done.destinationKey = some image.bytes) ∧
      (ResultKey t envelope.job.sourceKey →
        ⟨.deleteObject envelope.job.sourceKey, .ok ()⟩ ∈ steps →
          final.get? done.destinationKey = none) := by
  obtain ⟨ran, follows⟩ := Surroundings.runs_iff.mp run
  obtain ⟨envelope', accepted', processed⟩ := processed_of_done ran
  obtain rfl : envelope = envelope' := by simpa [accepted] using accepted'
  obtain ⟨t, image, rawPath, resultPath, resolved, derived, uploaded, stored, announced, single⟩ :=
    result_of_processed processed follows
  obtain rfl : task = ⟨.cleanupAll, envelope.job.sourceKey, some rawPath, some resultPath⟩ := by
    simpa [single] using cleanup
  obtain ⟨kept, removed⟩ := get?_of_cleanup cleaned rfl
  have same_iff := destinationKey_eq_source_iff derived
  refine ⟨t, image, resolved, uploaded, by simp [announced], same_iff, fun other => ?_,
    fun same deleted => ?_⟩
  · rw [kept _ fun equal => other (same_iff.mp equal), stored]
  · rw [← same_iff.mpr same]
    exact removed deleted

/-- The way of this cleanup after its job, when all goes well. -/
def turnCleaned (sourceKey : String) : CleanupTrace × ObjectMap × Nat :=
  (turnCleanup sourceKey).perform.replies obligeCleanup
    (turn sourceKey ObjectMap.oblige).2.1

theorem turnCleaned_runs (sourceKey : String) :
    aroundCleanups.Runs (turn sourceKey ObjectMap.oblige).2.1 (turnCleanup sourceKey).perform
      (turnCleaned sourceKey).1 (turnCleaned sourceKey).2.1 (turnCleaned sourceKey).2.2 :=
  Surroundings.runs_replies obligeCleanup_allowed _ _

def turnDone : ProcessedJob := ⟨"job-1", "processed/a.png", obligingBase ++ "processed/a.png"⟩

theorem reported_result_survival_of_raw :
    ∃ content, (turnCleaned "raw/a.png").2.1.get? turnDone.destinationKey = some content := by
  have done : (turn "raw/a.png" ObjectMap.oblige).2.2 = .ok turnDone :=
    eq_ok_of_toOption_eq_some (by decide +kernel)
  have cleanup : turnCleanup "raw/a.png" ∈ tasks (turn "raw/a.png" ObjectMap.oblige).1 := by
    decide +kernel
  have run := turn_runs_in_store "raw/a.png"
  rw [done] at run
  obtain ⟨t, image, _, _, _, _, survives, _⟩ :=
    reported_result_survival parse_turnDelivery run cleanup (turnCleaned_runs "raw/a.png")
  refine ⟨image.bytes, survives ?_⟩
  rintro ⟨name, _, key_eq, _⟩
  have first := congrArg (fun k : String => k.toList.head?) key_eq
  simp [turnJob, processedFolder, String.toList_append] at first

/-- A source among the results is deleted together with its own result. -/
theorem reported_result_is_deleted :
    ¬ ∀ (p : Pipeline) (body : Bytes) (envelope : Envelope) (before after final : ObjectMap)
        (trace : JobTrace) (done : ProcessedJob) (task : CleanupTask) (steps : CleanupTrace)
        (failures : Nat), Envelope.parse body = .ok envelope →
        aroundJobs.Runs before (p.process body) trace after (.ok done) → task ∈ tasks trace →
        aroundCleanups.Runs after task.perform steps final failures →
          ∃ image,
            uploadExchange done.destinationKey image (.finished (.ok done.publicUrl)) ∈ trace ∧
            final.get? done.destinationKey = some image.bytes := by
  intro survives
  have accepted : Envelope.parse (turnDelivery "processed/a.png") =
      .ok ⟨"image_processing", turnJob "processed/a.png"⟩ :=
    eq_ok_of_toOption_eq_some (by decide +kernel)
  have done : (turn "processed/a.png" ObjectMap.oblige).2.2 = .ok turnDone :=
    eq_ok_of_toOption_eq_some (by decide +kernel)
  have cleanup : turnCleanup "processed/a.png" ∈
      tasks (turn "processed/a.png" ObjectMap.oblige).1 := by
    decide +kernel
  have gone : (turnCleaned "processed/a.png").2.1.get? turnDone.destinationKey = none := by
    decide +kernel
  have run := turn_runs_in_store "processed/a.png"
  rw [done] at run
  obtain ⟨image, _, left⟩ := survives _ _ _ _ _ _ _ _ _ _ _ accepted run cleanup
    (turnCleaned_runs "processed/a.png")
  simp [gone] at left

end ImageWorker
