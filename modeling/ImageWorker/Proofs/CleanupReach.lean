import ImageWorker.Proofs.FileSaving
import ImageWorker.Proofs.ResultSurvival
import ImageWorker.Proofs.StagingResidue

/-!
# What a cleanup reaches

A cleanup takes all of its steps, whichever of them fail, and counts those that do. Of the tree it
touches no more than the files that it names, and of the store no more than the source object. Once
it has had no failure nothing stands where its files were, and the same cleanup once more finds
nothing to do on the disk.
-/

namespace ImageWorker

open CleanupTask

namespace FileTree

variable {t t' : FileTree} {p : Path} {steps : CleanupTrace}

structure Vacant (t : FileTree) (p : Path) : Prop where
  no_directory : t.isDirectory p = false
  no_file : ∀ content, ¬ t.Holds p content

/-- A directory is no file to be removed. -/
theorem removeFile_of_isDirectory (found : t.isDirectory p = true) :
    t.removeFile p = .error .isDirectory := by
  obtain ⟨fits, directories⟩ := isDirectory_iff.mp found
  rcases List.eq_nil_or_concat (FileTree.steps p) with none | ⟨front, last, split⟩
  · have located : t.locate p = .ok .dots := by simp [locate, fits.accepted, none]
    rw [removeFile, located]
  · rw [List.concat_eq_append] at split
    have above : ∀ r ∈ visited [] front, t.get? r = some .directory := fun r mem =>
      directories r (by rw [split, mem_visited_concat]; exact .inl mem)
    by_cases dots : last = "." ∨ last = ".."
    · have short : ∀ name ∈ front, name.utf8ByteSize ≤ maxNameLength := fun name mem =>
        fits.short name (by rw [split]; exact List.mem_append_left _ mem)
      have located : t.locate p = .ok .dots := by
        simp [locate, fits.accepted, split, walk_of_directories short above,
          above _ goal_mem_visited, dots]
      rw [removeFile, located]
    · rw [not_or] at dots
      rw [removeFile, locate_of_directories fits split dots.1 dots.2 above]
      simp only [directories _ goal_mem_visited]

theorem Misses.vacant (misses : t.Misses p) : t.Vacant p := by
  obtain ⟨e, failed, missing⟩ := misses
  constructor
  · refine Bool.eq_false_iff.mpr fun found => ?_
    rw [removeFile_of_isDirectory found] at failed
    obtain rfl := Except.error.inj failed
    cases missing
  · rintro content ⟨place, located, stands⟩
    exact not_hasFile_of_notFound failed missing located ⟨content, stands⟩

/-- What the disk can come to when nothing but the tree decides what a removal comes to. -/
def AllowsTrue (before : FileTree) : (r : CleanupRequest) → r.Answer → FileTree → Prop
  | .removeFile path, .ok (), after => before.removeFile path = .ok after
  | .removeFile path, .error e, after => before.removeFile path = .error e ∧ after = before
  | _, _, after => after = before

/-- Such a disk as cleanups meet it. -/
def trueToTree : Surroundings CleanupRequest CleanupRequest.Answer FileTree where
  Allows := AllowsTrue
  Drifts before after := after = before

theorem AllowsTrue.allowsCleanup {r : CleanupRequest} {answer : r.Answer}
    (allowed : AllowsTrue t r answer t') : AllowsCleanup t r answer t' := by
  cases r with
  | removeFile path =>
    match answer, allowed with
    | .ok (), allowed => exact allowed
    | .error e, ⟨failed, same⟩ => exact ⟨same, fun missing => ⟨e, failed, missing⟩⟩
  | deleteObject | note => exact allowed

theorem follows_of_trueToTree (follows : trueToTree.Follows t steps t') :
    aroundCleanups.Follows t steps t' := by
  induction follows with
  | start t => exact .start t
  | step allowed _ ih => exact .step allowed.allowsCleanup ih

/-- Of what is missing already, no removal counts as a failure. -/
theorem failures_of_misses (follows : trueToTree.Follows t steps t')
    (misses : ∀ path answer, ⟨.removeFile path, answer⟩ ∈ steps → t.Misses path) :
    steps.countP CleanupTrace.isFailure =
      (steps.filter (·.request.isDelete)).countP CleanupTrace.isFailure := by
  have sound : ∀ path answer, ⟨.removeFile path, answer⟩ ∈ steps →
      CleanupTrace.isFailure ⟨.removeFile path, answer⟩ = false := by
    intro path answer mem
    obtain ⟨e, failed, missing⟩ := misses path answer mem
    obtain ⟨before, after, rfl⟩ := List.append_of_mem mem
    obtain ⟨s, earlier, onwards⟩ := Surroundings.follows_append_iff.mp follows
    obtain rfl : s = t := unchanged_of_misses (follows_of_trueToTree earlier)
      fun path answer mem => misses path answer (List.mem_append_left _ mem)
    cases onwards with
    | step allowed _ =>
      match answer, allowed with
      | .ok (), _ => rfl
      | .error e', ⟨failed', _⟩ =>
        obtain rfl : e' = e := Except.error.inj (failed'.symm.trans failed)
        simp [CleanupTrace.isFailure, missing]
  rw [List.countP_filter]
  refine List.countP_congr fun x mem => ?_
  obtain ⟨r, answer⟩ := x
  cases r with
  | removeFile path => simp [sound path answer mem, CleanupRequest.isDelete]
  | deleteObject key => simp [CleanupRequest.isDelete]
  | note n => simp [CleanupTrace.isFailure]

end FileTree

open FileTree

def cleanupSite : Surroundings CleanupRequest CleanupRequest.Answer (FileTree × ObjectMap) :=
  FileTree.aroundCleanups.beside ObjectMap.aroundCleanups

/-- The same where only the tree makes a removal fail. -/
def trueSite : Surroundings CleanupRequest CleanupRequest.Answer (FileTree × ObjectMap) :=
  FileTree.trueToTree.beside ObjectMap.aroundCleanups

namespace CleanupTask

variable {task : CleanupTask} {t t' : FileTree} {m m' : ObjectMap} {trace : CleanupTrace}
  {failures : Nat}

/-- What a cleanup comes to. -/
structure CleanedUp (task : CleanupTask) (before after : FileTree × ObjectMap)
    (trace : CleanupTrace) (failures : Nat) : Prop where
  steps_eq : CleanupTrace.steps trace = task.steps
  failures_eq : failures = trace.countP CleanupTrace.isFailure
  deletes_eq : (trace.filter (·.request.isDelete)).map (·.request) =
    if task.mode.removesSource then [.deleteObject task.sourceKey] else []
  /-- Every place but those of the selected files holds what it held. -/
  places : ∀ q, after.1.get? q = before.1.get? q ∨ after.1.get? q = none ∧ before.1.HasFile q ∧
    ∃ path, .removeFile path ∈ task.steps ∧ before.1.locate path = .ok (.named q)
  objects : ∀ key, after.2.get? key = before.2.get? key ∨
    task.mode.removesSource = true ∧ key = task.sourceKey
  gone : failures = 0 → ∀ path, .removeFile path ∈ task.steps → after.1.Vacant path
  /-- The same once more changes no file and fails at most to delete the source. -/
  again : failures = 0 → ∀ objects, trueSite.Completes task.perform (after.1, objects)
    fun trace' after' failures' => after'.1 = after.1 ∧
      failures' = (trace'.filter (·.request.isDelete)).countP CleanupTrace.isFailure

theorem objects_of_follows (run : task.perform.Runs trace failures)
    (follows : ObjectMap.aroundCleanups.Follows m trace m') (key : String) :
    m'.get? key = m.get? key ∨ task.mode.removesSource = true ∧ key = task.sourceKey := by
  cases selected : task.mode.removesSource with
  | true =>
    have cleaned := Surroundings.runs_iff.mpr ⟨run, follows⟩
    by_cases source : key = task.sourceKey
    · exact .inr ⟨rfl, source⟩
    · exact .inl ((ObjectMap.get?_of_cleanup cleaned selected).1 key (Ne.symm source))
  | false =>
    have none : trace.filter (·.request.isDelete) = [] := by
      have deletes := perform_delete_requests run
      rw [if_neg (Bool.eq_false_iff.mp selected)] at deletes
      exact List.map_eq_nil_iff.mp deletes
    have untouched := follows.filter ObjectMap.aroundCleanups_idle
    rw [none] at untouched
    cases untouched
    exact .inl rfl

theorem misses_of_clean (run : task.perform.Runs trace 0)
    (follows : aroundCleanups.Follows t trace t') {path : Path}
    (selected : .removeFile path ∈ task.steps) : t'.Misses path := by
  rw [← perform_steps run] at selected
  obtain ⟨_, answer, mem⟩ := CleanupTrace.mem_steps.mp selected
  exact misses_of_follows follows mem fun e same => perform_clean run (same ▸ mem)

theorem trueSite_possible (s : FileTree × ObjectMap) (r : CleanupRequest) :
    ∃ answer s', trueSite.Allows s r answer s' := by
  obtain ⟨t, m⟩ := s
  cases r with
  | removeFile path =>
    cases removed : t.removeFile path with
    | ok t' => exact ⟨.ok (), (t', m), removed, rfl⟩
    | error e => exact ⟨.error e, (t, m), ⟨removed, rfl⟩, rfl⟩
  | deleteObject key => exact ⟨.ok (), (t, m.erase key), rfl, rfl⟩
  | note n => exact ⟨(), (t, m), rfl, rfl⟩

theorem cleanupSite_possible (s : FileTree × ObjectMap) (r : CleanupRequest) :
    ∃ answer s', cleanupSite.Allows s r answer s' := by
  obtain ⟨answer, s', disk, store⟩ := trueSite_possible s r
  exact ⟨answer, s', disk.allowsCleanup, store⟩

/-- Where all files are missing, the same cleanup has nothing to do on the disk. -/
theorem completes_of_misses (misses : ∀ path, .removeFile path ∈ task.steps → t.Misses path) :
    trueSite.Completes task.perform (t, m) fun trace after failures => after.1 = t ∧
      failures = (trace.filter (·.request.isDelete)).countP CleanupTrace.isFailure := by
  refine Surroundings.completes_of_runs trueSite_possible fun trace after failures run => ?_
  obtain ⟨performed, follows⟩ := Surroundings.runs_iff.mp run
  obtain ⟨disk, _⟩ := Surroundings.follows_beside_iff.mp follows
  have missing : ∀ path answer, ⟨.removeFile path, answer⟩ ∈ trace → t.Misses path := by
    intro path answer mem
    refine misses path ?_
    rw [← perform_steps performed]
    exact CleanupTrace.mem_steps.mpr ⟨rfl, answer, mem⟩
  refine ⟨unchanged_of_misses (follows_of_trueToTree disk) missing, ?_⟩
  rw [perform_failures performed, failures_of_misses disk missing]

theorem cleanedUp_of_runs {before after : FileTree × ObjectMap}
    (run : cleanupSite.Runs before task.perform trace after failures) :
    task.CleanedUp before after trace failures := by
  obtain ⟨performed, follows⟩ := Surroundings.runs_iff.mp run
  obtain ⟨disk, store⟩ := Surroundings.follows_beside_iff.mp follows
  refine ⟨perform_steps performed, perform_failures performed, perform_delete_requests performed,
    fun q => ?_, objects_of_follows performed store, ?_, ?_⟩
  · refine (removed_of_follows disk q).imp_right ?_
    rintro ⟨gone, had, path, answer, mem, located⟩
    have selected : .removeFile path ∈ CleanupTrace.steps trace :=
      CleanupTrace.mem_steps.mpr ⟨rfl, answer, mem⟩
    exact ⟨gone, had, path, perform_steps performed ▸ selected, located⟩
  · rintro rfl path selected
    exact (misses_of_clean performed disk selected).vacant
  · rintro rfl objects
    exact completes_of_misses fun path selected => misses_of_clean performed disk selected

end CleanupTask

/-- A cleanup always comes to an end, and takes all its steps, counts those that fail and touches
nothing else. -/
theorem cleanup_best_effort (task : CleanupTask) (before : FileTree × ObjectMap) :
    cleanupSite.Completes task.perform before fun trace after failures =>
      task.CleanedUp before after trace failures :=
  Surroundings.completes_of_runs CleanupTask.cleanupSite_possible fun _ _ _ run =>
    CleanupTask.cleanedUp_of_runs run

end ImageWorker
