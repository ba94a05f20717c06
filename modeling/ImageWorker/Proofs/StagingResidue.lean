import ImageWorker.Proofs.FileTreeChanges
import ImageWorker.Proofs.JobEffects
import ImageWorker.Proofs.JobStore

/-!
# What a job leaves in the staging area

A file that a job creates is one that it has tried to write, and a write that fails may leave one
too. The cleanup of the job names every such file and removes it, with one exception: a job whose
first write fails schedules a cleanup that names no file, so whatever that write left stays.
-/

namespace ImageWorker

open Pipeline JobTrace CleanupTask

namespace FileTree

/-- What the disk can come to when a job has an answer. -/
def AllowsJob (before : FileTree) : (r : JobRequest) → r.Answer → FileTree → Prop
  | .save path content, .ok (), after => before.saveFile path content = (.ok (), after)
  | .save path content, .error _, after => before.MayWrite path content after
  | _, _, after => after = before

def aroundJobs : Surroundings JobRequest JobRequest.Answer FileTree where
  Allows := AllowsJob
  Drifts before after := after = before

def AllowsCleanup (before : FileTree) : (r : CleanupRequest) → r.Answer → FileTree → Prop
  | .removeFile path, .ok (), after => before.removeFile path = .ok after
  | .removeFile path, .error e, after =>
    after = before ∧
      (e.kind = .notFound → ∃ why, before.removeFile path = .error why ∧ why.kind = .notFound)
  | _, _, after => after = before

def aroundCleanups : Surroundings CleanupRequest CleanupRequest.Answer FileTree where
  Allows := AllowsCleanup
  Drifts before after := after = before

end FileTree

/-- The path that is written, and whether that succeeds. -/
def JobExchange.saving? : JobExchange → Option (Path × Bool)
  | ⟨.save path _, answer⟩ => some (path, Except.isOk answer)
  | _ => none

namespace JobTrace

variable {trace first second : JobTrace}

def savings (trace : JobTrace) : List (Path × Bool) := trace.filterMap JobExchange.saving?

/-- The first file could not be written. -/
def FirstSavingFails (trace : JobTrace) : Prop := ∃ path, savings trace = [(path, false)]

@[simp] theorem savings_nil : savings [] = [] := rfl

@[simp] theorem savings_cons (x : JobExchange) (trace : JobTrace) :
    savings (x :: trace) = x.saving?.toList ++ savings trace := by
  rw [savings, List.filterMap_cons]
  cases x.saving? <;> rfl

@[simp] theorem savings_append : savings (first ++ second) = savings first ++ savings second := by
  simp [savings]

theorem Quiet.savings (quiet : Quiet trace) : savings trace = [] := by
  refine List.filterMap_eq_nil_iff.mpr fun x mem => ?_
  have report := quiet x mem
  obtain ⟨r, answer⟩ := x
  cases r with
  | note | elapsed => rfl
  | _ => exact absurd report Bool.false_ne_true

end JobTrace

namespace FileTree

theorem AllowsJob.changes {s s' : FileTree} {x : JobExchange}
    (allowed : AllowsJob s x.request x.answer s') :
    (∃ path content saved, x.saving? = some (path, saved) ∧ s.MayWrite path content s') ∨
      x.saving? = none ∧ s' = s := by
  obtain ⟨r, answer⟩ := x
  cases r with
  | save path content =>
    refine .inl ⟨path, content, _, rfl, ?_⟩
    match answer, allowed with
    | .ok (), allowed =>
      have saved := saveFile_mayWrite s path (List.prefix_refl content)
      rwa [show s.saveFile path content = (.ok (), s') from allowed] at saved
    | .error e, allowed => exact allowed
  | _ => exact .inr ⟨rfl, allowed⟩

/-- A file that is new after the exchanges of a job has a path that the job has tried to write. -/
theorem new_of_follows {t t' : FileTree} {trace : JobTrace}
    (follows : aroundJobs.Follows t trace t') :
    t.KeepsDirectories t' ∧ ∀ place, t'.HasFile place → ¬ t.HasFile place →
      ∃ path ∈ (savings trace).map (·.1), t'.locate path = .ok (.named place) := by
  induction follows with
  | start t => exact ⟨.refl t, fun place has new => absurd has new⟩
  | @step s s' s'' r answer trace allowed _ ih =>
    obtain ⟨keeps, later⟩ := ih
    rcases AllowsJob.changes (x := ⟨r, answer⟩) allowed with
      ⟨path, content, saved, saving, written⟩ | ⟨idle, rfl⟩
    · refine ⟨written.keepsDirectories.trans keeps, fun place has new => ?_⟩
      have saves : (savings (⟨r, answer⟩ :: trace)).map (·.1) =
          path :: (savings trace).map (·.1) := by
        simp [saving]
      rw [saves]
      -- A file that stands after this write is its own; any other is new in the rest.
      by_cases before : s'.HasFile place
      · exact ⟨path, List.mem_cons_self,
          locate_of_keeps keeps (written.locate_new before new)⟩
      · obtain ⟨path', mem, located⟩ := later place has before
        exact ⟨path', List.mem_cons_of_mem _ mem, located⟩
    · rw [savings_cons, idle]
      exact ⟨keeps, later⟩

end FileTree

namespace Pipeline

variable {p : Pipeline} {job : Job} {trace rest : JobTrace}

theorem Tries.savings {α : Type} {exchange : Race (Except StorageError α) → JobExchange}
    {result : Except JobError α} (tried : Tries exchange trace result)
    (attempts : ∀ answer, (exchange answer).saving? = none) : savings trace = [] := by
  refine List.filterMap_eq_nil_iff.mpr fun x mem => ?_
  rcases tried.attempt_or_waits mem with ⟨answer, rfl⟩ | waiting
  · exact attempts answer
  · obtain ⟨r, answer⟩ := x
    cases r with
    | isStopping | pause | note => rfl
    | _ => exact absurd waiting Bool.false_ne_true

def Milestone.files : Milestone → List Path
  | announced | downloaded _ => []
  | staged _ rawPath | transformed rawPath _ _ => [rawPath]
  | resultStaged rawPath _ _ resultPath | uploaded rawPath _ _ resultPath _ => [rawPath, resultPath]

theorem Passes.savings_eq {m : Milestone} (passed : Passes p job trace m) :
    savings trace = m.files.map (·, true) := by
  induction passed with
  | announced quiet quietAfter =>
    simp [quiet.savings, quietAfter.savings, JobExchange.saving?, Milestone.files]
  | downloaded _ tried ih | uploaded _ tried ih =>
    rw [savings_append, tried.savings fun _ => rfl, ih, List.append_nil]
    rfl
  | staged _ _ ih | transformed _ _ ih | resultStaged _ _ _ ih =>
    rw [savings_append, ih]
    rfl

theorem Passes.savings_append {m : Milestone} (passed : Passes p job trace m) (rest : JobTrace) :
    savings (trace ++ rest) = m.files.map (·, true) ++ savings rest := by
  rw [JobTrace.savings_append, passed.savings_eq]

/-- The cleanup of a failed stage names what was written, unless it was the first file that could
not be written. -/
theorem Fails.savings {stage : Stage} {rawPath resultPath : Option Path} {e : JobError}
    (failed : Fails p job trace stage rawPath resultPath e) :
    FirstSavingFails trace ∧ stage = .download ∧ rawPath = none ∧ resultPath = none ∨
      ¬ FirstSavingFails trace ∧ ∀ path ∈ (savings trace).map (·.1), .removeFile path ∈
        CleanupTask.steps ⟨stage.cleanupMode, job.sourceKey, rawPath, resultPath⟩ := by
  cases failed with
  | @rawFile _ _ rawPath _ passed =>
    exact .inl ⟨⟨rawPath, passed.savings_append _⟩, rfl, rfl, rfl⟩
  | download passed tried =>
    right
    rw [FirstSavingFails, passed.savings_append, tried.savings fun _ => rfl]
    simp [Milestone.files]
  | rawKey passed =>
    right
    rw [FirstSavingFails, passed.savings_eq]
    simp [Milestone.files]
  | request passed | deriveKey passed | resultKey passed =>
    right
    rw [FirstSavingFails, passed.savings_eq]
    simp [Milestone.files, removeFile_mem_steps_iff, Stage.cleanupMode, CleanupMode.removesRaw]
  | transform passed =>
    right
    rw [FirstSavingFails, passed.savings_append]
    simp [Milestone.files, JobExchange.saving?, removeFile_mem_steps_iff, Stage.cleanupMode,
      CleanupMode.removesRaw]
  | resultFile passed =>
    right
    rw [FirstSavingFails, passed.savings_append]
    simp [Milestone.files, JobExchange.saving?, removeFile_mem_steps_iff, Stage.cleanupMode,
      CleanupMode.removesRaw, CleanupMode.removesProcessed]
  | upload passed tried =>
    right
    rw [FirstSavingFails, passed.savings_append, tried.savings fun _ => rfl]
    simp [Milestone.files, removeFile_mem_steps_iff, Stage.cleanupMode, CleanupMode.removesRaw,
      CleanupMode.removesProcessed]

/-- The cleanup of a stopped job names what was written. -/
theorem Stops.savings {files : Option (Path × Path)} (stopped : Stops p job trace files) :
    ¬ FirstSavingFails trace ∧ ∀ path ∈ (savings trace).map (·.1),
      localCleanup job files ≠ [] ∧
        ∀ task ∈ localCleanup job files, .removeFile path ∈ task.steps := by
  cases stopped with
  | announcing quiet => simp [FirstSavingFails, quiet.savings, JobExchange.saving?]
  | downloading passed tried =>
    rw [FirstSavingFails, passed.savings_append, tried.savings fun _ => rfl]
    simp [Milestone.files]
  | uploading passed tried =>
    rw [FirstSavingFails, passed.savings_append, tried.savings fun _ => rfl]
    simp [Milestone.files, localCleanup, removeFile_mem_steps_iff, CleanupMode.removesRaw,
      CleanupMode.removesProcessed]

theorem Closes.savings_eq {event : StatusEvent} {published : Except QueueError Unit}
    {task : CleanupTask} (closes : Closes event published task trace) : savings trace = [] := by
  obtain ⟨before, between, after, quiet, quietBetween, quietAfter, rfl⟩ := closes
  simp [quiet.savings, quietBetween.savings, quietAfter.savings, scheduled, JobExchange.saving?]

theorem savings_scheduled (ts : List CleanupTask) : savings (ts.map scheduled) = [] := by
  induction ts with
  | nil => rfl
  | cons t ts ih => exact ih

/-- Either the first file could not be written, and the one cleanup names no file, or every cleanup
names every file that the job has tried to write. -/
theorem Ends.savings {outcome : Outcome} (ends : Ends p job trace outcome) :
    FirstSavingFails trace ∧ tasks trace = [⟨.deleteSource, job.sourceKey, none, none⟩] ∨
      ¬ FirstSavingFails trace ∧ ∀ path ∈ (savings trace).map (·.1),
        tasks trace ≠ [] ∧ ∀ task ∈ tasks trace, .removeFile path ∈ task.steps := by
  cases ends with
  | unannounced quiet quietAfter =>
    right
    simp [FirstSavingFails, quiet.savings, quietAfter.savings, JobExchange.saving?]
  | stopped stopped =>
    right
    rw [FirstSavingFails, savings_append, savings_scheduled, List.append_nil, tasks_append,
      stopped.shown.2, tasks_scheduled]
    exact stopped.savings
  | failed failed closes =>
    rw [FirstSavingFails, savings_append, closes.savings_eq, List.append_nil, tasks_append,
      failed.underWay.tasks_eq, closes.tasks_eq]
    rcases failed.savings with ⟨fails, rfl, rfl, rfl⟩ | ⟨writes, named⟩
    · exact .inl ⟨fails, rfl⟩
    · exact .inr ⟨writes, fun path mem => ⟨nofun, by simpa using named path mem⟩⟩
  | processed passed closes =>
    right
    rw [FirstSavingFails, passed.savings_append, closes.savings_eq, tasks_append,
      passed.underWay.tasks_eq, closes.tasks_eq]
    simp [Milestone.files, removeFile_mem_steps_iff, CleanupMode.removesRaw,
      CleanupMode.removesProcessed]

end Pipeline

namespace FileTree

variable {t t' t'' : FileTree} {steps : CleanupTrace} {path : Path} {place : Place}

/-- What a cleanup does to the disk: it removes the file of a path, or nothing. -/
theorem AllowsCleanup.removes {r : CleanupRequest} {answer : r.Answer}
    (allowed : AllowsCleanup t r answer t') :
    t' = t ∨ ∃ path place, r = .removeFile path ∧ t.locate path = .ok (.named place) ∧
      t.HasFile place ∧ t' = t.erase place := by
  cases r with
  | removeFile path =>
    match answer, allowed with
    | .ok (), allowed =>
      obtain ⟨place, located, has, rfl⟩ := removeFile_eq allowed
      exact .inr ⟨path, place, rfl, located, has, rfl⟩
    | .error e, allowed => exact .inl allowed.1
  | deleteObject | note => exact .inl allowed

theorem HasFile.of_erase {other : Place} (below : other ≠ [])
    (has : (t.erase other).HasFile place) : place ≠ other ∧ t.HasFile place := by
  rw [HasFile, get?_erase t below] at has
  split at has
  · obtain ⟨_, none⟩ := has
    cases none
  next distinct => exact ⟨distinct, has⟩

/-- A place holds what it held, or its file is gone and was named. -/
theorem removed_of_follows (follows : aroundCleanups.Follows t steps t') (q : Place) :
    t'.get? q = t.get? q ∨ t'.get? q = none ∧ t.HasFile q ∧ ∃ path answer,
      ⟨.removeFile path, answer⟩ ∈ steps ∧ t.locate path = .ok (.named q) := by
  induction follows with
  | start t => exact .inl rfl
  | @step t s t' r answer steps allowed _ ih =>
    rcases AllowsCleanup.removes allowed with rfl | ⟨path, place, rfl, located, has, rfl⟩
    · refine ih.imp_right ?_
      rintro ⟨gone, had, path, answer, mem, located⟩
      exact ⟨gone, had, path, answer, List.mem_cons_of_mem _ mem, located⟩
    · have below := locate_ne_nil located
      by_cases here : q = place
      · subst here
        have erased : (t.erase q).get? q = none := by rw [get?_erase t below, if_pos rfl]
        have gone : t'.get? q = none := by
          rcases ih with same | ⟨gone, _⟩
          · exact same.trans erased
          · exact gone
        exact .inr ⟨gone, has, path, answer, List.mem_cons_self, located⟩
      · have kept : (t.erase place).get? q = t.get? q := by rw [get?_erase t below, if_neg here]
        rw [kept] at ih
        refine ih.imp_right ?_
        rintro ⟨gone, had, path', answer', mem, located'⟩
        -- No directory was made, so the path led there before as well.
        have keeps : (t.erase place).KeepsDirectories t := by
          intro r stands
          rw [get?_erase t below] at stands
          split at stands
          · cases stands
          · exact stands
        exact ⟨gone, (had.of_erase below).2, path', answer', List.mem_cons_of_mem _ mem,
          locate_of_keeps keeps located'⟩

/-- A cleanup takes files away and nothing else. -/
theorem sheds_of_follows (follows : aroundCleanups.Follows t steps t') : t.Sheds t' := by
  intro q
  rcases removed_of_follows follows q with same | ⟨gone, had, _⟩
  · exact .inl same
  · exact .inr ⟨had, gone⟩

/-- A file that was removed, or was missing, is missing at the end. -/
theorem misses_of_follows (follows : aroundCleanups.Follows t steps t')
    {answer : Except IoError Unit} (mem : ⟨.removeFile path, answer⟩ ∈ steps)
    (clean : ∀ e, answer = .error e → e.kind = .notFound) : t'.Misses path := by
  obtain ⟨before, after, rfl⟩ := List.append_of_mem mem
  obtain ⟨s, _, onwards⟩ := Surroundings.follows_append_iff.mp follows
  cases onwards with
  | @step _ s' _ _ _ _ allowed later =>
    refine Misses.of_sheds ?_ (sheds_of_follows later)
    match answer, clean, allowed with
    | .ok (), _, allowed =>
      obtain ⟨place, located, has, rfl⟩ := removeFile_eq allowed
      have below := locate_ne_nil located
      have located' := locate_of_keeps (.erase has.not_directory below) located
      have gone : (s.erase place).get? place = none := by rw [get?_erase s below, if_pos rfl]
      refine ⟨.missing, ?_, rfl⟩
      rw [removeFile, located']
      simp only [gone]
    | .error e, clean, ⟨same, missing⟩ =>
      obtain ⟨why, failed, kind_eq⟩ := missing (clean e rfl)
      exact same ▸ ⟨why, failed, kind_eq⟩

/-- The file of such a path is gone at the end. -/
theorem gone_of_follows (follows : aroundCleanups.Follows t steps t')
    {answer : Except IoError Unit} (mem : ⟨.removeFile path, answer⟩ ∈ steps)
    (clean : ∀ e, answer = .error e → e.kind = .notFound)
    (located : t.locate path = .ok (.named place)) : ¬ t'.HasFile place := by
  obtain ⟨e, failed, missing⟩ := misses_of_follows follows mem clean
  have reached := locate_of_keeps (sheds_of_follows follows).keepsDirectories located
  exact not_hasFile_of_notFound failed missing reached

/-- A cleanup whose files are missing leaves the tree as it is. -/
theorem unchanged_of_misses (follows : aroundCleanups.Follows t steps t')
    (misses : ∀ path answer, ⟨.removeFile path, answer⟩ ∈ steps → t.Misses path) : t' = t := by
  induction follows with
  | start t => rfl
  | @step t s t' r answer steps allowed _ ih =>
    obtain rfl : s = t := by
      rcases AllowsCleanup.removes allowed with same | ⟨path, place, rfl, located, has, _⟩
      · exact same
      · obtain ⟨e, failed, missing⟩ := misses path answer List.mem_cons_self
        exact absurd has (not_hasFile_of_notFound failed missing located)
    exact ih fun path answer mem => misses path answer (List.mem_cons_of_mem _ mem)

/-- A cleanup that names no file leaves the disk as it is. -/
theorem unchanged_of_follows (follows : aroundCleanups.Follows t steps t')
    (unnamed : ∀ x ∈ steps, ∀ path, x.request ≠ .removeFile path) : t' = t :=
  unchanged_of_misses follows fun path _ mem => absurd rfl (unnamed _ mem path)

end FileTree

open FileTree

variable {p : Pipeline} {body : Bytes} {before after : FileTree} {trace : JobTrace}
  {outcome : Outcome}

/-- Every file that a job creates is named by its cleanup, and gone once that cleanup has had no
failure, unless the first file of the job could not be written. Then the cleanup names no file and
leaves the disk as it is. -/
theorem staging_residue
    (run : FileTree.aroundJobs.Runs before (p.process body) trace after outcome) :
    (¬ FirstSavingFails trace →
      (∀ place, after.HasFile place → ¬ before.HasFile place → ∃ task ∈ tasks trace, ∃ path,
        .removeFile path ∈ task.steps ∧ after.locate path = .ok (.named place)) ∧
      ∀ task ∈ tasks trace, ∀ steps final,
        FileTree.aroundCleanups.Runs after task.perform steps final 0 →
          ∀ place, final.HasFile place → before.HasFile place) ∧
    (FirstSavingFails trace → ∃ task, tasks trace = [task] ∧
      (∀ path, .removeFile path ∉ task.steps) ∧ ∀ steps final failures,
        FileTree.aroundCleanups.Runs after task.perform steps final failures → final = after) := by
  obtain ⟨ran, follows⟩ := Surroundings.runs_iff.mp run
  have created := (new_of_follows follows).2
  constructor
  · intro writes
    have named : ∀ path ∈ (savings trace).map (·.1),
        tasks trace ≠ [] ∧ ∀ task ∈ tasks trace, .removeFile path ∈ task.steps := by
      rcases process_ends ran with ⟨_, _, rfl, _⟩ | ⟨envelope, _, ends⟩
      · exact List.forall_mem_nil _
      · exact (ends.savings.resolve_left fun fails => writes fails.1).2
    constructor
    · intro place has new
      obtain ⟨path, mem, located⟩ := created place has new
      obtain ⟨some, removed⟩ := named path mem
      obtain ⟨task, among⟩ := List.exists_mem_of_ne_nil _ some
      exact ⟨task, among, path, removed task among, located⟩
    · intro task among steps final cleaned place left
      obtain ⟨performed, follows'⟩ := Surroundings.runs_iff.mp cleaned
      refine Classical.byContradiction fun new => ?_
      have has := (sheds_of_follows follows').hasFile left
      obtain ⟨path, mem, located⟩ := created place has new
      have called : .removeFile path ∈ CleanupTrace.steps steps :=
        perform_steps performed ▸ (named path mem).2 task among
      obtain ⟨_, answer, taken⟩ := CleanupTrace.mem_steps.mp called
      exact gone_of_follows follows' taken (fun e same => perform_clean performed (same ▸ taken))
        located left
  · intro fails
    rcases process_ends ran with ⟨_, _, rfl, _⟩ | ⟨envelope, _, ends⟩
    · obtain ⟨path, nothing⟩ := fails
      cases nothing
    · obtain ⟨_, single⟩ := ends.savings.resolve_right fun writes => writes.1 fails
      have unnamed (path : Path) : .removeFile path ∉
          CleanupTask.steps ⟨.deleteSource, envelope.job.sourceKey, none, none⟩ := by
        simp [removeFile_mem_steps_iff]
      refine ⟨_, single, unnamed, fun steps final failures cleaned => ?_⟩
      obtain ⟨performed, follows'⟩ := Surroundings.runs_iff.mp cleaned
      refine unchanged_of_follows follows' ?_
      rintro ⟨r, answer⟩ mem path rfl
      exact unnamed path (perform_steps performed ▸ CleanupTrace.mem_steps.mpr ⟨rfl, answer, mem⟩)

namespace FileTree

/-- The answers to a job on a disk that saves files in a given way, where all else goes well. -/
def answerJob (save : FileTree → Path → Bytes → Except IoError Unit × FileTree) (t : FileTree) :
    (r : JobRequest) → r.Answer × FileTree
  | .save path content => save t path content
  | r => ((ObjectMap.oblige ⟨[("raw/a.png", [1])]⟩ r).1, t)

/-- A full disk still has room for the name of a file. -/
def saveOnFull (t : FileTree) (path : Path) (_ : Bytes) : Except IoError Unit × FileTree :=
  (.error .noSpace, (t.saveFile path []).2)

theorem answerJob_allowed {save : FileTree → Path → Bytes → Except IoError Unit × FileTree}
    (faithful : ∀ t path content, AllowsJob t (.save path content) (save t path content).1
      (save t path content).2) (t : FileTree) (r : JobRequest) :
    aroundJobs.Allows t r (answerJob save t r).1 (answerJob save t r).2 := by
  cases r with
  | save path content => exact faithful t path content
  | _ => rfl

theorem saveFile_allowed (t : FileTree) (path : Path) (content : Bytes) :
    AllowsJob t (.save path content) (t.saveFile path content).1 (t.saveFile path content).2 := by
  have changes := saveFile_mayWrite t path (List.prefix_refl content)
  cases saved : t.saveFile path content with
  | mk result t' =>
    rw [saved] at changes
    cases result with
    | ok => exact saved
    | error => exact changes

theorem saveOnFull_allowed (t : FileTree) (path : Path) (content : Bytes) :
    AllowsJob t (.save path content) (t.saveOnFull path content).1
      (t.saveOnFull path content).2 :=
  saveFile_mayWrite t path List.nil_prefix

/-- The answers to a cleanup that finds what it is to remove. -/
def answerCleanup (t : FileTree) : (r : CleanupRequest) → r.Answer × FileTree
  | .removeFile path =>
    match t.removeFile path with
    | .ok t' => (.ok (), t')
    | .error e => (.error e, t)
  | .deleteObject _ => (.ok (), t)
  | .note _ => ((), t)

theorem answerCleanup_allowed (t : FileTree) (r : CleanupRequest) :
    aroundCleanups.Allows t r (t.answerCleanup r).1 (t.answerCleanup r).2 := by
  cases r with
  | removeFile path =>
    simp only [answerCleanup]
    split
    next removed => exact removed
    next failed => exact ⟨rfl, fun missing => ⟨_, failed, missing⟩⟩
  | deleteObject | note => rfl

end FileTree

def turnOnDisk (sourceKey : String) (answer : FileTree → (r : JobRequest) → r.Answer × FileTree) :
    JobTrace × FileTree × Outcome :=
  (localPipeline.process (turnDelivery sourceKey)).replies answer .empty

theorem turnOnDisk_runs (sourceKey : String)
    {answer : FileTree → (r : JobRequest) → r.Answer × FileTree}
    (allowed : ∀ t r, FileTree.aroundJobs.Allows t r (answer t r).1 (answer t r).2) :
    FileTree.aroundJobs.Runs .empty (localPipeline.process (turnDelivery sourceKey))
      (turnOnDisk sourceKey answer).1 (turnOnDisk sourceKey answer).2.1
      (turnOnDisk sourceKey answer).2.2 :=
  Surroundings.runs_replies allowed _ _

def cleanedDisk (sourceKey : String) : CleanupTrace × FileTree × Nat :=
  (turnCleanup sourceKey).perform.replies answerCleanup
    (turnOnDisk sourceKey (answerJob saveFile)).2.1

theorem cleanedDisk_runs (sourceKey : String) :
    FileTree.aroundCleanups.Runs (turnOnDisk sourceKey (answerJob saveFile)).2.1
      (turnCleanup sourceKey).perform (cleanedDisk sourceKey).1 (cleanedDisk sourceKey).2.1
      (cleanedDisk sourceKey).2.2 :=
  Surroundings.runs_replies answerCleanup_allowed _ _

theorem staging_residue_of_room :
    (turnOnDisk "raw/a.png" (answerJob saveFile)).2.1.get? ["raw", "raw", "a.png"] =
        some (.file [1]) ∧
      ∀ place, ¬ (cleanedDisk "raw/a.png").2.1.HasFile place := by
  have writes : ¬ FirstSavingFails (turnOnDisk "raw/a.png" (answerJob saveFile)).1 := by
    rintro ⟨path, same⟩
    have twice : (savings (turnOnDisk "raw/a.png" (answerJob saveFile)).1).length = 2 := by
      decide +kernel
    simp [same] at twice
  have cleanup : turnCleanup "raw/a.png" ∈
      tasks (turnOnDisk "raw/a.png" (answerJob saveFile)).1 := by
    decide +kernel
  have clean : (cleanedDisk "raw/a.png").2.2 = 0 := by decide +kernel
  have cleaned := cleanedDisk_runs "raw/a.png"
  rw [clean] at cleaned
  refine ⟨by decide +kernel, fun place left => ?_⟩
  obtain ⟨content, stands⟩ := ((staging_residue
    (turnOnDisk_runs "raw/a.png" (answerJob_allowed saveFile_allowed))).1 writes).2 _ cleanup _ _
      cleaned place left
  cases place <;> cases stands

/-- On a full disk an empty file is created and not named by the cleanup. -/
theorem staging_residue_is_left :
    ¬ ∀ (p : Pipeline) (body : Bytes) (before after : FileTree) (trace : JobTrace)
        (outcome : Outcome), FileTree.aroundJobs.Runs before (p.process body) trace after outcome →
        (verdicts trace).length = 1 ∨ outcome = .error .cancelled →
        ∀ place, after.HasFile place → ¬ before.HasFile place → ∃ task ∈ tasks trace, ∃ path,
          .removeFile path ∈ task.steps ∧ after.locate path = .ok (.named place) := by
  intro named
  have reported : (verdicts (turnOnDisk "raw/a.png" (answerJob saveOnFull)).1).length = 1 := by
    decide +kernel
  have left : (turnOnDisk "raw/a.png" (answerJob saveOnFull)).2.1.get? ["raw", "raw", "a.png"] =
      some (.file []) := by
    decide +kernel
  have cleanup : tasks (turnOnDisk "raw/a.png" (answerJob saveOnFull)).1 =
      [⟨.deleteSource, "raw/a.png", none, none⟩] := by
    decide +kernel
  obtain ⟨task, among, path, removed, _⟩ := named _ _ _ _ _ _
    (turnOnDisk_runs "raw/a.png" (answerJob_allowed saveOnFull_allowed)) (.inl reported) _
    ⟨[], left⟩ (fun ⟨_, stands⟩ => nomatch stands)
  rw [cleanup] at among
  obtain rfl := List.mem_singleton.mp among
  simp [removeFile_mem_steps_iff] at removed

end ImageWorker
