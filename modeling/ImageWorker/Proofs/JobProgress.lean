import ImageWorker.Proofs.StorageCall

/-!
# How a job goes on and ends

A job passes one milestone after the other. Between two of them a stage can fail, and as long as
the result is not uploaded shutdown can stop the job. `Passes`, `Fails` and `Stops` describe these
courses exchange by exchange and without the program, `Ends` describes whole ones, and
`process_ends` says that nothing else happens, whatever the answers are.
-/

namespace ImageWorker

namespace Pipeline

open JobTrace

/-- The failure to publish that ends a job: only a fatal one. -/
def fatal? : Except QueueError Unit → Option QueueError
  | .ok () => none
  | .error e => if e.errorClass.isFatal then some e else none

/-- A published status as the rest of the job learns of it. -/
def passedOn (published : Except QueueError Unit) : Except QueueError Unit :=
  match fatal? published with
  | some e => .error e
  | none => .ok ()

/-- What comes of a job after its last announcement. -/
def concluded (published : Except QueueError Unit) (otherwise : Outcome) : Outcome :=
  match fatal? published with
  | some e => .error (.terminalPublishFailed e)
  | none => otherwise

def downloadExchange (key : String) (answer : Race (Except StorageError Bytes)) : JobExchange :=
  ⟨.download key, answer⟩

def uploadExchange (key : String) (image : TransformedImage)
    (answer : Race (Except StorageError String)) : JobExchange :=
  ⟨.upload key image.bytes image.format.contentType, answer⟩

def downloadNote (job : Job) (raw : Bytes) : Note :=
  .log ((logOf job).stageDone Stage.download.name (toString raw.length ++ " bytes"))

def transformNote (job : Job) (image : TransformedImage) : Note :=
  .log ((logOf job).stageDone Stage.transform.name
    (toString image.width ++ "x" ++ toString image.height ++ " " ++ image.format.contentType))

/-- Where a job stands between two stages, with what the rest of it depends on. -/
inductive Milestone where
  | announced
  | downloaded (raw : Bytes)
  | staged (raw : Bytes) (rawPath : Path)
  | transformed (rawPath : Path) (t : Transformation) (image : TransformedImage)
  | resultStaged (rawPath : Path) (key : String) (image : TransformedImage) (resultPath : Path)
  | uploaded (rawPath : Path) (key : String) (image : TransformedImage) (resultPath : Path)
      (url : String)

/-- `Passes p job trace m`: with the exchanges of `trace` the job gets to `m`. -/
inductive Passes (p : Pipeline) (job : Job) : JobTrace → Milestone → Prop where
  | announced {before after : JobTrace} {published : Except QueueError Unit} :
      Quiet before → Quiet after → fatal? published = none →
        Passes p job
          (before ++ ⟨.announceUnlessStopped (.processing job), .finished published⟩ :: after)
          .announced
  | downloaded {trace calls : JobTrace} {raw : Bytes} :
      Passes p job trace .announced → Tries (downloadExchange job.sourceKey) calls (.ok raw) →
        Passes p job (trace ++ calls) (.downloaded raw)
  | staged {trace : JobTrace} {raw : Bytes} {rawPath : Path} :
      Passes p job trace (.downloaded raw) → p.staging.rawPath job.sourceKey = .ok rawPath →
        Passes p job
          (trace ++ [⟨.save rawPath raw, .ok ()⟩, ⟨.note (downloadNote job raw), ()⟩])
          (.staged raw rawPath)
  | transformed {trace : JobTrace} {raw : Bytes} {rawPath : Path} {t : Transformation}
      {image : TransformedImage} :
      Passes p job trace (.staged raw rawPath) → job.transformation = .ok t →
        Passes p job
          (trace ++ [⟨.transform raw t, .ok image⟩, ⟨.note (transformNote job image), ()⟩])
          (.transformed rawPath t image)
  | resultStaged {trace : JobTrace} {rawPath resultPath : Path} {t : Transformation}
      {image : TransformedImage} {key : String} :
      Passes p job trace (.transformed rawPath t image) →
        destinationKey job.sourceKey t = .ok key → p.staging.processedPath key = .ok resultPath →
        Passes p job (trace ++ [⟨.save resultPath image.bytes, .ok ()⟩])
          (.resultStaged rawPath key image resultPath)
  | uploaded {trace calls : JobTrace} {rawPath resultPath : Path} {key url : String}
      {image : TransformedImage} :
      Passes p job trace (.resultStaged rawPath key image resultPath) →
        Tries (uploadExchange key image) calls (.ok url) →
        Passes p job (trace ++ calls) (.uploaded rawPath key image resultPath url)

/-- `Fails p job trace stage rawPath resultPath e`: with the exchanges of `trace` the job gets to
`stage` and fails there with `e`, and at most the files of the two paths are left. -/
inductive Fails (p : Pipeline) (job : Job) :
    JobTrace → Stage → Option Path → Option Path → JobError → Prop where
  | download {trace calls : JobTrace} {e : StorageError} :
      Passes p job trace .announced →
        Tries (downloadExchange job.sourceKey) calls (.error (.storage e)) →
        Fails p job (trace ++ calls) .download none none (.storage e)
  | rawKey {trace : JobTrace} {raw : Bytes} {why : KeyFault} :
      Passes p job trace (.downloaded raw) → p.staging.rawPath job.sourceKey = .error why →
        Fails p job trace .download none none (.invalidKey why)
  | rawFile {trace : JobTrace} {raw : Bytes} {rawPath : Path} {e : IoError} :
      Passes p job trace (.downloaded raw) → p.staging.rawPath job.sourceKey = .ok rawPath →
        Fails p job (trace ++ [⟨.save rawPath raw, .error e⟩]) .download none none (.io e)
  | request {trace : JobTrace} {raw : Bytes} {rawPath : Path} {e : MessageError} :
      Passes p job trace (.staged raw rawPath) → job.transformation = .error e →
        Fails p job trace .transform (some rawPath) none (.message e)
  | transform {trace : JobTrace} {raw : Bytes} {rawPath : Path} {t : Transformation}
      {e : TransformFailure} :
      Passes p job trace (.staged raw rawPath) → job.transformation = .ok t →
        Fails p job (trace ++ [⟨.transform raw t, .error e⟩]) .transform (some rawPath) none
          e.toJobError
  | deriveKey {trace : JobTrace} {rawPath : Path} {t : Transformation} {image : TransformedImage}
      {why : KeyFault} :
      Passes p job trace (.transformed rawPath t image) →
        destinationKey job.sourceKey t = .error why →
        Fails p job trace .deriveKey (some rawPath) none (.invalidKey why)
  | resultKey {trace : JobTrace} {rawPath : Path} {t : Transformation} {image : TransformedImage}
      {key : String} {why : KeyFault} :
      Passes p job trace (.transformed rawPath t image) →
        destinationKey job.sourceKey t = .ok key → p.staging.processedPath key = .error why →
        Fails p job trace .upload (some rawPath) none (.invalidKey why)
  | resultFile {trace : JobTrace} {rawPath resultPath : Path} {t : Transformation}
      {image : TransformedImage} {key : String} {e : IoError} :
      Passes p job trace (.transformed rawPath t image) →
        destinationKey job.sourceKey t = .ok key → p.staging.processedPath key = .ok resultPath →
        Fails p job (trace ++ [⟨.save resultPath image.bytes, .error e⟩]) .upload (some rawPath)
          (some resultPath) (.io e)
  | upload {trace calls : JobTrace} {rawPath resultPath : Path} {key : String}
      {image : TransformedImage} {e : StorageError} :
      Passes p job trace (.resultStaged rawPath key image resultPath) →
        Tries (uploadExchange key image) calls (.error (.storage e)) →
        Fails p job (trace ++ calls) .upload (some rawPath) (some resultPath) (.storage e)

/-- `Stops p job trace files`: with the exchanges of `trace` the job gets to where shutdown stops
it. Stopped in its upload it leaves two files, and none before. -/
inductive Stops (p : Pipeline) (job : Job) : JobTrace → Option (Path × Path) → Prop where
  | announcing {before : JobTrace} :
      Quiet before →
        Stops p job (before ++ [⟨.announceUnlessStopped (.processing job), .stopped⟩]) none
  | downloading {trace calls : JobTrace} :
      Passes p job trace .announced →
        Tries (downloadExchange job.sourceKey) calls (.error .cancelled) →
        Stops p job (trace ++ calls) none
  | uploading {trace calls : JobTrace} {rawPath resultPath : Path} {key : String}
      {image : TransformedImage} :
      Passes p job trace (.resultStaged rawPath key image resultPath) →
        Tries (uploadExchange key image) calls (.error .cancelled) →
        Stops p job (trace ++ calls) (some (rawPath, resultPath))

def localCleanup (job : Job) : Option (Path × Path) → List CleanupTask
  | none => []
  | some (rawPath, resultPath) => [⟨.deleteLocal, job.sourceKey, some rawPath, some resultPath⟩]

def scheduled (task : CleanupTask) : JobExchange := ⟨.schedule task, ()⟩

/-- The exchanges that close a job: its last announcement and one cleanup, among notes. -/
def Closes (event : StatusEvent) (published : Except QueueError Unit) (task : CleanupTask)
    (trace : JobTrace) : Prop :=
  ∃ before between after, Quiet before ∧ Quiet between ∧ Quiet after ∧
    trace = before ++ ⟨.announce event, published⟩ :: between ++ scheduled task :: after

/-- `Ends p job trace outcome`: the exchanges of `trace` are a whole job that comes to `outcome`. -/
inductive Ends (p : Pipeline) (job : Job) : JobTrace → Outcome → Prop where
  | unannounced {before after : JobTrace} {published : Except QueueError Unit} {e : QueueError} :
      Quiet before → Quiet after → fatal? published = some e →
        Ends p job
          (before ++ ⟨.announceUnlessStopped (.processing job), .finished published⟩ :: after)
          (.error (.publishFailed e))
  | stopped {trace : JobTrace} {files : Option (Path × Path)} :
      Stops p job trace files →
        Ends p job (trace ++ (localCleanup job files).map scheduled) (.error .cancelled)
  | failed {trace rest : JobTrace} {stage : Stage} {rawPath resultPath : Option Path}
      {e : JobError} {published : Except QueueError Unit} :
      Fails p job trace stage rawPath resultPath e →
        Closes (.failed job stage.failureCode) published
          ⟨stage.cleanupMode, job.sourceKey, rawPath, resultPath⟩ rest →
        Ends p job (trace ++ rest) (concluded published (.error (.inStage stage e)))
  | processed {trace rest : JobTrace} {rawPath resultPath : Path} {key url : String}
      {image : TransformedImage} {published : Except QueueError Unit} :
      Passes p job trace (.uploaded rawPath key image resultPath url) →
        Closes (.processed job url) published
          ⟨.cleanupAll, job.sourceKey, some rawPath, some resultPath⟩ rest →
        Ends p job (trace ++ rest) (concluded published (.ok ⟨job.id, key, url⟩))

theorem settle_runs {event : StatusEvent} {published result : Except QueueError Unit}
    {trace : JobTrace} (run : (settle event published).Runs trace result) :
    Quiet trace ∧ result = passedOn published := by
  match published, run with
  | .ok (), run =>
    obtain ⟨rfl, rfl⟩ := Program.runs_done_iff.mp run
    exact ⟨quiet_nil, rfl⟩
  | .error e, run =>
    rw [settle] at run
    split at run
    next fatal =>
      obtain ⟨_, _, rfl, last⟩ := Program.runs_ask_iff.mp run
      obtain ⟨rfl, rfl⟩ := Program.runs_done_iff.mp last
      simp [passedOn, fatal?, fatal]
    next passing =>
      obtain ⟨_, _, rfl, last⟩ := Program.runs_ask_iff.mp run
      obtain ⟨rfl, rfl⟩ := Program.runs_done_iff.mp last
      simp [passedOn, fatal?, passing]

theorem publish_runs {event : StatusEvent} {trace : JobTrace} {result : Except QueueError Unit}
    (run : (publish event).Runs trace result) :
    ∃ published after, trace = ⟨.announce event, published⟩ :: after ∧ Quiet after ∧
      result = passedOn published := by
  obtain ⟨published, after, rfl, settled⟩ := Program.runs_ask_iff.mp run
  exact ⟨published, after, rfl, settle_runs settled⟩

/-- A written file has the path of its key. -/
theorem stage_runs {place : Except KeyFault Path} {content : Bytes} {trace : JobTrace}
    {result : Except JobError Path} (run : (stage place content).Runs trace result) :
    (∃ why, place = .error why ∧ trace = [] ∧ result = .error (.invalidKey why)) ∨
      ∃ path, place = .ok path ∧
        (trace = [⟨.save path content, .ok ()⟩] ∧ result = .ok path ∨
          ∃ e, trace = [⟨.save path content, .error e⟩] ∧ result = .error (.io e)) := by
  match place, run with
  | .error why, run =>
    obtain ⟨rfl, rfl⟩ := Program.runs_done_iff.mp run
    exact .inl ⟨why, rfl, rfl, rfl⟩
  | .ok path, run =>
    obtain ⟨answer, _, rfl, last⟩ := Program.runs_ask_iff.mp run
    refine .inr ⟨path, rfl, ?_⟩
    match answer, last with
    | .ok (), last =>
      obtain ⟨rfl, rfl⟩ := Program.runs_done_iff.mp last
      exact .inl ⟨rfl, rfl⟩
    | .error e, last =>
      obtain ⟨rfl, rfl⟩ := Program.runs_done_iff.mp last
      exact .inr ⟨e, rfl, rfl⟩

theorem transform_runs {job : Job} {raw : Bytes} {trace : JobTrace}
    {result : Except JobError (Transformation × TransformedImage)}
    (run : (transform job raw).Runs trace result) :
    (∃ e, job.transformation = .error e ∧ trace = [] ∧ result = .error (.message e)) ∨
      ∃ t, job.transformation = .ok t ∧
        ((∃ image, trace = [⟨.transform raw t, .ok image⟩] ∧ result = .ok (t, image)) ∨
          ∃ e, trace = [⟨.transform raw t, .error e⟩] ∧ result = .error e.toJobError) := by
  unfold transform at run
  split at run
  next e resolved =>
    obtain ⟨rfl, rfl⟩ := Program.runs_done_iff.mp run
    exact .inl ⟨e, resolved, rfl, rfl⟩
  next t resolved =>
    obtain ⟨answer, _, rfl, last⟩ := Program.runs_ask_iff.mp run
    refine .inr ⟨t, resolved, ?_⟩
    match answer, last with
    | .ok image, last =>
      obtain ⟨rfl, rfl⟩ := Program.runs_done_iff.mp last
      exact .inl ⟨image, rfl, rfl⟩
    | .error e, last =>
      obtain ⟨rfl, rfl⟩ := Program.runs_done_iff.mp last
      exact .inr ⟨e, rfl, rfl⟩

theorem upload_runs {p : Pipeline} {key : String} {image : TransformedImage} {trace : JobTrace}
    {result : Except JobError String} (run : (p.upload key image).Runs trace result) :
    (∃ why, p.staging.processedPath key = .error why ∧ trace = [] ∧
        result = .error (.invalidKey why)) ∨
      ∃ path, p.staging.processedPath key = .ok path ∧
        ((∃ e, trace = [⟨.save path image.bytes, .error e⟩] ∧ result = .error (.io e)) ∨
          ∃ calls, trace = ⟨.save path image.bytes, .ok ()⟩ :: calls ∧
            Tries (uploadExchange key image) calls result) := by
  unfold upload at run
  rw [Program.bind_eq, Program.runs_bind_iff] at run
  obtain ⟨_, _, calls, rfl, staged, run⟩ := run
  rcases stage_runs staged with ⟨why, place, rfl, rfl⟩ | ⟨path, place, ⟨rfl, rfl⟩ | ⟨e, rfl, rfl⟩⟩
  · obtain ⟨rfl, rfl⟩ := Program.runs_done_iff.mp run
    exact .inl ⟨why, place, rfl, rfl⟩
  · exact .inr ⟨path, place, .inr ⟨calls, rfl, withRetry_tries (fun _ _ => request_runs_iff) run⟩⟩
  · obtain ⟨rfl, rfl⟩ := Program.runs_done_iff.mp run
    exact .inr ⟨path, place, .inl ⟨e, rfl, rfl⟩⟩

theorem download_tries {p : Pipeline} {job : Job} {trace : JobTrace}
    {result : Except JobError Bytes} (run : (p.download job).Runs trace result) :
    Tries (downloadExchange job.sourceKey) trace result :=
  withRetry_tries (fun _ _ => request_runs_iff) run

variable {p : Pipeline} {job : Job} {trace rest : JobTrace} {outcome : Outcome}

/-- A failed stage is announced, its cleanup scheduled, and the job rejected. -/
theorem fail_ends {stage : Stage} {rawPath resultPath : Option Path} {e : JobError}
    (failed : Fails p job trace stage rawPath resultPath e)
    (run : (fail job stage rawPath resultPath e).Runs rest outcome) :
    Ends p job (trace ++ rest) outcome := by
  simp only [fail, Program.bind_eq, Program.runs_bind_iff, note_runs_iff] at run
  obtain ⟨_, _, _, rfl, rfl, _, _, _, rfl, rfl, _, _, _, rfl, announced, last⟩ := run
  obtain ⟨published, after, rfl, quiet, rfl⟩ := publish_runs announced
  rw [Program.runs_ask_iff] at last
  obtain ⟨⟨⟩, rest, rfl, last⟩ := last
  have ending : rest = [] ∧ outcome = concluded published (.error (.inStage stage e)) := by
    cases h : fatal? published <;> simpa [passedOn, concluded, h, Program.runs_done_iff] using last
  obtain ⟨rfl, rfl⟩ := ending
  refine .failed failed ⟨[_, _], after, [], ?_, quiet, quiet_nil, rfl⟩
  simp

/-- An uploaded result is announced and its residue scheduled for removal. -/
theorem finish_ends {rawPath resultPath : Path} {key url : String} {image : TransformedImage}
    (passed : Passes p job trace (.uploaded rawPath key image resultPath url))
    (run : (finish job key url (some rawPath) (some resultPath)).Runs rest outcome) :
    Ends p job (trace ++ rest) outcome := by
  simp only [finish, Program.bind_eq, Program.runs_bind_iff] at run
  obtain ⟨_, _, _, rfl, announced, last⟩ := run
  obtain ⟨published, before, rfl, quiet, rfl⟩ := publish_runs announced
  rw [Program.runs_ask_iff] at last
  obtain ⟨⟨⟩, after, rfl, last⟩ := last
  have ending : Quiet after ∧ outcome = concluded published (.ok ⟨job.id, key, url⟩) := by
    cases h : fatal? published with
    | some e =>
      simp only [passedOn, h, Program.runs_done_iff] at last
      obtain ⟨rfl, rfl⟩ := last
      simp [concluded, h]
    | none =>
      simp only [passedOn, h, Program.runs_ask_iff, Program.runs_done_iff] at last
      obtain ⟨_, _, rfl, _, _, rfl, _, _, rfl, rfl, rfl⟩ := last
      simp [concluded, h]
  obtain ⟨quietAfter, rfl⟩ := ending
  exact .processed passed ⟨[], before, after, quiet_nil, quiet, quietAfter, rfl⟩

/-- What comes of a job whose image is transformed. -/
theorem upload_ends {rawPath : Path} {t : Transformation} {image : TransformedImage} {key : String}
    {calls : JobTrace} {result : Except JobError String}
    (passed : Passes p job trace (.transformed rawPath t image))
    (derived : destinationKey job.sourceKey t = .ok key)
    (uploading : (p.upload key image).Runs calls result)
    (run : Program.Runs (match result with
      | .ok url => finish job key url (some rawPath) (p.staging.processedPath key).toOption
      | .error .cancelled =>
        .ask (.schedule ⟨.deleteLocal, job.sourceKey, some rawPath,
          (p.staging.processedPath key).toOption⟩) fun _ => .done (.error .cancelled)
      | .error e => fail job .upload (some rawPath) (p.staging.processedPath key).toOption e)
      rest outcome) :
    Ends p job (trace ++ calls ++ rest) outcome := by
  rcases upload_runs uploading with
    ⟨why, place, rfl, rfl⟩ | ⟨path, place, ⟨e, rfl, rfl⟩ | ⟨tries, rfl, tried⟩⟩
  · rw [place] at run
    simpa using fail_ends (.resultKey passed derived place) run
  · rw [place] at run
    simpa using fail_ends (.resultFile passed derived place) run
  · rw [place] at run
    -- The storage call decides between the three ways on; only the last one leaves no report.
    have staged := Passes.resultStaged passed derived place
    cases tried with
    | success on => simpa using finish_ends (.uploaded staged (.success on)) run
    | failed on => simpa using fail_ends (.upload staged (.failed on)) run
    | stopped on decides =>
      obtain ⟨⟨⟩, _, rfl, last⟩ := Program.runs_ask_iff.mp run
      obtain ⟨rfl, rfl⟩ := Program.runs_done_iff.mp last
      simpa [localCleanup, scheduled, Except.toOption] using
        Ends.stopped (.uploading staged (.stopped on decides))

/-- What comes of a job whose raw file is written. -/
theorem fromStaged_ends {raw : Bytes} {rawPath : Path}
    (passed : Passes p job trace (.downloaded raw))
    (place : p.staging.rawPath job.sourceKey = .ok rawPath)
    (run : (p.fromStaged job raw rawPath).Runs rest outcome) :
    Ends p job (trace ++ ⟨.save rawPath raw, .ok ()⟩ :: rest) outcome := by
  simp only [fromStaged, Program.bind_eq, Program.runs_bind_iff, note_runs_iff] at run
  obtain ⟨_, _, _, rfl, rfl, _, _, _, rfl, transformed, run⟩ := run
  have staged : Passes p job _ (.staged raw rawPath) := .staged passed place
  rcases transform_runs transformed with
    ⟨e, resolved, rfl, rfl⟩ | ⟨t, resolved, ⟨image, rfl, rfl⟩ | ⟨e, rfl, rfl⟩⟩
  · simpa [downloadNote] using fail_ends (.request staged resolved) run
  · simp only [Program.runs_bind_iff, note_runs_iff] at run
    obtain ⟨_, _, _, rfl, rfl, run⟩ := run
    have done : Passes p job _ (.transformed rawPath t image) := .transformed staged resolved
    split at run
    next why derived =>
      simpa [downloadNote, transformNote] using fail_ends (.deriveKey done derived) run
    next key derived =>
      obtain ⟨calls, result, rest, rfl, uploading, last⟩ := Program.runs_bind_iff.mp run
      simpa [downloadNote, transformNote] using upload_ends done derived uploading last
  · simpa [downloadNote] using fail_ends (.transform staged resolved) run

/-- What comes of a job that is announced. -/
theorem fromAnnounced_ends (passed : Passes p job trace .announced)
    (run : (p.fromAnnounced job).Runs rest outcome) : Ends p job (trace ++ rest) outcome := by
  unfold fromAnnounced at run
  rw [Program.bind_eq, Program.runs_bind_iff] at run
  obtain ⟨calls, result, rest, rfl, downloading, run⟩ := run
  have tried := download_tries downloading
  cases tried with
  | failed on => simpa using fail_ends (.download passed (.failed on)) run
  | stopped on decides =>
    obtain ⟨rfl, rfl⟩ := Program.runs_done_iff.mp run
    simpa [localCleanup] using Ends.stopped (.downloading passed (.stopped on decides))
  | @success before raw on =>
    have downloaded : Passes p job _ (.downloaded raw) := .downloaded passed (.success on)
    simp only [Program.bind_eq, Program.runs_bind_iff] at run
    obtain ⟨_, _, rest, rfl, staging, run⟩ := run
    rcases stage_runs staging with
      ⟨why, place, rfl, rfl⟩ | ⟨path, place, ⟨rfl, rfl⟩ | ⟨e, rfl, rfl⟩⟩
    · simpa using fail_ends (.rawKey downloaded place) run
    · simpa using fromStaged_ends downloaded place run
    · simpa using fail_ends (.rawFile downloaded place) run

/-- What comes of a job after `before`, which only reports its start. -/
theorem fromStarted_ends (before : JobTrace) (quiet : Quiet before)
    (run : (p.fromStarted job).Runs rest outcome) : Ends p job (before ++ rest) outcome := by
  unfold fromStarted at run
  rw [Program.runs_ask_iff] at run
  obtain ⟨answer, rest, rfl, later⟩ := run
  match answer, later with
  | .stopped, later =>
    obtain ⟨rfl, rfl⟩ := Program.runs_done_iff.mp later
    simpa [localCleanup] using Ends.stopped (.announcing quiet)
  | .finished published, later =>
    obtain ⟨after, result, rest, rfl, settled, run⟩ := Program.runs_bind_iff.mp later
    obtain ⟨quietAfter, rfl⟩ := settle_runs settled
    cases h : fatal? published with
    | some e =>
      simp only [passedOn, h] at run
      obtain ⟨rfl, rfl⟩ := Program.runs_done_iff.mp run
      simpa using Ends.unannounced quiet quietAfter h
    | none =>
      simp only [passedOn, h] at run
      simpa using fromAnnounced_ends (.announced quiet quietAfter h) run

/-- Every run of a job is one of the described courses. -/
theorem run_ends (run : (p.run job).Runs trace outcome) : Ends p job trace outcome := by
  simp only [Pipeline.run, Program.bind_eq, Program.runs_bind_iff, note_runs_iff] at run
  obtain ⟨_, _, _, rfl, rfl, _, _, rest, rfl, rfl, run⟩ := run
  split at run
  next =>
    obtain ⟨_, _, rest, rfl, noted, started⟩ := Program.runs_bind_iff.mp run
    obtain rfl := note_runs_iff.mp noted
    exact fromStarted_ends [⟨.note _, ()⟩, ⟨.note _, ()⟩, ⟨.note _, ()⟩] (by simp) started
  next => exact fromStarted_ends [⟨.note _, ()⟩, ⟨.note _, ()⟩] (by simp) run

/-- A delivery is refused, or it holds a job that takes one of the described courses. -/
theorem process_ends {body : Bytes} (run : (p.process body).Runs trace outcome) :
    (∃ e, Envelope.parse body = .error e ∧ trace = [] ∧ outcome = .error (.message e)) ∨
      ∃ envelope, Envelope.parse body = .ok envelope ∧ Ends p envelope.job trace outcome := by
  unfold process at run
  split at run
  next e refused =>
    obtain ⟨rfl, rfl⟩ := Program.runs_done_iff.mp run
    exact .inl ⟨e, refused, rfl, rfl⟩
  next envelope accepted => exact .inr ⟨envelope, accepted, run_ends run⟩

theorem ends_of_accepted {body : Bytes} {envelope : Envelope}
    (accepted : Envelope.parse body = .ok envelope) (run : (p.process body).Runs trace outcome) :
    Ends p envelope.job trace outcome := by
  rcases process_ends run with ⟨e, refused, _⟩ | ⟨envelope', accepted', ends⟩
  · rw [accepted] at refused
    cases refused
  · obtain rfl : envelope = envelope' := Except.ok.inj (accepted.symm.trans accepted')
    exact ends

end Pipeline

end ImageWorker
