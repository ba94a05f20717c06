import ImageWorker.Image.Transformer
import ImageWorker.Proofs.JobEffects
import ImageWorker.Proofs.JobStore
import ImageWorker.Proofs.KeySegments

/-!
# What a job carries from its source to its result

The bytes that a download gives are the ones that are transformed, the image that comes of it is
the one that is uploaded, under one key however often that is attempted, and the URL that the
successful upload gives is the one that is reported. What is staged on the way has no part in it.
-/

namespace ImageWorker

def JobRequest.isCargo : JobRequest → Bool
  | download _ | transform _ _ | upload _ _ _ => true
  | _ => false

namespace JobExchange

/-- The bytes that a successful download gives. -/
def fetched? : JobExchange → Option Bytes
  | ⟨.download _, .finished (.ok content)⟩ => some content
  | _ => none

/-- The bytes, the transformation and the image of a successful transformation. -/
def made? : JobExchange → Option (Bytes × Transformation × TransformedImage)
  | ⟨.transform content t, .ok image⟩ => some (content, t, image)
  | _ => none

/-- The key and the URL of a successful upload. -/
def stored? : JobExchange → Option (String × String)
  | ⟨.upload key _ _, .finished (.ok url)⟩ => some (key, url)
  | _ => none

theorem eq_none_of_not_isCargo {x : JobExchange} (idle : x.request.isCargo = false) :
    x.fetched? = none ∧ x.made? = none ∧ x.stored? = none := by
  obtain ⟨r, answer⟩ := x
  cases r with
  | download | transform | upload => exact absurd idle Bool.true_eq_false.mp
  | _ => exact ⟨rfl, rfl, rfl⟩

end JobExchange

theorem JobRequest.isCargo_of_isReport {r : JobRequest} (report : r.isReport = true) :
    r.isCargo = false := by
  cases r <;> first | rfl | exact absurd report Bool.false_ne_true

theorem JobRequest.isCargo_of_isWaiting {r : JobRequest} (waiting : r.isWaiting = true) :
    r.isCargo = false := by
  cases r <;> first | rfl | exact absurd waiting Bool.false_ne_true

namespace JobTrace

variable {trace first second : JobTrace}

def fetched (trace : JobTrace) : List Bytes := trace.filterMap JobExchange.fetched?

def made (trace : JobTrace) : List (Bytes × Transformation × TransformedImage) :=
  trace.filterMap JobExchange.made?

def stored (trace : JobTrace) : List (String × String) := trace.filterMap JobExchange.stored?

@[simp] theorem fetched_append : fetched (first ++ second) = fetched first ++ fetched second := by
  simp [fetched]

@[simp] theorem made_append : made (first ++ second) = made first ++ made second := by
  simp [made]

@[simp] theorem stored_append : stored (first ++ second) = stored first ++ stored second := by
  simp [stored]

def Idle (trace : JobTrace) : Prop := ∀ x ∈ trace, x.request.isCargo = false

theorem Quiet.idle (quiet : Quiet trace) : Idle trace :=
  fun x mem => JobRequest.isCargo_of_isReport (quiet x mem)

@[simp] theorem idle_nil : Idle [] := List.forall_mem_nil _

@[simp] theorem idle_append_iff : Idle (first ++ second) ↔ Idle first ∧ Idle second :=
  List.forall_mem_append

@[simp] theorem idle_cons_iff {x : JobExchange} :
    Idle (x :: trace) ↔ x.request.isCargo = false ∧ Idle trace :=
  List.forall_mem_cons

theorem Idle.fetched_eq (idle : Idle trace) : fetched trace = [] :=
  List.filterMap_eq_nil_iff.mpr fun x mem => (JobExchange.eq_none_of_not_isCargo (idle x mem)).1

theorem Idle.made_eq (idle : Idle trace) : made trace = [] :=
  List.filterMap_eq_nil_iff.mpr fun x mem => (JobExchange.eq_none_of_not_isCargo (idle x mem)).2.1

theorem Idle.stored_eq (idle : Idle trace) : stored trace = [] :=
  List.filterMap_eq_nil_iff.mpr fun x mem => (JobExchange.eq_none_of_not_isCargo (idle x mem)).2.2

end JobTrace

open JobTrace

namespace Pipeline

variable {α : Type} {exchange : Race (Except StorageError α) → JobExchange} {calls : JobTrace}
  {result : Except JobError α}

/-- What a storage call gives is what its last attempt gives. -/
theorem Tries.filterMap_eq {β : Type} {f : JobExchange → Option β} (g : α → β)
    (waits : ∀ x : JobExchange, x.request.isWaiting = true → f x = none)
    (succeeds : ∀ a, f (exchange (.finished (.ok a))) = some (g a))
    (fails : ∀ e, f (exchange (.finished (.error e))) = none)
    (stops : f (exchange .stopped) = none) (tried : Tries exchange calls result) :
    calls.filterMap f = (result.toOption.map g).toList := by
  have goesOn {x : RetryExchange StorageError α} (on : x.GoesOn) :
      f (storageExchange exchange x) = none := by
    cases on with
    | running | paused | noted => exact waits _ rfl
    | failed e => exact fails e
  have before {xs : List (RetryExchange StorageError α)} (on : ∀ x ∈ xs, x.GoesOn) :
      (xs.map (storageExchange exchange)).filterMap f = [] := by
    refine List.filterMap_eq_nil_iff.mpr fun x mem => ?_
    obtain ⟨y, among, rfl⟩ := List.mem_map.mp mem
    exact goesOn (on y among)
  cases tried with
  | success on => simp [before on, succeeds, Except.toOption]
  | failed on =>
    have note (n : Note) : f ⟨.note n, ()⟩ = none := waits _ rfl
    simp [before on, fails, note, Except.toOption]
  | @stopped _ last _ on decides =>
    have undecided : f (storageExchange exchange last) = none := by
      cases decides with
      | stopping | interrupted => exact waits _ rfl
      | abandoned => exact stops
    simp [before on, undecided, Except.toOption]

theorem not_isCargo_of_waits {x : JobExchange} (waiting : x.request.isWaiting = true) :
    x.fetched? = none ∧ x.made? = none ∧ x.stored? = none :=
  JobExchange.eq_none_of_not_isCargo (JobRequest.isCargo_of_isWaiting waiting)

theorem Tries.fetched_download {key : String} {raw : Except JobError Bytes}
    (tried : Tries (downloadExchange key) calls raw) : fetched calls = raw.toOption.toList := by
  have given := tried.filterMap_eq (f := JobExchange.fetched?) id
    (fun _ waiting => (not_isCargo_of_waits waiting).1) (fun _ => rfl) (fun _ => rfl) rfl
  rwa [Option.map_id] at given

theorem Tries.stored_upload {key : String} {image : TransformedImage} {url : Except JobError String}
    (tried : Tries (uploadExchange key image) calls url) :
    stored calls = (url.toOption.map (key, ·)).toList :=
  tried.filterMap_eq (key, ·) (fun _ waiting => (not_isCargo_of_waits waiting).2.2)
    (fun _ => rfl) (fun _ => rfl) rfl

/-- Where no attempt gives anything, nothing is given. -/
theorem Tries.filterMap_eq_nil {β : Type} {f : JobExchange → Option β}
    (waits : ∀ x : JobExchange, x.request.isWaiting = true → f x = none)
    (none : ∀ answer, f (exchange answer) = none) (tried : Tries exchange calls result) :
    calls.filterMap f = [] :=
  List.filterMap_eq_nil_iff.mpr (tried.forall_mem waits none)

end Pipeline

open Pipeline

variable {job : Job} {raws raws' : List Bytes}
  {images images' : List (Bytes × Transformation × TransformedImage)}

/-- Whether an exchange is about the right thing, when these bytes were fetched and these images
were made. -/
def JobExchange.Right (job : Job) (raws : List Bytes)
    (images : List (Bytes × Transformation × TransformedImage)) : JobExchange → Prop
  | ⟨.download key, _⟩ => key = job.sourceKey
  | ⟨.transform raw t, _⟩ => raws = [raw] ∧ job.transformation = .ok t
  | ⟨.upload key content type, _⟩ => ∃ raw t image, images = [(raw, t, image)] ∧
      destinationKey job.sourceKey t = .ok key ∧ content = image.bytes ∧
      type = image.format.contentType
  | _ => True

theorem JobExchange.right_of_not_isCargo {x : JobExchange} (idle : x.request.isCargo = false) :
    x.Right job raws images := by
  obtain ⟨r, answer⟩ := x
  cases r with
  | download | transform | upload => exact absurd idle Bool.true_eq_false.mp
  | _ => trivial

/-- An exchange stays right when the first bytes are fetched or the first image is made. -/
theorem JobExchange.Right.later {x : JobExchange} (right : x.Right job raws images)
    (fetched : raws ≠ [] → raws' = raws) (made : images ≠ [] → images' = images) :
    x.Right job raws' images' := by
  obtain ⟨r, answer⟩ := x
  cases r with
  | transform raw t =>
    obtain ⟨single, resolved⟩ := right
    have some : raws ≠ [] := single ▸ List.cons_ne_nil raw []
    exact ⟨(fetched some).trans single, resolved⟩
  | upload key content type =>
    obtain ⟨raw, t, image, single, rest⟩ := right
    have some : images ≠ [] := single ▸ List.cons_ne_nil (raw, t, image) []
    exact ⟨raw, t, image, (made some).trans single, rest⟩
  | _ => exact right

/-- What a job has carried: which bytes were fetched, which images were made and what was stored.
Every attempt at one of these is the right one. -/
structure Carries (job : Job) (trace : JobTrace) (raws : List Bytes)
    (images : List (Bytes × Transformation × TransformedImage))
    (results : List (String × String)) : Prop where
  fetched_eq : fetched trace = raws
  made_eq : made trace = images
  stored_eq : stored trace = results
  right : ∀ x ∈ trace, x.Right job raws images

namespace Carries

variable {trace rest calls : JobTrace} {raw : Bytes} {t : Transformation}
  {image : TransformedImage} {results : List (String × String)} {key : String}

theorem of_idle (idle : Idle trace) : Carries job trace [] [] [] where
  fetched_eq := idle.fetched_eq
  made_eq := idle.made_eq
  stored_eq := idle.stored_eq
  right x mem := JobExchange.right_of_not_isCargo (idle x mem)

theorem append_idle (carries : Carries job trace raws images results) (idle : Idle rest) :
    Carries job (trace ++ rest) raws images results where
  fetched_eq := by simp [carries.fetched_eq, idle.fetched_eq]
  made_eq := by simp [carries.made_eq, idle.made_eq]
  stored_eq := by simp [carries.stored_eq, idle.stored_eq]
  right := by
    rw [List.forall_mem_append]
    exact ⟨carries.right, fun x mem => JobExchange.right_of_not_isCargo (idle x mem)⟩

theorem append_download (carries : Carries job trace [] [] []) {result : Except JobError Bytes}
    (tried : Tries (downloadExchange job.sourceKey) calls result) :
    Carries job (trace ++ calls) result.toOption.toList [] [] where
  fetched_eq := by rw [fetched_append, carries.fetched_eq, tried.fetched_download, List.nil_append]
  made_eq := by
    rw [made_append, carries.made_eq, made,
      tried.filterMap_eq_nil (fun _ waiting => (not_isCargo_of_waits waiting).2.1) fun _ => rfl,
      List.append_nil]
  stored_eq := by
    rw [stored_append, carries.stored_eq, stored,
      tried.filterMap_eq_nil (fun _ waiting => (not_isCargo_of_waits waiting).2.2) fun _ => rfl,
      List.append_nil]
  right := by
    rw [List.forall_mem_append]
    constructor
    · intro x mem
      exact (carries.right x mem).later (absurd rfl) fun _ => rfl
    · refine tried.forall_mem (fun x waiting => ?_) fun answer => ?_
      · exact JobExchange.right_of_not_isCargo (JobRequest.isCargo_of_isWaiting waiting)
      · exact Eq.refl job.sourceKey

/-- The transformation of a job is given just the bytes that were fetched. -/
theorem append_transform (carries : Carries job trace [raw] [] [])
    (resolved : job.transformation = .ok t) (result : Except TransformFailure TransformedImage) :
    Carries job (trace ++ [⟨.transform raw t, result⟩]) [raw]
      (result.toOption.map (raw, t, ·)).toList [] where
  fetched_eq := by
    rw [fetched_append, carries.fetched_eq]
    rfl
  made_eq := by
    rw [made_append, carries.made_eq]
    cases result <;> rfl
  stored_eq := by
    rw [stored_append, carries.stored_eq]
    rfl
  right := by
    rw [List.forall_mem_append, List.forall_mem_singleton]
    constructor
    · intro x mem
      exact (carries.right x mem).later (fun _ => rfl) (absurd rfl)
    · exact ⟨rfl, resolved⟩

theorem append_upload (carries : Carries job trace [raw] [(raw, t, image)] [])
    (derived : destinationKey job.sourceKey t = .ok key) {result : Except JobError String}
    (tried : Tries (uploadExchange key image) calls result) :
    Carries job (trace ++ calls) [raw] [(raw, t, image)]
      (result.toOption.map (key, ·)).toList where
  fetched_eq := by
    rw [fetched_append, carries.fetched_eq, fetched,
      tried.filterMap_eq_nil (fun _ waiting => (not_isCargo_of_waits waiting).1) fun _ => rfl,
      List.append_nil]
  made_eq := by
    rw [made_append, carries.made_eq, made,
      tried.filterMap_eq_nil (fun _ waiting => (not_isCargo_of_waits waiting).2.1) fun _ => rfl,
      List.append_nil]
  stored_eq := by rw [stored_append, carries.stored_eq, tried.stored_upload, List.nil_append]
  right := by
    rw [List.forall_mem_append]
    refine ⟨carries.right, tried.forall_mem (fun x waiting => ?_) fun answer => ?_⟩
    · exact JobExchange.right_of_not_isCargo (JobRequest.isCargo_of_isWaiting waiting)
    · exact ⟨raw, t, image, rfl, derived, rfl, rfl⟩

end Carries

namespace Pipeline

variable {p : Pipeline} {trace rest : JobTrace} {outcome : Outcome}

def Milestone.Carried (job : Job) (trace : JobTrace) : Milestone → Prop
  | announced => Carries job trace [] [] []
  | downloaded raw | staged raw _ => Carries job trace [raw] [] []
  | transformed _ t image =>
    job.transformation = .ok t ∧ ∃ raw, Carries job trace [raw] [(raw, t, image)] []
  | resultStaged _ key image _ => ∃ raw t, destinationKey job.sourceKey t = .ok key ∧
    Carries job trace [raw] [(raw, t, image)] []
  | uploaded _ key image _ url => ∃ raw t, destinationKey job.sourceKey t = .ok key ∧
    Carries job trace [raw] [(raw, t, image)] [(key, url)]

theorem Passes.carried {m : Milestone} (passed : Passes p job trace m) : m.Carried job trace := by
  induction passed with
  | announced quiet quietAfter =>
    exact .of_idle (by simp [quiet.idle, quietAfter.idle, JobRequest.isCargo])
  | downloaded _ tried ih => exact ih.append_download tried
  | staged _ _ ih => exact ih.append_idle (by simp [JobRequest.isCargo])
  | @transformed _ raw _ t image _ resolved ih =>
    have noted : Idle [⟨.note (transformNote job image), ()⟩] := by simp [JobRequest.isCargo]
    have carries := (ih.append_transform resolved (.ok image)).append_idle noted
    rw [List.append_assoc] at carries
    exact ⟨resolved, raw, carries⟩
  | resultStaged _ derived _ ih =>
    obtain ⟨_, raw, carries⟩ := ih
    exact ⟨raw, _, derived, carries.append_idle (by simp [JobRequest.isCargo])⟩
  | uploaded _ tried ih =>
    obtain ⟨raw, t, derived, carries⟩ := ih
    exact ⟨raw, t, derived, carries.append_upload derived tried⟩

/-- A job of which a stage fails has stored nothing. -/
theorem Fails.carried {stage : Stage} {rawPath resultPath : Option Path} {e : JobError}
    (failed : Fails p job trace stage rawPath resultPath e) :
    ∃ raws images, Carries job trace raws images [] := by
  cases failed with
  | download passed tried => exact ⟨_, _, passed.carried.append_download tried⟩
  | rawKey passed => exact ⟨_, _, passed.carried⟩
  | rawFile passed => exact ⟨_, _, passed.carried.append_idle (by simp [JobRequest.isCargo])⟩
  | request passed => exact ⟨_, _, passed.carried⟩
  | transform passed resolved => exact ⟨_, _, passed.carried.append_transform resolved _⟩
  | deriveKey passed | resultKey passed =>
    obtain ⟨_, raw, carries⟩ := passed.carried
    exact ⟨_, _, carries⟩
  | resultFile passed =>
    obtain ⟨_, raw, carries⟩ := passed.carried
    exact ⟨_, _, carries.append_idle (by simp [JobRequest.isCargo])⟩
  | upload passed tried =>
    obtain ⟨raw, t, derived, carries⟩ := passed.carried
    exact ⟨_, _, carries.append_upload derived tried⟩

theorem Stops.carried {files : Option (Path × Path)} (stopped : Stops p job trace files) :
    ∃ raws images, Carries job trace raws images [] := by
  cases stopped with
  | announcing quiet =>
    exact ⟨_, _, .of_idle (by simp [quiet.idle, JobRequest.isCargo])⟩
  | downloading passed tried => exact ⟨_, _, passed.carried.append_download tried⟩
  | uploading passed tried =>
    obtain ⟨raw, t, derived, carries⟩ := passed.carried
    exact ⟨_, _, carries.append_upload derived tried⟩

theorem Closes.idle {event : StatusEvent} {published : Except QueueError Unit} {task : CleanupTask}
    (closes : Closes event published task trace) : Idle trace := by
  obtain ⟨before, between, after, quiet, quietBetween, quietAfter, rfl⟩ := closes
  simp [quiet.idle, quietBetween.idle, quietAfter.idle, scheduled, JobRequest.isCargo]

theorem idle_scheduled (tasks : List CleanupTask) : Idle (tasks.map scheduled) := by
  intro x mem
  obtain ⟨task, _, rfl⟩ := List.mem_map.mp mem
  rfl

/-- A whole job has stored nothing, or one result that it has reported. -/
theorem Ends.carried (ends : Ends p job trace outcome) :
    (∃ raws images, Carries job trace raws images [] ∧ ∀ done, outcome ≠ .ok done) ∨
      ∃ raw image key url, Carries job trace [raw] [image] [(key, url)] ∧
        announcements trace = [.processing job, .processed job url] ∧
        ∀ done, outcome = .ok done → done = ⟨job.id, key, url⟩ := by
  cases ends with
  | unannounced quiet quietAfter =>
    exact .inl ⟨[], [], .of_idle (by simp [quiet.idle, quietAfter.idle, JobRequest.isCargo]), nofun⟩
  | stopped stopped =>
    obtain ⟨raws, images, carries⟩ := stopped.carried
    exact .inl ⟨raws, images, carries.append_idle (idle_scheduled _), nofun⟩
  | @failed _ _ stage _ _ e published failed closes =>
    obtain ⟨raws, images, carries⟩ := failed.carried
    refine .inl ⟨raws, images, carries.append_idle closes.idle, fun done same => ?_⟩
    rcases concluded_eq published (.error (.inStage stage e)) with h | ⟨_, h⟩ <;> cases h ▸ same
  | @processed _ _ _ _ key url image published passed closes =>
    obtain ⟨raw, t, _, carries⟩ := passed.carried
    refine .inr ⟨raw, _, key, url, carries.append_idle closes.idle, ?_, fun done same => ?_⟩
    · rw [announcements_append, passed.underWay.announcements_eq, closes.announcements_eq]
      rfl
    · rcases concluded_eq published (.ok ⟨job.id, key, url⟩) with h | ⟨_, h⟩
      · exact (Except.ok.inj (h ▸ same)).symm
      · cases h ▸ same

end Pipeline

theorem JobTrace.transform_mem_of_made {trace : JobTrace} {raw : Bytes} {t : Transformation}
    {image : TransformedImage} (mem : (raw, t, image) ∈ made trace) :
    ⟨.transform raw t, .ok image⟩ ∈ trace := by
  obtain ⟨x, among, same⟩ := List.mem_filterMap.mp mem
  unfold JobExchange.made? at same
  split at same
  · cases Option.some.inj same
    exact among
  · cases same

namespace Carries

variable {trace : JobTrace} {results : List (String × String)} {key type : String}
  {content : Bytes} {answer : Race (Except StorageError String)}

/-- What an attempt to upload sends is the one image that was made of the bytes that were fetched. -/
theorem upload_of_mem (carries : Carries job trace raws images results)
    (mem : ⟨.upload key content type, answer⟩ ∈ trace) :
    ∃ raw t image, made trace = [(raw, t, image)] ∧ fetched trace = [raw] ∧
      job.transformation = .ok t ∧ destinationKey job.sourceKey t = .ok key ∧
      content = image.bytes ∧ type = image.format.contentType := by
  obtain ⟨raw, t, image, single, derived, bytes, media⟩ := carries.right _ mem
  have once : made trace = [(raw, t, image)] := carries.made_eq.trans single
  obtain ⟨given, resolved⟩ := carries.right _
    (JobTrace.transform_mem_of_made (once ▸ List.mem_singleton_self (raw, t, image)))
  exact ⟨raw, t, image, once, carries.fetched_eq.trans given, resolved, derived, bytes, media⟩

/-- A conversion with an image library is uploaded as what it asks for. -/
theorem conversion_of_mem (carries : Carries job trace raws images results) {lib : ImageLibrary}
    {f : TargetFormat} (converts : job.transformation = .ok (.convert f))
    (faithful : ∀ raw t image, (raw, t, image) ∈ made trace → lib.transform raw t = .ok image)
    (mem : ⟨.upload key content type, answer⟩ ∈ trace) :
    (∃ stem, key = stem ++ "." ++ f.extension) ∧ type = f.contentType := by
  obtain ⟨raw, t, image, once, _, resolved, derived, _, rfl⟩ := carries.upload_of_mem mem
  obtain rfl : .convert f = t := Except.ok.inj (converts.symm.trans resolved)
  have format_eq := ImageLibrary.format_of_transform_convert
    (faithful raw _ image (once ▸ List.mem_singleton_self _))
  obtain ⟨name, _, rfl, extension⟩ := destinationKey_resultKey derived
  obtain ⟨stem, rfl⟩ := extension f rfl
  refine ⟨⟨processedFolder ++ "/" ++ stem, by simp only [String.append_assoc]⟩, ?_⟩
  rw [format_eq]

end Carries

/-- Whatever happens to the staged files, a job fetches its source alone, transforms what it has
fetched, uploads the one image that comes of it under the key that is derived, and reports the URL
of the one upload that succeeds. A conversion shows in the key and in the content type alike, with
any image library. -/
theorem reported_is_uploaded {p : Pipeline} {body : Bytes} {envelope : Envelope} {trace : JobTrace}
    {outcome : Outcome} (accepted : Envelope.parse body = .ok envelope)
    (run : (p.process body).Runs trace outcome) :
    (∀ key answer, ⟨.download key, answer⟩ ∈ trace → key = envelope.job.sourceKey) ∧
    (∀ raw t answer, ⟨.transform raw t, answer⟩ ∈ trace →
      fetched trace = [raw] ∧ envelope.job.transformation = .ok t) ∧
    (∀ key content type answer, ⟨.upload key content type, answer⟩ ∈ trace →
      ∃ raw t image, made trace = [(raw, t, image)] ∧ fetched trace = [raw] ∧
        envelope.job.transformation = .ok t ∧
        destinationKey envelope.job.sourceKey t = .ok key ∧ content = image.bytes ∧
        type = image.format.contentType) ∧
    (∀ done, outcome = .ok done → stored trace = [(done.destinationKey, done.publicUrl)] ∧
      announcements trace = [.processing envelope.job, .processed envelope.job done.publicUrl]) ∧
    ∀ (lib : ImageLibrary) f, envelope.job.transformation = .ok (.convert f) →
      (∀ raw t image, (raw, t, image) ∈ made trace → lib.transform raw t = .ok image) →
      ∀ key content type answer, ⟨.upload key content type, answer⟩ ∈ trace →
        (∃ stem, key = stem ++ "." ++ f.extension) ∧ type = f.contentType := by
  have ends := ends_of_accepted accepted run
  obtain ⟨raws, images, results, carries⟩ :
      ∃ raws images results, Carries envelope.job trace raws images results := by
    rcases ends.carried with ⟨raws, images, carries, _⟩ | ⟨raw, image, key, url, carries, _⟩
    · exact ⟨raws, images, [], carries⟩
    · exact ⟨_, _, _, carries⟩
  refine ⟨fun key answer mem => carries.right _ mem, fun raw t answer mem => ?_,
    fun key content type answer mem => carries.upload_of_mem mem, fun done same => ?_,
    fun lib f converts faithful key content type answer mem =>
      carries.conversion_of_mem converts faithful mem⟩
  · obtain ⟨given, resolved⟩ := carries.right _ mem
    exact ⟨carries.fetched_eq.trans given, resolved⟩
  · rcases ends.carried with ⟨_, _, _, other⟩ | ⟨raw, image, key, url, carries, announced, only⟩
    · exact absurd same (other done)
    · rw [only done same]
      exact ⟨carries.stored_eq, announced⟩

def dot : Picture := ⟨⟨.rgb, .eight⟩, .ofFn 1 1 fun _ _ _ _ => [200, 30, 30]⟩

def conversionJob : Job :=
  { turnJob "raw/a.png" with
    transformationType := TransformationKind.convert.name
    transformationParameters := some "\x7b\"format\":\"bmp\"\x7d" }

def conversionDelivery : Bytes := Envelope.toJson ⟨"image_processing", conversionJob⟩

/-- The answers of an obliging store, where images are transformed with the library of codecs. -/
def convertAndOblige (objects : ObjectMap) : (r : JobRequest) → r.Answer × ObjectMap
  | .transform content t =>
    ((ImageLibrary.pictures.transform content t).mapError TransformFailure.media, objects)
  | r => objects.oblige r

/-- The way of a delivery where one object is stored. -/
def conversion (body content : Bytes) : JobTrace × ObjectMap × Outcome :=
  (localPipeline.process body).replies convertAndOblige ⟨[("raw/a.png", content)]⟩

theorem conversion_runs (body content : Bytes) :
    (localPipeline.process body).Runs (conversion body content).1 (conversion body content).2.2 :=
  Program.runs_replies convertAndOblige _ _

theorem reported_is_uploaded_of_conversion :
    stored (conversion conversionDelivery (Png.encode dot)).1 =
        [("processed/a.bmp", ObjectMap.obligingBase ++ "processed/a.bmp")] ∧
      ∀ key content type answer,
        ⟨.upload key content type, answer⟩ ∈ (conversion conversionDelivery (Png.encode dot)).1 →
        (∃ stem, key = stem ++ "." ++ "bmp") ∧ type = "image/bmp" := by
  have accepted : Envelope.parse conversionDelivery = .ok ⟨"image_processing", conversionJob⟩ :=
    eq_ok_of_toOption_eq_some (by decide +kernel)
  have resolved : conversionJob.transformation = .ok (.convert .bmp) :=
    eq_ok_of_toOption_eq_some (by decide +kernel)
  have done : (conversion conversionDelivery (Png.encode dot)).2.2 =
      .ok ⟨"job-1", "processed/a.bmp", ObjectMap.obligingBase ++ "processed/a.bmp"⟩ :=
    eq_ok_of_toOption_eq_some (by decide +kernel)
  have faithful : ∀ x ∈ made (conversion conversionDelivery (Png.encode dot)).1,
      (ImageLibrary.pictures.transform x.1 x.2.1).toOption = some x.2.2 := by decide +kernel
  obtain ⟨_, _, _, reported, converted⟩ :=
    reported_is_uploaded accepted (conversion_runs conversionDelivery (Png.encode dot))
  refine ⟨(reported _ done).1, converted .pictures .bmp resolved fun raw t image mem => ?_⟩
  exact eq_ok_of_toOption_eq_some (faithful (raw, t, image) mem)

end ImageWorker
