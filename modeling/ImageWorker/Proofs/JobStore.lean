import ImageWorker.Proofs.CleanupSteps
import ImageWorker.Proofs.JobTrace
import ImageWorker.Storage.ObjectMap

/-!
# The object store around a job and its cleanup

The store is a map from keys to bytes: downloads read it, uploads store and deletes remove. A call
that fails, or that gives way to shutdown, may still have had its effect. All other questions are
answered in any way and leave the store as it is.
-/

namespace ImageWorker

namespace ObjectMap

/-- What the store can come to when a job has an answer. -/
def AllowsJob (before : ObjectMap) : (r : JobRequest) → r.Answer → ObjectMap → Prop
  | .download key, .finished (.ok content), after =>
    before.get? key = some content ∧ after = before
  | .upload key content _, .finished (.ok _), after => after = before.put key content
  | .upload key content _, _, after => after = before ∨ after = before.put key content
  | _, _, after => after = before

def aroundJobs : Surroundings JobRequest JobRequest.Answer ObjectMap where
  Allows := AllowsJob
  Drifts before after := after = before

def AllowsCleanup (before : ObjectMap) : (r : CleanupRequest) → r.Answer → ObjectMap → Prop
  | .deleteObject key, .ok (), after => after = before.erase key
  | .deleteObject key, .error _, after => after = before ∨ after = before.erase key
  | _, _, after => after = before

def aroundCleanups : Surroundings CleanupRequest CleanupRequest.Answer ObjectMap where
  Allows := AllowsCleanup
  Drifts before after := after = before

theorem aroundJobs_idle (s : ObjectMap) (x : JobExchange) (s' : ObjectMap)
    (h : x.request.isStorageCall = false) (allowed : aroundJobs.Allows s x.request x.answer s') :
    s' = s := by
  obtain ⟨r, answer⟩ := x
  cases r with
  | download | upload => simp [JobRequest.isStorageCall] at h
  | _ => exact allowed

theorem aroundCleanups_idle (s : ObjectMap)
    (x : Program.Exchange CleanupRequest CleanupRequest.Answer) (s' : ObjectMap)
    (h : x.request.isDelete = false) (allowed : aroundCleanups.Allows s x.request x.answer s') :
    s' = s := by
  obtain ⟨r, answer⟩ := x
  cases r with
  | deleteObject => simp [CleanupRequest.isDelete] at h
  | _ => exact allowed

def obligingBase : String := "https://objects.test/"

/-- The answers of a store that obliges, where all else goes well and images stay as they are. -/
def oblige (objects : ObjectMap) : (r : JobRequest) → r.Answer × ObjectMap
  | .isStopping => (false, objects)
  | .pause _ => (.finished (), objects)
  | .announceUnlessStopped _ => (.finished (.ok ()), objects)
  | .announce _ => (.ok (), objects)
  | .download key =>
    match objects.get? key with
    | some content => (.finished (.ok content), objects)
    | none => (.finished (.error (.notFound key)), objects)
  | .upload key content _ => (.finished (.ok (obligingBase ++ key)), objects.put key content)
  | .save _ _ => (.ok (), objects)
  | .transform content _ => (.ok ⟨content, .png, 1, 1⟩, objects)
  | .schedule _ => ((), objects)
  | .elapsed => (.ofSeconds 0, objects)
  | .note _ => ((), objects)

theorem oblige_allowed (objects : ObjectMap) (r : JobRequest) :
    aroundJobs.Allows objects r (objects.oblige r).1 (objects.oblige r).2 := by
  cases r with
  | download key =>
    cases h : objects.get? key with
    | none => simp [aroundJobs, AllowsJob, oblige, h]
    | some content => simp [aroundJobs, AllowsJob, oblige, h]
  | _ => rfl

def obligeCleanup (objects : ObjectMap) : (r : CleanupRequest) → r.Answer × ObjectMap
  | .removeFile _ => (.ok (), objects)
  | .deleteObject key => (.ok (), objects.erase key)
  | .note _ => ((), objects)

theorem obligeCleanup_allowed (objects : ObjectMap) (r : CleanupRequest) :
    aroundCleanups.Allows objects r (objects.obligeCleanup r).1 (objects.obligeCleanup r).2 := by
  cases r <;> rfl

end ObjectMap

/-- A job that asks to turn the picture under a key by a right angle. -/
def turnJob (sourceKey : String) : Job where
  id := "job-1"
  userId := "user-1"
  fileName := none
  sourceKey := sourceKey
  publicUrl := none
  status := none
  transformationType := TransformationKind.rotate.name
  transformationParameters := some "\x7b\"degree\":90\x7d"
  storedUrl := none
  createdAt := none

def turnDelivery (sourceKey : String) : Bytes :=
  Envelope.toJson ⟨"image_processing", turnJob sourceKey⟩

theorem eq_ok_of_toOption_eq_some {ε α : Type} {result : Except ε α} {a : α}
    (h : result.toOption = some a) : result = .ok a := by
  cases result with
  | ok b => exact congrArg Except.ok (Option.some.inj h)
  | error e => exact absurd h (Option.some_ne_none a).symm

theorem parse_turnDelivery :
    Envelope.parse (turnDelivery "raw/a.png") = .ok ⟨"image_processing", turnJob "raw/a.png"⟩ :=
  eq_ok_of_toOption_eq_some (by decide +kernel)

/-- A pipeline that stages below the working directory. -/
def localPipeline : Pipeline := ⟨⟨⟨"raw"⟩, ⟨"processed"⟩⟩, .ofOperation ""⟩

/-- The cleanup of a job that turns the picture `a.png` of a folder. -/
def turnCleanup (sourceKey : String) : CleanupTask :=
  ⟨.cleanupAll, sourceKey, some (localPipeline.staging.rawRoot.join sourceKey),
    some (localPipeline.staging.processedRoot.join "processed/a.png")⟩

/-- The way of this delivery with given answers, where a source object of one octet is stored. -/
def turn (sourceKey : String) (answer : ObjectMap → (r : JobRequest) → r.Answer × ObjectMap) :
    JobTrace × ObjectMap × Outcome :=
  (localPipeline.process (turnDelivery sourceKey)).replies answer ⟨[(sourceKey, [1])]⟩

theorem turn_runs (sourceKey : String)
    (answer : ObjectMap → (r : JobRequest) → r.Answer × ObjectMap) :
    (localPipeline.process (turnDelivery sourceKey)).Runs (turn sourceKey answer).1
      (turn sourceKey answer).2.2 :=
  Program.runs_replies answer _ _

theorem turn_runs_in_store (sourceKey : String) :
    ObjectMap.aroundJobs.Runs ⟨[(sourceKey, [1])]⟩ (localPipeline.process (turnDelivery sourceKey))
      (turn sourceKey ObjectMap.oblige).1 (turn sourceKey ObjectMap.oblige).2.1
      (turn sourceKey ObjectMap.oblige).2.2 :=
  Surroundings.runs_replies ObjectMap.oblige_allowed _ _

end ImageWorker
