import ImageWorker.Job.Pipeline

/-!
# What the course of a job shows

Of all that a job asks for, others see only the announcements, the storage calls and the scheduled
cleanups. Notes and the clock are for the operators alone, and local files for the job alone.
-/

namespace ImageWorker

abbrev JobExchange := Program.Exchange JobRequest JobRequest.Answer

abbrev JobTrace := List JobExchange

instance (r : JobRequest) : Nonempty r.Answer := by
  cases r with
  | isStopping => exact ⟨true⟩
  | pause | announceUnlessStopped | download | upload => exact ⟨.stopped⟩
  | announce | save | schedule | note => first | exact ⟨.ok ()⟩ | exact ⟨()⟩
  | transform => exact ⟨.error (.media (.decode ""))⟩
  | elapsed => exact ⟨.ofSeconds 0⟩

namespace JobRequest

def event? : JobRequest → Option StatusEvent
  | announceUnlessStopped event | announce event => some event
  | _ => none

def task? : JobRequest → Option CleanupTask
  | schedule task => some task
  | _ => none

def isStorageCall : JobRequest → Bool
  | download _ | upload _ _ _ => true
  | _ => false

def isEffect (r : JobRequest) : Bool := r.event?.isSome || r.task?.isSome || r.isStorageCall

/-- Whether a request only serves the reports to the operators. -/
def isReport : JobRequest → Bool
  | note _ | elapsed => true
  | _ => false

/-- Whether a request only serves to wait for another attempt. -/
def isWaiting : JobRequest → Bool
  | isStopping | pause _ | note _ => true
  | _ => false

def isTransform : JobRequest → Bool
  | transform _ _ => true
  | _ => false

theorem isEffect_of_isWaiting {r : JobRequest} (h : r.isWaiting = true) : r.isEffect = false := by
  cases r <;> first | rfl | exact absurd h Bool.false_ne_true

theorem isTransform_of_isWaiting {r : JobRequest} (h : r.isWaiting = true) :
    r.isTransform = false := by
  cases r <;> first | rfl | exact absurd h Bool.false_ne_true

theorem isTransform_of_isReport {r : JobRequest} (h : r.isReport = true) :
    r.isTransform = false := by
  cases r <;> first | rfl | exact absurd h Bool.false_ne_true

@[simp] theorem isEffect_announceUnlessStopped (event : StatusEvent) :
    (announceUnlessStopped event).isEffect = true := rfl

@[simp] theorem isEffect_announce (event : StatusEvent) : (announce event).isEffect = true := rfl

@[simp] theorem isEffect_schedule (task : CleanupTask) : (schedule task).isEffect = true := rfl

@[simp] theorem isReport_note (n : Note) : (note n).isReport = true := rfl

@[simp] theorem isReport_elapsed : elapsed.isReport = true := rfl

end JobRequest

namespace JobTrace

def effects (trace : JobTrace) : JobTrace := trace.filter (·.request.isEffect)

/-- The announcements of a job, attempted ones included. -/
def announcements (trace : JobTrace) : List StatusEvent := trace.filterMap (·.request.event?)

/-- The announcements after which nothing is announced any more. -/
def verdicts (trace : JobTrace) : List StatusEvent :=
  (announcements trace).filter (·.status.isTerminal)

def storageCalls (trace : JobTrace) : JobTrace := trace.filter (·.request.isStorageCall)

def tasks (trace : JobTrace) : List CleanupTask := trace.filterMap (·.request.task?)

/-- The scheduled cleanups that remove the source object. -/
def sourceRemovals (trace : JobTrace) : List CleanupTask :=
  (tasks trace).filter (·.mode.removesSource)

/-- A trace that only holds reports to the operators. -/
def Quiet (trace : JobTrace) : Prop := ∀ x ∈ trace, x.request.isReport = true

def Untransformed (trace : JobTrace) : Prop := ∀ x ∈ trace, x.request.isTransform = false

variable {trace first second : JobTrace} {x : JobExchange}

@[simp] theorem effects_nil : effects [] = [] := rfl

@[simp] theorem effects_append : effects (first ++ second) = effects first ++ effects second := by
  simp [effects]

@[simp] theorem announcements_append :
    announcements (first ++ second) = announcements first ++ announcements second := by
  simp [announcements]

@[simp] theorem tasks_append : tasks (first ++ second) = tasks first ++ tasks second := by
  simp [tasks]

theorem effects_cons :
    effects (x :: trace) = if x.request.isEffect then x :: effects trace else effects trace := by
  simp [effects, List.filter_cons]

theorem effects_eq_nil_of_forall (h : ∀ x ∈ trace, x.request.isEffect = false) :
    effects trace = [] := by
  simpa [effects] using h

@[simp] theorem quiet_nil : Quiet [] := by simp [Quiet]

@[simp] theorem quiet_cons_iff :
    Quiet (x :: trace) ↔ x.request.isReport = true ∧ Quiet trace := by
  simp [Quiet]

@[simp] theorem untransformed_append_iff :
    Untransformed (first ++ second) ↔ Untransformed first ∧ Untransformed second := by
  simp only [Untransformed, List.forall_mem_append]

@[simp] theorem untransformed_cons_iff :
    Untransformed (x :: trace) ↔ x.request.isTransform = false ∧ Untransformed trace := by
  simp only [Untransformed, List.forall_mem_cons]

theorem Quiet.untransformed (h : Quiet trace) : Untransformed trace :=
  fun x mem => JobRequest.isTransform_of_isReport (h x mem)

theorem Quiet.effects (h : Quiet trace) : effects trace = [] := by
  refine effects_eq_nil_of_forall fun x hx => ?_
  have report := h x hx
  obtain ⟨r, answer⟩ := x
  cases r <;> first | rfl | simp [JobRequest.isReport] at report

theorem announcements_effects (trace : JobTrace) :
    announcements (effects trace) = announcements trace := by
  induction trace with
  | nil => rfl
  | cons x trace ih =>
    obtain ⟨r, answer⟩ := x
    cases r <;> simpa [effects_cons, announcements, JobRequest.isEffect, JobRequest.event?,
      JobRequest.task?, JobRequest.isStorageCall] using ih

theorem tasks_effects (trace : JobTrace) : tasks (effects trace) = tasks trace := by
  induction trace with
  | nil => rfl
  | cons x trace ih =>
    obtain ⟨r, answer⟩ := x
    cases r <;> simpa [effects_cons, tasks, JobRequest.isEffect, JobRequest.event?,
      JobRequest.task?, JobRequest.isStorageCall] using ih

theorem storageCalls_effects (trace : JobTrace) :
    storageCalls (effects trace) = storageCalls trace := by
  rw [storageCalls, storageCalls, effects, List.filter_filter]
  refine List.filter_congr fun x _ => ?_
  cases h : x.request.isStorageCall <;> simp [JobRequest.isEffect, h]

end JobTrace

end ImageWorker
