import ImageWorker.Flow.Shutdown
import ImageWorker.Proofs.Conformance
import ImageWorker.Proofs.JobCargo

/-!
# Jobs that shutdown meets

A job asks whether shutdown has fired before each storage call, so it starts none afterwards. A job
that begins after shutdown ends at its announcement or right behind it, and a job whose result is
uploaded does not look at the signal any more.
-/

namespace ImageWorker

open JobTrace Pipeline

namespace JobExchange

/-- The question whether shutdown has fired, answered in the negative. -/
def clears : JobExchange → Bool
  | ⟨.isStopping, (stopping : Bool)⟩ => !stopping
  | _ => false

end JobExchange

/-- Storage calls come right after such an answer; the state says whether the last exchange was
one. -/
def checkedCalls : Surroundings JobRequest JobRequest.Answer Bool where
  Allows before r answer after :=
    (r.isStorageCall = true → before = true) ∧ after = JobExchange.clears ⟨r, answer⟩
  Drifts before after := after = before

/-- A program that makes its storage calls only after such an answer. -/
def Heeds {α : Type} (p : JobProgram α) : Prop :=
  ∀ clear, checkedCalls.Conforms (fun _ _ => True) clear p

variable {α β : Type}

theorem heeds_done (a : α) : Heeds (.done a) := fun _ => trivial

theorem heeds_ask {r : JobRequest} {k : r.Answer → JobProgram α} (other : r.isStorageCall = false)
    (rest : ∀ answer, Heeds (k answer)) : Heeds (.ask r k) := by
  intro clear answer
  have free : r.isStorageCall = true → clear = true := by simp [other]
  exact ⟨_, ⟨free, rfl⟩, rest answer _⟩

theorem Heeds.bind {p : JobProgram α} {f : α → JobProgram β} (first : Heeds p)
    (rest : ∀ a, Heeds (f a)) : Heeds (p.bind f) :=
  fun clear => (first clear).bind fun clear' a _ => rest a clear'

namespace Pipeline

/-- One storage call, once its way is clear. -/
def OneCall (attempt : JobProgram α) : Prop :=
  ∀ (β : Type) (k : α → JobProgram β), (∀ a, Heeds (k a)) →
    checkedCalls.Conforms (fun _ _ => True) true (attempt.bind k)

theorem oneCall_ask (r : JobRequest) : OneCall (.ask r .done : JobProgram r.Answer) :=
  fun _ _ rest answer => ⟨_, ⟨fun _ => rfl, rfl⟩, rest answer _⟩

variable {attempt : JobProgram (Race (Except StorageError α))}

theorem heeds_attemptOnce (call : OneCall attempt) {made : Nat}
    {next : StorageError → Program RetryRequest (RetryRequest.Answer StorageError α)
      (RetryOutcome StorageError α)}
    (later : ∀ e, Heeds ((next e).translate (storageCall attempt))) :
    Heeds ((attemptOnce made next).translate (storageCall attempt)) := by
  intro clear (stopping : Bool)
  refine ⟨!stopping, ⟨Bool.false_ne_true.elim, rfl⟩, ?_⟩
  cases stopping with
  | true => exact heeds_done _ _
  | false =>
    refine call _ _ fun answer => ?_
    match answer with
    | .stopped => exact heeds_done _
    | .finished (.ok value) => exact heeds_done _
    | .finished (.error e) => exact later e

theorem heeds_retryFrom (call : OneCall attempt) (text : StorageError → String) (p : RetryPolicy)
    (made left : Nat) : Heeds ((retryFrom text p made left).translate (storageCall attempt)) := by
  induction left generalizing made with
  | zero => exact heeds_attemptOnce call fun e => heeds_done _
  | succ left ih =>
    refine heeds_attemptOnce call fun e => ?_
    refine heeds_ask rfl fun _ => heeds_ask rfl fun _ => heeds_ask rfl fun paused => ?_
    cases paused with
    | stopped => exact heeds_done _
    | finished => exact ih (made + 1)

theorem heeds_withRetry (call : OneCall attempt) (p : Pipeline) (operation what : String) :
    Heeds (p.withRetry operation what attempt) := by
  refine (heeds_retryFrom call _ _ 0 _).bind fun outcome => ?_
  match outcome with
  | .success value => exact heeds_done _
  | .failed e attempts => exact heeds_ask rfl fun _ => heeds_done _
  | .cancelled attempts => exact heeds_done _

theorem heeds_settle (event : StatusEvent) (published : Except QueueError Unit) :
    Heeds (settle event published) := by
  unfold settle
  split
  · exact heeds_done _
  · dsimp only
    split
    · exact heeds_ask rfl fun _ => heeds_done _
    · exact heeds_ask rfl fun _ => heeds_done _

theorem heeds_publish (event : StatusEvent) : Heeds (publish event) :=
  heeds_ask rfl (heeds_settle event)

theorem heeds_note (n : Note) : Heeds (note n) := heeds_ask rfl fun _ => heeds_done _

theorem heeds_fail (job : Job) (stage : Stage) (rawPath resultPath : Option Path) (e : JobError) :
    Heeds (fail job stage rawPath resultPath e) := by
  refine (heeds_note _).bind fun _ => (heeds_note _).bind fun _ => ?_
  refine (heeds_publish _).bind fun published => heeds_ask rfl fun _ => ?_
  cases published <;> exact heeds_done _

theorem heeds_stage (place : Except KeyFault Path) (content : Bytes) :
    Heeds (stage place content) := by
  cases place with
  | error why => exact heeds_done _
  | ok path =>
    refine heeds_ask rfl fun answer => ?_
    match answer with
    | .ok () => exact heeds_done _
    | .error e => exact heeds_done _

theorem heeds_transform (job : Job) (raw : Bytes) : Heeds (transform job raw) := by
  unfold transform
  split
  · exact heeds_done _
  · refine heeds_ask rfl fun answer => ?_
    match answer with
    | .ok image => exact heeds_done _
    | .error e => exact heeds_done _

theorem heeds_upload (p : Pipeline) (key : String) (image : TransformedImage) :
    Heeds (p.upload key image) := by
  refine (heeds_stage _ _).bind fun staged => ?_
  cases staged with
  | error e => exact heeds_done _
  | ok path => exact heeds_withRetry (oneCall_ask _) p _ _

theorem heeds_finish (job : Job) (key url : String) (rawPath resultPath : Option Path) :
    Heeds (finish job key url rawPath resultPath) := by
  refine (heeds_publish _).bind fun published => heeds_ask rfl fun _ => ?_
  cases published with
  | error e => exact heeds_done _
  | ok =>
    exact heeds_ask rfl fun _ => heeds_ask rfl fun _ => heeds_ask rfl fun _ => heeds_done _

theorem heeds_fromStaged (p : Pipeline) (job : Job) (raw : Bytes) (rawPath : Path) :
    Heeds (p.fromStaged job raw rawPath) := by
  refine (heeds_note _).bind fun _ => (heeds_transform job raw).bind fun transformed => ?_
  match transformed with
  | .error e => exact heeds_fail _ _ _ _ _
  | .ok (t, image) =>
    refine (heeds_note _).bind fun _ => ?_
    split
    · exact heeds_fail _ _ _ _ _
    · refine (heeds_upload p _ image).bind fun uploaded => ?_
      split
      · exact heeds_finish _ _ _ _ _
      · exact heeds_ask rfl fun _ => heeds_done _
      · exact heeds_fail _ _ _ _ _

theorem heeds_fromAnnounced (p : Pipeline) (job : Job) : Heeds (p.fromAnnounced job) := by
  refine (heeds_withRetry (oneCall_ask _) p _ _).bind fun downloaded => ?_
  split
  · exact heeds_done _
  · exact heeds_fail _ _ _ _ _
  · refine (heeds_stage _ _).bind fun staged => ?_
    cases staged with
    | error e => exact heeds_fail _ _ _ _ _
    | ok rawPath => exact heeds_fromStaged p job _ rawPath

theorem heeds_fromStarted (p : Pipeline) (job : Job) : Heeds (p.fromStarted job) := by
  refine heeds_ask rfl fun answer => ?_
  match answer with
  | .stopped => exact heeds_done _
  | .finished published =>
    refine (heeds_settle _ published).bind fun settled => ?_
    cases settled with
    | error e => exact heeds_done _
    | ok => exact heeds_fromAnnounced p job

theorem heeds_process (p : Pipeline) (body : Bytes) : Heeds (p.process body) := by
  unfold process
  split
  · exact heeds_done _
  · refine (heeds_note _).bind fun _ => (heeds_note _).bind fun _ => ?_
    split
    · exact (heeds_note _).bind fun _ => heeds_fromStarted p _
    · exact heeds_fromStarted p _

end Pipeline

namespace Signal

def Leads (before after : Signal) : Prop :=
  after = before ∨ after = before.trigger ∨ after = before.drop

/-- What a job can hear of the signal: it is told of it when it asks, and what gives way to
shutdown does so only once it has fired. -/
def AllowsJob (before : Signal) : (r : JobRequest) → r.Answer → Signal → Prop
  | .isStopping, stopping, after => stopping = before.isTriggered ∧ after = before
  | .pause _, .stopped, after => before.Leads after ∧ after = .fired
  | .announceUnlessStopped _, .stopped, after => before.Leads after ∧ after = .fired
  | .download _, .stopped, after => before.Leads after ∧ after = .fired
  | .upload _ _ _, .stopped, after => before.Leads after ∧ after = .fired
  | _, _, after => before.Leads after

/-- The signal as jobs meet it. It does not change between a question for it and the exchange that
follows. -/
def aroundJobs : Surroundings JobRequest JobRequest.Answer Signal where
  Allows := AllowsJob
  Drifts := Leads

variable {before after s : Signal} {trace : JobTrace} {clear : Bool}

theorem eq_fired_of_leads (leads : Leads .fired after) : after = .fired := by
  rcases leads with rfl | rfl | rfl <;> rfl

theorem AllowsJob.leads {x : JobExchange} (allowed : AllowsJob before x.request x.answer after) :
    before.Leads after := by
  obtain ⟨r, answer⟩ := x
  cases r with
  | isStopping => exact .inl allowed.2
  | pause | announceUnlessStopped | download | upload =>
    cases answer with
    | stopped => exact allowed.1
    | finished => exact allowed
  | _ => exact allowed

/-- An answer that clears the way is given as long as the signal has not fired. -/
theorem AllowsJob.not_fired_of_clears {x : JobExchange}
    (allowed : AllowsJob before x.request x.answer after) (clears : x.clears = true) :
    after ≠ .fired := by
  obtain ⟨r, answer⟩ := x
  cases r with
  | isStopping =>
    obtain ⟨rfl, rfl⟩ := allowed
    rintro rfl
    cases clears
  | _ => exact absurd clears Bool.false_ne_true

/-- Where the way is clear, the signal has not fired. -/
theorem not_fired_of_follows {clear' : Bool} (checked : checkedCalls.Follows clear trace clear')
    (follows : aroundJobs.Follows before trace after) (start : clear = true → before ≠ .fired) :
    clear' = true → after ≠ .fired := by
  induction checked generalizing before with
  | start =>
    cases follows
    exact start
  | @step _ _ _ r answer _ allowed _ ih =>
    cases follows with
    | step allowed' later =>
      refine ih later ?_
      rw [allowed.2]
      exact AllowsJob.not_fired_of_clears (x := ⟨r, answer⟩) allowed'

/-- After the signal has fired no storage call is started. -/
theorem storageCalls_eq_nil_of_fired {clear' : Bool}
    (checked : checkedCalls.Follows clear trace clear')
    (follows : aroundJobs.Follows .fired trace after) (start : clear = false) :
    storageCalls trace = [] := by
  induction checked with
  | start => rfl
  | @step clear clear₁ _ r answer rest allowed _ ih =>
    cases follows with
    | @step _ s _ _ _ _ allowed' later =>
      have leads := AllowsJob.leads (x := ⟨r, answer⟩) allowed'
      obtain rfl := eq_fired_of_leads leads
      have blocked : clear₁ = false := by
        rw [allowed.2]
        refine Bool.eq_false_iff.mpr fun clears => ?_
        exact AllowsJob.not_fired_of_clears (x := ⟨r, answer⟩) allowed' clears rfl
      have other : r.isStorageCall = false := by
        refine Bool.eq_false_iff.mpr fun call => ?_
        rw [start] at allowed
        exact Bool.false_ne_true (allowed.1 call)
      have rest_nil := ih later blocked
      rw [storageCalls, List.filter_cons_of_neg (by simp [other])]
      exact rest_nil

end Signal

namespace Pipeline

variable {p : Pipeline} {job : Job} {trace rest : JobTrace} {outcome : Outcome}

/-- A storage call that is not given up makes an attempt. -/
theorem Tries.attempted {α : Type} {exchange : Race (Except StorageError α) → JobExchange}
    {result : Except JobError α} (tried : Tries exchange trace result)
    (other : result ≠ .error .cancelled) : ∃ answer, exchange answer ∈ trace := by
  cases tried with
  | success => exact ⟨_, List.mem_append_right _ List.mem_cons_self⟩
  | failed => exact ⟨_, List.mem_append_right _ List.mem_cons_self⟩
  | stopped => exact absurd rfl other

theorem storageCalls_ne_nil {x : JobExchange} (mem : x ∈ trace)
    (call : x.request.isStorageCall = true) : storageCalls trace ≠ [] :=
  List.ne_nil_of_mem (List.mem_filter.mpr ⟨mem, call⟩)

/-- Past its announcement a job has made a storage call. -/
theorem Passes.storageCalls_ne_nil {m : Milestone} (passed : Passes p job trace m)
    (later : m ≠ .announced) (rest : JobTrace) : storageCalls (trace ++ rest) ≠ [] := by
  induction passed generalizing rest with
  | announced => exact absurd rfl later
  | downloaded _ tried =>
    obtain ⟨answer, mem⟩ := tried.attempted nofun
    exact Pipeline.storageCalls_ne_nil
      (List.mem_append_left rest (List.mem_append_right _ mem)) rfl
  | staged _ _ ih | transformed _ _ ih | resultStaged _ _ _ ih | uploaded _ _ ih =>
    rw [List.append_assoc]
    exact ih nofun _

theorem Fails.storageCalls_ne_nil {stage : Stage} {rawPath resultPath : Option Path} {e : JobError}
    (failed : Fails p job trace stage rawPath resultPath e) (rest : JobTrace) :
    storageCalls (trace ++ rest) ≠ [] := by
  cases failed with
  | download passed tried =>
    obtain ⟨answer, mem⟩ := tried.attempted nofun
    exact Pipeline.storageCalls_ne_nil
      (List.mem_append_left rest (List.mem_append_right _ mem)) rfl
  | rawKey passed | request passed | deriveKey passed | resultKey passed =>
    exact passed.storageCalls_ne_nil nofun rest
  | rawFile passed | transform passed | resultFile passed | upload passed =>
    rw [List.append_assoc]
    exact passed.storageCalls_ne_nil nofun _

/-- A job without a storage call is stopped or could not be announced, and leaves nothing. -/
theorem Ends.of_no_calls (ends : Ends p job trace outcome) (none : storageCalls trace = []) :
    (outcome = .error .cancelled ∨ ∃ e, e.errorClass = .fatal ∧
      ⟨.announceUnlessStopped (.processing job), .finished (.error e)⟩ ∈ trace ∧
      outcome = .error (.publishFailed e)) ∧ verdicts trace = [] ∧ tasks trace = [] := by
  have unfinished : (StatusEvent.processing job).status.isTerminal = false := rfl
  cases ends with
  | @unannounced before after published e quiet quietAfter fatal =>
    obtain ⟨rfl, class_eq⟩ := fatal?_eq_some_iff.mp fatal
    refine ⟨.inr ⟨e, class_eq, by simp, rfl⟩, ?_, ?_⟩
    · rw [verdicts, ← announcements_effects, effects_announcement job quiet quietAfter]
      rfl
    · rw [← tasks_effects, effects_announcement job quiet quietAfter]
      rfl
  | @stopped first files stopped =>
    obtain ⟨announced, untouched⟩ := stopped.shown
    refine ⟨.inl rfl, ?_, ?_⟩
    · rw [verdicts, announcements_append, announced, announcements_scheduled]
      rfl
    · rw [tasks_append, untouched, tasks_scheduled, List.nil_append]
      cases stopped with
      | announcing | downloading => rfl
      | uploading passed tried =>
        rw [List.append_assoc] at none
        exact absurd none (passed.storageCalls_ne_nil (by simp) _)
  | failed failed closes => exact absurd none (failed.storageCalls_ne_nil _)
  | processed passed closes => exact absurd none (passed.storageCalls_ne_nil (by simp) _)

/-- The one exchange that stores something cuts a trace in one way only. -/
theorem cut_eq_of_stored {first last before after : JobTrace} {x y : JobExchange}
    (same : first ++ x :: last = before ++ y :: after) (stores : x.stored? ≠ none)
    (noneBefore : stored before = []) (noneAfter : stored after = []) :
    first = before ∧ x = y ∧ last = after := by
  have not_before : x ∉ before := fun mem =>
    stores (List.filterMap_eq_nil_iff.mp noneBefore x mem)
  have not_after : x ∉ after := fun mem =>
    stores (List.filterMap_eq_nil_iff.mp noneAfter x mem)
  rcases List.append_eq_append_iff.mp same with ⟨between, rfl, cut⟩ | ⟨between, rfl, cut⟩
  · cases between with
    | nil =>
      obtain ⟨rfl, rfl⟩ := List.cons.inj cut
      exact ⟨(List.append_nil _).symm, rfl, rfl⟩
    | cons z between =>
      obtain ⟨rfl, _⟩ := List.cons.inj cut
      exact absurd (List.mem_append_right first List.mem_cons_self) not_before
  · cases between with
    | nil =>
      obtain ⟨rfl, rfl⟩ := List.cons.inj cut
      exact ⟨List.append_nil _, rfl, rfl⟩
    | cons z between =>
      obtain ⟨rfl, rfl⟩ := List.cons.inj cut
      exact absurd (List.mem_append_right between List.mem_cons_self) not_after

/-- The exchanges that close a job do not depend on the signal. -/
theorem Closes.ignores_signal {event : StatusEvent} {published : Except QueueError Unit}
    {task : CleanupTask} (closes : Closes event published task trace) {x : JobExchange}
    (mem : x ∈ trace) {now later : Signal} (leads : now.Leads later) :
    Signal.aroundJobs.Allows now x.request x.answer later := by
  obtain ⟨before, between, after, quiet, quietBetween, quietAfter, rfl⟩ := closes
  have of_report {y : JobExchange} (report : y.request.isReport = true) :
      Signal.aroundJobs.Allows now y.request y.answer later := by
    obtain ⟨r, answer⟩ := y
    cases r with
    | note | elapsed => exact leads
    | _ => exact absurd report Bool.false_ne_true
  simp only [List.mem_append, List.mem_cons] at mem
  rcases mem with (mem | rfl | mem) | rfl | mem
  · exact of_report (quiet x mem)
  · exact leads
  · exact of_report (quietBetween x mem)
  · exact leads
  · exact of_report (quietAfter x mem)

/-- What follows a successful upload: the job is closed as processed. -/
theorem Ends.after_upload (ends : Ends p job trace outcome) {first last : JobTrace}
    {key type url : String} {content : Bytes}
    (cut : trace = first ++ ⟨.upload key content type, .finished (.ok url)⟩ :: last) :
    ∃ published rawPath resultPath,
      Closes (.processed job url) published
        ⟨.cleanupAll, job.sourceKey, some rawPath, some resultPath⟩ last ∧
      outcome = concluded published (.ok ⟨job.id, key, url⟩) := by
  have stores : (key, url) ∈ stored trace := by simp [cut, stored, JobExchange.stored?]
  cases ends with
  | @unannounced before after published _ quiet quietAfter =>
    have idle : Idle
        (before ++ ⟨.announceUnlessStopped (.processing job), .finished published⟩ :: after) := by
      simp [quiet.idle, quietAfter.idle, JobRequest.isCargo]
    rw [idle.stored_eq] at stores
    cases stores
  | @stopped _ files stopped =>
    obtain ⟨_, _, carries⟩ := stopped.carried
    rw [stored_append, carries.stored_eq, (idle_scheduled (localCleanup job files)).stored_eq]
      at stores
    cases stores
  | failed failed closes =>
    obtain ⟨_, _, carries⟩ := failed.carried
    rw [stored_append, carries.stored_eq, closes.idle.stored_eq] at stores
    cases stores
  | @processed _ rest rawPath resultPath key' url' image published passed closes =>
    cases passed with
    | @uploaded earlier calls _ _ _ _ _ passed tried =>
      obtain ⟨_, _, _, carries⟩ := passed.carried
      have given := tried.stored_upload
      cases tried with
      | @success before _ on =>
        have noneBefore :
            stored (before.map (storageExchange (uploadExchange key' image))) = [] := by
          have last : stored [uploadExchange key' image (.finished (.ok url'))] = [(key', url')] :=
            rfl
          rw [stored_append, last] at given
          simpa [Except.toOption] using given
        have none : stored
            (earlier ++ before.map (storageExchange (uploadExchange key' image))) = [] := by
          rw [stored_append, carries.stored_eq, noneBefore]
          rfl
        have same : first ++ ⟨.upload key content type, .finished (.ok url)⟩ :: last =
            (earlier ++ before.map (storageExchange (uploadExchange key' image))) ++
              uploadExchange key' image (.finished (.ok url')) :: rest := by
          rw [← cut]
          simp only [List.append_assoc, List.cons_append, List.nil_append]
        have storing :
            JobExchange.stored? ⟨.upload key content type, .finished (.ok url)⟩ ≠ .none :=
          Option.some_ne_none (key, url)
        obtain ⟨_, this, rfl⟩ := cut_eq_of_stored same storing none closes.idle.stored_eq
        cases this
        exact ⟨published, rawPath, resultPath, closes, rfl⟩

end Pipeline

/-- Once shutdown has fired no storage call is started. A job that begins after that is cancelled,
or could not be announced, and leaves nothing behind. And once the upload of a job has succeeded,
the signal has no part any more in how it is reported, cleaned up and concluded. -/
theorem shutdown_stops_storage {p : Pipeline} {body : Bytes} {before after : Signal}
    {trace : JobTrace} {outcome : Outcome}
    (run : Signal.aroundJobs.Runs before (p.process body) trace after outcome) :
    (∀ first rest, trace = first ++ rest → Signal.aroundJobs.Follows before first .fired →
      Signal.aroundJobs.Follows .fired rest after → storageCalls rest = []) ∧
    (∀ envelope, Envelope.parse body = .ok envelope → before = .fired →
      (outcome = .error .cancelled ∨ ∃ e, e.errorClass = .fatal ∧
        ⟨.announceUnlessStopped (.processing envelope.job), .finished (.error e)⟩ ∈ trace ∧
        outcome = .error (.publishFailed e)) ∧
      storageCalls trace = [] ∧ verdicts trace = [] ∧ tasks trace = []) ∧
    ∀ first key content type url rest,
      trace = first ++ ⟨.upload key content type, .finished (.ok url)⟩ :: rest →
      ∃ envelope published rawPath resultPath, Envelope.parse body = .ok envelope ∧
        effects rest = [⟨.announce (.processed envelope.job url), published⟩,
          scheduled ⟨.cleanupAll, envelope.job.sourceKey, some rawPath, some resultPath⟩] ∧
        outcome = concluded published (.ok ⟨envelope.job.id, key, url⟩) ∧
        ∀ x ∈ rest, ∀ now later : Signal, now.Leads later →
          Signal.aroundJobs.Allows now x.request x.answer later := by
  obtain ⟨ran, follows⟩ := Surroundings.runs_iff.mp run
  obtain ⟨_, checked, _⟩ := (heeds_process p body false).follows ran.reaches
  refine ⟨fun first rest cut fired later => ?_, fun envelope accepted already => ?_,
    fun first key content type url rest cut => ?_⟩
  · rw [cut] at checked
    obtain ⟨clear, earlier, checked'⟩ := Surroundings.follows_append_iff.mp checked
    have blocked : clear = false := Bool.eq_false_iff.mpr fun open_ =>
      Signal.not_fired_of_follows earlier fired Bool.false_ne_true.elim open_ rfl
    exact Signal.storageCalls_eq_nil_of_fired checked' later blocked
  · rw [already] at follows
    have none := Signal.storageCalls_eq_nil_of_fired checked follows rfl
    obtain ⟨concludes, unreported, unscheduled⟩ := (ends_of_accepted accepted ran).of_no_calls none
    exact ⟨concludes, none, unreported, unscheduled⟩
  · rcases process_ends ran with ⟨_, _, nothing, _⟩ | ⟨envelope, accepted, ends⟩
    · rw [nothing] at cut
      cases first <;> cases cut
    · obtain ⟨published, rawPath, resultPath, closes, concludes⟩ := ends.after_upload cut
      exact ⟨envelope, published, rawPath, resultPath, accepted, closes.effects_eq, concludes,
        fun x mem now later leads => closes.ignores_signal mem leads⟩

/-- The answers to a job under a signal that stays as it is, where all goes well. -/
def Signal.answerJob (s : Signal) : (r : JobRequest) → r.Answer × Signal
  | .isStopping => (s.isTriggered, s)
  | r => ((ObjectMap.oblige ⟨[("raw/a.png", [1])]⟩ r).1, s)

theorem Signal.answerJob_allowed (s : Signal) (r : JobRequest) :
    Signal.aroundJobs.Allows s r (s.answerJob r).1 (s.answerJob r).2 := by
  cases r with
  | isStopping => exact ⟨rfl, rfl⟩
  | download key =>
    have same : s.Leads s := .inl rfl
    cases h : (ObjectMap.get? ⟨[("raw/a.png", [1])]⟩ key) with
    | none => simpa [Signal.aroundJobs, Signal.AllowsJob, Signal.answerJob, ObjectMap.oblige, h]
    | some => simpa [Signal.aroundJobs, Signal.AllowsJob, Signal.answerJob, ObjectMap.oblige, h]
  | _ => exact .inl rfl

/-- The way of a job under such a signal. -/
def turnUnder (sourceKey : String) (s : Signal) : JobTrace × Signal × Outcome :=
  (localPipeline.process (turnDelivery sourceKey)).replies Signal.answerJob s

theorem turnUnder_runs (sourceKey : String) (s : Signal) :
    Signal.aroundJobs.Runs s (localPipeline.process (turnDelivery sourceKey))
      (turnUnder sourceKey s).1 (turnUnder sourceKey s).2.1 (turnUnder sourceKey s).2.2 :=
  Surroundings.runs_replies Signal.answerJob_allowed _ _

theorem shutdown_stops_storage_of_fired :
    (announcements (turnUnder "raw/a.png" .fired).1).length = 1 ∧
      storageCalls (turnUnder "raw/a.png" .fired).1 = [] ∧
      verdicts (turnUnder "raw/a.png" .fired).1 = [] ∧
      tasks (turnUnder "raw/a.png" .fired).1 = [] := by
  have announced : (announcements (turnUnder "raw/a.png" .fired).1).length = 1 := by
    decide +kernel
  obtain ⟨_, late, _⟩ := shutdown_stops_storage (turnUnder_runs "raw/a.png" .fired)
  obtain ⟨_, nothing⟩ := late _ parse_turnDelivery rfl
  exact ⟨announced, nothing⟩

end ImageWorker
