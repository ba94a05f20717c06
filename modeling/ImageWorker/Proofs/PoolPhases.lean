import ImageWorker.Proofs.PoolCourse

/-!
# The phases of a pool

A pool first establishes the link for statuses, and gives up if shutdown comes before that. Then
it starts its consumers one by one, waits for shutdown and for the consumers, takes the link out of
its place and closes it, and waits for cleanups. `PoolPhase` is how far it has got,
`PoolPhase.Allows` is what it may do there, and no turn of a pool does anything else, whatever it is
answered.
-/

namespace ImageWorker

open Surroundings

def PublisherRequest.isPrompt : PublisherRequest → Bool
  | broker (.note _) | release _ => true
  | _ => false

/-- What may be asked while the link is established; the states say whether it is. -/
inductive SetsUp : Bool → (r : PublisherRequest) → r.Answer → Bool → Prop where
  | tries {r : PublisherRequest} {a : r.Answer} : r ≠ .setEstablished → SetsUp false r a false
  | sets : SetsUp false .setEstablished () true
  | finishes {r : PublisherRequest} {a : r.Answer} : r.isPrompt = true → SetsUp true r a true

def settingUp : Surroundings PublisherRequest PublisherRequest.Answer Bool where
  Allows := SetsUp
  Drifts before after := after = before

/-- The link is established if the attempt says so. -/
def SetUp (established : Bool) (result : Except QueueError Unit) : Prop :=
  established = true ↔ result = .ok ()

namespace StatusRoute

open PublisherProgram

variable {r : StatusRoute}

theorem ofLink_setsUp {α : Type} (p : LinkProgram α) :
    settingUp.Conforms (fun established _ => established = false) false (ofLink p) := by
  induction p with
  | done a => rfl
  | ask r k ih => exact fun answer => ⟨false, .tries nofun, ih answer⟩

theorem ready_setsUp (line : LogLine) :
    settingUp.Conforms SetUp false
      (.ask .setEstablished fun _ => (log line).bind fun _ => .done (.ok ())) := by
  refine fun _ => ⟨true, .sets, fun _ => ⟨true, .finishes rfl, ?_⟩⟩
  exact iff_of_true rfl rfl

theorem openInPlace_setsUp : settingUp.Conforms SetUp false r.openInPlace := by
  refine (ofLink_setsUp _).bind ?_
  rintro _ (e | link) rfl
  · exact iff_of_false Bool.false_ne_true (by rintro ⟨⟩)
  refine fun _ => ⟨false, .tries nofun, fun previous => ⟨false, .tries nofun, fun _ => ?_⟩⟩
  refine ⟨false, .tries nofun, ?_⟩
  cases previous with
  | none => exact ready_setsUp _
  | some old => exact fun _ => ⟨false, .tries nofun, ready_setsUp _⟩

theorem establish_setsUp : settingUp.Conforms SetUp false r.establish := by
  refine fun _ => ⟨false, .tries nofun, openInPlace_setsUp.bind ?_⟩
  intro established result setUp
  cases established with
  | true => exact fun _ => ⟨true, .finishes rfl, setUp⟩
  | false => exact fun _ => ⟨false, .tries nofun, setUp⟩

end StatusRoute

inductive PoolPhase where
  /-- There is nothing to do. -/
  | refused
  | opening
  /-- Shutdown came before there was a link. -/
  | leaving
  /-- There is a link, and some consumers were started. -/
  | serving (started : List Consumer)
  | stopping
  /-- The consumers ended, or were given up. -/
  | joined (ended : Bool)
  /-- The link was taken out of its place, if there was one. -/
  | taken (ended : Bool) (found : Option LinkId)
  | closed (ended : Bool)
  | draining (ended : Bool)
  /-- No cleanup was pending. -/
  | idle (ended : Bool)
  /-- The time for cleanups is over. -/
  | overdue (ended : Bool)
  /-- After an answer that never comes. -/
  | never

namespace PoolPhase

variable {p : WorkerPool}

inductive Allows (p : WorkerPool) : PoolPhase → (r : PoolWork) → r.Answer → PoolPhase → Prop where
  | notes {s : PoolPhase} {n : Note} : Allows p s (.pool (.note n)) () s
  | tries {r : PublisherRequest} {a : r.Answer} :
      r ≠ .setEstablished → Allows p .opening (.establishing (.inTime r)) (some a) .opening
  | sets : Allows p .opening (.establishing (.inTime .setEstablished)) (some ()) (.serving [])
  | givesWay {r : PublisherRequest} :
      Allows p .opening (.establishing (.inTime r)) none .leaving
  | givesBack {lock : PublisherLock} :
      Allows p .leaving (.establishing (.giveBack lock)) () .leaving
  | pauses {delay : Duration} : Allows p .opening (.pool (.pause delay)) (.finished ()) .opening
  | isStopped {delay : Duration} : Allows p .opening (.pool (.pause delay)) .stopped .leaving
  | finishes {r : PublisherRequest} {a : r.Answer} {started : List Consumer} :
      r.isPrompt = true →
        Allows p (.serving started) (.establishing (.inTime r)) (some a) (.serving started)
  | cannot {r : PublisherRequest} {started : List Consumer} :
      r.isPrompt = true → Allows p (.serving started) (.establishing (.inTime r)) none .never
  | spawns {c : Consumer} {started rest : List Consumer} :
      p.consumers = started ++ c :: rest →
        Allows p (.serving started) (.pool (.spawn c)) () (.serving (started ++ [c]))
  | awaits : Allows p (.serving p.consumers) (.pool .awaitShutdown) () .stopping
  | joins {ended : Bool} :
      Allows p .stopping (.pool (.join p.settings.shutdownTimeout)) ended (.joined ended)
  | locks {ended : Bool} :
      Allows p (.joined ended) (.closing (.acquire .place)) () (.joined ended)
  | takes {ended : Bool} {found : Option LinkId} :
      Allows p (.joined ended) (.closing .take) found (.taken ended found)
  | closes {ended : Bool} {link : LinkId} :
      Allows p (.taken ended (some link)) (.closing (.broker (.close link))) () (.closed ended)
  | releases {ended : Bool} :
      Allows p (.closed ended) (.closing (.release .place)) () (.closed ended)
  | leaves {ended : Bool} :
      Allows p (.taken ended none) (.closing (.release .place)) () (.closed ended)
  | settled {ended : Bool} : Allows p (.closed ended) (.pool .pending) (0 : Nat) (.idle ended)
  | unsettled {ended : Bool} {pending : Nat} :
      pending ≠ 0 → Allows p (.closed ended) (.pool .pending) pending (.draining ended)
  | drains {ended : Bool} :
      Allows p (.draining ended) (.pool (.waitIdle p.settings.shutdownTimeout)) true (.idle ended)
  | abandons {ended : Bool} :
      Allows p (.draining ended) (.pool (.waitIdle p.settings.shutdownTimeout)) false
        (.overdue ended)
  | counts {ended : Bool} {pending : Nat} :
      Allows p (.overdue ended) (.pool .pending) pending (.overdue ended)
  | never {r : PoolWork} {a : r.Answer} : Allows p .never r a .never

def Ends : PoolPhase → PoolState ⊕ Except JobError Unit → Prop
  | refused, result => result = .inr (.error (.config .noJobQueues))
  | opening, result => ∃ failures, result = .inl (.establishing failures)
  | leaving, result | idle _, result | overdue _, result => result = .inr (.ok ())
  | never, _ => True
  | _, _ => False

end PoolPhase

def WorkerPool.phases (p : WorkerPool) : Surroundings PoolWork PoolWork.Answer PoolPhase where
  Allows := PoolPhase.Allows p
  Drifts before after := after = before

namespace Workshop

variable {w : Workshop} {α : Type} {s : PoolPhase}

theorem leave_phases (ns : List Note) :
    w.pool.phases.Conforms (fun s' _ => s' = s) s ((WorkerPool.leave ns).translate w.poolWork) := by
  induction ns with
  | nil => rfl
  | cons n ns ih => exact fun _ => ⟨s, .notes, ih⟩

theorem giveUp_phases (locks : List PublisherLock) (left : s = .leaving ∨ s = .never) :
    w.pool.phases.Conforms
      (fun s' (found : Option α) => (s' = .leaving ∨ s' = .never) ∧ found = none) s
      ((TimedProgram.giveUp locks).translate fun r => .ask (.establishing r) .done) := by
  induction locks with
  | nil => exact ⟨left, rfl⟩
  | cons lock locks ih =>
    intro answer
    rcases left with rfl | rfl
    · exact ⟨_, .givesBack, ih⟩
    · exact ⟨_, .never, ih⟩

def settingUpPhase : Bool → PoolPhase
  | false => .opening
  | true => .serving []

theorem ofPublisher_phases {ends : Bool → α → Prop} {established : Bool}
    (locks : List PublisherLock) {q : PublisherProgram α}
    (conforms : settingUp.Conforms ends established q) :
    w.pool.phases.Conforms
      (fun s' (found : Option α) =>
        (∃ a established', found = some a ∧ ends established' a ∧
            s' = settingUpPhase established') ∨
          (s' = .leaving ∨ s' = .never) ∧ found = none)
      (settingUpPhase established)
      ((TimedProgram.ofPublisher locks q).translate fun r => .ask (.establishing r) .done) := by
  induction q generalizing established locks with
  | done a => exact .inl ⟨a, established, rfl, conforms, rfl⟩
  | ask r k ih =>
    rw [TimedProgram.ofPublisher]
    rintro (_ | answer)
    · -- What is asked is allowed for any answer; here none was waited for.
      obtain ⟨answer⟩ := r.nonempty_answer
      obtain ⟨_, allowed, _⟩ := conforms answer
      cases established with
      | false => exact ⟨_, .givesWay, (giveUp_phases _ (.inl rfl)).mono fun _ _ => .inr⟩
      | true =>
        cases allowed with
        | finishes prompt =>
          exact ⟨_, .cannot prompt, (giveUp_phases _ (.inr rfl)).mono fun _ _ => .inr⟩
    · obtain ⟨established', allowed, rest⟩ := conforms answer
      have rest := ih answer (r.heldAfter locks) rest
      cases allowed with
      | tries other => exact ⟨_, .tries other, rest⟩
      | sets => exact ⟨_, .sets, rest⟩
      | finishes prompt => exact ⟨_, .finishes prompt, rest⟩

theorem spawnAll_phases {started rest : List Consumer} (cs : List Consumer)
    (consumers : w.pool.consumers = started ++ (cs ++ rest)) :
    w.pool.phases.Conforms (fun s _ => s = .serving (started ++ cs)) (.serving started)
      ((WorkerPool.spawnAll cs).translate w.poolWork) := by
  induction cs generalizing started with
  | nil => exact (congrArg PoolPhase.serving (List.append_nil started)).symm
  | cons c cs ih =>
    refine fun _ => ⟨_, .spawns consumers, (ih ?_).mono ?_⟩
    · rw [consumers, List.append_assoc]
      rfl
    · rintro s _ rfl
      rw [List.append_assoc]
      rfl

theorem spawnQueues_phases {started : List Consumer} (queues : List WorkQueue)
    (consumers : w.pool.consumers = started ++ queues.flatMap w.pool.consumersOf) :
    w.pool.phases.Conforms (fun s _ => s = .serving w.pool.consumers) (.serving started)
      ((w.pool.spawnQueues queues).translate w.poolWork) := by
  induction queues generalizing started with
  | nil =>
    rw [List.flatMap_nil, List.append_nil] at consumers
    exact congrArg PoolPhase.serving consumers.symm
  | cons q queues ih =>
    rw [List.flatMap_cons] at consumers
    refine (leave_phases _).translate_bind ?_
    rintro _ _ rfl
    refine (spawnAll_phases _ consumers).translate_bind ?_
    rintro _ _ rfl
    exact ih (by rw [consumers, List.append_assoc])

/-- The link is closed while its place is locked. -/
theorem shut_phases (ended : Bool) :
    w.pool.phases.Conforms (fun s _ => s = .closed ended) (.joined ended)
      (StatusRoute.shut.translate fun r => .ask (.closing r) .done) := by
  refine fun _ => ⟨_, .locks, ?_⟩
  rintro (_ | link)
  · exact ⟨_, .takes, fun _ => ⟨_, .leaves, rfl⟩⟩
  · exact ⟨_, .takes, fun _ => ⟨_, .closes, fun _ => ⟨_, .releases, rfl⟩⟩⟩

/-- What is left of a pool is to end well. -/
def Drained (s : PoolPhase) (_ : Unit) : Prop := ∃ ended, s = .idle ended ∨ s = .overdue ended

theorem drainCleanups_phases (ended : Bool) :
    w.pool.phases.Conforms Drained (.closed ended) (w.pool.drainCleanups.translate w.poolWork) := by
  intro (pending : Nat)
  show ∃ s, _ ∧ w.pool.phases.Conforms Drained s
    (Program.translate w.poolWork (if pending = 0 then _ else _))
  split
  next none =>
    subst none
    exact ⟨_, .settled, ended, .inl rfl⟩
  next some =>
    refine ⟨_, .unsettled some, ?_⟩
    refine (leave_phases _).translate_bind ?_
    rintro _ _ rfl (_ | _)
    · exact ⟨_, .abandons, fun left => ⟨_, .counts, fun _ => ⟨_, .notes, ended, .inr rfl⟩⟩⟩
    · exact ⟨_, .drains, ended, .inl rfl⟩

/-- From the end of the consumers on. -/
theorem finish_phases (ended : Bool) :
    w.pool.phases.Conforms PoolPhase.Ends (.joined ended)
      (Program.translate w.poolWork (.ask .shutStatus fun _ => do
        w.pool.drainCleanups
        WorkerPool.say "Worker pool stopped" []
        return .inr (.ok ()))) := by
  refine (shut_phases ended).bind ?_
  rintro _ _ rfl
  refine (drainCleanups_phases ended).translate_bind ?_
  rintro s _ ⟨ended', phase⟩
  refine (leave_phases _).translate_bind ?_
  rintro _ _ rfl
  rcases phase with rfl | rfl <;> rfl

theorem serve_phases :
    w.pool.phases.Conforms PoolPhase.Ends (.serving []) (w.pool.serve.translate w.poolWork) := by
  refine (spawnQueues_phases _ rfl).translate_bind ?_
  rintro _ _ rfl
  refine fun _ => ⟨_, .awaits, ?_⟩
  refine (leave_phases _).translate_bind ?_
  rintro _ _ rfl (_ | _)
  · refine ⟨_, .joins, (leave_phases _).translate_bind ?_⟩
    rintro _ _ rfl
    exact finish_phases false
  · exact ⟨_, .joins, finish_phases true⟩

theorem giveUpPool_phases :
    w.pool.phases.Conforms PoolPhase.Ends .leaving (WorkerPool.giveUp.translate w.poolWork) := by
  refine (leave_phases _).translate_bind ?_
  rintro _ _ rfl
  rfl

theorem never_phases (p : PoolRun) : w.pool.phases.Conforms PoolPhase.Ends .never p := by
  induction p with
  | done a => trivial
  | ask r k ih => exact fun answer => ⟨_, .never, ih answer⟩

def Attempted (s : PoolPhase) : Race (Except QueueError Unit) → Prop
  | .stopped => s = .leaving ∨ s = .never
  | .finished (.ok _) => s = .serving []
  | .finished (.error _) => s = .opening

theorem attempt_phases : w.pool.phases.Conforms Attempted .opening (w.poolWork .establish) := by
  refine (ofPublisher_phases [] StatusRoute.establish_setsUp).bind ?_
  rintro s _ (⟨result, established, rfl, setUp, rfl⟩ | ⟨left, rfl⟩)
  · cases established with
    | true =>
      obtain rfl := setUp.mp rfl
      rfl
    | false =>
      cases result with
      | ok => exact absurd (setUp.mpr rfl) Bool.false_ne_true
      | error e => rfl
  · exact left

theorem establish_phases (failures : FailureStreak) :
    w.pool.phases.Conforms PoolPhase.Ends .opening
      ((w.pool.establish failures).translate w.poolWork) := by
  refine attempt_phases.bind ?_
  rintro s ((e | ⟨⟩) | _) attempted
  · obtain rfl : s = .opening := attempted
    refine (leave_phases _).translate_bind ?_
    rintro _ _ rfl (⟨⟩ | _)
    · exact ⟨_, .pauses, _, rfl⟩
    · exact ⟨_, .isStopped, giveUpPool_phases⟩
  · obtain rfl : s = .serving [] := attempted
    refine (leave_phases _).translate_bind ?_
    rintro _ _ rfl
    exact serve_phases
  · rcases attempted with rfl | rfl
    · exact giveUpPool_phases
    · exact never_phases _

def beginning (p : WorkerPool) : PoolPhase :=
  if p.broker.totalWorkers = 0 then .refused else .opening

theorem fresh_phases :
    w.pool.phases.Conforms PoolPhase.Ends (beginning w.pool) (w.poolTurn .fresh) := by
  unfold beginning
  show w.pool.phases.Conforms _ _ (Program.translate w.poolWork
    (if w.pool.broker.totalWorkers = 0 then _ else _))
  split
  · rfl
  · exact ⟨_, rfl⟩

end Workshop

end ImageWorker
